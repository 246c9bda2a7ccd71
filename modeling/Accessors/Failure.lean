import Accessors.Edit
import Accessors.Options

/-!
# Why a run ends without edits

* `Failure`: the causes.
* `Failure.message`: the text shown for each.
* `Failure.severity`: how it is shown.
-/

namespace Accessors

/-- How an outcome is shown. -/
inductive Severity where
  | error
  | info
  | silent
  deriving DecidableEq, Repr

/-- Why a run ends without edits. Every cause leaves the document untouched. -/
inductive Failure where
  | noActiveDocument
  | parseFailure
  | noClassesFound
  | noQualifyingProperties (visibility : Visibility)
  | allAlreadyCovered
  | selectionCancelled
  | rejectedEdits (error : EditError)
  deriving DecidableEq, Repr

namespace Failure

/-- The text shown for a failure. -/
def message : Failure → Text
  | .noActiveDocument => "There is no active editor!".toList
  | .parseFailure => "Error on file parsing!".toList
  | .noClassesFound => "No classes found in this file!".toList
  | .noQualifyingProperties visibility =>
    "No ".toList ++ visibility.name ++ " properties found in class!".toList
  | .allAlreadyCovered => "All classes already have getters/setters!".toList
  | .selectionCancelled => "Selection cancelled".toList
  | .rejectedEdits error => "Failed to apply edits: ".toList ++ error.message

/-- How a failure is shown. -/
def severity : Failure → Severity
  | .noActiveDocument | .parseFailure | .noClassesFound | .rejectedEdits _ => .error
  | .noQualifyingProperties _ | .allAlreadyCovered => .info
  | .selectionCancelled => .silent

end Failure

end Accessors
