import Accessors.Generate
import Accessors.Server.Uri

/-!
# Code actions

The actions on a document as an editor is offered them. An editor counts columns in UTF-16 code
units.

* `TextEdit.ofPlanned`: a planned edit in the editor's positions.
* `CodeAction.of?`: what one action does to a document.
* `CodeAction.all`: everything on offer for a document.
-/

namespace Accessors

/-- A replacement in a document, its columns counted in UTF-16 code units. -/
structure TextEdit where
  range : Range
  newText : Text
  deriving DecidableEq, Repr

/-- A planned edit in the editor's positions. -/
def TextEdit.ofPlanned (d : Document) (e : PlannedEdit) : TextEdit :=
  let span := e.insertAt.span
  ⟨⟨d.unitPosition span.start, d.unitPosition span.stop⟩, e.text⟩

/-- An action with the edits it makes in a document. -/
structure CodeAction where
  action : Action
  edits : List TextEdit
  deriving DecidableEq, Repr

/-- What the server applies to every request. -/
structure ServerSettings where
  visibility : Visibility
  tabSize : Nat
  deriving DecidableEq, Repr

namespace CodeAction

/-- What an action does to a document; none when it does nothing. To ask for an action is to
accept every class. -/
def of? (settings : ServerSettings) (source : Text) (action : Action) : Option CodeAction :=
  let d := Document.ofText source
  match generateAll source ⟨action.kinds, settings.visibility, settings.tabSize⟩ with
  | .ok (.edited planned _ _) => some ⟨action, planned.map (TextEdit.ofPlanned d)⟩
  | _ => none

/-- Everything on offer for a document. -/
def all (settings : ServerSettings) (source : Text) : List CodeAction :=
  Action.all.filterMap (of? settings source)

end CodeAction

end Accessors
