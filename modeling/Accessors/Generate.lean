import Accessors.Extract
import Accessors.Plan
import Accessors.Selection

/-!
# Generation

One run over a source file: find the classes, offer those that lack an accessor, plan the edits of
the chosen ones and apply them to the text. Nothing is applied before every edit is planned.

* `Generate.offer`: what is put before the user.
* `Generate.finish`: the run after the answer.
* `generate`: a whole run, the answer given as a function of the request.
-/

namespace Accessors

open Selection (Offer Request Response)

/-- How a run without failure ends. -/
inductive Generation where
  /-- The request was dismissed, or no class was chosen. -/
  | cancelled
  | edited (planned : List PlannedEdit) (edits : List Edit) (output : Text)
  deriving DecidableEq

namespace Generate

/-- What is put before the user for a source file. -/
def offer (source : Text) (options : Options) : Except Failure Offer := do
  Selection.offer options.kinds (← Extract.ofSource options.visibility source)

/-- Plan the edits of the chosen classes and apply them. -/
def applyPlan (source : Text) (options : Options) (chosen : List ClassModel) :
    Except Failure Generation :=
  let d := Document.ofText source
  let planned := Plan.planAll options.kinds options.tabSize d chosen
  let edits := planned.map (PlannedEdit.toEdit d)
  match Edit.applyAll source edits with
  | .ok output => .ok (.edited planned edits output)
  | .error e => .error (.rejectedEdits e)

/-- The run after the answer to the offer. -/
def finish (source : Text) (options : Options) (o : Offer) (response : Response) :
    Except Failure Generation :=
  match Selection.settle o response with
  | .ok [] | .error .selectionCancelled => .ok .cancelled
  | .ok chosen => applyPlan source options chosen
  | .error failure => .error failure

end Generate

/-- A whole run over a source file. -/
def generate (source : Text) (options : Options) (answer : Request → Response) :
    Except Failure Generation := do
  let o ← Generate.offer source options
  Generate.finish source options o (answer o.request)

/-- A run that accepts every class offered. -/
def generateAll (source : Text) (options : Options) : Except Failure Generation :=
  generate source options Selection.acceptPicked

end Accessors
