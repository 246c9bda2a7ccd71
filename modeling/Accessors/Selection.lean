import Accessors.Failure
import Accessors.Model

/-!
# Selection

Choosing which classes get accessors. The classes that lack an accessor are offered as a list of
labels, all of them marked, and the answer is a list of labels or a dismissal.

* `Selection.offer`: the request for a list of classes.
* `Selection.resolve`: from labels back to classes.
* `Selection.settle`: the classes an answer chooses.
-/

namespace Accessors.Selection

/-- One entry of a request. -/
structure Item where
  label : Text
  picked : Bool
  deriving DecidableEq, Repr

/-- What is put before the user. -/
structure Request where
  title : Text
  items : List Item
  deriving DecidableEq, Repr

/-- The answer to a request. -/
inductive Response where
  | accepted (labels : List Text)
  | dismissed
  deriving DecidableEq, Repr

/-- A request together with the classes it is about. -/
structure Offer where
  request : Request
  candidates : List ClassModel

/-- The labels that are marked in a request. -/
def Request.pickedLabels (r : Request) : List Text :=
  (r.items.filter (·.picked)).map (·.label)

/-- The answer that accepts a request as it stands. -/
def acceptPicked (r : Request) : Response := .accepted r.pickedLabels

/-- The request for the classes that lack an accessor. -/
def offer (kinds : Kinds) (classes : List ClassModel) : Except Failure Offer :=
  match classes.filter (·.isCandidate kinds) with
  | [] => .error .allAlreadyCovered
  | candidates => .ok
    { request :=
        { title := "Select classes to generate ".toList ++ kinds.title
          items := candidates.map fun c => ⟨c.name, true⟩ }
      candidates }

/-- The first class of a name, and the classes without it. -/
def takeNamed (label : Text) : List ClassModel → Option (ClassModel × List ClassModel)
  | [] => none
  | c :: rest =>
    if c.name = label then some (c, rest)
    else (takeNamed label rest).map fun (found, others) => (found, c :: others)

/-- The classes that labels stand for, in the order of the labels. Each class is taken at most
once, so that repeated labels reach classes of one name in the order of their declarations;
labels that name no class left are passed over. -/
def resolve (pool : List ClassModel) : List Text → List ClassModel
  | [] => []
  | label :: labels =>
    match takeNamed label pool with
    | some (c, rest) => c :: resolve rest labels
    | none => resolve pool labels

/-- The classes an answer chooses. -/
def settle (o : Offer) : Response → Except Failure (List ClassModel)
  | .accepted labels => .ok (resolve o.candidates labels)
  | .dismissed => .error .selectionCancelled

end Accessors.Selection
