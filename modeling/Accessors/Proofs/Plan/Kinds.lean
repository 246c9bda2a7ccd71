import Accessors.Plan
import Mathlib.Tactic.Common

/-!
# Plans for one kind and for both

The names of getters and of setters start with different letters, in lower case too. So although one
set of names keeps the accessors of a class from being written twice, no getter takes the place of a
setter, and what a class lacks of one kind does not depend on whether the other kind is asked for.

* `Plan.adding`: the edit that adds given accessors.
* `ClassModel.filter_missing`: the accessors of one kind among those of both kinds.
* `ClassModel.isCandidate_both`: a class is offered for both kinds when it is for one of them.
-/

namespace Accessors

/-! ## The edit for given accessors -/

/-- The edit that adds accessors to a class. Where it goes and how a method is written does not
depend on which accessors are added. -/
def Plan.adding (tabSize : Nat) (d : Document) (c : ClassModel) : List Accessor → Option PlannedEdit
  | [] => none
  | a :: rest => some
    { className := c.name
      insertAt := (insertionPoint tabSize c d).1
      text := insertedText d.lineEnding.text (insertionPoint tabSize c d).2
        ((a :: rest).flatMap (Accessor.block tabSize d.lineEnding.text))
      methods := (a :: rest).map Accessor.name }

theorem Plan.planClass_eq (kinds : Kinds) (tabSize : Nat) (d : Document) (c : ClassModel) :
    planClass kinds tabSize d c = adding tabSize d c (c.missing kinds) := by
  rw [planClass]
  cases c.missing kinds with
  | nil => rfl
  | cons a rest => rfl

theorem Plan.adding_eq_some {tabSize : Nat} {d : Document} {c : ClassModel}
    {accessors : List Accessor} {e : PlannedEdit} (h : adding tabSize d c accessors = some e) :
    e.insertAt = (insertionPoint tabSize c d).1 ∧
      e.methods = accessors.map Accessor.name ∧
      e.text = insertedText d.lineEnding.text (insertionPoint tabSize c d).2
        (accessors.flatMap (Accessor.block tabSize d.lineEnding.text)) := by
  cases accessors with
  | nil => cases h
  | cons a rest =>
    cases h
    exact ⟨rfl, rfl, rfl⟩

theorem Plan.isSome_planClass {kinds : Kinds} {c : ClassModel} (tabSize : Nat) (d : Document) :
    (planClass kinds tabSize d c).isSome = true ↔ c.missing kinds ≠ [] := by
  rw [planClass_eq]
  cases c.missing kinds with
  | nil => simp [adding]
  | cons a rest => simp [adding]

/-! ## Names of the two kinds -/

/-- The kinds of which one is asked for alone. -/
def Kinds.only : AccessorKind → Kinds
  | .getter => .gettersOnly
  | .setter => .settersOnly

/-- The first letter of a name tells the kind. -/
theorem Accessor.head?_lower_name (a : Accessor) :
    (Text.lower a.name).head? = some (match a.kind with | .getter => 'g' | .setter => 's') := by
  obtain ⟨kind, p⟩ := a
  cases kind with
  | getter => rfl
  | setter => rfl

theorem Accessor.lower_name_ne {a b : Accessor} (h : a.kind ≠ b.kind) :
    Text.lower a.name ≠ Text.lower b.name := by
  intro hname
  have hhead := congrArg List.head? hname
  rw [head?_lower_name, head?_lower_name, Option.some.injEq] at hhead
  cases ha : a.kind <;> cases hb : b.kind <;> simp_all

/-! ## What a class lacks of one kind -/

namespace ClassModel

theorem filter_lacking (kind : AccessorKind) (c : ClassModel) (p : Property) :
    (c.lacking .both p).filter (fun a => a.kind = kind) = c.lacking (.only kind) p := by
  cases kind with
  | getter =>
    simp only [lacking, Kinds.both, Kinds.only, Kinds.gettersOnly, List.filter_append]
    cases c.hasGetter p.name <;> cases c.hasSetter p.name <;> simp
  | setter =>
    simp only [lacking, Kinds.both, Kinds.only, Kinds.settersOnly, List.filter_append]
    cases c.hasGetter p.name <;> cases c.hasSetter p.name <;> simp

theorem mem_of_mem_keepFirst {seen : List Text} {accessors : List Accessor} {a : Accessor}
    (h : a ∈ keepFirst seen accessors) : a ∈ accessors := by
  induction accessors generalizing seen with
  | nil => cases h
  | cons b rest ih =>
    rw [keepFirst] at h
    split at h
    · exact List.mem_cons_of_mem b (ih h)
    · rcases List.mem_cons.1 h with rfl | h
      · exact List.mem_cons_self
      · exact List.mem_cons_of_mem b (ih h)

/-- The accessors that a class lacks are accessors of its properties. -/
theorem property_mem {kinds : Kinds} {c : ClassModel} {a : Accessor} (h : a ∈ c.missing kinds) :
    a.property ∈ c.properties := by
  obtain ⟨p, hp, ha⟩ := List.mem_flatMap.1 (mem_of_mem_keepFirst h)
  have hproperty : a.property = p := by
    rw [lacking, List.mem_append] at ha
    rcases ha with ha | ha
    · split at ha
      · rw [List.mem_singleton.1 ha]
      · cases ha
    · split at ha
      · rw [List.mem_singleton.1 ha]
      · cases ha
  rwa [hproperty]

/-- Leaving out repeated names among the accessors of one kind: of the names seen, only those of that
kind matter. -/
theorem filter_keepFirst (kind : AccessorKind) (seen seen' : List Text) (accessors : List Accessor)
    (hseen : ∀ a : Accessor, a.kind = kind →
      (Text.lower a.name ∈ seen ↔ Text.lower a.name ∈ seen')) :
    (keepFirst seen accessors).filter (fun a => a.kind = kind) =
      keepFirst seen' (accessors.filter fun a => a.kind = kind) := by
  induction accessors generalizing seen seen' with
  | nil => rfl
  | cons a rest ih =>
    by_cases hkind : a.kind = kind
    · rw [List.filter_cons_of_pos (by simpa using hkind), keepFirst, keepFirst]
      simp only [List.contains_iff_mem, hseen a hkind]
      split
      · exact ih seen seen' hseen
      · rw [List.filter_cons_of_pos (by simpa using hkind)]
        congr 1
        refine ih _ _ fun b hb => ?_
        rw [List.mem_cons, List.mem_cons, hseen b hb]
    · rw [List.filter_cons_of_neg (by simpa using hkind), keepFirst]
      simp only [List.contains_iff_mem]
      split
      · exact ih seen seen' hseen
      · rw [List.filter_cons_of_neg (by simpa using hkind)]
        refine ih _ seen' fun b hb => ?_
        -- the name just written belongs to the other kind
        have hne : Text.lower b.name ≠ Text.lower a.name :=
          Accessor.lower_name_ne fun h => hkind (h ▸ hb)
        rw [List.mem_cons, or_iff_right hne, hseen b hb]

/-- The accessors of one kind that a class lacks are those among the ones of both kinds, in the same
order. -/
theorem filter_missing (kind : AccessorKind) (c : ClassModel) :
    (c.missing .both).filter (fun a => a.kind = kind) = c.missing (.only kind) := by
  rw [missing, filter_keepFirst kind [] [] _ (fun _ _ => Iff.rfl), List.filter_flatMap,
    missing]
  simp only [filter_lacking]

theorem isCandidate_both (c : ClassModel) :
    c.isCandidate .both = true ↔
      c.isCandidate .gettersOnly = true ∨ c.isCandidate .settersOnly = true := by
  simp only [isCandidate, Kinds.both, Kinds.gettersOnly, Kinds.settersOnly, hasFullCoverage,
    Bool.not_and, Bool.or_eq_true]

end ClassModel

end Accessors
