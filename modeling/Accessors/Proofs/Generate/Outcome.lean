import Accessors.Generate
import Accessors.Proofs.Edit.Acceptance
import Mathlib.Data.List.Perm.Basic

/-!
# How a run ends

A run that edits has applied the edits it planned. Which classes it plans for is the answer's
choice; in which order the answer names them makes no difference to the text that comes out, also
when classes share a name: the labels of one name take its classes in the order of their
declarations, however other labels stand between them.

* `generate_eq_edited`: the edits of a run and its output.
* `Generation.output?`: the text that a run leaves behind.
* `Selection.resolve_cons`: a label takes the first class of its name.
* `Selection.resolve_perm`: labels in another order choose the same classes.
* `Generation.Alike`: two runs end alike.
* `generate_alike_of_perm`: answers with the same labels make runs end alike.
-/

namespace Accessors

open Document

/-! ## Runs that edit -/

theorem Generate.applyPlan_eq_edited {source : Text} {options : Options} {chosen : List ClassModel}
    {planned : List PlannedEdit} {edits : List Edit} {output : Text}
    (h : applyPlan source options chosen = .ok (.edited planned edits output)) :
    planned = Plan.planAll options.kinds options.tabSize (ofText source) chosen ∧
      edits = planned.map (PlannedEdit.toEdit (ofText source)) ∧
      Edit.applyAll source edits = .ok output := by
  rw [applyPlan] at h
  split at h
  · rename_i hbatch
    cases h
    exact ⟨rfl, rfl, hbatch⟩
  · cases h

/-- The edits of a run are those planned, and its output is the text with the batch applied. -/
theorem generate_eq_edited {source : Text} {options : Options}
    {answer : Selection.Request → Selection.Response} {planned : List PlannedEdit}
    {edits : List Edit} {output : Text}
    (h : generate source options answer = .ok (.edited planned edits output)) :
    edits = planned.map (PlannedEdit.toEdit (ofText source)) ∧
      Edit.applyAll source edits = .ok output := by
  rw [generate] at h
  cases ho : Generate.offer source options with
  | error f =>
    rw [ho] at h
    cases h
  | ok o =>
    rw [ho] at h
    simp only [bind, Except.bind, Generate.finish] at h
    split at h
    · cases h
    · cases h
    · exact (Generate.applyPlan_eq_edited h).2
    · cases h

/-- The text that a run leaves behind, if it edits. -/
def Generation.output? : Except Failure Generation → Option Text
  | .ok (.edited _ _ output) => some output
  | _ => none

theorem Generation.exists_of_output? {r : Except Failure Generation} {output : Text}
    (h : output? r = some output) : ∃ planned edits, r = .ok (.edited planned edits output) := by
  rcases r with f | _ | ⟨planned, edits, output'⟩
  · cases h
  · cases h
  · cases h
    exact ⟨planned, edits, rfl⟩

/-! ## Labels and classes -/

namespace Selection

def named (label : Text) (c : ClassModel) : Bool := decide (c.name = label)

theorem takeNamed_eq (label : Text) (pool : List ClassModel) :
    takeNamed label pool =
      (pool.find? (named label)).map fun c => (c, pool.eraseP (named label)) := by
  induction pool with
  | nil => rfl
  | cons c pool ih =>
    rw [takeNamed]
    by_cases hc : c.name = label
    · have hnamed : named label c = true := decide_eq_true hc
      rw [if_pos hc, List.find?_cons_of_pos hnamed, List.eraseP_cons_of_pos hnamed]
      rfl
    · have hnamed : ¬ named label c = true := by simpa [named] using hc
      rw [if_neg hc, List.find?_cons_of_neg hnamed, List.eraseP_cons_of_neg hnamed, ih,
        Option.map_map]
      rfl

/-- A label takes the first class of its name out of the pool, if there is one. -/
theorem resolve_cons (pool : List ClassModel) (label : Text) (labels : List Text) :
    resolve pool (label :: labels) =
      (pool.find? (named label)).toList ++ resolve (pool.eraseP (named label)) labels := by
  rw [resolve, takeNamed_eq]
  cases hfind : pool.find? (named label) with
  | none =>
    have hnone : pool.eraseP (named label) = pool :=
      List.eraseP_of_forall_not (List.find?_eq_none.1 hfind)
    rw [hnone]
    rfl
  | some c => rfl

theorem not_named_or {a b : Text} (hne : a ≠ b) (c : ClassModel) :
    ¬ named a c = true ∨ ¬ named b c = true := by
  simp only [named, decide_eq_true_eq]
  by_cases ha : c.name = a
  · exact Or.inr fun hb => hne (ha.symm.trans hb)
  · exact Or.inl ha

theorem find?_eraseP_of_ne {a b : Text} (hne : a ≠ b) (pool : List ClassModel) :
    (pool.eraseP (named b)).find? (named a) = pool.find? (named a) := by
  induction pool with
  | nil => rfl
  | cons c pool ih =>
    by_cases hb : named b c = true
    · have ha : ¬ named a c = true := (not_named_or hne c).resolve_right (not_not.2 hb)
      rw [List.eraseP_cons_of_pos hb, List.find?_cons_of_neg ha]
    · rw [List.eraseP_cons_of_neg hb]
      by_cases ha : named a c = true
      · rw [List.find?_cons_of_pos ha, List.find?_cons_of_pos ha]
      · rw [List.find?_cons_of_neg ha, List.find?_cons_of_neg ha, ih]

theorem resolve_swap (pool : List ClassModel) (a b : Text) (labels : List Text) :
    (resolve pool (a :: b :: labels)).Perm (resolve pool (b :: a :: labels)) := by
  by_cases hab : a = b
  · rw [hab]
  · -- labels of two names take from different classes, so neither notices the other
    have hcomm : (pool.eraseP (named a)).eraseP (named b) =
        (pool.eraseP (named b)).eraseP (named a) :=
      List.eraseP_comm fun c _ => not_named_or hab c
    simp only [resolve_cons]
    rw [find?_eraseP_of_ne hab, find?_eraseP_of_ne (Ne.symm hab), hcomm, ← List.append_assoc,
      ← List.append_assoc]
    exact List.perm_append_comm.append_right _

/-- Labels in another order choose the same classes. -/
theorem resolve_perm {labels labels' : List Text} (h : labels.Perm labels')
    (pool : List ClassModel) : (resolve pool labels).Perm (resolve pool labels') := by
  induction h generalizing pool with
  | nil => exact List.Perm.refl _
  | cons label _ ih =>
    rw [resolve_cons, resolve_cons]
    exact (ih _).append_left _
  | swap a b labels => exact resolve_swap pool b a labels
  | trans _ _ ih₁ ih₂ => exact (ih₁ pool).trans (ih₂ pool)

end Selection

/-! ## Runs that end alike -/

/-- Two runs end alike: with the same failure, without a choice, or with the same output from plans
that differ in their order only. -/
inductive Generation.Alike : Except Failure Generation → Except Failure Generation → Prop
  | failed (f : Failure) : Alike (.error f) (.error f)
  | cancelled : Alike (.ok .cancelled) (.ok .cancelled)
  | edited {planned planned' : List PlannedEdit} {edits edits' : List Edit} (output : Text)
      (hplanned : planned.Perm planned') (hedits : edits.Perm edits') :
      Alike (.ok (.edited planned edits output)) (.ok (.edited planned' edits' output))

/-- Plans for the same classes in another order end alike. -/
theorem Generate.applyPlan_alike (source : Text) (options : Options)
    {chosen chosen' : List ClassModel} (h : chosen.Perm chosen') :
    Generation.Alike (applyPlan source options chosen) (applyPlan source options chosen') := by
  have hplanned : (Plan.planAll options.kinds options.tabSize (ofText source) chosen).Perm
      (Plan.planAll options.kinds options.tabSize (ofText source) chosen') := h.filterMap _
  have hedits := hplanned.map (PlannedEdit.toEdit (ofText source))
  have hcheck := Edit.checkBatch_perm source hedits
  rw [applyPlan, applyPlan, Edit.applyAll, Edit.applyAll, ← hcheck]
  cases hbatch : Edit.checkBatch source ((Plan.planAll options.kinds options.tabSize (ofText source)
      chosen).map (PlannedEdit.toEdit (ofText source))) with
  | error e => exact .failed _
  | ok u =>
    -- an accepted batch has one order, so both runs apply the same edits one after the other
    obtain ⟨-, hapart⟩ := Edit.checkBatch_eq_ok_iff.1 hbatch
    rw [Edit.ordered_perm hedits hapart]
    exact .edited _ hplanned hedits

/-- The order in which classes are accepted does not matter: two runs whose answers accept the same
labels, repeated and unknown ones included, end alike. -/
theorem generate_alike_of_perm (source : Text) (options : Options) {labels labels' : List Text}
    (h : labels.Perm labels') :
    Generation.Alike (generate source options fun _ => .accepted labels)
      (generate source options fun _ => .accepted labels') := by
  rw [generate, generate]
  cases ho : Generate.offer source options with
  | error f => exact .failed f
  | ok o =>
    have hchosen := Selection.resolve_perm h o.candidates
    simp only [bind, Except.bind, Generate.finish, Selection.settle]
    cases hresolve : Selection.resolve o.candidates labels with
    | nil =>
      rw [hresolve] at hchosen
      rw [hchosen.nil_eq.symm]
      exact .cancelled
    | cons c rest =>
      rw [hresolve] at hchosen
      cases hresolve' : Selection.resolve o.candidates labels' with
      | nil =>
        rw [hresolve'] at hchosen
        exact absurd hchosen.length_eq (by simp)
      | cons c' rest' =>
        rw [hresolve'] at hchosen
        exact Generate.applyPlan_alike source options hchosen

/-- Two classes share a name, and the first of them lacks nothing. The labels repeat the name, and
one of them is unknown. -/
theorem generate_alike_of_perm_repeated :
    let source := ("<?php\nif (X) \x7b class A \x7b private $a; function getA() \x7b\x7d \x7d ".toList ++
      "\x7d else \x7b class A \x7b private $b; \x7d \x7d\n".toList)
    let options : Options := ⟨.gettersOnly, .isPrivate, 2⟩
    let labels := ["A".toList, "X".toList, "A".toList]
    let labels' := ["X".toList, "A".toList, "A".toList]
    Generation.Alike (generate source options fun _ => .accepted labels)
      (generate source options fun _ => .accepted labels') ∧
    Generation.output? (generate source options fun _ => .accepted labels) =
      some ("<?php\nif (X) \x7b class A \x7b private $a; function getA() \x7b\x7d \x7d ".toList ++
        "\x7d else \x7b class A \x7b private $b;\n\n  public function getB() \x7b\n".toList ++
        "    return $this->b;\n  \x7d\n\x7d \x7d\n".toList) := by
  intro source options labels labels'
  have hperm : labels.Perm labels' := by decide
  exact ⟨generate_alike_of_perm source options hperm, by decide +kernel⟩

end Accessors
