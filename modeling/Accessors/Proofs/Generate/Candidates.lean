import Accessors.Proofs.Generate.LineEndings
import Accessors.Proofs.Plan.Removal
import Accessors.Proofs.Selection.Labels
import Mathlib.Algebra.BigOperators.Group.List.Basic
import Mathlib.Algebra.GroupWithZero.Nat

/-!
# Candidates and their plans

Which classes are offered is settled by their coverage, kind by kind; what is planned for a class is
a list of the accessors that it lacks, without repeated names. Both agree, so every class that is
chosen gets its edit, and a run that edits adds methods. It never gives the source back: no edit
removes anything but blanks, so the characters that are not blank become more.

* `Plan.isSome_planClass_eq`: an edit is planned exactly for the classes that are offered.
* `Plan.forall₂_planAll`: one edit for each class chosen, in order.
* `Text.ink`, `Edit.ink_applyAll`: the characters that are not blank, before and after a batch.
* `candidates_planned`: all this for selections and for runs.
-/

namespace Accessors

open Document Selection Syntax Text

/-! ## One edit for each class -/

/-- An edit is planned exactly for the classes that are offered. -/
theorem Plan.isSome_planClass_eq (kinds : Kinds) (tabSize : Nat) (d : Document) (c : ClassModel) :
    (planClass kinds tabSize d c).isSome = c.isCandidate kinds := by
  rw [Bool.eq_iff_iff, isSome_planClass, ClassModel.isCandidate_iff]

theorem Plan.methods_ne_nil {kinds : Kinds} {tabSize : Nat} {d : Document} {c : ClassModel}
    {e : PlannedEdit} (h : planClass kinds tabSize d c = some e) : e.methods ≠ [] := by
  have hmissing := (isSome_planClass tabSize d).1 (Option.isSome_of_mem h)
  rw [planClass_eq] at h
  obtain ⟨-, hmethods, -⟩ := adding_eq_some h
  rwa [hmethods, ne_eq, List.map_eq_nil_iff]

theorem Plan.forall₂_planAll {kinds : Kinds} (tabSize : Nat) (d : Document)
    {chosen : List ClassModel} (h : ∀ c ∈ chosen, c.isCandidate kinds = true) :
    List.Forall₂ (fun c e => planClass kinds tabSize d c = some e) chosen
      (planAll kinds tabSize d chosen) := by
  induction chosen with
  | nil => exact .nil
  | cons c rest ih =>
    rw [List.forall_mem_cons] at h
    have hsome := isSome_planClass_eq kinds tabSize d c
    rw [h.1] at hsome
    obtain ⟨e, he⟩ := Option.isSome_iff_exists.1 hsome
    rw [planAll, List.filterMap_cons_some he]
    exact .cons he (ih h.2)

/-- Whatever the answer, only classes that lack an accessor are chosen. -/
theorem Selection.isCandidate_of_settle {kinds : Kinds} {classes : List ClassModel} {o : Offer}
    {response : Response} {chosen : List ClassModel} (hoffer : offer kinds classes = .ok o)
    (hsettle : settle o response = .ok chosen) : ∀ c ∈ chosen, c.isCandidate kinds = true := by
  obtain ⟨-, rfl⟩ := offer_eq_ok_iff.1 hoffer
  cases response with
  | dismissed => cases hsettle
  | accepted labels =>
    cases hsettle
    exact fun c hc => (List.mem_filter.1 (mem_of_mem_resolve hc)).2

/-! ## Characters that are not blank -/

/-- How many characters of a text are not blank. -/
def Text.ink (t : Text) : Nat := t.countP fun c => !isBlankChar c

@[simp] theorem Text.ink_append (s t : Text) : ink (s ++ t) = ink s + ink t :=
  List.countP_append ..

theorem Text.ink_of_isBlank {t : Text} (h : Text.isBlank t = true) : ink t = 0 := by
  rw [ink, List.countP_eq_zero]
  intro c hc
  simp [List.all_eq_true.1 h c hc]

/-- Patches that replace blanks only, from front to back, add the characters of their texts. -/
theorem Patch.ink_assemble {source : Text} {n : Nat} {patches : List Patch}
    (hn : IsBoundary source n) (hstart : ∀ p ∈ patches, n ≤ p.start)
    (hpair : patches.Pairwise fun a b => a.stop ≤ b.start)
    (hblank : ∀ p ∈ patches, BlankBetween source p.start p.stop) :
    ink (assemble source n patches) =
      ink (dropBytes source n) + (patches.map fun p => ink p.text).sum := by
  induction patches generalizing n with
  | nil => rfl
  | cons p patches ih =>
    rw [List.forall_mem_cons] at hstart hblank
    obtain ⟨hbehind, hpair⟩ := List.pairwise_cons.1 hpair
    obtain ⟨front, blanks, back, hsource, hfirst, hlast, hblanks⟩ := hblank.1
    have hboundary : IsBoundary source p.stop := by
      rw [hsource, hlast]
      exact isBoundary_append ..
    -- what stands in front of the patch, from the offset on
    obtain ⟨s, u, hsplit, rfl⟩ := isBoundary_iff.1 hn
    obtain ⟨piece, rfl, rfl⟩ : ∃ piece, front = s ++ piece ∧ u = piece ++ (blanks ++ back) := by
      refine append_eq_append_of_byteLength_le ?_ (hfirst ▸ hstart.1)
      rw [← hsplit, hsource, List.append_assoc]
    have hpiece : sliceBytes source (byteLength s) p.start = piece := by
      rw [hfirst, hsplit, byteLength_append, ← List.append_assoc, sliceBytes_append]
    have hrest : dropBytes source p.stop = back := by
      rw [hsource, hlast, dropBytes_append]
    have hdrop : dropBytes source (byteLength s) = piece ++ (blanks ++ back) := by
      rw [hsplit, dropBytes_append]
    rw [assemble, hpiece, ink_append, ih hboundary hbehind hpair hblank.2, hrest, hdrop,
      List.map_cons, List.sum_cons]
    simp only [ink_append, ink_of_isBlank hblanks]
    omega

/-- A batch that replaces blanks only adds the characters of the new texts. -/
theorem Edit.ink_applyAll {source output : Text} {edits : List Edit}
    (h : applyAll source edits = .ok output)
    (hblank : ∀ e ∈ edits, BlankBetween source e.startOffset e.stopOffset) :
    ink output = ink source + (edits.map fun e => ink e.replacement).sum := by
  obtain ⟨⟨-, hapart⟩, rfl⟩ := (applyAll_eq_ok_iff source edits output).1 h
  have hperm := ascending_perm edits
  have hbehind : ((ascending edits).map patch).Pairwise fun a b => a.stop ≤ b.start :=
    List.pairwise_map.2 ((pairwise_ascending hapart).imp fun hbefore => hbefore.2)
  have hassemble := Patch.ink_assemble (n := 0) (by simp [IsBoundary]) (by simp) hbehind
    (List.forall_mem_map.2 fun e he => hblank e (hperm.subset he))
  rw [List.map_map, dropBytes_zero] at hassemble
  rw [Patch.applyAll, ← map_patch_ascending, hassemble]
  exact congrArg _ ((hperm.map _).sum_eq)

/-- The text planned for a class is not blank. -/
theorem Plan.ink_text_pos {kinds : Kinds} {tabSize : Nat} {d : Document} {c : ClassModel}
    {e : PlannedEdit} (h : planClass kinds tabSize d c = some e) : 0 < ink e.text := by
  have hmissing := (isSome_planClass tabSize d).1 (Option.isSome_of_mem h)
  rw [planClass_eq] at h
  obtain ⟨-, -, htext⟩ := adding_eq_some h
  obtain ⟨t, ht⟩ := exists_blocks tabSize d.lineEnding.text hmissing
  have hword : 0 < ink "public function ".toList := by decide
  rw [htext, ht, insertedText_eq]
  simp only [ink_append]
  omega

/-! ## Runs -/

/-- What an edit of a run replaces is blank, if closing braces lie at offsets of 32 bits. -/
theorem Generate.blankBetween_of_planned {source : Text} {options : Options}
    {answer : Request → Response} {planned : List PlannedEdit} {edits : List Edit} {output : Text}
    (h : generate source options answer = .ok (.edited planned edits output))
    (hclosing : ∀ program, Program.parse? source = some program →
      ∀ c ∈ program.classes, min c.closing (byteLength source) < 2 ^ 32) {e : PlannedEdit}
    (he : e ∈ planned) :
    BlankBetween source (e.toEdit (ofText source)).startOffset
      (e.toEdit (ofText source)).stopOffset := by
  obtain ⟨program, hparse, hplanned⟩ := exists_class_of_planned h
  obtain ⟨c, hc, hplan⟩ := hplanned e he
  rw [Plan.planClass_eq] at hplan
  obtain ⟨hpoint, -, -⟩ := Plan.adding_eq_some hplan
  have hstop := Plan.stop_le (n := c.closing) options.tabSize
    (c := (c.site options.visibility (ofText source)).model (ofText source)) rfl
  have hblank := Plan.blankBetween_insertionPoint options.tabSize source
    ((c.site options.visibility (ofText source)).model (ofText source))
  rw [← hpoint] at hstop hblank
  have hend := offsetAt_le source e.insertAt.span.stop
  have hshort := hclosing program hparse c hc
  obtain ⟨front, blanks, back, -, hfirst, hlast, -⟩ := id hblank
  rw [byteLength_append] at hlast
  rwa [PlannedEdit.startOffset_toEdit (by omega), PlannedEdit.stopOffset_toEdit (by omega)]

theorem Generate.planned_ne_nil {source : Text} {options : Options} {answer : Request → Response}
    {planned : List PlannedEdit} {edits : List Edit} {output : Text}
    (h : generate source options answer = .ok (.edited planned edits output)) : planned ≠ [] := by
  obtain ⟨program, -, chosen, hne, hchosen, hplan⟩ := exists_chosen_of_edited h
  obtain ⟨rfl, -⟩ := applyPlan_eq_edited hplan
  exact planAll_ne_nil hne (fun m hm => not_covered_of_mem_lackingOf (hchosen m hm)) _

/-- The characters that are not blank become more. -/
theorem Generate.ink_lt_of_edited {source : Text} {options : Options}
    {answer : Request → Response} {planned : List PlannedEdit} {edits : List Edit} {output : Text}
    (h : generate source options answer = .ok (.edited planned edits output))
    (hclosing : ∀ program, Program.parse? source = some program →
      ∀ c ∈ program.classes, min c.closing (byteLength source) < 2 ^ 32) :
    ink source < ink output := by
  obtain ⟨rfl, hbatch⟩ := generate_eq_edited h
  have hink := Edit.ink_applyAll hbatch
    (List.forall_mem_map.2 fun e he => blankBetween_of_planned h hclosing he)
  cases planned with
  | nil => exact absurd rfl (planned_ne_nil h)
  | cons e rest =>
    obtain ⟨program, -, hplanned⟩ := exists_class_of_planned h
    obtain ⟨c, -, hplan⟩ := hplanned e List.mem_cons_self
    have hpos : 0 < ink (e.toEdit (ofText source)).replacement := Plan.ink_text_pos hplan
    rw [List.map_cons, List.map_cons, List.sum_cons] at hink
    omega

/-- Candidates and plans agree. For every class, an edit is planned exactly when the class is offered
for the same kinds. So the plan for the classes that an answer chooses has one edit for each of them,
in the same order; and a run that edits has an edit and adds a method with each, and its output is
not the source, if closing braces lie at offsets of 32 bits. -/
theorem candidates_planned :
    (∀ (kinds : Kinds) (tabSize : Nat) (source : Text) (c : ClassModel),
      (Plan.planClass kinds tabSize (ofText source) c).isSome = true ↔
        c.isCandidate kinds = true) ∧
    (∀ (kinds : Kinds) (tabSize : Nat) (source : Text) (classes : List ClassModel) (o : Offer)
      (response : Response) (chosen : List ClassModel), offer kinds classes = .ok o →
      settle o response = .ok chosen →
      List.Forall₂ (fun c e => Plan.planClass kinds tabSize (ofText source) c = some e) chosen
        (Plan.planAll kinds tabSize (ofText source) chosen)) ∧
    ∀ (source : Text) (options : Options) (answer : Request → Response)
      (planned : List PlannedEdit) (edits : List Edit) (output : Text),
      generate source options answer = .ok (.edited planned edits output) →
      edits ≠ [] ∧ edits.length = planned.length ∧ (∀ e ∈ planned, e.methods ≠ []) ∧
        ((∀ program, Program.parse? source = some program →
          ∀ c ∈ program.classes, min c.closing (byteLength source) < 2 ^ 32) →
          output ≠ source) := by
  refine ⟨fun kinds tabSize source c => ?_,
    fun kinds tabSize source classes o response chosen hoffer hsettle => ?_,
    fun source options answer planned edits output h => ?_⟩
  · rw [Plan.isSome_planClass_eq]
  · exact Plan.forall₂_planAll tabSize (ofText source) (isCandidate_of_settle hoffer hsettle)
  · obtain ⟨rfl, -⟩ := generate_eq_edited h
    obtain ⟨program, -, hplanned⟩ := exists_class_of_planned h
    refine ⟨?_, List.length_map .., fun e he => ?_, fun hclosing heq => ?_⟩
    · rw [ne_eq, List.map_eq_nil_iff]
      exact Generate.planned_ne_nil h
    · obtain ⟨c, -, hplan⟩ := hplanned e he
      exact Plan.methods_ne_nil hplan
    · have hlt := Generate.ink_lt_of_edited h hclosing
      rw [heq] at hlt
      exact Nat.lt_irrefl _ hlt

/-- Two properties whose getters have one name, and blank lines above the closing brace. -/
theorem candidates_planned_repeated :
    let source := "<?php\nclass A \x7b\n  private $a;\n  private $A;\n\t\n\n\x7d\n".toList
    let a : ClassModel := ⟨"A".toList, 1, 6, 0, [⟨"a".toList, none⟩, ⟨"A".toList, none⟩], []⟩
    List.Forall₂ (fun c e => Plan.planClass .gettersOnly 2 (ofText source) c = some e) [a]
        (Plan.planAll .gettersOnly 2 (ofText source) [a]) ∧
      ∃ planned edits output,
        generateAll source ⟨.gettersOnly, .isPrivate, 2⟩ = .ok (.edited planned edits output) ∧
          output.length = 101 ∧ edits ≠ [] ∧ edits.length = planned.length ∧
          (∀ e ∈ planned, e.methods ≠ []) ∧ output ≠ source := by
  intro source a
  obtain ⟨-, hselection, hrun⟩ := candidates_planned
  have hlength : (Generation.output? (generateAll source ⟨.gettersOnly, .isPrivate, 2⟩)).map
      List.length = some 101 := by decide +kernel
  obtain ⟨output, houtput, hcount⟩ := Option.map_eq_some_iff.1 hlength
  obtain ⟨planned, edits, hedited⟩ := Generation.exists_of_output? houtput
  obtain ⟨hne, hedits, hmethods, hchanged⟩ := hrun _ _ _ planned edits output hedited
  refine ⟨hselection .gettersOnly 2 source [a] _ (.accepted ["A".toList]) [a] rfl rfl,
    planned, edits, output, hedited, hcount, hne, hedits, hmethods, hchanged ?_⟩
  have hshort : byteLength source < 2 ^ 32 := by decide
  omega

end Accessors
