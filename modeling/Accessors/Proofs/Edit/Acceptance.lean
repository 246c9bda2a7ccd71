import Accessors.Proofs.Edit.Batch

/-!
# Which batches are accepted, and what they give

A batch is checked edit by edit in the order in which it is applied, each edit against the one
checked before. This settles a condition on all pairs of its entries: the batch is accepted exactly
when every edit fits into the text and no two entries get in each other's way. Its result is then
the text in which all spans are replaced at once.

* `Patch`, `Patch.applyAll`: spans with new texts, and a text with all of them replaced.
* `Apart`: two entries of a batch that do not get in each other's way.
* `checkOrdered_eq_ok_iff`, `checkBatch_eq_ok_iff`: what a passed check says.
* `applyAll_eq_ok_iff`: which batches are accepted, and the text they give.
* `checkBatch_perm`, `ordered_perm`: how far the order of a batch matters.
* `applyAll_perm`: a batch has one result in whatever order it is given.
-/

namespace Accessors

open Text

/-! ## Replacing spans at once -/

/-- A stretch of a text, and the text that takes its place. -/
structure Patch where
  start : Nat
  stop : Nat
  text : Text
  deriving DecidableEq, Repr

namespace Patch

/-- A text from an offset on, with patches in it from front to back: the untouched piece in front of
each patch, then the text of the patch, and behind the last one the untouched tail. -/
def assemble (source : Text) (n : Nat) : List Patch → Text
  | [] => dropBytes source n
  | p :: ps => sliceBytes source n p.start ++ p.text ++ assemble source p.stop ps

def ascending (patches : List Patch) : List Patch :=
  patches.mergeSort fun a b => decide (a.start ≤ b.start)

/-- A text with all patches in their places. -/
def applyAll (source : Text) (patches : List Patch) : Text := assemble source 0 (ascending patches)

end Patch

namespace Edit

def patch (e : Edit) : Patch := ⟨e.startOffset, e.stopOffset, e.replacement⟩

/-- Two edits do not get in each other's way: they start at different offsets, and the one that
starts earlier ends where the other starts, or before. -/
def Apart (a b : Edit) : Prop := Before a b ∨ Before b a

/-! ## What a passed check says -/

/-- The check compares each edit with the one before it only. Since an edit that passes starts in
front of that one, it lies in front of all edits checked so far. -/
theorem checkOrdered_eq_ok_iff {source : Text} {es : List Edit} {behind : Option Nat} :
    checkOrdered source behind es = .ok () ↔
      (∀ e ∈ es, Fits source e) ∧ es.Pairwise (fun a b => Before b a) ∧
        ∀ next ∈ behind, ∀ e ∈ es, e.startOffset < next ∧ e.stopOffset ≤ next := by
  constructor
  · intro h
    induction es generalizing behind with
    | nil => simp
    | cons e es ih =>
      rw [checkOrdered] at h
      split at h
      · cases h
      rename_i hbounds
      split at h
      · cases h
      rename_i hboundary
      split at h
      · cases h
      rename_i hoverlap
      obtain ⟨hfits, hpair, hbehind⟩ := ih h
      -- the rest is checked against `e`, so all of it lies in front of `e`
      have hhead : ∀ f ∈ es, Before f e := fun f hf => hbehind e.startOffset rfl f hf
      simp only [Bool.or_eq_true, decide_eq_true_eq, not_or, Nat.not_lt] at hbounds
      rw [not_not] at hboundary
      have hnext : ∀ next ∈ behind, e.startOffset < next ∧ e.stopOffset ≤ next := by
        rintro next ⟨⟩
        simp only [Option.any_some, isInsertion, Bool.or_eq_true, decide_eq_true_eq,
          Bool.and_eq_true, beq_iff_eq] at hoverlap
        omega
      refine ⟨List.forall_mem_cons.2 ⟨⟨hbounds.1, hbounds.2, hboundary.1, hboundary.2⟩, hfits⟩,
        List.pairwise_cons.2 ⟨hhead, hpair⟩, fun next hn => ?_⟩
      refine List.forall_mem_cons.2 ⟨hnext next hn, fun f hf => ?_⟩
      have := hnext next hn
      have := hhead f hf
      simp only [Before] at this
      omega
  · rintro ⟨hfits, hpair, hbehind⟩
    exact checkOrdered_eq_ok hpair hfits hbehind

theorem Apart.symm {a b : Edit} (h : Apart a b) : Apart b a := Or.symm h

theorem pairwise_apart_perm {edits edits' : List Edit} (h : edits.Perm edits') :
    edits.Pairwise Apart ↔ edits'.Pairwise Apart :=
  h.pairwise_iff Apart.symm

theorem pairwise_ordered {edits : List Edit} :
    (ordered edits).Pairwise (fun a b => Before b a) ↔ edits.Pairwise Apart := by
  have hperm : (ordered edits).Perm edits := List.mergeSort_perm ..
  rw [← pairwise_apart_perm hperm]
  constructor
  · exact fun h => h.imp Or.inr
  · intro h
    have hsort : (ordered edits).Pairwise (fun a b => laterFirst a b = true) :=
      List.pairwise_mergeSort laterFirst_trans laterFirst_total edits
    refine (hsort.and h).imp ?_
    -- of two edits apart from each other, the order of the check puts the one behind first
    rintro a b ⟨hlater, hbefore | hbefore⟩
    · rw [hbefore.not_laterFirst] at hlater
      cases hlater
    · exact hbefore

/-- A batch passes the check exactly when every edit fits and no two entries get in each other's
way. -/
theorem checkBatch_eq_ok_iff {source : Text} {edits : List Edit} :
    checkBatch source edits = .ok () ↔
      (∀ e ∈ edits, Fits source e) ∧ edits.Pairwise Apart := by
  rw [checkBatch, checkOrdered_eq_ok_iff, pairwise_ordered]
  simp [ordered, List.mem_mergeSort]

theorem checkBatch_of_applyAll {source : Text} {edits : List Edit} {output : Text}
    (h : applyAll source edits = .ok output) : checkBatch source edits = .ok () := by
  rw [applyAll] at h
  cases hcheck : checkBatch source edits with
  | error e =>
    rw [hcheck] at h
    cases h
  | ok u => rfl

/-! ## The text an accepted batch gives -/

def ascending (edits : List Edit) : List Edit :=
  edits.mergeSort fun a b => decide (a.startOffset ≤ b.startOffset)

theorem ascending_perm (edits : List Edit) : (ascending edits).Perm edits :=
  List.mergeSort_perm ..

theorem map_patch_ascending (edits : List Edit) :
    (ascending edits).map patch = Patch.ascending (edits.map patch) := by
  rw [ascending, Patch.ascending]
  exact List.map_mergeSort fun _ _ _ _ => rfl

theorem pairwise_ascending {edits : List Edit} (h : edits.Pairwise Apart) :
    (ascending edits).Pairwise Before := by
  have hsort : (ascending edits).Pairwise fun a b => decide (a.startOffset ≤ b.startOffset) = true :=
    List.pairwise_mergeSort (fun a b c => by simpa using Nat.le_trans)
      (fun a b => by simpa using Nat.le_total ..) edits
  refine (hsort.and ((pairwise_apart_perm (ascending_perm edits)).2 h)).imp ?_
  rintro a b ⟨hle, hbefore | hbefore⟩
  · exact hbefore
  · have := of_decide_eq_true hle
    have := hbefore.1
    omega

/-- Replacing spans from front to back, each in what is left of the text, puts the patches between
the untouched pieces. -/
theorem splice_eq_assemble {source : Text} {es : List Edit} (hes : es.Pairwise Before)
    (hfit : ∀ e ∈ es, Fits source e) {n : Nat} (hn : IsBoundary source n)
    (hstart : ∀ e ∈ es, n ≤ e.startOffset) :
    splice n (dropBytes source n) es = Patch.assemble source n (es.map patch) := by
  induction es generalizing n with
  | nil => rfl
  | cons e es ih =>
    obtain ⟨hhead, htail⟩ := List.pairwise_cons.1 hes
    obtain ⟨hle, -, -, hstop⟩ := hfit e List.mem_cons_self
    have hrest := ih htail (fun f hf => hfit f (List.mem_cons_of_mem _ hf)) hstop
      (fun f hf => (hhead f hf).2)
    -- `splice` cuts what is left of the text, `assemble` always the whole text
    have hn' : n ≤ e.stopOffset := Nat.le_trans (hstart e List.mem_cons_self) hle
    rw [splice, dropBytes_dropBytes hn hn', hrest]
    rfl

theorem applyAll_eq_patches {source : Text} {edits : List Edit} (hfit : ∀ e ∈ edits, Fits source e)
    (hapart : edits.Pairwise Apart) :
    applyAll source edits = .ok (Patch.applyAll source (edits.map patch)) := by
  have hbefore := pairwise_ascending hapart
  have hfit' : ∀ e ∈ ascending edits, Fits source e := fun e he =>
    hfit e ((ascending_perm edits).subset he)
  have hsplice := splice_eq_assemble hbefore hfit' (n := 0) (by simp [IsBoundary]) (by simp)
  rw [dropBytes_zero] at hsplice
  rw [applyAll_eq_splice (ascending_perm edits).symm hbefore hfit', hsplice, Patch.applyAll,
    map_patch_ascending]

/-- A batch is accepted exactly when every edit lies in the text with both ends between characters,
and of every two entries the starts differ and the one that starts earlier ends where the other
starts, or before. The result then consists of the untouched pieces in front of the edits, by
ascending start, each followed by its replacement, and the untouched tail. -/
theorem applyAll_eq_ok_iff (source : Text) (edits : List Edit) (output : Text) :
    applyAll source edits = .ok output ↔
      ((∀ e ∈ edits, Fits source e) ∧ edits.Pairwise Apart) ∧
        output = Patch.applyAll source (edits.map patch) := by
  constructor
  · intro h
    obtain ⟨hfit, hapart⟩ := checkBatch_eq_ok_iff.1 (checkBatch_of_applyAll h)
    rw [applyAll_eq_patches hfit hapart] at h
    cases h
    exact ⟨⟨hfit, hapart⟩, rfl⟩
  · rintro ⟨⟨hfit, hapart⟩, rfl⟩
    exact applyAll_eq_patches hfit hapart

/-! ## Batches in another order -/

def offsets (e : Edit) : Nat × Nat := (e.startOffset, e.stopOffset)

theorem checkOrdered_congr {source : Text} {behind : Option Nat} {es es' : List Edit}
    (h : es.map offsets = es'.map offsets) :
    checkOrdered source behind es = checkOrdered source behind es' := by
  induction es generalizing behind es' with
  | nil =>
    rw [List.map_nil, eq_comm, List.map_eq_nil_iff] at h
    rw [h]
  | cons e es ih =>
    cases es' with
    | nil => cases h
    | cons e' es' =>
      simp only [List.map_cons, List.cons.injEq, offsets, Prod.mk.injEq] at h
      obtain ⟨⟨hstart, hstop⟩, hrest⟩ := h
      rw [checkOrdered, checkOrdered, isInsertion, isInsertion, hstart, hstop, ih hrest]

theorem map_offsets_ordered {edits edits' : List Edit} (h : edits.Perm edits') :
    (ordered edits).map offsets = (ordered edits').map offsets := by
  have hsort : ∀ es : List Edit, ((ordered es).map offsets).Pairwise
      fun p q => q.1 < p.1 ∨ q.1 = p.1 ∧ q.2 ≤ p.2 := by
    intro es
    have hlater := List.pairwise_mergeSort laterFirst_trans laterFirst_total es
    refine List.pairwise_map.2 (hlater.imp ?_)
    intro a b hab
    simpa [laterFirst, offsets] using hab
  have hperm : (ordered edits).Perm (ordered edits') :=
    (List.mergeSort_perm ..).trans (h.trans (List.mergeSort_perm ..).symm)
  refine List.Perm.eq_of_pairwise ?_ (hsort edits) (hsort edits') (hperm.map offsets)
  -- edits with the same offsets may change places, and their offsets do not show it
  intro p q _ _ hpq hqp
  exact Prod.ext (by omega) (by omega)

/-- The check finds the same first fault in whatever order a batch is given. -/
theorem checkBatch_perm (source : Text) {edits edits' : List Edit} (h : edits.Perm edits') :
    checkBatch source edits = checkBatch source edits' :=
  checkOrdered_congr (map_offsets_ordered h)

/-- Edits that do not get in each other's way are applied in one order. -/
theorem ordered_perm {edits edits' : List Edit} (h : edits.Perm edits')
    (hapart : edits.Pairwise Apart) : ordered edits = ordered edits' := by
  have hbefore := pairwise_ascending hapart
  rw [ordered_eq_reverse (ascending_perm edits).symm hbefore,
    ordered_eq_reverse (h.symm.trans (ascending_perm edits).symm) hbefore]

/-- A batch has one result in whatever order it is given: the same text, or the same refusal with the
same offsets. -/
theorem applyAll_perm (source : Text) {edits edits' : List Edit} (h : edits.Perm edits') :
    applyAll source edits = applyAll source edits' := by
  have hcheck := checkBatch_perm source h
  rw [applyAll, applyAll, ← hcheck]
  cases hbatch : checkBatch source edits with
  | error e => rfl
  | ok u =>
    -- edits with the same span are refused, so an accepted batch is sorted in one way only
    obtain ⟨-, hapart⟩ := checkBatch_eq_ok_iff.1 hbatch
    rw [ordered_perm h hapart]

/-- A batch that breaks every rule: two edits of one span with different texts, one that starts
inside a character, and one that ends in front of its start. -/
theorem applyAll_perm_four_faults :
    let source := "aßb".toList
    let x := replace 0 1 "x".toList []
    let y := replace 0 1 "y".toList []
    let inside := replace 2 3 [] []
    let backwards := replace 9 3 [] []
    applyAll source [x, y, inside, backwards] = applyAll source [backwards, y, inside, x] ∧
      applyAll source [x, y, inside, backwards] = .error (.outOfBounds 9 3 4) ∧
      applyAll source [x, y] = applyAll source [y, x] ∧
      applyAll source [x, y] = .error (.overlapping 0) := by
  intro source x y inside backwards
  have hfour : [x, y, inside, backwards].Perm [backwards, y, inside, x] := by decide
  have hpair : [x, y].Perm [y, x] := by decide
  have hordered : ordered [x, y, inside, backwards] = [backwards, inside, x, y] := by
    simp [ordered, List.mergeSort, List.MergeSort.Internal.splitInTwo, laterFirst, x, y, inside,
      backwards, replace, startOffset, stopOffset]
  have hordered' : ordered [x, y] = [x, y] := by
    simp [ordered, List.mergeSort, List.MergeSort.Internal.splitInTwo, laterFirst, x, y, replace,
      startOffset, stopOffset]
  refine ⟨applyAll_perm source hfour, ?_, applyAll_perm source hpair, ?_⟩
  · rw [applyAll, checkBatch, hordered]
    decide +kernel
  · rw [applyAll, checkBatch, hordered']
    decide +kernel

end Edit

end Accessors
