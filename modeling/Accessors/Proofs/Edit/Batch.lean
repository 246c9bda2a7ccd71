import Accessors.Edit
import Accessors.Proofs.Text.Bytes
import Mathlib.Data.List.Pairwise

/-!
# Batches of edits

A batch is checked and applied from the back of the text to its front. When its edits lie in the
text and apart from each other, the result is the text with all spans replaced at once.

* `Fits`: the span of an edit lies in a text and ends between characters.
* `Before`: one edit stands in front of another.
* `splice`: the text with the spans of edits replaced, from front to back.
* `applyAll_eq_splice`: a batch that lies apart is accepted and gives the splice.
* `applyAll_singleton`: an edit alone.
-/

namespace Accessors.Edit

open Text

/-- The span of an edit lies in a text, and both ends are between characters. -/
structure Fits (source : Text) (e : Edit) : Prop where
  start_le : e.startOffset ≤ e.stopOffset
  stop_le : e.stopOffset ≤ byteLength source
  start_boundary : IsBoundary source e.startOffset
  stop_boundary : IsBoundary source e.stopOffset

/-- One edit stands in front of another: it starts earlier and ends where the other starts, or
before. -/
def Before (a b : Edit) : Prop :=
  a.startOffset < b.startOffset ∧ a.stopOffset ≤ b.startOffset

/-! ## The order of a batch -/

theorem laterFirst_trans (a b c : Edit) (hab : laterFirst a b = true) (hbc : laterFirst b c = true) :
    laterFirst a c = true := by
  simp only [laterFirst, Bool.or_eq_true, decide_eq_true_eq, Bool.and_eq_true, beq_iff_eq] at *
  omega

theorem laterFirst_total (a b : Edit) : (laterFirst a b || laterFirst b a) = true := by
  simp only [laterFirst, Bool.or_eq_true, decide_eq_true_eq, Bool.and_eq_true, beq_iff_eq]
  omega

theorem Before.laterFirst {a b : Edit} (h : Before a b) : laterFirst b a = true := by
  simp only [Edit.laterFirst, Bool.or_eq_true, decide_eq_true_eq]
  exact Or.inl h.1

theorem Before.not_laterFirst {a b : Edit} (h : Before a b) : Edit.laterFirst a b = false := by
  obtain ⟨hlt, -⟩ := h
  simp only [Edit.laterFirst, Bool.or_eq_false_iff, decide_eq_false_iff_not, Bool.and_eq_false_iff,
    beq_eq_false_iff_ne]
  omega

/-- Of two edits of a list that lies apart, one stands in front of the other. -/
theorem before_or_before {es : List Edit} (h : es.Pairwise Before) {a b : Edit} (ha : a ∈ es)
    (hb : b ∈ es) (hne : a ≠ b) : Before a b ∨ Before b a := by
  have : Std.Symm (fun a b => Before a b ∨ Before b a) := ⟨fun _ _ h => h.symm⟩
  exact (h.imp (S := fun a b => Before a b ∨ Before b a) Or.inl).forall ha hb hne

/-- A batch that lies apart is taken from the back to the front. -/
theorem ordered_eq_reverse {edits es : List Edit} (hperm : edits.Perm es)
    (hes : es.Pairwise Before) : ordered edits = es.reverse := by
  have hsort : (ordered edits).Pairwise (fun a b => laterFirst a b = true) :=
    List.pairwise_mergeSort laterFirst_trans laterFirst_total edits
  have hmem : ∀ a, a ∈ ordered edits → a ∈ es := fun a ha =>
    hperm.subset (List.mem_mergeSort.1 ha)
  refine List.Perm.eq_of_pairwise ?_ hsort
    (List.pairwise_reverse.2 (hes.imp fun h => h.laterFirst))
    ((List.mergeSort_perm _ _).trans (hperm.trans (List.reverse_perm es).symm))
  intro a b ha hb hab hba
  by_contra hne
  rcases before_or_before hes (hmem a ha) (List.mem_reverse.1 hb) hne with h | h
  · rw [h.not_laterFirst] at hab
    cases hab
  · rw [h.not_laterFirst] at hba
    cases hba

/-! ## Checking -/

/-- Edits from the back to the front that fit and lie apart pass the check. -/
theorem checkOrdered_eq_ok {source : Text} {es : List Edit} {behind : Option Nat}
    (hes : es.Pairwise (fun a b => Before b a)) (hfit : ∀ e ∈ es, Fits source e)
    (hbehind : ∀ next ∈ behind, ∀ e ∈ es, e.startOffset < next ∧ e.stopOffset ≤ next) :
    checkOrdered source behind es = .ok () := by
  induction es generalizing behind with
  | nil => rfl
  | cons e es ih =>
    obtain ⟨hhead, htail⟩ := List.pairwise_cons.1 hes
    obtain ⟨hle, hlen, hstart, hstop⟩ := hfit e List.mem_cons_self
    have hbounds : (e.stopOffset < e.startOffset || byteLength source < e.stopOffset) = false := by
      simp only [Bool.or_eq_false_iff, decide_eq_false_iff_not]
      omega
    have hoverlap : (behind.any fun next => next < e.stopOffset ||
        (e.startOffset == next && e.isInsertion)) = false := by
      cases behind with
      | none => rfl
      | some next =>
        obtain ⟨h1, h2⟩ := hbehind next rfl e List.mem_cons_self
        simp only [Option.any_some, Bool.or_eq_false_iff, decide_eq_false_iff_not,
          Bool.and_eq_false_iff, beq_eq_false_iff_ne]
        omega
    rw [checkOrdered]
    simp only [hbounds, Bool.false_eq_true, if_false, hstart, hstop, and_self, not_true_eq_false,
      hoverlap]
    refine ih htail (fun f hf => hfit f (List.mem_cons_of_mem _ hf)) ?_
    rintro next ⟨⟩ f hf
    exact hhead f hf

/-! ## Applying -/

/-- A text, of which an offset `n` is the start, with the spans of edits replaced from the front to
the back. -/
def splice (n : Nat) (t : Text) : List Edit → Text
  | [] => t
  | e :: es =>
    takeBytes t (e.startOffset - n) ++ e.replacement ++
      splice e.stopOffset (dropBytes t (e.stopOffset - n)) es

/-- A text in front of every edit stays in front. -/
theorem splice_append {n : Nat} {s t : Text} {es : List Edit}
    (hs : ∀ e ∈ es, n + byteLength s ≤ e.startOffset ∧ e.startOffset ≤ e.stopOffset) :
    splice n (s ++ t) es = s ++ splice (n + byteLength s) t es := by
  cases es with
  | nil => rfl
  | cons e es =>
    obtain ⟨hstart, hstop⟩ := hs e List.mem_cons_self
    rw [splice, splice,
      show e.startOffset - n = byteLength s + (e.startOffset - (n + byteLength s)) by omega,
      show e.stopOffset - n = byteLength s + (e.stopOffset - (n + byteLength s)) by omega,
      takeBytes_append_add, dropBytes_append_add]
    simp only [List.append_assoc]

/-- The span of an edit that fits, as a decomposition of the text behind a front part. -/
theorem Fits.exists_append {s t : Text} {e : Edit} (h : Fits (s ++ t) e)
    (hs : byteLength s ≤ e.startOffset) :
    ∃ u v w, t = u ++ v ++ w ∧ e.startOffset = byteLength s + byteLength u ∧
      e.stopOffset = byteLength s + byteLength u + byteLength v := by
  obtain ⟨hle, -, hstart, hstop⟩ := h
  obtain ⟨a, b, hab, ha⟩ := isBoundary_iff.1 hstart
  obtain ⟨a', b', hab', ha'⟩ := isBoundary_iff.1 hstop
  obtain ⟨u, rfl, ht⟩ := append_eq_append_of_byteLength_le hab (by omega)
  obtain ⟨v, rfl, rfl⟩ := append_eq_append_of_byteLength_le (hab.symm.trans hab') (by omega)
  simp only [byteLength_append] at ha ha'
  exact ⟨u, v, b', by rw [ht, List.append_assoc], by omega, by omega⟩

theorem foldr_apply_append {s t : Text} {es : List Edit} (hes : es.Pairwise Before)
    (hfit : ∀ e ∈ es, Fits (s ++ t) e) (hs : ∀ e ∈ es, byteLength s ≤ e.startOffset) :
    es.foldr (fun e text => apply text e) (s ++ t) = s ++ splice (byteLength s) t es := by
  induction es generalizing s t with
  | nil => rfl
  | cons e es ih =>
    obtain ⟨hhead, htail⟩ := List.pairwise_cons.1 hes
    obtain ⟨u, v, w, rfl, hstart, hstop⟩ :=
      (hfit e List.mem_cons_self).exists_append (hs e List.mem_cons_self)
    -- the edits behind `e` leave everything up to its end as it is
    have hrest : es.foldr (fun e text => apply text e) (s ++ u ++ v ++ w) =
        s ++ u ++ v ++ splice e.stopOffset w es := by
      rw [ih htail (fun f hf => ?_) (fun f hf => ?_)]
      · rw [hstop, byteLength_append, byteLength_append]
      · simpa using hfit f (List.mem_cons_of_mem _ hf)
      · have := (hhead f hf).2
        simp only [byteLength_append]
        omega
    rw [List.foldr_cons, show s ++ (u ++ v ++ w) = s ++ u ++ v ++ w by simp, hrest, apply, splice,
      hstart, hstop, ← byteLength_append s u, ← byteLength_append (s ++ u) v, dropBytes_append,
      List.append_assoc (s ++ u) v, takeBytes_append]
    have hu : byteLength (s ++ u) - byteLength s = byteLength u := by simp
    have hv : byteLength (s ++ u ++ v) - byteLength s = byteLength (u ++ v) := by simp
    rw [hu, hv, List.append_assoc u v, takeBytes_append, ← List.append_assoc u v, dropBytes_append]
    simp

/-- A batch whose edits fit and lie apart is accepted, and replaces all spans at once. -/
theorem applyAll_eq_splice {source : Text} {edits es : List Edit} (hperm : edits.Perm es)
    (hes : es.Pairwise Before) (hfit : ∀ e ∈ es, Fits source e) :
    applyAll source edits = .ok (splice 0 source es) := by
  have hordered := ordered_eq_reverse hperm hes
  have hcheck : checkBatch source edits = .ok () := by
    rw [checkBatch, hordered]
    exact checkOrdered_eq_ok (List.pairwise_reverse.2 hes)
      (fun e he => hfit e (List.mem_reverse.1 he)) (by simp)
  have hfold := foldr_apply_append (s := []) hes hfit (by simp)
  rw [applyAll, hcheck, hordered, List.foldl_reverse]
  exact congrArg Except.ok hfold

/-- An edit alone replaces its span. -/
theorem applyAll_singleton {s t u : Text} {e : Edit} (hstart : e.startOffset = byteLength s)
    (hstop : e.stopOffset = byteLength (s ++ t)) :
    applyAll (s ++ t ++ u) [e] = .ok (s ++ e.replacement ++ u) := by
  have hfits : Fits (s ++ t ++ u) e := by
    refine ⟨?_, ?_, ?_, ?_⟩
    · rw [hstart, hstop, byteLength_append]
      omega
    · rw [hstop, byteLength_append (s ++ t)]
      omega
    · rw [hstart]
      exact isBoundary_iff.2 ⟨s, t ++ u, List.append_assoc .., rfl⟩
    · rw [hstop]
      exact isBoundary_append ..
  rw [applyAll_eq_splice (List.Perm.refl _) (List.pairwise_singleton ..)
    (fun f hf => List.mem_singleton.1 hf ▸ hfits), splice, splice, Nat.sub_zero, Nat.sub_zero, hstart,
    hstop, dropBytes_append, List.append_assoc s t, takeBytes_append]

end Accessors.Edit
