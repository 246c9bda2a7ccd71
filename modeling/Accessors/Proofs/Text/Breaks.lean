import Accessors.Proofs.Text.Bytes
import Accessors.Syntax.Token
import Accessors.Text.Case

/-!
# Line breaks in a text

Two things are said about the line breaks of a text: that every line feed stands behind a carriage
return, and that there is no carriage return. Both go from pieces to the whole text and from the
text to its front part, and a text without line breaks has both (`LineRule`).

* `Returned`: every line feed stands behind a carriage return.
* `lineRule_returned`, `lineRule_noReturn`: the two rules.
* `Returned.back`: the back part of a text, if it does not start with a line feed.
* `plain_capitalize`: upper case brings no line breaks.
-/

namespace Accessors

namespace Text

/-- A text without line breaks. -/
def Plain (t : Text) : Prop := ∀ c ∈ t, c ≠ '\n' ∧ c ≠ '\r'

instance (t : Text) : Decidable (Plain t) :=
  List.decidableBAll (fun c => c ≠ '\n' ∧ c ≠ '\r') t

/-- Every line feed stands behind a carriage return. -/
def Returned (t : Text) : Prop := ∀ s u, t = s ++ '\n' :: u → s.getLast? = some '\r'

theorem returned_iff {t : Text} :
    Returned t ↔ ∀ i < t.length, t[i]? = some '\n' → (t.take i).getLast? = some '\r' := by
  constructor
  · intro h i hi hbreak
    obtain ⟨_, hget⟩ := List.getElem?_eq_some_iff.1 hbreak
    refine h (t.take i) (t.drop (i + 1)) ?_
    rw [← hget, ← List.drop_eq_getElem_cons, List.take_append_drop]
  · rintro h s u rfl
    have hbreak := h s.length (by simp) (by simp)
    rwa [List.take_left] at hbreak

instance (t : Text) : Decidable (Returned t) := decidable_of_iff _ returned_iff.symm

/-! ## Rules about line breaks -/

/-- A condition on the line breaks of a text. -/
structure LineRule (P : Text → Prop) : Prop where
  plain : ∀ {t}, Plain t → P t
  append : ∀ {s t}, P s → P t → P (s ++ t)
  front : ∀ {s t}, P (s ++ t) → P s

theorem lineRule_returned : LineRule Returned where
  plain := by
    intro t ht s u heq
    have hbreak : '\n' ∈ t := by simp [heq]
    exact absurd rfl (ht '\n' hbreak).1
  append := by
    intro s t hs ht front back heq
    rcases List.append_eq_append_iff.1 heq with ⟨w, hfront, hback⟩ | ⟨w, hfront, hback⟩
    · -- the line feed stands in the second text, whose own piece in front of it ends right
      have hlast := ht w back hback
      rw [hfront, List.getLast?_append, hlast]
      rfl
    · cases w with
      | nil =>
        have hlast := ht [] back (by simpa using hback.symm)
        cases hlast
      | cons c w =>
        rw [List.cons_append, List.cons.injEq] at hback
        exact hs front w (by rw [hfront, ← hback.1])
  front := by
    intro s t h front back heq
    exact h front (back ++ t) (by rw [heq]; simp)

theorem lineRule_noReturn : LineRule (fun t => '\r' ∉ t) where
  plain := fun ht hmem => (ht '\r' hmem).2 rfl
  append := by
    intro s t hs ht hmem
    rcases List.mem_append.1 hmem with hmem | hmem
    · exact hs hmem
    · exact ht hmem
  front := fun h hmem => h (List.mem_append_left _ hmem)

/-- A back part that does not start with a line feed keeps its carriage returns. -/
theorem Returned.back {s t : Text} (h : Returned (s ++ t)) (ht : t.head? ≠ some '\n') :
    Returned t := by
  intro front back heq
  have hlast := h (s ++ front) back (by rw [heq, List.append_assoc])
  cases front with
  | nil =>
    rw [heq] at ht
    exact absurd rfl ht
  | cons c front =>
    rwa [List.getLast?_append_of_ne_nil _ (by simp)] at hlast

section Rules

variable {P : Text → Prop} (hP : LineRule P)

include hP

theorem LineRule.flatMap {α : Type} {f : α → Text} {l : List α} (h : ∀ a ∈ l, P (f a)) :
    P (l.flatMap f) := by
  induction l with
  | nil => exact hP.plain (by simp [Plain])
  | cons a l ih =>
    rw [List.flatMap_cons]
    rw [List.forall_mem_cons] at h
    exact hP.append h.1 (ih h.2)

theorem LineRule.times {t : Text} (h : P t) (n : Nat) : P (times n t) := by
  have hflat : Text.times n t = (List.replicate n t).flatMap id := by
    rw [Text.times, List.flatMap_id]
  rw [hflat]
  exact hP.flatMap fun s hs => List.eq_of_mem_replicate hs ▸ h

theorem LineRule.take {t : Text} (h : P t) (n : Nat) : P (t.take n) := by
  refine hP.front (t := t.drop n) ?_
  rwa [List.take_append_drop]

theorem LineRule.takeBytes {t : Text} (h : P t) (n : Nat) : P (takeBytes t n) := by
  refine hP.front (t := dropBytes t n) ?_
  rwa [takeBytes_append_dropBytes]

end Rules

theorem plain_spaces (n : Nat) : Plain (spaces n) := by
  intro c hc
  rw [List.eq_of_mem_replicate hc]
  decide

/-! ## Upper case -/

/-- The character of a large code point is no line break. -/
theorem ofNat_plain {n : Nat} (h : 13 < n) : Char.ofNat n ≠ '\n' ∧ Char.ofNat n ≠ '\r' := by
  have hcode : (Char.ofNat n).toNat = n ∨ (Char.ofNat n).toNat = 0 := by
    by_cases hn : n.isValidChar
    · have hvalid : Char.ofNat n = Char.ofNatAux n hn := dif_pos hn
      exact Or.inl (by rw [hvalid]; rfl)
    · have hinvalid : Char.ofNat n = '\x00' := dif_neg hn
      exact Or.inr (by rw [hinvalid]; rfl)
  constructor
  · intro heq
    rw [heq, show '\n'.toNat = 10 from rfl] at hcode
    omega
  · intro heq
    rw [heq, show '\r'.toNat = 13 from rfl] at hcode
    omega

theorem lt_of_runImage? {runs : List (Nat × Nat × Nat × Nat)}
    (hruns : ∀ run ∈ runs, 13 < run.2.2.2) {m n : Nat} (h : runImage? runs n = some m) :
    13 < m := by
  obtain ⟨run, hrun, himage⟩ := List.exists_of_findSome?_eq_some h
  have := hruns run hrun
  split at himage
  rename_i first last step image
  simp only at this
  split at himage
  · cases himage
    omega
  · cases himage

theorem toUpper_plain {c : Char} (hascii : c.toNat < 128) (hc : c ≠ '\n' ∧ c ≠ '\r') :
    c.toUpper ≠ '\n' ∧ c.toUpper ≠ '\r' := by
  have hall : ∀ n < 128, Char.ofNat n ≠ '\n' ∧ Char.ofNat n ≠ '\r' →
      (Char.ofNat n).toUpper ≠ '\n' ∧ (Char.ofNat n).toUpper ≠ '\r' := by decide +kernel
  have h := hall c.toNat hascii
  rw [Char.ofNat_toNat] at h
  exact h hc

theorem plain_upperChar {c : Char} (hc : c ≠ '\n' ∧ c ≠ '\r') : Plain (upperChar c) := by
  have hexpansions : ∀ entry ∈ CaseTable.upperExpansions, ∀ n ∈ entry.2, 13 < n := by
    decide +kernel
  have hruns : ∀ run ∈ CaseTable.upperRuns, 13 < run.2.2.2 := by decide +kernel
  rw [upperChar]
  split
  · rename_i hascii
    simpa [Plain] using toUpper_plain hascii hc
  · split
    · rename_i ns hns
      obtain ⟨_, _, htable, -⟩ := List.lookup_eq_some_iff.1 hns
      intro u hu
      obtain ⟨n, hn, rfl⟩ := List.mem_map.1 hu
      exact ofNat_plain (hexpansions (c.toNat, ns) (by simp [htable]) n hn)
    · split
      · rename_i n hn
        simpa [Plain] using ofNat_plain (lt_of_runImage? hruns hn)
      · simpa [Plain] using hc

theorem plain_capitalize {t : Text} (h : Plain t) : Plain (capitalize t) := by
  cases t with
  | nil => exact h
  | cons c t =>
    simp only [Plain, List.forall_mem_cons] at h
    intro u hu
    rcases List.mem_append.1 hu with hu | hu
    · exact plain_upperChar h.1 u hu
    · exact h.2 u hu

end Text

/-- A variable's word has no line breaks. -/
theorem Syntax.Variable.plain_word (v : Syntax.Variable) : Text.Plain v.word := by
  intro c hc
  have hword : Lexer.isWordChar c = true := List.all_eq_true.1 v.all_word c hc
  constructor
  · rintro rfl
    exact absurd hword (by decide)
  · rintro rfl
    exact absurd hword (by decide)

end Accessors
