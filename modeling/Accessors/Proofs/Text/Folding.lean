import Accessors.Text.Case
import Mathlib.Tactic.Common

/-!
# Names without regard to case

Two names that differ in the case of ASCII letters only are one name to a class. Such names have the
same lower case: neither the image of a character nor the form of a sigma beside it depends on the
case of an ASCII letter.

* `asciiFold`: a text with its ASCII letters in lower case.
* `lower_congr`: texts that fold alike have the same lower case.
* `lowerFrom_append`: a character that is not Case_Ignorable hides what stands in front of it.
* `StartsPlain`: a name that starts with an ASCII letter, a digit or an underscore.
* `lower_append_capitalize`: the lower case of such a name, capitalized behind a word.
-/

namespace Accessors.Text

/-- A text with its ASCII letters in lower case. -/
def asciiFold (t : Text) : Text := t.map Char.toLower

/-! ## Characters -/

theorem forall_ascii {P : Char → Prop} (h : ∀ n < 128, P (Char.ofNat n)) {c : Char}
    (hc : c.toNat < 128) : P c := by
  have hcode := h c.toNat hc
  rwa [Char.ofNat_toNat] at hcode

theorem toLower_of_le {c : Char} (h : 128 ≤ c.toNat) : c.toLower = c := by
  unfold Char.toLower
  rw [dif_neg]
  intro hletter
  have hlast : c.toNat ≤ 90 := hletter.2
  omega

/-- A character and its lower case as an ASCII letter are alike to a function that does not tell
the case of ASCII letters. -/
theorem apply_toLower {α : Type} (f : Char → α)
    (h : ∀ n < 128, f (Char.ofNat n).toLower = f (Char.ofNat n)) (c : Char) :
    f c.toLower = f c := by
  by_cases hc : c.toNat < 128
  · exact forall_ascii (P := fun c => f c.toLower = f c) h hc
  · rw [toLower_of_le (Nat.le_of_not_lt hc)]

theorem alike_toLower_ascii : ∀ n < 128,
    let c := Char.ofNat n
    lowerChar c.toLower = lowerChar c ∧ isCased c.toLower = isCased c ∧
      isCaseIgnorable c.toLower = isCaseIgnorable c ∧
      decide (c.toLower = 'Σ') = decide (c = 'Σ') := by
  decide +kernel

theorem lowerChar_toLower (c : Char) : lowerChar c.toLower = lowerChar c :=
  apply_toLower lowerChar (fun n hn => (alike_toLower_ascii n hn).1) c

theorem isCased_toLower (c : Char) : isCased c.toLower = isCased c :=
  apply_toLower isCased (fun n hn => (alike_toLower_ascii n hn).2.1) c

theorem isCaseIgnorable_toLower (c : Char) : isCaseIgnorable c.toLower = isCaseIgnorable c :=
  apply_toLower isCaseIgnorable (fun n hn => (alike_toLower_ascii n hn).2.2.1) c

theorem toLower_eq_sigma (c : Char) : c.toLower = 'Σ' ↔ c = 'Σ' := by
  have hsigma := apply_toLower (fun c => decide (c = 'Σ'))
    (fun n hn => (alike_toLower_ascii n hn).2.2.2) c
  simpa using hsigma

/-! ## Texts that fold alike -/

theorem startsCased_map (t : Text) : startsCased (t.map Char.toLower) = startsCased t := by
  induction t with
  | nil => rfl
  | cons c t ih =>
    unfold startsCased at ih ⊢
    rw [List.map_cons, List.dropWhile_cons, List.dropWhile_cons, isCaseIgnorable_toLower]
    by_cases hc : isCaseIgnorable c = true
    · rw [if_pos hc, if_pos hc]
      exact ih
    · rw [if_neg hc, if_neg hc]
      exact isCased_toLower c

theorem lowerFrom_map (before t : Text) :
    lowerFrom (before.map Char.toLower) (t.map Char.toLower) = lowerFrom before t := by
  induction t generalizing before with
  | nil => rfl
  | cons c t ih =>
    have hrest := ih (c :: before)
    rw [List.map_cons] at hrest ⊢
    rw [lowerFrom, lowerFrom, hrest]
    simp only [toLower_eq_sigma, startsCased_map, lowerChar_toLower]

theorem lower_asciiFold (t : Text) : lower (asciiFold t) = lower t := lowerFrom_map [] t

/-- Texts that differ in the case of ASCII letters only have the same lower case. -/
theorem lower_congr {s t : Text} (h : asciiFold s = asciiFold t) : lower s = lower t := by
  rw [← lower_asciiFold s, h, lower_asciiFold]

/-! ## Names behind a word -/

theorem startsCased_append {c : Char} (hc : isCaseIgnorable c = false) (s x : Text) :
    startsCased (s ++ c :: x) = startsCased (s ++ [c]) := by
  induction s with
  | nil => simp [startsCased, hc]
  | cons d s ih =>
    unfold startsCased at ih ⊢
    rw [List.cons_append, List.cons_append, List.dropWhile_cons, List.dropWhile_cons]
    by_cases hd : isCaseIgnorable d = true
    · rw [if_pos hd, if_pos hd]
      exact ih
    · rw [if_neg hd, if_neg hd]

/-- Of the text already passed, only what stands behind the last character that is not
Case_Ignorable matters, and that character. -/
theorem lowerFrom_append {c : Char} (hc : isCaseIgnorable c = false) (s x t : Text) :
    lowerFrom (s ++ c :: x) t = lowerFrom (s ++ [c]) t := by
  induction t generalizing s with
  | nil => rfl
  | cons d t ih =>
    have hrest := ih (d :: s)
    rw [List.cons_append, List.cons_append] at hrest
    rw [lowerFrom, lowerFrom, startsCased_append hc, hrest]

theorem lowerFrom_ascii_append {s : Text} (hs : ∀ c ∈ s, c.toNat < 128) (before t : Text) :
    lowerFrom before (s ++ t) = asciiFold s ++ lowerFrom (s.reverse ++ before) t := by
  induction s generalizing before with
  | nil => rfl
  | cons c s ih =>
    rw [List.forall_mem_cons] at hs
    obtain ⟨hc, hs⟩ := hs
    have hsigma : c ≠ 'Σ' := by
      rintro rfl
      exact absurd hc (by decide)
    have himage : lowerChar c = [c.toLower] := if_pos hc
    have hrest := ih hs (c :: before)
    rw [List.cons_append, lowerFrom, hrest, if_neg hsigma, himage]
    simp [asciiFold]

/-- A name that is empty or starts with an ASCII letter, a digit or an underscore. -/
def StartsPlain (t : Text) : Prop := ∀ c ∈ t.head?, c.isAlphanum = true ∨ c = '_'

theorem toNat_lt_of_isAlphanum {c : Char} (h : c.isAlphanum = true) : c.toNat < 128 := by
  unfold Char.isAlphanum Char.isAlpha Char.isUpper Char.isLower Char.isDigit at h
  simp only [Bool.or_eq_true, Bool.and_eq_true, decide_eq_true_eq, UInt32.le_iff_toNat_le,
    ge_iff_le] at h
  have hupper : 'Z'.val.toNat = 90 := rfl
  have hlower : 'z'.val.toNat = 122 := rfl
  have hdigit : '9'.val.toNat = 57 := rfl
  have hcode : c.toNat = c.val.toNat := rfl
  omega

theorem plain_ascii {c : Char} (h : c.isAlphanum = true ∨ c = '_') :
    c.toNat < 128 ∧ isCaseIgnorable c = false := by
  have hascii : c.toNat < 128 := by
    rcases h with h | rfl
    · exact toNat_lt_of_isAlphanum h
    · decide
  refine ⟨hascii, ?_⟩
  exact forall_ascii (P := fun c => c.isAlphanum = true ∨ c = '_' → isCaseIgnorable c = false)
    (by decide +kernel) hascii h

theorem asciiFold_capitalize {c : Char} (hc : c.toNat < 128) (t : Text) :
    asciiFold (capitalize (c :: t)) = asciiFold (c :: t) := by
  have hupper : upperChar c = [c.toUpper] := if_pos hc
  have hfold : c.toUpper.toLower = c.toLower :=
    forall_ascii (P := fun c => c.toUpper.toLower = c.toLower) (by decide +kernel) hc
  rw [capitalize, hupper]
  simp [asciiFold, hfold]

/-- Behind an ASCII word, a name that starts plainly has the lower case that it has alone, also when
its first letter is capitalized. -/
theorem lower_append_capitalize {s t : Text} (hs : ∀ c ∈ s, c.toNat < 128) (ht : StartsPlain t) :
    lower (s ++ capitalize t) = asciiFold s ++ lower t := by
  cases t with
  | nil =>
    have hword := lowerFrom_ascii_append hs [] []
    exact hword
  | cons c t =>
    obtain ⟨hascii, hc⟩ := plain_ascii (ht c rfl)
    have hsigma : c ≠ 'Σ' := by
      rintro rfl
      exact absurd hascii (by decide)
    have hfold : asciiFold (s ++ capitalize (c :: t)) = asciiFold (s ++ c :: t) := by
      have hcapital := asciiFold_capitalize hascii t
      unfold asciiFold at hcapital ⊢
      rw [List.map_append, List.map_append, hcapital]
    -- the word in front makes no difference: `c` is no sigma, and hides it from the sigmas behind
    have hbehind := lowerFrom_append hc [] s.reverse t
    rw [List.nil_append, List.nil_append] at hbehind
    rw [lower_congr hfold, lower, lowerFrom_ascii_append hs, List.append_nil, lower, lowerFrom,
      lowerFrom, hbehind, if_neg hsigma, if_neg hsigma]

end Accessors.Text
