import Accessors.Text.Number
import Mathlib.Tactic.Common

/-!
# Decimal notation

Writing a natural number in decimal and reading it back.

* `natValue?_ofNat`, `valueOf_ofNat`: a number is read back.
* `isDigit_of_mem_ofNat`: decimal notation consists of digits.
* `eq_zero_of_head?_ofNat`: only zero starts with a zero.
* `word64?_ofInt`: of the integers in decimal notation those that are not negative are words.
-/

namespace Accessors.Text

theorem isDigit_of_mem_ofNat {n : Nat} {c : Char} (h : c ∈ ofNat n) : c.isDigit = true :=
  Nat.isDigit_of_mem_toDigits (by decide) (by decide) h

theorem exists_ofNat_eq_cons (n : Nat) :
    ∃ d t, ofNat n = d :: t ∧ d.isDigit = true := by
  have hne : ofNat n ≠ [] := by simp [ofNat]
  obtain ⟨d, t, hcons⟩ := List.exists_cons_of_ne_nil hne
  exact ⟨d, t, hcons, isDigit_of_mem_ofNat (n := n) (by simp [hcons])⟩

/-- Only zero starts with a zero. -/
theorem eq_zero_of_head?_ofNat {n : Nat} (h : (ofNat n).head? = some '0') : n = 0 := by
  induction n using Nat.strongRecOn with
  | ind n ih =>
    rw [ofNat, Nat.toDigits_eq_if (by decide)] at h
    split at h
    · rename_i hlt
      have hdigit : ∀ n < 10, Nat.digitChar n = '0' → n = 0 := by decide
      exact hdigit n hlt (by simpa using h)
    · rename_i hge
      have hne : Nat.toDigits 10 (n / 10) ≠ [] := by simp
      rw [List.head?_append, List.head?_eq_some_head hne, Option.some_or,
        ← List.head?_eq_some_head hne] at h
      have hzero := ih (n / 10) (by omega) h
      omega

theorem natValueFrom_of_digits {t : Text} (h : ∀ c ∈ t, c.isDigit = true) (acc : Nat) :
    natValueFrom acc t = some (Nat.ofDigitChars 10 t acc) := by
  induction t generalizing acc with
  | nil => rfl
  | cons c t ih =>
    rw [List.forall_mem_cons] at h
    have hdigit : digitValue? c = some (c.toNat - '0'.toNat) := if_pos h.1
    rw [natValueFrom, hdigit, Option.bind_some, ih h.2, Nat.ofDigitChars_cons]

theorem foldl_digitOf {t : Text} (h : ∀ c ∈ t, c.isDigit = true) (acc : Nat) :
    t.foldl (fun n c => 10 * n + digitOf c) acc = Nat.ofDigitChars 10 t acc := by
  induction t generalizing acc with
  | nil => rfl
  | cons c t ih =>
    rw [List.forall_mem_cons] at h
    rw [List.foldl_cons, ih h.2, Nat.ofDigitChars_cons, digitOf, if_pos h.1]

theorem valueOf_ofNat (n : Nat) : valueOf 10 (ofNat n) = n := by
  rw [valueOf, foldl_digitOf fun c hc => isDigit_of_mem_ofNat hc]
  exact Nat.ofDigitChars_ten_toDigits

/-- A number in decimal notation is read back. -/
theorem natValue?_ofNat (n : Nat) : natValue? (ofNat n) = some n := by
  have hne : (ofNat n).isEmpty = false := by simp [ofNat]
  have hdigits : ∀ c ∈ ofNat n, c.isDigit = true := fun c hc => isDigit_of_mem_ofNat hc
  rw [natValue?, hne, natValueFrom_of_digits hdigits]
  simp [ofNat, Nat.ofDigitChars_ten_toDigits]

theorem word64?_ofNat {n : Nat} (h : n < UInt64.size) : word64? (ofNat n) = some n := by
  have hplus : ∀ rest, ofNat n ≠ '+' :: rest := by
    intro rest heq
    have hdigit : '+'.isDigit = true := isDigit_of_mem_ofNat (heq ▸ List.mem_cons_self)
    exact absurd hdigit (by decide)
  rw [word64?, natValue?_ofNat, Option.filter_some, if_pos (decide_eq_true h)]
  exact hplus

theorem word64?_neg (t : Text) : word64? ('-' :: t) = none := rfl

/-- An integer in decimal notation is read as a word if it is not negative. -/
theorem word64?_ofInt {w : Int} (h : w < UInt64.size) :
    word64? (ofInt w) = if 0 ≤ w then some w.toNat else none := by
  by_cases hw : 0 ≤ w
  · obtain ⟨n, rfl⟩ := Int.eq_ofNat_of_zero_le hw
    rw [if_pos hw, Int.toNat_natCast]
    exact word64?_ofNat (Int.ofNat_lt.1 h)
  · obtain ⟨n, rfl⟩ := Int.eq_negSucc_of_lt_zero (Int.not_le.1 hw)
    rw [if_neg hw]
    exact word64?_neg _

end Accessors.Text
