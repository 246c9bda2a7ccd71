import Mathlib.Data.List.Basic
import Mathlib.Tactic.Common
import Accessors.Text.Basic

/-!
# Byte offsets and decompositions

An offset between two characters is the byte length of the text in front of it. The statements
here turn cuts at such offsets into decompositions of the text, and back.

* `takeBytes_append`, `dropBytes_append`: cutting behind a given front part.
* `isBoundary_iff`: an offset is a boundary exactly when it measures some front part.
* `append_eq_append_of_byteLength_le`: two decompositions of one text.
-/

namespace Accessors.Text

/-! ## Lengths -/

theorem byteLength_pos {t : Text} (h : t ≠ []) : 0 < byteLength t := by
  cases t with
  | nil => exact absurd rfl h
  | cons c t =>
    have := c.utf8Size_pos
    rw [byteLength_cons]
    omega

theorem byteLength_eq_zero {t : Text} : byteLength t = 0 ↔ t = [] := by
  constructor
  · intro h
    by_contra hne
    have := byteLength_pos hne
    omega
  · rintro rfl
    rfl

/-! ## Cuts behind a front part -/

@[simp] theorem takeBytes_zero (t : Text) : takeBytes t 0 = [] := by
  cases t with
  | nil => rfl
  | cons c t =>
    have := c.utf8Size_pos
    rw [takeBytes, if_neg (by omega)]

@[simp] theorem dropBytes_zero (t : Text) : dropBytes t 0 = t := by
  cases t with
  | nil => rfl
  | cons c t =>
    have := c.utf8Size_pos
    rw [dropBytes, if_neg (by omega)]

/-- Cutting at an offset behind the front part cuts the back part. -/
theorem takeBytes_append_add (s t : Text) (n : Nat) :
    takeBytes (s ++ t) (byteLength s + n) = s ++ takeBytes t n := by
  induction s with
  | nil => simp
  | cons c s ih =>
    rw [List.cons_append, takeBytes, byteLength_cons, if_pos (by omega),
      show c.utf8Size + byteLength s + n - c.utf8Size = byteLength s + n by omega, ih]
    rfl

theorem dropBytes_append_add (s t : Text) (n : Nat) :
    dropBytes (s ++ t) (byteLength s + n) = dropBytes t n := by
  induction s with
  | nil => simp
  | cons c s ih =>
    rw [List.cons_append, dropBytes, byteLength_cons, if_pos (by omega),
      show c.utf8Size + byteLength s + n - c.utf8Size = byteLength s + n by omega, ih]

@[simp] theorem takeBytes_append (s t : Text) : takeBytes (s ++ t) (byteLength s) = s := by
  simpa using takeBytes_append_add s t 0

@[simp] theorem dropBytes_append (s t : Text) : dropBytes (s ++ t) (byteLength s) = t := by
  simpa using dropBytes_append_add s t 0

@[simp] theorem takeBytes_byteLength (t : Text) : takeBytes t (byteLength t) = t := by
  simpa using takeBytes_append t []

theorem byteLength_takeBytes_le (t : Text) (n : Nat) : byteLength (takeBytes t n) ≤ n := by
  induction t generalizing n with
  | nil => exact Nat.zero_le n
  | cons c t ih =>
    rw [takeBytes]
    split
    · have := ih (n - c.utf8Size)
      rw [byteLength_cons]
      omega
    · exact Nat.zero_le n

theorem take_length_takeBytes (t : Text) (n : Nat) :
    t.take (takeBytes t n).length = takeBytes t n := by
  have htake : (takeBytes t n ++ dropBytes t n).take (takeBytes t n).length = takeBytes t n :=
    List.take_left
  rwa [takeBytes_append_dropBytes] at htake

/-- The text between two offsets that measure front parts. -/
theorem sliceBytes_append (s t u : Text) :
    sliceBytes (s ++ t ++ u) (byteLength s) (byteLength s + byteLength t) = t := by
  rw [sliceBytes, List.append_assoc, dropBytes_append, Nat.add_sub_cancel_left, takeBytes_append]

/-! ## Boundaries -/

theorem isBoundary_append (s t : Text) : IsBoundary (s ++ t) (byteLength s) := by
  rw [IsBoundary, takeBytes_append]

theorem isBoundary_iff {t : Text} {n : Nat} :
    IsBoundary t n ↔ ∃ s u, t = s ++ u ∧ byteLength s = n := by
  constructor
  · intro h
    exact ⟨takeBytes t n, dropBytes t n, (takeBytes_append_dropBytes t n).symm, h⟩
  · rintro ⟨s, u, rfl, rfl⟩
    exact isBoundary_append s u

/-- Cutting a text at an offset, and what is left at a later one, is cutting it at the later one. -/
theorem dropBytes_dropBytes {t : Text} {m n : Nat} (h : IsBoundary t n) (hle : n ≤ m) :
    dropBytes (dropBytes t n) (m - n) = dropBytes t m := by
  have hcut := dropBytes_append_add (takeBytes t n) (dropBytes t n) (m - n)
  rw [takeBytes_append_dropBytes, show byteLength (takeBytes t n) = n from h,
    Nat.add_sub_cancel' hle] at hcut
  exact hcut.symm

/-- Of two decompositions of one text, the one with the shorter front part cuts inside the front
part of the other. -/
theorem append_eq_append_of_byteLength_le {s t u v : Text} (h : s ++ t = u ++ v)
    (hle : byteLength s ≤ byteLength u) : ∃ w, u = s ++ w ∧ t = w ++ v := by
  rcases List.append_eq_append_iff.1 h with ⟨w, hu, ht⟩ | ⟨w, hs, hv⟩
  · exact ⟨w, hu, ht⟩
  · have hw : w = [] := by
      rw [hs, byteLength_append] at hle
      exact byteLength_eq_zero.1 (by omega)
    subst hw
    exact ⟨[], by simpa using hs.symm, by simpa using hv.symm⟩

theorem append_inj_of_byteLength {s t u v : Text} (h : s ++ t = u ++ v)
    (hlen : byteLength s = byteLength u) : s = u ∧ t = v := by
  have hs : takeBytes (s ++ t) (byteLength s) = s := takeBytes_append s t
  have ht : dropBytes (s ++ t) (byteLength s) = t := dropBytes_append s t
  rw [h, hlen, takeBytes_append] at hs
  rw [h, hlen, dropBytes_append] at ht
  exact ⟨hs.symm, ht.symm⟩

end Accessors.Text
