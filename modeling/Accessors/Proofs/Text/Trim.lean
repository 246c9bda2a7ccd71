import Accessors.Text.Blank
import Mathlib.Data.List.DropRight
import Mathlib.Tactic.Common

/-!
# Trimming

A text is what is left of it without the blanks at its ends, with these blanks around it.

* `exists_trim`: the blanks that trimming takes away.
* `trim_eq_nil_iff`: texts of which nothing is left.
* `trim_surrounded`: blanks around a text without blanks are taken away.
-/

namespace Accessors.Text

theorem exists_trim (t : Text) :
    ∃ front back, t = front ++ trim t ++ back ∧ isBlank front = true ∧ isBlank back = true := by
  refine ⟨t.takeWhile isBlankChar, (trimStart t).rtakeWhile isBlankChar, ?_, ?_, ?_⟩
  · have hstart : t.takeWhile isBlankChar ++ trimStart t = t := List.takeWhile_append_dropWhile
    have hend : trim t ++ (trimStart t).rtakeWhile isBlankChar = trimStart t :=
      List.rdropWhile_append_rtakeWhile
    rw [List.append_assoc, hend, hstart]
  · exact List.all_takeWhile
  · exact List.all_eq_true.2 fun c hc => List.mem_rtakeWhile_imp hc

theorem trim_eq_nil_iff {t : Text} : trim t = [] ↔ ∀ c ∈ t, isBlankChar c = true := by
  constructor
  · intro h
    obtain ⟨front, back, ht, hfront, hback⟩ := exists_trim t
    rw [ht, h]
    simp only [List.append_nil, List.mem_append]
    rintro c (hc | hc)
    · exact List.all_eq_true.1 hfront c hc
    · exact List.all_eq_true.1 hback c hc
  · intro h
    have hstart : trimStart t = [] := List.dropWhile_eq_nil_iff.2 h
    rw [trim, hstart]
    rfl

/-- Blanks around a text without blanks are taken away. -/
theorem trim_surrounded {front t back : Text} (hfront : isBlank front = true)
    (ht : ∀ c ∈ t, isBlankChar c = false) (hback : isBlank back = true) :
    trim (front ++ t ++ back) = t := by
  have hdrop : ∀ u : Text, trimStart (front ++ u) = trimStart u := by
    intro u
    exact List.dropWhile_append_of_pos (List.all_eq_true.1 hfront)
  cases t with
  | nil =>
    simp only [List.append_nil, trim_eq_nil_iff, List.mem_append]
    rintro c (hc | hc)
    · exact List.all_eq_true.1 hfront c hc
    · exact List.all_eq_true.1 hback c hc
  | cons c t =>
    have hc : ¬ isBlankChar c = true := by simp [ht c List.mem_cons_self]
    have hstart : trimStart (front ++ (c :: t) ++ back) = c :: t ++ back := by
      rw [List.append_assoc, hdrop]
      exact List.dropWhile_cons_of_neg hc
    have hlast : ¬ isBlankChar ((c :: t).getLast (List.cons_ne_nil c t)) = true := by
      simp [ht _ (List.getLast_mem (List.cons_ne_nil c t))]
    rw [trim, hstart, trimEnd, List.reverse_append,
      List.dropWhile_append_of_pos fun d hd => List.all_eq_true.1 hback d (List.mem_reverse.1 hd)]
    exact List.rdropWhile_eq_self_iff.2 fun _ => hlast

end Accessors.Text
