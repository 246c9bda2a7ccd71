import Accessors.Text.Basic
import Mathlib.Tactic.Common

/-!
# Pieces of a text

A text and its pieces between the occurrences of a character. A separator divides the pieces in
front of it from those behind it, and every other character belongs to the piece that it stands in.

* `splitOn_append_break`: the pieces on both sides of a separator.
* `splitOn_free`, `splitOn_append`: a piece without a separator in it.
* `length_splitOn`: how many pieces there are.
* `mem_iff_splitOn`: the characters of the pieces are those of the text but for the separators.
* `splitOn_join`: joined pieces are split again.
-/

namespace Accessors.Text

variable {c d : Char}

theorem splitOn_break (t : Text) : splitOn c (c :: t) = [] :: splitOn c t := by
  rw [splitOn, if_pos rfl]

/-- A character that is no separator joins the first piece. -/
theorem exists_splitOn_cons (hd : d ≠ c) (t : Text) :
    ∃ piece pieces, splitOn c t = piece :: pieces ∧
      splitOn c (d :: t) = (d :: piece) :: pieces := by
  rw [splitOn, if_neg hd]
  cases h : splitOn c t with
  | nil => exact absurd h (splitOn_ne_nil _ _)
  | cons piece pieces => exact ⟨piece, pieces, rfl, rfl⟩

theorem splitOn_append_break (s t : Text) :
    splitOn c (s ++ c :: t) = splitOn c s ++ splitOn c t := by
  induction s with
  | nil => exact splitOn_break t
  | cons d s ih =>
    by_cases hd : d = c
    · subst hd
      rw [List.cons_append, splitOn_break, splitOn_break, ih]
      rfl
    · obtain ⟨piece, pieces, hpiece, hcons⟩ := exists_splitOn_cons hd s
      obtain ⟨piece', pieces', hpiece', hcons'⟩ := exists_splitOn_cons hd (s ++ c :: t)
      rw [ih, hpiece, List.cons_append, List.cons.injEq] at hpiece'
      rw [List.cons_append, hcons', hcons, ← hpiece'.1, ← hpiece'.2]
      rfl

theorem splitOn_free {t : Text} (h : c ∉ t) : splitOn c t = [t] := by
  induction t with
  | nil => rfl
  | cons d t ih =>
    rw [List.mem_cons, not_or] at h
    rw [splitOn, if_neg (Ne.symm h.1), ih h.2]

theorem splitOn_append {s : Text} (h : c ∉ s) (t : Text) :
    splitOn c (s ++ c :: t) = s :: splitOn c t := by
  rw [splitOn_append_break, splitOn_free h, List.singleton_append]

theorem length_splitOn (c : Char) (t : Text) : (splitOn c t).length = t.count c + 1 := by
  induction t with
  | nil => rfl
  | cons d t ih =>
    rw [splitOn]
    split
    · rename_i hd
      rw [hd, List.count_cons_self, List.length_cons, ih]
    · rename_i hd
      rw [List.count_cons_of_ne hd, ← ih]
      cases h : splitOn c t with
      | nil => exact absurd h (splitOn_ne_nil c t)
      | cons piece pieces => rfl

/-- The characters of the pieces are those of the text but for the separators. -/
theorem mem_iff_splitOn {t : Text} (hd : d ≠ c) : d ∈ t ↔ ∃ piece ∈ splitOn c t, d ∈ piece := by
  induction t with
  | nil => simp [splitOn]
  | cons e t ih =>
    by_cases he : e = c
    · subst he
      rw [splitOn_break, List.mem_cons, or_iff_right hd, ih]
      simp
    · obtain ⟨piece, pieces, hpieces, hcons⟩ := exists_splitOn_cons he t
      rw [hpieces] at ih
      rw [List.mem_cons, ih, hcons]
      simp [or_assoc]

theorem not_mem_of_mem_splitOn {t piece : Text} (h : piece ∈ splitOn c t) : c ∉ piece := by
  induction t generalizing piece with
  | nil =>
    rw [splitOn, List.mem_singleton] at h
    rw [h]
    exact List.not_mem_nil
  | cons e t ih =>
    by_cases he : e = c
    · subst he
      rw [splitOn_break, List.mem_cons] at h
      rcases h with rfl | h
      · exact List.not_mem_nil
      · exact ih h
    · obtain ⟨first, pieces, hpieces, hcons⟩ := exists_splitOn_cons he t
      rw [hpieces] at ih
      rw [hcons, List.mem_cons] at h
      rcases h with rfl | h
      · rw [List.mem_cons, not_or]
        exact ⟨Ne.symm he, ih List.mem_cons_self⟩
      · exact ih (List.mem_cons_of_mem _ h)

theorem join_cons_cons (separator s t : Text) (pieces : List Text) :
    join separator (s :: t :: pieces) = s ++ separator ++ join separator (t :: pieces) := rfl

theorem join_cons (separator first : Text) (rest : List Text) :
    join separator (first :: rest) = first ++ rest.flatMap (separator ++ ·) := by
  induction rest generalizing first with
  | nil => simp [join]
  | cons second rest ih =>
    rw [join, ih, List.flatMap_cons, List.append_assoc, List.append_assoc]
    simp

theorem join_eq_intercalate (separator : Text) (pieces : List Text) :
    join separator pieces = separator.intercalate pieces := by
  induction pieces with
  | nil => rfl
  | cons piece pieces ih =>
    cases pieces with
    | nil => simp [join]
    | cons next pieces => rw [join_cons_cons, ih, List.intercalate_cons_cons]

theorem join_concat {pieces : List Text} (hne : pieces ≠ []) (separator t : Text) :
    join separator (pieces ++ [t]) = join separator pieces ++ separator ++ t := by
  induction pieces with
  | nil => exact absurd rfl hne
  | cons piece pieces ih =>
    cases pieces with
    | nil => rfl
    | cons next pieces =>
      have hrest := ih (List.cons_ne_nil next pieces)
      rw [List.cons_append] at hrest ⊢
      rw [List.cons_append, join_cons_cons, join_cons_cons, hrest]
      simp only [List.append_assoc]

/-- What follows joined pieces belongs to the last one. -/
theorem join_concat_append (pieces : List Text) (separator s t : Text) :
    join separator (pieces ++ [s]) ++ t = join separator (pieces ++ [s ++ t]) := by
  by_cases hne : pieces = []
  · rw [hne]
    rfl
  · rw [join_concat hne, join_concat hne, List.append_assoc]

/-- Joined pieces are split again. -/
theorem splitOn_join {pieces : List Text} (hne : pieces ≠ []) (h : ∀ piece ∈ pieces, c ∉ piece) :
    splitOn c (join [c] pieces) = pieces := by
  induction pieces with
  | nil => exact absurd rfl hne
  | cons piece pieces ih =>
    rw [List.forall_mem_cons] at h
    cases pieces with
    | nil => exact splitOn_free h.1
    | cons next pieces =>
      rw [join_cons_cons, List.append_assoc, List.singleton_append, splitOn_append h.1,
        ih (List.cons_ne_nil next pieces) h.2]

end Accessors.Text
