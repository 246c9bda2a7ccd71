import Accessors.Plan
import Accessors.Proofs.Document.Lines

/-!
# The text a plan inserts

* `Plan.exists_blocks`: where methods start and end.
* `Plan.insertedText_eq`: line breaks, the methods, and one line break at the end.
* `Plan.lineEnding_insert`: inserting such a text leaves the line ending of a document.
-/

namespace Accessors.Plan

open Document Text

/-! ## Methods and line breaks -/

/-- A method starts with its declaration and ends with its closing brace, a line break and a blank
line. -/
theorem exists_block (tabSize : Nat) (eol : Text) (a : Accessor) :
    ∃ t, a.block tabSize eol =
      spaces tabSize ++ "public function ".toList ++ t ++ ['\x7d'] ++ (eol ++ eol) := by
  refine ⟨a.name ++ ['('] ++ a.parameters ++ ") \x7b".toList ++ eol ++ spaces tabSize ++
    spaces tabSize ++ a.statement ++ eol ++ spaces tabSize, ?_⟩
  simp only [Accessor.block, List.append_assoc]

/-- So do methods one after the other. -/
theorem exists_blocks (tabSize : Nat) (eol : Text) {accessors : List Accessor}
    (h : accessors ≠ []) :
    ∃ t, accessors.flatMap (Accessor.block tabSize eol) =
      spaces tabSize ++ "public function ".toList ++ t ++ ['\x7d'] ++ (eol ++ eol) := by
  induction accessors with
  | nil => exact absurd rfl h
  | cons a rest ih =>
    obtain ⟨t, ht⟩ := exists_block tabSize eol a
    rw [List.flatMap_cons, ht]
    cases rest with
    | nil => exact ⟨t, by rw [List.flatMap_nil, List.append_nil]⟩
    | cons b rest =>
      obtain ⟨t', ht'⟩ := ih (by simp)
      refine ⟨t ++ ['\x7d'] ++ (eol ++ eol) ++ spaces tabSize ++ "public function ".toList ++ t', ?_⟩
      rw [ht']
      simp only [List.append_assoc]

/-- Of the two line breaks behind the last method one is dropped. -/
theorem insertedText_eq (eol : Text) (breaks : Nat) (body : Text) :
    insertedText eol breaks (body ++ (eol ++ eol)) = times breaks eol ++ body ++ eol := by
  have hends : endsWith (times breaks eol ++ (body ++ (eol ++ eol))) (eol ++ eol) = true := by
    rw [endsWith, List.isSuffixOf_iff_suffix]
    exact ⟨times breaks eol ++ body, by simp⟩
  rw [insertedText]
  simp only [hends, if_true]
  rw [show times breaks eol ++ (body ++ (eol ++ eol)) = (times breaks eol ++ body ++ eol) ++ eol by
    simp, List.length_append, Nat.add_sub_cancel, List.take_left]

/-- An inserted text starts with a line break. -/
theorem exists_insertedText (tabSize : Nat) (eol : Text) {breaks : Nat} (hbreaks : 0 < breaks)
    {accessors : List Accessor} (h : accessors ≠ []) :
    ∃ rest, insertedText eol breaks (accessors.flatMap (Accessor.block tabSize eol)) =
      eol ++ rest := by
  obtain ⟨t, ht⟩ := exists_blocks tabSize eol h
  obtain ⟨n, rfl⟩ : ∃ n, breaks = n + 1 := ⟨breaks - 1, by omega⟩
  rw [ht, insertedText_eq]
  refine ⟨times n eol ++ (spaces tabSize ++ "public function ".toList ++ t ++ ['\x7d']) ++ eol, ?_⟩
  simp [times, List.replicate_succ]

/-! ## The line ending -/

/-- A line break that is inserted behind `front`, in the style of the document, leaves the line
ending. If the first line break of the document stands behind, `front` must not end with a
carriage return that belongs to no line break. -/
theorem lineEnding_insert {front rest rest' : Text}
    (hfront : '\n' ∈ front ∨ front.getLast? ≠ some '\r' ∨ ∃ w, rest = '\r' :: '\n' :: w) :
    (ofText (front ++ (ofText (front ++ rest)).lineEnding.text ++ rest')).lineEnding =
      (ofText (front ++ rest)).lineEnding := by
  obtain ⟨raw, back, rfl, hraw, hback⟩ := exists_firstLine front
  rcases hback with rfl | ⟨b, rfl⟩
  · rw [List.append_nil]
    rw [List.append_nil] at hfront
    -- the inserted line break is now the first one
    cases h : (ofText (raw ++ rest)).lineEnding with
    | crlf =>
      rw [LineEnding.text, show raw ++ ['\r', '\n'] ++ rest' = (raw ++ ['\r']) ++ '\n' :: rest' by
        simp, lineEnding_append (by simp [hraw]), if_pos (by simp)]
    | lf =>
      rw [LineEnding.text, List.append_assoc, List.singleton_append, lineEnding_append hraw]
      rcases hfront with hmem | hlast | ⟨w, rfl⟩
      · exact absurd hmem hraw
      · rw [if_neg hlast]
      · rw [show raw ++ '\r' :: '\n' :: w = (raw ++ ['\r']) ++ '\n' :: w by simp,
          lineEnding_append (by simp [hraw]), if_pos (by simp)] at h
        cases h
  · simp only [List.append_assoc, List.cons_append, lineEnding_append hraw]

end Accessors.Plan
