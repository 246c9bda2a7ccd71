import Accessors.Style
import Mathlib.Data.List.Basic

/-!
# How styled texts look

A text in a style stands between the sequence that starts the style and the one that ends every
style. Where the text itself ends all styles, its style is started again.

* `Painted`: how a text looks in the style with a number.
* `painted_paint`: every style paints in this way.
* `Painted.eq_of_free`, `paint_of_free`: a text that ends no style is shown as it is.
-/

namespace Accessors.Style

/-- How a text looks in the style with a number; the pieces are what stands between the ends of
styles in it. -/
def Painted (colors : Bool) (number t shown : Text) : Prop :=
  if colors then ∃ pieces : List Text, t = "\x1b[0m".toList.intercalate pieces ∧
    (∀ piece ∈ pieces, ¬ "\x1b[0m".toList <:+: piece) ∧
    shown = "\x1b[".toList ++ number ++ ['m'] ++
      ("\x1b[0m\x1b[".toList ++ number ++ ['m']).intercalate pieces ++ "\x1b[0m".toList
  else shown = t

section

variable (separator piece : Text) (pieces : List Text)

theorem intercalate_cons_head (c : Char) :
    separator.intercalate ((c :: piece) :: pieces) =
      c :: separator.intercalate (piece :: pieces) := by
  cases pieces with
  | nil => rfl
  | cons next pieces => simp only [List.intercalate_cons_cons, List.cons_append]

theorem head_prefix_intercalate : piece <+: separator.intercalate (piece :: pieces) := by
  cases pieces with
  | nil => simp only [List.intercalate_singleton, List.prefix_rfl]
  | cons next pieces =>
    rw [List.intercalate_cons_cons, List.append_assoc]
    exact List.prefix_append ..

end

/-- The pieces between the resets in a text, with a sequence put behind each reset. -/
theorem exists_pieces (again t : Text) :
    ∃ piece pieces, t = reset.intercalate (piece :: pieces) ∧
      (∀ p ∈ piece :: pieces, ¬ reset <:+: p) ∧
      afterResets again t = (reset ++ again).intercalate (piece :: pieces) := by
  fun_induction afterResets again t with
  | case1 => exact ⟨[], [], rfl, by decide, rfl⟩
  | case2 t ih =>
    obtain ⟨piece, pieces, ht, hfree, hafter⟩ := ih
    refine ⟨[], piece :: pieces, ?_, List.forall_mem_cons.2 ⟨by decide, hfree⟩, ?_⟩
    · rw [List.intercalate_cons_cons, ← ht]
      rfl
    · rw [List.intercalate_cons_cons, hafter, List.nil_append]
  | case3 c t hnot ih =>
    obtain ⟨piece, pieces, ht, hfree, hafter⟩ := ih
    rw [List.forall_mem_cons] at hfree
    refine ⟨c :: piece, pieces, by rw [intercalate_cons_head, ← ht],
      List.forall_mem_cons.2 ⟨?_, hfree.2⟩, by rw [intercalate_cons_head, hafter]⟩
    rw [List.infix_cons_iff, not_or]
    refine ⟨fun hfront => ?_, hfree.1⟩
    -- a reset at the front of the first piece would stand at the front of the text
    have hpiece : c :: piece <+: c :: t := by
      rw [ht, ← intercalate_cons_head]
      exact head_prefix_intercalate ..
    obtain ⟨rest, hrest⟩ := hfront.trans hpiece
    rw [reset] at hrest
    cases hrest
    exact hnot rest rfl rfl

/-- Every style paints with its number. -/
theorem painted_paint (colors : Bool) (style : Style) (t : Text) :
    Painted colors style.code t (style.paint colors t) := by
  cases colors with
  | false => exact rfl
  | true =>
    obtain ⟨piece, pieces, ht, hfree, hafter⟩ := exists_pieces style.opening t
    refine ⟨piece :: pieces, ht, hfree, ?_⟩
    rw [paint, if_pos rfl, hafter]
    simp [opening, reset]

/-- A text that ends no style is shown as it is. -/
theorem Painted.eq_of_free {colors : Bool} {number t shown : Text}
    (h : Painted colors number t shown) (hfree : ¬ "\x1b[0m".toList <:+: t) :
    shown = if colors then "\x1b[".toList ++ number ++ ['m'] ++ t ++ "\x1b[0m".toList
      else t := by
  cases colors with
  | false => exact h
  | true =>
    obtain ⟨pieces, rfl, -, rfl⟩ := h
    cases pieces with
    | nil => rfl
    | cons piece pieces =>
      cases pieces with
      | nil => simp
      | cons next pieces =>
        refine absurd ?_ hfree
        rw [List.intercalate_cons_cons]
        exact (List.suffix_append ..).isInfix.trans (List.prefix_append ..).isInfix

/-- A text without the character that starts a sequence is shown as it is. -/
theorem paint_of_free {t : Text} (h : '\x1b' ∉ t) (colors : Bool) (style : Style) :
    style.paint colors t =
      if colors then "\x1b[".toList ++ style.code ++ ['m'] ++ t ++ "\x1b[0m".toList else t :=
  (painted_paint colors style t).eq_of_free fun hreset => h (hreset.subset (by decide))

end Accessors.Style
