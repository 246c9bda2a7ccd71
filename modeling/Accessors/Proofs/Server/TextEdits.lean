import Accessors.Proofs.Document.Lines
import Accessors.Proofs.Generate.Outcome
import Accessors.Server.CodeAction
import Mathlib.Algebra.GroupWithZero.Nat

/-!
# Edits in the editor's positions

An editor reads a position as a line between line feeds and a number of UTF-16 code units on it. A
planned edit goes through three measures on its way there: its columns count characters and may lie
behind the end of their lines, its spans count bytes, and the editor counts units. Read back, the
positions sent to the editor are the byte offsets of the edits that the run itself applies, so the
editor and the run arrive at the same text.

* `Text.takeUnits?`, `Document.unitOffset?`: how an editor reads a position.
* `TextEdit.patch?`, `TextEdit.applyAll?`: how it reads edits, and the text it makes of them.
* `Document.unitOffset?_unitPosition`: what is sent for a position reads back as its offset.
* `CodeAction.edits_agree`: the edits of a code action give the output of the run behind it.
-/

namespace Accessors

open Document Text

/-! ## Code units -/

namespace Text

/-- The front part of a text that has a number of UTF-16 code units. There is none when the text is
shorter, or when the number ends inside a character. -/
def takeUnits? : Text → Nat → Option Text
  | _, 0 => some []
  | [], _ + 1 => none
  | c :: t, n + 1 =>
    if unitLength [c] ≤ n + 1 then (takeUnits? t (n + 1 - unitLength [c])).map (c :: ·) else none

theorem unitLength_cons (c : Char) (t : Text) :
    unitLength (c :: t) = unitLength [c] + unitLength t := unitLength_append [c] t

theorem unitLength_singleton_pos (c : Char) : 0 < unitLength [c] := by
  rw [unitLength]
  split <;> simp

theorem takeUnits?_append (s t : Text) : takeUnits? (s ++ t) (unitLength s) = some s := by
  induction s with
  | nil =>
    rw [unitLength_nil, takeUnits?]
  | cons c s ih =>
    have hpos := unitLength_singleton_pos c
    obtain ⟨n, hn⟩ : ∃ n, unitLength (c :: s) = n + 1 :=
      ⟨unitLength (c :: s) - 1, by rw [unitLength_cons]; omega⟩
    have hrest : n + 1 - unitLength [c] = unitLength s := by
      rw [← hn, unitLength_cons]
      omega
    rw [hn, List.cons_append, takeUnits?, if_pos (by rw [unitLength_cons] at hn; omega), hrest, ih]
    rfl

theorem unitLength_le_byteLength (t : Text) : unitLength t ≤ byteLength t := by
  induction t with
  | nil => exact Nat.le_refl 0
  | cons c t ih =>
    have hc : unitLength [c] ≤ c.utf8Size := by
      have hpos := c.utf8Size_pos
      simp only [unitLength, Char.utf8Size, UInt32.le_iff_toNat_le, UInt32.lt_iff_toNat_lt] at hpos ⊢
      simp only [UInt32.reduceToNat] at hpos ⊢
      grind
    rw [unitLength_cons, byteLength_cons]
    omega

theorem count_le_byteLength (c : Char) (t : Text) : t.count c ≤ byteLength t := by
  induction t with
  | nil => exact Nat.le_refl 0
  | cons d t ih =>
    have := d.utf8Size_pos
    rw [List.count_cons, byteLength_cons]
    split <;> omega

end Text

/-! ## Positions -/

namespace Document

/-- Byte offset of a place whose column counts UTF-16 code units: the lines above it, each with its
line feed, and the front part of its own line. -/
def unitOffset? (t : Text) (p : Position) : Option Nat := do
  let lines := splitOn '\n' t
  let line ← lines[p.line]?
  let front ← takeUnits? line p.column
  return ((lines.take p.line).map fun above => byteLength above + 1).sum + byteLength front

theorem sum_take_of_lineStartIn {lines : List Text} {n start : Nat}
    (h : lineStartIn lines n = some start) :
    ((lines.take n).map fun above => byteLength above + 1).sum = start := by
  induction lines generalizing n start with
  | nil => cases h
  | cons line lines ih =>
    cases n with
    | zero =>
      cases h
      rfl
    | succ n =>
      rw [lineStartIn] at h
      obtain ⟨below, hbelow, hstart⟩ := Option.map_eq_some_iff.1 h
      rw [List.take_succ_cons, List.map_cons, List.sum_cons, ih hbelow, hstart]

theorem unitPosition_append {front x : Text} (y : Text)
    (hfront : front = [] ∨ ∃ f, front = f ++ ['\n']) (hx : '\n' ∉ x) {p : Position}
    (hp : (ofText (front ++ x ++ y)).offsetAt p = byteLength (front ++ x)) :
    (ofText (front ++ x ++ y)).unitPosition p = ⟨front.count '\n', unitLength x⟩ := by
  obtain ⟨z, back, -, hline⟩ := exists_lineAt_append y hfront hx
  have hstart : (ofText (front ++ x ++ y)).offsetAt ⟨front.count '\n', 0⟩ = byteLength front := by
    rw [hline.offsetAt, List.take_zero, byteLength_nil, Nat.add_zero]
  rw [unitPosition, hp]
  simp only [positionAt_append y hfront hx, hstart, text_ofText]
  rw [byteLength_append, sliceBytes_append]

theorem unitOffset?_append {front x : Text} (y : Text)
    (hfront : front = [] ∨ ∃ f, front = f ++ ['\n']) (hx : '\n' ∉ x) :
    unitOffset? (front ++ x ++ y) ⟨front.count '\n', unitLength x⟩ =
      some (byteLength (front ++ x)) := by
  obtain ⟨z, back, -, hline⟩ := exists_lineAt_append y hfront hx
  obtain ⟨hget, hstart⟩ := hline.splitOn
  rw [unitOffset?]
  simp only [hget, takeUnits?_append, sum_take_of_lineStartIn hstart, Option.bind_eq_bind,
    Option.bind_some, byteLength_append]
  rfl

/-- What is sent to an editor for a position reads back as the offset of the position. -/
theorem unitOffset?_unitPosition (t : Text) (p : Position) :
    unitOffset? t ((ofText t).unitPosition p) = some ((ofText t).offsetAt p) := by
  obtain ⟨front, x, y, rfl, hfront, hx, hp⟩ := exists_offsetAt t p
  rw [unitPosition_append y hfront hx hp, unitOffset?_append y hfront hx, hp]

theorem unitPosition_le (t : Text) (p : Position) :
    ((ofText t).unitPosition p).line ≤ byteLength t ∧
      ((ofText t).unitPosition p).column ≤ byteLength t := by
  obtain ⟨front, x, y, rfl, hfront, hx, hp⟩ := exists_offsetAt t p
  have hline := count_le_byteLength '\n' front
  have hcolumn := unitLength_le_byteLength x
  rw [unitPosition_append y hfront hx hp, byteLength_append, byteLength_append]
  constructor
  · show front.count '\n' ≤ _
    omega
  · show unitLength x ≤ _
    omega

end Document

/-! ## Edits -/

namespace TextEdit

/-- What an edit puts where, as an editor reads it. -/
def patch? (source : Text) (e : TextEdit) : Option Patch := do
  let start ← unitOffset? source e.range.start
  let stop ← unitOffset? source e.range.stop
  return ⟨start, stop, e.newText⟩

/-- The text after all edits at once, as an editor makes it. -/
def applyAll? (source : Text) (edits : List TextEdit) : Option Text := do
  let patches ← edits.mapM (patch? source)
  return Patch.applyAll source patches

/-- The line and column numbers of an edit fit into 32 bits. -/
def Narrow (e : TextEdit) : Prop :=
  (e.range.start.line < 2 ^ 32 ∧ e.range.start.column < 2 ^ 32) ∧
    e.range.stop.line < 2 ^ 32 ∧ e.range.stop.column < 2 ^ 32

end TextEdit

theorem PlannedEdit.patch_toEdit {source : Text} (hlen : byteLength source < 2 ^ 32)
    (e : PlannedEdit) :
    (e.toEdit (ofText source)).patch =
      ⟨(ofText source).offsetAt e.insertAt.span.start, (ofText source).offsetAt e.insertAt.span.stop,
        e.text⟩ := by
  have hstart := offsetAt_le source e.insertAt.span.start
  have hstop := offsetAt_le source e.insertAt.span.stop
  -- offsets are kept as 32-bit words, which lose nothing of a text this short
  simp only [Edit.patch, PlannedEdit.toEdit, Edit.startOffset, Edit.stopOffset, Edit.replace,
    UInt32.toNat_ofNat', Patch.mk.injEq]
  exact ⟨Nat.mod_eq_of_lt (by omega), Nat.mod_eq_of_lt (by omega), trivial⟩

/-- An editor reads a planned edit as the run applies it. -/
theorem TextEdit.patch?_ofPlanned {source : Text} (hlen : byteLength source < 2 ^ 32)
    (e : PlannedEdit) :
    (ofPlanned (ofText source) e).patch? source = some (e.toEdit (ofText source)).patch := by
  rw [PlannedEdit.patch_toEdit hlen, patch?, ofPlanned]
  simp only [unitOffset?_unitPosition]
  rfl

theorem TextEdit.narrow_ofPlanned {source : Text} (hlen : byteLength source < 2 ^ 32)
    (e : PlannedEdit) : (ofPlanned (ofText source) e).Narrow := by
  have hstart := unitPosition_le source e.insertAt.span.start
  have hstop := unitPosition_le source e.insertAt.span.stop
  simp only [Narrow, ofPlanned]
  omega

theorem TextEdit.applyAll?_ofPlanned {source : Text} (hlen : byteLength source < 2 ^ 32)
    (planned : List PlannedEdit) :
    applyAll? source (planned.map (ofPlanned (ofText source))) =
      some (Patch.applyAll source
        ((planned.map (PlannedEdit.toEdit (ofText source))).map Edit.patch)) := by
  have hpatches : (planned.map (ofPlanned (ofText source))).mapM (patch? source) =
      some ((planned.map (PlannedEdit.toEdit (ofText source))).map Edit.patch) := by
    induction planned with
    | nil => rfl
    | cons e planned ih =>
      rw [List.map_cons, List.mapM_cons, patch?_ofPlanned hlen, ih]
      rfl
  rw [applyAll?, hpatches]
  rfl

/-- The edits of a code action agree with the run behind it. Each of them, read back, is the span and
the replacement of the edit that the run applies, with numbers that fit into 32 bits; no two of the
spans get in each other's way; and making all of them at once gives the output of the run. -/
theorem CodeAction.edits_agree {source : Text} (hlen : byteLength source < 2 ^ 32)
    (settings : ServerSettings) (action : Action) {planned : List PlannedEdit} {edits : List Edit}
    {output : Text}
    (hrun : generateAll source ⟨action.kinds, settings.visibility, settings.tabSize⟩ =
      .ok (.edited planned edits output)) :
    ∃ textEdits, textEdits = planned.map (TextEdit.ofPlanned (ofText source)) ∧
      CodeAction.of? settings source action = some ⟨action, textEdits⟩ ∧
      List.Forall₂ (fun t e => TextEdit.patch? source t = some (Edit.patch e) ∧ t.Narrow)
        textEdits edits ∧
      edits.Pairwise Edit.Apart ∧
      TextEdit.applyAll? source textEdits = some output := by
  obtain ⟨rfl, hbatch⟩ := generate_eq_edited hrun
  obtain ⟨hfit, hapart⟩ := Edit.checkBatch_eq_ok_iff.1 (Edit.checkBatch_of_applyAll hbatch)
  refine ⟨_, rfl, ?_, ?_, hapart, ?_⟩
  · rw [of?, hrun]
  · rw [List.forall₂_map_left_iff, List.forall₂_map_right_iff, List.forall₂_same]
    intro e _
    exact ⟨TextEdit.patch?_ofPlanned hlen e, TextEdit.narrow_ofPlanned hlen e⟩
  · rw [Edit.applyAll_eq_patches hfit hapart] at hbatch
    cases hbatch
    exact TextEdit.applyAll?_ofPlanned hlen planned

/-- In front of the edit there are a character of four bytes and two units and one of two bytes and
one unit, and lines end with carriage returns. -/
theorem CodeAction.edits_agree_astral :
    let source := "<?php\r\nclass A \x7b /* 😀é */ private $a;  \x7d\r\n".toList
    let settings : ServerSettings := ⟨.isPrivate, 4⟩
    ∃ textEdits output, CodeAction.of? settings source .getters = some ⟨.getters, textEdits⟩ ∧
      textEdits.map TextEdit.range = [⟨⟨1, 31⟩, ⟨1, 33⟩⟩] ∧
      Generation.output? (generateAll source ⟨Action.getters.kinds, .isPrivate, 4⟩) = some output ∧
      TextEdit.applyAll? source textEdits = some output := by
  intro source settings
  let output :=
    "<?php\r\nclass A \x7b /* 😀é */ private $a;\r\n\r\n".toList ++
      "    public function getA() \x7b\r\n        return $this->a;\r\n".toList ++
      "    \x7d\r\n\x7d\r\n".toList
  obtain ⟨houtput, hranges⟩ :
      Generation.output? (generateAll source ⟨Action.getters.kinds, .isPrivate, 4⟩) =
          some output ∧
        (CodeAction.of? settings source .getters).map (fun a => a.edits.map TextEdit.range) =
          some [⟨⟨1, 31⟩, ⟨1, 33⟩⟩] := by
    decide +kernel
  obtain ⟨planned, edits, hrun⟩ := Generation.exists_of_output? houtput
  obtain ⟨textEdits, -, haction, -, -, hsame⟩ :=
    CodeAction.edits_agree (by decide) settings .getters hrun
  rw [haction, Option.map_some, Option.some.injEq] at hranges
  exact ⟨textEdits, output, haction, hranges, houtput, hsame⟩

end Accessors
