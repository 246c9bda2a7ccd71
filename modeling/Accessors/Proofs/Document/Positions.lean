import Accessors.Proofs.Document.Lines
import Mathlib.Data.Prod.Lex

/-!
# Offsets and positions

The offset of a position and the position of an offset invert each other as far as they can. A line
does not show the carriage return at its end, so from behind such a carriage return the way to a
position and back ends in front of it. A column that is too large stands for the end of its line,
and a line that is too large for the end of the document.

* `Text.InsideChar`, `Text.not_isBoundary_iff`: offsets inside a character.
* `endPosition`, `positionAt_of_byteLength_le`: the end of a document.
* `BehindReturn`, `LineAt.offsetAt_length`: from an offset to its position and back.
* `positionAt?_offsetAt`: from a position to its offset and back.
* `offsetAt_mono`: offsets grow with positions.
* `offsetAt_positionAt_inverse`: all this together.
-/

namespace Accessors

/-! ## Offsets inside a character -/

namespace Text

/-- The offset lies strictly inside a character. -/
def InsideChar (t : Text) (o : Nat) : Prop :=
  ∃ s c u, t = s ++ c :: u ∧ byteLength s < o ∧ o < byteLength s + c.utf8Size

theorem takeBytes_of_byteLength_le {t : Text} {n : Nat} (h : byteLength t ≤ n) :
    takeBytes t n = t := by
  have hcut := takeBytes_append_add t [] (n - byteLength t)
  rwa [List.append_nil, Nat.add_sub_cancel' h, takeBytes, List.append_nil] at hcut

/-- A cut that leaves a character behind it does not reach past that character. -/
theorem lt_of_dropBytes_eq_cons {t u : Text} {c : Char} {n : Nat} (h : dropBytes t n = c :: u) :
    n < byteLength (takeBytes t n) + c.utf8Size := by
  induction t generalizing n with
  | nil => cases h
  | cons d t ih =>
    rw [dropBytes] at h
    rw [takeBytes]
    split at h
    · rename_i hd
      have := ih h
      rw [if_pos hd, byteLength_cons]
      omega
    · rename_i hd
      rw [List.cons.injEq] at h
      rw [if_neg hd, byteLength_nil, ← h.1]
      omega

/-- An offset is no boundary exactly when it lies inside a character; offsets behind the end stand
for the end. -/
theorem not_isBoundary_iff {t : Text} {o : Nat} :
    ¬ IsBoundary t (min o (byteLength t)) ↔ InsideChar t o := by
  constructor
  · intro h
    have hcut := takeBytes_append_dropBytes t (min o (byteLength t))
    have hlen := congrArg byteLength hcut
    have hle := byteLength_takeBytes_le t (min o (byteLength t))
    rw [byteLength_append] at hlen
    rw [IsBoundary] at h
    cases hdrop : dropBytes t (min o (byteLength t)) with
    | nil =>
      rw [hdrop, byteLength_nil] at hlen
      omega
    | cons c u =>
      have hlt := lt_of_dropBytes_eq_cons hdrop
      rw [hdrop] at hcut hlen
      rw [byteLength_cons] at hlen
      exact ⟨_, c, u, hcut.symm, by omega, by omega⟩
  · rintro ⟨s, c, u, rfl, hlt, hlt'⟩ h
    rw [byteLength_append, byteLength_cons, Nat.min_eq_left (by omega)] at h
    obtain ⟨s', u', heq, rfl⟩ := isBoundary_iff.1 h
    obtain ⟨w, rfl, hw⟩ := append_eq_append_of_byteLength_le heq (Nat.le_of_lt hlt)
    rw [byteLength_append] at hlt hlt'
    -- what is between the two cuts starts with the whole character
    cases w with
    | nil =>
      rw [byteLength_nil] at hlt
      omega
    | cons d w =>
      rw [List.cons_append, List.cons.injEq] at hw
      rw [byteLength_cons, ← hw.1] at hlt'
      omega

end Text

open Text

namespace Document

/-! ## The end of a document -/

/-- The position behind the last character of a text. -/
def endPosition (t : Text) : Position :=
  ⟨t.count '\n', (t.reverse.takeWhile (· ≠ '\n')).length⟩

theorem endPosition_append {front last : Text} (hfront : front = [] ∨ ∃ f, front = f ++ ['\n'])
    (hlast : '\n' ∉ last) : endPosition (front ++ last) = ⟨front.count '\n', last.length⟩ := by
  have hall : ∀ c ∈ last.reverse, decide (c ≠ '\n') = true := by
    intro c hc
    refine decide_eq_true fun h => hlast ?_
    rwa [h, List.mem_reverse] at hc
  have hstop : front.reverse.takeWhile (· ≠ '\n') = [] := by
    rcases hfront with rfl | ⟨f, rfl⟩
    · rfl
    · rw [List.reverse_append, List.reverse_singleton, List.singleton_append,
        List.takeWhile_cons_of_neg (by simp)]
  rw [endPosition, List.reverse_append, List.takeWhile_append_of_pos hall, hstop, List.append_nil,
    List.length_reverse, List.count_append, List.count_eq_zero.2 hlast, Nat.add_zero]

/-- Every offset from the end on has the position of the end. -/
theorem positionAt_of_byteLength_le {t : Text} {o : Nat} (h : byteLength t ≤ o) :
    (ofText t).positionAt o = endPosition t := by
  obtain ⟨front, last, rfl, hfront, hlast⟩ := exists_lastLine t
  have hsplit := splitOn_free hlast
  rw [byteLength_append] at h
  obtain ⟨n, rfl⟩ : ∃ n, o = byteLength front + n := ⟨o - byteLength front, by omega⟩
  have hposition := positionIn_front last hfront n
  rw [hsplit, positionIn, takeBytes_of_byteLength_le (by omega)] at hposition
  rw [endPosition_append hfront hlast]
  exact hposition

/-! ## From offsets to positions and back -/

/-- The offset stands behind a carriage return at the end of a line: the text ends there, or a line
feed follows. -/
def BehindReturn (t : Text) (o : Nat) : Prop :=
  ∃ s u, t = s ++ '\r' :: u ∧ o = byteLength s + 1 ∧ (u = [] ∨ ∃ v, u = '\n' :: v)

/-- Of a cut text, whether the cut stands behind a carriage return at the end of a line. -/
theorem behindReturn_append {s u : Text} :
    BehindReturn (s ++ u) (byteLength s) ↔
      s.getLast? = some '\r' ∧ (u = [] ∨ ∃ v, u = '\n' :: v) := by
  constructor
  · rintro ⟨s', u', heq, hoffset, hu⟩
    have hreturn : byteLength (s' ++ ['\r']) = byteLength s' + 1 := byteLength_append s' ['\r']
    rw [List.append_cons] at heq
    obtain ⟨rfl, rfl⟩ := append_inj_of_byteLength heq (hoffset.trans hreturn.symm)
    exact ⟨List.getLast?_concat, hu⟩
  · rintro ⟨hlast, hu⟩
    obtain ⟨s', rfl⟩ := List.getLast?_eq_some_iff.1 hlast
    exact ⟨s', u, (List.append_cons ..).symm, byteLength_append s' ['\r'], hu⟩

theorem positionAt?_of_isBoundary {t : Text} {o : Nat} (h : IsBoundary t o) :
    (ofText t).positionAt? o = some ((ofText t).positionAt o) := by
  have hle : o ≤ byteLength t := by
    obtain ⟨s, u, rfl, rfl⟩ := isBoundary_iff.1 h
    rw [byteLength_append]
    omega
  rw [positionAt?, if_pos]
  rwa [text_ofText, Nat.min_eq_left hle]

theorem positionAt?_of_byteLength_le {t : Text} {o : Nat} (h : byteLength t ≤ o) :
    (ofText t).positionAt? o = some (endPosition t) := by
  rw [positionAt?, if_pos, positionAt_of_byteLength_le h]
  rw [text_ofText, Nat.min_eq_right h, IsBoundary, takeBytes_byteLength]

theorem positionAt?_eq_none_iff (t : Text) (o : Nat) :
    (ofText t).positionAt? o = none ↔ InsideChar t o := by
  rw [← not_isBoundary_iff, positionAt?, text_ofText, ite_eq_right_iff]
  simp only [reduceCtorEq, imp_false]

section Places

variable {front x z back : Text} {n : Nat}
  (h : LineAt (front ++ x ++ (z ++ back)) n front (x ++ z) back)

include h

/-- The place behind `x` stands behind the carriage return of its line exactly when `x` ends with it
and is the whole line. -/
theorem LineAt.behindReturn_iff :
    BehindReturn (front ++ x ++ (z ++ back)) (byteLength (front ++ x)) ↔
      z = [] ∧ x.getLast? = some '\r' := by
  rw [behindReturn_append]
  constructor
  · rintro ⟨hlast, hback⟩
    constructor
    · cases z with
      | nil => rfl
      | cons c z =>
        rcases hback with hback | ⟨v, hback⟩
        · cases hback
        · rw [List.cons_append, List.cons.injEq] at hback
          exact absurd h.raw_free (by simp [hback.1])
    · rw [List.getLast?_append] at hlast
      cases hx : x.getLast? with
      | some c => rwa [hx] at hlast
      | none =>
        -- without a character in front on its line, the place is behind a line feed or nothing
        rw [hx, Option.none_or] at hlast
        rcases h.front_ends with rfl | ⟨f, rfl⟩
        · cases hlast
        · rw [List.getLast?_concat, Option.some.injEq] at hlast
          exact absurd hlast (by decide)
  · rintro ⟨rfl, hlast⟩
    rw [List.getLast?_append, hlast]
    exact ⟨rfl, h.back_starts⟩

/-- The offset of the column behind `x` is the place behind `x`, unless a carriage return at the end
of the line is in front of it. -/
theorem LineAt.offsetAt_length :
    (¬ BehindReturn (front ++ x ++ (z ++ back)) (byteLength (front ++ x)) →
      (ofText (front ++ x ++ (z ++ back))).offsetAt ⟨n, x.length⟩ = byteLength (front ++ x)) ∧
    (BehindReturn (front ++ x ++ (z ++ back)) (byteLength (front ++ x)) →
      (ofText (front ++ x ++ (z ++ back))).offsetAt ⟨n, x.length⟩ + 1 =
        byteLength (front ++ x)) := by
  rw [h.behindReturn_iff, h.offsetAt]
  constructor
  · intro hreturn
    have htake : (stripReturn (x ++ z)).take x.length = x := by
      cases z with
      | cons c z => rw [stripReturn_append_left x (by simp), List.take_left]
      | nil =>
        rw [List.append_nil, stripReturn]
        split
        · rename_i hlast
          exact absurd ⟨rfl, hlast⟩ hreturn
        · exact List.take_length
    rw [htake, byteLength_append]
  · rintro ⟨rfl, hlast⟩
    obtain ⟨x', rfl⟩ := List.getLast?_eq_some_iff.1 hlast
    have hstrip : stripReturn (x' ++ ['\r'] ++ []) = x' := by
      simp only [List.append_nil, stripReturn, List.getLast?_concat, List.dropLast_concat]
    rw [hstrip, List.take_of_length_le (by simp), ← List.append_assoc,
      byteLength_append (front ++ x'), byteLength_append]
    rfl

end Places

/-- From an offset to its position and back: the offset is found again, but from behind the carriage
return of a line the way ends in front of it. -/
theorem offsetAt_positionAt {t : Text} {o : Nat} (h : IsBoundary t o) :
    (¬ BehindReturn t o → (ofText t).offsetAt ((ofText t).positionAt o) = o) ∧
      (BehindReturn t o → (ofText t).offsetAt ((ofText t).positionAt o) + 1 = o) := by
  obtain ⟨s, y, rfl, rfl⟩ := isBoundary_iff.1 h
  obtain ⟨front, x, rfl, hfront, hx⟩ := exists_lastLine s
  obtain ⟨z, back, rfl, hline⟩ := exists_lineAt_append y hfront hx
  rw [positionAt_append _ hfront hx]
  exact hline.offsetAt_length

/-! ## From positions to offsets and back -/

/-- The position of the offset of a position on a line: a column behind the end of the line becomes
the end of the line. -/
theorem positionAt?_offsetAt {t : Text} {p : Position} {line : Text}
    (h : (ofText t).line? p.line = some line) :
    (ofText t).positionAt? ((ofText t).offsetAt p) = some ⟨p.line, min p.column line.length⟩ := by
  have hcount : p.line ≤ t.count '\n' := by
    by_contra hlt
    have hlength : (ofText t).rawLines.length ≤ p.line := by
      rw [show (ofText t).rawLines = splitOn '\n' t from rfl, length_splitOn]
      omega
    rw [line?, List.getElem?_eq_none hlength] at h
    cases h
  obtain ⟨front, raw, back, hline⟩ := exists_lineAt hcount
  rw [hline.line?, Option.some.injEq] at h
  obtain ⟨z, hz⟩ := exists_take_stripReturn raw p.column
  rw [positionAt?_of_isBoundary (isBoundary_offsetAt t p), hline.offsetAt, ← byteLength_append]
  have hfree : '\n' ∉ (stripReturn raw).take p.column := fun hmem =>
    hline.raw_free (hz ▸ List.mem_append_left z hmem)
  have hsplit : t = front ++ (stripReturn raw).take p.column ++ (z ++ back) := by
    rw [hline.eq, List.append_assoc, List.append_assoc, ← List.append_assoc _ z, ← hz]
  have hposition := positionAt_append (z ++ back) hline.front_ends hfree
  rw [← hsplit, hline.count, List.length_take, h] at hposition
  rw [h, hposition]

theorem offsetAt_of_line?_eq_none {t : Text} {p : Position}
    (h : (ofText t).line? p.line = none) : (ofText t).offsetAt p = byteLength t := by
  rw [offsetAt, h]
  cases lineStartIn (ofText t).rawLines p.line <;> rfl

/-- Offsets grow with positions, by lines and within a line by columns. -/
theorem offsetAt_mono (t : Text) {p q : Position}
    (h : toLex (p.line, p.column) ≤ toLex (q.line, q.column)) :
    (ofText t).offsetAt p ≤ (ofText t).offsetAt q := by
  rcases Prod.Lex.toLex_le_toLex.1 h with hlt | ⟨heq, hle⟩
  · exact offsetAt_le_of_line_lt t hlt
  · obtain ⟨n, column⟩ := p
    obtain ⟨m, column'⟩ := q
    obtain rfl : n = m := heq
    have hcolumn : column ≤ column' := hle
    by_cases hline : n ≤ t.count '\n'
    · obtain ⟨front, raw, back, hat⟩ := exists_lineAt hline
      obtain ⟨w, hw⟩ := List.take_prefix_take_left (l := stripReturn raw) hcolumn
      rw [hat.offsetAt, hat.offsetAt, ← hw, byteLength_append]
      omega
    · rw [offsetAt_of_count_lt (Nat.lt_of_not_le hline),
        offsetAt_of_count_lt (Nat.lt_of_not_le hline)]

/-! ## Both ways -/

/-- Offsets and positions. An offset between two characters has a position, and the offset of that
position is the offset again, or one less behind a carriage return that ends a line; offsets inside
a character have no position, and offsets behind the end have that of the end. The offset of any
position is a boundary in the text, whose position is the one given with its column cut to the
length of the line, or the end where there is no such line; and offsets grow with positions. -/
theorem offsetAt_positionAt_inverse (t : Text) :
    (∀ o, IsBoundary t o → ∃ p, (ofText t).positionAt? o = some p ∧
      (¬ BehindReturn t o → (ofText t).offsetAt p = o) ∧
      (BehindReturn t o → (ofText t).offsetAt p + 1 = o)) ∧
    (∀ o, (ofText t).positionAt? o = none ↔ InsideChar t o) ∧
    (∀ o, byteLength t ≤ o → (ofText t).positionAt? o = some (endPosition t)) ∧
    (∀ p, IsBoundary t ((ofText t).offsetAt p) ∧ (ofText t).offsetAt p ≤ byteLength t) ∧
    (∀ p line, (ofText t).line? p.line = some line →
      (ofText t).positionAt? ((ofText t).offsetAt p) =
        some ⟨p.line, min p.column ((ofText t).lineLength p.line)⟩) ∧
    (∀ p, (ofText t).line? p.line = none →
      (ofText t).positionAt? ((ofText t).offsetAt p) = some (endPosition t)) ∧
    ∀ p q : Position, toLex (p.line, p.column) ≤ toLex (q.line, q.column) →
      (ofText t).offsetAt p ≤ (ofText t).offsetAt q := by
  refine ⟨fun o ho => ?_, positionAt?_eq_none_iff t, fun o => positionAt?_of_byteLength_le,
    fun p => ⟨isBoundary_offsetAt t p, offsetAt_le t p⟩, fun p line hline => ?_,
    fun p hnone => ?_, fun p q => offsetAt_mono t⟩
  · exact ⟨_, positionAt?_of_isBoundary ho, offsetAt_positionAt ho⟩
  · rw [positionAt?_offsetAt hline, lineLength, hline, Option.getD_some]
  · exact positionAt?_of_byteLength_le (Nat.le_of_eq (offsetAt_of_line?_eq_none hnone).symm)

/-- Behind a carriage return in front of a line feed, behind one at the end of the text, and behind
one in the middle of a line. -/
theorem offsetAt_positionAt_inverse_returns :
    let t := "é\r\na\rb😀\r".toList
    (∃ p, (ofText t).positionAt? 3 = some p ∧ (ofText t).offsetAt p + 1 = 3) ∧
      (∃ p, (ofText t).positionAt? 12 = some p ∧ (ofText t).offsetAt p + 1 = 12) ∧
      (∃ p, (ofText t).positionAt? 6 = some p ∧ (ofText t).offsetAt p = 6) ∧
      (ofText t).positionAt? 8 = none ∧
      (ofText t).positionAt? ((ofText t).offsetAt ⟨0, 7⟩) = some ⟨0, 1⟩ ∧
      (ofText t).positionAt? ((ofText t).offsetAt ⟨5, 0⟩) = some ⟨1, 5⟩ := by
  intro t
  obtain ⟨hback, hinside, -, -, hline, hnone, -⟩ := offsetAt_positionAt_inverse t
  obtain ⟨p, hp, -, hreturn⟩ := hback 3 (by decide)
  obtain ⟨q, hq, -, hreturn'⟩ := hback 12 (by decide)
  obtain ⟨r, hr, hplain, -⟩ := hback 6 (by decide)
  refine ⟨⟨p, hp, hreturn ?_⟩, ⟨q, hq, hreturn' ?_⟩, ⟨r, hr, hplain ?_⟩, (hinside 8).2 ?_, ?_, ?_⟩
  · exact ⟨"é".toList, "\na\rb😀\r".toList, by decide, by decide, Or.inr ⟨_, rfl⟩⟩
  · exact ⟨"é\r\na\rb😀".toList, [], by decide, by decide, Or.inl rfl⟩
  · rw [show t = "é\r\na\r".toList ++ "b😀\r".toList from rfl,
      show 6 = byteLength "é\r\na\r".toList from rfl, behindReturn_append]
    rintro ⟨-, hback | ⟨v, hback⟩⟩
    · cases hback
    · exact absurd (congrArg List.head? hback) (by simp)
  · exact ⟨"é\r\na\rb".toList, '😀', "\r".toList, by decide, by decide, by decide⟩
  · exact hline ⟨0, 7⟩ "é".toList (by decide)
  · exact hnone ⟨5, 0⟩ (by decide)

end Document

end Accessors
