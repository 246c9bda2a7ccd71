import Accessors.Document
import Accessors.Proofs.Text.Bytes
import Accessors.Proofs.Text.Split

/-!
# Lines of a document

A line of a text is given by the text in front of it and the text behind it (`LineAt`). Each query
of a document is settled by such a decomposition.

* `LineAt.offsetAt`, `LineAt.isBlank`, `LineAt.lineLength`: the queries about a line.
* `positionAt_append`: the position of an offset inside a line.
* `lineEnding_append`: the line ending is read off the first line.
* `exists_lineAt`: every line number up to the number of line feeds has a decomposition.
* `LineAt.front_of_lt`: lines with smaller numbers stand further to the front.
* `exists_offsetAt`: every position stands for a place inside some line.
-/

namespace Accessors.Document

open Text

/-- The `n`th line of a text: the text in front of it, the line with its carriage return, and the
text behind it. -/
structure LineAt (t : Text) (n : Nat) (front raw back : Text) : Prop where
  eq : t = front ++ raw ++ back
  front_ends : front = [] ∨ ∃ f, front = f ++ ['\n']
  count : front.count '\n' = n
  raw_free : '\n' ∉ raw
  back_starts : back = [] ∨ ∃ b, back = '\n' :: b

/-! ## Pieces between line feeds -/

/-- The first piece of a text that has a line in front. -/
theorem exists_splitOn_append_back {raw back : Text} (hraw : '\n' ∉ raw)
    (hback : back = [] ∨ ∃ b, back = '\n' :: b) :
    ∃ pieces, splitOn '\n' (raw ++ back) = raw :: pieces := by
  rcases hback with rfl | ⟨b, rfl⟩
  · exact ⟨[], by rw [List.append_nil, splitOn_free hraw]⟩
  · exact ⟨splitOn '\n' b, splitOn_append hraw b⟩

/-- A front part that ends with a line feed starts with a line. -/
private theorem front_cons {c : Char} {front : Text} (hc : c ≠ '\n')
    (h : c :: front = [] ∨ ∃ f, c :: front = f ++ ['\n']) :
    ∃ f, front = f ++ ['\n'] := by
  rcases h with h | ⟨f, h⟩
  · cases h
  · cases f with
    | nil =>
      rw [List.nil_append, List.cons.injEq] at h
      exact absurd h.1 hc
    | cons d f =>
      rw [List.cons_append, List.cons.injEq] at h
      exact ⟨f, h.2⟩

private theorem front_break {front : Text}
    (h : '\n' :: front = [] ∨ ∃ f, '\n' :: front = f ++ ['\n']) :
    front = [] ∨ ∃ f, front = f ++ ['\n'] := by
  rcases h with h | ⟨f, h⟩
  · cases h
  · cases f with
    | nil =>
      rw [List.nil_append, List.cons.injEq] at h
      exact Or.inl h.2
    | cons d f =>
      rw [List.cons_append, List.cons.injEq] at h
      exact Or.inr ⟨f, h.2⟩

/-- The piece and the offset of a line. -/
theorem LineAt.splitOn {t front raw back : Text} {n : Nat} (h : LineAt t n front raw back) :
    (splitOn '\n' t)[n]? = some raw ∧
      lineStartIn (Text.splitOn '\n' t) n = some (byteLength front) := by
  obtain ⟨rfl, hends, rfl, hraw, hback⟩ := h
  induction front with
  | nil =>
    obtain ⟨pieces, hsplit⟩ := exists_splitOn_append_back hraw hback
    rw [List.nil_append, hsplit]
    exact ⟨rfl, rfl⟩
  | cons c front ih =>
    by_cases hc : c = '\n'
    · subst hc
      obtain ⟨hget, hstart⟩ := ih (front_break hends)
      simp only [List.cons_append, splitOn_break, List.count_cons_self, List.getElem?_cons_succ]
      refine ⟨hget, ?_⟩
      rw [lineStartIn, hstart]
      simp only [Option.map_some, byteLength_nil, byteLength_cons]
      rfl
    · obtain ⟨f, hf⟩ := front_cons hc hends
      obtain ⟨hget, hstart⟩ := ih (Or.inr ⟨f, hf⟩)
      obtain ⟨p, ps, hp, hps⟩ := exists_splitOn_cons hc (front ++ raw ++ back)
      obtain ⟨m, hm⟩ : ∃ m, front.count '\n' = m + 1 := ⟨f.count '\n', by simp [hf]⟩
      rw [hp, hm] at hget hstart
      rw [List.cons_append, List.cons_append, hps, List.count_cons_of_ne hc, hm]
      refine ⟨hget, ?_⟩
      rw [lineStartIn] at hstart ⊢
      obtain ⟨start, hs, hlen⟩ := Option.map_eq_some_iff.1 hstart
      rw [hs, Option.map_some, byteLength_cons, byteLength_cons, ← hlen]
      congr 1
      omega

/-! ## Queries about a line -/

section Queries

variable {t front raw back : Text} {n : Nat}

theorem LineAt.line? (h : LineAt t n front raw back) :
    (ofText t).line? n = some (stripReturn raw) := by
  rw [Document.line?, show (ofText t).rawLines = Text.splitOn '\n' t from rfl, h.splitOn.1]
  rfl

theorem LineAt.isBlank (h : LineAt t n front raw back) :
    (ofText t).isBlank n = Text.isBlank (stripReturn raw) := by
  rw [Document.isBlank, h.line?]

theorem LineAt.lineLength (h : LineAt t n front raw back) :
    (ofText t).lineLength n = (stripReturn raw).length := by
  rw [Document.lineLength, h.line?, Option.getD_some]

theorem LineAt.offsetAt (h : LineAt t n front raw back) (column : Nat) :
    (ofText t).offsetAt ⟨n, column⟩ =
      byteLength front + byteLength ((stripReturn raw).take column) := by
  rw [Document.offsetAt]
  simp only [show (ofText t).rawLines = Text.splitOn '\n' t from rfl, h.splitOn.2, h.line?]

end Queries

/-! ## Carriage returns -/

/-- A line is its stripped form, perhaps with a carriage return behind it. -/
theorem stripReturn_append (raw : Text) :
    ∃ z, raw = stripReturn raw ++ z ∧ (z = [] ∧ raw.getLast? ≠ some '\r' ∨ z = ['\r']) := by
  rw [stripReturn]
  split
  · rename_i hlast
    refine ⟨['\r'], ?_, Or.inr rfl⟩
    rw [List.getLast?_eq_some_iff] at hlast
    obtain ⟨ys, rfl⟩ := hlast
    simp
  · rename_i hlast
    exact ⟨[], by simp, Or.inl ⟨rfl, hlast⟩⟩

/-- What a column cuts off the front of a line is a front part of the line. -/
theorem exists_take_stripReturn (raw : Text) (column : Nat) :
    ∃ z, raw = (stripReturn raw).take column ++ z := by
  obtain ⟨z, hz, -⟩ := stripReturn_append raw
  obtain ⟨w, hw⟩ := List.take_prefix column (stripReturn raw)
  exact ⟨w ++ z, by rw [← List.append_assoc, hw, ← hz]⟩

/-- What stands in front of a character that is no carriage return stays. -/
theorem stripReturn_append_cons (s z : Text) {c : Char} (hc : c ≠ '\r') :
    ∃ z', stripReturn (s ++ c :: z) = s ++ c :: z' := by
  obtain ⟨w, hw, hw'⟩ := stripReturn_append (s ++ c :: z)
  rcases hw' with ⟨rfl, -⟩ | rfl
  · exact ⟨z, by simpa using hw.symm⟩
  · rcases List.eq_nil_or_concat z with rfl | ⟨z', d, rfl⟩
    · have := congrArg List.getLast? hw
      simp at this
      exact absurd this hc
    · refine ⟨z', ?_⟩
      have : (s ++ c :: z') ++ [d] = stripReturn (s ++ c :: z'.concat d) ++ ['\r'] := by
        rw [← hw]; simp
      exact (List.append_inj' this rfl).1.symm

/-- A text in front of a line does not matter to its carriage return. -/
theorem stripReturn_append_left (s : Text) {t : Text} (ht : t ≠ []) :
    stripReturn (s ++ t) = s ++ stripReturn t := by
  rw [stripReturn, stripReturn, List.getLast?_append_of_ne_nil _ ht]
  split
  · rw [List.dropLast_append_of_ne_nil ht]
  · rfl

/-! ## Line endings -/

theorem lineEnding_of_free {t : Text} (h : '\n' ∉ t) : (ofText t).lineEnding = .lf := by
  rw [lineEnding, show (ofText t).rawLines = [t] from splitOn_free h]

/-- The line ending of a text is that of its first line. -/
theorem lineEnding_append {raw : Text} (h : '\n' ∉ raw) (rest : Text) :
    (ofText (raw ++ '\n' :: rest)).lineEnding =
      if raw.getLast? = some '\r' then .crlf else .lf := by
  rw [lineEnding, show (ofText (raw ++ '\n' :: rest)).rawLines = raw :: Text.splitOn '\n' rest from
    splitOn_append h rest]
  cases hs : Text.splitOn '\n' rest with
  | nil => exact absurd hs (splitOn_ne_nil _ _)
  | cons piece pieces => rfl

/-! ## Finding lines -/

/-- The last line of a text, and the text in front of it. -/
theorem exists_lastLine (t : Text) :
    ∃ front last, t = front ++ last ∧ (front = [] ∨ ∃ f, front = f ++ ['\n']) ∧ '\n' ∉ last := by
  induction t with
  | nil => exact ⟨[], [], rfl, Or.inl rfl, by simp⟩
  | cons c t ih =>
    obtain ⟨front, last, rfl, hfront, hlast⟩ := ih
    by_cases hc : c = '\n'
    · subst hc
      refine ⟨'\n' :: front, last, rfl, Or.inr ?_, hlast⟩
      rcases hfront with rfl | ⟨f, rfl⟩
      · exact ⟨[], rfl⟩
      · exact ⟨'\n' :: f, rfl⟩
    · rcases hfront with rfl | ⟨f, rfl⟩
      · exact ⟨[], c :: last, rfl, Or.inl rfl, by simp [hlast, Ne.symm hc]⟩
      · exact ⟨c :: (f ++ ['\n']), last, rfl, Or.inr ⟨c :: f, rfl⟩, hlast⟩

/-- The first line of a text, and the text behind it. -/
theorem exists_firstLine (t : Text) :
    ∃ raw back, t = raw ++ back ∧ '\n' ∉ raw ∧ (back = [] ∨ ∃ b, back = '\n' :: b) := by
  induction t with
  | nil => exact ⟨[], [], rfl, by simp, Or.inl rfl⟩
  | cons c t ih =>
    by_cases hc : c = '\n'
    · subst hc
      exact ⟨[], '\n' :: t, rfl, by simp, Or.inr ⟨t, rfl⟩⟩
    · obtain ⟨raw, back, rfl, hraw, hback⟩ := ih
      exact ⟨c :: raw, back, rfl, by simp [hraw, Ne.symm hc], hback⟩

theorem exists_lineAt {t : Text} {n : Nat} (h : n ≤ t.count '\n') :
    ∃ front raw back, LineAt t n front raw back := by
  induction t generalizing n with
  | nil => exact ⟨[], [], [], rfl, Or.inl rfl, (Nat.le_zero.1 h).symm, by simp, Or.inl rfl⟩
  | cons c t ih =>
    cases n with
    | zero =>
      obtain ⟨raw, back, heq, hraw, hback⟩ := exists_firstLine (c :: t)
      exact ⟨[], raw, back, heq, Or.inl rfl, rfl, hraw, hback⟩
    | succ n =>
      by_cases hc : c = '\n'
      · subst hc
        obtain ⟨front, raw, back, rfl, hends, rfl, hraw, hback⟩ :=
          ih (n := n) (by simpa using h)
        refine ⟨'\n' :: front, raw, back, rfl, Or.inr ?_, by simp, hraw, hback⟩
        rcases hends with rfl | ⟨f, rfl⟩
        · exact ⟨[], rfl⟩
        · exact ⟨'\n' :: f, rfl⟩
      · rw [List.count_cons_of_ne hc] at h
        obtain ⟨front, raw, back, rfl, hends, hcount, hraw, hback⟩ := ih h
        refine ⟨c :: front, raw, back, rfl, Or.inr ?_, ?_, hraw, hback⟩
        · rcases hends with rfl | ⟨f, rfl⟩
          · simp at hcount
          · exact ⟨c :: f, rfl⟩
        · rw [List.count_cons_of_ne hc, hcount]

/-- A place inside a line, as a decomposition of the line. -/
theorem exists_lineAt_append {front x : Text} (y : Text)
    (hfront : front = [] ∨ ∃ f, front = f ++ ['\n']) (hx : '\n' ∉ x) :
    ∃ z back, y = z ++ back ∧ LineAt (front ++ x ++ y) (front.count '\n') front (x ++ z) back := by
  obtain ⟨z, back, rfl, hz, hback⟩ := exists_firstLine y
  refine ⟨z, back, rfl, by simp, hfront, rfl, ?_, hback⟩
  rw [List.mem_append, not_or]
  exact ⟨hx, hz⟩

/-- Lines with smaller numbers stand further to the front. -/
theorem LineAt.front_of_lt {t front raw back front' raw' back' : Text} {m n : Nat}
    (h : LineAt t m front raw back) (h' : LineAt t n front' raw' back') (hlt : m < n) :
    ∃ w, front' = front ++ raw ++ '\n' :: w := by
  have hcount : (front ++ raw).count '\n' = m := by
    rw [List.count_append, h.count, List.count_eq_zero.2 h.raw_free, Nat.add_zero]
  have heq : (front ++ raw) ++ back = front' ++ (raw' ++ back') := by
    rw [← h.eq, ← List.append_assoc, ← h'.eq]
  rcases List.append_eq_append_iff.1 heq with ⟨w, hw, hback⟩ | ⟨w, hw, -⟩
  · cases w with
    | nil =>
      have := h'.count
      rw [hw, List.append_nil, hcount] at this
      omega
    | cons c w =>
      rcases h.back_starts with hb | ⟨b, hb⟩
      · rw [hb] at hback
        cases hback
      · rw [hb, List.cons_append, List.cons.injEq] at hback
        exact ⟨w, by rw [hw, ← hback.1]⟩
  · rw [hw, List.count_append, h'.count] at hcount
    omega

/-! ## Offsets of positions -/

/-- A line behind the last one stands for the end of the document. -/
theorem offsetAt_of_count_lt {t : Text} {p : Position} (h : t.count '\n' < p.line) :
    (ofText t).offsetAt p = byteLength t := by
  have hlength : (ofText t).rawLines.length ≤ p.line := by
    rw [show (ofText t).rawLines = splitOn '\n' t from rfl, length_splitOn]
    omega
  have hnone : (ofText t).line? p.line = none := by
    rw [line?, List.getElem?_eq_none hlength]
    rfl
  rw [offsetAt, hnone]
  cases lineStartIn (ofText t).rawLines p.line <;> rfl

/-- Every position, clamped to the document, stands for a place inside some line: `front` are the
lines above it, and `x` is what stands in front of it on its own line. -/
theorem exists_offsetAt (t : Text) (p : Position) :
    ∃ front x y, t = front ++ x ++ y ∧ (front = [] ∨ ∃ f, front = f ++ ['\n']) ∧ '\n' ∉ x ∧
      (ofText t).offsetAt p = byteLength (front ++ x) := by
  by_cases hline : p.line ≤ t.count '\n'
  · obtain ⟨front, raw, back, h⟩ := exists_lineAt hline
    obtain ⟨z, hz⟩ := exists_take_stripReturn raw p.column
    refine ⟨front, (stripReturn raw).take p.column, z ++ back, ?_, h.front_ends, ?_, ?_⟩
    · rw [List.append_assoc, ← List.append_assoc _ z, ← hz, ← List.append_assoc, ← h.eq]
    · intro hmem
      exact h.raw_free (hz ▸ List.mem_append_left z hmem)
    · rw [byteLength_append]
      exact h.offsetAt p.column
  · obtain ⟨front, last, rfl, hfront, hlast⟩ := exists_lastLine t
    exact ⟨front, last, [], by simp, hfront, hlast, offsetAt_of_count_lt (Nat.lt_of_not_le hline)⟩

theorem offsetAt_le (t : Text) (p : Position) : (ofText t).offsetAt p ≤ byteLength t := by
  obtain ⟨front, x, y, rfl, -, -, hp⟩ := exists_offsetAt t p
  rw [hp, byteLength_append (front ++ x)]
  omega

theorem isBoundary_offsetAt (t : Text) (p : Position) : IsBoundary t ((ofText t).offsetAt p) := by
  obtain ⟨front, x, y, ht, -, -, hp⟩ := exists_offsetAt t p
  exact isBoundary_iff.2 ⟨front ++ x, y, ht, hp.symm⟩

/-- A position on a line stands in front of every position on a later line. -/
theorem offsetAt_le_of_line_lt (t : Text) {p q : Position} (h : p.line < q.line) :
    (ofText t).offsetAt p ≤ (ofText t).offsetAt q := by
  by_cases hline : q.line ≤ t.count '\n'
  · obtain ⟨front', raw', back', hq⟩ := exists_lineAt hline
    obtain ⟨front, raw, back, hp⟩ := exists_lineAt (Nat.le_trans (Nat.le_of_lt h) hline)
    obtain ⟨w, hw⟩ := hp.front_of_lt hq h
    obtain ⟨z, hz⟩ := exists_take_stripReturn raw p.column
    have hraw := congrArg byteLength hz
    have hfront := congrArg byteLength hw
    simp only [byteLength_append] at hraw hfront
    rw [hp.offsetAt, hq.offsetAt]
    omega
  · rw [offsetAt_of_count_lt (p := q) (Nat.lt_of_not_le hline)]
    exact offsetAt_le t p

/-! ## Positions of offsets -/

/-- Behind a front part that ends with a line feed the count of the lines goes on. -/
theorem positionIn_front {front : Text} (rest : Text)
    (hfront : front = [] ∨ ∃ f, front = f ++ ['\n']) (n : Nat) :
    positionIn (splitOn '\n' (front ++ rest)) (byteLength front + n) =
      ⟨front.count '\n' + (positionIn (splitOn '\n' rest) n).line,
        (positionIn (splitOn '\n' rest) n).column⟩ := by
  induction front with
  | nil => rw [List.nil_append, byteLength_nil, Nat.zero_add, List.count_nil, Nat.zero_add]
  | cons c front ih =>
    by_cases hc : c = '\n'
    · subst hc
      simp only [List.cons_append, splitOn_break]
      cases hs : splitOn '\n' (front ++ rest) with
      | nil => exact absurd hs (splitOn_ne_nil _ _)
      | cons piece pieces =>
        have hrec := ih (front_break hfront)
        have hsize : ('\n' : Char).utf8Size = 1 := rfl
        rw [positionIn, if_neg (by rw [byteLength_cons, byteLength_nil, hsize]; omega),
          byteLength_cons, byteLength_nil, hsize, ← hs,
          show 1 + byteLength front + n - (0 + 1) = byteLength front + n by omega, hrec]
        simp only [List.count_cons_self, Position.mk.injEq, and_true]
        omega
    · obtain ⟨f, hf⟩ := front_cons hc hfront
      have hrec := ih (Or.inr ⟨f, hf⟩)
      obtain ⟨p, ps, hp, hps⟩ := exists_splitOn_cons hc (front ++ rest)
      obtain ⟨m, hm⟩ : ∃ m, front.count '\n' = m + 1 := ⟨f.count '\n', by simp [hf]⟩
      rw [List.cons_append, hps, List.count_cons_of_ne hc, hm]
      rw [hp, hm, Nat.add_right_comm m 1] at hrec
      rw [Nat.add_right_comm m 1]
      cases ps with
      | nil => cases hrec
      | cons q qs =>
        rw [positionIn] at hrec ⊢
        split at hrec
        · cases hrec
        · rename_i hlt
          rw [if_neg (by rw [byteLength_cons, byteLength_cons]; omega), byteLength_cons,
            byteLength_cons,
            show c.utf8Size + byteLength front + n - (c.utf8Size + byteLength p + 1) =
              byteLength front + n - (byteLength p + 1) by omega]
          exact hrec

theorem positionIn_append {front x : Text} (y : Text)
    (hfront : front = [] ∨ ∃ f, front = f ++ ['\n']) (hx : '\n' ∉ x) :
    positionIn (splitOn '\n' (front ++ x ++ y)) (byteLength front + byteLength x) =
      ⟨front.count '\n', x.length⟩ := by
  obtain ⟨y₁, y₂, rfl, hy₁, hy₂⟩ := exists_firstLine y
  have hraw : '\n' ∉ x ++ y₁ := by simp [hx, hy₁]
  have hline : positionIn (splitOn '\n' (x ++ y₁ ++ y₂)) (byteLength x) = ⟨0, x.length⟩ := by
    obtain ⟨pieces, hsplit⟩ := exists_splitOn_append_back hraw hy₂
    rw [hsplit]
    cases pieces with
    | nil => rw [positionIn, takeBytes_append]
    | cons piece pieces => rw [positionIn, if_pos (by simp), takeBytes_append]
  rw [List.append_assoc, ← List.append_assoc x, positionIn_front _ hfront, hline]
  rfl

/-- The position of an offset: the line feeds in front of it, and the characters between the last
of them and the offset. -/
theorem positionAt_append {front x : Text} (y : Text)
    (hfront : front = [] ∨ ∃ f, front = f ++ ['\n']) (hx : '\n' ∉ x) :
    (ofText (front ++ x ++ y)).positionAt (byteLength (front ++ x)) =
      ⟨front.count '\n', x.length⟩ := by
  rw [byteLength_append]
  exact positionIn_append y hfront hx

/-- The line of an offset is the number of line feeds in front of it. -/
theorem line_positionAt_append (s y : Text) :
    ((ofText (s ++ y)).positionAt (byteLength s)).line = s.count '\n' := by
  obtain ⟨front, last, rfl, hfront, hlast⟩ := exists_lastLine s
  rw [positionAt_append y hfront hlast, List.count_append, List.count_eq_zero.2 hlast]
  rfl

end Accessors.Document
