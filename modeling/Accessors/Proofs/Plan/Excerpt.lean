import Accessors.Plan
import Mathlib.Data.List.DropRight
import Accessors.Proofs.Document.Lines

/-!
# What a plan reads of a document

A class stands in a text from the first character of its keyword to its closing brace. Of the text
in front of the keyword and behind the brace a plan reads nothing but the line ending: the offsets
it computes are those of the excerpt between keyword and brace, moved by the length of the text in
front.

* `Site`: a class by the offsets of its keyword and its closing brace.
* `Plan.target`: where the methods of a class go, in offsets.
* `Plan.cut`: the same in an excerpt.
* `Plan.target_append`: the target in a document is the cut of the excerpt, moved.
* `Plan.exists_cut`: the cut leaves something in front of it and stays inside the excerpt.
-/

namespace Accessors

open Document Text

/-- A class by the offsets of its keyword and its closing brace, with what its model keeps besides
positions. -/
structure Site where
  name : Text
  properties : List Property
  methodNames : List Text
  keyword : Nat
  closing : Nat
  deriving DecidableEq

/-- The model of the class in a document. -/
def Site.model (d : Document) (s : Site) : ClassModel where
  name := s.name
  startLine := (d.positionAt s.keyword).line
  endLine := (d.positionAt s.closing).line
  endColumn := (d.positionAt s.closing).column
  properties := s.properties
  methodNames := s.methodNames

namespace Plan

/-- Where the methods of a class go: the offsets of what is replaced, and the number of line breaks
in front of the methods. -/
def target (tabSize : Nat) (d : Document) (c : ClassModel) : Nat × Nat × Nat :=
  let (place, breaks) := insertionPoint tabSize c d
  (d.offsetAt place.span.start, d.offsetAt place.span.stop, breaks)

/-- Where the methods go in the text of a class alone. Its closing brace is not part of `body`. -/
def cut (tabSize : Nat) (body : Text) : Nat × Nat × Nat :=
  let d := Document.ofText (body ++ ['\x7d'])
  target tabSize d (Site.model d ⟨[], [], [], 0, byteLength body⟩)

/-- A text that starts with a character other than a blank. -/
def Opens (t : Text) : Prop := ∃ c rest, t = c :: rest ∧ isBlankChar c = false

/-! ## Blanks -/

theorem Opens.isBlank_append {t : Text} (h : Opens t) (s : Text) :
    Text.isBlank (s ++ t) = false := by
  obtain ⟨c, rest, rfl, hc⟩ := h
  simp [Text.isBlank, hc]

theorem Opens.trimEnd_ne_nil {t : Text} (h : Opens t) : trimEnd t ≠ [] := by
  obtain ⟨c, rest, rfl, hc⟩ := h
  intro hnil
  have := List.rdropWhile_eq_nil_iff.1 hnil c (by simp)
  rw [hc] at this
  cases this

theorem Opens.trimEnd_append {t : Text} (h : Opens t) (s : Text) :
    trimEnd (s ++ t) = s ++ trimEnd t := by
  have hdrop : t.reverse.dropWhile isBlankChar ≠ [] := by
    simpa [trimEnd] using h.trimEnd_ne_nil
  rw [trimEnd, trimEnd, List.reverse_append, List.dropWhile_append, if_neg (by simpa using hdrop),
    List.reverse_append, List.reverse_reverse]

theorem Opens.stripReturn {t : Text} (h : Opens t) : Opens (stripReturn t) := by
  obtain ⟨c, rest, rfl, hc⟩ := h
  have hne : c ≠ '\r' := by
    rintro rfl
    exact absurd hc (by decide)
  obtain ⟨z, hz⟩ := stripReturn_append_cons [] rest hne
  exact ⟨c, z, hz, hc⟩

/-! ## Lines of an excerpt

Below, a class stands between `pre` and `post`: its text is `body` followed by a closing brace. -/

section Lines

variable {pre body post : Text}

/-- A line of the excerpt behind its first line is a line of the document. -/
theorem lineAt_inner {i : Nat} (hi : 0 < i) (hlt : i < body.count '\n') :
    ∃ front raw back, '\n' ∈ front ∧ body = front ++ raw ++ '\n' :: back ∧ ∀ pre post : Text,
      LineAt (pre ++ body ++ post) (pre.count '\n' + i) (pre ++ front) raw
        ('\n' :: back ++ post) := by
  obtain ⟨front, raw, back, h⟩ := exists_lineAt (Nat.le_of_lt hlt)
  have hmem : '\n' ∈ front := List.count_pos_iff.1 (by rw [h.count]; exact hi)
  rcases h.back_starts with rfl | ⟨b, rfl⟩
  · have hcount := congrArg (List.count '\n') h.eq
    rw [List.append_nil, List.count_append, h.count, List.count_eq_zero.2 h.raw_free] at hcount
    omega
  · refine ⟨front, raw, b, hmem, h.eq, fun pre post => ⟨?_, ?_, ?_, h.raw_free, Or.inr ⟨_, rfl⟩⟩⟩
    · rw [h.eq]
      simp
    · rcases h.front_ends with hf | ⟨f, hf⟩
      · rw [hf] at hmem
        cases hmem
      · exact Or.inr ⟨pre ++ f, by rw [hf, List.append_assoc]⟩
    · rw [List.count_append, h.count]

/-- The line on which an excerpt of several lines starts. -/
theorem lineAt_first (hbody : Opens body) (hbreak : 0 < body.count '\n') :
    ∃ raw back, Opens raw ∧ body = raw ++ '\n' :: back ∧ ∀ front x post : Text,
      (front = [] ∨ ∃ f, front = f ++ ['\n']) → '\n' ∉ x →
        LineAt (front ++ x ++ body ++ post) (front.count '\n') front (x ++ raw)
          ('\n' :: back ++ post) := by
  obtain ⟨raw, back, heq, hraw, hback⟩ := exists_firstLine body
  rcases hback with rfl | ⟨b, rfl⟩
  · rw [heq, List.append_nil, List.count_eq_zero.2 hraw] at hbreak
    omega
  · have hopens : Opens raw := by
      obtain ⟨c, rest, hc, hblank⟩ := hbody
      cases raw with
      | nil =>
        rw [hc, List.nil_append, List.cons.injEq] at heq
        rw [heq.1] at hblank
        exact absurd hblank (by decide)
      | cons d raw =>
        rw [hc, List.cons_append, List.cons.injEq] at heq
        exact ⟨d, raw, rfl, heq.1 ▸ hblank⟩
    refine ⟨raw, b, hopens, heq, fun front x post hfront hx => ⟨?_, hfront, rfl, ?_, Or.inr ⟨_, rfl⟩⟩⟩
    · rw [heq]
      simp
    · simp [hx, hraw]

/-- The line on which an excerpt of one line stands. -/
theorem lineAt_single (hbreak : '\n' ∉ body) (front x post : Text)
    (hfront : front = [] ∨ ∃ f, front = f ++ ['\n']) (hx : '\n' ∉ x) :
    ∃ z back, LineAt (front ++ x ++ body ++ '\x7d' :: post) (front.count '\n') front
      (x ++ body ++ '\x7d' :: z) back := by
  obtain ⟨z, back, hpost, hz, hback⟩ := exists_firstLine post
  refine ⟨z, back, ?_, hfront, rfl, ?_, hback⟩
  · rw [hpost]
    simp
  · simp [hbreak, hx, hz]

end Lines

/-! ## The document and the excerpt -/

section Compare

variable {pre body post : Text} {i : Nat}

theorem isBlank_inner (hi : 0 < i) (hlt : i < body.count '\n') :
    (ofText (pre ++ body ++ '\x7d' :: post)).isBlank (pre.count '\n' + i) =
      (ofText (body ++ ['\x7d'])).isBlank i := by
  obtain ⟨front, raw, back, -, -, h⟩ := lineAt_inner hi hlt
  have hexcerpt := h [] ['\x7d']
  simp only [List.nil_append, List.count_nil, Nat.zero_add] at hexcerpt
  rw [(h pre _).isBlank, hexcerpt.isBlank]

theorem offsetAt_inner (hi : 0 < i) (hlt : i < body.count '\n') (column : Nat) :
    (ofText (pre ++ body ++ '\x7d' :: post)).offsetAt ⟨pre.count '\n' + i, column⟩ =
      byteLength pre + (ofText (body ++ ['\x7d'])).offsetAt ⟨i, column⟩ := by
  obtain ⟨front, raw, back, -, -, h⟩ := lineAt_inner hi hlt
  have hexcerpt := h [] ['\x7d']
  simp only [List.nil_append, List.count_nil, Nat.zero_add] at hexcerpt
  rw [(h pre _).offsetAt, hexcerpt.offsetAt, byteLength_append, Nat.add_assoc]

/-- A run of blank lines starts between its floor and its end. -/
theorem blankRunStart_mem (d : Document) {floor : Nat} (n : Nat) (h : floor ≤ n) :
    floor ≤ blankRunStart d floor n ∧ blankRunStart d floor n ≤ n := by
  induction n with
  | zero => exact ⟨h, Nat.le_refl 0⟩
  | succ n ih =>
    rw [blankRunStart]
    split
    · rename_i hrun
      obtain ⟨hlow, hhigh⟩ := ih (by omega)
      exact ⟨hlow, by omega⟩
    · exact ⟨h, Nat.le_refl _⟩

theorem blankRunStart_inner (hi : 0 < i) (hlt : i < body.count '\n') :
    blankRunStart (ofText (pre ++ body ++ '\x7d' :: post)) (pre.count '\n' + 1)
        (pre.count '\n' + i) =
      pre.count '\n' + blankRunStart (ofText (body ++ ['\x7d'])) 1 i := by
  induction i with
  | zero => omega
  | succ i ih =>
    rw [← Nat.add_assoc, blankRunStart, blankRunStart]
    by_cases hzero : i = 0
    · subst hzero
      rw [if_neg (by omega), if_neg (by omega)]
    · rw [isBlank_inner (by omega) (by omega)]
      by_cases hblank : (ofText (body ++ ['\x7d'])).isBlank i = true
      · rw [if_pos ⟨by omega, hblank⟩, if_pos ⟨by omega, hblank⟩]
        exact ih (by omega) (by omega)
      · rw [if_neg (fun h => hblank h.2), if_neg (fun h => hblank h.2)]
        omega

end Compare

/-! ## The target of a class -/

section Target

variable {pre body : Text} (post : Text) {s : Site}

theorem model_lines (hk : s.keyword = byteLength pre) (hb : s.closing = byteLength (pre ++ body)) :
    (s.model (ofText (pre ++ body ++ post))).startLine = pre.count '\n' ∧
      (s.model (ofText (pre ++ body ++ post))).endLine = pre.count '\n' + body.count '\n' := by
  constructor
  · rw [Site.model, hk, List.append_assoc]
    exact line_positionAt_append pre (body ++ post)
  · rw [Site.model, hb]
    exact (line_positionAt_append (pre ++ body) post).trans (List.count_append ..)

/-- The stretch replaced in front of a brace on the line of the keyword. -/
theorem inlinePoint_span (c : ClassModel) (d : Document) :
    (inlinePoint c d).span =
      ⟨⟨c.endLine, (trimEnd (((d.line? c.endLine).getD []).take c.endColumn)).length⟩,
        ⟨c.endLine, c.endColumn⟩⟩ := by
  rw [inlinePoint]
  split
  · rename_i h
    rw [InsertAt.span, h]
  · rfl

/-- A class on one line is opened up behind its last character that is no blank. -/
theorem target_single (tabSize : Nat) (hopen : Opens body) (hbreak : body.count '\n' = 0)
    (hk : s.keyword = byteLength pre) (hb : s.closing = byteLength (pre ++ body)) :
    target tabSize (ofText (pre ++ body ++ '\x7d' :: post))
        (s.model (ofText (pre ++ body ++ '\x7d' :: post))) =
      (byteLength pre + byteLength (trimEnd body), byteLength pre + byteLength body, 2) := by
  obtain ⟨hstart, hend⟩ := model_lines ('\x7d' :: post) hk hb
  have hfree : '\n' ∉ body := List.count_eq_zero.1 hbreak
  obtain ⟨front, x, rfl, hfront, hx⟩ := exists_lastLine pre
  obtain ⟨z, back, hline⟩ := lineAt_single hfree front x post hfront hx
  have hcolumn : (s.model (ofText (front ++ x ++ body ++ '\x7d' :: post))).endColumn =
      (x ++ body).length := by
    rw [Site.model, hb]
    have := positionAt_append (x := x ++ body) ('\x7d' :: post) hfront
      (by simp [hx, hfree])
    rw [← List.append_assoc] at this
    rw [this]
  have hlines : (front ++ x).count '\n' = front.count '\n' := by
    rw [List.count_append, List.count_eq_zero.2 hx, Nat.add_zero]
  rw [hlines] at hstart hend
  rw [hbreak, Nat.add_zero] at hend
  -- the line of the brace starts with everything up to the brace, whatever follows it
  obtain ⟨z', hz'⟩ := stripReturn_append_cons (x ++ body) z (c := '\x7d') (by decide)
  have htake : ∀ t : Text, t <+: x ++ body →
      (stripReturn (x ++ body ++ '\x7d' :: z)).take t.length = t := by
    intro t ht
    rw [hz']
    exact (List.prefix_iff_eq_take.1 (ht.trans (List.prefix_append ..))).symm
  have htrim : trimEnd (x ++ body) = x ++ trimEnd body := hopen.trimEnd_append x
  have hprefix : trimEnd (x ++ body) <+: x ++ body := List.rdropWhile_prefix ..
  rw [target, insertionPoint, if_pos (by rw [hstart, hend])]
  simp only [inlinePoint_span, hend, hcolumn, hline.line?, Option.getD_some, hline.offsetAt,
    htake _ (List.prefix_refl _), htake _ hprefix]
  rw [htrim]
  simp only [byteLength_append, Nat.add_assoc]

/-- A class on several lines whose line above the brace holds code gets its methods behind that
code. -/
theorem target_code (tabSize : Nat) {n : Nat} {front raw back : Text}
    (hk : s.keyword = byteLength pre) (hb : s.closing = byteLength (pre ++ body))
    (hbreak : body.count '\n' = n + 1)
    (hline : LineAt (pre ++ body ++ post) (pre.count '\n' + n) front raw back)
    (hcode : Text.isBlank (stripReturn raw) = false) :
    target tabSize (ofText (pre ++ body ++ post)) (s.model (ofText (pre ++ body ++ post))) =
      (byteLength front + byteLength (stripReturn raw),
        byteLength front + byteLength (stripReturn raw), 2) := by
  obtain ⟨hstart, hend⟩ := model_lines post hk hb
  rw [target, insertionPoint, if_neg (by omega), hend, hbreak]
  simp only [← Nat.add_assoc, Nat.add_sub_cancel, hline.isBlank, hcode, Bool.false_eq_true,
    if_false, InsertAt.span, hline.offsetAt, hline.lineLength, List.take_length]

/-- A class on several lines whose line above the brace is blank has its methods replace the run of
blank lines there. -/
theorem target_blank (tabSize : Nat) {n : Nat}
    (hk : s.keyword = byteLength pre) (hb : s.closing = byteLength (pre ++ body))
    (hbreak : body.count '\n' = n + 1)
    (hblank : (ofText (pre ++ body ++ post)).isBlank (pre.count '\n' + n) = true) :
    target tabSize (ofText (pre ++ body ++ post)) (s.model (ofText (pre ++ body ++ post))) =
      ((ofText (pre ++ body ++ post)).offsetAt
          ⟨blankRunStart (ofText (pre ++ body ++ post)) (pre.count '\n' + 1)
            (pre.count '\n' + n), tabSize⟩,
        (ofText (pre ++ body ++ post)).offsetAt ⟨pre.count '\n' + n, tabSize⟩, 1) := by
  obtain ⟨hstart, hend⟩ := model_lines post hk hb
  rw [target, insertionPoint, if_neg (by omega), hend, hbreak, hstart]
  simp only [← Nat.add_assoc, Nat.add_sub_cancel, hblank, if_true, InsertAt.span]

/-- The target of a class is the cut of its text, moved by the length of what stands in front. -/
theorem target_append (tabSize : Nat) (hopen : Opens body) (hk : s.keyword = byteLength pre)
    (hb : s.closing = byteLength (pre ++ body)) :
    target tabSize (ofText (pre ++ body ++ '\x7d' :: post))
        (s.model (ofText (pre ++ body ++ '\x7d' :: post))) =
      (byteLength pre + (cut tabSize body).1, byteLength pre + (cut tabSize body).2.1,
        (cut tabSize body).2.2) := by
  have hk₀ : (⟨[], [], [], 0, byteLength body⟩ : Site).keyword = byteLength [] := rfl
  have hb₀ : (⟨[], [], [], 0, byteLength body⟩ : Site).closing = byteLength ([] ++ body) := rfl
  cases hbreak : body.count '\n' with
  | zero =>
    have hcut : cut tabSize body = _ := target_single [] tabSize hopen hbreak hk₀ hb₀
    rw [target_single post tabSize hopen hbreak hk hb, hcut]
    simp
  | succ n =>
    by_cases hn : n = 0
    · subst hn
      -- the line above the brace is the line of the keyword, which is not blank
      obtain ⟨raw, back, hraw, -, hline⟩ := lineAt_first hopen (by omega)
      have hblank : ∀ x : Text, Text.isBlank (stripReturn (x ++ raw)) = false := by
        intro x
        obtain ⟨c, rest, rfl, -⟩ := id hraw
        rw [stripReturn_append_left x (by simp)]
        exact hraw.stripReturn.isBlank_append x
      have hcut : cut tabSize body = _ := target_code ['\x7d'] tabSize hk₀ hb₀ hbreak
        (hline [] [] _ (Or.inl rfl) (by simp)) (hblank [])
      obtain ⟨front, x, rfl, hfront, hx⟩ := exists_lastLine pre
      have hcount : (front ++ x).count '\n' + 0 = front.count '\n' := by
        rw [List.count_append, List.count_eq_zero.2 hx, Nat.add_zero]
      have hdoc := target_code ('\x7d' :: post) tabSize hk hb hbreak
        (hcount ▸ hline front x _ hfront hx) (hblank x)
      obtain ⟨c, rest, rfl, -⟩ := hraw
      rw [hdoc, hcut, stripReturn_append_left x (by simp)]
      simp [Nat.add_assoc]
    · have hpos : 0 < n := by omega
      have hlt : n < body.count '\n' := by omega
      cases hblank : (ofText (body ++ ['\x7d'])).isBlank n with
      | false =>
        obtain ⟨front, raw, back, -, -, hline⟩ := lineAt_inner hpos hlt
        have hexcerpt := hline [] ['\x7d']
        simp only [List.nil_append, List.count_nil, Nat.zero_add] at hexcerpt
        have hcode : Text.isBlank (stripReturn raw) = false := hexcerpt.isBlank ▸ hblank
        have hcut : cut tabSize body = _ :=
          target_code ['\x7d'] tabSize hk₀ hb₀ hbreak (hline [] _) hcode
        rw [target_code _ tabSize hk hb hbreak (hline pre _) hcode, hcut]
        simp [Nat.add_assoc]
      | true =>
        have hexcerpt : (ofText ([] ++ body ++ ['\x7d'])).isBlank (List.count '\n' [] + n) = true := by
          simpa using hblank
        have hcut : cut tabSize body = _ :=
          target_blank ['\x7d'] tabSize hk₀ hb₀ hbreak hexcerpt
        obtain ⟨hlow, hhigh⟩ := blankRunStart_mem (ofText (body ++ ['\x7d'])) n hpos
        rw [target_blank _ tabSize hk hb hbreak (by rw [isBlank_inner hpos hlt, hblank]), hcut,
          blankRunStart_inner hpos hlt, offsetAt_inner hlow (by omega), offsetAt_inner hpos hlt]
        simp

/-- What the cut keeps in front, what it replaces and what it keeps behind make up the text of the
class, and something is kept in front. A carriage return at the end of what is kept on the first
line belongs to the line break behind it. -/
theorem exists_cut (tabSize : Nat) (hopen : Opens body) :
    ∃ kept dropped rest, body = kept ++ dropped ++ rest ∧ kept ≠ [] ∧
      (cut tabSize body).1 = byteLength kept ∧
      (cut tabSize body).2.1 = byteLength (kept ++ dropped) ∧ 0 < (cut tabSize body).2.2 ∧
      ('\n' ∈ kept ∨ kept.getLast? ≠ some '\r' ∨ ∃ w, dropped ++ rest = '\r' :: '\n' :: w) := by
  have hk₀ : (⟨[], [], [], 0, byteLength body⟩ : Site).keyword = byteLength [] := rfl
  have hb₀ : (⟨[], [], [], 0, byteLength body⟩ : Site).closing = byteLength ([] ++ body) := rfl
  cases hbreak : body.count '\n' with
  | zero =>
    have hcut : cut tabSize body = _ := target_single [] tabSize hopen hbreak hk₀ hb₀
    obtain ⟨blanks, hblanks⟩ : trimEnd body <+: body := List.rdropWhile_prefix ..
    refine ⟨trimEnd body, blanks, [], by simp [hblanks], hopen.trimEnd_ne_nil, ?_, ?_, ?_,
      Or.inr (Or.inl ?_)⟩
    · rw [hcut]; simp
    · rw [hcut, hblanks]; simp
    · rw [hcut]; simp
    · have hlast := List.rdropWhile_last_not isBlankChar body hopen.trimEnd_ne_nil
      intro hreturn
      rw [List.getLast?_eq_some_getLast hopen.trimEnd_ne_nil, Option.some.injEq] at hreturn
      exact hlast (hreturn ▸ (by decide : isBlankChar '\r' = true))
  | succ n =>
    by_cases hn : n = 0
    · subst hn
      obtain ⟨raw, back, hraw, hbody, hline⟩ := lineAt_first hopen (by omega)
      have hcut : cut tabSize body = _ := target_code ['\x7d'] tabSize hk₀ hb₀ hbreak
        (hline [] [] _ (Or.inl rfl) (by simp)) (hraw.stripReturn.isBlank_append [])
      obtain ⟨z, hz, hreturn⟩ := stripReturn_append raw
      refine ⟨stripReturn raw, [], z ++ '\n' :: back, ?_, ?_, ?_, ?_, ?_, Or.inr ?_⟩
      · rw [List.append_nil, ← List.append_assoc, ← hz, hbody]
      · obtain ⟨c, rest, hc, -⟩ := hraw.stripReturn
        simp [hc]
      · rw [hcut]; simp
      · rw [hcut]; simp
      · rw [hcut]; simp
      · rcases hreturn with ⟨rfl, hlast⟩ | rfl
        · rw [List.append_nil] at hz
          exact Or.inl (hz ▸ hlast)
        · exact Or.inr ⟨back, rfl⟩
    · have hpos : 0 < n := by omega
      have hlt : n < body.count '\n' := by omega
      obtain ⟨front, raw, back, hfront, hbody, hline⟩ := lineAt_inner hpos hlt
      have hexcerpt := hline [] ['\x7d']
      cases hblank : Text.isBlank (stripReturn raw) with
      | false =>
        have hcut : cut tabSize body = _ :=
          target_code ['\x7d'] tabSize hk₀ hb₀ hbreak hexcerpt hblank
        obtain ⟨z, hz, -⟩ := stripReturn_append raw
        refine ⟨front ++ stripReturn raw, [], z ++ '\n' :: back, ?_,
          List.append_ne_nil_of_left_ne_nil (List.ne_nil_of_mem hfront) _, ?_, ?_, ?_,
          Or.inl (List.mem_append_left _ hfront)⟩
        · conv_lhs => rw [hbody, hz]
          simp
        · rw [hcut]; simp
        · rw [hcut]; simp
        · rw [hcut]; simp
      | true =>
        have hcut : cut tabSize body = _ :=
          target_blank ['\x7d'] tabSize hk₀ hb₀ hbreak (hexcerpt.isBlank.trans hblank)
        simp only [List.nil_append, List.count_nil, Nat.zero_add] at hcut hexcerpt
        obtain ⟨z, hz⟩ := exists_take_stripReturn raw tabSize
        have hstop : body = front ++ (stripReturn raw).take tabSize ++ (z ++ '\n' :: back) := by
          rw [List.append_assoc, ← List.append_assoc _ z, ← hz, ← List.append_assoc, ← hbody]
        obtain ⟨hlow, hhigh⟩ := blankRunStart_mem (ofText (body ++ ['\x7d'])) n hpos
        generalize blankRunStart (ofText (body ++ ['\x7d'])) 1 n = first at hcut hlow hhigh
        rcases Nat.lt_or_eq_of_le hhigh with hlt' | rfl
        · -- the run starts on a line further up, so its first line ends inside `front`
          obtain ⟨front', raw', back', hfront', -, hline'⟩ :=
            lineAt_inner hlow (Nat.lt_trans hlt' hlt)
          have hexcerpt' := hline' [] ['\x7d']
          simp only [List.nil_append, List.count_nil, Nat.zero_add] at hexcerpt'
          obtain ⟨w, hw⟩ := hexcerpt'.front_of_lt hexcerpt hlt'
          obtain ⟨z', hz'⟩ := exists_take_stripReturn raw' tabSize
          have hsplit : front = front' ++ (stripReturn raw').take tabSize ++ (z' ++ '\n' :: w) := by
            rw [List.append_assoc, ← List.append_assoc _ z', ← hz', ← List.append_assoc, ← hw]
          refine ⟨front' ++ (stripReturn raw').take tabSize,
            (z' ++ '\n' :: w) ++ (stripReturn raw).take tabSize, z ++ '\n' :: back, ?_,
            List.append_ne_nil_of_left_ne_nil (List.ne_nil_of_mem hfront') _, ?_, ?_, ?_,
            Or.inl (List.mem_append_left _ hfront')⟩
          · conv_lhs => rw [hstop, hsplit]
            simp only [List.append_assoc]
          · rw [hcut, hexcerpt'.offsetAt, byteLength_append]
          · rw [hcut, hexcerpt.offsetAt, ← List.append_assoc, ← hsplit, byteLength_append]
          · rw [hcut]; simp
        · refine ⟨front ++ (stripReturn raw).take tabSize, [], z ++ '\n' :: back, ?_,
            List.append_ne_nil_of_left_ne_nil (List.ne_nil_of_mem hfront) _, ?_, ?_, ?_,
            Or.inl (List.mem_append_left _ hfront)⟩
          · rw [List.append_nil]
            exact hstop
          · rw [hcut, hexcerpt.offsetAt, byteLength_append]
          · rw [hcut, hexcerpt.offsetAt, List.append_nil, byteLength_append]
          · rw [hcut]; simp

end Target

end Plan

end Accessors
