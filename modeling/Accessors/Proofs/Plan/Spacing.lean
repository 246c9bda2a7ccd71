import Accessors.Proofs.Plan.Brace
import Accessors.Proofs.Plan.Inserted

/-!
# Blank lines around the methods

The methods of a class on several lines are set off by blank lines. One blank line stands between
them and the code above, one between them and the line of the closing brace, whatever blank lines
were there before and whatever blanks they held. The lines above that code and from the closing brace
on stay as they are.

* `Document.lines`, `Document.lines_append_break`: the lines of a document.
* `Plan.blankRunStart_spec`: a run of blank lines reaches as far up as it can.
* `Plan.SetOff`: lines with one blank line in front of them and one behind.
* `Plan.Solid`: lines of which neither the first nor the last is blank.
* `Plan.StandsAbove`: a line above another one and above the run of blank lines that ends there.
* `Plan.methods_set_off`: the lines of a text after the edit of a class.
-/

namespace Accessors

open Document Text

/-! ## The lines of a document -/

namespace Document

/-- The lines of a document, without their line breaks. -/
def lines (d : Document) : List Text := d.rawLines.map stripReturn

theorem line?_eq (d : Document) (n : Nat) : d.line? n = d.lines[n]? := by
  rw [line?, lines, List.getElem?_map]

/-- A line feed divides the lines in front of it from those behind it. -/
theorem lines_append_break (s t : Text) :
    (ofText (s ++ '\n' :: t)).lines = (ofText s).lines ++ (ofText t).lines := by
  have hsplit := congrArg (List.map stripReturn) (splitOn_append_break (c := '\n') s t)
  rwa [List.map_append] at hsplit

theorem lines_of_free {s : Text} (h : '\n' ∉ s) : (ofText s).lines = [stripReturn s] := by
  rw [lines, show (ofText s).rawLines = [s] from splitOn_free h]
  rfl

theorem lines_cons {s : Text} (h : '\n' ∉ s) (t : Text) :
    (ofText (s ++ '\n' :: t)).lines = stripReturn s :: (ofText t).lines := by
  rw [lines_append_break, lines_of_free h, List.singleton_append]

/-- A front part that ends with a line feed has lines of its own, whatever follows. -/
theorem exists_lines_append {front : Text} (h : front = [] ∨ ∃ f, front = f ++ ['\n']) :
    ∃ above, above.length = front.count '\n' ∧
      ∀ t, (ofText (front ++ t)).lines = above ++ (ofText t).lines := by
  rcases h with rfl | ⟨f, rfl⟩
  · exact ⟨[], rfl, fun t => rfl⟩
  · refine ⟨(ofText f).lines, ?_, fun t => ?_⟩
    · have hlength := length_splitOn '\n' f
      rw [lines, List.length_map, List.count_append]
      exact hlength
    · rw [List.append_assoc, List.singleton_append, lines_append_break]

theorem LineAt.lines_drop {t front raw b : Text} {n : Nat} (h : LineAt t n front raw ('\n' :: b)) :
    (ofText t).lines.drop (n + 1) = (ofText b).lines := by
  obtain ⟨above, hlength, habove⟩ := exists_lines_append h.front_ends
  rw [h.count] at hlength
  rw [h.eq, List.append_assoc, habove, lines_cons h.raw_free, ← hlength, List.drop_append]
  simp

theorem LineAt.exists_of_le {t front raw back : Text} {m n : Nat} (h : LineAt t n front raw back)
    (hle : m ≤ n) : ∃ front' raw' back', LineAt t m front' raw' back' := by
  apply exists_lineAt
  rw [h.eq, List.count_append, List.count_append, h.count]
  omega

theorem exists_head_lines {w : Text} (hfree : '\n' ∉ w) (hw : Text.isBlank w = false) (t : Text) :
    ∃ l ∈ (ofText (w ++ t)).lines.head?, Text.isBlank l = false := by
  obtain ⟨raw, back, rfl, hraw, hback⟩ := exists_firstLine t
  have hfree' : '\n' ∉ w ++ raw := by simp [hfree, hraw]
  refine ⟨stripReturn (w ++ raw), ?_, ?_⟩
  · rw [← List.append_assoc]
    rcases hback with rfl | ⟨b, rfl⟩
    · rw [List.append_nil, lines_of_free hfree']
      rfl
    · rw [lines_cons hfree']
      rfl
  · rw [isBlank_stripReturn, isBlank_append, hw]
    rfl

theorem exists_getLast_lines {w : Text} (hfree : '\n' ∉ w) (hw : Text.isBlank w = false)
    (t : Text) : ∃ l ∈ (ofText (t ++ w)).lines.getLast?, Text.isBlank l = false := by
  obtain ⟨front, last, rfl, hfront, hlast⟩ := exists_lastLine t
  obtain ⟨above, -, habove⟩ := exists_lines_append hfront
  have hfree' : '\n' ∉ last ++ w := by simp [hfree, hlast]
  refine ⟨stripReturn (last ++ w), ?_, ?_⟩
  · rw [List.append_assoc, habove, lines_of_free hfree', List.getLast?_concat]
    rfl
  · rw [isBlank_stripReturn, isBlank_append, hw, Bool.and_false]

theorem exists_lineEnding (e : LineEnding) :
    ∃ r, e.text = r ++ ['\n'] ∧ '\n' ∉ r ∧ stripReturn r = [] ∧ Text.isBlank r = true := by
  cases e with
  | lf => exact ⟨[], rfl, by simp, rfl, rfl⟩
  | crlf => exact ⟨['\r'], rfl, by decide, rfl, by decide⟩

end Document

/-! ## Runs of blank lines -/

namespace Plan

/-- The lines of a run are blank, and if it starts below its floor, the line above it is not. -/
theorem blankRunStart_spec (d : Document) (floor n : Nat) :
    (∀ i, blankRunStart d floor n ≤ i → i < n → d.isBlank i = true) ∧
      ∀ m, blankRunStart d floor n = m + 1 → floor ≤ m → d.isBlank m = false := by
  induction n with
  | zero => exact ⟨fun i _ hi => absurd hi (Nat.not_lt_zero i), fun m hm => by cases hm⟩
  | succ n ih =>
    rw [blankRunStart]
    split
    · rename_i hrun
      refine ⟨fun i hle hi => ?_, ih.2⟩
      rcases Nat.lt_or_eq_of_le (Nat.le_of_lt_succ hi) with hlt | rfl
      · exact ih.1 i hle hlt
      · exact hrun.2
    · rename_i hrun
      refine ⟨fun i hle hi => by omega, fun m hm hfloor => ?_⟩
      obtain rfl : n = m := Nat.succ.inj hm
      by_contra hblank
      exact hrun ⟨by omega, by simpa using hblank⟩

end Plan

/-- The line of its keyword is not blank. -/
theorem Site.In.isBlank_startLine {source : Text} {s : Site} (hin : s.In source)
    (hlines : (s.model (ofText source)).startLine < (s.model (ofText source)).endLine) :
    (ofText source).isBlank (s.model (ofText source)).startLine = false := by
  obtain ⟨pre, body, post, rfl, hopen, hk, hb⟩ := hin
  obtain ⟨hstart, hend⟩ := Plan.model_lines ('\x7d' :: post) hk hb
  obtain ⟨raw, back, hraw, -, hline⟩ := Plan.lineAt_first hopen (by omega)
  obtain ⟨front, x, rfl, hfront, hx⟩ := exists_lastLine pre
  have hcount : (front ++ x).count '\n' = front.count '\n' := by
    rw [List.count_append, List.count_eq_zero.2 hx, Nat.add_zero]
  rw [hstart, hcount, (hline front x _ hfront hx).isBlank, isBlank_stripReturn]
  exact hraw.isBlank_append x

/-- The run of blank lines above a closing brace starts below a line that is not blank. -/
theorem Site.In.exists_run {source : Text} {s : Site} (hin : s.In source)
    (hlines : (s.model (ofText source)).startLine < (s.model (ofText source)).endLine) {n : Nat}
    (hend : (s.model (ofText source)).endLine = n + 1) (hblank : (ofText source).isBlank n = true) :
    ∃ m, Plan.blankRunStart (ofText source) ((s.model (ofText source)).startLine + 1) n = m + 1 ∧
      m < n ∧ (ofText source).isBlank m = false ∧
      ∀ i, m < i → i ≤ n → (ofText source).isBlank i = true := by
  have hkeyword := hin.isBlank_startLine hlines
  have hne : (s.model (ofText source)).startLine ≠ n := by
    intro heq
    rw [heq, hblank] at hkeyword
    cases hkeyword
  have hfloor : (s.model (ofText source)).startLine + 1 ≤ n := by omega
  obtain ⟨hlow, hhigh⟩ := Plan.blankRunStart_mem (ofText source) n hfloor
  obtain ⟨hrun, habove⟩ :=
    Plan.blankRunStart_spec (ofText source) ((s.model (ofText source)).startLine + 1) n
  generalize Plan.blankRunStart (ofText source) ((s.model (ofText source)).startLine + 1) n = first
    at hlow hhigh hrun habove ⊢
  obtain ⟨m, rfl⟩ : ∃ m, first = m + 1 := ⟨first - 1, by omega⟩
  refine ⟨m, rfl, hhigh, ?_, fun i hi hle => ?_⟩
  · -- either the run was stopped by code, or it reaches up to the line of the keyword
    rcases Nat.eq_or_lt_of_le (Nat.le_of_succ_le_succ hlow) with rfl | hlt
    · exact hkeyword
    · exact habove m rfl hlt
  · rcases Nat.lt_or_eq_of_le hle with hlt | rfl
    · exact hrun i hi hlt
    · exact hblank

namespace Plan

/-! ## Methods between blank lines -/

/-- Among lines there are given ones that are set off by blank lines: in front of them one blank line
that follows a line which is not blank, and behind them one blank line, followed by `below`. -/
def SetOff (lines generated below : List Text) : Prop :=
  ∃ above code upper lower, lines = above ++ code :: upper :: (generated ++ lower :: below) ∧
    Text.isBlank code = false ∧ Text.isBlank upper = true ∧ Text.isBlank lower = true

/-- The first and the last of some lines are not blank. -/
def Solid (lines : List Text) : Prop :=
  (∃ l ∈ lines.head?, Text.isBlank l = false) ∧ ∃ l ∈ lines.getLast?, Text.isBlank l = false

/-- A line stands above another one and, if that one is blank, above the run of blank lines that ends
there. -/
def StandsAbove (d : Document) (k n : Nat) : Prop :=
  k < n ∧ (d.isBlank n = true → ∃ j, k ≤ j ∧ j < n ∧ d.isBlank j = false)

theorem line?_append {front : Text} {above : List Text} {k : Nat}
    (habove : ∀ u, (ofText (front ++ u)).lines = above ++ (ofText u).lines)
    (hk : k < above.length) (u v : Text) :
    (ofText (front ++ u)).line? k = (ofText (front ++ v)).line? k := by
  rw [line?_eq, line?_eq, habove, habove, List.getElem?_append_left hk,
    List.getElem?_append_left hk]

/-- A planned edit from a column of a line to a column of a line keeps what stands in front of the one
and behind the other. -/
theorem applied_of_lineAt {source front raw back front' raw' back' z : Text} {i j k l : Nat}
    {planned : PlannedEdit} (hspan : planned.insertAt.span = ⟨⟨i, k⟩, ⟨j, l⟩⟩)
    (h : LineAt source i front raw back) (h' : LineAt source j front' raw' back')
    (hz : raw' = (stripReturn raw').take l ++ z) :
    planned.applied (ofText source) =
      front ++ (stripReturn raw).take k ++ planned.text ++ (z ++ back') := by
  obtain ⟨x, hx⟩ := exists_take_stripReturn raw k
  have hstart := h.offsetAt k
  have hstop := h'.offsetAt l
  rw [← byteLength_append] at hstart hstop
  rw [PlannedEdit.applied, hspan, hstart, hstop, text_ofText]
  generalize (stripReturn raw).take k = kept at hx
  generalize (stripReturn raw').take l = dropped at hz
  have htake : takeBytes source (byteLength (front ++ kept)) = front ++ kept := by
    have hsource : source = (front ++ kept) ++ (x ++ back) := by
      rw [h.eq, hx]
      simp
    rw [hsource, takeBytes_append]
  have hdrop : dropBytes source (byteLength (front' ++ dropped)) = z ++ back' := by
    have hsource : source = (front' ++ dropped) ++ (z ++ back') := by
      rw [h'.eq, hz]
      simp
    rw [hsource, dropBytes_append]
  rw [htake, hdrop]

section Inserted

variable {r body : Text} (hr : '\n' ∉ r)

include hr

theorem solid_method (tabSize : Nat) (t : Text) :
    Solid (ofText (spaces tabSize ++ "public function ".toList ++ t ++ ['\x7d'] ++ r)).lines := by
  constructor
  · have hfree : '\n' ∉ spaces tabSize ++ "public function ".toList := by simp [spaces]
    have hword : Text.isBlank (spaces tabSize ++ "public function ".toList) = false := by
      rw [isBlank_append, Bool.and_eq_false_iff]
      exact Or.inr (by decide)
    simp only [List.append_assoc _ t, List.append_assoc _ (t ++ _)]
    exact exists_head_lines hfree hword _
  · have hfree : '\n' ∉ ['\x7d'] ++ r := by simp [hr]
    have hbrace : Text.isBlank (['\x7d'] ++ r) = false := by
      rw [isBlank_append, Bool.and_eq_false_iff]
      exact Or.inl (by decide)
    rw [List.append_assoc _ ['\x7d']]
    exact exists_getLast_lines hfree hbrace _

theorem lines_blocks (hreturn : stripReturn r = []) :
    (ofText (body ++ (r ++ ['\n'] ++ (r ++ ['\n'])))).lines =
      (ofText (body ++ r)).lines ++ [[], []] := by
  have hsplit : body ++ (r ++ ['\n'] ++ (r ++ ['\n'])) = body ++ r ++ '\n' :: (r ++ '\n' :: []) := by
    simp
  rw [hsplit, lines_append_break, lines_cons hr, hreturn]
  rfl

/-- Methods inserted into a blank line, below a line that is not blank, are set off: `x` is what
stays in front of them, and `z` what stays behind them. -/
theorem setOff_insert {front x z : Text} {above : List Text} {code : Text}
    (habove : ∀ u, (ofText (front ++ u)).lines = above ++ code :: (ofText u).lines)
    (hcode : Text.isBlank code = false) (hx : '\n' ∉ x) (hz : '\n' ∉ z)
    (hxr : Text.isBlank (x ++ r) = true) (hblank : Text.isBlank z = true) (rest : Text) :
    SetOff (ofText (front ++ x ++ (r ++ ['\n'] ++ body ++ (r ++ ['\n'])) ++
      (z ++ '\n' :: rest))).lines (ofText (body ++ r)).lines (ofText rest).lines := by
  have hsplit : front ++ x ++ (r ++ ['\n'] ++ body ++ (r ++ ['\n'])) ++ (z ++ '\n' :: rest) =
      front ++ (x ++ r ++ '\n' :: (body ++ r ++ '\n' :: (z ++ '\n' :: rest))) := by
    simp
  have hfirst : '\n' ∉ x ++ r := by simp [hx, hr]
  refine ⟨above, code, stripReturn (x ++ r), stripReturn z, ?_, hcode, ?_, ?_⟩
  · rw [hsplit, habove, lines_cons hfirst, lines_append_break, lines_cons hz]
  · rw [isBlank_stripReturn, hxr]
  · rw [isBlank_stripReturn, hblank]

/-- Behind a line of code the methods are set off by the line breaks in front of them. -/
theorem setOff_code (hrblank : Text.isBlank r = true) {source front raw rest : Text} {n : Nat}
    (hline : LineAt source n front raw ('\n' :: rest))
    (hcode : (ofText source).isBlank n = false) {planned : PlannedEdit}
    (hpoint : planned.insertAt = .point ⟨n, (ofText source).lineLength n⟩)
    (htext : planned.text = times 2 (r ++ ['\n']) ++ body ++ (r ++ ['\n'])) :
    SetOff (ofText (planned.applied (ofText source))).lines (ofText (body ++ r)).lines
        (ofText rest).lines ∧
      ∀ k < n, (ofText (planned.applied (ofText source))).line? k = (ofText source).line? k := by
  obtain ⟨z, hz, hzblank⟩ := exists_stripReturn raw
  have hspan : planned.insertAt.span =
      ⟨⟨n, (stripReturn raw).length⟩, ⟨n, (stripReturn raw).length⟩⟩ := by
    rw [hpoint, hline.lineLength, InsertAt.span]
  have happlied := applied_of_lineAt hspan hline hline (z := z) (by rwa [List.take_length])
  rw [List.take_length, htext] at happlied
  obtain ⟨above, hlength, habove⟩ := exists_lines_append hline.front_ends
  rw [hline.count] at hlength
  have hfree := hline.raw_free
  rw [hz, List.mem_append, not_or] at hfree
  have hfirst : '\n' ∉ stripReturn raw ++ r := by simp [hfree.1, hr]
  -- the first line break ends the line of the code, and the methods go below the next one
  have habove' : ∀ u, (ofText (front ++ (stripReturn raw ++ r) ++ ['\n'] ++ u)).lines =
      above ++ stripReturn (stripReturn raw ++ r) :: (ofText u).lines := by
    intro u
    have hsplit : front ++ (stripReturn raw ++ r) ++ ['\n'] ++ u =
        front ++ (stripReturn raw ++ r ++ '\n' :: u) := by simp
    rw [hsplit, habove, lines_cons hfirst]
  have hcode' : Text.isBlank (stripReturn (stripReturn raw ++ r)) = false := by
    rw [isBlank_stripReturn, isBlank_append, ← hline.isBlank, hcode]
    rfl
  have houtput : planned.applied (ofText source) =
      front ++ (stripReturn raw ++ r) ++ ['\n'] ++ [] ++
        (r ++ ['\n'] ++ body ++ (r ++ ['\n'])) ++ (z ++ '\n' :: rest) := by
    rw [happlied, times]
    simp
  constructor
  · rw [houtput]
    exact setOff_insert hr habove' hcode' (by simp) hfree.2 (by simpa using hrblank) hzblank rest
  · intro k hk
    rw [happlied, hline.eq]
    simp only [List.append_assoc]
    exact line?_append habove (by omega) _ _

/-- In a run of blank lines the methods are set off by what is left of its first and of its last
line. -/
theorem setOff_blank (hrblank : Text.isBlank r = true) {source front raw rest : Text} {m n : Nat}
    (hline : LineAt source n front raw ('\n' :: rest)) (hlt : m < n)
    (hcode : (ofText source).isBlank m = false)
    (hrun : ∀ i, m < i → i ≤ n → (ofText source).isBlank i = true) {tabSize : Nat}
    {planned : PlannedEdit} (hpoint : planned.insertAt = .range ⟨⟨m + 1, tabSize⟩, ⟨n, tabSize⟩⟩)
    (htext : planned.text = times 1 (r ++ ['\n']) ++ body ++ (r ++ ['\n'])) :
    SetOff (ofText (planned.applied (ofText source))).lines (ofText (body ++ r)).lines
        (ofText rest).lines ∧
      ∀ k < m + 1, (ofText (planned.applied (ofText source))).line? k = (ofText source).line? k := by
  obtain ⟨front', raw', back', hline'⟩ := hline.exists_of_le hlt
  obtain ⟨x, hx⟩ := exists_take_stripReturn raw' tabSize
  obtain ⟨z, hz⟩ := exists_take_stripReturn raw tabSize
  have happlied := applied_of_lineAt (by rw [hpoint, InsertAt.span]) hline' hline hz
  have hfirst := hrun (m + 1) (Nat.lt_succ_self m) hlt
  have hlast := hrun n hlt (Nat.le_refl n)
  rw [hline'.isBlank, isBlank_stripReturn, hx, isBlank_append, Bool.and_eq_true] at hfirst
  rw [hline.isBlank, isBlank_stripReturn, hz, isBlank_append, Bool.and_eq_true] at hlast
  have hfree' := hline'.raw_free
  have hfree := hline.raw_free
  rw [hx, List.mem_append, not_or] at hfree'
  rw [hz, List.mem_append, not_or] at hfree
  generalize (stripReturn raw').take tabSize = kept at hfirst hfree' happlied
  obtain ⟨lines, hlength, hlines⟩ := exists_lines_append hline'.front_ends
  rw [hline'.count] at hlength
  -- the last of the lines in front is the one that the run of blank lines starts below
  obtain ⟨above, code, rfl⟩ : ∃ above code, lines = above ++ [code] := by
    rcases List.eq_nil_or_concat lines with rfl | ⟨above, code, hconcat⟩
    · cases hlength
    · exact ⟨above, code, by rw [hconcat, List.concat_eq_append]⟩
  have hlines' : ∀ u, (ofText (front' ++ u)).lines = above ++ code :: (ofText u).lines := by
    intro u
    rw [hlines, List.append_assoc]
    rfl
  have hcode' : Text.isBlank code = false := by
    have habove : above.length = m := by simpa using hlength
    rw [Document.isBlank, line?_eq, hline'.eq, List.append_assoc, hlines',
      List.getElem?_append_right (by omega), habove, Nat.sub_self] at hcode
    exact hcode
  rw [htext, show times 1 (r ++ ['\n']) = r ++ ['\n'] by simp [times]] at happlied
  rw [happlied]
  constructor
  · have hupper : Text.isBlank (kept ++ r) = true := by
      rw [isBlank_append, hfirst.1, hrblank]
      rfl
    exact setOff_insert hr hlines' hcode' hfree'.1 hfree.2 hupper hlast.2 rest
  · intro k hk
    rw [hline'.eq]
    simp only [List.append_assoc]
    exact line?_append hlines (by omega) _ _

end Inserted

/-! ## The edit of a class -/

/-- What the edit of a class on several lines does to the lines of the text. -/
theorem exists_setOff {kinds : Kinds} {tabSize : Nat} {source : Text} {s : Site} (hin : s.In source)
    (hlines : (s.model (ofText source)).startLine < (s.model (ofText source)).endLine)
    {planned : PlannedEdit}
    (h : planClass kinds tabSize (ofText source) (s.model (ofText source)) = some planned)
    {n : Nat} {front raw rest : Text} (hend : (s.model (ofText source)).endLine = n + 1)
    (hline : LineAt source n front raw ('\n' :: rest)) :
    ∃ generated,
      (ofText (((s.model (ofText source)).missing kinds).flatMap
        (Accessor.block tabSize (ofText source).lineEnding.text))).lines = generated ++ [[], []] ∧
      Solid generated ∧
      SetOff (ofText (planned.applied (ofText source))).lines generated (ofText rest).lines ∧
      ∀ k, StandsAbove (ofText source) k n →
        (ofText (planned.applied (ofText source))).line? k = (ofText source).line? k := by
  have hmissing : (s.model (ofText source)).missing kinds ≠ [] :=
    (isSome_planClass tabSize (ofText source)).1 (by rw [h]; rfl)
  rw [planClass_eq] at h
  obtain ⟨hpoint, -, htext⟩ := adding_eq_some h
  obtain ⟨r, heol, hr, hreturn, hrblank⟩ := exists_lineEnding (ofText source).lineEnding
  obtain ⟨t, ht⟩ := exists_blocks tabSize (ofText source).lineEnding.text hmissing
  rw [ht, insertedText_eq, heol] at htext
  rw [ht, heol]
  refine ⟨_, lines_blocks hr hreturn, solid_method hr tabSize t, ?_⟩
  have hinsert := insertionPoint_of_lt tabSize (ofText source) hlines hend
  cases hblank : (ofText source).isBlank n with
  | false =>
    rw [hblank, if_neg (by simp)] at hinsert
    rw [hinsert] at hpoint htext
    obtain ⟨hsetOff, hkept⟩ := setOff_code hr hrblank hline hblank hpoint htext
    exact ⟨hsetOff, fun k hk => hkept k hk.1⟩
  | true =>
    obtain ⟨m, hfirst, hlt, hcode, hrun⟩ := hin.exists_run hlines hend hblank
    rw [hblank, if_pos rfl, hfirst] at hinsert
    rw [hinsert] at hpoint htext
    obtain ⟨hsetOff, hkept⟩ := setOff_blank hr hrblank hline hlt hcode hrun hpoint htext
    refine ⟨hsetOff, fun k hk => hkept k ?_⟩
    -- a line that is not blank stands above the run, and so does what is above that line
    obtain ⟨j, hkj, hjn, hj⟩ := hk.2 hblank
    by_contra hge
    rw [hrun j (by omega) (by omega)] at hj
    cases hj

/-- The batch of the edit of one class is accepted, and replaces its stretch. -/
theorem applyAll_of_planClass {kinds : Kinds} {tabSize : Nat} {source : Text} {s : Site}
    (hin : s.In source) (hclosing : s.closing < 2 ^ 32) {planned : PlannedEdit}
    (h : planClass kinds tabSize (ofText source) (s.model (ofText source)) = some planned) :
    Edit.applyAll source [planned.toEdit (ofText source)] =
      .ok (planned.applied (ofText source)) := by
  rw [planClass_eq] at h
  obtain ⟨hpoint, -, -⟩ := adding_eq_some h
  obtain ⟨before, between, post, -, hend, hbrace, -⟩ := exists_behind tabSize hin
  have hblank := blankBetween_insertionPoint tabSize source (s.model (ofText source))
  rw [← hpoint] at hend hblank
  obtain ⟨front, blanks, back, rfl, hstart, hstop, -⟩ := hblank
  have hshort : byteLength (front ++ blanks) < 2 ^ 32 := by
    rw [byteLength_append before] at hbrace
    omega
  obtain ⟨-, -, houtput⟩ := PlannedEdit.applyAll_toEdit hstart hstop hshort
  exact houtput

/-- The methods of a class on several lines are set off by blank lines. They stand behind exactly one
blank line, which follows a line that is not blank, and in front of exactly one blank line, which the
line of the closing brace follows as it was, with all lines below it; and the lines above the line
above the brace, or above the run of blank lines that ends there, are as they were. -/
theorem methods_set_off (kinds : Kinds) (tabSize : Nat) {source : Text} {s : Site}
    (hin : s.In source)
    (hlines : (s.model (ofText source)).startLine < (s.model (ofText source)).endLine)
    (hmissing : (s.model (ofText source)).missing kinds ≠ []) :
    ∃ planned generated brace below,
      planClass kinds tabSize (ofText source) (s.model (ofText source)) = some planned ∧
      (ofText (((s.model (ofText source)).missing kinds).flatMap
        (Accessor.block tabSize (ofText source).lineEnding.text))).lines = generated ++ [[], []] ∧
      Solid generated ∧
      (ofText source).line? (s.model (ofText source)).endLine = some brace ∧
      (ofText source).lines.drop (s.model (ofText source)).endLine = brace :: below ∧
      SetOff (ofText (planned.applied (ofText source))).lines generated (brace :: below) ∧
      (∀ k, StandsAbove (ofText source) k ((s.model (ofText source)).endLine - 1) →
        (ofText (planned.applied (ofText source))).line? k = (ofText source).line? k) ∧
      (s.closing < 2 ^ 32 → Edit.applyAll source [planned.toEdit (ofText source)] =
        .ok (planned.applied (ofText source))) := by
  obtain ⟨planned, hplanned⟩ :=
    Option.isSome_iff_exists.1 ((isSome_planClass tabSize (ofText source)).2 hmissing)
  obtain ⟨n, front, raw, last, post, hend, hline, hclosing, brace, hbrace, -⟩ :=
    hin.exists_above hlines
  obtain ⟨generated, hgenerated, hsolid, hsetOff, hkept⟩ :=
    exists_setOff hin hlines hplanned hend hline
  have hdrop := hline.lines_drop
  have hbelow : ∃ below, (ofText (last ++ '\x7d' :: post)).lines = brace :: below := by
    rw [line?_eq, ← List.head?_drop, hdrop] at hbrace
    exact List.head?_eq_some_iff.1 hbrace
  obtain ⟨below, hbelow⟩ := hbelow
  rw [hbelow] at hdrop hsetOff
  refine ⟨planned, generated, brace, below, hplanned, hgenerated, hsolid, ?_, ?_, hsetOff, ?_, ?_⟩
  · rw [hend, hbrace]
  · rw [hend, hdrop]
  · rw [hend, Nat.add_sub_cancel]
    exact hkept
  · intro hclosing
    exact applyAll_of_planClass hin hclosing hplanned

/-- The first line ends with a carriage return and the others do not, and of the two blank lines above
the brace the upper one is longer than a column. -/
theorem methods_set_off_mixed :
    let source := "<?php\r\nclass A \x7b\n  private $a;\n \t\n\n \x7d\n".toList
    let s : Site := ⟨"A".toList, [⟨"a".toList, none⟩], [], 7, 36⟩
    let output := ("<?php\r\nclass A \x7b\n  private $a;\n \r\n public function getA() \x7b\r\n".toList ++
      "  return $this->a;\r\n \x7d\r\n\n \x7d\n".toList)
    ∃ planned generated below,
      planClass .gettersOnly 1 (ofText source) (s.model (ofText source)) = some planned ∧
      planned.applied (ofText source) = output ∧ Solid generated ∧
      SetOff (ofText output).lines generated (" \x7d".toList :: below) ∧
      Edit.applyAll source [planned.toEdit (ofText source)] = .ok output := by
  intro source s output
  have hin : s.In source := ⟨"<?php\r\n".toList, "class A \x7b\n  private $a;\n \t\n\n ".toList,
    "\n".toList, rfl, ⟨'c', _, rfl, rfl⟩, rfl, rfl⟩
  obtain ⟨planned, generated, brace, below, hplanned, -, hsolid, hbrace, -, hsetOff, -, happly⟩ :=
    methods_set_off .gettersOnly 1 hin (by decide +kernel) (by decide +kernel)
  have houtput : (planClass .gettersOnly 1 (ofText source) (s.model (ofText source))).map
      (PlannedEdit.applied (ofText source)) = some output := by decide +kernel
  rw [hplanned, Option.map_some, Option.some.injEq] at houtput
  have hline : (ofText source).line? (s.model (ofText source)).endLine = some " \x7d".toList := by
    decide +kernel
  rw [hline, Option.some.injEq] at hbrace
  rw [houtput, ← hbrace] at hsetOff
  have hbatch := happly (by decide)
  rw [houtput] at hbatch
  exact ⟨planned, generated, below, hplanned, houtput, hsolid, hsetOff, hbatch⟩

end Plan

end Accessors
