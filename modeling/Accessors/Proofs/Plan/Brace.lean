import Accessors.Generate
import Accessors.Proofs.Plan.Layout
import Accessors.Proofs.Plan.Removal

/-!
# Between the methods and the closing brace

The methods of a class are meant to stand right before its closing brace. For a class on one line
they do. For a class on several lines the plan looks at the line above the brace, and not at what
shares the line of the brace: the methods stand before the brace, with blanks between, exactly when
the brace is the first character on its line that is not blank.

* `Site.In.exists_above`: the line above a closing brace, and the line of the brace.
* `Plan.exists_behind`: what stands between the end of an insertion point and the closing brace.
* `Plan.blank_before_brace_iff`: when that is blank.
* `Plan.methods_before_opening_brace`: methods that stand in front of the whole body.
-/

namespace Accessors

open Document Text

/-! ## The line of a closing brace -/

/-- A class on several lines: `raw` is the line above its closing brace, and `last` is what shares
the line of the brace in front of it. -/
theorem Site.In.exists_above {source : Text} {s : Site} (hin : s.In source)
    (hlines : (s.model (ofText source)).startLine < (s.model (ofText source)).endLine) :
    ∃ n front raw last post, (s.model (ofText source)).endLine = n + 1 ∧
      LineAt source n front raw ('\n' :: (last ++ '\x7d' :: post)) ∧
      s.closing = byteLength (front ++ raw ++ '\n' :: last) ∧
      ∃ brace, (ofText source).line? (n + 1) = some brace ∧
        brace.take (s.model (ofText source)).endColumn = last := by
  obtain ⟨pre, body, post, rfl, -, hk, hb⟩ := hin
  obtain ⟨hstart, hend⟩ := Plan.model_lines ('\x7d' :: post) hk hb
  obtain ⟨above, last, hsplit, habove, hlast⟩ := exists_lastLine (pre ++ body)
  have hcount : above.count '\n' = (pre ++ body).count '\n' := by
    rw [hsplit, List.count_append, List.count_eq_zero.2 hlast, Nat.add_zero]
  rw [List.count_append] at hcount
  -- without a line feed in front of the brace the class would be on one line
  rcases habove with rfl | ⟨f, rfl⟩
  · rw [List.count_nil] at hcount
    omega
  obtain ⟨front, raw, rfl, hfront, hraw⟩ := exists_lastLine f
  obtain ⟨z, back, hpost, hz, hback⟩ := exists_firstLine post
  have hcount' : (front ++ raw ++ ['\n']).count '\n' = front.count '\n' + 1 := by
    rw [List.count_append, List.count_append, List.count_eq_zero.2 hraw]
    rfl
  have hcolumn : (s.model (ofText (pre ++ body ++ '\x7d' :: post))).endColumn = last.length := by
    have hposition := positionAt_append (x := last) ('\x7d' :: post)
      (Or.inr ⟨front ++ raw, rfl⟩) hlast
    rw [← hsplit, ← hb] at hposition
    rw [Site.model, hposition]
  have hline : LineAt (pre ++ body ++ '\x7d' :: post) (front.count '\n') front raw
      ('\n' :: (last ++ '\x7d' :: post)) := by
    refine ⟨?_, hfront, rfl, hraw, Or.inr ⟨_, rfl⟩⟩
    rw [hsplit]
    simp
  have hbrace : LineAt (pre ++ body ++ '\x7d' :: post) (front.count '\n' + 1)
      (front ++ raw ++ ['\n']) (last ++ '\x7d' :: z) back := by
    refine ⟨?_, Or.inr ⟨front ++ raw, rfl⟩, hcount', ?_, hback⟩
    · rw [hsplit, hpost]
      simp
    · simp [hlast, hz]
  obtain ⟨z', hz'⟩ := stripReturn_append_cons last z (c := '\x7d') (by decide)
  refine ⟨front.count '\n', front, raw, last, post, by omega, hline, ?_, _, hbrace.line?, ?_⟩
  · rw [hb, hsplit]
    simp
  · rw [hz', hcolumn, List.take_left]

/-! ## What the plan leaves in front of the brace -/

namespace Plan

theorem insertionPoint_of_lt (tabSize : Nat) {c : ClassModel} (d : Document) {n : Nat}
    (hlines : c.startLine < c.endLine) (hend : c.endLine = n + 1) :
    insertionPoint tabSize c d =
      if d.isBlank n then
        (.range ⟨⟨blankRunStart d (c.startLine + 1) n, tabSize⟩, ⟨n, tabSize⟩⟩, 1)
      else (.point ⟨n, d.lineLength n⟩, 2) := by
  rw [insertionPoint, if_neg (by omega), hend, Nat.add_sub_cancel]

/-- An insertion point of a class on several lines ends on the line above the closing brace, with
nothing but blanks behind it on that line. -/
theorem exists_stop {source : Text} (tabSize : Nat) {c : ClassModel} {n : Nat}
    {front raw back : Text} (hlines : c.startLine < c.endLine) (hend : c.endLine = n + 1)
    (hline : LineAt source n front raw back) :
    ∃ x z, raw = x ++ z ∧ Text.isBlank z = true ∧
      (ofText source).offsetAt (insertionPoint tabSize c (ofText source)).1.span.stop =
        byteLength (front ++ x) := by
  rw [insertionPoint_of_lt tabSize (ofText source) hlines hend]
  split
  · rename_i hblank
    obtain ⟨z, hz⟩ := exists_take_stripReturn raw tabSize
    refine ⟨_, z, hz, ?_, ?_⟩
    · rw [hline.isBlank, isBlank_stripReturn, hz, isBlank_append, Bool.and_eq_true] at hblank
      exact hblank.2
    · rw [byteLength_append]
      exact hline.offsetAt tabSize
  · obtain ⟨z, hz, hblank⟩ := exists_stripReturn raw
    refine ⟨stripReturn raw, z, hz, hblank, ?_⟩
    have hoffset := hline.offsetAt (stripReturn raw).length
    rw [List.take_length] at hoffset
    rw [InsertAt.span, hline.lineLength, hoffset, byteLength_append]

/-- The text between the end of an insertion point and the closing brace. -/
theorem exists_behind (tabSize : Nat) {source : Text} {s : Site} (hin : s.In source) :
    ∃ front rest post, source = front ++ rest ++ '\x7d' :: post ∧
      (ofText source).offsetAt
          (insertionPoint tabSize (s.model (ofText source)) (ofText source)).1.span.stop =
        byteLength front ∧
      s.closing = byteLength (front ++ rest) ∧
      (Text.isBlank rest = true ↔
        (s.model (ofText source)).endLine = (s.model (ofText source)).startLine ∨
          Text.isBlank ((((ofText source).line? (s.model (ofText source)).endLine).getD []).take
            (s.model (ofText source)).endColumn) = true) := by
  by_cases hlines : (s.model (ofText source)).startLine < (s.model (ofText source)).endLine
  · obtain ⟨n, front, raw, last, post, hend, hline, hclosing, brace, hbrace, hlast⟩ :=
      hin.exists_above hlines
    obtain ⟨x, z, rfl, hz, hstop⟩ := exists_stop tabSize hlines hend hline
    refine ⟨front ++ x, z ++ '\n' :: last, post, ?_, hstop, ?_, ?_⟩
    · rw [hline.eq]
      simp
    · rw [hclosing]
      simp
    · have hbreak : Text.isBlank ['\n'] = true := by decide
      rw [hend, hbrace, Option.getD_some, hlast, ← List.singleton_append, isBlank_append,
        isBlank_append, hz, hbreak, Bool.true_and, Bool.true_and]
      constructor
      · exact Or.inr
      · rintro (hsame | hblank)
        · omega
        · exact hblank
  · -- on one line the stretch ends at the brace itself
    obtain ⟨pre, body, post, rfl, hopen, hk, hb⟩ := hin
    obtain ⟨hstart, hend⟩ := model_lines ('\x7d' :: post) hk hb
    have htarget := target_single post tabSize hopen (by omega) hk hb
    have hstop := congrArg (fun p : Nat × Nat × Nat => p.2.1) htarget
    refine ⟨pre ++ body, [], post, by simp, ?_, by simpa using hb, ?_⟩
    · rw [byteLength_append]
      exact hstop
    · simp only [show Text.isBlank [] = true from rfl, true_iff]
      exact Or.inl (by omega)

/-- The methods stand right before the closing brace, with blanks between, exactly when the class is
on one line or nothing but blanks shares the line of its closing brace in front of the brace. -/
theorem blank_before_brace_iff {source : Text} {s : Site} (hin : s.In source)
    (hclosing : s.closing < 2 ^ 32) {kinds : Kinds} {tabSize : Nat} {planned : PlannedEdit}
    (h : planClass kinds tabSize (ofText source) (s.model (ofText source)) = some planned) :
    Text.isBlank (sliceBytes source (planned.toEdit (ofText source)).stopOffset s.closing) = true ↔
      (s.model (ofText source)).endLine = (s.model (ofText source)).startLine ∨
        Text.isBlank ((((ofText source).line? (s.model (ofText source)).endLine).getD []).take
          (s.model (ofText source)).endColumn) = true := by
  rw [planClass_eq] at h
  obtain ⟨hpoint, -, -⟩ := adding_eq_some h
  obtain ⟨front, rest, post, hsource, hstop, hbrace, hiff⟩ := exists_behind tabSize hin
  rw [← hpoint] at hstop
  rw [byteLength_append] at hbrace
  rw [PlannedEdit.stopOffset_toEdit (by omega), hstop, ← hiff]
  have hslice : sliceBytes source (byteLength front) s.closing = rest := by
    rw [hsource, hbrace, sliceBytes_append]
  rw [hslice]

/-- A brace on a line of its own, with blanks in front of it and a blank line above it. -/
theorem blank_before_brace_iff_indented :
    let source := "<?php\n  class A \x7b\n    private $a;\n \n  \x7d\n".toList
    let s : Site := ⟨"A".toList, [⟨"a".toList, none⟩], [], 8, 38⟩
    ∃ planned, planClass .both 4 (ofText source) (s.model (ofText source)) = some planned ∧
      Text.isBlank (sliceBytes source (planned.toEdit (ofText source)).stopOffset s.closing) = true := by
  intro source s
  have hin : s.In source := ⟨"<?php\n  ".toList, "class A \x7b\n    private $a;\n \n  ".toList,
    "\n".toList, rfl, ⟨'c', _, rfl, rfl⟩, rfl, rfl⟩
  have hsome : (planClass .both 4 (ofText source) (s.model (ofText source))).isSome = true := by
    decide +kernel
  obtain ⟨planned, hplanned⟩ := Option.isSome_iff_exists.1 hsome
  exact ⟨planned, hplanned,
    (blank_before_brace_iff hin (by decide) hplanned).2 (Or.inr (by decide +kernel))⟩

/-- A class whose whole body shares the line of its closing brace gets its methods in front of its
opening brace. -/
theorem methods_before_opening_brace :
    let source := "<?php\nclass A\n\x7b private $a; \x7d\n".toList
    let s : Site := ⟨"A".toList, [⟨"a".toList, none⟩], [], 6, 28⟩
    s.In source ∧ Extract.ofSource .isPrivate source = .ok [s.model (ofText source)] ∧
      ∃ planned, planClass .gettersOnly 4 (ofText source) (s.model (ofText source)) = some planned ∧
        sliceBytes source (planned.toEdit (ofText source)).stopOffset s.closing =
          "\n\x7b private $a; ".toList ∧
        Text.isBlank (sliceBytes source (planned.toEdit (ofText source)).stopOffset s.closing) =
          false := by
  intro source s
  have hin : s.In source := ⟨"<?php\n".toList, "class A\n\x7b private $a; ".toList, "\n".toList, rfl,
    ⟨'c', _, rfl, rfl⟩, rfl, rfl⟩
  have hslice : (planClass .gettersOnly 4 (ofText source) (s.model (ofText source))).map
      (fun planned => sliceBytes source (planned.toEdit (ofText source)).stopOffset s.closing) =
        some "\n\x7b private $a; ".toList := by decide +kernel
  obtain ⟨planned, hplanned, hbetween⟩ := Option.map_eq_some_iff.1 hslice
  refine ⟨hin, by decide +kernel, planned, hplanned, hbetween, ?_⟩
  rw [hbetween]
  decide

end Plan

end Accessors
