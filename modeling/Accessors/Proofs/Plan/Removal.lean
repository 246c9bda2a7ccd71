import Accessors.Proofs.Edit.Batch
import Accessors.Proofs.Plan.Excerpt
import Accessors.Proofs.Plan.Kinds
import Mathlib.Algebra.Group.Nat.Defs

/-!
# What a planned edit removes

A planned edit replaces the blanks in front of a closing brace, a run of blank lines, or nothing. So
whatever a model says about the lines of its class, also when they are not in the document at all,
no character is lost that is not blank.

* `Text.BlankBetween`: the text between two offsets holds blanks only.
* `Document.blankBetween_next`: from a blank line to the blank line below it.
* `Plan.blankBetween_blankRunStart`: from the start of a run of blank lines to its end.
* `Plan.blankBetween_insertionPoint`: the stretch that an insertion point replaces.
* `PlannedEdit.applied`, `PlannedEdit.applyAll_toEdit`: the text with a planned edit applied.
* `Plan.removes_only_blanks`: all this for the edit planned for a class.
-/

namespace Accessors

/-! ## Stretches of blanks -/

namespace Text

/-- The text between two offsets holds blanks only. -/
def BlankBetween (t : Text) (m n : Nat) : Prop :=
  ∃ front blanks back, t = front ++ blanks ++ back ∧ m = byteLength front ∧
    n = byteLength (front ++ blanks) ∧ isBlank blanks = true

theorem isBlank_append (s t : Text) : isBlank (s ++ t) = (isBlank s && isBlank t) :=
  List.all_append

namespace BlankBetween

theorem refl {t : Text} {n : Nat} (h : IsBoundary t n) : BlankBetween t n n := by
  obtain ⟨s, u, rfl, rfl⟩ := isBoundary_iff.1 h
  exact ⟨s, [], u, by simp, rfl, by simp, rfl⟩

theorem trans {t : Text} {l m n : Nat} (h₁ : BlankBetween t l m) (h₂ : BlankBetween t m n) :
    BlankBetween t l n := by
  obtain ⟨front, blanks, back, rfl, rfl, rfl, hblanks⟩ := h₁
  obtain ⟨front', blanks', back', heq, hm, rfl, hblanks'⟩ := h₂
  rw [List.append_assoc front'] at heq
  obtain ⟨rfl, rfl⟩ := append_inj_of_byteLength heq hm
  refine ⟨front, blanks ++ blanks', back', by simp, rfl, by simp, ?_⟩
  rw [isBlank_append, hblanks, hblanks']
  rfl

end BlankBetween

end Text

open Document Text

/-! ## Blank lines -/

namespace Document

/-- The carriage return of a line is blank itself. -/
theorem exists_stripReturn (raw : Text) :
    ∃ z, raw = stripReturn raw ++ z ∧ Text.isBlank z = true := by
  obtain ⟨z, hz, hz'⟩ := stripReturn_append raw
  refine ⟨z, hz, ?_⟩
  rcases hz' with ⟨rfl, -⟩ | rfl
  · rfl
  · decide

theorem isBlank_stripReturn (raw : Text) : Text.isBlank (stripReturn raw) = Text.isBlank raw := by
  obtain ⟨z, hz, hblank⟩ := exists_stripReturn raw
  conv_rhs => rw [hz, isBlank_append, hblank, Bool.and_true]

/-- The line below a line. -/
theorem LineAt.next {t front raw b : Text} {n : Nat} (h : LineAt t n front raw ('\n' :: b)) :
    ∃ raw' back', b = raw' ++ back' ∧ LineAt t (n + 1) (front ++ raw ++ ['\n']) raw' back' := by
  obtain ⟨raw', back', rfl, hraw', hback'⟩ := exists_firstLine b
  refine ⟨raw', back', rfl, ?_, Or.inr ⟨front ++ raw, rfl⟩, ?_, hraw', hback'⟩
  · rw [h.eq]
    simp
  · rw [List.count_append, List.count_append, h.count, List.count_eq_zero.2 h.raw_free]
    rfl

/-- Between a column of a blank line and the same column of a blank line below it there are blanks
only, also when the document ends on the way. -/
theorem blankBetween_next {t : Text} {n : Nat} (column : Nat) (hn : (ofText t).isBlank n = true)
    (hnext : (ofText t).isBlank (n + 1) = true) :
    BlankBetween t ((ofText t).offsetAt ⟨n, column⟩) ((ofText t).offsetAt ⟨n + 1, column⟩) := by
  by_cases hline : n ≤ t.count '\n'
  · obtain ⟨front, raw, back, h⟩ := exists_lineAt hline
    obtain ⟨z, hz⟩ := exists_take_stripReturn raw column
    have hblank : Text.isBlank z = true := by
      rw [h.isBlank, isBlank_stripReturn, hz, isBlank_append, Bool.and_eq_true] at hn
      exact hn.2
    have hstart := h.offsetAt column
    generalize (stripReturn raw).take column = x at hz hstart
    rcases h.back_starts with rfl | ⟨b, rfl⟩
    · -- the line is the last one, so its rest reaches to the end
      have hend : (ofText t).offsetAt ⟨n + 1, column⟩ = byteLength t := by
        apply offsetAt_of_count_lt
        have hcount := congrArg (List.count '\n') h.eq
        rw [List.append_nil, List.count_append, h.count, List.count_eq_zero.2 h.raw_free] at hcount
        simp only
        omega
      refine ⟨front ++ x, z, [], ?_, ?_, ?_, hblank⟩
      · rw [h.eq, hz]
        simp
      · rw [hstart, byteLength_append]
      · rw [hend, h.eq, hz]
        simp
    · obtain ⟨raw', back', rfl, h'⟩ := h.next
      obtain ⟨z', hz'⟩ := exists_take_stripReturn raw' column
      have hblank' : Text.isBlank ((stripReturn raw').take column) = true := by
        rw [h'.isBlank, isBlank_stripReturn, hz', isBlank_append, Bool.and_eq_true] at hnext
        exact hnext.1
      have hstop := h'.offsetAt column
      generalize (stripReturn raw').take column = x' at hz' hstop hblank'
      refine ⟨front ++ x, z ++ '\n' :: x', z' ++ back', ?_, ?_, ?_, ?_⟩
      · rw [h.eq, hz, hz']
        simp
      · rw [hstart, byteLength_append]
      · rw [hstop, hz]
        simp [Nat.add_assoc]
      · have hbreak : Text.isBlank ('\n' :: x') = true := by
          rw [← List.singleton_append, isBlank_append, hblank']
          decide
        rw [isBlank_append, hblank, hbreak]
        rfl
  · have hstart := offsetAt_of_count_lt (p := ⟨n, column⟩) (Nat.lt_of_not_le hline)
    have hstop := offsetAt_of_count_lt (t := t) (p := ⟨n + 1, column⟩) (by simp only; omega)
    have hboundary := isBoundary_offsetAt t ⟨n, column⟩
    rw [hstop, ← hstart]
    exact BlankBetween.refl hboundary

end Document

/-! ## Insertion points -/

namespace Plan

/-- Between a column of the first line of a run of blank lines and the same column of its last line
there are blanks only. -/
theorem blankBetween_blankRunStart (t : Text) (floor column : Nat) {n : Nat}
    (h : (ofText t).isBlank n = true) :
    BlankBetween t ((ofText t).offsetAt ⟨blankRunStart (ofText t) floor n, column⟩)
      ((ofText t).offsetAt ⟨n, column⟩) := by
  induction n with
  | zero => exact BlankBetween.refl (isBoundary_offsetAt t _)
  | succ n ih =>
    rw [blankRunStart]
    split
    · rename_i hrun
      exact (ih hrun.2).trans (blankBetween_next column hrun.2 h)
    · exact BlankBetween.refl (isBoundary_offsetAt t _)

theorem exists_trimEnd (t : Text) :
    ∃ blanks, t = trimEnd t ++ blanks ∧ Text.isBlank blanks = true := by
  refine ⟨t.rtakeWhile isBlankChar, ?_, ?_⟩
  · exact List.rdropWhile_append_rtakeWhile.symm
  · exact List.all_eq_true.2 fun c hc => List.mem_rtakeWhile_imp hc

/-- In front of a closing brace on the line of the keyword the blanks are replaced. -/
theorem blankBetween_inlinePoint (t : Text) (c : ClassModel) :
    BlankBetween t ((ofText t).offsetAt (inlinePoint c (ofText t)).span.start)
      ((ofText t).offsetAt (inlinePoint c (ofText t)).span.stop) := by
  rw [inlinePoint_span]
  simp only
  by_cases hline : c.endLine ≤ t.count '\n'
  · obtain ⟨front, raw, back, h⟩ := exists_lineAt hline
    obtain ⟨z, hz⟩ := exists_take_stripReturn raw c.endColumn
    obtain ⟨blanks, hsplit, hblanks⟩ := exists_trimEnd ((stripReturn raw).take c.endColumn)
    have hkept : (stripReturn raw).take (trimEnd ((stripReturn raw).take c.endColumn)).length =
        trimEnd ((stripReturn raw).take c.endColumn) := by
      refine (List.prefix_iff_eq_take.1 ?_).symm
      exact (List.prefix_iff_exists_append_eq.2 ⟨blanks, hsplit.symm⟩).trans (List.take_prefix _ _)
    rw [h.line?, Option.getD_some, h.offsetAt, h.offsetAt, hkept]
    generalize trimEnd ((stripReturn raw).take c.endColumn) = x at hsplit
    refine ⟨front ++ x, blanks, z ++ back, ?_, ?_, ?_, hblanks⟩
    · rw [h.eq, hz, hsplit]
      simp
    · rw [byteLength_append]
    · rw [hsplit]
      simp
  · have hend : ∀ column, (ofText t).offsetAt ⟨c.endLine, column⟩ = byteLength t := fun column =>
      offsetAt_of_count_lt (Nat.lt_of_not_le hline)
    have hboundary := isBoundary_offsetAt t ⟨c.endLine, 0⟩
    rw [hend] at hboundary
    rw [hend, hend]
    exact BlankBetween.refl hboundary

/-- What stands between the ends of an insertion point is blank. -/
theorem blankBetween_insertionPoint (tabSize : Nat) (t : Text) (c : ClassModel) :
    BlankBetween t
      ((ofText t).offsetAt (insertionPoint tabSize c (ofText t)).1.span.start)
      ((ofText t).offsetAt (insertionPoint tabSize c (ofText t)).1.span.stop) := by
  rw [insertionPoint]
  split
  · exact blankBetween_inlinePoint t c
  · simp only
    split
    · rename_i hblank
      exact blankBetween_blankRunStart t (c.startLine + 1) tabSize hblank
    · exact BlankBetween.refl (isBoundary_offsetAt t _)

end Plan

/-! ## Planned edits -/

namespace PlannedEdit

/-- The text of a document with the stretch of a planned edit replaced. -/
def applied (d : Document) (e : PlannedEdit) : Text :=
  takeBytes d.text (d.offsetAt e.insertAt.span.start) ++ e.text ++
    dropBytes d.text (d.offsetAt e.insertAt.span.stop)

theorem startOffset_toEdit {d : Document} {e : PlannedEdit}
    (h : d.offsetAt e.insertAt.span.start < 2 ^ 32) :
    (e.toEdit d).startOffset = d.offsetAt e.insertAt.span.start := by
  rw [toEdit, Edit.startOffset, Edit.replace, UInt32.toNat_ofNat', Nat.mod_eq_of_lt h]

theorem stopOffset_toEdit {d : Document} {e : PlannedEdit}
    (h : d.offsetAt e.insertAt.span.stop < 2 ^ 32) :
    (e.toEdit d).stopOffset = d.offsetAt e.insertAt.span.stop := by
  rw [toEdit, Edit.stopOffset, Edit.replace, UInt32.toNat_ofNat', Nat.mod_eq_of_lt h]

section Applied

variable {front blanks back : Text} {e : PlannedEdit}
  (hstart : (ofText (front ++ blanks ++ back)).offsetAt e.insertAt.span.start = byteLength front)
  (hstop : (ofText (front ++ blanks ++ back)).offsetAt e.insertAt.span.stop =
    byteLength (front ++ blanks))

include hstart hstop

theorem applied_eq : e.applied (ofText (front ++ blanks ++ back)) = front ++ e.text ++ back := by
  rw [applied, text_ofText, hstart, hstop, dropBytes_append, List.append_assoc front blanks,
    takeBytes_append]

/-- The byte-span edit of a planned edit has the offsets of its stretch and, applied alone, replaces
it, as long as the stretch ends at an offset of 32 bits. -/
theorem applyAll_toEdit (hlen : byteLength (front ++ blanks) < 2 ^ 32) :
    (e.toEdit (ofText (front ++ blanks ++ back))).startOffset = byteLength front ∧
      (e.toEdit (ofText (front ++ blanks ++ back))).stopOffset = byteLength (front ++ blanks) ∧
      Edit.applyAll (front ++ blanks ++ back) [e.toEdit (ofText (front ++ blanks ++ back))] =
        .ok (e.applied (ofText (front ++ blanks ++ back))) := by
  have hle : byteLength front ≤ byteLength (front ++ blanks) := by
    rw [byteLength_append]
    omega
  have hfirst := startOffset_toEdit (d := ofText (front ++ blanks ++ back)) (e := e) (by omega)
  have hlast := stopOffset_toEdit (d := ofText (front ++ blanks ++ back)) (e := e) (by omega)
  rw [hstart] at hfirst
  rw [hstop] at hlast
  refine ⟨hfirst, hlast, ?_⟩
  rw [Edit.applyAll_singleton hfirst hlast, applied_eq hstart hstop]
  rfl

end Applied

end PlannedEdit

/-- Only blanks are removed. For a class whose model may say anything about its lines: the edit
planned for it lies in the text and ends between characters, what it replaces is blank, and it is
accepted; without the inserted text the output is the source up to blanks. -/
theorem Plan.removes_only_blanks {source : Text} (hlen : byteLength source < 2 ^ 32) {kinds : Kinds}
    {tabSize : Nat} {c : ClassModel} {planned : PlannedEdit}
    (h : planClass kinds tabSize (ofText source) c = some planned) :
    let e := planned.toEdit (ofText source)
    e.Fits source ∧
      (∀ x ∈ sliceBytes source e.startOffset e.stopOffset, isBlankChar x = true) ∧
      Edit.applyAll source [e] = .ok
        (takeBytes source e.startOffset ++ planned.text ++ dropBytes source e.stopOffset) ∧
      (takeBytes source e.startOffset ++ dropBytes source e.stopOffset).filter
        (fun x => !isBlankChar x) = source.filter fun x => !isBlankChar x := by
  intro e
  rw [planClass_eq] at h
  obtain ⟨hpoint, -, -⟩ := adding_eq_some h
  have hblank := blankBetween_insertionPoint tabSize source c
  rw [← hpoint] at hblank
  obtain ⟨front, blanks, back, rfl, hstart, hstop, hblanks⟩ := hblank
  have hshort : byteLength (front ++ blanks) < 2 ^ 32 := by
    rw [byteLength_append (front ++ blanks)] at hlen
    omega
  obtain ⟨hfirst, hlast, houtput⟩ := PlannedEdit.applyAll_toEdit hstart hstop hshort
  have hall : ∀ x ∈ blanks, isBlankChar x = true := List.all_eq_true.1 hblanks
  have htake : takeBytes (front ++ blanks ++ back) e.startOffset = front := by
    rw [hfirst, List.append_assoc, takeBytes_append]
  have hdrop : dropBytes (front ++ blanks ++ back) e.stopOffset = back := by
    rw [hlast, dropBytes_append]
  rw [htake, hdrop]
  refine ⟨⟨?_, ?_, ?_, ?_⟩, ?_, ?_, ?_⟩
  · rw [hfirst, hlast, byteLength_append]
    omega
  · rw [hlast, byteLength_append (front ++ blanks)]
    omega
  · rw [hfirst, List.append_assoc]
    exact isBoundary_append front _
  · rw [hlast]
    exact isBoundary_append _ back
  · rw [hfirst, hlast, byteLength_append, sliceBytes_append]
    exact hall
  · rw [houtput, PlannedEdit.applied_eq hstart hstop]
  · have hnone : blanks.filter (fun x => !isBlankChar x) = [] := by
      rw [List.filter_eq_nil_iff]
      intro x hx
      simp [hall x hx]
    rw [List.filter_append, List.filter_append, List.filter_append, hnone, List.append_nil]

/-- The model puts the closing brace behind the end of the text, which ends with blank lines. -/
theorem Plan.removes_only_blanks_past_end :
    let source := "<?php\n\t \n ".toList
    let c : ClassModel := ⟨"A".toList, 0, 9, 7, [⟨"a".toList, none⟩], []⟩
    ∃ planned, planClass .gettersOnly 1 (ofText source) c = some planned ∧
      (planned.toEdit (ofText source)).startOffset = 7 ∧
      (planned.toEdit (ofText source)).stopOffset = 10 ∧
      (∀ x ∈ sliceBytes source 7 10, isBlankChar x = true) ∧
      Edit.applyAll source [planned.toEdit (ofText source)] =
        .ok ("<?php\n\t".toList ++ planned.text) := by
  intro source c
  have hoffsets : (planClass .gettersOnly 1 (ofText source) c).map (fun planned =>
      ((planned.toEdit (ofText source)).startOffset, (planned.toEdit (ofText source)).stopOffset)) =
        some (7, 10) := by decide +kernel
  obtain ⟨planned, hplanned, hboth⟩ := Option.map_eq_some_iff.1 hoffsets
  obtain ⟨hstart, hstop⟩ := Prod.mk.inj hboth
  obtain ⟨-, hblanks, houtput, -⟩ := removes_only_blanks (by decide) hplanned
  rw [hstart, hstop] at hblanks houtput
  have htake : takeBytes source 7 = "<?php\n\t".toList := by decide
  have hdrop : dropBytes source 10 = [] := by decide
  rw [htake, hdrop, List.append_nil] at houtput
  exact ⟨planned, hplanned, hstart, hstop, hblanks, houtput⟩

end Accessors
