import Accessors.Proofs.Diff.Hunks
import Accessors.Proofs.Diff.PatchFile
import Mathlib.Data.List.Basic

/-!
# Differences as patch files

The hunks of a difference, printed, are a patch file that turns the old lines into the new ones,
as far as every line that they show has a line break. A line without one, the last of its text, is
followed by two line breaks, and the empty line between them is no line of a patch file.

Lines are compared with their breaks, and a carriage return breaks a line too, while the lines of a
patch file end with line feeds. The two agree on texts whose carriage returns stand in front of line
feeds.

* `ReturnsFed`: a carriage return stands in front of a line feed.
* `entries`, `shown`: the lines that operations show.
* `hunkText_eq`, `Covers.exists_hunks`: the hunks as a patch file.
* `patched?_of_shown_broken`, `patched?_render_iff`: when the difference is a patch file for the two
  texts.
-/

namespace Accessors.Unified

open PatchFile Script

/-! ## Lines with and without their breaks -/

/-- Every carriage return stands in front of a line feed. -/
def ReturnsFed (t : Text) : Prop := ∀ i < t.length, t[i]? = some '\r' → t[i + 1]? = some '\n'

instance (t : Text) : Decidable (ReturnsFed t) :=
  Nat.decidableBallLT t.length fun i _ => t[i]? = some '\r' → t[i + 1]? = some '\n'

theorem ReturnsFed.tail {c : Char} {t : Text} (h : ReturnsFed (c :: t)) : ReturnsFed t := by
  intro i hi hreturn
  exact h (i + 1) (Nat.succ_lt_succ hi) hreturn

/-- A line without the line feed at its end. -/
def content (line : Text) : Text := if line.getLast? = some '\n' then line.dropLast else line

/-- The content of a line has no line feed, and a line with a break is its content and a line
feed. -/
def Fed (line : Text) : Prop :=
  '\n' ∉ content line ∧ (isBroken line = true → line = content line ++ ['\n'])

instance (line : Text) : Decidable (Fed line) := inferInstanceAs (Decidable (_ ∧ _))

section

variable {c : Char} {t line : Text}

theorem ReturnsFed.next (h : ReturnsFed ('\r' :: t)) : ∃ u, t = '\n' :: u := by
  have hnext : t[0]? = some '\n' := h 0 (Nat.succ_pos _) rfl
  cases t with
  | nil => cases hnext
  | cons d u =>
    cases hnext
    exact ⟨u, rfl⟩

theorem content_cons (hc : c ≠ '\n') (line : Text) : content (c :: line) = c :: content line := by
  cases line with
  | nil => simp [content, hc]
  | cons d line =>
    rw [content, List.getLast?_cons_cons, content]
    split
    · rw [List.dropLast_cons_of_ne_nil (List.cons_ne_nil d line)]
    · rfl

theorem isBroken_cons (hc : ¬(c = '\n' || c = '\r') = true) (line : Text) :
    isBroken (c :: line) = isBroken line := by
  cases line with
  | nil => simpa [isBroken] using hc
  | cons d line => rw [isBroken, List.getLast?_cons_cons, isBroken]

theorem Fed.cons (hc : ¬(c = '\n' || c = '\r') = true) (h : Fed line) : Fed (c :: line) := by
  have hne : c ≠ '\n' := by
    rintro rfl
    exact hc rfl
  rw [Fed, content_cons hne, isBroken_cons hc, List.mem_cons, not_or]
  exact ⟨⟨hne.symm, h.1⟩, fun hbroken => congrArg (c :: ·) (h.2 hbroken)⟩

/-- The lines that are compared and those of a patch file are the same. -/
theorem lines_eq_and_fed (h : ReturnsFed t) :
    lines t = (linesOf t).map content ∧ ∀ line ∈ linesOf t, Fed line := by
  fun_induction linesOf t with
  | case1 => exact ⟨rfl, by simp⟩
  | case2 t ih =>
    obtain ⟨hlines, hfed⟩ := ih h.tail.tail
    refine ⟨?_, List.forall_mem_cons.2 ⟨by decide, hfed⟩⟩
    rw [lines, if_neg (by decide), lines, if_pos rfl, hlines]
    rfl
  | case3 c t hnot hbreak ih =>
    obtain ⟨hlines, hfed⟩ := ih h.tail
    -- a carriage return alone would be a line of its own here, but none of a patch file
    have hc : c = '\n' := by
      rcases (by simpa using hbreak : c = '\n' ∨ c = '\r') with hc | rfl
      · exact hc
      · obtain ⟨u, hu⟩ := h.next
        exact absurd hu (hnot u rfl)
    subst hc
    refine ⟨?_, List.forall_mem_cons.2 ⟨by decide, hfed⟩⟩
    rw [lines, if_pos rfl, hlines]
    rfl
  | case4 c t hnot hc hnone ih =>
    have hne : c ≠ '\n' := by
      rintro rfl
      exact hc rfl
    obtain ⟨hlines, -⟩ := ih h.tail
    rw [hnone, List.map_nil] at hlines
    refine ⟨?_, List.forall_mem_singleton.2 (Fed.cons hc (by decide))⟩
    rw [lines, if_neg hne, hlines, List.map_singleton, content_cons hne]
    rfl
  | case5 c t hnot hc line rest hsome ih =>
    have hne : c ≠ '\n' := by
      rintro rfl
      exact hc rfl
    obtain ⟨hlines, hfed⟩ := ih h.tail
    rw [hsome, List.map_cons] at hlines
    rw [hsome, List.forall_mem_cons] at hfed
    refine ⟨?_, List.forall_mem_cons.2 ⟨hfed.1.cons hc, hfed.2⟩⟩
    rw [lines, if_neg hne, hlines, List.map_cons, content_cons hne]

end

/-! ## The lines that operations show -/

/-- The lines that an operation shows. -/
def entries (old new : List Text) : Op → List Entry
  | .equal o _ length => marked .kept ((old.drop o).take length)
  | .delete o length _ => marked .removed ((old.drop o).take length)
  | .insert _ n length => marked .added ((new.drop n).take length)
  | .replace o oldLength n newLength =>
    marked .removed ((old.drop o).take oldLength) ++ marked .added ((new.drop n).take newLength)

/-- The lines that the hunks of a difference show. -/
def shown (old new : List Text) : List Entry :=
  (hunks (Script.compare old new)).flatMap fun ops => ops.flatMap (entries old new)

section

variable {old new : List Text} {i j m n : Nat} {op : Op} {ops : List Op}

theorem opText_eq (old new : List Text) (op : Op) :
    opText old new op = (entries old new op).flatMap fun e => hunkLine e.mark.sign e.line := by
  have hmarked : ∀ mark ls, (marked mark ls).flatMap (fun e => hunkLine e.mark.sign e.line) =
      ls.flatMap (hunkLine mark.sign) := fun mark ls => List.flatMap_map ..
  cases op with
  | replace o oldLength n newLength =>
    rw [entries, List.flatMap_append, hmarked, hmarked]
    rfl
  | _ =>
    rw [entries, hmarked]
    rfl

theorem mem_of_mem_entries {e : Entry} (h : e ∈ entries old new op) :
    e.line ∈ old ∨ e.line ∈ new := by
  have hslice : ∀ {line} {ls : List Text} {k l}, line ∈ (ls.drop k).take l → line ∈ ls :=
    fun h => List.mem_of_mem_drop (List.mem_of_mem_take h)
  cases op with
  | equal o n length => exact .inl (hslice (mem_of_mem_marked h))
  | delete o length n => exact .inl (hslice (mem_of_mem_marked h))
  | insert o n length => exact .inr (hslice (mem_of_mem_marked h))
  | replace o oldLength n newLength =>
    rcases List.mem_append.1 h with h | h
    · exact .inl (hslice (mem_of_mem_marked h))
    · exact .inr (hslice (mem_of_mem_marked h))

/-- Lines that agree are the same lines. -/
theorem take_drop_eq_of_agreeOn {length : Nat}
    (h : Sides.AgreeOn ⟨old.toArray, new.toArray⟩ i j length) (hi : i + length ≤ old.length)
    (hj : j + length ≤ new.length) : (old.drop i).take length = (new.drop j).take length := by
  apply List.ext_getElem
  · simp only [List.length_take, List.length_drop]
    omega
  · intro t hold hnew
    simp only [List.length_take, List.length_drop] at hold hnew
    have hagree := h t (by omega)
    simp only [Sides.agree, Array.getD_eq_getD_getElem?, List.getElem?_toArray,
      decide_eq_true_eq] at hagree
    rw [List.getElem?_eq_getElem (by omega), List.getElem?_eq_getElem (by omega)] at hagree
    simpa using hagree

/-- An operation shows the old lines and the new lines that it takes. -/
theorem sides_entries (h : Op.Takes ⟨old.toArray, new.toArray⟩ i j op)
    (hi : i + op.oldLength ≤ old.length) (hj : j + op.newLength ≤ new.length) :
    oldSide (entries old new op) = (old.drop i).take op.oldLength ∧
      newSide (entries old new op) = (new.drop j).take op.newLength := by
  cases op with
  | equal o n length =>
    obtain ⟨rfl, rfl, hagree⟩ := h
    have heq := take_drop_eq_of_agreeOn hagree hi hj
    simp [entries, Mark.inOld, Mark.inNew, Op.oldLength, Op.newLength, heq]
  | delete o length n =>
    obtain rfl := h
    simp [entries, Mark.inOld, Mark.inNew, Op.oldLength, Op.newLength]
  | insert o n length =>
    obtain rfl := h
    simp [entries, Mark.inOld, Mark.inNew, Op.oldLength, Op.newLength]
  | replace o oldLength n newLength =>
    obtain ⟨rfl, rfl⟩ := h
    simp [entries, Mark.inOld, Mark.inNew, Op.oldLength, Op.newLength]

/-- Operations from one place to another show the lines in between. -/
theorem sides_flatMap_entries (h : Leads (Op.Takes ⟨old.toArray, new.toArray⟩) i j ops m n)
    (hm : m ≤ old.length) (hn : n ≤ new.length) :
    oldSide (ops.flatMap (entries old new)) = (old.drop i).take (m - i) ∧
      newSide (ops.flatMap (entries old new)) = (new.drop j).take (n - j) := by
  induction ops generalizing i j with
  | nil =>
    obtain ⟨rfl, rfl⟩ := h
    simp [oldSide, newSide]
  | cons op ops ih =>
    obtain ⟨hop, hrest⟩ := h
    have hle := hrest.le
    obtain ⟨hold, hnew⟩ := sides_entries hop (by omega) (by omega)
    obtain ⟨hold', hnew'⟩ := ih hrest
    rw [List.flatMap_cons, oldSide_append, newSide_append, hold, hnew, hold', hnew',
      show m - i = op.oldLength + (m - (i + op.oldLength)) by omega,
      show n - j = op.newLength + (n - (j + op.newLength)) by omega, List.take_add, List.take_add,
      List.drop_drop, List.drop_drop]
    exact ⟨rfl, rfl⟩

end

/-! ## Hunks of a patch file -/

/-- A line of a hunk without its line feed. -/
def trim (e : Entry) : Entry := ⟨e.mark, content e.line⟩

/-- Operations from one place to another as a hunk of a patch file. -/
def hunkAt (old new : List Text) (i j : Nat) (ops : List Op) (m n : Nat) : Hunk where
  old := ⟨i, m - i⟩
  new := ⟨j, n - j⟩
  entries := (ops.flatMap (entries old new)).map trim

section

variable {old new : List Text} {i j m n : Nat} {ops : List Op}

theorem oldSide_map_trim (es : List Entry) : oldSide (es.map trim) = (oldSide es).map content := by
  simp only [oldSide, List.filter_map, List.map_map]
  rfl

theorem newSide_map_trim (es : List Entry) : newSide (es.map trim) = (newSide es).map content := by
  simp only [newSide, List.filter_map, List.map_map]
  rfl

/-- A line with a break is printed as a line of a patch file. -/
theorem hunkLine_eq {e : Entry} (hfed : Fed e.line) (hbroken : isBroken e.line = true) :
    hunkLine e.mark.sign e.line = (trim e).text ++ ['\n'] := by
  rw [hunkLine, if_pos hbroken, List.append_nil]
  exact congrArg (e.mark.sign :: ·) (hfed.2 hbroken)

theorem header_eq (old new : List Text) (ops : List Op) {first last : Op}
    (hfirst : first.oldStart = i ∧ first.newStart = j)
    (hlast : last.oldStop = m ∧ last.newStop = n) (hle : i ≤ m ∧ j ≤ n) :
    header first last = (hunkAt old new i j ops m n).header ++ ['\n'] := by
  obtain ⟨rfl, rfl⟩ := hfirst
  obtain ⟨rfl, rfl⟩ := hlast
  rw [header_eq_words]
  unfold header
  simp [hunkAt, Nat.add_sub_cancel' hle.1, Nat.add_sub_cancel' hle.2]

/-- A hunk whose lines have breaks is printed as a hunk of a patch file. -/
theorem hunkText_eq (h : Stretch True ⟨old.toArray, new.toArray⟩ i j ops m n) (hne : ops ≠ [])
    (hfed : ∀ e ∈ ops.flatMap (entries old new), Fed e.line ∧ isBroken e.line = true) :
    hunkText old new ops = unlines (hunkAt old new i j ops m n).printed := by
  have hlines : ops.flatMap (opText old new) =
      unlines ((hunkAt old new i j ops m n).entries.map Entry.text) := by
    calc ops.flatMap (opText old new)
      _ = (ops.flatMap (entries old new)).flatMap fun e => hunkLine e.mark.sign e.line := by
        rw [List.flatMap_assoc]
        exact List.flatMap_congr fun op _ => opText_eq old new op
      _ = (ops.flatMap (entries old new)).flatMap fun e => (trim e).text ++ ['\n'] :=
        List.flatMap_congr fun e he => hunkLine_eq (hfed e he).1 (hfed e he).2
      _ = unlines ((hunkAt old new i j ops m n).entries.map Entry.text) := by
        simp [unlines, hunkAt, List.flatMap_map]
  obtain ⟨hhead, hback⟩ := h.spans trivial
  have hfirst := hhead (ops.head hne) (List.head?_eq_some_head hne)
  have hlast := hback (ops.getLast hne) (List.getLast?_eq_some_getLast hne)
  rw [hunkText, List.head?_eq_some_head hne, List.getLast?_eq_some_getLast hne]
  dsimp only
  rw [hlines, header_eq old new ops hfirst hlast h.leads.le]
  simp [unlines, Hunk.printed]

theorem oldSide_hunkAt (h : Leads (Op.Takes ⟨old.toArray, new.toArray⟩) i j ops m n)
    (hm : m ≤ old.length) (hn : n ≤ new.length) :
    oldSide (hunkAt old new i j ops m n).entries = ((old.drop i).take (m - i)).map content := by
  rw [hunkAt, oldSide_map_trim, (sides_flatMap_entries h hm hn).1]

theorem newSide_hunkAt (h : Leads (Op.Takes ⟨old.toArray, new.toArray⟩) i j ops m n)
    (hm : m ≤ old.length) (hn : n ≤ new.length) :
    newSide (hunkAt old new i j ops m n).entries = ((new.drop j).take (n - j)).map content := by
  rw [hunkAt, newSide_map_trim, (sides_flatMap_entries h hm hn).2]

theorem proper_hunkAt (h : Leads (Op.Takes ⟨old.toArray, new.toArray⟩) i j ops m n)
    (hm : m ≤ old.length) (hn : n ≤ new.length)
    (hfed : ∀ e ∈ ops.flatMap (entries old new), Fed e.line) :
    (hunkAt old new i j ops m n).Proper := by
  refine ⟨?_, ?_, ?_⟩
  · rw [oldSide_hunkAt h hm hn, List.length_map, List.length_take, List.length_drop]
    exact Nat.min_eq_left (by omega)
  · rw [newSide_hunkAt h hm hn, List.length_map, List.length_take, List.length_drop]
    exact Nat.min_eq_left (by omega)
  · intro e he
    obtain ⟨shown, hshown, rfl⟩ := List.mem_map.1 he
    exact (hfed shown hshown).1

/-- Some lines, those behind them up to a place, and the rest. -/
theorem drop_eq_append {k l : Nat} (ls : List Text) (h : i + k ≤ l) :
    ls.drop i = (ls.drop i).take k ++ ((ls.drop (i + k)).take (l - (i + k)) ++ ls.drop l) := by
  have hdrop : ls.drop l = (ls.drop (i + k)).drop (l - (i + k)) := by
    rw [List.drop_drop, Nat.add_sub_cancel' h]
  rw [hdrop, List.take_append_drop, ← List.drop_drop, List.take_append_drop]

/-- Hunks that show lines with breaks are a patch file that turns the old lines behind a place into
the new ones. -/
theorem Covers.exists_hunks {groups : List (List Op)}
    (h : Covers True ⟨old.toArray, new.toArray⟩ i j groups)
    (hfed : ∀ e ∈ groups.flatMap fun ops => ops.flatMap (entries old new),
      Fed e.line ∧ isBroken e.line = true) :
    ∃ hs : List Hunk, groups.flatMap (hunkText old new) = unlines (hs.flatMap Hunk.printed) ∧
      (∀ hunk ∈ hs, hunk.Proper) ∧
      replay i j hs ((old.drop i).map content) = some ((new.drop j).map content) := by
  induction groups generalizing i j with
  | nil =>
    obtain ⟨gap, hagree, hold, hnew⟩ := h
    simp only [List.size_toArray] at hold hnew
    refine ⟨[], rfl, by simp, ?_⟩
    have heq := take_drop_eq_of_agreeOn hagree (by omega) (by omega)
    rw [List.take_of_length_le (by rw [List.length_drop]; omega),
      List.take_of_length_le (by rw [List.length_drop]; omega)] at heq
    rw [replay, heq]
  | cons ops groups ih =>
    obtain ⟨hne, gap, m, n, hagree, hops, hrest⟩ := h
    rw [List.flatMap_cons, List.forall_mem_append] at hfed
    obtain ⟨hs, hprinted, hproper, hreplay⟩ := ih hrest hfed.2
    obtain ⟨hm, hn⟩ := hrest.le
    obtain ⟨hi, hj⟩ := hops.leads.le
    simp only [List.size_toArray] at hm hn
    have hhunk := proper_hunkAt hops.leads hm hn fun e he => (hfed.1 e he).1
    refine ⟨hunkAt old new (i + gap) (j + gap) ops m n :: hs, ?_,
      List.forall_mem_cons.2 ⟨hhunk, hproper⟩, ?_⟩
    · rw [List.flatMap_cons, List.flatMap_cons, hunkText_eq hops hne hfed.1, hprinted]
      simp [unlines]
    · -- both sides are the lines in front of the hunk, the lines of the hunk, and the rest
      have hgap := take_drop_eq_of_agreeOn hagree (by omega) (by omega)
      have hlength : (((old.drop i).take gap).map content).length = gap := by
        rw [List.length_map, List.length_take, List.length_drop]
        omega
      rw [drop_eq_append old hi, drop_eq_append new hj, List.map_append, List.map_append,
        List.map_append, List.map_append, ← oldSide_hunkAt hops.leads hm hn,
        ← newSide_hunkAt hops.leads hm hn, replay_cons (by rw [hlength]; rfl)
          (by rw [hlength]; rfl) hhunk.old_count]
      simp only [hunkAt, Nat.add_sub_cancel' hi, Nat.add_sub_cancel' hj]
      rw [hreplay, hgap]
      simp

end

/-! ## Lines without breaks -/

/-- A shown line without a break leaves an empty line in the difference. -/
theorem infix_of_mem_shown {old new : List Text} {e : Entry} (h : e ∈ shown old new)
    (hbroken : isBroken e.line = false) :
    ['\n', '\n'] <:+: (hunks (Script.compare old new)).flatMap (hunkText old new) := by
  have hpart : ∀ {α : Type} {a : α} {l : List α} (f : α → Text), a ∈ l → f a <:+: l.flatMap f :=
    fun f ha => List.infix_of_mem_flatten (List.mem_map_of_mem ha)
  obtain ⟨ops, hops, he⟩ := List.mem_flatMap.1 h
  obtain ⟨op, hop, he⟩ := List.mem_flatMap.1 he
  have hne : ops ≠ [] := List.ne_nil_of_mem hop
  have hline : ['\n', '\n'] <:+: hunkLine e.mark.sign e.line := by
    rw [hunkLine, hbroken]
    exact (List.suffix_append _ _).isInfix
  have hopText : hunkLine e.mark.sign e.line <:+: opText old new op := by
    rw [opText_eq]
    exact hpart (fun e => hunkLine e.mark.sign e.line) he
  have hhunk : ops.flatMap (opText old new) <:+: hunkText old new ops := by
    rw [hunkText, List.head?_eq_some_head hne, List.getLast?_eq_some_getLast hne]
    exact (List.suffix_append _ _).isInfix
  exact hline.trans (hopText.trans ((hpart _ hop).trans (hhunk.trans (hpart _ hops))))

/-! ## The difference of two texts -/

/-- Hunks that show no line without a break turn the old text into the new one. -/
theorem patched?_of_shown_broken {old new : Text} (hold : ReturnsFed old) (hnew : ReturnsFed new)
    (hspans : Spans 0 0 (Script.compare (linesOf old) (linesOf new)) (linesOf old).length
      (linesOf new).length)
    (hbroken : ∀ e ∈ shown (linesOf old) (linesOf new), isBroken e.line = true) :
    patched? (lines old) ((hunks (Script.compare (linesOf old) (linesOf new))).flatMap
      (hunkText (linesOf old) (linesOf new))) = some (lines new) := by
  obtain ⟨hlinesOld, hfedOld⟩ := lines_eq_and_fed hold
  obtain ⟨hlinesNew, hfedNew⟩ := lines_eq_and_fed hnew
  have hcovers := covers_hunks (s := ⟨(linesOf old).toArray, (linesOf new).toArray⟩)
    ⟨leads_compare _ _, fun _ : True => hspans⟩
  have hfed : ∀ e ∈ shown (linesOf old) (linesOf new), Fed e.line ∧ isBroken e.line = true := by
    intro e he
    refine ⟨?_, hbroken e he⟩
    obtain ⟨ops, -, he⟩ := List.mem_flatMap.1 he
    obtain ⟨op, -, he⟩ := List.mem_flatMap.1 he
    exact (mem_of_mem_entries he).elim (hfedOld _) (hfedNew _)
  obtain ⟨hs, hprinted, hproper, hreplay⟩ := hcovers.exists_hunks hfed
  rw [hprinted, patched?, read?_unlines hproper, hlinesOld, hlinesNew]
  exact hreplay

/-- The difference of two texts, behind its two header lines, is a patch file that turns the lines of
the old text into those of the new one if and only if every line that it shows has a line break. -/
theorem patched?_render_iff (path old new : Text) (hold : ReturnsFed old) (hnew : ReturnsFed new)
    (hspans : Spans 0 0 (Script.compare (linesOf old) (linesOf new)) (linesOf old).length
      (linesOf new).length) :
    ∃ body, render path old new =
        "--- a/".toList ++ path ++ "\n+++ b/".toList ++ path ++ ['\n'] ++ body ∧
      (patched? (lines old) body = some (lines new) ↔
        ∀ e ∈ shown (linesOf old) (linesOf new), isBroken e.line = true) := by
  refine ⟨_, rfl, ?_⟩
  constructor
  · intro hpatched e he
    by_contra hbroken
    obtain ⟨front, back, hbody⟩ := infix_of_mem_shown he (by simpa using hbroken)
    rw [← hbody, List.append_assoc, List.cons_append, List.singleton_append, patched?,
      read?_of_empty_line] at hpatched
    cases hpatched
  · exact patched?_of_shown_broken hold hnew hspans

/-- A last line without a break that is not shown does no harm. -/
theorem patched?_render_unbroken_behind :
    let old := "<?php\r\n$a = 1;\r\n$b = 2;\r\n$c = 3;\r\n$d = 4;\r\n$e = 5;".toList
    let new := "<?php\r\n$x = 0;\r\n$b = 2;\r\n$c = 3;\r\n$d = 4;\r\n$e = 5;".toList
    ReturnsFed old ∧ ReturnsFed new ∧
      Spans 0 0 (Script.compare (linesOf old) (linesOf new)) (linesOf old).length
        (linesOf new).length ∧
      ∃ body, render "A.php".toList old new = "--- a/A.php\n+++ b/A.php\n".toList ++ body ∧
        patched? (lines old) body = some (lines new) := by
  intro old new
  obtain ⟨hold, hnew, hspans, hbroken⟩ : ReturnsFed old ∧ ReturnsFed new ∧
      Spans 0 0 (Script.compare (linesOf old) (linesOf new)) (linesOf old).length
        (linesOf new).length ∧
      ∀ e ∈ shown (linesOf old) (linesOf new), isBroken e.line = true := by
    decide +kernel
  obtain ⟨body, hrender, hpatched⟩ := patched?_render_iff "A.php".toList old new hold hnew hspans
  exact ⟨hold, hnew, hspans, body, hrender, hpatched.2 hbroken⟩

/-- A last line without a break that is shown leaves an empty line behind it, which no patch file
has. -/
theorem unbroken_line_unread :
    let old := "<?php\nclass A \x7b\n    private $a;\n\x7d".toList
    let new := "<?php\nclass A \x7b\n    private $a;\n\n    public function getA() \x7b\n".toList ++
      "        return $this->a;\n    \x7d\n\x7d".toList
    Spans 0 0 (Script.compare (linesOf old) (linesOf new)) (linesOf old).length
        (linesOf new).length ∧
      ∃ body, render "A.php".toList old new = "--- a/A.php\n+++ b/A.php\n".toList ++ body ∧
        patched? (lines old) body = none :=
  ⟨by decide +kernel, _, rfl, by decide +kernel⟩

/-- A carriage return alone ends a line for the comparison, and so for the header, but not in a patch
file. -/
example : read? ((hunks (Script.compare (linesOf "/* a\rb */\n".toList) [])).flatMap
    (hunkText (linesOf "/* a\rb */\n".toList) [])) = none := by
  decide +kernel

end Accessors.Unified
