import Accessors.Proofs.Diff.Rendering

/-!
# What a difference shows

Behind its two header lines a difference shows, hunk by hunk, lines of both texts with their signs.
The lines in front of a hunk and behind the last one, which it does not show, are the same in both
texts.

* `Lines`: the lines of a text with their breaks.
* `Shows`: the body of a difference.
* `shows_render`: the difference of two texts.
-/

namespace Accessors.Unified

open PatchFile Script

/-! ## Lines -/

/-- The lines of a text, each with its break: a line feed, a carriage return, or both. -/
inductive Lines : Text → List Text → Prop where
  | nil : Lines [] []
  | last {line : Text} (hne : line ≠ []) (hfeed : '\n' ∉ line) (hreturn : '\r' ∉ line) :
      Lines line [line]
  | broken (line ending : Text) {rest : Text} {lines : List Text} (hfeed : '\n' ∉ line)
      (hreturn : '\r' ∉ line) (hending : ending = ['\n'] ∨ ending = ['\r', '\n'] ∨
        (ending = ['\r'] ∧ rest.head? ≠ some '\n')) (h : Lines rest lines) :
      Lines (line ++ ending ++ rest) ((line ++ ending) :: lines)

theorem lines_linesOf (t : Text) : Lines t (linesOf t) := by
  have hnil : ∀ c : Char, c ∉ ([] : Text) := fun _ => List.not_mem_nil
  fun_induction linesOf t with
  | case1 => exact .nil
  | case2 t ih => exact .broken [] ['\r', '\n'] (hnil _) (hnil _) (.inr (.inl rfl)) ih
  | case3 c t hnot hbreak ih =>
    rcases (by simpa using hbreak : c = '\n' ∨ c = '\r') with rfl | rfl
    · exact .broken [] ['\n'] (hnil _) (hnil _) (.inl rfl) ih
    · refine .broken [] ['\r'] (hnil _) (hnil _) (.inr (.inr ⟨rfl, fun hhead => ?_⟩)) ih
      obtain ⟨u, rfl⟩ := List.head?_eq_some_iff.1 hhead
      exact hnot u rfl rfl
  | case4 c t hnot hc hnone ih =>
    rw [hnone] at ih
    cases ih
    rw [Bool.or_eq_true, decide_eq_true_eq, decide_eq_true_eq, not_or] at hc
    exact .last (by simp) (by simp [Ne.symm hc.1]) (by simp [Ne.symm hc.2])
  | case5 c t hnot hc line rest hsome ih =>
    rw [Bool.or_eq_true, decide_eq_true_eq, decide_eq_true_eq, not_or] at hc
    have hcons : ∀ {d : Char} {u : Text}, c ≠ d → d ∉ u → d ∉ c :: u := by
      intro d u hd hu
      rw [List.mem_cons, not_or]
      exact ⟨Ne.symm hd, hu⟩
    rw [hsome] at ih
    -- the character joins the first line, whether that is broken or not
    cases ih with
    | last hne hfeed hreturn =>
      exact .last (List.cons_ne_nil c _) (hcons hc.1 hfeed) (hcons hc.2 hreturn)
    | broken body ending hfeed hreturn hending h =>
      exact .broken (c :: body) ending (hcons hc.1 hfeed) (hcons hc.2 hreturn) hending h

theorem Lines.eq_nil {lines : List Text} (h : Lines [] lines) : lines = [] := by
  generalize hnil : ([] : Text) = t at h
  cases h with
  | nil => rfl
  | last hne _ _ => exact absurd hnil.symm hne
  | broken line ending _ _ hending _ =>
    rcases hending with rfl | rfl | ⟨rfl, -⟩ <;> simp at hnil

/-- In a text with a line feed at its end no line lacks its break. -/
theorem Lines.isBroken {t : Text} {lines : List Text} (h : Lines t lines)
    (ht : t.getLast? = some '\n') : ∀ line ∈ lines, Unified.isBroken line = true := by
  induction h with
  | nil => cases ht
  | last _ hfeed _ => exact absurd (List.mem_of_getLast? ht) hfeed
  | @broken line ending rest lines _ _ hending hrest ih =>
    have hline : Unified.isBroken (line ++ ending) = true := by
      rcases hending with rfl | rfl | ⟨rfl, -⟩ <;> simp [Unified.isBroken]
    rw [List.forall_mem_cons]
    refine ⟨hline, ?_⟩
    cases rest with
    | nil =>
      rw [hrest.eq_nil]
      exact List.forall_mem_nil _
    | cons c rest => exact ih (by rwa [List.getLast?_append_cons] at ht)

/-! ## The body -/

/-- What a difference of two lists of lines shows: equal lines are left out, and a hunk shows lines
of both sides. A line without a break is followed by two line feeds. -/
inductive Shows : List Text → List Text → Text → Prop where
  | alike (lines : List Text) : Shows lines lines []
  | hunk (gap : List Text) (es : List Entry) {oldRange newRange : Text} {old new : List Text}
      {rest : Text} (hold : ∀ c ∈ oldRange, c.isDigit = true ∨ c = ',')
      (hnew : ∀ c ∈ newRange, c.isDigit = true ∨ c = ',') (h : Shows old new rest) :
      Shows (gap ++ oldSide es ++ old) (gap ++ newSide es ++ new)
        ("@@ -".toList ++ oldRange ++ " +".toList ++ newRange ++ " @@\n".toList ++
          (es.flatMap fun e => e.mark.sign :: e.line ++
            if e.line.getLast? = some '\n' ∨ e.line.getLast? = some '\r' then []
            else ['\n', '\n']) ++ rest)

theorem isDigit_or_comma_of_mem_rangeText {start stop : Nat} {c : Char}
    (h : c ∈ rangeText start stop) : c.isDigit = true ∨ c = ',' := by
  by_contra hnot
  rw [not_or] at hnot
  exact not_mem_rangeText (by simpa using hnot.1) hnot.2 start stop h

theorem hunkLine_eq_append (sign : Char) (line : Text) :
    hunkLine sign line = sign :: line ++
      if line.getLast? = some '\n' ∨ line.getLast? = some '\r' then [] else ['\n', '\n'] := by
  rw [hunkLine, isBroken]
  cases line.getLast? with
  | none => rfl
  | some c => by_cases hc : c = '\n' <;> by_cases hc' : c = '\r' <;> simp [hc, hc']

/-- A hunk is its header and the lines that its operations show. -/
theorem exists_hunkText_eq (old new : List Text) {ops : List Op} (hne : ops ≠ []) :
    ∃ start stop start' stop', hunkText old new ops =
      "@@ -".toList ++ rangeText start stop ++ " +".toList ++ rangeText start' stop' ++
        " @@\n".toList ++ ((ops.flatMap (entries old new)).flatMap fun e =>
          e.mark.sign :: e.line ++
            if e.line.getLast? = some '\n' ∨ e.line.getLast? = some '\r' then []
            else ['\n', '\n']) := by
  have hlines : ops.flatMap (opText old new) = (ops.flatMap (entries old new)).flatMap fun e =>
      hunkLine e.mark.sign e.line := by
    rw [List.flatMap_assoc]
    exact List.flatMap_congr fun op _ => opText_eq old new op
  simp only [hunkLine_eq_append] at hlines
  refine ⟨(ops.head hne).oldStart, (ops.getLast hne).oldStop, (ops.head hne).newStart,
    (ops.getLast hne).newStop, ?_⟩
  simp only [hunkText, List.head?_eq_some_head hne, List.getLast?_eq_some_getLast hne]
  exact congrArg _ hlines

section

variable {recorded : Prop} {old new : List Text} {i j : Nat} {groups : List (List Op)}

theorem Covers.shows (h : Covers recorded ⟨old.toArray, new.toArray⟩ i j groups) :
    Shows (old.drop i) (new.drop j) (groups.flatMap (hunkText old new)) := by
  induction groups generalizing i j with
  | nil =>
    obtain ⟨gap, hagree, hold, hnew⟩ := h
    simp only [List.size_toArray] at hold hnew
    have heq := take_drop_eq_of_agreeOn hagree (by omega) (by omega)
    rw [List.take_of_length_le (by rw [List.length_drop]; omega),
      List.take_of_length_le (by rw [List.length_drop]; omega)] at heq
    rw [heq]
    exact .alike _
  | cons ops groups ih =>
    obtain ⟨hne, gap, m, n, hagree, hops, hrest⟩ := h
    obtain ⟨hm, hn⟩ := hrest.le
    obtain ⟨hi, hj⟩ := hops.leads.le
    simp only [List.size_toArray] at hm hn
    have hgap := take_drop_eq_of_agreeOn hagree (by omega) (by omega)
    obtain ⟨hold, hnew⟩ := sides_flatMap_entries hops.leads hm hn
    obtain ⟨start, stop, start', stop', htext⟩ := exists_hunkText_eq old new hne
    have hrange : ∀ {start stop : Nat}, ∀ c ∈ rangeText start stop, c.isDigit = true ∨ c = ',' :=
      fun c => isDigit_or_comma_of_mem_rangeText
    rw [List.flatMap_cons, htext, drop_eq_append old hi, drop_eq_append new hj, ← hold, ← hnew,
      ← hgap, ← List.append_assoc, ← List.append_assoc]
    exact .hunk _ _ hrange hrange (ih hrest)

end

/-- The difference of two texts shows lines of both, and it is a patch file for texts that end with
line feeds, as far as its headers record where its hunks stand. -/
theorem shows_render (path old new : Text) :
    ∃ body, render path old new =
        "--- a/".toList ++ path ++ "\n+++ b/".toList ++ path ++ ['\n'] ++ body ∧
      (∃ before after, Lines old before ∧ Lines new after ∧ Shows before after body) ∧
      (ReturnsFed old → ReturnsFed new → old.getLast? = some '\n' → new.getLast? = some '\n' →
        Spans 0 0 (Script.compare (linesOf old) (linesOf new)) (linesOf old).length
          (linesOf new).length → patched? (lines old) body = some (lines new)) := by
  have hcovers := covers_hunks (s := ⟨(linesOf old).toArray, (linesOf new).toArray⟩)
    ⟨leads_compare _ _, False.elim⟩
  refine ⟨_, rfl, ⟨linesOf old, linesOf new, lines_linesOf old, lines_linesOf new,
    hcovers.shows⟩, fun hold hnew hendOld hendNew hspans => ?_⟩
  refine patched?_of_shown_broken hold hnew hspans fun e he => ?_
  obtain ⟨ops, -, he⟩ := List.mem_flatMap.1 he
  obtain ⟨op, -, he⟩ := List.mem_flatMap.1 he
  exact (mem_of_mem_entries he).elim ((lines_linesOf old).isBroken hendOld _)
    ((lines_linesOf new).isBroken hendNew _)

end Accessors.Unified
