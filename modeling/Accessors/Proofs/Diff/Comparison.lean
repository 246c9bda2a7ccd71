import Accessors.Diff.Lines
import Accessors.Proofs.Text.Split
import Mathlib.Data.List.Basic
import Mathlib.Tactic.Common

/-!
# Comparisons are right

A comparison lists the lines of both texts: those it keeps and those it removes are the lines of the
old text, those it keeps and those it adds are the lines of the new one.

Walking the table back, a line is kept only where neither neighbour of the cell has its value. By
the recurrence of the table the two lines are equal there.

* `Turns`: a comparison of two lists of lines.
* `cell_lcsTable`: the recurrence of the table.
* `Lines`: the lines of a text.
* `compares_compare`: the comparison of two texts.
-/

namespace Accessors.LineDiff

/-- A comparison turns some lines into others. -/
inductive Turns : List Text → List Text → List Entry → Prop where
  | nil : Turns [] [] []
  | kept {old new : List Text} {script : List Entry} (line : Text) (h : Turns old new script) :
      Turns (line :: old) (line :: new) (.kept line :: script)
  | removed {old new : List Text} {script : List Entry} (line : Text) (h : Turns old new script) :
      Turns (line :: old) new (.removed line :: script)
  | added {old new : List Text} {script : List Entry} (line : Text) (h : Turns old new script) :
      Turns old (line :: new) (.added line :: script)

theorem Turns.append {old old' new new' : List Text} {script script' : List Entry}
    (h : Turns old new script) (h' : Turns old' new' script') :
    Turns (old ++ old') (new ++ new') (script ++ script') := by
  induction h with
  | nil => exact h'
  | kept line _ ih => exact .kept line ih
  | removed line _ ih => exact .removed line ih
  | added line _ ih => exact .added line ih

theorem Turns.map_kept (lines : List Text) : Turns lines lines (lines.map .kept) := by
  induction lines with
  | nil => exact .nil
  | cons line lines ih => exact .kept line ih

/-! ## The table -/

section

variable {x : Text} {left : Nat} {row : List Nat} {ys : List Text}

theorem exists_two_cells {y : Text} (h : row.length = (y :: ys).length + 1) :
    ∃ diagonal above rest, row = diagonal :: above :: rest :=
  match row, h with
  | diagonal :: above :: rest, _ => ⟨diagonal, above, rest, rfl⟩

theorem length_nextCells (h : row.length = ys.length + 1) :
    (nextCells x left row ys).length = ys.length := by
  induction ys generalizing left row with
  | nil => simp [nextCells]
  | cons y ys ih =>
    obtain ⟨diagonal, above, row, rfl⟩ := exists_two_cells h
    rw [nextCells, List.length_cons, ih (Nat.succ.inj h), List.length_cons]

/-- A cell of the next row, from its three neighbours. -/
theorem getD_nextCells (h : row.length = ys.length + 1) {j : Nat} (hj : j < ys.length) :
    (left :: nextCells x left row ys).getD (j + 1) 0 =
      if x = ys[j] then row.getD j 0 + 1
      else max (row.getD (j + 1) 0) ((left :: nextCells x left row ys).getD j 0) := by
  induction ys generalizing left row j with
  | nil => exact absurd hj (Nat.not_lt_zero j)
  | cons y ys ih =>
    obtain ⟨diagonal, above, row, rfl⟩ := exists_two_cells h
    cases j with
    | zero => rfl
    | succ j => exact ih (Nat.succ.inj h) (Nat.lt_of_succ_lt_succ hj)

end

section

variable {row : List Nat} {xs ys : List Text}

/-- Every row has one cell more than there are columns, and the row below it comes from it. -/
theorem getD_lcsRows (h : row.length = ys.length + 1) {i : Nat} (hi : i < xs.length) :
    ((lcsRows row ys xs).getD i []).length = ys.length + 1 ∧
      (lcsRows row ys xs).getD (i + 1) [] =
        0 :: nextCells xs[i] 0 ((lcsRows row ys xs).getD i []) ys := by
  induction xs generalizing row i with
  | nil => exact absurd hi (Nat.not_lt_zero i)
  | cons x xs ih =>
    have hnext : (0 :: nextCells x 0 row ys).length = ys.length + 1 := by
      rw [List.length_cons, length_nextCells h]
    cases i with
    | zero =>
      refine ⟨h, ?_⟩
      cases xs <;> rfl
    | succ i => exact ih hnext (Nat.lt_of_succ_lt_succ hi)

theorem cell_eq (xs ys : List Text) (i j : Nat) :
    cell (lcsTable xs ys) i j =
      ((lcsRows (List.replicate (ys.length + 1) 0) ys xs).getD i []).getD j 0 := by
  simp [cell, lcsTable]

/-- The recurrence of the table. -/
theorem cell_lcsTable {i j : Nat} (hi : i < xs.length) (hj : j < ys.length) :
    cell (lcsTable xs ys) (i + 1) (j + 1) =
      if xs[i] = ys[j] then cell (lcsTable xs ys) i j + 1
      else max (cell (lcsTable xs ys) i (j + 1)) (cell (lcsTable xs ys) (i + 1) j) := by
  obtain ⟨hlength, hnext⟩ := getD_lcsRows (List.length_replicate (n := ys.length + 1) (a := 0)) hi
  simp only [cell_eq, hnext, getD_nextCells hlength hj]

end

/-! ## Walking back -/

section

variable {old new : List Text}

theorem getElem_of_reverse_prefix {x : Text} {xs : List Text} (h : (x :: xs).reverse <+: old) :
    ∃ hlt : xs.length < old.length, old[xs.length] = x := by
  rw [List.reverse_cons] at h
  obtain ⟨rest, rfl⟩ := h
  exact ⟨by simp, by simp⟩

/-- Where neither neighbour of a cell has its value, the two lines are equal. -/
theorem eq_of_cell_ne {x y : Text} {xs ys : List Text} (hx : (x :: xs).reverse <+: old)
    (hy : (y :: ys).reverse <+: new)
    (habove : ¬cell (lcsTable old new) (xs.length + 1) (ys.length + 1) =
      cell (lcsTable old new) (xs.length + 1) ys.length)
    (hleft : ¬cell (lcsTable old new) (xs.length + 1) (ys.length + 1) =
      cell (lcsTable old new) xs.length (ys.length + 1)) : x = y := by
  obtain ⟨hi, rfl⟩ := getElem_of_reverse_prefix hx
  obtain ⟨hj, rfl⟩ := getElem_of_reverse_prefix hy
  by_contra hne
  rw [cell_lcsTable hi hj, if_neg hne] at habove hleft
  omega

theorem reverse_prefix_of_cons {x : Text} {xs : List Text} (h : (x :: xs).reverse <+: old) :
    xs.reverse <+: old := by
  rw [List.reverse_cons] at h
  exact (List.prefix_append ..).trans h

theorem turns_walkBack (fuel : Nat) {xs ys after after' : List Text} {acc : List Entry}
    (hfuel : xs.length + ys.length ≤ fuel) (hx : xs.reverse <+: old) (hy : ys.reverse <+: new)
    (hacc : Turns after after' acc) :
    Turns (xs.reverse ++ after) (ys.reverse ++ after')
      (walkBack (lcsTable old new) fuel xs ys acc) := by
  fun_induction walkBack (lcsTable old new) fuel xs ys acc generalizing after after' with
  | case1 xs ys acc =>
    obtain rfl : xs = [] := List.length_eq_zero_iff.1 (by omega)
    obtain rfl : ys = [] := List.length_eq_zero_iff.1 (by omega)
    exact hacc
  | case2 => exact hacc
  | case3 fuel y ys acc ih =>
    rw [List.length_cons] at hfuel
    rw [List.reverse_cons, List.append_assoc]
    exact ih (by omega) hx (reverse_prefix_of_cons hy) (.added y hacc)
  | case4 fuel x xs acc ih =>
    rw [List.length_cons] at hfuel
    rw [List.reverse_cons, List.append_assoc]
    exact ih (by omega) (reverse_prefix_of_cons hx) hy (.removed x hacc)
  | case5 fuel x xs y ys acc i j =>
    rename_i ih
    simp only [List.length_cons] at hfuel ih
    rw [List.reverse_cons (a := y), List.append_assoc]
    exact ih (by omega) hx (reverse_prefix_of_cons hy) (.added y hacc)
  | case6 fuel x xs y ys acc i j habove =>
    rename_i ih
    simp only [List.length_cons] at hfuel ih
    rw [List.reverse_cons (a := x), List.append_assoc]
    exact ih (by omega) (reverse_prefix_of_cons hx) hy (.removed x hacc)
  | case7 fuel x xs y ys acc i j habove =>
    rename_i hleft ih
    obtain rfl := eq_of_cell_ne hx hy habove hleft
    simp only [List.length_cons] at hfuel
    rw [List.reverse_cons, List.reverse_cons, List.append_assoc, List.append_assoc]
    exact ih (by omega) (reverse_prefix_of_cons hx) (reverse_prefix_of_cons hy) (.kept x hacc)

end

theorem turns_compareMiddle (xs ys : List Text) : Turns xs ys (compareMiddle xs ys) := by
  have hx : xs.reverse.reverse <+: xs := by simp
  have hy : ys.reverse.reverse <+: ys := by simp
  have hwalk := turns_walkBack (xs.length + ys.length) (by simp) hx hy .nil
  simpa [compareMiddle] using hwalk

/-! ## Lists of lines -/

theorem take_commonFront (xs ys : List Text) :
    xs.take (commonFront xs ys) = ys.take (commonFront xs ys) := by
  fun_induction commonFront xs ys with
  | case1 x xs ys ih => rw [List.take_succ_cons, List.take_succ_cons, ih]
  | case2 => rfl
  | case3 => rfl

/-- The same for the lines at the back. -/
theorem drop_commonBack (xs ys : List Text) :
    xs.drop (xs.length - commonFront xs.reverse ys.reverse) =
      ys.drop (ys.length - commonFront xs.reverse ys.reverse) := by
  have hfront := congrArg List.reverse (take_commonFront xs.reverse ys.reverse)
  simpa [List.take_reverse] using hfront

theorem turns_compareLines (xs ys : List Text) : Turns xs ys (compareLines xs ys) := by
  rw [compareLines]
  have hfront := take_commonFront xs ys
  generalize commonFront xs ys = n at hfront ⊢
  have hback := drop_commonBack (xs.drop n) (ys.drop n)
  generalize hxs : xs.drop n = xs' at hback ⊢
  generalize hys : ys.drop n = ys' at hback ⊢
  generalize commonFront xs'.reverse ys'.reverse = k at hback ⊢
  have hmiddle := turns_compareMiddle (xs'.take (xs'.length - k)) (ys'.take (ys'.length - k))
  have hall := ((Turns.map_kept (xs.take n)).append hmiddle).append
    (Turns.map_kept (xs'.drop (xs'.length - k)))
  convert hall using 1
  · rw [List.append_assoc, List.take_append_drop, ← hxs, List.take_append_drop]
  · rw [hback, hfront, List.append_assoc, List.take_append_drop, ← hys, List.take_append_drop]

/-! ## Texts -/

/-- The lines of a text without their breaks; a carriage return in front of a line feed belongs to
the break. -/
inductive Lines : Text → List Text → Prop where
  | nil : Lines [] []
  | last {line : Text} (hne : line ≠ []) (hfree : '\n' ∉ line) : Lines line [line]
  | feed {line rest : Text} {lines : List Text} (hfree : '\n' ∉ line)
      (hreturn : line.getLast? ≠ some '\r') (h : Lines rest lines) :
      Lines (line ++ '\n' :: rest) (line :: lines)
  | returnFeed {line rest : Text} {lines : List Text} (hfree : '\n' ∉ line)
      (h : Lines rest lines) : Lines (line ++ '\r' :: '\n' :: rest) (line :: lines)

theorem linesOf_append {line : Text} (hfree : '\n' ∉ line) (rest : Text) :
    linesOf (line ++ '\n' :: rest) = stripReturn line :: linesOf rest := by
  have hne : Text.splitOn '\n' rest ≠ [] := Text.splitOn_ne_nil '\n' rest
  rw [linesOf, Text.splitOn_append hfree, linesOf, List.dropLast_cons_of_ne_nil hne,
    List.getLast?_cons_of_ne_nil hne]
  split <;> rfl

theorem linesOf_free {line : Text} (hfree : '\n' ∉ line) :
    linesOf line = if line = [] then [] else [line] := by
  rw [linesOf, Text.splitOn_free hfree]
  cases line <;> rfl

theorem lines_append {line rest : Text} {lines : List Text} (hfree : '\n' ∉ line)
    (h : Lines rest lines) : Lines (line ++ '\n' :: rest) (stripReturn line :: lines) := by
  rw [stripReturn]
  split
  · rename_i hlast
    obtain ⟨front, rfl⟩ := List.getLast?_eq_some_iff.1 hlast
    rw [List.dropLast_concat, List.append_assoc]
    exact .returnFeed (fun hmem => hfree (List.mem_append_left _ hmem)) h
  · rename_i hlast
    exact .feed hfree hlast h

theorem lines_linesOf (t : Text) : Lines t (linesOf t) := by
  induction hlength : t.length using Nat.strongRecOn generalizing t with
  | ind n ih =>
    by_cases hfeed : '\n' ∈ t
    · obtain ⟨line, rest, rfl, hfree⟩ := List.eq_append_cons_of_mem hfeed
      rw [List.length_append, List.length_cons] at hlength
      rw [linesOf_append hfree]
      exact lines_append hfree (ih rest.length (by omega) rest rfl)
    · rw [linesOf_free hfeed]
      split
      · rename_i hnil
        rw [hnil]
        exact .nil
      · rename_i hne
        exact .last hne hfeed

/-- A comparison of two texts, line by line; a line feed at the end of a text counts as one more,
empty line. -/
def Compares (old new : Text) (script : List Entry) : Prop :=
  ∃ before after, Lines old before ∧ Lines new after ∧
    Turns (before ++ if old.getLast? = some '\n' then [[]] else [])
      (after ++ if new.getLast? = some '\n' then [[]] else []) script

theorem compares_compare (old new : Text) : Compares old new (compare old new) := by
  refine ⟨_, _, lines_linesOf old, lines_linesOf new, ?_⟩
  refine (turns_compareLines (linesOf old) (linesOf new)).append ?_
  rw [endsLine, endsLine]
  by_cases hold : old.getLast? = some '\n' <;> by_cases hnew : new.getLast? = some '\n'
  all_goals simp only [hold, hnew, decide_true, decide_false, if_true, if_false]
  · exact .kept [] .nil
  · exact .removed [] .nil
  · exact .added [] .nil
  · exact .nil

end Accessors.LineDiff
