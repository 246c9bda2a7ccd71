import Accessors.Proofs.Report.Styles
import Accessors.Proofs.Selection.Numbers
import Accessors.Proofs.Text.Decimal
import Accessors.Proofs.Text.Split
import Accessors.Proofs.Text.Trim

/-!
# The course of a prompt

The question is put once for every line that is read, and once more at the end of the input. The
first line that is not refused answers it, and nothing behind this line is ever read.

* `Lines`: the lines of an input.
* `meaning`, `refused`, `decided`: what a line means, and the answer of the first line that is not
  refused.
* `ask_eq`: the answer, and everything that is written while the question is put.
* `ask_append`: what stands behind the line that answers is not read.
* `FirstMentions`, `Typed`: the numbers in a line, each once and in the order of first mention.
* `itemLine_eq`, `refusal_eq`, `run_eq`: the texts of a prompt, and where each of them is written.
* `run_decided`: the course of a prompt as a whole.
-/

namespace Accessors.Prompt

open Selection (Item Request Response)
open Text

/-! ## Lines of an input -/

/-- The lines of an input: each ends with its line feed, the last one perhaps without. -/
inductive Lines : List UInt8 → List (List UInt8) → Prop where
  | nil : Lines [] []
  | last {line : List UInt8} (hne : line ≠ []) (hfree : 10 ∉ line) : Lines line [line]
  | cons {body rest : List UInt8} {lines : List (List UInt8)} (hfree : 10 ∉ body)
      (hrest : Lines rest lines) : Lines (body ++ 10 :: rest) ((body ++ [10]) :: lines)

theorem lines_inputLines (input : List UInt8) : Lines input (inputLines input) := by
  induction input with
  | nil => exact .nil
  | cons b bytes ih =>
    rw [inputLines]
    by_cases hb : b = 10
    · rw [if_pos hb, hb]
      exact .cons List.not_mem_nil ih
    · rw [if_neg hb]
      cases hlines : inputLines bytes with
      | nil =>
        rw [hlines] at ih
        cases ih
        exact .last (List.cons_ne_nil b []) (by simp [Ne.symm hb])
      | cons line lines =>
        rw [hlines] at ih
        -- the byte joins the first line, whether that is ended or not
        cases ih with
        | last _ hfree => exact .last (List.cons_ne_nil b _) (by simp [Ne.symm hb, hfree])
        | @cons body rest _ hfree hrest =>
          have hfree' : 10 ∉ b :: body := by simp [Ne.symm hb, hfree]
          exact .cons hfree' hrest

/-- The lines in front of a line feed and those behind it. -/
theorem inputLines_append (front rest : List UInt8) :
    inputLines (front ++ 10 :: rest) = inputLines (front ++ [10]) ++ inputLines rest := by
  induction front with
  | nil => rfl
  | cons b front ih =>
    rw [List.cons_append, List.cons_append, inputLines, inputLines]
    by_cases hb : b = 10
    · rw [if_pos hb, if_pos hb, ih]
      rfl
    · rw [if_neg hb, if_neg hb, ih]
      cases h : inputLines (front ++ [10]) with
      | nil =>
        have hlines := lines_inputLines (front ++ [10])
        rw [h] at hlines
        generalize hinput : front ++ [10] = input at hlines
        cases hlines
        simp at hinput
      | cons line lines => rfl

/-! ## The line that answers -/

/-- What a line means; one that is not UTF-8 dismisses the request. -/
def meaning (count : Nat) (line : List UInt8) : Answer :=
  match ofUtf8? line with
  | none => .dismiss
  | some t => parseAnswer t count

def refused (count : Nat) (line : List UInt8) : Bool := meaning count line = .invalid

/-- What the first line means that is not refused. The end of the input dismisses the request. -/
def decided (count : Nat) (lines : List (List UInt8)) : Answer :=
  match lines.find? (!refused count ·) with
  | some line => meaning count line
  | none => .dismiss

theorem answerOf?_eq (count : Nat) (line : List UInt8) :
    answerOf? count line = if refused count line then none else some (meaning count line) := by
  rw [answerOf?, refused, meaning]
  cases ofUtf8? line with
  | none => rfl
  | some t =>
    by_cases hinvalid : parseAnswer t count = .invalid
    · simp [hinvalid]
    · simp [hinvalid]

/-- The answer, and everything written while the question is put. -/
theorem ask_eq (colors : Bool) (count : Nat) (lines : List (List UInt8)) :
    ask colors count lines = (decided count lines,
      ((lines.takeWhile (refused count)).flatMap fun _ => question ++ refusal colors) ++
        question) := by
  induction lines with
  | nil => rfl
  | cons line lines ih =>
    rw [ask, answerOf?_eq]
    cases hline : refused count line with
    | true =>
      have hdecided : decided count (line :: lines) = decided count lines := by
        rw [decided, decided, List.find?_cons_of_neg (by simp [hline])]
      rw [if_pos rfl, ih, hdecided, List.takeWhile_cons_of_pos hline, List.flatMap_cons,
        List.append_assoc, List.append_assoc]
      simp only [List.append_assoc]
    | false =>
      have hdecided : decided count (line :: lines) = meaning count line := by
        rw [decided, List.find?_cons_of_pos (by simp [hline])]
      rw [if_neg Bool.false_ne_true, hdecided, List.takeWhile_cons_of_neg (by simp [hline])]
      rfl

/-- Lines behind the one that answers are not read. -/
theorem ask_append {colors : Bool} {count : Nat} {lines : List (List UInt8)}
    (h : ∃ line ∈ lines, refused count line = false) (more : List (List UInt8)) :
    ask colors count (lines ++ more) = ask colors count lines := by
  induction lines with
  | nil => simp at h
  | cons line lines ih =>
    rw [List.cons_append, ask, ask, answerOf?_eq]
    cases hline : refused count line with
    | true =>
      obtain ⟨other, hother, hanswers⟩ := h
      rw [List.mem_cons] at hother
      have hrest : ∃ line ∈ lines, refused count line = false := by
        refine ⟨other, hother.resolve_left ?_, hanswers⟩
        rintro rfl
        rw [hline] at hanswers
        cases hanswers
      rw [if_pos rfl, ih hrest]
    | false => rfl

theorem run_append {colors : Bool} {front : List UInt8} {r : Request}
    (h : ∃ line ∈ inputLines (front ++ [10]), refused r.items.length line = false)
    (rest : List UInt8) : run colors (front ++ 10 :: rest) r = run colors (front ++ [10]) r := by
  rw [run, run, inputLines_append, ask_append h]

/-! ## The lines of the items -/

/-- A number takes two places and ends with a point, and a cross marks what is picked. -/
theorem itemLine_eq (colors : Bool) (index : Nat) (item : Item) :
    itemLine colors index item =
      let number := (Nat.toDigits 10 (index + 1)).leftpad 2 ' ' ++ ['.']
      "  ".toList ++
        (if colors then "\x1b[".toList ++ "2".toList ++ ['m'] ++ number ++ "\x1b[0m".toList
          else number) ++
        (if item.picked then " [x] " else " [ ] ").toList ++ item.label ++ ['\n'] := by
  have hdigits : '\x1b' ∉ ofNat (index + 1) := fun h => absurd (isDigit_of_mem_ofNat h) (by decide)
  have hfree : '\x1b' ∉ padLeft 2 (ofNat (index + 1)) ++ ['.'] := by simp [padLeft, spaces, hdigits]
  have hmark : [' '] ++ (if item.picked then "[x]".toList else "[ ]".toList) ++ [' '] =
      (if item.picked then " [x] " else " [ ] ").toList := by
    cases item.picked <;> rfl
  delta itemLine
  simp only [Style.paint_of_free hfree, ← hmark, List.append_assoc]
  rfl

theorem refusal_eq (colors : Bool) :
    refusal colors =
      (if colors then "\x1b[".toList ++ "33".toList ++ ['m'] ++ "Invalid selection".toList ++
          "\x1b[0m".toList
        else "Invalid selection".toList) ++ ['\n'] := by
  rw [refusal, Style.paint_of_free (by decide)]
  rfl

theorem itemLines_eq (colors : Bool) (n : Nat) (items : List Item) :
    itemLines colors n items =
      (items.zipIdx n).flatMap fun (item, index) => itemLine colors index item := by
  induction items generalizing n with
  | nil => rfl
  | cons item items ih => rw [itemLines, ih, List.zipIdx_cons, List.flatMap_cons]

/-- The answer, and everything written on the terminal. -/
theorem run_eq (colors : Bool) (input : List UInt8) (r : Request) :
    run colors input r = ((decided r.items.length (inputLines input)).toResponse r,
      Style.bold.paint colors r.title ++ ['\n'] ++
        (r.items.zipIdx.flatMap fun (item, index) => itemLine colors index item) ++
        (((inputLines input).takeWhile (refused r.items.length)).flatMap fun _ =>
          question ++ refusal colors) ++ question) := by
  rw [run, ask_eq, heading, itemLines_eq]
  simp only [List.append_assoc]

/-! ## Numbers in a line -/

/-- The parts of a line between commas, without blanks around them; empty ones do not count. -/
def parts (line : Text) : List Text :=
  ((splitOn ',' (trim line)).map trim).filter (!·.isEmpty)

/-- Every part is the number of an item, and these are the places of the items. -/
structure Typed (count : Nat) (parts : List Text) (typed : List Nat) : Prop where
  read : parts.map word64? = typed.map fun n => some (n + 1)
  lt : ∀ n ∈ typed, n < count

/-- The entries of a list, each once, in the order in which they are first met. -/
structure FirstMentions (typed indices : List Nat) : Prop where
  mem_iff : ∀ n, n ∈ indices ↔ n ∈ typed
  order : indices.Pairwise fun i j => typed.idxOf i < typed.idxOf j

namespace FirstMentions

variable {typed indices : List Nat}

theorem eq_nil_iff (h : FirstMentions typed indices) : indices = [] ↔ typed = [] := by
  simp only [List.eq_nil_iff_forall_not_mem, h.mem_iff]

theorem mention (h : FirstMentions typed indices) (n : Nat) :
    FirstMentions (typed ++ [n]) (if indices.contains n then indices else indices ++ [n]) := by
  have hkept : ∀ i ∈ indices, (typed ++ [n]).idxOf i = typed.idxOf i := by
    intro i hi
    exact List.idxOf_append_of_mem ((h.mem_iff i).1 hi)
  have horder : indices.Pairwise fun i j => (typed ++ [n]).idxOf i < (typed ++ [n]).idxOf j := by
    refine h.order.imp_of_mem ?_
    intro i j hi hj hlt
    rwa [hkept i hi, hkept j hj]
  by_cases hn : n ∈ indices
  · rw [if_pos (List.contains_iff_mem.2 hn)]
    refine ⟨fun m => ?_, horder⟩
    rw [List.mem_append, List.mem_singleton, ← h.mem_iff]
    constructor
    · exact Or.inl
    · rintro (hm | rfl)
      · exact hm
      · exact hn
  · rw [if_neg (by rwa [List.contains_iff_mem])]
    refine ⟨fun m => ?_, ?_⟩
    · rw [List.mem_append, List.mem_append, h.mem_iff]
    · -- a new number is first met behind all others
      refine List.pairwise_append.2 ⟨horder, List.pairwise_singleton .., ?_⟩
      intro i hi j hj
      rw [List.mem_singleton.1 hj, hkept i hi,
        List.idxOf_append_of_notMem (fun hmem => hn ((h.mem_iff n).2 hmem))]
      exact Nat.lt_add_right _ (List.idxOf_lt_length_of_mem ((h.mem_iff i).1 hi))

end FirstMentions

theorem exists_typed {count : Nat} {chosen indices earlier : List Nat} {parts : List Text}
    (h : places? count chosen parts = some indices) (hchosen : FirstMentions earlier chosen) :
    ∃ typed, Typed count parts typed ∧ FirstMentions (earlier ++ typed) indices := by
  induction parts generalizing chosen earlier with
  | nil =>
    cases h
    exact ⟨[], ⟨rfl, by simp⟩, by rwa [List.append_nil]⟩
  | cons part parts ih =>
    rw [places?] at h
    split at h
    · rename_i n hpart
      split at h
      · rename_i hlt
        obtain ⟨typed, ⟨hread, hall⟩, hfirst⟩ := ih h (hchosen.mention n)
        refine ⟨n :: typed, ⟨?_, ?_⟩, ?_⟩
        · rw [List.map_cons, List.map_cons, hpart, hread]
        · exact List.forall_mem_cons.2 ⟨hlt, hall⟩
        · rwa [List.append_assoc, List.singleton_append] at hfirst
      · cases h
    · cases h

theorem places?_of_parseAnswer {line : Text} {count : Nat} {indices : List Nat}
    (h : parseAnswer line count = .accept indices) :
    places? count [] (parts line) = some indices := by
  simp only [parseAnswer] at h
  split at h
  · cases h
  · split at h
    · cases h
    · split at h
      next places hplaces =>
        cases h
        exact hplaces
      · cases h

/-- No number stands in a line exactly when it is made of commas and blanks. -/
theorem parts_eq_nil_iff {line : Text} :
    parts line = [] ↔ ∀ c ∈ line, c = ',' ∨ isBlankChar c = true := by
  have hpieces : parts line = [] ↔
      ∀ piece ∈ splitOn ',' (trim line), ∀ c ∈ piece, isBlankChar c = true := by
    simp only [parts, List.filter_eq_nil_iff, List.forall_mem_map, Bool.not_eq_true',
      Bool.not_eq_false, List.isEmpty_iff, trim_eq_nil_iff]
  obtain ⟨front, back, hline, hfront, hback⟩ := exists_trim line
  rw [hpieces]
  constructor
  · intro h c hc
    rw [hline, List.mem_append, List.mem_append] at hc
    rcases hc with (hc | hc) | hc
    · exact Or.inr (List.all_eq_true.1 hfront c hc)
    · by_cases hcomma : c = ','
      · exact Or.inl hcomma
      · obtain ⟨piece, hpiece, hmem⟩ := (mem_iff_splitOn hcomma).1 hc
        exact Or.inr (h piece hpiece c hmem)
    · exact Or.inr (List.all_eq_true.1 hback c hc)
  · intro h piece hpiece c hc
    have hcomma : c ≠ ',' := by
      rintro rfl
      exact not_mem_of_mem_splitOn hpiece hc
    have hmem : c ∈ trim line := (mem_iff_splitOn hcomma).2 ⟨piece, hpiece, hc⟩
    refine (h c ?_).resolve_left hcomma
    rw [hline, List.mem_append, List.mem_append]
    exact Or.inl (Or.inr hmem)

/-! ## The prompt -/

/-- The course of a prompt. The input is read line by line up to the first line that is not refused,
whose meaning is the answer; one that is not UTF-8 dismisses the request, and so does the end of the
input. Bytes behind the line that answers change nothing. The title and the items are written first,
one line for each item with its number, its mark and its label, then the question for every line
read and at the end of the input, and behind each refused line one line that says so. Places that a
line accepts are those of the numbers in it, each once, in the order of their first mention and
within the number of items; there are none only for a line made of commas and blanks. -/
theorem run_decided (colors : Bool) (input : List UInt8) (r : Request) :
    let count := r.items.length
    let lines := inputLines input
    let styled : Text → Text → Text := fun number t =>
      if colors then "\x1b[".toList ++ number ++ ['m'] ++ t ++ "\x1b[0m".toList else t
    let put := "Enter to accept, numbers (e.g. 1,3) to choose, q to cancel: ".toList
    Lines input lines ∧
    (∃ title, Style.Painted colors "1".toList r.title title ∧
      run colors input r = ((decided count lines).toResponse r, title ++ ['\n'] ++
        (r.items.zipIdx.flatMap fun (item, index) => "  ".toList ++
          styled "2".toList ((Nat.toDigits 10 (index + 1)).leftpad 2 ' ' ++ ['.']) ++
          (if item.picked then " [x] " else " [ ] ").toList ++ item.label ++ ['\n']) ++
        ((lines.takeWhile (refused count)).flatMap fun _ =>
          put ++ styled "33".toList "Invalid selection".toList ++ ['\n']) ++ put)) ∧
    (∀ front rest, input = front ++ 10 :: rest →
      (∃ line ∈ inputLines (front ++ [10]), refused count line = false) →
      ∀ rest', run colors (front ++ 10 :: rest') r = run colors input r) ∧
    ∀ line indices, parseAnswer line count = .accept indices →
      indices.Nodup ∧ (∀ i ∈ indices, i < count) ∧
      (∃ typed, Typed count (parts line) typed ∧ FirstMentions typed indices) ∧
      (indices = [] ↔ ∀ c ∈ line, c = ',' ∨ isBlankChar c = true) := by
  intro count lines styled put
  refine ⟨lines_inputLines input, ?_, ?_, ?_⟩
  · refine ⟨_, Style.painted_paint colors .bold r.title, ?_⟩
    have hitem : ∀ x : Item × Nat, itemLine colors x.2 x.1 = "  ".toList ++
        styled "2".toList ((Nat.toDigits 10 (x.2 + 1)).leftpad 2 ' ' ++ ['.']) ++
        (if x.1.picked then " [x] " else " [ ] ").toList ++ x.1.label ++ ['\n'] :=
      fun x => itemLine_eq colors x.2 x.1
    have hrefusal : question ++ refusal colors =
        put ++ styled "33".toList "Invalid selection".toList ++ ['\n'] :=
      (congrArg (question ++ ·) (refusal_eq colors)).trans (List.append_assoc ..).symm
    rw [run_eq, hrefusal]
    simp only [hitem]
    rfl
  · rintro front rest rfl hanswers rest'
    rw [run_append hanswers rest', run_append hanswers rest]
  · intro line indices haccept
    have hnil : FirstMentions [] [] := ⟨by simp, List.Pairwise.nil⟩
    obtain ⟨typed, htyped, hfirst⟩ := exists_typed (places?_of_parseAnswer haccept) hnil
    rw [List.nil_append] at hfirst
    have hplaces := Places.of_parseAnswer haccept
    refine ⟨hplaces.nodup, hplaces.lt, ⟨typed, htyped, hfirst⟩, ?_⟩
    · have hlength := congrArg List.length htyped.read
      rw [List.length_map, List.length_map] at hlength
      rw [hfirst.eq_nil_iff, ← parts_eq_nil_iff, ← List.length_eq_zero_iff,
        ← List.length_eq_zero_iff, hlength]

/-- A refused line, a line with a number in it twice, and behind it a byte that is not UTF-8. -/
theorem run_decided_second_line :
    let r : Request := ⟨"Select".toList, [⟨"A".toList, true⟩, ⟨"B".toList, false⟩]⟩
    let front := toUtf8 "7\n2, +1,2".toList
    run false (front ++ 10 :: [255]) r = run false (front ++ [10]) r ∧
      run false (front ++ [10]) r = (.accepted ["B".toList, "A".toList],
        "Select\n   1. [x] A\n   2. [ ] B\n".toList ++
        "Enter to accept, numbers (e.g. 1,3) to choose, q to cancel: Invalid selection\n".toList ++
        "Enter to accept, numbers (e.g. 1,3) to choose, q to cancel: ".toList) ∧
      ∃ typed, Typed 2 (parts "2, +1,2\n".toList) typed ∧ FirstMentions typed [1, 0] := by
  intro r front
  obtain ⟨-, ⟨title, htitle, hrun⟩, hbehind, haccepted⟩ := run_decided false (front ++ [10]) r
  obtain rfl : title = r.title := htitle
  have hanswers : ∃ line ∈ inputLines (front ++ [10]), refused r.items.length line = false :=
    ⟨toUtf8 "2, +1,2\n".toList, by decide +kernel, by decide +kernel⟩
  obtain ⟨-, -, htyped, -⟩ := haccepted "2, +1,2\n".toList [1, 0] (by decide +kernel)
  exact ⟨hbehind front [] rfl hanswers [255], hrun.trans (by decide +kernel), htyped⟩

end Accessors.Prompt
