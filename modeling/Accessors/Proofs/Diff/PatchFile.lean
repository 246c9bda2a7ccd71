import Accessors.Diff.Unified
import Accessors.Proofs.Text.Decimal
import Accessors.Proofs.Text.Split

/-!
# Patch files

How a program that applies patches understands a text. The text consists of lines that end with a
line feed. A header announces how many lines of both sides a hunk has, and exactly these follow, each
with a sign in front. A hunk is put in the place of its old lines, which have to stand where the
header says.

* `lines`, `unlines`: the lines of a text.
* `read?`: the hunks of a text.
* `replay`: hunks put in the place of their old lines.
* `read?_unlines`: printed hunks are read back.
* `read?_of_empty_line`: a text with an empty line is no patch.
-/

namespace Accessors.PatchFile

/-! ## Lines -/

/-- The lines of a text without their line feeds. A line feed at the end starts no line. -/
def lines : Text → List Text
  | [] => []
  | c :: t =>
    if c = '\n' then [] :: lines t
    else match lines t with
      | [] => [[c]]
      | line :: rest => (c :: line) :: rest

theorem lines_append_break (s t : Text) :
    lines (s ++ '\n' :: t) = lines (s ++ ['\n']) ++ lines t := by
  induction s with
  | nil => simp [lines]
  | cons c s ih =>
    have hne : lines (s ++ ['\n']) ≠ [] := by
      cases s with
      | nil => simp [lines]
      | cons d s =>
        rw [List.cons_append, lines]
        split
        · simp
        · split <;> simp
    rw [List.cons_append, lines, List.cons_append, lines, ih]
    split
    · rfl
    · obtain ⟨line, rest, hlines⟩ := List.exists_cons_of_ne_nil hne
      rw [hlines]
      rfl

theorem lines_of_free {line : Text} (h : '\n' ∉ line) : lines (line ++ ['\n']) = [line] := by
  induction line with
  | nil => rfl
  | cons c line ih =>
    rw [List.mem_cons, not_or] at h
    rw [List.cons_append, lines, if_neg (Ne.symm h.1), ih h.2]

/-- Lines with a line feed behind each of them. -/
def unlines (ls : List Text) : Text := ls.flatMap (· ++ ['\n'])

/-! ## Hunks -/

/-- The sides that a line of a hunk belongs to. -/
inductive Mark where
  | kept
  | removed
  | added
  deriving DecidableEq, Repr

namespace Mark

/-- The sign in front of a line. -/
def sign : Mark → Char
  | .kept => ' '
  | .removed => '-'
  | .added => '+'

def inOld : Mark → Bool
  | .kept | .removed => true
  | .added => false

def inNew : Mark → Bool
  | .kept | .added => true
  | .removed => false

end Mark

/-- A line of a hunk. -/
structure Entry where
  mark : Mark
  line : Text
  deriving DecidableEq, Repr

def Entry.text (e : Entry) : Text := e.mark.sign :: e.line

/-- The old lines among some lines of a hunk. -/
def oldSide (es : List Entry) : List Text := (es.filter (·.mark.inOld)).map (·.line)

/-- The new lines among some lines of a hunk. -/
def newSide (es : List Entry) : List Text := (es.filter (·.mark.inNew)).map (·.line)

/-- Lines with a mark. -/
def marked (mark : Mark) (ls : List Text) : List Entry := ls.map (⟨mark, ·⟩)

section

variable (mark : Mark) (ls : List Text) (es es' : List Entry)

@[simp] theorem oldSide_append : oldSide (es ++ es') = oldSide es ++ oldSide es' := by
  simp [oldSide]

@[simp] theorem newSide_append : newSide (es ++ es') = newSide es ++ newSide es' := by
  simp [newSide]

@[simp] theorem oldSide_marked : oldSide (marked mark ls) = if mark.inOld then ls else [] := by
  induction ls with
  | nil => simp [oldSide, marked]
  | cons line ls ih => cases mark <;> simp_all [oldSide, marked, Mark.inOld]

@[simp] theorem newSide_marked : newSide (marked mark ls) = if mark.inNew then ls else [] := by
  induction ls with
  | nil => simp [newSide, marked]
  | cons line ls ih => cases mark <;> simp_all [newSide, marked, Mark.inNew]

variable {mark ls}

theorem mem_of_mem_marked {e : Entry} (h : e ∈ marked mark ls) : e.line ∈ ls := by
  obtain ⟨line, hline, rfl⟩ := List.mem_map.1 h
  exact hline

end

/-- Neighbouring lines of one side: how many lines stand in front of them, and how many they are. -/
structure Range where
  before : Nat
  count : Nat
  deriving DecidableEq, Repr

/-- What a header announces, and the lines that follow it. -/
structure Hunk where
  old : Range
  new : Range
  entries : List Entry
  deriving DecidableEq, Repr

/-! ## Reading -/

/-- The lines from a number on. Lines count from one, and an empty range is given by the line in
front of it. -/
def rangeAt? (start count : Nat) : Option Range :=
  match start, count with
  | start, 0 => some ⟨start, 0⟩
  | 0, _ => none
  | start + 1, count => some ⟨start, count⟩

/-- Read a range of lines. A single line may be given by its number alone. -/
def range? (t : Text) : Option Range :=
  match Text.splitOn ',' t with
  | [start] => (Text.natValue? start).bind fun n => rangeAt? n 1
  | [start, count] =>
    (Text.natValue? start).bind fun n => (Text.natValue? count).bind fun k => rangeAt? n k
  | _ => none

/-- Read the header of a hunk. -/
def header? (line : Text) : Option (Range × Range) :=
  match Text.splitOn ' ' line with
  | [['@', '@'], '-' :: old, '+' :: new, ['@', '@']] =>
    (range? old).bind fun o => (range? new).map fun n => (o, n)
  | _ => none

/-- Read a line of a hunk. -/
def signed? : Text → Option Entry
  | ' ' :: line => some ⟨.kept, line⟩
  | '-' :: line => some ⟨.removed, line⟩
  | '+' :: line => some ⟨.added, line⟩
  | _ => none

/-- Read the rest of a hunk and the hunks behind it; `old` and `new` count the lines of both sides
that the hunk still lacks. -/
def readFrom : Nat → Nat → List Text → Option (List Entry × List Hunk)
  | 0, 0, [] => some ([], [])
  | 0, 0, line :: rest =>
    (header? line).bind fun (old, new) =>
      (readFrom old.count new.count rest).map fun (entries, hunks) =>
        ([], ⟨old, new, entries⟩ :: hunks)
  | _, _, [] => none
  | old, new, line :: rest =>
    (signed? line).bind fun e =>
      if e.mark.inOld.toNat ≤ old && e.mark.inNew.toNat ≤ new then
        (readFrom (old - e.mark.inOld.toNat) (new - e.mark.inNew.toNat) rest).map
          fun (entries, hunks) => (e :: entries, hunks)
      else none

/-- The hunks of a text. -/
def read? (t : Text) : Option (List Hunk) :=
  if t = [] || t.getLast? = some '\n' then (readFrom 0 0 (lines t)).map Prod.snd else none

/-! ## Replaying -/

/-- Put hunks in the place of their old lines; `i` and `j` count the lines of both sides in front of
the rest. -/
def replay (i j : Nat) : List Hunk → List Text → Option (List Text)
  | [], rest => some rest
  | h :: hunks, rest =>
    let gap := h.old.before - i
    if h.old.before = i + gap && h.new.before = j + gap && gap ≤ rest.length &&
        (oldSide h.entries).isPrefixOf (rest.drop gap) then
      (replay (h.old.before + h.old.count) (h.new.before + h.new.count) hunks
        ((rest.drop gap).drop h.old.count)).map fun t => rest.take gap ++ newSide h.entries ++ t
    else none

/-- The lines that a patch makes of some lines. -/
def patched? (ls : List Text) (t : Text) : Option (List Text) :=
  (read? t).bind fun hunks => replay 0 0 hunks ls

/-! ## Printed hunks -/

/-- The header of a hunk. -/
def Hunk.header (h : Hunk) : Text :=
  "@@ -".toList ++ Unified.rangeText h.old.before (h.old.before + h.old.count) ++ " +".toList ++
    Unified.rangeText h.new.before (h.new.before + h.new.count) ++ " @@".toList

/-- The lines of a printed hunk. -/
def Hunk.printed (h : Hunk) : List Text := h.header :: h.entries.map Entry.text

/-- A hunk has as many lines as its header announces, and they are lines. -/
structure Hunk.Proper (h : Hunk) : Prop where
  old_count : (oldSide h.entries).length = h.old.count
  new_count : (newSide h.entries).length = h.new.count
  free : ∀ e ∈ h.entries, '\n' ∉ e.line

theorem lines_unlines {ls : List Text} (h : ∀ line ∈ ls, '\n' ∉ line) : lines (unlines ls) = ls := by
  induction ls with
  | nil => rfl
  | cons line ls ih =>
    rw [List.forall_mem_cons] at h
    rw [unlines, List.flatMap_cons, List.append_assoc, List.singleton_append, lines_append_break,
      lines_of_free h.1, List.singleton_append]
    exact congrArg (line :: ·) (ih h.2)

theorem unlines_ends (ls : List Text) : unlines ls = [] ∨ (unlines ls).getLast? = some '\n' := by
  rcases ls.eq_nil_or_concat with rfl | ⟨front, line, rfl⟩
  · exact .inl rfl
  · right
    simp [unlines]

theorem not_mem_ofNat {c : Char} (hc : c.isDigit = false) (n : Nat) : c ∉ Text.ofNat n := by
  intro h
  rw [Text.isDigit_of_mem_ofNat h] at hc
  cases hc

theorem range?_rangeText (start count : Nat) :
    range? (Unified.rangeText start (start + count)) = some ⟨start, count⟩ := by
  have hfree : ∀ n, ',' ∉ Text.ofNat n := not_mem_ofNat (by decide)
  unfold Unified.rangeText
  simp only [Nat.add_sub_cancel_left]
  split
  · rename_i hone
    rw [range?, Text.splitOn_free (hfree _)]
    simp [Text.natValue?_ofNat, rangeAt?, hone]
  split
  · rename_i hzero
    have hsplit : Text.splitOn ',' (Text.ofNat start ++ ",0".toList) = [Text.ofNat start, ['0']] :=
      Text.splitOn_append (hfree start) ['0']
    have hcount : Text.natValue? ['0'] = some 0 := by decide
    rw [range?, hsplit]
    simp [Text.natValue?_ofNat, hcount, rangeAt?, hzero]
  · rename_i hone hzero
    rw [range?, List.append_assoc, List.singleton_append,
      Text.splitOn_append (hfree _), Text.splitOn_free (hfree _)]
    obtain ⟨k, rfl⟩ := Nat.exists_eq_succ_of_ne_zero hzero
    simp [Text.natValue?_ofNat, rangeAt?]

theorem not_mem_rangeText {c : Char} (hdigit : c.isDigit = false) (hcomma : c ≠ ',')
    (start stop : Nat) : c ∉ Unified.rangeText start stop := by
  have hzero : c ≠ '0' := by
    rintro rfl
    cases hdigit
  unfold Unified.rangeText
  dsimp only
  split
  · exact not_mem_ofNat hdigit _
  split
  · simp [not_mem_ofNat hdigit, hcomma, hzero]
  · simp [not_mem_ofNat hdigit, hcomma]

/-- The words of a header. -/
theorem header_eq_words (h : Hunk) :
    h.header = ['@', '@'] ++ ' ' ::
      (('-' :: Unified.rangeText h.old.before (h.old.before + h.old.count)) ++ ' ' ::
        (('+' :: Unified.rangeText h.new.before (h.new.before + h.new.count)) ++ ' ' ::
          ['@', '@'])) := by
  unfold Hunk.header
  simp

theorem header?_header (h : Hunk) : header? h.header = some (h.old, h.new) := by
  have hfree : ∀ start stop, ' ' ∉ Unified.rangeText start stop :=
    not_mem_rangeText (by decide) (by decide)
  have hold : ' ' ∉ '-' :: Unified.rangeText h.old.before (h.old.before + h.old.count) := by
    simp [hfree]
  have hnew : ' ' ∉ '+' :: Unified.rangeText h.new.before (h.new.before + h.new.count) := by
    simp [hfree]
  rw [header?, header_eq_words, Text.splitOn_append (by decide),
    Text.splitOn_append hold, Text.splitOn_append hnew, Text.splitOn_free (by decide)]
  simp [range?_rangeText]

theorem header_free (h : Hunk) : '\n' ∉ h.header := by
  have hfree : ∀ start stop, '\n' ∉ Unified.rangeText start stop :=
    not_mem_rangeText (by decide) (by decide)
  simp [header_eq_words, hfree]

/-! ## Printed hunks are read back -/

theorem readFrom_text (e : Entry) (old new : Nat) (rest : List Text) :
    readFrom (old + e.mark.inOld.toNat) (new + e.mark.inNew.toNat) (e.text :: rest) =
      (readFrom old new rest).map fun r => (e :: r.1, r.2) := by
  obtain ⟨mark, line⟩ := e
  have hsigned : signed? (Entry.text ⟨mark, line⟩) = some ⟨mark, line⟩ := by cases mark <;> rfl
  have hdue : ¬(old + mark.inOld.toNat = 0 ∧ new + mark.inNew.toNat = 0) := by
    cases mark <;> simp [Mark.inOld, Mark.inNew]
  rw [readFrom, hsigned]
  · simp
  · intro hold hnew
    exact hdue ⟨hold, hnew⟩

theorem readFrom_entries (es : List Entry) (rest : List Text) :
    readFrom (oldSide es).length (newSide es).length (es.map Entry.text ++ rest) =
      (readFrom 0 0 rest).map fun r => (es ++ r.1, r.2) := by
  induction es with
  | nil => simp [oldSide, newSide]
  | cons e es ih =>
    have hold : (oldSide (e :: es)).length = (oldSide es).length + e.mark.inOld.toNat := by
      cases hmark : e.mark.inOld <;> simp [oldSide, hmark]
    have hnew : (newSide (e :: es)).length = (newSide es).length + e.mark.inNew.toNat := by
      cases hmark : e.mark.inNew <;> simp [newSide, hmark]
    rw [hold, hnew, List.map_cons, List.cons_append, readFrom_text, ih, Option.map_map]
    rfl

theorem readFrom_printed {hunks : List Hunk} (h : ∀ hunk ∈ hunks, hunk.Proper) :
    readFrom 0 0 (hunks.flatMap Hunk.printed) = some ([], hunks) := by
  induction hunks with
  | nil => rfl
  | cons hunk hunks ih =>
    rw [List.forall_mem_cons] at h
    rw [List.flatMap_cons, Hunk.printed, List.cons_append, readFrom, header?_header]
    simp only [Option.bind_some]
    rw [← h.1.old_count, ← h.1.new_count, readFrom_entries, ih h.2]
    simp

theorem Hunk.Proper.printed_free {h : Hunk} (hproper : h.Proper) :
    ∀ line ∈ h.printed, '\n' ∉ line := by
  intro line hline
  rcases List.mem_cons.1 hline with rfl | hline
  · exact header_free h
  · obtain ⟨e, he, rfl⟩ := List.mem_map.1 hline
    rw [Entry.text, List.mem_cons, not_or]
    exact ⟨by cases e.mark <;> decide, hproper.free e he⟩

/-- Printed hunks are read back. -/
theorem read?_unlines {hunks : List Hunk} (h : ∀ hunk ∈ hunks, hunk.Proper) :
    read? (unlines (hunks.flatMap Hunk.printed)) = some hunks := by
  have hfree : ∀ line ∈ hunks.flatMap Hunk.printed, '\n' ∉ line := by
    intro line hline
    obtain ⟨hunk, hhunk, hline⟩ := List.mem_flatMap.1 hline
    exact (h hunk hhunk).printed_free line hline
  rw [read?, if_pos (by simpa using unlines_ends _), lines_unlines hfree, readFrom_printed h]
  rfl

/-! ## Empty lines -/

theorem readFrom_of_nil_mem {ls : List Text} (h : [] ∈ ls) (old new : Nat) :
    readFrom old new ls = none := by
  fun_induction readFrom old new ls with
  | case1 => cases h
  | case2 line rest ih =>
    rcases List.mem_cons.1 h with rfl | hrest
    · rfl
    · have hnone : ∀ r s : Range, readFrom r.count s.count rest = none := fun r s => ih r s hrest
      simp [hnone]
  | case3 => rfl
  | case4 old new line rest hdue ih =>
    rcases List.mem_cons.1 h with rfl | hrest
    · rfl
    · have hnone : ∀ e : Entry,
          readFrom (old - e.mark.inOld.toNat) (new - e.mark.inNew.toNat) rest = none :=
        fun e => ih e hrest
      simp [hnone]

theorem nil_mem_lines (front back : Text) : [] ∈ lines (front ++ '\n' :: '\n' :: back) := by
  rw [lines_append_break, lines, if_pos rfl]
  exact List.mem_append_right _ List.mem_cons_self

theorem read?_of_empty_line (front back : Text) : read? (front ++ '\n' :: '\n' :: back) = none := by
  rw [read?, readFrom_of_nil_mem (nil_mem_lines front back)]
  simp

/-! ## Replaying a hunk -/

theorem replay_cons {i j : Nat} {h : Hunk} {hunks : List Hunk} {front back : List Text}
    (hold : h.old.before = i + front.length) (hnew : h.new.before = j + front.length)
    (hcount : (oldSide h.entries).length = h.old.count) :
    replay i j (h :: hunks) (front ++ (oldSide h.entries ++ back)) =
      (replay (h.old.before + h.old.count) (h.new.before + h.new.count) hunks back).map
        fun t => front ++ newSide h.entries ++ t := by
  have hgap : h.old.before - i = front.length := by omega
  rw [replay]
  simp only [hgap, List.drop_left, List.take_left, ← hcount]
  rw [if_pos]
  simp [hold, hnew]

end Accessors.PatchFile
