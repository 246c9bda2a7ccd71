/-!
# Text

Documents, names and generated code are lists of characters. Offsets into a text count the
bytes of its UTF-8 form, so this file measures texts in bytes and cuts them at byte offsets.

* `Text.byteLength`: the length of the UTF-8 form.
* `Text.takeBytes`, `Text.dropBytes`: cut a text at a byte offset; an offset inside a character
  cuts before it.
* `Text.IsBoundary`: whether an offset lies between two characters.
* `Text.unitLength`: the length of the UTF-16 form.
-/

namespace Accessors

/-- A text is the list of its characters. -/
abbrev Text := List Char

namespace Text

/-! ## Lengths -/

/-- Number of bytes of the UTF-8 form. -/
def byteLength : Text → Nat
  | [] => 0
  | c :: t => c.utf8Size + byteLength t

/-- Number of code units of the UTF-16 form: a character outside the basic plane takes two. -/
def unitLength : Text → Nat
  | [] => 0
  | c :: t => (if c.val < 0x10000 then 1 else 2) + unitLength t

@[simp] theorem byteLength_nil : byteLength [] = 0 := rfl

@[simp] theorem byteLength_cons (c : Char) (t : Text) :
    byteLength (c :: t) = c.utf8Size + byteLength t := rfl

@[simp] theorem byteLength_append (s t : Text) :
    byteLength (s ++ t) = byteLength s + byteLength t := by
  induction s with
  | nil => simp
  | cons c s ih => simp [ih]; omega

@[simp] theorem unitLength_nil : unitLength [] = 0 := rfl

@[simp] theorem unitLength_append (s t : Text) :
    unitLength (s ++ t) = unitLength s + unitLength t := by
  induction s with
  | nil => simp
  | cons c s ih => simp [unitLength, ih]; omega

/-! ## Cutting at byte offsets -/

/-- The text in front of a byte offset. An offset inside a character cuts in front of that
character. -/
def takeBytes : Text → Nat → Text
  | [], _ => []
  | c :: t, n => if c.utf8Size ≤ n then c :: takeBytes t (n - c.utf8Size) else []

/-- The text from a byte offset on. An offset past the end leaves nothing. -/
def dropBytes : Text → Nat → Text
  | [], _ => []
  | c :: t, n => if c.utf8Size ≤ n then dropBytes t (n - c.utf8Size) else c :: t

/-- The text between two byte offsets. -/
def sliceBytes (t : Text) (start stop : Nat) : Text := takeBytes (dropBytes t start) (stop - start)

@[simp] theorem takeBytes_append_dropBytes (t : Text) (n : Nat) :
    takeBytes t n ++ dropBytes t n = t := by
  induction t generalizing n with
  | nil => rfl
  | cons c t ih =>
    rw [takeBytes, dropBytes]
    split
    · simpa using ih _
    · rfl

/-- An offset is a boundary when the text in front of it has exactly that many bytes. -/
def IsBoundary (t : Text) (n : Nat) : Prop := byteLength (takeBytes t n) = n

instance (t : Text) (n : Nat) : Decidable (IsBoundary t n) :=
  inferInstanceAs (Decidable (_ = _))

/-! ## Building texts -/

/-- `n` copies of a text, one after the other. -/
def times (n : Nat) (t : Text) : Text := (List.replicate n t).flatten

/-- A text of `n` spaces. -/
def spaces (n : Nat) : Text := List.replicate n ' '

/-- The texts with a separator between neighbours. -/
def join (separator : Text) : List Text → Text
  | [] => []
  | [t] => t
  | t :: ts => t ++ separator ++ join separator ts

/-- The pieces of a text between the occurrences of a character. -/
def splitOn (separator : Char) : Text → List Text
  | [] => [[]]
  | c :: t =>
    if c = separator then [] :: splitOn separator t
    else match splitOn separator t with
      | [] => [[c]]
      | piece :: pieces => (c :: piece) :: pieces

theorem splitOn_ne_nil (separator : Char) (t : Text) : splitOn separator t ≠ [] := by
  cases t with
  | nil => simp [splitOn]
  | cons c t =>
    rw [splitOn]
    split
    · simp
    · split <;> simp

/-- Whether a text ends with another. -/
def endsWith (t suffix : Text) : Bool := suffix.isSuffixOf t

end Text

end Accessors
