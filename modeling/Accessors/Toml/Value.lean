import Accessors.Text.Basic

/-!
# TOML values

A TOML document is a tree of tables. A table may be opened only once, so the tree remembers how
each table came to be.

* `Toml.Value`: values.
* `Toml.define?`: give a key a value; none when the key may not be defined there.
* `Toml.openTable?`, `Toml.openElement?`: the headers in single and in double brackets.
* `Toml.Value.datesHold`: whether the tables that stand for dates hold dates.
-/

namespace Accessors.Toml

/-- How a table came to be. -/
inductive TableKind where
  /-- By its own header. -/
  | header
  /-- As a step on the way to another header. -/
  | implied
  /-- As a step of a dotted key. -/
  | dotted
  /-- In braces; nothing can be added to it. -/
  | inline
  deriving DecidableEq, Repr

/-- A value. Floats and dates are kept only as such. -/
inductive Value where
  | string (t : Text)
  | integer (i : Int)
  | float
  | boolean (b : Bool)
  | dateTime
  | array (items : List Value)
  | table (kind : TableKind) (entries : List (Text × Value))
  /-- The tables of the headers in double brackets. -/
  | tables (elements : List (List (Text × Value)))

/-- The keys of a table with their values, in the order in which they were defined. -/
abbrev Entries := List (Text × Value)

/-- Replace the value of a key. -/
def Entries.set (key : Text) (value : Value) (entries : Entries) : Entries :=
  entries.map fun (k, v) => (k, if k = key then value else v)

/-- Apply a change to the last element of a list. -/
def changeLast? {α : Type} (change : α → Option α) : List α → Option (List α)
  | [] => none
  | [a] => (change a).map fun b => [b]
  | a :: rest => (changeLast? change rest).map (a :: ·)

/-- Apply a change to the table at a path. Tables that are missing on the way are created with the
kind `step`. A dotted key does not reach into a table that has a header of its own, and nothing
reaches into a table in braces. -/
def changeAt? (step : TableKind) (change : TableKind → Entries → Option (TableKind × Entries)) :
    List Text → TableKind → Entries → Option (TableKind × Entries)
  | [], kind, entries => change kind entries
  | key :: path, kind, entries =>
    match entries.lookup key with
    | none => do
      let (kind', inner) ← changeAt? step change path step []
      return (kind, entries ++ [(key, .table kind' inner)])
    | some (.table kind' inner) =>
      if kind' = .inline || (step = .dotted && kind' = .header) then none
      else do
        let (kind'', inner) ← changeAt? step change path kind' inner
        return (kind, Entries.set key (.table kind'' inner) entries)
    | some (.tables elements) => do
      let elements ← changeLast? (fun e => (changeAt? step change path .header e).map (·.2)) elements
      return (kind, Entries.set key (.tables elements) entries)
    | some _ => none

/-- Define a key in a table, behind the steps of a dotted key. -/
def defineIn? (path : List Text) (key : Text) (value : Value) (kind : TableKind)
    (entries : Entries) : Option (TableKind × Entries) :=
  changeAt? .dotted
    (fun kind' inner =>
      if decide (kind' = .dotted) == path.isEmpty then none
      else if (inner.lookup key).isSome then none
      else some (kind', inner ++ [(key, value)]))
    path kind entries

/-- Define a key below the current header. -/
def define? (header path : List Text) (key : Text) (value : Value) (root : Entries) :
    Option Entries :=
  (changeAt? .implied (defineIn? path key value) header .header root).map (·.2)

/-- Open the table of a header in single brackets. -/
def openTable? (path : List Text) (key : Text) (root : Entries) : Option Entries :=
  let change := fun (kind : TableKind) (entries : Entries) =>
    match entries.lookup key with
    | none => some (kind, entries ++ [(key, .table .header [])])
    | some (.table .implied inner) => some (kind, Entries.set key (.table .header inner) entries)
    | some _ => none
  (changeAt? .implied change path .header root).map (·.2)

/-- Open another element of a header in double brackets. -/
def openElement? (path : List Text) (key : Text) (root : Entries) : Option Entries :=
  let change := fun (kind : TableKind) (entries : Entries) =>
    match entries.lookup key with
    | none => some (kind, entries ++ [(key, .tables [[]])])
    | some (.tables elements) =>
      some (kind, Entries.set key (.tables (elements ++ [[]])) entries)
    | some _ => none
  (changeAt? .implied change path .header root).map (·.2)

/-! ## Dates in disguise -/

/-- The key of a table that stands for a date. -/
def dateKey : Text := "$__toml_private_datetime".toList

mutual

/-- Whether every table in a value whose first key is that of dates holds one, `isDate` telling the
texts that are dates. -/
def Value.datesHold (isDate : Text → Bool) : Value → Bool
  | .table _ entries => entriesHold isDate true entries
  | .tables elements => elementsHold isDate elements
  | .array items => itemsHold isDate items
  | _ => true

/-- The same for the entries of a table, from the first one or from a later one on. -/
def entriesHold (isDate : Text → Bool) (first : Bool) : List (Text × Value) → Bool
  | [] => true
  | (key, v) :: entries =>
    if first && key = dateKey then
      match v with
      | .string t => isDate t
      | _ => false
    else v.datesHold isDate && entriesHold isDate false entries

/-- The same for the items of an array. -/
def itemsHold (isDate : Text → Bool) : List Value → Bool
  | [] => true
  | v :: items => v.datesHold isDate && itemsHold isDate items

/-- The same for the tables of headers in double brackets. -/
def elementsHold (isDate : Text → Bool) : List (List (Text × Value)) → Bool
  | [] => true
  | entries :: elements => entriesHold isDate true entries && elementsHold isDate elements

end

end Accessors.Toml
