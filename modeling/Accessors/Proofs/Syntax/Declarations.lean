import Accessors.Syntax.Tree
import Mathlib.Data.List.Basic

/-!
# Which classes a file declares

The walk over a syntax tree enters some statements and passes over the others. Here the tree is read
as a whole instead: every statement in it, however deep, with the places that the statements around
it give it. The walk then reaches the class declarations around which there is nothing but
namespaces, blocks and branches of conditionals, one after the other as they stand in the tree.

* `Statement.parts`: the statements directly in a statement, each with its place there.
* `Statement.occurrences`: all statements in a statement, in source order.
* `Statement.classes_eq`: one step of the walk.
* `Program.classes_eq_declared`: the walk as a whole.
-/

namespace Accessors.Syntax

/-! ## Statements in a statement -/

/-- The place of a statement in the statement directly around it. -/
inductive Part where
  /-- In a namespace, with or without braces. -/
  | namespaceBody
  | blockBody
  /-- In the condition behind `if` or `elseif`. -/
  | condition
  /-- In the branch behind `if`, `elseif` or `else`, in statement or colon form. -/
  | branch
  /-- In a member of a class. -/
  | member
  | enclosed (kind : Enclosure)
  deriving DecidableEq, Repr

/-- The places in which a class declaration is one of the file. -/
def Part.isOpen : Part → Bool
  | .namespaceBody | .blockBody | .branch => true
  | .condition | .member | .enclosed _ => false

/-- The statements in the branches of a conditional and in the conditions between them;
`statements` are those of one branch. -/
def Branches.parts {β : Type} (statements : β → List Statement) (b : Branches Statement β) :
    List (Part × Statement) :=
  (statements b.first).map (.branch, ·) ++
    b.elseIfs.flatMap (fun clause =>
      clause.condition.map (.condition, ·) ++ (statements clause.branch).map (.branch, ·)) ++
    b.otherwise.toList.flatMap fun last => (statements last).map (.branch, ·)

/-- The statements directly in a statement. Those of a statement that is not entered come in the
order in which the tree keeps them, all others in source order. -/
def Statement.parts : Statement → List (Part × Statement)
  | .classDecl decl => (decl.members.flatMap Member.nested).map (.member, ·)
  | .namespaceDecl _ body => body.map (.namespaceBody, ·)
  | .block body => body.map (.blockBody, ·)
  | .conditional condition b => condition.map (.condition, ·) ++ b.parts fun s => [s]
  | .colonConditional condition b => condition.map (.condition, ·) ++ b.parts id
  | .other kind nested => nested.map (.enclosed kind, ·)

theorem sizeOf_lt_of_mem_map {place part : Part} {body : List Statement} {s : Statement}
    (h : (part, s) ∈ body.map (place, ·)) : sizeOf s < sizeOf body := by
  obtain ⟨t, ht, heq⟩ := List.mem_map.1 h
  cases heq
  exact List.sizeOf_lt_of_mem ht

theorem Member.sizeOf_lt {m : Member Statement} {s : Statement} (h : s ∈ m.nested) :
    sizeOf s < sizeOf m := by
  have hnested := List.sizeOf_lt_of_mem h
  cases m with
  | property decl nested =>
    simp only [Member.nested, Member.property.sizeOf_spec] at *
    omega
  | method name nested =>
    simp only [Member.nested, Member.method.sizeOf_spec] at *
    omega
  | other nested =>
    simp only [Member.nested, Member.other.sizeOf_spec] at *
    omega

theorem Branches.sizeOf_lt {β : Type} [SizeOf β] {statements : β → List Statement}
    (hbranch : ∀ (x : β) (s : Statement), s ∈ statements x → sizeOf s ≤ sizeOf x)
    {b : Branches Statement β} {part : Part} {s : Statement} (h : (part, s) ∈ b.parts statements) :
    sizeOf s < sizeOf b := by
  obtain ⟨first, elseIfs, otherwise⟩ := b
  simp only [parts, List.mem_append, List.mem_map, List.mem_flatMap, Prod.mk.injEq] at h
  simp only [Branches.mk.sizeOf_spec]
  rcases h with (⟨t, ht, -, rfl⟩ | ⟨⟨condition, branch⟩, hclause, h⟩) | ⟨last, hlast, t, ht, -, rfl⟩
  · have hfirst := hbranch first t ht
    omega
  · have hclause := List.sizeOf_lt_of_mem hclause
    simp only [ElseIf.mk.sizeOf_spec] at hclause
    rcases h with ⟨t, ht, -, rfl⟩ | ⟨t, ht, -, rfl⟩
    · have hcondition : sizeOf t < sizeOf condition := List.sizeOf_lt_of_mem ht
      omega
    · have hbody := hbranch branch t ht
      omega
  · have hbody := hbranch last t ht
    cases Option.mem_toList.1 hlast
    simp only [Option.some.sizeOf_spec]
    omega

theorem Statement.sizeOf_lt {s t : Statement} {part : Part} (h : (part, t) ∈ s.parts) :
    sizeOf t < sizeOf s := by
  cases s with
  | classDecl decl =>
    obtain ⟨name, keyword, closing, members⟩ := decl
    simp only [parts, List.mem_map, List.mem_flatMap, Prod.mk.injEq] at h
    obtain ⟨u, ⟨m, hm, hu⟩, -, rfl⟩ := h
    have hmember := Member.sizeOf_lt hu
    have hmembers := List.sizeOf_lt_of_mem hm
    simp only [Statement.classDecl.sizeOf_spec, ClassDecl.mk.sizeOf_spec]
    omega
  | namespaceDecl braced body =>
    have hbody := sizeOf_lt_of_mem_map h
    simp only [Statement.namespaceDecl.sizeOf_spec]
    omega
  | block body =>
    have hbody := sizeOf_lt_of_mem_map h
    simp only [Statement.block.sizeOf_spec]
    omega
  | conditional condition b =>
    simp only [Statement.conditional.sizeOf_spec]
    rcases List.mem_append.1 h with h | h
    · have hcondition := sizeOf_lt_of_mem_map h
      omega
    · have hbranch := Branches.sizeOf_lt (fun x s hs => by simp [List.mem_singleton.1 hs]) h
      omega
  | colonConditional condition b =>
    simp only [Statement.colonConditional.sizeOf_spec]
    rcases List.mem_append.1 h with h | h
    · have hcondition := sizeOf_lt_of_mem_map h
      omega
    · have hbranch := Branches.sizeOf_lt (fun x s hs => Nat.le_of_lt (List.sizeOf_lt_of_mem hs)) h
      omega
  | other kind nested =>
    have hnested := sizeOf_lt_of_mem_map h
    simp only [Statement.other.sizeOf_spec]
    omega

/-! ## All statements of a tree -/

/-- A statement in a tree, with its place in each of the statements around it, from the outside
in. -/
structure Occurrence where
  around : List Part
  statement : Statement

/-- The same statement, seen from one statement further out. -/
def Occurrence.within (part : Part) (o : Occurrence) : Occurrence := ⟨part :: o.around, o.statement⟩

/-- A statement and all statements in it, in source order. -/
def Statement.occurrences (s : Statement) : List Occurrence :=
  ⟨[], s⟩ :: s.parts.attach.flatMap fun x => x.1.2.occurrences.map (Occurrence.within x.1.1)
termination_by sizeOf s
decreasing_by exact sizeOf_lt x.2

theorem Statement.occurrences_eq (s : Statement) :
    s.occurrences = ⟨[], s⟩ :: s.parts.flatMap fun x => x.2.occurrences.map (.within x.1) := by
  have hval : (s.parts.attach.flatMap fun x => x.1.2.occurrences.map (Occurrence.within x.1.1)) =
      s.parts.attach.unattach.flatMap fun x => x.2.occurrences.map (.within x.1) :=
    List.flatMap_subtype fun _ _ => rfl
  rw [occurrences, hval, List.unattach_attach]

/-- All statements of a file. -/
def Program.occurrences (p : Program) : List Occurrence :=
  p.statements.flatMap Statement.occurrences

/-- The class that a statement declares. -/
def Statement.decl? : Statement → Option (ClassDecl Statement)
  | .classDecl decl => some decl
  | _ => none

/-- The class declared at a place in a tree, if nothing around it is closed. -/
def Occurrence.declared? (o : Occurrence) : Option (ClassDecl Statement) :=
  if o.around.all Part.isOpen then o.statement.decl? else none

/-! ## The walk -/

theorem classesIn_eq (body : List Statement) : classesIn body = body.flatMap Statement.classes := by
  induction body with
  | nil => rfl
  | cons s rest ih => rw [classesIn, ih, List.flatMap_cons]

theorem classesInElseIfs_eq (elseIfs : List (ElseIf Statement Statement)) :
    classesInElseIfs elseIfs = elseIfs.flatMap fun clause => clause.branch.classes := by
  induction elseIfs with
  | nil => rfl
  | cons clause rest ih => rw [classesInElseIfs, ih, List.flatMap_cons]

theorem classesInColonElseIfs_eq (elseIfs : List (ElseIf Statement (List Statement))) :
    classesInColonElseIfs elseIfs =
      elseIfs.flatMap fun clause => clause.branch.flatMap Statement.classes := by
  induction elseIfs with
  | nil => rfl
  | cons clause rest ih => rw [classesInColonElseIfs, ih, classesIn_eq, List.flatMap_cons]

/-- The class declarations reached through a part of a statement. -/
def Part.reached (x : Part × Statement) : List (ClassDecl Statement) :=
  if x.1.isOpen then x.2.classes else []

theorem flatMap_reached_of_open (place : Part) (h : place.isOpen = true) (body : List Statement) :
    (body.map (place, ·)).flatMap Part.reached = body.flatMap Statement.classes := by
  simp only [List.flatMap_map, Part.reached, h, if_true]

theorem flatMap_reached_of_closed (place : Part) (h : place.isOpen = false)
    (body : List Statement) : (body.map (place, ·)).flatMap Part.reached = [] := by
  simp [List.flatMap_map, Part.reached, h]

theorem Branches.flatMap_reached {β : Type} (statements : β → List Statement)
    (b : Branches Statement β) :
    (b.parts statements).flatMap Part.reached =
      (statements b.first).flatMap Statement.classes ++
        b.elseIfs.flatMap (fun clause => (statements clause.branch).flatMap Statement.classes) ++
        b.otherwise.toList.flatMap fun last => (statements last).flatMap Statement.classes := by
  simp only [parts, List.flatMap_append, List.flatMap_assoc,
    flatMap_reached_of_open .branch rfl,
    flatMap_reached_of_closed .condition rfl, List.nil_append]

/-- One step of the walk: the class that a statement declares, and what is reached through its open
parts. -/
theorem Statement.classes_eq (s : Statement) :
    s.classes = s.decl?.toList ++ s.parts.flatMap Part.reached := by
  cases s with
  | classDecl decl =>
    rw [parts, flatMap_reached_of_closed _ rfl, classes]
    rfl
  | namespaceDecl braced body =>
    rw [parts, flatMap_reached_of_open _ rfl, classes, classesIn_eq]
    rfl
  | block body =>
    rw [parts, flatMap_reached_of_open _ rfl, classes, classesIn_eq]
    rfl
  | conditional condition b =>
    rw [parts, List.flatMap_append, flatMap_reached_of_closed _ rfl, Branches.flatMap_reached]
    obtain ⟨first, elseIfs, otherwise⟩ := b
    cases otherwise with
    | none => simp [classes, classesInElseIfs_eq, decl?]
    | some last => simp [classes, classesInElseIfs_eq, decl?]
  | colonConditional condition b =>
    rw [parts, List.flatMap_append, flatMap_reached_of_closed _ rfl, Branches.flatMap_reached]
    obtain ⟨first, elseIfs, otherwise⟩ := b
    cases otherwise with
    | none => simp [classes, classesIn_eq, classesInColonElseIfs_eq, decl?]
    | some last => simp [classes, classesIn_eq, classesInColonElseIfs_eq, decl?]
  | other kind nested =>
    rw [parts, flatMap_reached_of_closed _ rfl, classes]
    rfl

/-- Seen from further out, a class is declared only through an open part. -/
theorem filterMap_declared_within (part : Part) (os : List Occurrence) :
    (os.map (.within part)).filterMap Occurrence.declared? =
      if part.isOpen then os.filterMap Occurrence.declared? else [] := by
  rw [List.filterMap_map]
  cases hopen : part.isOpen with
  | true =>
    have hsame : Occurrence.declared? ∘ .within part = Occurrence.declared? := by
      funext o
      simp [Occurrence.declared?, Occurrence.within, hopen]
    rw [hsame, if_pos rfl]
  | false =>
    refine List.filterMap_eq_nil_iff.2 fun o _ => ?_
    simp [Occurrence.declared?, Occurrence.within, hopen]

theorem Statement.classes_eq_filterMap (s : Statement) :
    s.classes = s.occurrences.filterMap Occurrence.declared? := by
  have hparts : s.parts.flatMap Part.reached = s.parts.flatMap fun x =>
      (x.2.occurrences.map (.within x.1)).filterMap Occurrence.declared? := by
    refine List.flatMap_congr fun x hx => ?_
    rw [filterMap_declared_within, ← classes_eq_filterMap x.2]
    rfl
  have hself : Occurrence.declared? ⟨[], s⟩ = s.decl? := rfl
  rw [classes_eq, hparts, occurrences_eq, List.filterMap_cons, List.filterMap_flatMap, hself]
  cases s.decl? with
  | none => rfl
  | some decl => rfl
termination_by sizeOf s
decreasing_by exact sizeOf_lt hx

/-- The walk over a file gives the class declarations at those places of the tree around which there
are only namespaces, blocks and branches of conditionals: one for each such place, in source order,
and none in a condition, in a member of a class, or anywhere in a function, a loop, a switch, a try
block, a declare statement, an interface, a trait, an enumeration or an expression. -/
theorem Program.classes_eq_declared (p : Program) :
    p.classes = p.occurrences.filterMap Occurrence.declared? := by
  rw [classes, classesIn_eq, occurrences, List.filterMap_flatMap]
  exact List.flatMap_congr fun s _ => s.classes_eq_filterMap

/-- A class in each kind of branch, one in a closure in a condition, and one in a loop. -/
example :
    let named (name : String) : Statement := .classDecl ⟨name.toList, 0, 0, []⟩
    let closure := Statement.other .function [named "C"]
    let clause : ElseIf Statement (List Statement) := ⟨[closure], [.block [named "B"], named "D"]⟩
    let p : Program := ⟨[.namespaceDecl false
      [.colonConditional [] ⟨[named "A"], [clause], some [.other .loop [named "E"]]⟩,
        .conditional [closure] ⟨named "F", [⟨[], named "G"⟩], some (named "H")⟩]]⟩
    p.classes.map ClassDecl.name = ["A", "B", "D", "F", "G", "H"].map String.toList := by
  rfl

end Accessors.Syntax
