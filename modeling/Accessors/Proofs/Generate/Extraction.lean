import Accessors.Proofs.Generate.Course
import Accessors.Proofs.Syntax.Declarations

/-!
# Extraction under both visibilities

A property declaration counts for the visibility that its last visibility modifier names, and for
public if it has none. A class has a model for a visibility exactly when a declaration in it counts
for it, and then the model holds the first variables of these declarations. The rest of the model
does not depend on the visibility.

* `PropertyDecl.LastVisibility`, `PropertyDecl.Counts`: which declarations count for a visibility.
* `PropertyDecl.qualifies_iff`: these are the declarations that are taken.
* `Extract.Models`: what the model of a class holds.
* `Extract.forall₂_models`: the models of the classes that have one, in order.
* `Extract.models_by_visibility`: extraction as a whole, under one visibility and under both.
-/

namespace Accessors

open Document Text
open Syntax (ClassDecl Member Occurrence Program PropertyDecl Statement Variable)

/-! ## Visibility of a declaration -/

namespace Syntax

namespace PropertyDecl

variable {p : PropertyDecl} {m : Modifier} {v : Visibility}

/-- The last of the visibilities among the modifiers; they may repeat and contradict each other. -/
def LastVisibility (p : PropertyDecl) (m : Modifier) : Prop :=
  m ≠ .other ∧ ∃ front back, p.modifiers = front ++ m :: back ∧ ∀ x ∈ back, x = .other

/-- No visibility is among the modifiers. -/
def Unmarked (p : PropertyDecl) : Prop := ∀ x ∈ p.modifiers, x = .other

def Counts (p : PropertyDecl) : Visibility → Prop
  | .isPrivate => p.LastVisibility .isPrivate
  | .isPublic => p.LastVisibility .isPublic ∨ p.Unmarked

theorem visibility?_eq_none_iff : p.visibility? = none ↔ p.Unmarked := by
  rw [visibility?, List.getLast?_eq_none_iff, List.filter_eq_nil_iff, Unmarked]
  simp only [decide_eq_true_eq, not_not]

theorem visibility?_eq_some_iff : p.visibility? = some m ↔ p.LastVisibility m := by
  have hrest : ∀ back : List Modifier,
      back.filter (· ≠ .other) = [] ↔ ∀ x ∈ back, x = .other := by
    intro back
    simp only [List.filter_eq_nil_iff, decide_eq_true_eq, not_not]
  rw [visibility?, List.getLast?_eq_some_iff]
  constructor
  · rintro ⟨earlier, hfilter⟩
    obtain ⟨front, tail, hsplit, -, htail⟩ := List.filter_eq_append_iff.1 hfilter
    obtain ⟨middle, back, rfl, -, hm, hback⟩ := List.filter_eq_cons_iff.1 htail
    refine ⟨of_decide_eq_true hm, front ++ middle, back, ?_, (hrest back).1 hback⟩
    rw [hsplit, List.append_assoc]
  · rintro ⟨hm, front, back, hsplit, hback⟩
    refine ⟨front.filter (· ≠ .other), ?_⟩
    rw [hsplit, List.filter_append, List.filter_cons_of_pos (by simpa using hm),
      (hrest back).2 hback]

/-- The declarations that are taken for a visibility are those that count for it. -/
theorem qualifies_iff : p.qualifies v = true ↔ p.Counts v := by
  cases v with
  | isPrivate =>
    rw [Counts, ← visibility?_eq_some_iff]
    cases h : p.visibility? with
    | none => simp [qualifies, h]
    | some m => cases m <;> simp [qualifies, h]
  | isPublic =>
    rw [Counts, ← visibility?_eq_some_iff, ← visibility?_eq_none_iff]
    cases h : p.visibility? with
    | none => simp [qualifies, h]
    | some m => cases m <;> simp [qualifies, h]

instance (p : PropertyDecl) (v : Visibility) : Decidable (p.Counts v) :=
  decidable_of_iff _ qualifies_iff

theorem LastVisibility.unique {m m' : Modifier} (h : p.LastVisibility m)
    (h' : p.LastVisibility m') : m = m' := by
  rw [← visibility?_eq_some_iff] at h h'
  rw [h] at h'
  exact Option.some.inj h'

theorem LastVisibility.not_unmarked (h : p.LastVisibility m) : ¬ p.Unmarked := by
  rw [← visibility?_eq_some_iff] at h
  rw [← visibility?_eq_none_iff, h]
  simp

theorem LastVisibility.not_counts (h : p.LastVisibility .isProtected) (v : Visibility) :
    ¬ p.Counts v := by
  cases v with
  | isPrivate =>
    intro hprivate
    exact absurd (h.unique hprivate) (by decide)
  | isPublic =>
    rintro (hpublic | hunmarked)
    · exact absurd (h.unique hpublic) (by decide)
    · exact h.not_unmarked hunmarked

/-- No declaration counts for both visibilities. -/
theorem not_counts_both (p : PropertyDecl) : ¬ (p.Counts .isPrivate ∧ p.Counts .isPublic) := by
  rintro ⟨hprivate, hpublic | hunmarked⟩
  · exact absurd (LastVisibility.unique hprivate hpublic) (by decide)
  · exact hprivate.not_unmarked hunmarked

end PropertyDecl

/-- The declaration of a member that declares properties, plain or with hooks. -/
def Member.propertyDecl? {σ : Type} : Member σ → Option PropertyDecl
  | .property decl _ => some decl
  | .method _ _ | .other _ => none

/-- The property declarations of a class. -/
def ClassDecl.propertyDecls (c : ClassDecl Statement) : List PropertyDecl :=
  c.members.filterMap Member.propertyDecl?

/-- A declaration in the class counts for the visibility. -/
def ClassDecl.Declares (c : ClassDecl Statement) (v : Visibility) : Prop :=
  ∃ p ∈ c.propertyDecls, p.Counts v

instance (c : ClassDecl Statement) (v : Visibility) : Decidable (c.Declares v) :=
  inferInstanceAs (Decidable (∃ p ∈ c.propertyDecls, p.Counts v))

theorem ClassDecl.declares_iff {v : Visibility} (c : ClassDecl Statement) :
    c.Declares v ↔ c.Qualifies v := by
  constructor
  · rintro ⟨p, hp, hcounts⟩
    obtain ⟨member, hmem, hdecl⟩ := List.mem_filterMap.1 hp
    cases member with
    | property decl nested =>
      cases hdecl
      exact ⟨p, nested, hmem, PropertyDecl.qualifies_iff.2 hcounts⟩
    | method name nested => cases hdecl
    | other nested => cases hdecl
  · rintro ⟨p, nested, hmem, hq⟩
    exact ⟨p, List.mem_filterMap.2 ⟨_, hmem, rfl⟩, PropertyDecl.qualifies_iff.1 hq⟩

/-- Class declarations that are reached come in the order of all class declarations in the tree. -/
theorem Program.classes_sublist (p : Program) :
    p.classes.Sublist (p.occurrences.filterMap fun o => o.statement.decl?) := by
  have hwalk : p.classes = p.occurrences.filterMap Occurrence.declared? := by
    rw [classes, classesIn_eq, occurrences, List.filterMap_flatMap]
    exact List.flatMap_congr fun s _ => s.classes_eq_filterMap
  rw [hwalk]
  induction p.occurrences with
  | nil => exact .slnil
  | cons o os ih =>
    rw [List.filterMap_cons, List.filterMap_cons, Occurrence.declared?]
    split_ifs
    · cases o.statement.decl? with
      | none => exact ih
      | some decl => exact ih.cons_cons decl
    · cases o.statement.decl? with
      | none => exact ih
      | some decl => exact ih.cons decl

end Syntax

/-! ## Models -/

namespace Extract

/-- The first variable of a declaration without its dollar sign, and the type as it stands in the
source. -/
def firstProperty (source : Text) (p : PropertyDecl) : Property :=
  ⟨p.first.word, p.hint.map fun (start, stop) => sliceBytes source start stop⟩

/-- What the model of a class holds for a visibility. -/
structure Models (source : Text) (v : Visibility) (c : ClassDecl Statement) (m : ClassModel) :
    Prop where
  name : m.name = c.name
  startLine : m.startLine = ((ofText source).positionAt c.keyword).line
  endLine : m.endLine = ((ofText source).positionAt c.closing).line
  endColumn : m.endColumn = ((ofText source).positionAt c.closing).column
  properties : m.properties = (c.propertyDecls.filter (·.Counts v)).map (firstProperty source)
  methodNames : m.methodNames = Extract.methodNames c.members

variable {source : Text} {v : Visibility} {c : ClassDecl Statement} {m : ClassModel}

theorem properties_eq (source : Text) (v : Visibility) (c : ClassDecl Statement) :
    Extract.properties v (ofText source) c.members =
      (c.propertyDecls.filter (·.Counts v)).map (firstProperty source) := by
  rw [ClassDecl.propertyDecls]
  induction c.members with
  | nil => rfl
  | cons member members ih =>
    rw [Extract.properties] at ih ⊢
    rw [List.filterMap_cons, List.filterMap_cons, ih]
    cases member with
    | property decl nested =>
      simp only [Member.propertyDecl?, property?_eq, text_ofText]
      by_cases hdecl : decl.qualifies v = true
      · have hcounts := PropertyDecl.qualifies_iff.1 hdecl
        rw [if_pos hdecl, List.filter_cons_of_pos (by simpa using hcounts)]
        rfl
      · rw [if_neg hdecl,
          List.filter_cons_of_neg (by rwa [decide_eq_true_eq, ← PropertyDecl.qualifies_iff])]
    | method name nested => rfl
    | other nested => rfl

theorem classModel?_eq_none_iff : classModel? v (ofText source) c = none ↔ ¬ c.Declares v := by
  rw [c.declares_iff, ← isSome_classModel? v (ofText source) c, Option.not_isSome_iff_eq_none]

theorem Models.of_classModel? (h : classModel? v (ofText source) c = some m) :
    Models source v c m := by
  have hproperties := properties_eq source v c
  rw [classModel?] at h
  split at h
  · cases h
  · cases h
    exact ⟨rfl, rfl, rfl, rfl, hproperties, rfl⟩

/-- The classes that have a model have them in order. -/
theorem forall₂_models (source : Text) (v : Visibility) (classes : List (ClassDecl Statement)) :
    List.Forall₂ (Models source v) (classes.filter (·.Declares v))
      (classes.filterMap (classModel? v (ofText source))) := by
  induction classes with
  | nil => exact .nil
  | cons c classes ih =>
    rw [List.filterMap_cons]
    cases hmodel : classModel? v (ofText source) c with
    | none =>
      have hnone := classModel?_eq_none_iff.1 hmodel
      rw [List.filter_cons_of_neg (by simpa using hnone)]
      exact ih
    | some m =>
      have hsome : c.Declares v := by
        by_contra hnone
        rw [classModel?_eq_none_iff.2 hnone] at hmodel
        cases hmodel
      rw [List.filter_cons_of_pos (by simpa using hsome)]
      exact .cons (.of_classModel? hmodel) ih

theorem classModels_eq (v : Visibility) (d : Document) (p : Program) :
    classModels v d p =
      if p.classes = [] then .error .noClassesFound
      else if p.classes.filterMap (classModel? v d) = [] then .error (.noQualifyingProperties v)
      else .ok (p.classes.filterMap (classModel? v d)) := by
  rw [classModels]
  cases hclasses : p.classes with
  | nil => rfl
  | cons c rest =>
    dsimp only
    cases (c :: rest).filterMap (classModel? v d) with
    | nil => rfl
    | cons m models => rfl

theorem classModels_eq_noClassesFound {d : Document} {p : Program} :
    classModels v d p = .error .noClassesFound ↔ p.classes = [] := by
  rw [classModels_eq]
  split_ifs with hclasses hmodels
  · simp [hclasses]
  · simp [hclasses]
  · simp [hclasses]

theorem classModels_eq_noQualifyingProperties {p : Program} :
    classModels v (ofText source) p = .error (.noQualifyingProperties v) ↔
      p.classes ≠ [] ∧ ∀ c ∈ p.classes, ¬ c.Declares v := by
  have hnone : p.classes.filterMap (classModel? v (ofText source)) = [] ↔
      ∀ c ∈ p.classes, ¬ c.Declares v := by
    simp only [List.filterMap_eq_nil_iff, classModel?_eq_none_iff]
  rw [classModels_eq, ← hnone]
  split_ifs with hclasses hmodels
  · simp [hclasses]
  · simp [hclasses, hmodels]
  · simp [hmodels]

theorem exists_classModels_eq_ok {p : Program} (h : ∃ c ∈ p.classes, c.Declares v) :
    ∃ models, classModels v (ofText source) p = .ok models ∧
      List.Forall₂ (Models source v) (p.classes.filter (·.Declares v)) models := by
  obtain ⟨c, hc, hdeclares⟩ := h
  have hclasses : p.classes ≠ [] := List.ne_nil_of_mem hc
  have hmodels : p.classes.filterMap (classModel? v (ofText source)) ≠ [] := by
    intro hnil
    have hnone := List.filterMap_eq_nil_iff.1 hnil c hc
    exact classModel?_eq_none_iff.1 hnone hdeclares
  refine ⟨_, ?_, forall₂_models source v p.classes⟩
  rw [classModels_eq, if_neg hclasses, if_neg hmodels]

/-- Extraction under one visibility and under both. The classes that are reached and in which a
declaration counts for the visibility have models, in order; a model holds the first variables of
the declarations that count, in order, with their types as written. Under both visibilities a class
has the same name, lines, column and method names, and no class is found under one exactly when none
is found under the other. No declaration counts for both, and a protected one counts for neither. -/
theorem models_by_visibility (p : Program) (source : Text) :
    (∀ v,
      (classModels v (ofText source) p = .error .noClassesFound ↔ p.classes = []) ∧
      (classModels v (ofText source) p = .error (.noQualifyingProperties v) ↔
        p.classes ≠ [] ∧ ∀ c ∈ p.classes, ¬ c.Declares v) ∧
      ((∃ c ∈ p.classes, c.Declares v) →
        ∃ models, classModels v (ofText source) p = .ok models ∧
          List.Forall₂ (Models source v) (p.classes.filter (·.Declares v)) models)) ∧
    p.classes.Sublist (p.occurrences.filterMap fun o => o.statement.decl?) ∧
    (∀ c m m', Models source .isPrivate c m → Models source .isPublic c m' →
      m.name = m'.name ∧ m.startLine = m'.startLine ∧ m.endLine = m'.endLine ∧
        m.endColumn = m'.endColumn ∧ m.methodNames = m'.methodNames) ∧
    (classModels .isPrivate (ofText source) p = .error .noClassesFound ↔
      classModels .isPublic (ofText source) p = .error .noClassesFound) ∧
    ∀ decl : PropertyDecl, ¬ (decl.Counts .isPrivate ∧ decl.Counts .isPublic) ∧
      (decl.LastVisibility .isProtected → ∀ v, ¬ decl.Counts v) := by
  refine ⟨?_, p.classes_sublist, ?_, ?_, ?_⟩
  · intro v
    exact ⟨classModels_eq_noClassesFound, classModels_eq_noQualifyingProperties,
      exists_classModels_eq_ok⟩
  · intro c m m' h h'
    refine ⟨?_, ?_, ?_, ?_, ?_⟩
    · rw [h.name, h'.name]
    · rw [h.startLine, h'.startLine]
    · rw [h.endLine, h'.endLine]
    · rw [h.endColumn, h'.endColumn]
    · rw [h.methodNames, h'.methodNames]
  · rw [classModels_eq_noClassesFound, classModels_eq_noClassesFound]
  · intro decl
    exact ⟨decl.not_counts_both, fun hprotected => hprotected.not_counts⟩

/-- A declaration with contradicting modifiers counts for the last one, one without any visibility
counts for public, and a second class without a private property has a model for public alone. -/
theorem models_by_visibility_contradicting :
    let a : Variable := ⟨"a".toList, by decide, by decide⟩
    let b : Variable := ⟨"b".toList, by decide, by decide⟩
    let decls : List PropertyDecl :=
      [⟨[.isPublic, .other, .isPrivate, .other], none, a, [b], false⟩,
        ⟨[.other], some (0, 3), b, [], true⟩, ⟨[.isPrivate, .isProtected], none, b, [], false⟩]
    let first : ClassDecl Statement := ⟨"A".toList, 0, 3, decls.map (.property · [])⟩
    let second : ClassDecl Statement := ⟨"B".toList, 4, 9, [.property ⟨[], none, b, [], false⟩ []]⟩
    let p : Program := ⟨[.classDecl first, .classDecl second]⟩
    ∃ m m' other, classModels .isPrivate (ofText "int".toList) p = .ok [m] ∧
      classModels .isPublic (ofText "int".toList) p = .ok [m', other] ∧
      m.properties = [⟨"a".toList, none⟩] ∧ m'.properties = [⟨"b".toList, some "int".toList⟩] ∧
      m.name = m'.name ∧ m.endColumn = m'.endColumn := by
  intro a b decls first second p
  obtain ⟨hmodels, -, hagree, -⟩ := models_by_visibility p "int".toList
  obtain ⟨-, -, hprivate⟩ := hmodels .isPrivate
  obtain ⟨-, -, hpublic⟩ := hmodels .isPublic
  have hclasses : p.classes = [first, second] := rfl
  have hfirst : ∀ v, first.Declares v := by
    intro v
    cases v
    · decide
    · decide
  have hsecond : ¬ second.Declares .isPrivate := by decide
  have hsecond' : second.Declares .isPublic := by decide
  have hmem : first ∈ p.classes := List.mem_cons_self
  obtain ⟨models, hrun, hforall⟩ := hprivate ⟨first, hmem, hfirst _⟩
  obtain ⟨models', hrun', hforall'⟩ := hpublic ⟨first, hmem, hfirst _⟩
  rw [hclasses, List.filter_cons_of_pos (by simpa using hfirst _),
    List.filter_cons_of_neg (by simpa using hsecond), List.filter_nil] at hforall
  rw [hclasses, List.filter_cons_of_pos (by simpa using hfirst _),
    List.filter_cons_of_pos (by simpa using hsecond'), List.filter_nil] at hforall'
  cases hforall with
  | cons hm hnil =>
    cases hnil
    cases hforall' with
    | cons hm' hrest =>
      cases hrest with
      | cons hother hnil' =>
        cases hnil'
        obtain ⟨hname, -, -, hcolumn, -⟩ := hagree first _ _ hm hm'
        refine ⟨_, _, _, hrun, hrun', ?_, ?_, hname, hcolumn⟩
        · rw [hm.properties]
          decide
        · rw [hm'.properties]
          decide

end Extract

end Accessors
