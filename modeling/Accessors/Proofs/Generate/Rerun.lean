import Accessors.Proofs.Generate.Outcome
import Mathlib.Data.List.Forall2

/-!
# Running twice

A run that accepts every class offered edits the classes that lack an accessor. A second run over
its output has nothing left to do when the output shows the methods that were added, and when their
names are the ones that coverage looks for.

* `Accessor.key`: the name, in lower case, under which an accessor is looked for.
* `ClassModel.isCandidate_iff`: a class is offered exactly when it lacks an accessor.
* `generateAll_eq`: a run that accepts every class offered.
* `ClassModel.Gains`: a class before and after a run.
* `generateAll_of_gains`: when a second run finds every class covered.
-/

namespace Accessors

/-! ## Coverage -/

/-- The name, in lower case, under which coverage looks for an accessor. -/
def Accessor.key : Accessor → Text
  | ⟨.getter, p⟩ => "get".toList ++ Text.lower p.name
  | ⟨.setter, p⟩ => "set".toList ++ Text.lower p.name

/-- The accessors of a property that are asked for. -/
def Kinds.accessors (kinds : Kinds) (p : Property) : List Accessor :=
  (if kinds.getters then [⟨.getter, p⟩] else []) ++ (if kinds.setters then [⟨.setter, p⟩] else [])

namespace ClassModel

theorem lacking_eq (kinds : Kinds) (c : ClassModel) (p : Property) :
    c.lacking kinds p = (kinds.accessors p).filter fun a => !c.hasMethod a.key := by
  have hget : c.hasGetter p.name = c.hasMethod (Accessor.key ⟨.getter, p⟩) := rfl
  have hset : c.hasSetter p.name = c.hasMethod (Accessor.key ⟨.setter, p⟩) := rfl
  rw [lacking, hget, hset, Kinds.accessors, List.filter_append]
  congr 1
  · cases kinds.getters <;> cases h : c.hasMethod (Accessor.key ⟨.getter, p⟩) <;> simp [h]
  · cases kinds.setters <;> cases h : c.hasMethod (Accessor.key ⟨.setter, p⟩) <;> simp [h]

theorem keepFirst_eq_nil {accessors : List Accessor} :
    keepFirst [] accessors = [] ↔ accessors = [] := by
  cases accessors with
  | nil => simp [keepFirst]
  | cons a rest => simp [keepFirst]

/-- A class lacks nothing exactly when every accessor asked for is covered. -/
theorem missing_eq_nil {kinds : Kinds} {c : ClassModel} :
    c.missing kinds = [] ↔
      ∀ p ∈ c.properties, ∀ a ∈ kinds.accessors p, c.hasMethod a.key = true := by
  simp only [missing, keepFirst_eq_nil, List.flatMap_eq_nil_iff, lacking_eq, List.filter_eq_nil_iff,
    Bool.not_eq_true', Bool.not_eq_false]

/-- A class is offered exactly when it lacks an accessor. -/
theorem isCandidate_iff (kinds : Kinds) (c : ClassModel) :
    c.isCandidate kinds = true ↔ c.missing kinds ≠ [] := by
  have hget : c.hasAllGetters = true ↔
      ∀ p ∈ c.properties, c.hasMethod (Accessor.key ⟨.getter, p⟩) = true := List.all_eq_true
  have hset : c.hasAllSetters = true ↔
      ∀ p ∈ c.properties, c.hasMethod (Accessor.key ⟨.setter, p⟩) = true := List.all_eq_true
  rw [ne_eq, missing_eq_nil]
  obtain ⟨getters, setters⟩ := kinds
  cases getters <;> cases setters <;>
    simp only [isCandidate, Kinds.accessors, hasFullCoverage, Bool.not_eq_true', Bool.and_eq_true,
      ← Bool.not_eq_true, hget, hset, Bool.false_eq_true, if_true, if_false, List.nil_append,
      List.append_nil, List.singleton_append, List.forall_mem_cons, List.not_mem_nil, false_implies,
      implies_true, forall_and, not_true_eq_false, and_true]

end ClassModel

/-! ## Runs that accept every class -/

namespace Selection

/-- Accepting every class offered chooses them all, in order. -/
theorem resolve_names (classes : List ClassModel) :
    resolve classes (classes.map ClassModel.name) = classes := by
  induction classes with
  | nil => rfl
  | cons c rest ih => simp only [List.map_cons, resolve, takeNamed, if_true, ih]

theorem pickedLabels_items (title : Text) (classes : List ClassModel) :
    Request.pickedLabels ⟨title, classes.map fun c => ⟨c.name, true⟩⟩ =
      classes.map ClassModel.name := by
  have hpicked : (classes.map fun c => (⟨c.name, true⟩ : Item)).filter (·.picked) =
      classes.map fun c => ⟨c.name, true⟩ := by
    rw [List.filter_eq_self]
    simp
  rw [Request.pickedLabels, hpicked, List.map_map]
  rfl

end Selection

/-- A run that accepts every class offered plans edits for the classes that lack an accessor. -/
theorem generateAll_eq {source : Text} {options : Options} {models : List ClassModel}
    (h : Extract.ofSource options.visibility source = .ok models) :
    generateAll source options =
      match models.filter (·.isCandidate options.kinds) with
      | [] => .error .allAlreadyCovered
      | c :: rest => Generate.applyPlan source options (c :: rest) := by
  rw [generateAll, generate, Generate.offer, h]
  simp only [bind, Except.bind, Selection.offer]
  cases models.filter (·.isCandidate options.kinds) with
  | nil => rfl
  | cons c rest =>
    simp only [Generate.finish, Selection.acceptPicked, Selection.settle,
      Selection.pickedLabels_items, Selection.resolve_names]

/-- Such a run finds every class covered exactly when no class lacks an accessor. -/
theorem generateAll_eq_allAlreadyCovered {source : Text} {options : Options}
    {models : List ClassModel} (h : Extract.ofSource options.visibility source = .ok models) :
    generateAll source options = .error .allAlreadyCovered ↔
      ∀ c ∈ models, c.missing options.kinds = [] := by
  have hnil : models.filter (·.isCandidate options.kinds) = [] ↔
      ∀ c ∈ models, c.missing options.kinds = [] := by
    simp only [List.filter_eq_nil_iff, ClassModel.isCandidate_iff, not_not]
  rw [generateAll_eq h, ← hnil]
  cases models.filter (·.isCandidate options.kinds) with
  | nil => simp
  | cons c rest =>
    simp only [reduceCtorEq, iff_false, Generate.applyPlan]
    split <;> simp

/-! ## A second run -/

/-- A class before and after a run: it has kept its name and its properties, and has the methods
that were planned for it besides its own. -/
structure ClassModel.Gains (kinds : Kinds) (before after : ClassModel) : Prop where
  name : after.name = before.name
  properties : after.properties = before.properties
  methodNames : after.methodNames.Perm
    (before.methodNames ++ (before.missing kinds).map Accessor.name)

theorem ClassModel.Gains.hasMethod {kinds : Kinds} {before after : ClassModel}
    (h : Gains kinds before after) (wanted : Text) :
    after.hasMethod wanted =
      (before.hasMethod wanted ||
        (before.missing kinds).any fun a => decide (Text.lower a.name = wanted)) := by
  rw [ClassModel.hasMethod, h.methodNames.any_eq, List.any_append, List.any_map]
  rfl

/-- After a run that shows the methods it added, a second run finds every class covered exactly when
each accessor asked for has the name that coverage looks for. -/
theorem generateAll_of_gains {output : Text} {options : Options} {models models' : List ClassModel}
    (h : Extract.ofSource options.visibility output = .ok models')
    (hgains : List.Forall₂ (ClassModel.Gains options.kinds) models models') :
    generateAll output options = .error .allAlreadyCovered ↔
      ∀ c ∈ models, ∀ p ∈ c.properties, ∀ a ∈ options.kinds.accessors p,
        c.hasMethod a.key = true ∨ ∃ b ∈ c.missing options.kinds, Text.lower b.name = a.key := by
  rw [generateAll_eq_allAlreadyCovered h]
  clear h
  induction hgains with
  | nil => simp
  | cons hc _ ih =>
    rw [List.forall_mem_cons, ih, List.forall_mem_cons, ClassModel.missing_eq_nil, hc.properties]
    simp only [hc.hasMethod, Bool.or_eq_true, List.any_eq_true, decide_eq_true_eq]

/-- A class without methods gets both accessors of its property in a first run, and a second run
finds it covered. -/
theorem generateAll_of_gains_both :
    let source := "<?php\nclass A \x7b\n    private $a;\n\x7d\n".toList
    let output :=
      "<?php\nclass A \x7b\n    private $a;\n\n    public function getA() \x7b\n".toList ++
        "        return $this->a;\n    \x7d\n\n    public function setA($a) \x7b\n".toList ++
        "        $this->a = $a;\n    \x7d\n\n\x7d\n".toList
    let options : Options := ⟨.both, .isPrivate, 4⟩
    let before : ClassModel := ⟨"A".toList, 1, 3, 0, [⟨"a".toList, none⟩], []⟩
    let after : ClassModel :=
      ⟨"A".toList, 1, 12, 0, [⟨"a".toList, none⟩], ["getA".toList, "setA".toList]⟩
    Extract.ofSource .isPrivate source = .ok [before] ∧
      Generation.output? (generateAll source options) = some output ∧
      Extract.ofSource .isPrivate output = .ok [after] ∧ before.Gains options.kinds after ∧
      generateAll output options = .error .allAlreadyCovered := by
  intro source output options before after
  have hgains : before.Gains options.kinds after := ⟨rfl, rfl, by decide +kernel⟩
  -- the runs are evaluated together: they share most of their work
  obtain ⟨hfirst, hrun, hsecond, hcovered⟩ :
      Extract.ofSource .isPrivate source = .ok [before] ∧
        Generation.output? (generateAll source options) = some output ∧
        Extract.ofSource options.visibility output = .ok [after] ∧
        ∀ c ∈ [before], ∀ p ∈ c.properties, ∀ a ∈ options.kinds.accessors p,
          c.hasMethod a.key = true ∨
            ∃ b ∈ c.missing options.kinds, Text.lower b.name = a.key := by
    decide +kernel
  exact ⟨hfirst, hrun, hsecond, hgains,
    (generateAll_of_gains hsecond (.cons hgains .nil)).2 hcovered⟩

/-! ## Where a second run edits again -/

/-- The getter of a property whose name has no upper case of one character is not found again: the
second run adds it once more. -/
theorem second_run_edits_again :
    let source := "<?php\nclass A \x7b\n    private $ß;\n\x7d\n".toList
    let options : Options := ⟨.gettersOnly, .isPrivate, 4⟩
    ∃ planned edits output, generateAll source options = .ok (.edited planned edits output) ∧
      generateAll output options ≠ .error .allAlreadyCovered := by
  intro source options
  let output :=
    "<?php\nclass A \x7b\n    private $ß;\n\n    public function getSS() \x7b\n".toList ++
      "        return $this->ß;\n    \x7d\n\n\x7d\n".toList
  obtain ⟨houtput, hagain⟩ : Generation.output? (generateAll source options) = some output ∧
      generateAll output options ≠ .error .allAlreadyCovered := by
    decide +kernel
  obtain ⟨planned, edits, hrun⟩ := Generation.exists_of_output? houtput
  exact ⟨planned, edits, output, hrun, hagain⟩

/-- Methods inserted into a comment that ends on the line of the closing brace are swallowed: the
output parses, and the class has no methods in it. -/
theorem methods_swallowed_by_comment :
    let source := "<?php\nclass A \x7b\n    private $a; /* note\n*/ \x7d\n".toList
    let options : Options := ⟨.gettersOnly, .isPrivate, 4⟩
    ∃ planned edits output, generateAll source options = .ok (.edited planned edits output) ∧
      (Syntax.Program.parse? output).isSome = true ∧
      ∃ before after, Extract.ofSource .isPrivate source = .ok [before] ∧
        Extract.ofSource .isPrivate output = .ok [after] ∧
        before.missing options.kinds ≠ [] ∧ after.methodNames = before.methodNames := by
  intro source options
  let output :=
    "<?php\nclass A \x7b\n    private $a; /* note\n\n    public function getA() \x7b\n".toList ++
      "        return $this->a;\n    \x7d\n\n*/ \x7d\n".toList
  let before : ClassModel := ⟨"A".toList, 1, 3, 3, [⟨"a".toList, none⟩], []⟩
  let after : ClassModel := ⟨"A".toList, 1, 8, 3, [⟨"a".toList, none⟩], []⟩
  obtain ⟨houtput, hparse, hbefore, hafter, hmissing⟩ :
      Generation.output? (generateAll source options) = some output ∧
        (Syntax.Program.parse? output).isSome = true ∧
        Extract.ofSource .isPrivate source = .ok [before] ∧
        Extract.ofSource .isPrivate output = .ok [after] ∧
        before.missing options.kinds ≠ [] := by
    decide +kernel
  obtain ⟨planned, edits, hrun⟩ := Generation.exists_of_output? houtput
  exact ⟨planned, edits, output, hrun, hparse, before, after, hbefore, hafter, hmissing, rfl⟩

end Accessors
