import Accessors.Proofs.Edit.Acceptance
import Accessors.Proofs.Generate.Rerun
import Accessors.Proofs.Plan.Confinement
import Accessors.Proofs.Plan.Kinds
import Accessors.Server.CodeAction

/-!
# Which actions are on offer

An action is on offer when its run edits. For classes that lie apart no batch of edits is refused,
so this is the case exactly when some class lacks an accessor of a kind that the action asks for.
The action for both kinds is therefore on offer exactly when one of the others is, and what it plans
for a class is what they plan, at the same place.

* `Standing.exists_applyAll`: the edits planned for classes that lie apart are accepted.
* `Extract.Apart`: the classes of a source lie apart.
* `exists_generateAll_eq_edited`, `CodeAction.exists_mem_all`: when an action is on offer.
* `CodeAction.both_eq_sum`: the action for both kinds and the actions for one.
-/

namespace Accessors

open Document Text

/-! ## Batches for classes that lie apart -/

/-- The edits planned for classes that lie apart are accepted. -/
theorem Standing.exists_applyAll {source : Text} {sites : List Site} (h : Standing source sites)
    (hclosing : ∀ s ∈ sites, s.closing < 2 ^ 32) (kinds : Kinds) (tabSize : Nat) :
    ∃ output, Edit.applyAll source ((Plan.planAll kinds tabSize (ofText source)
      (sites.map (Site.model (ofText source)))).map (PlannedEdit.toEdit (ofText source))) =
        .ok output := by
  have hfits : ∀ s ∈ sites, ∀ e,
      Plan.edit? kinds tabSize (ofText source) (s.model (ofText source)) = some e →
        e.Fits source ∧ s.keyword < e.startOffset ∧ e.stopOffset ≤ s.closing := fun s hs e he =>
    Plan.fits_of_edit? (h.inside s hs) (hclosing s hs) he
  rw [Plan.map_planAll, List.filterMap_map]
  refine ⟨_, Edit.applyAll_eq_patches (fun e he => ?_) ?_⟩
  · obtain ⟨s, hs, hse⟩ := List.mem_filterMap.1 he
    exact (hfits s hs e hse).1
  · rw [List.pairwise_filterMap]
    refine h.apart.imp_of_mem fun {a b} ha hb hab e he f hf => ?_
    obtain ⟨hafits, hastart, hastop⟩ := hfits a ha e he
    obtain ⟨hbfits, hbstart, hbstop⟩ := hfits b hb f hf
    have hale := hafits.start_le
    have hble := hbfits.start_le
    -- an edit stays inside its class, and the classes are apart
    rcases hab with hab | hab
    · exact Or.inl ⟨by omega, by omega⟩
    · exact Or.inr ⟨by omega, by omega⟩

/-! ## Actions on offer -/

/-- The classes of a source stand in it and lie apart, with offsets of 32 bits. -/
def Extract.Apart (wanted : Visibility) (source : Text) : Prop :=
  ∀ program, Syntax.Program.parse? source = some program →
    Standing source (program.classes.map (Syntax.ClassDecl.site wanted (ofText source))) ∧
      ∀ c ∈ program.classes, c.closing < 2 ^ 32

theorem Extract.ofSource_eq_ok {wanted : Visibility} {source : Text} {models : List ClassModel}
    (h : ofSource wanted source = .ok models) :
    ∃ program, Syntax.Program.parse? source = some program ∧
      models = program.classes.filterMap (classModel? wanted (ofText source)) := by
  rw [ofSource] at h
  split at h
  · cases h
  · rename_i program hparse
    refine ⟨program, hparse, ?_⟩
    rw [classModels] at h
    split at h
    · cases h
    · split at h
      · cases h
      · cases h
        rfl

/-- Where the classes of a source lie apart, the edits planned for some of them are accepted. -/
theorem Extract.Apart.exists_applyAll {wanted : Visibility} {source : Text}
    (hapart : Extract.Apart wanted source) {models : List ClassModel}
    (h : ofSource wanted source = .ok models) (p : ClassModel → Bool) (kinds : Kinds)
    (tabSize : Nat) :
    ∃ output, Edit.applyAll source ((Plan.planAll kinds tabSize (ofText source)
      (models.filter p)).map (PlannedEdit.toEdit (ofText source))) = .ok output := by
  obtain ⟨program, hparse, rfl⟩ := ofSource_eq_ok h
  obtain ⟨hstanding, hclosing⟩ := hapart program hparse
  obtain ⟨sites, hsites, hmodels⟩ :=
    exists_filterMap (d := ofText source) wanted program.classes
  have hsub : (sites.filter (p ∘ Site.model (ofText source))).Sublist
      (program.classes.map (Syntax.ClassDecl.site wanted (ofText source))) :=
    List.filter_sublist.trans hsites
  rw [hmodels, List.filter_map]
  refine Standing.exists_applyAll (hstanding.choose hsub.subset (hsub.nodup hstanding.nodup))
    (fun s hs => ?_) kinds tabSize
  obtain ⟨c, hc, rfl⟩ := List.mem_map.1 (hsub.subset hs)
  exact hclosing c hc

/-- Where classes lie apart, a run that accepts every class edits as soon as a class lacks an
accessor. -/
theorem exists_generateAll_eq_edited {source : Text} {options : Options}
    (hapart : Extract.Apart options.visibility source) :
    (∃ planned edits output, generateAll source options = .ok (.edited planned edits output)) ↔
      ∃ models, Extract.ofSource options.visibility source = .ok models ∧
        ∃ c ∈ models, c.isCandidate options.kinds = true := by
  cases h : Extract.ofSource options.visibility source with
  | error f =>
    have hrun : generateAll source options = .error f := by
      rw [generateAll, generate, Generate.offer, h]
      rfl
    rw [hrun]
    simp
  | ok models =>
    rw [generateAll_eq h]
    cases hfilter : models.filter (·.isCandidate options.kinds) with
    | nil =>
      rw [List.filter_eq_nil_iff] at hfilter
      refine iff_of_false (by simp) ?_
      rintro ⟨models', hmodels, c, hc, hcandidate⟩
      cases hmodels
      exact hfilter c hc hcandidate
    | cons c rest =>
      obtain ⟨output, hbatch⟩ :=
        hapart.exists_applyAll h (·.isCandidate options.kinds) options.kinds options.tabSize
      rw [hfilter] at hbatch
      have hmem := List.mem_filter.1 (hfilter ▸ List.mem_cons_self : c ∈ models.filter _)
      refine iff_of_true ?_ ⟨models, rfl, c, hmem⟩
      simp only [Generate.applyPlan, hbatch]
      exact ⟨_, _, _, rfl⟩

namespace CodeAction

theorem exists_mem_all (settings : ServerSettings) (source : Text) (action : Action) :
    (∃ a ∈ all settings source, a.action = action) ↔
      ∃ planned edits output,
        generateAll source ⟨action.kinds, settings.visibility, settings.tabSize⟩ =
          .ok (.edited planned edits output) := by
  constructor
  · rintro ⟨a, ha, rfl⟩
    obtain ⟨action, -, hof⟩ := List.mem_filterMap.1 ha
    rw [of?] at hof
    split at hof
    · rename_i planned edits output hrun
      cases hof
      exact ⟨planned, edits, output, hrun⟩
    · cases hof
  · rintro ⟨planned, edits, output, hrun⟩
    refine ⟨⟨action, planned.map (TextEdit.ofPlanned (ofText source))⟩, ?_, rfl⟩
    refine List.mem_filterMap.2 ⟨action, by cases action <;> decide, ?_⟩
    rw [of?]
    simp only [hrun]

/-- The action for both kinds is the sum of the actions for one. For every class, the accessors
planned for both kinds are, kind by kind, those planned for that kind alone, in the same order;
whatever the kinds, a plan puts the blocks of its accessors at the same place; and a class is
offered for both kinds exactly when it is for one of them. So where the classes of a document lie
apart, the action for both kinds is on offer exactly when one of the others is. -/
theorem both_eq_sum :
    (∀ (c : ClassModel) (source : Text) (tabSize : Nat),
      let d := ofText source
      let place := Plan.insertionPoint tabSize c d
      (∀ kind, (c.missing .both).filter (fun a => a.kind = kind) = c.missing (.only kind)) ∧
      (∀ kinds, Plan.planClass kinds tabSize d c = none ↔ c.missing kinds = []) ∧
      (∀ kinds e, Plan.planClass kinds tabSize d c = some e →
        e.insertAt = place.1 ∧ e.methods = (c.missing kinds).map Accessor.name ∧
        e.text = Plan.insertedText d.lineEnding.text place.2
          ((c.missing kinds).flatMap (Accessor.block tabSize d.lineEnding.text))) ∧
      (c.isCandidate .both = true ↔
        c.isCandidate .gettersOnly = true ∨ c.isCandidate .settersOnly = true)) ∧
    ∀ (settings : ServerSettings) (source : Text), Extract.Apart settings.visibility source →
      ((∃ a ∈ all settings source, a.action = .gettersAndSetters) ↔
        ∃ a ∈ all settings source, a.action = .getters ∨ a.action = .setters) := by
  constructor
  · intro c source tabSize d place
    refine ⟨fun kind => c.filter_missing kind, fun kinds => ?_, fun kinds e he => ?_,
      c.isCandidate_both⟩
    · rw [← Option.not_isSome_iff_eq_none, Plan.isSome_planClass, ne_eq, not_not]
    · rw [Plan.planClass_eq] at he
      exact Plan.adding_eq_some he
  · intro settings source hapart
    -- an action is on offer when a class is a candidate for its kinds
    have hoffer : ∀ action : Action, (∃ a ∈ all settings source, a.action = action) ↔
        ∃ models, Extract.ofSource settings.visibility source = .ok models ∧
          ∃ c ∈ models, c.isCandidate action.kinds = true := fun action =>
      (exists_mem_all settings source action).trans (exists_generateAll_eq_edited hapart)
    have hsplit : (∃ a ∈ all settings source, a.action = .getters ∨ a.action = .setters) ↔
        (∃ a ∈ all settings source, a.action = .getters) ∨
          ∃ a ∈ all settings source, a.action = .setters := by
      simp only [and_or_left, exists_or]
    rw [hsplit, hoffer, hoffer, hoffer]
    simp only [Action.kinds, ClassModel.isCandidate_both, and_or_left, exists_or]

/-- A class that has its getter: the action for setters is on offer, and so is the one for both. -/
theorem both_eq_sum_setter :
    let source := "<?php\nclass Foo \x7b\n    private int $id;\n\n".toList ++
      "    public function getId() \x7b\x7d\n\x7d\n".toList
    (∃ a ∈ all ⟨.isPrivate, 4⟩ source, a.action = .gettersAndSetters) ∧
      ¬ ∃ a ∈ all ⟨.isPrivate, 4⟩ source, a.action = .getters := by
  intro source
  let foo : Site := ⟨"Foo".toList, [⟨"id".toList, some "int".toList⟩], ["getId".toList], 6, 71⟩
  obtain ⟨hsites, hsetter, hgetter⟩ :
      (Syntax.Program.parse? source).map (fun program =>
          program.classes.map (Syntax.ClassDecl.site .isPrivate (ofText source))) = some [foo] ∧
        (all ⟨.isPrivate, 4⟩ source).any (fun a => a.action = .setters) = true ∧
        (all ⟨.isPrivate, 4⟩ source).any (fun a => a.action = .getters) = false := by
    decide +kernel
  have hstanding : Standing source [foo] := by
    refine ⟨?_, List.pairwise_singleton _ _⟩
    rintro s (_ | ⟨_, ⟨⟩⟩)
    refine ⟨"<?php\n".toList, "class Foo \x7b\n    private int $id;\n\n".toList ++
      "    public function getId() \x7b\x7d\n".toList, "\n".toList, rfl, ?_, rfl, rfl⟩
    exact ⟨'c', _, rfl, rfl⟩
  have hapart : Extract.Apart .isPrivate source := by
    intro program hparse
    rw [hparse, Option.map_some, Option.some.injEq] at hsites
    refine ⟨hsites ▸ hstanding, fun c hc => ?_⟩
    have hsite := List.mem_map_of_mem (f := Syntax.ClassDecl.site .isPrivate (ofText source)) hc
    rw [hsites, List.mem_singleton] at hsite
    have hclosing : c.closing = 71 := congrArg Site.closing hsite
    omega
  obtain ⟨a, ha, hsetters⟩ := List.any_eq_true.1 hsetter
  have hsingle : ∃ a ∈ all ⟨.isPrivate, 4⟩ source, a.action = .getters ∨ a.action = .setters :=
    ⟨a, ha, Or.inr (by simpa using hsetters)⟩
  refine ⟨(both_eq_sum.2 ⟨.isPrivate, 4⟩ source hapart).2 hsingle, ?_⟩
  rintro ⟨a, ha, hgetters⟩
  exact List.any_eq_false.1 hgetter a ha (by simpa using hgetters)

end CodeAction

end Accessors
