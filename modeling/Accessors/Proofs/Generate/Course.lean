import Accessors.Proofs.Generate.Rerun
import Accessors.Proofs.Plan.Kinds

/-!
# The course of a run

A run stops at the first thing it lacks: a syntax tree, a class, a qualifying property, an accessor
to add. If it lacks nothing it puts one request before the picker and goes on with the answer.

* `Syntax.ClassDecl.Qualifies`: a class declares a property of the wanted visibility.
* `ClassModel.Covered`: a class has every accessor asked for.
* `Selection.resolve_eq_nil_iff`: when labels choose nothing.
* `Picker`, `generateWith`: a run whose request is put before a picker with a state of its own.
* `Generate.offer_of_parse?`: what is offered, and why there may be nothing to offer.
* `generateWith_course`: how a run ends, and what the picker was shown.
-/

namespace Accessors

open Document Text
open Selection (Item Offer Request Response)
open Syntax (ClassDecl Member Program PropertyDecl Statement)

/-! ## Properties that qualify -/

theorem Syntax.Lexer.isWordStart_ne_dollar {c : Char} (h : Lexer.isWordStart c = true) :
    c ≠ '$' := by
  rintro rfl
  exact absurd h (by decide)

/-- Without its dollar sign a variable is a word. -/
theorem Syntax.Variable.dropWhile_text (v : Syntax.Variable) :
    v.text.dropWhile (· = '$') = v.word ∧ v.word ≠ [] := by
  obtain ⟨word, hstarts, hall⟩ := v
  cases word with
  | nil => cases hstarts
  | cons c word =>
    have hc : c ≠ '$' := Lexer.isWordStart_ne_dollar hstarts
    exact ⟨by simp [text, hc], by simp⟩

/-- Every property declaration stands for a property. -/
theorem Extract.property?_eq (d : Document) (p : PropertyDecl) :
    property? d p =
      some ⟨p.first.word, p.hint.map fun (start, stop) => sliceBytes d.text start stop⟩ := by
  obtain ⟨hdrop, hne⟩ := p.first.dropWhile_text
  rw [property?, hdrop]
  cases hword : p.first.word with
  | nil => exact absurd hword hne
  | cons c word => rfl

/-- The class declares a property of the wanted visibility. -/
def Syntax.ClassDecl.Qualifies (wanted : Visibility) (c : ClassDecl Statement) : Prop :=
  ∃ decl nested, Member.property decl nested ∈ c.members ∧ decl.qualifies wanted = true

theorem Extract.mem_properties {wanted : Visibility} {d : Document}
    {members : List (Member Statement)} {p : Property} :
    p ∈ properties wanted d members ↔
      ∃ decl nested, Member.property decl nested ∈ members ∧ decl.qualifies wanted = true ∧
        property? d decl = some p := by
  rw [properties, List.mem_filterMap]
  constructor
  · rintro ⟨m, hm, hp⟩
    cases m with
    | property decl nested =>
      simp only at hp
      split at hp
      · rename_i hq
        exact ⟨decl, nested, hm, hq, hp⟩
      · cases hp
    | method name nested => cases hp
    | other nested => cases hp
  · rintro ⟨decl, nested, hm, hq, hp⟩
    exact ⟨_, hm, by simp only [hq, if_true, hp]⟩

theorem Extract.properties_ne_nil {wanted : Visibility} {d : Document} {c : ClassDecl Statement} :
    properties wanted d c.members ≠ [] ↔ c.Qualifies wanted := by
  constructor
  · intro hne
    obtain ⟨p, hp⟩ := List.exists_mem_of_ne_nil _ hne
    obtain ⟨decl, nested, hm, hq, -⟩ := mem_properties.1 hp
    exact ⟨decl, nested, hm, hq⟩
  · rintro ⟨decl, nested, hm, hq⟩
    exact List.ne_nil_of_mem (mem_properties.2 ⟨decl, nested, hm, hq, property?_eq d decl⟩)

/-- A class has a model exactly when one of its properties qualifies. -/
theorem Extract.isSome_classModel? (wanted : Visibility) (d : Document) (c : ClassDecl Statement) :
    (classModel? wanted d c).isSome = true ↔ c.Qualifies wanted := by
  rw [← properties_ne_nil (d := d), classModel?]
  cases properties wanted d c.members with
  | nil => simp
  | cons p rest => simp

theorem Extract.filterMap_classModel?_ne_nil {wanted : Visibility} {d : Document}
    {classes : List (ClassDecl Statement)} :
    classes.filterMap (classModel? wanted d) ≠ [] ↔ ∃ c ∈ classes, c.Qualifies wanted := by
  rw [ne_eq, List.filterMap_eq_nil_iff]
  simp only [not_forall, ← Option.isSome_iff_ne_none, isSome_classModel?, exists_prop]

/-! ## Coverage -/

/-- Every property of the class has the accessors asked for. -/
def ClassModel.Covered (kinds : Kinds) (c : ClassModel) : Prop :=
  ∀ p ∈ c.properties,
    (kinds.getters = true → c.hasGetter p.name = true) ∧
      (kinds.setters = true → c.hasSetter p.name = true)

instance (kinds : Kinds) (c : ClassModel) : Decidable (c.Covered kinds) :=
  List.decidableBAll
    (fun p : Property => (kinds.getters = true → c.hasGetter p.name = true) ∧
      (kinds.setters = true → c.hasSetter p.name = true)) c.properties

theorem ClassModel.missing_eq_nil_iff_covered {kinds : Kinds} {c : ClassModel} :
    c.missing kinds = [] ↔ c.Covered kinds := by
  rw [missing_eq_nil]
  refine forall₂_congr fun p _ => ?_
  rw [show c.hasGetter p.name = c.hasMethod (Accessor.key ⟨.getter, p⟩) from rfl,
    show c.hasSetter p.name = c.hasMethod (Accessor.key ⟨.setter, p⟩) from rfl, Kinds.accessors]
  cases kinds.getters <;> cases kinds.setters <;> simp

theorem ClassModel.isCandidate_eq (kinds : Kinds) (c : ClassModel) :
    c.isCandidate kinds = decide (¬ c.Covered kinds) := by
  rw [Bool.eq_iff_iff, isCandidate_iff, ne_eq, missing_eq_nil_iff_covered, decide_eq_true_iff]

/-! ## Labels that choose nothing -/

namespace Selection

theorem mem_of_mem_resolve {pool : List ClassModel} {labels : List Text} {c : ClassModel}
    (h : c ∈ resolve pool labels) : c ∈ pool := by
  induction labels generalizing pool with
  | nil => cases h
  | cons label labels ih =>
    rw [resolve_cons, List.mem_append] at h
    rcases h with h | h
    · exact List.mem_of_find?_eq_some (Option.mem_toList.1 h)
    · exact List.mem_of_mem_eraseP (ih h)

/-- Labels choose nothing exactly when none of them is the name of a class in the pool. -/
theorem resolve_eq_nil_iff {pool : List ClassModel} {labels : List Text} :
    resolve pool labels = [] ↔ ∀ label ∈ labels, ∀ c ∈ pool, c.name ≠ label := by
  induction labels generalizing pool with
  | nil => simp [resolve]
  | cons label labels ih =>
    rw [resolve_cons, List.append_eq_nil_iff, ih, List.forall_mem_cons, Option.toList_eq_nil_iff,
      List.find?_eq_none]
    have hnamed : (∀ c ∈ pool, ¬ named label c = true) ↔ ∀ c ∈ pool, c.name ≠ label := by
      simp only [named, decide_eq_true_eq, ne_eq]
    rw [hnamed]
    refine and_congr_right fun hfree => ?_
    -- a label without a class takes nothing out of the pool
    rw [List.eraseP_of_forall_not (hnamed.2 hfree)]

end Selection

/-! ## What is offered -/

namespace Generate

/-- The request that offers classes. -/
def requestFor (kinds : Kinds) (offered : List ClassModel) : Request where
  title := "Select classes to generate ".toList ++ kinds.title
  items := offered.map fun m => ⟨m.name, true⟩

/-- The classes of a program that lack an accessor, in the order of their declarations. -/
def lackingOf (source : Text) (options : Options) (program : Program) : List ClassModel :=
  (program.classes.filterMap (Extract.classModel? options.visibility (ofText source))).filter
    fun m => ¬ m.Covered options.kinds

variable {source : Text} {options : Options} {program : Program}

theorem offer_of_parse?_none (h : Program.parse? source = none) :
    offer source options = .error .parseFailure := by
  rw [offer, Extract.ofSource, h]
  rfl

/-- What is offered for a file without a syntax error, and why there may be nothing to offer. -/
theorem offer_of_parse? (h : Program.parse? source = some program) :
    offer source options =
      if program.classes = [] then .error .noClassesFound
      else if program.classes.filterMap
          (Extract.classModel? options.visibility (ofText source)) = [] then
        .error (.noQualifyingProperties options.visibility)
      else if lackingOf source options program = [] then .error .allAlreadyCovered
      else .ok ⟨requestFor options.kinds (lackingOf source options program),
        lackingOf source options program⟩ := by
  rw [offer, Extract.ofSource, h]
  simp only [Extract.classModels]
  cases hclasses : program.classes with
  | nil => rfl
  | cons c rest =>
    simp only [reduceCtorEq, if_false, lackingOf, hclasses]
    cases hmodels : (c :: rest).filterMap
        (Extract.classModel? options.visibility (ofText source)) with
    | nil => rfl
    | cons m models =>
      simp only [reduceCtorEq, if_false, bind, Except.bind, Selection.offer,
        ClassModel.isCandidate_eq]
      cases hlacking : (m :: models).filter fun m => decide (¬ m.Covered options.kinds) with
      | nil => rfl
      | cons k lacking => rfl

theorem offer_eq_parseFailure :
    offer source options = .error .parseFailure ↔ Program.parse? source = none := by
  cases h : Program.parse? source with
  | none => simp [offer_of_parse?_none h]
  | some program =>
    rw [offer_of_parse? h]
    split_ifs <;> simp

theorem offer_eq_noClassesFound (h : Program.parse? source = some program) :
    offer source options = .error .noClassesFound ↔ program.classes = [] := by
  rw [offer_of_parse? h]
  split_ifs with hclasses <;> simp [hclasses]

theorem offer_eq_noQualifyingProperties (h : Program.parse? source = some program)
    (hclasses : program.classes ≠ []) (v : Visibility) :
    offer source options = .error (.noQualifyingProperties v) ↔
      v = options.visibility ∧ ∀ c ∈ program.classes, ¬ c.Qualifies options.visibility := by
  have hnone : (∀ c ∈ program.classes, ¬ c.Qualifies options.visibility) ↔
      program.classes.filterMap
        (Extract.classModel? options.visibility (ofText source)) = [] := by
    rw [← not_iff_not, ← ne_eq, Extract.filterMap_classModel?_ne_nil]
    simp
  rw [offer_of_parse? h, if_neg hclasses, hnone]
  split_ifs with hmodels <;> simp [hmodels, eq_comm]

theorem offer_eq_allAlreadyCovered (h : Program.parse? source = some program)
    (hsome : ∃ c ∈ program.classes, c.Qualifies options.visibility) :
    offer source options = .error .allAlreadyCovered ↔
      ∀ m ∈ program.classes.filterMap
        (Extract.classModel? options.visibility (ofText source)), m.Covered options.kinds := by
  have hclasses : program.classes ≠ [] := by
    obtain ⟨c, hc, -⟩ := hsome
    exact List.ne_nil_of_mem hc
  have hall : lackingOf source options program = [] ↔
      ∀ m ∈ program.classes.filterMap
        (Extract.classModel? options.visibility (ofText source)), m.Covered options.kinds := by
    simp only [lackingOf, List.filter_eq_nil_iff, decide_eq_true_eq, not_not]
  rw [offer_of_parse? h, if_neg hclasses,
    if_neg (Extract.filterMap_classModel?_ne_nil.2 hsome), ← hall]
  split_ifs with hlacking <;> simp [hlacking]

theorem offer_of_lackingOf (h : Program.parse? source = some program)
    (hlacking : lackingOf source options program ≠ []) :
    offer source options =
      .ok ⟨requestFor options.kinds (lackingOf source options program),
        lackingOf source options program⟩ := by
  have hmodels : program.classes.filterMap
      (Extract.classModel? options.visibility (ofText source)) ≠ [] := by
    intro hnil
    rw [lackingOf, hnil] at hlacking
    exact hlacking rfl
  have hclasses : program.classes ≠ [] := by
    intro hnil
    rw [hnil] at hmodels
    exact hmodels rfl
  rw [offer_of_parse? h, if_neg hclasses, if_neg hmodels, if_neg hlacking]

/-- Only four things stop a run in front of its request. -/
theorem offer_ne_error {f : Failure}
    (hf : f ≠ .parseFailure ∧ f ≠ .noClassesFound ∧ (∀ v, f ≠ .noQualifyingProperties v) ∧
      f ≠ .allAlreadyCovered) : offer source options ≠ .error f := by
  obtain ⟨hparse, hclasses, hqualifying, hcovered⟩ := hf
  cases h : Program.parse? source with
  | none =>
    rw [offer_of_parse?_none h]
    simpa using hparse.symm
  | some program =>
    rw [offer_of_parse? h]
    split_ifs
    · simpa using hclasses.symm
    · simpa using (hqualifying _).symm
    · simpa using hcovered.symm
    · simp

/-- What is offered is never nothing. -/
theorem offer_eq_ok {o : Offer} (h : offer source options = .ok o) :
    ∃ program, Program.parse? source = some program ∧
      lackingOf source options program ≠ [] ∧
      o = ⟨requestFor options.kinds (lackingOf source options program),
        lackingOf source options program⟩ := by
  cases hparse : Program.parse? source with
  | none =>
    rw [offer_of_parse?_none hparse] at h
    cases h
  | some program =>
    refine ⟨program, rfl, ?_⟩
    rw [offer_of_parse? hparse] at h
    split_ifs at h with _ _ hlacking
    cases h
    exact ⟨hlacking, rfl⟩

/-! ## After the answer -/

theorem applyPlan_ne_cancelled (chosen : List ClassModel) :
    applyPlan source options chosen ≠ .ok .cancelled := by
  rw [applyPlan]
  split <;> simp

theorem finish_accepted (o : Offer) (labels : List Text) :
    finish source options o (.accepted labels) =
      if Selection.resolve o.candidates labels = [] then .ok .cancelled
      else applyPlan source options (Selection.resolve o.candidates labels) := by
  rw [finish, Selection.settle]
  cases Selection.resolve o.candidates labels with
  | nil => rfl
  | cons c rest => rfl

/-- Once the answer is there a run fails for refused edits only. -/
theorem finish_eq_error {o : Offer} {response : Response} {f : Failure}
    (h : finish source options o response = .error f) : ∃ e, f = .rejectedEdits e := by
  cases response with
  | dismissed => cases h
  | accepted labels =>
    rw [finish_accepted] at h
    split_ifs at h
    rw [applyPlan] at h
    split at h
    · cases h
    · cases h
      exact ⟨_, rfl⟩

theorem finish_eq_cancelled (o : Offer) (response : Response) :
    finish source options o response = .ok .cancelled ↔
      response = .dismissed ∨ ∃ labels, response = .accepted labels ∧
        ∀ label ∈ labels, ∀ m ∈ o.candidates, m.name ≠ label := by
  cases response with
  | dismissed => exact iff_of_true rfl (Or.inl rfl)
  | accepted labels =>
    rw [finish_accepted]
    split_ifs with hchosen
    · exact iff_of_true rfl (Or.inr ⟨labels, rfl, Selection.resolve_eq_nil_iff.1 hchosen⟩)
    · refine iff_of_false (applyPlan_ne_cancelled _) ?_
      rintro (h | ⟨labels', h, hfree⟩)
      · cases h
      · cases h
        exact hchosen (Selection.resolve_eq_nil_iff.2 hfree)

/-- A run that edits has planned for offered classes. -/
theorem exists_chosen_of_edited {answer : Request → Response} {planned : List PlannedEdit}
    {edits : List Edit} {output : Text}
    (h : generate source options answer = .ok (.edited planned edits output)) :
    ∃ program, Program.parse? source = some program ∧
      ∃ chosen, chosen ≠ [] ∧ (∀ m ∈ chosen, m ∈ lackingOf source options program) ∧
        applyPlan source options chosen = .ok (.edited planned edits output) := by
  rw [generate] at h
  cases ho : offer source options with
  | error f =>
    rw [ho] at h
    cases h
  | ok o =>
    obtain ⟨program, hparse, -, rfl⟩ := offer_eq_ok ho
    rw [ho] at h
    simp only [bind, Except.bind] at h
    refine ⟨program, hparse, ?_⟩
    cases hanswer : answer (requestFor options.kinds (lackingOf source options program)) with
    | dismissed =>
      rw [hanswer] at h
      cases h
    | accepted labels =>
      rw [hanswer, finish_accepted] at h
      split_ifs at h with hnone
      · cases h
      · exact ⟨_, hnone, fun m hm => Selection.mem_of_mem_resolve hm, h⟩

/-- A plan for classes that lack an accessor is not empty. -/
theorem planAll_ne_nil {chosen : List ClassModel} (hne : chosen ≠ [])
    (hlack : ∀ m ∈ chosen, ¬ m.Covered options.kinds) (d : Document) :
    Plan.planAll options.kinds options.tabSize d chosen ≠ [] := by
  obtain ⟨m, hm⟩ := List.exists_mem_of_ne_nil _ hne
  have hmissing : m.missing options.kinds ≠ [] := fun h =>
    hlack m hm (ClassModel.missing_eq_nil_iff_covered.1 h)
  obtain ⟨e, he⟩ := Option.isSome_iff_exists.1
    (Plan.isSome_planClass options.tabSize d |>.2 hmissing)
  exact List.ne_nil_of_mem (List.mem_filterMap.2 ⟨m, hm, he⟩)

theorem not_covered_of_mem_lackingOf {m : ClassModel}
    (h : m ∈ lackingOf source options program) : ¬ m.Covered options.kinds :=
  of_decide_eq_true (List.mem_filter.1 h).2

end Generate

/-! ## Runs with a picker -/

/-- A picker is shown requests and answers them. It may keep what it has seen. -/
abbrev Picker (σ : Type) := Request → StateM σ Response

/-- A run whose request is put before a picker. -/
def generateWith {σ : Type} (picker : Picker σ) (source : Text) (options : Options) :
    StateM σ (Except Failure Generation) :=
  match Generate.offer source options with
  | .error failure => return .error failure
  | .ok o => return Generate.finish source options o (← picker o.request)

section Pickers

variable {σ : Type} (picker : Picker σ) (s : σ) {source : Text} {options : Options}

theorem run_generateWith_of_error {f : Failure} (h : Generate.offer source options = .error f) :
    (generateWith picker source options).run s = (.error f, s) := by
  rw [generateWith, h]
  rfl

theorem run_generateWith_of_ok {o : Offer} (h : Generate.offer source options = .ok o) :
    (generateWith picker source options).run s =
      (Generate.finish source options o ((picker o.request).run s).1,
        ((picker o.request).run s).2) := by
  rw [generateWith, h]
  rfl

/-- The run with a picker is the run with the answers that the picker gives. -/
theorem fst_run_generateWith (source : Text) (options : Options) :
    ((generateWith picker source options).run s).1 =
      generate source options fun r => ((picker r).run s).1 := by
  rw [generate]
  cases h : Generate.offer source options with
  | error f => rw [run_generateWith_of_error picker s h]; rfl
  | ok o => rw [run_generateWith_of_ok picker s h]; rfl

/-- Failures other than refused edits are those in front of the offer. -/
theorem run_generateWith_eq_error {f : Failure} (hf : ∀ e, f ≠ .rejectedEdits e) :
    ((generateWith picker source options).run s).1 = .error f ↔
      Generate.offer source options = .error f := by
  cases h : Generate.offer source options with
  | error f' =>
    rw [run_generateWith_of_error picker s h]
    simp only [Except.error.injEq]
  | ok o =>
    rw [run_generateWith_of_ok picker s h]
    refine iff_of_false (fun hfinish => ?_) (by simp)
    obtain ⟨e, he⟩ := Generate.finish_eq_error hfinish
    exact hf e he

end Pickers

/-- How a run ends, with any picker. A syntax error stops it first; then a file without classes,
without a property of the wanted visibility, or without an accessor to add. Until then the picker
has seen nothing. It is shown one request, with an item for each class that lacks an accessor, all
of them marked; the run is cancelled when the picker dismisses the request or accepts no label that
is the name of an offered class. Otherwise at least one edit is planned for the chosen classes, and
the run ends with the source to which these edits are applied, or with the reason why they are
refused. -/
theorem generateWith_course {σ : Type} (picker : Picker σ) (s : σ) (source : Text)
    (options : Options) :
    let run := (generateWith picker source options).run s
    let d := ofText source
    run.1 = generate source options (fun r => ((picker r).run s).1) ∧
    (run.1 = .error .parseFailure ↔ Program.parse? source = none) ∧
    (Program.parse? source = none → run.2 = s) ∧
    (∀ program, Program.parse? source = some program →
      let models := program.classes.filterMap (Extract.classModel? options.visibility d)
      let offered := models.filter fun m => ¬ m.Covered options.kinds
      (run.1 = .error .noClassesFound ↔ program.classes = []) ∧
      (program.classes ≠ [] → ∀ v, run.1 = .error (.noQualifyingProperties v) ↔
        v = options.visibility ∧ ∀ c ∈ program.classes, ¬ c.Qualifies options.visibility) ∧
      ((∃ c ∈ program.classes, c.Qualifies options.visibility) →
        (run.1 = .error .allAlreadyCovered ↔ ∀ m ∈ models, m.Covered options.kinds)) ∧
      (offered = [] → run.2 = s) ∧
      (offered ≠ [] →
        let asked := (picker ⟨"Select classes to generate ".toList ++ options.kinds.title,
          offered.map fun m => ⟨m.name, true⟩⟩).run s
        run.2 = asked.2 ∧
        (run.1 = .ok .cancelled ↔ asked.1 = .dismissed ∨ ∃ labels, asked.1 = .accepted labels ∧
          ∀ label ∈ labels, ∀ m ∈ offered, m.name ≠ label) ∧
        (∀ labels, asked.1 = .accepted labels →
          (∃ label ∈ labels, ∃ m ∈ offered, m.name = label) →
          let planned := Plan.planAll options.kinds options.tabSize d
            (Selection.resolve offered labels)
          let edits := planned.map (PlannedEdit.toEdit d)
          edits ≠ [] ∧
          run.1 = match Edit.applyAll source edits with
            | .ok output => .ok (.edited planned edits output)
            | .error e => .error (.rejectedEdits e)))) ∧
    run.1 ≠ .error .selectionCancelled ∧ run.1 ≠ .error .noActiveDocument := by
  intro run d
  have hfail : ∀ {f : Failure}, (∀ e, f ≠ .rejectedEdits e) →
      (run.1 = .error f ↔ Generate.offer source options = .error f) := fun hf =>
    run_generateWith_eq_error picker s hf
  have hstate : ∀ {f : Failure}, Generate.offer source options = .error f → run.2 = s := fun hf =>
    congrArg Prod.snd (run_generateWith_of_error picker s hf)
  refine ⟨fst_run_generateWith picker s source options, ?_, ?_, ?_, ?_, ?_⟩
  · rw [hfail (by simp), Generate.offer_eq_parseFailure]
  · exact fun hnone => hstate (Generate.offer_of_parse?_none hnone)
  · intro program hparse models offered
    refine ⟨?_, ?_, ?_, ?_, ?_⟩
    · rw [hfail (by simp), Generate.offer_eq_noClassesFound hparse]
    · intro hclasses v
      rw [hfail (by simp), Generate.offer_eq_noQualifyingProperties hparse hclasses]
    · intro hsome
      rw [hfail (by simp), Generate.offer_eq_allAlreadyCovered hparse hsome]
    · intro hnil
      cases ho : Generate.offer source options with
      | error f => exact hstate ho
      | ok o =>
        obtain ⟨program', hparse', hne, -⟩ := Generate.offer_eq_ok ho
        rw [hparse] at hparse'
        cases hparse'
        exact absurd hnil hne
    · intro hne asked
      have hrun := run_generateWith_of_ok picker s (Generate.offer_of_lackingOf hparse hne)
      have hresult : run.1 = Generate.finish source options
          ⟨Generate.requestFor options.kinds offered, offered⟩ asked.1 := congrArg Prod.fst hrun
      refine ⟨congrArg Prod.snd hrun, ?_, ?_⟩
      · rw [hresult, Generate.finish_eq_cancelled]
      · rintro labels hanswer ⟨label, hlabel, m, hm, hname⟩ planned edits
        have hchosen : Selection.resolve offered labels ≠ [] := fun h =>
          Selection.resolve_eq_nil_iff.1 h label hlabel m hm hname
        have hplanned : planned ≠ [] := Generate.planAll_ne_nil hchosen (fun m' hm' =>
          Generate.not_covered_of_mem_lackingOf (Selection.mem_of_mem_resolve hm')) d
        refine ⟨fun h => hplanned (List.map_eq_nil_iff.1 h), ?_⟩
        calc
          run.1 = Generate.applyPlan source options (Selection.resolve offered labels) := by
            rw [hresult, hanswer, Generate.finish_accepted, if_neg hchosen]
          _ = _ := rfl
  · rw [ne_eq, hfail (by simp)]
    exact Generate.offer_ne_error (by simp)
  · rw [ne_eq, hfail (by simp)]
    exact Generate.offer_ne_error (by simp)

end Accessors
