import Accessors.Generate
import Accessors.Proofs.Plan.Layout
import Mathlib.Data.List.Perm.Subperm

/-!
# Edits stay inside their classes

The edits planned for classes that lie apart in a text are accepted as a batch, each of them lies
between the keyword and the closing brace of its class, and whatever is outside the chosen classes
is still there afterwards, in the same order.

* `Rewritten`: a text changed between the keywords and the closing braces of classes only.
* `Plan.span_of_edit?`: the edit of a class starts behind its keyword and ends at its brace or
  before.
* `Layout.rewritten`: a woven text is changed inside its classes only.
* `Standing.batch_confined`: all this for a batch of any selection, and for whole runs.
-/

namespace Accessors

open Document Text

/-! ## Texts changed inside classes -/

/-- The second text is the first one, which starts at an offset, with the stretches from the
keywords of classes up to their closing braces replaced. -/
inductive Rewritten : Nat → List Site → Text → Text → Prop
  | done (n : Nat) (t : Text) : Rewritten n [] t t
  | step {n : Nat} {s : Site} {sites : List Site} {gap body rest rest' : Text} (body' : Text)
      (hk : s.keyword = n + byteLength gap) (hb : s.closing = s.keyword + byteLength body)
      (h : Rewritten s.closing sites rest rest') :
      Rewritten n (s :: sites) (gap ++ body ++ rest) (gap ++ body' ++ rest')

/-- A stretch of the text that none of the classes reaches is still there. -/
theorem Rewritten.isInfix {n : Nat} {sites : List Site} {t t' : Text}
    (h : Rewritten n sites t t') {x w y : Text} (ht : t = x ++ w ++ y)
    (hout : ∀ s ∈ sites, s.closing < n + byteLength x ∨ n + byteLength (x ++ w) ≤ s.keyword) :
    w <:+: t' := by
  induction h generalizing x y with
  | done n t => exact ⟨x, y, ht.symm⟩
  | @step n s sites gap body rest rest' body' hk hb _ ih =>
    rcases hout s List.mem_cons_self with hs | hs
    · -- the class ends in front of the stretch
      obtain ⟨z, rfl, hrest⟩ := append_eq_append_of_byteLength_le
        (s := gap ++ body) (t := rest) (u := x) (v := w ++ y)
        (by rw [ht, List.append_assoc]) (by rw [byteLength_append]; omega)
      have hw : w <:+: rest' := by
        refine ih (x := z) (y := y) (by rw [hrest, List.append_assoc]) fun s' hs' => ?_
        have := hout s' (List.mem_cons_of_mem _ hs')
        simp only [byteLength_append] at this ⊢
        omega
      exact hw.trans (List.suffix_append _ _).isInfix
    · -- the stretch ends in front of the class
      obtain ⟨z, rfl, -⟩ := append_eq_append_of_byteLength_le
        (s := x ++ w) (t := y) (u := gap) (v := body ++ rest)
        (by rw [← ht, List.append_assoc]) (by omega)
      exact ⟨x, z ++ body' ++ rest', by simp⟩

/-- A class of the text that lies apart from all of the classes is still there. -/
theorem Rewritten.slice_isInfix {sites : List Site} {source output : Text}
    (h : Rewritten 0 sites source output) {s : Site} (hs : s.In source)
    (hout : ∀ s' ∈ sites, s'.Apart s) :
    sliceBytes source s.keyword (s.closing + 1) <:+: output := by
  obtain ⟨pre, body, post, hsource, -, hk, hb⟩ := hs
  have hbrace : byteLength (body ++ ['\x7d']) = byteLength body + 1 := by
    rw [byteLength_append]
    rfl
  have hsplit : source = pre ++ (body ++ ['\x7d']) ++ post := by
    rw [hsource]
    simp
  have hslice : sliceBytes source s.keyword (s.closing + 1) = body ++ ['\x7d'] := by
    rw [hsplit, hk, hb, byteLength_append, Nat.add_assoc, ← hbrace, sliceBytes_append]
  rw [hslice]
  refine h.isInfix hsplit fun s' hs' => ?_
  have hapart := hout s' hs'
  rw [byteLength_append] at hb
  rw [Site.Apart, hk, hb] at hapart
  rw [byteLength_append, hbrace]
  omega

/-- The woven text of a layout is changed inside the classes only. -/
theorem Layout.rewritten (kinds : Kinds) (tabSize : Nat) (eol tail : Text) (gs : List Segment)
    (n : Nat) : Rewritten n (sites n gs) (text tail gs) (woven kinds tabSize eol tail gs) := by
  induction gs generalizing n with
  | nil => exact .done n tail
  | cons g gs ih => exact .step _ rfl rfl (ih _)

/-! ## The edit of a class -/

/-- The edit planned for a class fits into the text, and lies between the keyword and the closing
brace. -/
theorem Plan.fits_of_edit? {kinds : Kinds} {tabSize : Nat} {source : Text} {s : Site}
    (hin : s.In source) (hclosing : s.closing < 2 ^ 32) {e : Edit}
    (he : edit? kinds tabSize (ofText source) (s.model (ofText source)) = some e) :
    e.Fits source ∧ s.keyword < e.startOffset ∧ e.stopOffset ≤ s.closing := by
  obtain ⟨pre, body, post, rfl, hopen, hk, hb⟩ := hin
  rw [edit?_append kinds tabSize post hopen hk hb] at he
  split at he
  · cases he
  cases he
  rw [hb, byteLength_append] at hclosing
  obtain ⟨kept, dropped, rest, hbody, hkept, hstart, hstop, -⟩ :=
    s.exists_edit kinds tabSize (ofText (pre ++ body ++ '\x7d' :: post)).lineEnding.text
      (n := byteLength pre) hopen hclosing
  have hpos := byteLength_pos hkept
  have hlength := congrArg byteLength hbody
  simp only [byteLength_append] at hlength hb
  have hfront : pre ++ body ++ '\x7d' :: post =
      (pre ++ kept) ++ (dropped ++ (rest ++ '\x7d' :: post)) := by
    rw [hbody]
    simp
  have hmiddle : pre ++ body ++ '\x7d' :: post =
      (pre ++ kept ++ dropped) ++ (rest ++ '\x7d' :: post) := by
    rw [hbody]
    simp
  refine ⟨⟨?_, ?_, ?_, ?_⟩, ?_, ?_⟩
  · omega
  · rw [hstop, byteLength_append, byteLength_append]
    omega
  · rw [hstart, hfront, ← byteLength_append]
    exact isBoundary_append _ _
  · rw [hstop, hmiddle, ← byteLength_append, ← byteLength_append]
    exact isBoundary_append _ _
  · omega
  · omega

/-- The edit planned for a class lies between its keyword and its closing brace. -/
theorem Plan.span_of_edit? (kinds : Kinds) (tabSize : Nat) {source : Text} {s : Site}
    (hin : s.In source) (hlen : byteLength source < 2 ^ 32) {e : Edit}
    (he : Plan.edit? kinds tabSize (ofText source) (s.model (ofText source)) = some e) :
    s.keyword < e.startOffset ∧ e.startOffset ≤ e.stopOffset ∧ e.stopOffset ≤ s.closing := by
  obtain ⟨hfits, hstart, hstop⟩ := fits_of_edit? hin (Nat.lt_trans hin.closing_lt hlen) he
  exact ⟨hstart, hfits.start_le, hstop⟩

/-! ## The classes of a run -/

section Runs

variable {d : Document}

/-- A declared class by its offsets. -/
def Syntax.ClassDecl.site (wanted : Visibility) (d : Document) (c : ClassDecl Statement) : Site where
  name := c.name
  properties := Extract.properties wanted d c.members
  methodNames := Extract.methodNames c.members
  keyword := c.keyword
  closing := c.closing

theorem Extract.classModel?_eq_some {wanted : Visibility} {c : Syntax.ClassDecl Syntax.Statement}
    {m : ClassModel} (h : classModel? wanted d c = some m) : m = (c.site wanted d).model d := by
  rw [classModel?] at h
  split at h
  · cases h
  · cases h
    rfl

/-- The models of declared classes are models of some of them, in order. -/
theorem Extract.exists_filterMap (wanted : Visibility)
    (classes : List (Syntax.ClassDecl Syntax.Statement)) :
    ∃ sites : List Site, sites.Sublist (classes.map (Syntax.ClassDecl.site wanted d)) ∧
      classes.filterMap (classModel? wanted d) = sites.map (Site.model d) := by
  induction classes with
  | nil => exact ⟨[], List.Sublist.refl _, rfl⟩
  | cons c classes ih =>
    obtain ⟨sites, hsub, hmap⟩ := ih
    cases hc : classModel? wanted d c with
    | none => exact ⟨sites, hsub.cons _, by rw [List.filterMap_cons, hc, hmap]⟩
    | some m =>
      refine ⟨c.site wanted d :: sites, hsub.cons_cons _, ?_⟩
      rw [List.filterMap_cons, hc, hmap, classModel?_eq_some hc]
      rfl

/-- Taking a class by its name from models of sites takes the model of one of the sites. -/
theorem Selection.takeNamed_map {label : Text} {sites : List Site} {c : ClassModel}
    {others : List ClassModel} (h : takeNamed label (sites.map (Site.model d)) = some (c, others)) :
    ∃ s sites', c = s.model d ∧ others = sites'.map (Site.model d) ∧ (s :: sites').Perm sites := by
  induction sites generalizing c others with
  | nil => cases h
  | cons s sites ih =>
    rw [List.map_cons, takeNamed] at h
    split at h
    · cases h
      exact ⟨s, sites, rfl, rfl, List.Perm.refl _⟩
    · obtain ⟨⟨c', others'⟩, hfound, heq⟩ := Option.map_eq_some_iff.1 h
      cases heq
      obtain ⟨s', sites', hc, hothers, hperm⟩ := ih hfound
      exact ⟨s', s :: sites', hc, by rw [hothers]; rfl,
        (List.Perm.swap s s' sites').trans (hperm.cons s)⟩

/-- The classes that labels stand for are distinct ones of those offered, whatever the labels. -/
theorem Selection.exists_resolve (labels : List Text) (sites : List Site) :
    ∃ chosen : List Site, List.Subperm chosen sites ∧
      resolve (sites.map (Site.model d)) labels = chosen.map (Site.model d) := by
  induction labels generalizing sites with
  | nil => exact ⟨[], List.nil_subperm, rfl⟩
  | cons label labels ih =>
    rw [resolve]
    split
    · rename_i c rest hfound
      obtain ⟨s, sites', rfl, rfl, hperm⟩ := takeNamed_map hfound
      obtain ⟨chosen, hsub, hmap⟩ := ih sites'
      exact ⟨s :: chosen, ((List.subperm_cons s).2 hsub).trans hperm.subperm, by rw [hmap]; rfl⟩
    · exact ih sites

/-- What a run offers are classes of the program; before the offer no edit is refused. -/
theorem Generate.offer_cases {source : Text} (options : Options) {program : Syntax.Program}
    (hparse : Syntax.Program.parse? source = some program) :
    (∃ (o : Selection.Offer) (sites : List Site), offer source options = .ok o ∧
      sites.Sublist
        (program.classes.map (Syntax.ClassDecl.site options.visibility (ofText source))) ∧
      o.candidates = sites.map (Site.model (ofText source))) ∨
    ∃ f : Failure, offer source options = .error f ∧ ∀ e, f ≠ .rejectedEdits e := by
  obtain ⟨sites, hsites, hmodels⟩ :=
    Extract.exists_filterMap (d := ofText source) options.visibility program.classes
  rw [offer, Extract.ofSource, hparse]
  simp only [Extract.classModels]
  split
  · exact Or.inr ⟨_, rfl, by simp⟩
  · split
    · exact Or.inr ⟨_, rfl, by simp⟩
    · rw [hmodels]
      simp only [bind, Except.bind, Selection.offer, List.filter_map]
      split
      · exact Or.inr ⟨_, rfl, by simp⟩
      · exact Or.inl ⟨_, _, rfl, List.filter_sublist.trans hsites, rfl⟩

/-- A run with refused edits has planned them for distinct classes of the program. -/
theorem exists_applyPlan {source : Text} {options : Options}
    {answer : Selection.Request → Selection.Response} {program : Syntax.Program} {e : EditError}
    (hparse : Syntax.Program.parse? source = some program)
    (hgen : generate source options answer = .error (.rejectedEdits e)) :
    ∃ chosen : List Site,
      List.Subperm chosen
        (program.classes.map (Syntax.ClassDecl.site options.visibility (ofText source))) ∧
      Generate.applyPlan source options (chosen.map (Site.model (ofText source))) =
        .error (.rejectedEdits e) := by
  rw [generate] at hgen
  rcases Generate.offer_cases options hparse with ⟨o, sites, ho, hsites, hcandidates⟩ | ⟨f, hf, hne⟩
  · rw [ho] at hgen
    simp only [bind, Except.bind, Generate.finish] at hgen
    cases hanswer : answer o.request with
    | dismissed =>
      rw [hanswer] at hgen
      cases hgen
    | accepted labels =>
      obtain ⟨chosen, hsub, hmap⟩ :=
        Selection.exists_resolve (d := ofText source) labels sites
      rw [hanswer, Selection.settle, hcandidates, hmap] at hgen
      refine ⟨chosen, hsub.trans hsites.subperm, ?_⟩
      cases chosen with
      | nil => cases hgen
      | cons s chosen => exact hgen
  · rw [hf] at hgen
    cases hgen
    exact absurd rfl (hne e)

end Runs

/-! ## Confinement -/

namespace Standing

variable {source : Text} {sites : List Site}

/-- The batch of a selection is accepted, and changes the text inside the chosen classes only. -/
theorem exists_batch (h : Standing source sites) (hlen : byteLength source < 2 ^ 32) (kinds : Kinds)
    (tabSize : Nat) :
    ∃ ordering output, ordering.Perm sites ∧
      Edit.applyAll source ((Plan.planAll kinds tabSize (ofText source)
          (sites.map (Site.model (ofText source)))).map (PlannedEdit.toEdit (ofText source))) =
        .ok output ∧ Rewritten 0 ordering source output := by
  obtain ⟨tail, gs, rfl, hperm, hsound⟩ := h.exists_layout
  exact ⟨_, _, hperm, Layout.batch_eq kinds tabSize hsound hlen hperm.symm _ rfl,
    Layout.rewritten ..⟩

/-- A run over a text in which the parser finds classes that lie apart has no edits refused. -/
theorem generate_ne_rejectedEdits (hlen : byteLength source < 2 ^ 32) {options : Options}
    {program : Syntax.Program} (hparse : Syntax.Program.parse? source = some program)
    (h : Standing source
      (program.classes.map (Syntax.ClassDecl.site options.visibility (ofText source))))
    (answer : Selection.Request → Selection.Response) (e : EditError) :
    generate source options answer ≠ .error (.rejectedEdits e) := by
  intro hgen
  obtain ⟨chosen, ⟨chosen', hperm, hsub⟩, hplan⟩ := exists_applyPlan hparse hgen
  have hchosen := h.choose (fun s hs => hsub.subset (hperm.symm.subset hs))
    (hperm.nodup_iff.1 (hsub.nodup h.nodup))
  obtain ⟨-, output, -, hbatch, -⟩ := hchosen.exists_batch hlen options.kinds options.tabSize
  rw [Generate.applyPlan, hbatch] at hplan
  cases hplan

/-- Confinement. For classes that lie apart in a text and any selection of them in any order: each
planned edit lies between the keyword and the closing brace of its class, the batch is accepted, the
text outside the chosen classes stays as it is and in the same order, and so does each class that
is not chosen. If the classes are those of the text's program, no run has its edits refused. -/
theorem batch_confined (hlen : byteLength source < 2 ^ 32) (h : Standing source sites)
    (kinds : Kinds) (tabSize : Nat) (chosen : List Site) (hsub : chosen ⊆ sites)
    (hnodup : chosen.Nodup) :
    (∀ s ∈ chosen, ∀ planned,
      Plan.planClass kinds tabSize (ofText source) (s.model (ofText source)) = some planned →
        s.keyword < (planned.toEdit (ofText source)).startOffset ∧
        (planned.toEdit (ofText source)).startOffset ≤
          (planned.toEdit (ofText source)).stopOffset ∧
        (planned.toEdit (ofText source)).stopOffset ≤ s.closing) ∧
    (∃ ordering output, ordering.Perm chosen ∧
      Edit.applyAll source ((Plan.planAll kinds tabSize (ofText source)
          (chosen.map (Site.model (ofText source)))).map (PlannedEdit.toEdit (ofText source))) =
        .ok output ∧
      Rewritten 0 ordering source output ∧
      ∀ s ∈ sites, s ∉ chosen → sliceBytes source s.keyword (s.closing + 1) <:+: output) ∧
    ∀ options program, Syntax.Program.parse? source = some program →
      sites = program.classes.map (Syntax.ClassDecl.site options.visibility (ofText source)) →
        ∀ answer e, generate source options answer ≠ .error (.rejectedEdits e) := by
  refine ⟨?_, ?_, ?_⟩
  · intro s hs planned hplanned
    exact Plan.span_of_edit? kinds tabSize (h.inside s (hsub hs)) hlen
      (by rw [Plan.edit?, hplanned]; rfl)
  · obtain ⟨ordering, output, hperm, hbatch, hrewritten⟩ :=
      (h.choose hsub hnodup).exists_batch hlen kinds tabSize
    refine ⟨ordering, output, hperm, hbatch, hrewritten, fun s hs hout => ?_⟩
    refine hrewritten.slice_isInfix (h.inside s hs) fun s' hs' => ?_
    have hne : s' ≠ s := by
      rintro rfl
      exact hout (hperm.subset hs')
    exact h.apart_of_mem (hsub (hperm.subset hs')) hs hne
  · rintro options program hparse rfl
    exact generate_ne_rejectedEdits hlen hparse h

/-- Of two classes that share a line the second one is chosen. -/
theorem batch_confined_second :
    let source := "<?php\nclass A \x7b private $a; \x7d class B \x7b\n  private $b;\n\x7d\n".toList
    let a : Site := ⟨"A".toList, [⟨"a".toList, none⟩], [], 6, 28⟩
    let b : Site := ⟨"B".toList, [⟨"b".toList, none⟩], [], 30, 54⟩
    (∃ output, Edit.applyAll source ((Plan.planAll ⟨true, false⟩ 4 (ofText source)
        ([b].map (Site.model (ofText source)))).map (PlannedEdit.toEdit (ofText source))) =
        .ok output ∧ sliceBytes source a.keyword (a.closing + 1) <:+: output) ∧
      ∀ answer e, generate source ⟨⟨true, false⟩, .isPrivate, 4⟩ answer ≠
        .error (.rejectedEdits e) := by
  intro source a b
  have hstanding : Standing source [a, b] := by
    refine ⟨?_, by simp [Site.Apart, a, b]⟩
    rintro s (_ | ⟨_, _ | ⟨_, ⟨⟩⟩⟩)
    · exact ⟨"<?php\n".toList, "class A \x7b private $a; ".toList,
        " class B \x7b\n  private $b;\n\x7d\n".toList, rfl, ⟨'c', _, rfl, rfl⟩, rfl, rfl⟩
    · exact ⟨"<?php\nclass A \x7b private $a; \x7d ".toList, "class B \x7b\n  private $b;\n".toList,
        "\n".toList, rfl, ⟨'c', _, rfl, rfl⟩, rfl, rfl⟩
  have hsites : (Syntax.Program.parse? source).map (fun program =>
      program.classes.map (Syntax.ClassDecl.site .isPrivate (ofText source))) = some [a, b] := by
    decide +kernel
  obtain ⟨program, hprogram, hclasses⟩ := Option.map_eq_some_iff.1 hsites
  obtain ⟨-, ⟨-, output, -, hbatch, -, hkept⟩, hrun⟩ :=
    batch_confined (by decide) hstanding ⟨true, false⟩ 4 [b] (by simp) (by simp)
  exact ⟨⟨output, hbatch, hkept a (by simp) (by decide)⟩,
    hrun ⟨⟨true, false⟩, .isPrivate, 4⟩ program hprogram hclasses.symm⟩

end Standing

end Accessors
