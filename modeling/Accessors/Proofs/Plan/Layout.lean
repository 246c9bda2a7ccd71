import Accessors.Proofs.Edit.Batch
import Accessors.Proofs.Plan.Excerpt
import Accessors.Proofs.Plan.Inserted
import Mathlib.Algebra.Group.Nat.Defs

/-!
# Classes laid out in a text

A text with several classes is a list of segments, each a text in front of a class and the class up
to its closing brace, with a tail behind the last class. On such a layout the edits planned for the
classes are explicit, and so is the text that the batch gives.

* `Segment`, `Layout.text`, `Layout.sites`: a layout, its text and its classes.
* `Layout.woven`: the text with the methods of every class inserted.
* `Layout.batch_eq`: the batch of all planned edits is accepted and gives the woven text.
* `Standing.exists_layout`: classes that lie apart in a text have a layout.
-/

namespace Accessors

open Document Text

/-! ## The edit of one class -/

namespace Site

/-- The accessors that the class lacks. -/
def missing (kinds : Kinds) (s : Site) : List Accessor := (s.model (ofText [])).missing kinds

theorem missing_model (kinds : Kinds) (d : Document) (s : Site) :
    (s.model d).missing kinds = s.missing kinds := rfl

/-- The text inserted for the class into its own text. -/
def insertion (kinds : Kinds) (tabSize : Nat) (eol body : Text) (s : Site) : Text :=
  Plan.insertedText eol (Plan.cut tabSize body).2.2
    ((s.missing kinds).flatMap (Accessor.block tabSize eol))

/-- The edit of the class, whose text starts at an offset `n`. -/
def edit (kinds : Kinds) (tabSize : Nat) (eol : Text) (n : Nat) (body : Text) (s : Site) : Edit :=
  Edit.replace (n + (Plan.cut tabSize body).1) (n + (Plan.cut tabSize body).2.1)
    (s.insertion kinds tabSize eol body)
    ("Generate ".toList ++ Text.join ", ".toList ((s.missing kinds).map Accessor.name) ++
      " in ".toList ++ s.name)

/-- The text of the class with its methods inserted. -/
def opened (kinds : Kinds) (tabSize : Nat) (eol body : Text) (s : Site) : Text :=
  if s.missing kinds = [] then body
  else takeBytes body (Plan.cut tabSize body).1 ++ s.insertion kinds tabSize eol body ++
    dropBytes body (Plan.cut tabSize body).2.1

end Site

namespace Plan

/-- The byte-span edit planned for a class, if it lacks an accessor. -/
def edit? (kinds : Kinds) (tabSize : Nat) (d : Document) (c : ClassModel) : Option Edit :=
  (planClass kinds tabSize d c).map (PlannedEdit.toEdit d)

theorem map_planAll (kinds : Kinds) (tabSize : Nat) (d : Document) (classes : List ClassModel) :
    (planAll kinds tabSize d classes).map (PlannedEdit.toEdit d) =
      classes.filterMap (edit? kinds tabSize d) := by
  rw [planAll, List.map_filterMap]
  rfl

/-- The edit planned for a class inside a document. -/
theorem edit?_append (kinds : Kinds) (tabSize : Nat) (post : Text) {pre body : Text} {s : Site}
    (hopen : Opens body) (hk : s.keyword = byteLength pre)
    (hb : s.closing = byteLength (pre ++ body)) :
    edit? kinds tabSize (ofText (pre ++ body ++ '\x7d' :: post))
        (s.model (ofText (pre ++ body ++ '\x7d' :: post))) =
      if s.missing kinds = [] then none
      else some (s.edit kinds tabSize
        (ofText (pre ++ body ++ '\x7d' :: post)).lineEnding.text (byteLength pre) body) := by
  have htarget := target_append post tabSize hopen hk hb
  generalize ofText (pre ++ body ++ '\x7d' :: post) = d at htarget
  rw [edit?, planClass, Site.missing_model]
  cases hmissing : s.missing kinds with
  | nil => rfl
  | cons a rest =>
    rw [target] at htarget
    simp only [Prod.mk.injEq] at htarget
    obtain ⟨hstart, hstop, hbreaks⟩ := htarget
    simp only [Option.map_some, PlannedEdit.toEdit, hstart, hstop, hbreaks, reduceCtorEq, if_false,
      Site.edit, Site.insertion, hmissing]
    rfl

end Plan

/-- Offsets of the edit of a class in its text, as long as they fit into 32 bits. -/
theorem Site.exists_edit (kinds : Kinds) (tabSize : Nat) (eol : Text) (s : Site) {n : Nat}
    {body : Text} (hopen : Plan.Opens body) (hlen : n + byteLength body < 2 ^ 32) :
    ∃ kept dropped rest, body = kept ++ dropped ++ rest ∧ kept ≠ [] ∧
      (s.edit kinds tabSize eol n body).startOffset = n + byteLength kept ∧
      (s.edit kinds tabSize eol n body).stopOffset = n + byteLength kept + byteLength dropped ∧
      (s.missing kinds ≠ [] →
        s.opened kinds tabSize eol body =
          kept ++ (s.edit kinds tabSize eol n body).replacement ++ rest) := by
  obtain ⟨kept, dropped, rest, hbody, hkept, hstart, hstop, -, -⟩ := Plan.exists_cut tabSize hopen
  have hle := congrArg byteLength hbody
  simp only [byteLength_append] at hle hstop
  refine ⟨kept, dropped, rest, hbody, hkept, ?_, ?_, fun hmissing => ?_⟩
  · rw [edit, Edit.startOffset, Edit.replace, hstart, UInt32.toNat_ofNat', Nat.mod_eq_of_lt]
    omega
  · rw [edit, Edit.stopOffset, Edit.replace, hstop, UInt32.toNat_ofNat', Nat.mod_eq_of_lt]
    · omega
    · omega
  · have htake : takeBytes body (byteLength kept) = kept := by
      rw [hbody, List.append_assoc, takeBytes_append]
    have hdrop : dropBytes body (byteLength (kept ++ dropped)) = rest := by
      rw [hbody, dropBytes_append]
    rw [opened, if_neg hmissing, hstart, hstop, ← byteLength_append, htake, hdrop]
    rfl

/-! ## Layouts -/

/-- A text in front of a class, and the class up to its closing brace. -/
structure Segment where
  gap : Text
  name : Text
  properties : List Property
  methodNames : List Text
  body : Text

/-- The class of a segment that starts at an offset. -/
def Segment.site (n : Nat) (g : Segment) : Site where
  name := g.name
  properties := g.properties
  methodNames := g.methodNames
  keyword := n + byteLength g.gap
  closing := n + byteLength g.gap + byteLength g.body

theorem Segment.missing_site (kinds : Kinds) (m n : Nat) (g : Segment) :
    (g.site m).missing kinds = (g.site n).missing kinds := rfl

namespace Layout

/-- The text of a layout. -/
def text (tail : Text) : List Segment → Text
  | [] => tail
  | g :: gs => g.gap ++ g.body ++ text tail gs

/-- The text of a layout with the methods of every class inserted. -/
def woven (kinds : Kinds) (tabSize : Nat) (eol tail : Text) : List Segment → Text
  | [] => tail
  | g :: gs =>
    g.gap ++ (g.site 0).opened kinds tabSize eol g.body ++ woven kinds tabSize eol tail gs

/-- The classes of a layout that starts at an offset. -/
def sites (n : Nat) : List Segment → List Site
  | [] => []
  | g :: gs => g.site n :: sites (n + byteLength g.gap + byteLength g.body) gs

/-- The edits of a layout that starts at an offset. -/
def edits (kinds : Kinds) (tabSize : Nat) (eol : Text) (n : Nat) : List Segment → List Edit
  | [] => []
  | g :: gs =>
    (if (g.site 0).missing kinds = [] then []
      else [(g.site 0).edit kinds tabSize eol (n + byteLength g.gap) g.body]) ++
      edits kinds tabSize eol (n + byteLength g.gap + byteLength g.body) gs

/-- The text between a class and the next one. -/
def gapBehind (tail : Text) : List Segment → Text
  | [] => tail
  | g :: _ => g.gap

/-- Classes start with their keywords, and closing braces follow them. -/
def Sound (tail : Text) : List Segment → Prop
  | [] => True
  | g :: gs =>
    Plan.Opens g.body ∧ (∃ rest, gapBehind tail gs = '\x7d' :: rest) ∧ Sound tail gs

theorem exists_text {tail : Text} {gs : List Segment}
    (h : ∃ rest, gapBehind tail gs = '\x7d' :: rest) : ∃ post, text tail gs = '\x7d' :: post := by
  obtain ⟨rest, hrest⟩ := h
  cases gs with
  | nil => exact ⟨rest, hrest⟩
  | cons g gs => exact ⟨rest ++ g.body ++ text tail gs, by rw [text, show g.gap = _ from hrest]; rfl⟩

theorem text_append (tail : Text) (gs hs : List Segment) :
    text tail (gs ++ hs) = text (text tail hs) gs := by
  induction gs with
  | nil => rfl
  | cons g gs ih => rw [List.cons_append, text, text, ih]

theorem woven_append (kinds : Kinds) (tabSize : Nat) (eol tail : Text) (gs hs : List Segment) :
    woven kinds tabSize eol tail (gs ++ hs) =
      woven kinds tabSize eol (woven kinds tabSize eol tail hs) gs := by
  induction gs with
  | nil => rfl
  | cons g gs ih => rw [List.cons_append, woven, woven, ih]

/-! ## The planned edits -/

/-- The edits planned for the classes of a layout, behind a front part. -/
theorem filterMap_sites (kinds : Kinds) (tabSize : Nat) (tail : Text) {gs : List Segment}
    (hsound : Sound tail gs) (front : Text) (d : Document) (hd : d = ofText (front ++ text tail gs)) :
    (sites (byteLength front) gs).filterMap (fun s => Plan.edit? kinds tabSize d (s.model d)) =
      edits kinds tabSize d.lineEnding.text (byteLength front) gs := by
  induction gs generalizing front with
  | nil => rfl
  | cons g gs ih =>
    obtain ⟨hopen, hbrace, hrest⟩ := hsound
    obtain ⟨post, hpost⟩ := exists_text hbrace
    have hd' : d = ofText ((front ++ g.gap) ++ g.body ++ '\x7d' :: post) := by
      rw [hd, text, hpost]
      simp
    have hedit := Plan.edit?_append kinds tabSize post (s := g.site (byteLength front)) hopen
      (byteLength_append front g.gap).symm (by rw [byteLength_append, byteLength_append]; rfl)
    rw [← hd', byteLength_append] at hedit
    have hih := ih hrest (front ++ g.gap ++ g.body) (by rw [hd, text]; simp)
    simp only [byteLength_append] at hih
    rw [sites, List.filterMap_cons, hedit, hih, edits]
    rw [Segment.missing_site kinds (byteLength front) 0]
    by_cases hmissing : (g.site 0).missing kinds = []
    · rw [if_pos hmissing, if_pos hmissing]
      rfl
    · rw [if_neg hmissing, if_neg hmissing]
      rfl

/-! ## Applying them -/

/-- What an edit of a layout says about its span. -/
theorem lt_start_of_mem_edits {kinds : Kinds} {tabSize : Nat} {eol tail : Text} {n : Nat}
    {gs : List Segment} (hsound : Sound tail gs) (hlen : n + byteLength (text tail gs) < 2 ^ 32)
    {e : Edit} (he : e ∈ edits kinds tabSize eol n gs) : n < e.startOffset := by
  induction gs generalizing n with
  | nil => cases he
  | cons g gs ih =>
    obtain ⟨hopen, -, hrest⟩ := hsound
    simp only [text, byteLength_append] at hlen
    rw [edits, List.mem_append] at he
    rcases he with he | he
    · split at he
      · cases he
      · obtain ⟨kept, dropped, rest, -, hkept, hstart, -, -⟩ :=
          (g.site 0).exists_edit kinds tabSize eol (n := n + byteLength g.gap) hopen (by omega)
        have := byteLength_pos hkept
        rw [List.mem_singleton.1 he, hstart]
        omega
    · have := ih hrest (by omega) he
      omega

/-- The edits of a layout lie apart, fit, and their splice is the woven text. -/
theorem splice_edits (kinds : Kinds) (tabSize : Nat) (eol tail : Text) {gs : List Segment}
    (hsound : Sound tail gs) (front : Text)
    (hlen : byteLength (front ++ text tail gs) < 2 ^ 32) :
    (edits kinds tabSize eol (byteLength front) gs).Pairwise Edit.Before ∧
      (∀ e ∈ edits kinds tabSize eol (byteLength front) gs, e.Fits (front ++ text tail gs)) ∧
      Edit.splice (byteLength front) (text tail gs)
          (edits kinds tabSize eol (byteLength front) gs) =
        woven kinds tabSize eol tail gs := by
  induction gs generalizing front with
  | nil => exact ⟨List.Pairwise.nil, by simp [edits], rfl⟩
  | cons g gs ih =>
    obtain ⟨hopen, -, hrest⟩ := hsound
    have hsame : front ++ text tail (g :: gs) = (front ++ g.gap ++ g.body) ++ text tail gs := by
      rw [text]
      simp
    rw [hsame] at hlen ⊢
    obtain ⟨hpair, hfits, hsplice⟩ := ih hrest (front ++ g.gap ++ g.body) hlen
    have hbehind : ∀ e ∈ edits kinds tabSize eol (byteLength (front ++ g.gap ++ g.body)) gs,
        byteLength (front ++ g.gap ++ g.body) < e.startOffset := fun e he =>
      lt_start_of_mem_edits hrest (by rwa [byteLength_append] at hlen) he
    have hstarts : ∀ e ∈ edits kinds tabSize eol (byteLength (front ++ g.gap ++ g.body)) gs,
        byteLength (front ++ g.gap ++ g.body) ≤ e.startOffset ∧ e.startOffset ≤ e.stopOffset :=
      fun e he => ⟨Nat.le_of_lt (hbehind e he), (hfits e he).start_le⟩
    have hn : byteLength front + byteLength g.gap + byteLength g.body =
        byteLength (front ++ g.gap ++ g.body) := by rw [byteLength_append, byteLength_append]
    rw [edits, hn, woven]
    by_cases hmissing : (g.site 0).missing kinds = []
    · rw [if_pos hmissing, List.nil_append, Site.opened, if_pos hmissing]
      refine ⟨hpair, hfits, ?_⟩
      have hlead : byteLength front + byteLength (g.gap ++ g.body) =
          byteLength (front ++ g.gap ++ g.body) := by simp
      rw [text, Edit.splice_append (by rwa [hlead]), hlead, hsplice]
    · rw [if_neg hmissing, List.singleton_append]
      obtain ⟨kept, dropped, rest, hbody, hkept, hstart, hstop, hopened⟩ :=
        (g.site 0).exists_edit kinds tabSize eol (n := byteLength front + byteLength g.gap)
          hopen (by simp only [byteLength_append] at hlen; omega)
      rw [hopened hmissing]
      generalize (g.site 0).edit kinds tabSize eol (byteLength front + byteLength g.gap) g.body = e
        at hstart hstop
      have hstop' : e.stopOffset + byteLength rest = byteLength (front ++ g.gap ++ g.body) := by
        rw [hstop, hbody]
        simp only [byteLength_append]
        omega
      refine ⟨List.pairwise_cons.2 ⟨fun f hf => ?_, hpair⟩, ?_, ?_⟩
      · have := hbehind f hf
        exact ⟨by omega, by omega⟩
      · intro f hf
        rcases List.mem_cons.1 hf with rfl | hf
        · refine ⟨by omega, by rw [byteLength_append]; omega, ?_, ?_⟩
          · rw [hbody, hstart, ← byteLength_append, ← byteLength_append]
            exact isBoundary_iff.2 ⟨_, dropped ++ rest ++ text tail gs, by simp, rfl⟩
          · rw [hbody, hstop, ← byteLength_append, ← byteLength_append, ← byteLength_append]
            exact isBoundary_iff.2 ⟨_, rest ++ text tail gs, by simp, rfl⟩
        · exact hfits f hf
      · have htext : text tail (g :: gs) = g.gap ++ kept ++ dropped ++ (rest ++ text tail gs) := by
          rw [text, hbody]
          simp
        rw [Edit.splice, htext,
          show e.startOffset - byteLength front = byteLength (g.gap ++ kept) by
            rw [hstart, byteLength_append]; omega,
          show e.stopOffset - byteLength front = byteLength (g.gap ++ kept ++ dropped) by
            rw [hstop, byteLength_append, byteLength_append]; omega,
          dropBytes_append, List.append_assoc (g.gap ++ kept) dropped, takeBytes_append,
          Edit.splice_append (by rwa [hstop']), hstop', hsplice]
        simp

/-- The batch of edits planned for the classes of a layout, in any order, is accepted and gives the
woven text. -/
theorem batch_eq (kinds : Kinds) (tabSize : Nat) {tail : Text} {gs : List Segment}
    (hsound : Sound tail gs) (hlen : byteLength (text tail gs) < 2 ^ 32) {chosen : List Site}
    (hperm : chosen.Perm (sites 0 gs)) (d : Document) (hd : d = ofText (text tail gs)) :
    Edit.applyAll (text tail gs)
        ((Plan.planAll kinds tabSize d (chosen.map (Site.model d))).map (PlannedEdit.toEdit d)) =
      .ok (woven kinds tabSize d.lineEnding.text tail gs) := by
  obtain ⟨hpair, hfits, hsplice⟩ :=
    splice_edits kinds tabSize d.lineEnding.text tail hsound [] (by simpa using hlen)
  have hedits := filterMap_sites kinds tabSize tail hsound [] d (by simpa using hd)
  simp only [List.nil_append, byteLength_nil] at hpair hfits hsplice hedits
  rw [Plan.map_planAll, List.filterMap_map, ← hsplice]
  refine Edit.applyAll_eq_splice ?_ hpair hfits
  rw [← hedits]
  exact hperm.filterMap _

end Layout

/-! ## Classes that lie apart -/

namespace Site

/-- The class stands in a text: its keyword starts with a character that is no blank, further on
there is its closing brace. -/
def In (source : Text) (s : Site) : Prop :=
  ∃ pre body post, source = pre ++ body ++ '\x7d' :: post ∧ Plan.Opens body ∧
    s.keyword = byteLength pre ∧ s.closing = byteLength (pre ++ body)

/-- Two classes share no character. -/
def Apart (a b : Site) : Prop := a.closing < b.keyword ∨ b.closing < a.keyword

theorem In.keyword_lt_closing {source : Text} {s : Site} (h : s.In source) :
    s.keyword < s.closing := by
  obtain ⟨pre, body, post, -, ⟨c, rest, rfl, -⟩, hk, hb⟩ := h
  have := byteLength_pos (List.cons_ne_nil c rest)
  rw [hk, hb, byteLength_append]
  omega

theorem In.closing_lt {source : Text} {s : Site} (h : s.In source) :
    s.closing < byteLength source := by
  obtain ⟨pre, body, post, rfl, -, -, hb⟩ := h
  have hpos := byteLength_pos (List.cons_ne_nil '\x7d' post)
  rw [hb, byteLength_append (pre ++ body)]
  omega

end Site

/-- Classes stand in a text, and no two of them share a character. -/
structure Standing (source : Text) (sites : List Site) : Prop where
  inside : ∀ s ∈ sites, s.In source
  apart : sites.Pairwise Site.Apart

namespace Standing

variable {source : Text} {sites : List Site}

theorem apart_of_mem (h : Standing source sites) {a b : Site} (ha : a ∈ sites) (hb : b ∈ sites)
    (hne : a ≠ b) : a.Apart b := by
  have : Std.Symm Site.Apart := ⟨fun _ _ h => h.symm⟩
  exact h.apart.forall ha hb hne

/-- A selection of distinct classes, in any order, stands in the text as well. -/
theorem choose (h : Standing source sites) {chosen : List Site} (hsub : chosen ⊆ sites)
    (hnodup : chosen.Nodup) : Standing source chosen := by
  refine ⟨fun s hs => h.inside s (hsub hs), List.Pairwise.imp_of_mem ?_ hnodup⟩
  intro a b ha hb hne
  exact h.apart_of_mem (hsub ha) (hsub hb) hne

theorem nodup (h : Standing source sites) : sites.Nodup := by
  refine List.Pairwise.imp_of_mem ?_ h.apart
  rintro a b ha - hab rfl
  have := (h.inside a ha).keyword_lt_closing
  rcases hab with hab | hab <;> omega

/-- Classes in the order of their keywords end in front of the keywords behind them. -/
theorem exists_sorted (h : Standing source sites) :
    ∃ ordered : List Site, ordered.Perm sites ∧
      ordered.Pairwise fun a b => a.closing < b.keyword := by
  have hperm := List.mergeSort_perm sites fun a b => decide (a.keyword ≤ b.keyword)
  have hsort : (sites.mergeSort fun a b => decide (a.keyword ≤ b.keyword)).Pairwise
      fun a b => decide (a.keyword ≤ b.keyword) = true :=
    List.pairwise_mergeSort (fun a b c => by simpa using Nat.le_trans)
      (fun a b => by simpa using Nat.le_total ..) sites
  refine ⟨_, hperm, ?_⟩
  have hapart := (h.choose hperm.subset (hperm.nodup_iff.2 h.nodup)).apart
  refine (hsort.and hapart).imp_of_mem ?_
  rintro a b - hb ⟨hle, hab⟩
  have := (h.inside b (hperm.subset hb)).keyword_lt_closing
  rw [decide_eq_true_eq] at hle
  rcases hab with hab | hab <;> omega

/-- Classes in order, behind a front part of the text, have a layout. -/
theorem exists_layout_append (hin : ∀ s ∈ sites, s.In source)
    (hsort : sites.Pairwise fun a b => a.closing < b.keyword) (front back : Text)
    (hsource : source = front ++ back) (hfront : ∀ s ∈ sites, byteLength front ≤ s.keyword) :
    ∃ tail gs, Layout.text tail gs = back ∧ Layout.sites (byteLength front) gs = sites ∧
      Layout.Sound tail gs ∧ ((∀ s ∈ sites, byteLength front < s.keyword) →
        ∀ c rest, back = c :: rest → ∃ rest', Layout.gapBehind tail gs = c :: rest') := by
  induction sites generalizing front back with
  | nil => exact ⟨back, [], rfl, rfl, trivial, fun _ c rest h => ⟨rest, h⟩⟩
  | cons s sites ih =>
    obtain ⟨hbehind, hsort⟩ := List.pairwise_cons.1 hsort
    obtain ⟨pre, body, post, heq, hopen, hk, hb⟩ := hin s List.mem_cons_self
    have hle := hfront s List.mem_cons_self
    obtain ⟨gap, rfl, hback⟩ := append_eq_append_of_byteLength_le
      (s := front) (t := back) (u := pre) (v := body ++ '\x7d' :: post)
      (by rw [← hsource, heq, List.append_assoc]) (by omega)
    have hclosing : ∀ s' ∈ sites, byteLength (front ++ gap ++ body) < s'.keyword := fun s' hs' =>
      hb ▸ hbehind s' hs'
    obtain ⟨tail, gs, htext, hsites, hsound, hgap⟩ :=
      ih (fun s' hs' => hin s' (List.mem_cons_of_mem _ hs')) hsort (front ++ gap ++ body)
        ('\x7d' :: post) heq (fun s' hs' => Nat.le_of_lt (hclosing s' hs'))
    refine ⟨tail, ⟨gap, s.name, s.properties, s.methodNames, body⟩ :: gs, ?_, ?_,
      ⟨hopen, hgap hclosing _ _ rfl, hsound⟩, ?_⟩
    · rw [Layout.text, htext, hback, List.append_assoc]
    · simp only [byteLength_append] at hk hb hsites
      rw [Layout.sites, hsites, Segment.site]
      simp only [← hb]
      rw [← hk]
    · intro hlt c rest hc
      have hpos := hlt s List.mem_cons_self
      cases gap with
      | nil =>
        rw [List.append_nil] at hk
        omega
      | cons x gap =>
        rw [hback, List.cons_append, List.cons.injEq] at hc
        exact ⟨gap, by rw [Layout.gapBehind, hc.1]⟩

/-- Classes that lie apart in a text have a layout. -/
theorem exists_layout (h : Standing source sites) :
    ∃ tail gs, Layout.text tail gs = source ∧ (Layout.sites 0 gs).Perm sites ∧
      Layout.Sound tail gs := by
  obtain ⟨ordered, hperm, hsort⟩ := h.exists_sorted
  obtain ⟨tail, gs, htext, hsites, hsound, -⟩ :=
    exists_layout_append (fun s hs => h.inside s (hperm.subset hs)) hsort [] source rfl (by simp)
  rw [byteLength_nil] at hsites
  exact ⟨tail, gs, htext, hsites ▸ hperm, hsound⟩

end Standing

end Accessors
