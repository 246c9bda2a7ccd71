import Accessors.Proofs.Plan.Layout

/-!
# Classes taken one by one

Instead of planning the edits of all classes against one text, the classes can be taken one after
the other: the edit of a class is planned and applied, the offsets of the classes left are moved by
what was inserted, and the next edit is planned against the new text. The order does not matter, and
the result is that of the batch.

* `Site.after`: a class after an edit elsewhere.
* `OneByOne.step`, `OneByOne.run`: one class, and one class after the other.
* `Layout.absorb`: a layout without one of its classes, whose text is now part of a gap.
* `OneByOne.step_spec`: one step leads to a layout of the remaining classes with the same woven
  text.
* `OneByOne.run_eq_batch`: the run ends with the text of the batch.
-/

namespace Accessors

open Document Text

/-! ## One class after the other -/

/-- The class after an edit elsewhere: behind the edit its offsets move by what was inserted. -/
def Site.after (e : Edit) (s : Site) : Site :=
  if e.stopOffset ≤ s.keyword then
    { s with
      keyword := s.keyword + byteLength e.replacement - (e.stopOffset - e.startOffset)
      closing := s.closing + byteLength e.replacement - (e.stopOffset - e.startOffset) }
  else s

namespace OneByOne

/-- Plan the edit of one class against a text and apply it. The result comes with where the other
classes have moved. -/
def step (kinds : Kinds) (tabSize : Nat) (t : Text) (s : Site) :
    Except EditError (Text × (Site → Site)) :=
  match Plan.edit? kinds tabSize (ofText t) (s.model (ofText t)) with
  | none => .ok (t, id)
  | some e => (Edit.applyAll t [e]).map fun t' => (t', Site.after e)

/-- Take classes one after the other. `moved` says where the steps so far have moved them. -/
def run (kinds : Kinds) (tabSize : Nat) (moved : Site → Site) (t : Text) :
    List Site → Except EditError Text
  | [] => .ok t
  | s :: rest =>
    match step kinds tabSize t (moved s) with
    | .ok (t', move) => run kinds tabSize (move ∘ moved) t' rest
    | .error e => .error e

/-- The texts that a run goes through. -/
def texts (kinds : Kinds) (tabSize : Nat) (moved : Site → Site) (t : Text) : List Site → List Text
  | [] => [t]
  | s :: rest =>
    t :: match step kinds tabSize t (moved s) with
      | .ok (t', move) => texts kinds tabSize (move ∘ moved) t' rest
      | .error _ => []

theorem mem_texts (kinds : Kinds) (tabSize : Nat) (moved : Site → Site) (t : Text)
    (sites : List Site) : t ∈ texts kinds tabSize moved t sites := by
  cases sites <;> simp [texts]

end OneByOne

/-! ## Layouts without one of their classes -/

namespace Layout

/-- Put a text in front of the segments: it becomes part of the first gap, or of the tail. -/
def absorb (u tail : Text) : List Segment → Text × List Segment
  | [] => (u ++ tail, [])
  | g :: gs => (tail, { g with gap := u ++ g.gap } :: gs)

theorem text_absorb (u tail : Text) (gs : List Segment) :
    text (absorb u tail gs).1 (absorb u tail gs).2 = u ++ text tail gs := by
  cases gs with
  | nil => rfl
  | cons g gs => simp [absorb, text]

theorem woven_absorb (kinds : Kinds) (tabSize : Nat) (eol u tail : Text) (gs : List Segment) :
    woven kinds tabSize eol (absorb u tail gs).1 (absorb u tail gs).2 =
      u ++ woven kinds tabSize eol tail gs := by
  cases gs with
  | nil => rfl
  | cons g gs =>
    simp only [absorb, woven, List.append_assoc]
    rfl

theorem sites_absorb (n : Nat) (u tail : Text) (gs : List Segment) :
    sites n (absorb u tail gs).2 = sites (n + byteLength u) gs := by
  cases gs with
  | nil => rfl
  | cons g gs => simp [absorb, sites, Segment.site, Nat.add_assoc]

theorem sound_absorb (u : Text) {tail : Text} {gs : List Segment} (h : Sound tail gs) :
    Sound (absorb u tail gs).1 (absorb u tail gs).2 := by
  cases gs with
  | nil => trivial
  | cons g gs => exact h

theorem gapBehind_absorb (u tail : Text) (gs : List Segment) :
    gapBehind (absorb u tail gs).1 (absorb u tail gs).2 = u ++ gapBehind tail gs := by
  cases gs <;> rfl

/-- The end of a layout may be exchanged as long as it starts with the same brace. -/
theorem Sound.exchange {tail tail' : Text} {front gs gs' : List Segment}
    (h : Sound tail (front ++ gs)) (hsound : Sound tail gs → Sound tail' gs')
    (hgap : ∀ rest, gapBehind tail gs = '\x7d' :: rest →
      ∃ rest', gapBehind tail' gs' = '\x7d' :: rest') : Sound tail' (front ++ gs') := by
  induction front with
  | nil => exact hsound h
  | cons g front ih =>
    obtain ⟨hopen, ⟨rest, hbrace⟩, hrest⟩ := h
    refine ⟨hopen, ?_, ih hrest⟩
    cases front with
    | nil => exact hgap rest hbrace
    | cons g' front => exact ⟨rest, hbrace⟩

theorem sites_append (n : Nat) (gs hs : List Segment) :
    sites n (gs ++ hs) = sites n gs ++ sites (n + byteLength (text [] gs)) hs := by
  induction gs generalizing n with
  | nil => rfl
  | cons g gs ih => simp [sites, text, ih, Nat.add_assoc]

theorem text_eq_append (tail : Text) (gs : List Segment) : text tail gs = text [] gs ++ tail := by
  induction gs with
  | nil => rfl
  | cons g gs ih => rw [text, text, ih, List.append_assoc _ (text [] gs)]

theorem text_append_cons (tail : Text) (front : List Segment) (g : Segment) (back : List Segment) :
    text tail (front ++ g :: back) = text [] front ++ g.gap ++ g.body ++ text tail back := by
  rw [text_append, text_eq_append, text]
  simp

/-- A class of a layout splits it. -/
theorem exists_append_of_mem_sites {n : Nat} {gs : List Segment} {s : Site} (hs : s ∈ sites n gs) :
    ∃ front g back, gs = front ++ g :: back ∧ s = g.site (n + byteLength (text [] front)) := by
  induction gs generalizing n with
  | nil => cases hs
  | cons g gs ih =>
    rcases List.mem_cons.1 hs with rfl | hs
    · exact ⟨[], g, gs, rfl, rfl⟩
    · obtain ⟨front, g', back, rfl, rfl⟩ := ih hs
      exact ⟨g :: front, g', back, rfl, by simp [text, Nat.add_assoc]⟩

/-! ## Classes moved by an edit -/

theorem keyword_le_of_mem_sites {n : Nat} {gs : List Segment} {s : Site} (hs : s ∈ sites n gs) :
    s.keyword ≤ n + byteLength (text [] gs) := by
  induction gs generalizing n with
  | nil => cases hs
  | cons g gs ih =>
    simp only [text, byteLength_append]
    rcases List.mem_cons.1 hs with rfl | hs
    · simp only [Segment.site]
      omega
    · have := ih hs
      omega

/-- Classes in front of an edit stay where they are. -/
theorem map_after_front {n : Nat} {gs : List Segment} {e : Edit}
    (he : n + byteLength (text [] gs) < e.stopOffset) :
    (sites n gs).map (Site.after e) = sites n gs := by
  refine (List.map_congr_left fun s hs => ?_).trans (List.map_id _)
  have := keyword_le_of_mem_sites hs
  rw [Site.after, if_neg (by omega), id]

/-- Classes behind an edit move by what was inserted. -/
theorem map_after_back {m n : Nat} {gs : List Segment} {e : Edit} (hstop : e.stopOffset ≤ m)
    (hn : n + (e.stopOffset - e.startOffset) = m + byteLength e.replacement) :
    (sites m gs).map (Site.after e) = sites n gs := by
  induction gs generalizing m n with
  | nil => rfl
  | cons g gs ih =>
    have hhead : (g.site m).after e = g.site n := by
      have hle : e.stopOffset ≤ (g.site m).keyword := Nat.le_trans hstop (Nat.le_add_right ..)
      rw [Site.after, if_pos hle]
      simp only [Segment.site, Site.mk.injEq, true_and]
      omega
    rw [sites, sites, List.map_cons, hhead,
      ih (n := n + byteLength g.gap + byteLength g.body) (by omega) (by omega)]

theorem Sound.of_append {tail : Text} {front gs : List Segment} (h : Sound tail (front ++ gs)) :
    Sound tail gs := by
  induction front with
  | nil => exact h
  | cons g front ih => exact ih h.2.2

end Layout

/-- Opening up a class leaves the line ending of the text. -/
theorem Site.lineEnding_opened (kinds : Kinds) (tabSize : Nat) (s : Site) (pre : Text) {body : Text}
    (post : Text) (hopen : Plan.Opens body) :
    (ofText (pre ++ s.opened kinds tabSize (ofText (pre ++ body ++ post)).lineEnding.text body ++
      post)).lineEnding = (ofText (pre ++ body ++ post)).lineEnding := by
  rw [opened]
  split
  · rfl
  · rename_i hmissing
    obtain ⟨kept, dropped, rest, hbody, hkept, hstart, hstop, hbreaks, hreturn⟩ :=
      Plan.exists_cut tabSize hopen
    obtain ⟨methods, hmethods⟩ := Plan.exists_insertedText tabSize
      (ofText (pre ++ body ++ post)).lineEnding.text hbreaks hmissing
    have htake : takeBytes body (byteLength kept) = kept := by
      rw [hbody, List.append_assoc, takeBytes_append]
    have hdrop : dropBytes body (byteLength (kept ++ dropped)) = rest := by
      rw [hbody, dropBytes_append]
    rw [insertion, hmethods, hstart, hstop, htake, hdrop]
    have hsplit : pre ++ body ++ post = (pre ++ kept) ++ (dropped ++ rest ++ post) := by
      rw [hbody]
      simp
    rw [hsplit, show ∀ eol, pre ++ (kept ++ (eol ++ methods) ++ rest) ++ post =
      (pre ++ kept) ++ eol ++ (methods ++ rest ++ post) by simp]
    refine Plan.lineEnding_insert ?_
    rcases hreturn with hbreak | hlast | ⟨w, hw⟩
    · exact Or.inl (List.mem_append_right _ hbreak)
    · exact Or.inr (Or.inl (by rwa [List.getLast?_append_of_ne_nil _ hkept]))
    · exact Or.inr (Or.inr ⟨w ++ post, by rw [hw]; rfl⟩)

/-! ## Steps and runs -/

namespace OneByOne

open Layout

/-- A step for a class of a layout opens up the text of that class, and moves the others. -/
theorem step_eq (kinds : Kinds) (tabSize : Nat) {tail : Text} {front back : List Segment}
    {g : Segment} (hsound : Sound tail (front ++ g :: back)) {t : Text}
    (ht : t = text tail (front ++ g :: back)) (hlen : byteLength t < 2 ^ 32) {u : Text}
    (hu : u = (g.site 0).opened kinds tabSize (ofText t).lineEnding.text g.body) :
    ∃ move, step kinds tabSize t (g.site (byteLength (text [] front))) =
        .ok (text [] front ++ g.gap ++ u ++ text tail back, move) ∧
      (sites 0 front).map move = sites 0 front ∧
      (sites (byteLength (text [] front ++ g.gap ++ g.body)) back).map move =
        sites (byteLength (text [] front ++ g.gap ++ u)) back := by
  obtain ⟨hopen, hbrace, -⟩ := hsound.of_append
  obtain ⟨post, hpost⟩ := exists_text hbrace
  have hsplit := ht.trans (text_append_cons tail front g back)
  have hedit := Plan.edit?_append kinds tabSize post (s := g.site (byteLength (text [] front))) hopen
    (byteLength_append _ g.gap).symm (by rw [byteLength_append, byteLength_append]; rfl)
  rw [← hpost, ← hsplit, Segment.missing_site kinds _ 0] at hedit
  rw [hsplit, byteLength_append] at hlen
  rw [step]
  by_cases hmissing : (g.site 0).missing kinds = []
  · rw [if_pos hmissing] at hedit
    rw [Site.opened, if_pos hmissing] at hu
    rw [hedit, hu]
    exact ⟨id, by rw [hsplit], List.map_id _, List.map_id _⟩
  · rw [if_neg hmissing] at hedit
    obtain ⟨kept, dropped, rest, hbody, hkept, hstart, hstop, hopened⟩ :=
      (g.site 0).exists_edit kinds tabSize (ofText t).lineEnding.text
        (n := byteLength (text [] front ++ g.gap)) hopen (by rw [← byteLength_append]; omega)
    have hu' := hu.trans (hopened hmissing)
    have hedit' : Plan.edit? kinds tabSize (ofText t)
        ((g.site (byteLength (text [] front))).model (ofText t)) =
      some ((g.site 0).edit kinds tabSize (ofText t).lineEnding.text
        (byteLength (text [] front ++ g.gap)) g.body) := hedit
    generalize (g.site 0).edit kinds tabSize (ofText t).lineEnding.text
      (byteLength (text [] front ++ g.gap)) g.body = e at hstart hstop hu' hedit'
    have hsplit' : t = (text [] front ++ g.gap ++ kept) ++ dropped ++ (rest ++ text tail back) := by
      rw [hsplit, hbody]
      simp
    simp only [← byteLength_append] at hstart hstop
    have happly : Edit.applyAll t [e] = .ok (text [] front ++ g.gap ++ u ++ text tail back) := by
      rw [hsplit', Edit.applyAll_singleton hstart hstop, hu']
      simp
    refine ⟨Site.after e, by rw [hedit']; simp only [happly]; rfl, ?_, ?_⟩
    · have hpos := byteLength_pos hkept
      refine map_after_front ?_
      rw [hstop]
      simp only [byteLength_append]
      omega
    · refine map_after_back ?_ ?_
      · rw [hstop, hbody]
        simp only [byteLength_append]
        omega
      · rw [hstop, hstart, hu', hbody]
        simp only [byteLength_append]
        omega

/-- A step leads to a layout of the classes left with the same line ending and the same woven
text. -/
theorem step_spec (kinds : Kinds) (tabSize : Nat) {tail : Text} {gs : List Segment}
    (hsound : Sound tail gs) {t : Text} (ht : t = text tail gs) (hlen : byteLength t < 2 ^ 32)
    {s : Site} {pending : List Site} (hperm : (sites 0 gs).Perm (s :: pending)) :
    ∃ t' move tail' gs', step kinds tabSize t s = .ok (t', move) ∧ t' = text tail' gs' ∧
      Sound tail' gs' ∧ (sites 0 gs').Perm (pending.map move) ∧
      (ofText t').lineEnding = (ofText t).lineEnding ∧
      woven kinds tabSize (ofText t).lineEnding.text tail' gs' =
        woven kinds tabSize (ofText t).lineEnding.text tail gs := by
  obtain ⟨front, g, back, rfl, rfl⟩ :=
    exists_append_of_mem_sites (hperm.symm.subset List.mem_cons_self)
  rw [Nat.zero_add] at hperm ⊢
  obtain ⟨u, hu⟩ : ∃ u, u = (g.site 0).opened kinds tabSize (ofText t).lineEnding.text g.body :=
    ⟨_, rfl⟩
  obtain ⟨move, hstep, hfront, hback⟩ := step_eq kinds tabSize hsound ht hlen hu
  obtain ⟨hopen, -, -⟩ := hsound.of_append
  refine ⟨_, move, (absorb (g.gap ++ u) tail back).1, front ++ (absorb (g.gap ++ u) tail back).2,
    hstep, ?_, ?_, ?_, ?_, ?_⟩
  · rw [text_append, text_absorb, text_eq_append (g.gap ++ u ++ text tail back)]
    simp
  · refine hsound.exchange (fun h => sound_absorb _ h.2.2) fun rest hrest => ?_
    exact ⟨rest ++ u ++ gapBehind tail back, by
      rw [gapBehind_absorb, show g.gap = '\x7d' :: rest from hrest]; simp⟩
  · -- the classes left are those in front and those behind
    have hothers : (sites 0 front ++
        sites (byteLength (text [] front ++ g.gap ++ g.body)) back).Perm pending := by
      refine List.Perm.cons_inv (a := g.site (byteLength (text [] front))) ?_
      refine List.perm_middle.symm.trans (List.Perm.trans ?_ hperm)
      rw [sites_append, sites, Nat.zero_add, byteLength_append, byteLength_append]
    rw [sites_append, sites_absorb, Nat.zero_add, ← byteLength_append, ← List.append_assoc, ← hback,
      ← hfront, ← List.map_append]
    exact hothers.map move
  · rw [hu, ht, text_append_cons]
    exact Site.lineEnding_opened kinds tabSize _ _ _ hopen
  · rw [woven_append, woven_append, woven_absorb, woven, ← hu]

/-- A run over the classes of a layout, in any order, ends with the woven text. -/
theorem run_eq_woven (kinds : Kinds) (tabSize : Nat) {order : List Site} {moved : Site → Site}
    {t tail : Text} {gs : List Segment} (hsound : Sound tail gs) (ht : t = text tail gs)
    (hlen : ∀ t' ∈ texts kinds tabSize moved t order, byteLength t' < 2 ^ 32)
    (hperm : (sites 0 gs).Perm (order.map moved)) :
    run kinds tabSize moved t order =
      .ok (woven kinds tabSize (ofText t).lineEnding.text tail gs) := by
  induction order generalizing moved t tail gs with
  | nil =>
    cases gs with
    | nil => exact congrArg Except.ok ht
    | cons g gs => exact absurd hperm (by simp [sites])
  | cons s order ih =>
    obtain ⟨t', move, tail', gs', hstep, ht', hsound', hperm', heol, hwoven⟩ :=
      step_spec kinds tabSize hsound ht (hlen t (mem_texts ..)) hperm
    rw [texts, hstep] at hlen
    rw [run, hstep]
    simp only
    rw [ih hsound' ht' (fun t'' h => hlen t'' (List.mem_cons_of_mem _ h))
      (by rwa [List.map_map] at hperm'), heol, hwoven]

/-- Confluence. For classes that lie apart in a text and any selection of them, taking the selected
classes one by one in any order gives exactly the text of the batch planned for all of them at
once. -/
theorem run_eq_batch {source : Text} {sites : List Site} (h : Standing source sites)
    {selected order : List Site} (hsub : selected ⊆ sites) (hnodup : selected.Nodup)
    (hperm : order.Perm selected) (kinds : Kinds) (tabSize : Nat)
    (hlen : ∀ t ∈ texts kinds tabSize id source order, byteLength t < 2 ^ 32) :
    ∃ output, run kinds tabSize id source order = .ok output ∧
      Edit.applyAll source ((Plan.planAll kinds tabSize (ofText source)
        (selected.map (Site.model (ofText source)))).map (PlannedEdit.toEdit (ofText source))) =
      .ok output := by
  obtain ⟨tail, gs, htext, hsites, hsound⟩ := (h.choose hsub hnodup).exists_layout
  refine ⟨_, run_eq_woven kinds tabSize hsound htext.symm hlen ?_, ?_⟩
  · rw [List.map_id]
    exact hsites.trans hperm.symm
  · have hbatch := batch_eq kinds tabSize hsound (htext ▸ hlen source (mem_texts ..)) hsites.symm
      (ofText source) (by rw [htext])
    rwa [htext] at hbatch

/-- Two classes on one line, the second one first. -/
theorem run_eq_batch_reversed :
    let source := "<?php class A \x7b private $a; \x7d class B \x7b private $b; \x7d\r\n".toList
    let a : Site := ⟨"A".toList, [⟨"a".toList, none⟩], [], 6, 28⟩
    let b : Site := ⟨"B".toList, [⟨"b".toList, none⟩], [], 30, 52⟩
    ∃ output, run ⟨true, true⟩ 4 id source [b, a] = .ok output ∧
      Edit.applyAll source ((Plan.planAll ⟨true, true⟩ 4 (ofText source)
        ([a, b].map (Site.model (ofText source)))).map (PlannedEdit.toEdit (ofText source))) =
      .ok output := by
  intro source a b
  have hstanding : Standing source [a, b] := by
    refine ⟨?_, by simp [Site.Apart, a, b]⟩
    rintro s (_ | ⟨_, _ | ⟨_, ⟨⟩⟩⟩)
    · exact ⟨"<?php ".toList, "class A \x7b private $a; ".toList,
        " class B \x7b private $b; \x7d\r\n".toList, rfl, ⟨'c', _, rfl, rfl⟩, rfl, rfl⟩
    · exact ⟨"<?php class A \x7b private $a; \x7d ".toList, "class B \x7b private $b; ".toList,
        "\r\n".toList, rfl, ⟨'c', _, rfl, rfl⟩, rfl, rfl⟩
  exact run_eq_batch hstanding (List.Subset.refl _) (by decide) (List.Perm.swap a b [])
    ⟨true, true⟩ 4 (by decide +kernel)

end OneByOne

end Accessors
