import Accessors.Prompt
import Accessors.Proofs.Selection.Labels
import Mathlib.Data.List.Perm.Subperm

/-!
# Numbers and the classes they choose

On the terminal the candidates are numbered, and numbers accept some of them. The answer carries the
labels of the items numbered, not their places, so a class is chosen for every number, but of classes
with one name the first ones are chosen, whichever of them were numbered.

* `Places`, `Places.of_parseAnswer`: the places that numbers stand for.
* `ask_refused`: refused lines change nothing about the answer.
* `labelsAt_map_some`, `map_taken_labelsAt`: the labels at places, and the places they take.
* `eq_of_map_eq_of_filter_eq`: a list is known from its keys and from its parts of one key.
* `chosen_by_number`: the classes that numbers choose, and when they are the ones numbered.
-/

namespace Accessors

open Selection

namespace Prompt

/-! ## Answers -/

/-- Places in a list of some length, each mentioned once. -/
structure Places (count : Nat) (indices : List Nat) : Prop where
  nodup : indices.Nodup
  lt : ∀ i ∈ indices, i < count

theorem Places.mention {count : Nat} {indices : List Nat} (h : Places count indices) {n : Nat}
    (hn : n < count) :
    Places count (if indices.contains n then indices else indices ++ [n]) := by
  split
  · exact h
  next hnew =>
    rw [List.contains_iff_mem] at hnew
    refine ⟨h.nodup.append (List.nodup_singleton n) ?_, fun i hi => ?_⟩
    · rwa [List.disjoint_singleton]
    · rcases List.mem_append.1 hi with hi | hi
      · exact h.lt i hi
      · rwa [List.mem_singleton.1 hi]

/-- Numbers stand for places of items. -/
theorem Places.of_places? {count : Nat} {chosen indices : List Nat} {parts : List Text}
    (h : places? count chosen parts = some indices) (hchosen : Places count chosen) :
    Places count indices := by
  induction parts generalizing chosen with
  | nil => rwa [← Option.some.inj h]
  | cons part parts ih =>
    rw [places?] at h
    split at h
    · split at h
      next hlt => exact ih h (hchosen.mention hlt)
      · cases h
    · cases h

theorem Places.of_parseAnswer {line : Text} {count : Nat} {indices : List Nat}
    (h : parseAnswer line count = .accept indices) : Places count indices := by
  simp only [parseAnswer] at h
  split at h
  · cases h
  · split at h
    · cases h
    · split at h
      next places hplaces =>
        cases h
        exact .of_places? hplaces ⟨List.nodup_nil, by simp⟩
      · cases h

/-- Refused lines change nothing about the answer. -/
theorem ask_refused {colors : Bool} {count : Nat} {refused : List (List UInt8)}
    (h : ∀ bytes ∈ refused, answerOf? count bytes = none) (lines : List (List UInt8)) :
    (ask colors count (refused ++ lines)).1 = (ask colors count lines).1 := by
  induction refused with
  | nil => rfl
  | cons bytes refused ih =>
    rw [List.forall_mem_cons] at h
    rw [List.cons_append, ask, h.1]
    exact ih h.2

theorem ask_of_accept {colors : Bool} {count : Nat} {bytes : List UInt8} {line : Text}
    {indices : List Nat} (hline : Text.ofUtf8? bytes = some line)
    (hanswer : parseAnswer line count = .accept indices) (rest : List (List UInt8)) :
    (ask colors count (bytes :: rest)).1 = .accept indices := by
  have hbytes : answerOf? count bytes = some (.accept indices) := by
    rw [answerOf?, hline, Option.map_some, hanswer]
  rw [ask, hbytes]

/-! ## Labels at places -/

/-- The labels of the items at places. -/
def labelsAt (names : List Text) (indices : List Nat) : List Text :=
  indices.filterMap (names[·]?)

theorem labelsAt_map_some {names : List Text} {indices : List Nat}
    (h : ∀ i ∈ indices, i < names.length) :
    (labelsAt names indices).map some = indices.map (names[·]?) := by
  induction indices with
  | nil => rfl
  | cons i indices ih =>
    rw [List.forall_mem_cons] at h
    have hi := List.getElem?_eq_getElem h.1
    rw [labelsAt, List.filterMap_cons_some hi, List.map_cons, List.map_cons, ← hi]
    exact congrArg _ (ih h.2)

theorem count_labelsAt (names : List Text) (indices : List Nat) (name : Text) :
    (labelsAt names indices).count name = indices.countP fun i => names[i]? = some name := by
  induction indices with
  | nil => rfl
  | cons i indices ih =>
    rw [List.countP_cons, ← ih, labelsAt, labelsAt, List.filterMap_cons]
    cases h : names[i]? with
    | none => simp
    | some label => simp [List.count_cons]

/-- Different places hold no label more often than it is a name. -/
theorem count_labelsAt_le (names : List Text) {indices : List Nat} (h : indices.Nodup)
    (name : Text) : (labelsAt names indices).count name ≤ names.count name := by
  rw [count_labelsAt, List.countP_eq_length_filter, ← List.length_idxsOf]
  refine (List.subperm_of_subset (h.filter _) fun i hi => ?_).length_le
  exact mem_idxsOf.2 (of_decide_eq_true (List.mem_filter.1 hi).2)

/-- Where no label is more often there than it is a name, every label finds a place. -/
theorem found_eq_self {names labels : List Text}
    (h : ∀ name, labels.count name ≤ names.count name) : found names [] labels = labels := by
  rw [found, List.filter_eq_self.2, List.zipIdx_map_fst]
  intro entry hentry
  obtain ⟨label, k⟩ := entry
  have hk : labels[k]? = some label := List.mem_zipIdx_iff_getElem?.1 hentry
  obtain ⟨hlt, rfl⟩ := List.getElem?_eq_some_iff.1 hk
  have hcount := congrArg (List.count labels[k]) (List.take_append_drop k labels)
  rw [List.drop_eq_getElem_cons hlt, List.count_append, List.count_cons_self] at hcount
  have hle := h labels[k]
  rw [decide_eq_true_iff, List.count_nil]
  dsimp only
  omega

/-- The places taken by the labels at different places have the names of those. -/
theorem map_taken_labelsAt {names : List Text} {indices : List Nat}
    (h : Places names.length indices) :
    (taken names [] (labelsAt names indices)).map (names[·]?) = indices.map (names[·]?) := by
  rw [map_taken, found_eq_self (count_labelsAt_le names h.nodup), labelsAt_map_some h.lt]

/-- A list is known from its keys and from its parts of one key. -/
theorem eq_of_map_eq_of_filter_eq {α β : Type} [DecidableEq β] (key : α → β) {xs ys : List α}
    (hkeys : xs.map key = ys.map key)
    (h : ∀ x ∈ xs, xs.filter (key · = key x) = ys.filter (key · = key x)) : xs = ys := by
  induction xs generalizing ys with
  | nil => exact (List.map_eq_nil_iff.1 hkeys.symm).symm
  | cons x xs ih =>
    cases ys with
    | nil => cases hkeys
    | cons y ys =>
      rw [List.map_cons, List.map_cons, List.cons.injEq] at hkeys
      have hfirst := h x List.mem_cons_self
      rw [List.filter_cons_of_pos (by simp), List.filter_cons_of_pos (by simp [hkeys.1]),
        List.cons.injEq] at hfirst
      obtain ⟨rfl, -⟩ := hfirst
      congr 1
      refine ih hkeys.2 fun x' hx' => ?_
      have hrest := h x' (List.mem_cons_of_mem x hx')
      rw [List.filter_cons, List.filter_cons] at hrest
      split at hrest
      · exact (List.cons.inj hrest).2
      · exact hrest

/-- The labels at different places take these places exactly when the places of every name are the
first ones of that name, in order. -/
theorem taken_labelsAt_eq_iff {names : List Text} {indices : List Nat}
    (h : Places names.length indices) :
    taken names [] (labelsAt names indices) = indices ↔
      ∀ name, indices.filter (fun i => names[i]? = some name) <+: names.idxsOf name := by
  have hfilter := filter_taken names [] (labelsAt names indices)
  simp only [List.count_nil, List.drop_zero, count_labelsAt] at hfilter
  constructor
  · intro heq name
    rw [heq] at hfilter
    rw [hfilter]
    exact List.take_prefix ..
  · intro hfront
    have hkeys := map_taken_labelsAt h
    refine (eq_of_map_eq_of_filter_eq (names[·]?) hkeys.symm fun i hi => ?_).symm
    rw [List.getElem?_eq_getElem (h.lt i hi), hfilter, List.countP_eq_length_filter]
    exact List.prefix_iff_eq_take.1 (hfront _)

/-- Where no two names agree, the labels at places take these places. -/
theorem taken_labelsAt_of_nodup {names : List Text} {indices : List Nat}
    (h : Places names.length indices) (hnames : names.Nodup) :
    taken names [] (labelsAt names indices) = indices := by
  have hkeys := map_taken_labelsAt h
  have hlength := congrArg List.length hkeys
  rw [List.length_map, List.length_map] at hlength
  refine List.ext_getElem hlength fun k hk hk' => ?_
  have hname := List.getElem_of_eq hkeys (by rwa [List.length_map])
  rw [List.getElem_map, List.getElem_map] at hname
  exact ((List.getElem?_inj (h.lt _ (List.getElem_mem hk')) hnames).1 hname.symm).symm

/-! ## The terminal -/

/-- Behind refused lines, numbers accept the labels of the items numbered. -/
theorem run_of_accept {colors : Bool} {input : List UInt8} {r : Request}
    {refused rest : List (List UInt8)} {bytes : List UInt8} {line : Text} {indices : List Nat}
    (hinput : inputLines input = refused ++ bytes :: rest)
    (hrefused : ∀ bytes ∈ refused, answerOf? r.items.length bytes = none)
    (hline : Text.ofUtf8? bytes = some line)
    (hanswer : parseAnswer line r.items.length = .accept indices) :
    (run colors input r).1 = .accepted (labelsAt (r.items.map Item.label) indices) := by
  have hask : (ask colors r.items.length (inputLines input)).1 = .accept indices := by
    rw [hinput, ask_refused hrefused, ask_of_accept hline hanswer]
  have hrun : (run colors input r).1 =
      (ask colors r.items.length (inputLines input)).1.toResponse r := rfl
  rw [hrun, hask, Answer.toResponse, labelsAt]
  simp only [List.getElem?_map]

/-- The classes that numbers choose on the terminal. For every number a class is chosen, one with the
name of the class numbered, in the order typed; of every name the first classes are chosen, in the
order of the candidates. So the classes chosen are those numbered exactly when of every name the
first classes are numbered, in order, and always where no two candidates have one name. -/
theorem chosen_by_number (kinds : Kinds) (classes : List ClassModel) :
    let candidates := classes.filter (·.isCandidate kinds)
    let names := candidates.map ClassModel.name
    candidates ≠ [] → ∃ o, offer kinds classes = .ok o ∧
      ∀ (colors : Bool) (input : List UInt8) (refused rest : List (List UInt8))
        (bytes : List UInt8) (line : Text) (indices : List Nat),
        inputLines input = refused ++ bytes :: rest →
        (∀ other ∈ refused, answerOf? candidates.length other = none) →
        Text.ofUtf8? bytes = some line → parseAnswer line candidates.length = .accept indices →
        ∃ (places : List Nat) (chosen : List ClassModel),
          settle o (run colors input o.request).1 = .ok chosen ∧
          chosen.map some = places.map (candidates[·]?) ∧
          places.map (names[·]?) = indices.map (names[·]?) ∧
          (∀ name, places.filter (fun i => names[i]? = some name) =
            (names.idxsOf name).take (indices.countP fun i => names[i]? = some name)) ∧
          (places = indices ↔
            ∀ name, indices.filter (fun i => names[i]? = some name) <+: names.idxsOf name) ∧
          (names.Nodup → places = indices) := by
  intro candidates names hcandidates
  refine ⟨_, offer_eq_ok_iff.2 ⟨hcandidates, rfl⟩, ?_⟩
  intro colors input refused rest bytes line indices hinput hrefused hline hanswer
  have hlength : names.length = candidates.length := List.length_map ..
  have hindices : Places names.length indices := hlength ▸ .of_parseAnswer hanswer
  have hitems : (Generate.requestFor kinds candidates).items.length = candidates.length :=
    List.length_map ..
  have hlabels : (Generate.requestFor kinds candidates).items.map Item.label = names :=
    List.map_map ..
  rw [← hitems] at hrefused hanswer
  refine ⟨taken names [] (labelsAt names indices),
    resolve candidates (labelsAt names indices), ?_,
    resolve_map_some .., map_taken_labelsAt hindices, fun name => ?_,
    taken_labelsAt_eq_iff hindices, taken_labelsAt_of_nodup hindices⟩
  · rw [run_of_accept hinput hrefused hline hanswer, settle, hlabels]
  · rw [filter_taken, List.count_nil, List.drop_zero, count_labelsAt]

/-- Behind a refused line, the third and the second of three classes are numbered, and the first and
the second are chosen. -/
theorem chosen_by_number_namesake :
    let a : ClassModel := ⟨"A".toList, 1, 3, 0, [⟨"a".toList, none⟩], []⟩
    let b : ClassModel := ⟨"B".toList, 5, 7, 0, [⟨"b".toList, none⟩], []⟩
    let a' : ClassModel := ⟨"A".toList, 9, 11, 0, [⟨"a".toList, none⟩], []⟩
    let names := ["A".toList, "B".toList, "A".toList]
    ∃ o, offer ⟨true, false⟩ [a, b, a'] = .ok o ∧ ∃ places chosen,
      settle o (run false (Text.toUtf8 "x\n3, 2\n".toList) o.request).1 = .ok chosen ∧
      chosen.map some = places.map ([a, b, a'][·]?) ∧
      places.map (names[·]?) = [some "A".toList, some "B".toList] ∧
      places.filter (fun i => names[i]? = some "A".toList) = [0] ∧ places ≠ [2, 1] := by
  intro a b a' names
  obtain ⟨o, ho, hchosen⟩ := chosen_by_number ⟨true, false⟩ [a, b, a'] (by decide)
  obtain ⟨places, chosen, hsettle, hplaces, hnames, hfirst, hiff, -⟩ :=
    hchosen false (Text.toUtf8 "x\n3, 2\n".toList) [Text.toUtf8 "x\n".toList] []
      (Text.toUtf8 "3, 2\n".toList) "3, 2\n".toList [2, 1] (by decide) (by decide +kernel)
      (by decide +kernel) (by decide +kernel)
  refine ⟨o, ho, places, chosen, hsettle, hplaces, hnames, hfirst "A".toList, fun heq => ?_⟩
  exact absurd (hiff.1 heq "A".toList) (by decide)

/-- Of two classes with one name the second is numbered, and the first is chosen. -/
theorem second_numbered_first_chosen :
    let first : ClassModel := ⟨"A".toList, 1, 3, 0, [⟨"a".toList, none⟩], []⟩
    let second : ClassModel := ⟨"A".toList, 5, 7, 0, [⟨"a".toList, none⟩], []⟩
    parseAnswer "2\n".toList 2 = .accept [1] ∧
      ∃ o, offer ⟨true, false⟩ [first, second] = .ok o ∧ o.candidates = [first, second] ∧
        settle o (run false (Text.toUtf8 "2\n".toList) o.request).1 = .ok [first] ∧
        first ≠ second := by
  intro first second
  refine ⟨by decide, _, rfl, rfl, ?_, by decide⟩
  have hrun : (run false (Text.toUtf8 "2\n".toList)
      ⟨"Select classes to generate Getters".toList, [⟨"A".toList, true⟩, ⟨"A".toList, true⟩]⟩).1 =
        .accepted ["A".toList] := by decide +kernel
  exact congrArg (settle ⟨_, [first, second]⟩) hrun

end Prompt

end Accessors
