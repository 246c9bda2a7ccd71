import Accessors.Proofs.Generate.Course
import Mathlib.Data.List.Nodup

/-!
# Labels and the classes they choose

A label takes the first class of its name that the labels in front of it have left. Classes of one
name are told apart by their places among the candidates only, so what labels choose is described by
places: those of one name are taken in the order of the candidates, one for each label of that name
until none is left.

* `taken`: the places that labels take.
* `filter_taken`, `nodup_taken`: the places taken of one name, and of all.
* `found`, `map_taken`: the labels that find a place.
* `resolve_map_some`: the classes chosen stand at the places taken.
* `countP_resolve`, `map_name_resolve`: how many classes of a name are chosen, and which names.
* `labels_resolve`: all this for the answers to a request.
-/

namespace Accessors.Selection

/-! ## Places -/

/-- The places in a list of names that labels take, the labels in `seen` being in front of them: each
label takes the first place of its name that those have left, if there is one. -/
def taken (names seen : List Text) : List Text → List Nat
  | [] => []
  | label :: labels =>
    ((names.idxsOf label)[seen.count label]?).toList ++ taken names (label :: seen) labels

theorem named_iff {label : Text} {c : ClassModel} : named label c = true ↔ c.name = label :=
  decide_eq_true_iff

theorem mem_idxsOf {names : List Text} {name : Text} {i : Nat} :
    i ∈ names.idxsOf name ↔ names[i]? = some name := by
  rw [List.mem_idxsOf_iff_exists_getElem_pos, List.getElem?_eq_some_iff]
  simp only [beq_iff_eq]

theorem exists_name_of_mem_taken {names seen labels : List Text} {i : Nat}
    (h : i ∈ taken names seen labels) : ∃ name, names[i]? = some name := by
  induction labels generalizing seen with
  | nil => cases h
  | cons label labels ih =>
    rw [taken, List.mem_append] at h
    rcases h with h | h
    · exact ⟨label, mem_idxsOf.1 (List.mem_of_getElem? (Option.mem_toList.1 h))⟩
    · exact ih h

theorem take_succ_drop {α : Type} (l : List α) (m n : Nat) :
    (l.drop m).take (n + 1) = (l[m]?).toList ++ (l.drop (m + 1)).take n := by
  cases h : l[m]? with
  | none =>
    have hlength := List.getElem?_eq_none_iff.1 h
    rw [List.drop_eq_nil_of_le hlength, List.drop_eq_nil_of_le (by omega)]
    simp
  | some a =>
    obtain ⟨hlt, rfl⟩ := List.getElem?_eq_some_iff.1 h
    rw [List.drop_eq_getElem_cons hlt]
    rfl

/-- Of one name the places are taken in order, one for each label. -/
theorem filter_taken (names seen labels : List Text) (name : Text) :
    (taken names seen labels).filter (fun i => names[i]? = some name) =
      ((names.idxsOf name).drop (seen.count name)).take (labels.count name) := by
  induction labels generalizing seen with
  | nil => rw [List.count_nil, List.take_zero, taken, List.filter_nil]
  | cons label labels ih =>
    have hhead : ∀ i ∈ ((names.idxsOf label)[seen.count label]?).toList, names[i]? = some label :=
      fun i hi => mem_idxsOf.1 (List.mem_of_getElem? (Option.mem_toList.1 hi))
    rw [taken, List.filter_append, ih]
    by_cases hlabel : label = name
    · subst hlabel
      rw [List.filter_eq_self.2 fun i hi => decide_eq_true (hhead i hi), List.count_cons_self,
        List.count_cons_self, take_succ_drop]
    · have hnone : ((names.idxsOf label)[seen.count label]?).toList.filter
          (fun i => names[i]? = some name) = [] := by
        rw [List.filter_eq_nil_iff]
        intro i hi hname
        rw [decide_eq_true_iff, hhead i hi, Option.some.injEq] at hname
        exact hlabel hname
      rw [hnone, List.nil_append, List.count_cons_of_ne hlabel, List.count_cons_of_ne hlabel]

/-- No place is taken twice. -/
theorem nodup_taken (names seen labels : List Text) : (taken names seen labels).Nodup := by
  rw [List.nodup_iff_count_le_one]
  intro i
  by_cases hi : i ∈ taken names seen labels
  · -- it is enough to look at the places of one name, and these are taken in order
    obtain ⟨name, hname⟩ := exists_name_of_mem_taken hi
    have hfilter := filter_taken names seen labels name
    have hnodup : ((names.idxsOf name).drop (seen.count name) |>.take (labels.count name)).Nodup :=
      List.nodup_idxsOf.sublist ((List.take_sublist ..).trans (List.drop_sublist ..))
    rw [← hfilter] at hnodup
    rw [← List.count_filter (p := fun i => decide (names[i]? = some name)) (decide_eq_true hname)]
    exact List.nodup_iff_count_le_one.1 hnodup i
  · rw [List.count_eq_zero.2 hi]
    exact Nat.zero_le 1

/-- The labels that find a place, the labels in `seen` being in front of all: those with fewer labels
of their name in front of them than there are places of that name. -/
def found (names seen labels : List Text) : List Text :=
  (labels.zipIdx.filter fun entry =>
    seen.count entry.1 + (labels.take entry.2).count entry.1 < names.count entry.1).map Prod.fst

theorem found_cons (names seen : List Text) (label : Text) (labels : List Text) :
    found names seen (label :: labels) =
      (if seen.count label < names.count label then [label] else []) ++
        found names (label :: seen) labels := by
  have hcount : ∀ entry : Text × Nat,
      seen.count entry.1 + ((label :: labels).take (entry.2 + 1)).count entry.1 =
        (label :: seen).count entry.1 + (labels.take entry.2).count entry.1 := by
    intro entry
    rw [List.take_succ_cons, List.count_cons, List.count_cons]
    omega
  have hrest : ((labels.zipIdx 1).filter fun entry => seen.count entry.1 +
      ((label :: labels).take entry.2).count entry.1 < names.count entry.1).map Prod.fst =
        found names (label :: seen) labels := by
    rw [List.zipIdx_succ, List.filter_map, List.map_map, found]
    simp only [Function.comp_def, hcount]
  rw [found, List.zipIdx_cons, List.filter_cons]
  split
  case isTrue h =>
    rw [if_pos (show seen.count label < _ from of_decide_eq_true h), List.map_cons, hrest]
    rfl
  case isFalse h =>
    rw [if_neg (show ¬ seen.count label < _ from mt decide_eq_true h), hrest]
    rfl

theorem map_taken (names seen labels : List Text) :
    (taken names seen labels).map (names[·]?) = (found names seen labels).map some := by
  induction labels generalizing seen with
  | nil => rfl
  | cons label labels ih =>
    rw [taken, found_cons, List.map_append, List.map_append, ih]
    cases h : (names.idxsOf label)[seen.count label]? with
    | none =>
      have hle := List.getElem?_eq_none_iff.1 h
      rw [List.length_idxsOf] at hle
      rw [if_neg (Nat.not_lt.2 hle)]
      rfl
    | some i =>
      obtain ⟨hlt, -⟩ := List.getElem?_eq_some_iff.1 h
      rw [List.length_idxsOf] at hlt
      have hname : names[i]? = some label := mem_idxsOf.1 (List.mem_of_getElem? h)
      rw [if_pos hlt, List.map_singleton, ← hname]
      rfl

/-! ## The classes at the places -/

theorem map_idxsOf (pool : List ClassModel) (label : Text) :
    ((pool.map ClassModel.name).idxsOf label).map (pool[·]?) =
      (pool.filter (named label)).map some := by
  have hnamed : (fun c : ClassModel => c.name == label) = named label := by
    funext c
    rw [Bool.eq_iff_iff, beq_iff_eq, named_iff]
  rw [List.idxsOf_map, hnamed]
  refine List.ext_getElem ?_ fun i hi hi' => ?_
  · rw [List.length_map, List.length_map, List.length_findIdxs, List.countP_eq_length_filter]
  · rw [List.length_map] at hi hi'
    rw [List.getElem_map, List.getElem_map,
      List.getElem_filter_eq_getElem_getElem_findIdxs hi', List.getElem?_eq_getElem]

theorem filter_eraseP_self (p : ClassModel → Bool) (pool : List ClassModel) :
    (pool.eraseP p).filter p = (pool.filter p).tail := by
  induction pool with
  | nil => rfl
  | cons c pool ih =>
    by_cases hc : p c = true
    · rw [List.eraseP_cons_of_pos hc, List.filter_cons_of_pos hc, List.tail_cons]
    · rw [List.eraseP_cons_of_neg hc, List.filter_cons_of_neg hc, List.filter_cons_of_neg hc, ih]

theorem filter_eraseP_of_ne {a b : Text} (hne : a ≠ b) (pool : List ClassModel) :
    (pool.eraseP (named b)).filter (named a) = pool.filter (named a) := by
  induction pool with
  | nil => rfl
  | cons c pool ih =>
    by_cases hb : named b c = true
    · have ha : ¬ named a c = true := (not_named_or hne c).resolve_right (not_not.2 hb)
      rw [List.eraseP_cons_of_pos hb, List.filter_cons_of_neg ha]
    · rw [List.eraseP_cons_of_neg hb, List.filter_cons, List.filter_cons, ih]

/-- The classes chosen from what the labels in `seen` have left of the candidates stand at the places
that the labels take. -/
theorem resolve_map_some_of_left {candidates : List ClassModel} {seen : List Text}
    {pool : List ClassModel}
    (hleft : ∀ name, pool.filter (named name) =
      (candidates.filter (named name)).drop (seen.count name)) (labels : List Text) :
    (resolve pool labels).map some =
      (taken (candidates.map ClassModel.name) seen labels).map (candidates[·]?) := by
  induction labels generalizing seen pool with
  | nil => rfl
  | cons label labels ih =>
    have hfirst : (pool.find? (named label)).toList.map some =
        (((candidates.map ClassModel.name).idxsOf label)[seen.count label]?).toList.map
          (candidates[·]?) := by
      rw [← List.head?_filter, hleft, List.head?_drop, ← Option.toList_map, ← Option.toList_map,
        ← List.getElem?_map, ← List.getElem?_map, map_idxsOf]
    rw [resolve_cons, taken, List.map_append, List.map_append, hfirst, ih]
    intro name
    by_cases hname : label = name
    · subst hname
      rw [filter_eraseP_self, hleft, List.tail_drop, List.count_cons_self]
    · rw [filter_eraseP_of_ne (Ne.symm hname), hleft, List.count_cons_of_ne hname]

/-- The classes chosen stand at the places that the labels take. -/
theorem resolve_map_some (candidates : List ClassModel) (labels : List Text) :
    (resolve candidates labels).map some =
      (taken (candidates.map ClassModel.name) [] labels).map (candidates[·]?) :=
  resolve_map_some_of_left (fun _ => rfl) labels

theorem map_some_name {candidates chosen : List ClassModel} {places : List Nat}
    (h : chosen.map some = places.map (candidates[·]?)) :
    chosen.map (fun c => some c.name) =
      places.map ((candidates.map ClassModel.name)[·]?) := by
  have hnames := congrArg (List.map (Option.map ClassModel.name)) h
  rw [List.map_map, List.map_map] at hnames
  refine hnames.trans (List.map_congr_left fun i _ => ?_)
  rw [Function.comp_apply, List.getElem?_map]

/-- Of every name as many classes are chosen as there are labels, or all of them. -/
theorem countP_resolve (candidates : List ClassModel) (labels : List Text) (name : Text) :
    (resolve candidates labels).countP (named name) =
      min (labels.count name) (candidates.countP (named name)) := by
  have hnames := congrArg (List.countP fun n => decide (n = some name))
    (map_some_name (resolve_map_some candidates labels))
  have hplaces := congrArg List.length
    (filter_taken (candidates.map ClassModel.name) [] labels name)
  have hlength : (candidates.map ClassModel.name).count name = candidates.countP (named name) := by
    rw [← List.length_idxsOf, ← List.length_map, map_idxsOf, List.length_map,
      List.countP_eq_length_filter]
  rw [List.length_take, List.count_nil, List.drop_zero, List.length_idxsOf, hlength,
    ← List.countP_eq_length_filter] at hplaces
  rw [List.countP_map, List.countP_map] at hnames
  refine Eq.trans (List.countP_congr fun c _ => ?_) (hnames.trans hplaces)
  rw [named_iff, Function.comp_apply, decide_eq_true_iff, Option.some.injEq]

/-- The names of the classes chosen are the labels that found a class. -/
theorem map_name_resolve (candidates : List ClassModel) (labels : List Text) :
    (resolve candidates labels).map ClassModel.name =
      found (candidates.map ClassModel.name) [] labels := by
  have hnames := (map_some_name (resolve_map_some candidates labels)).trans
    (map_taken (candidates.map ClassModel.name) [] labels)
  refine List.map_injective_iff.2 (fun _ _ => Option.some.inj) ?_
  rwa [List.map_map]

/-! ## Requests -/

/-- What is offered are the classes that lack an accessor, all of them marked. -/
theorem offer_eq_ok_iff {kinds : Kinds} {classes : List ClassModel} {o : Offer} :
    offer kinds classes = .ok o ↔ classes.filter (·.isCandidate kinds) ≠ [] ∧
      o = ⟨Generate.requestFor kinds (classes.filter (·.isCandidate kinds)),
        classes.filter (·.isCandidate kinds)⟩ := by
  rw [offer]
  cases classes.filter (·.isCandidate kinds) with
  | nil => simp
  | cons c rest =>
    rw [Except.ok.injEq, eq_comm]
    exact (and_iff_right (List.cons_ne_nil c rest)).symm

theorem pickedLabels_requestFor (kinds : Kinds) (classes : List ClassModel) :
    (Generate.requestFor kinds classes).pickedLabels = classes.map ClassModel.name :=
  pickedLabels_items ..

/-- Labels choose the ordered multiset intersection of the labels with the names of the candidates.
No place among the candidates is taken twice; of every name there are chosen as many classes as there
are labels, or all of them; they are the first ones of that name, in the order of the candidates; and
the names chosen are the labels that found a class, those with fewer labels of their name in front of
them than there are candidates of that name. Accepting a request as it stands chooses all candidates
in their order. -/
theorem labels_resolve :
    (∀ (o : Offer) (labels : List Text),
      let names := o.candidates.map ClassModel.name
      ∃ (places : List Nat) (chosen : List ClassModel), settle o (.accepted labels) = .ok chosen ∧
        chosen.map some = places.map (o.candidates[·]?) ∧ places.Nodup ∧
        (∀ name, chosen.countP (fun c => c.name = name) =
          min (labels.count name) (o.candidates.countP fun c => c.name = name)) ∧
        (∀ name, places.filter (fun i => names[i]? = some name) =
          (names.idxsOf name).take (labels.count name)) ∧
        chosen.map ClassModel.name = (labels.zipIdx.filter fun entry =>
          (labels.take entry.2).count entry.1 < names.count entry.1).map Prod.fst) ∧
    ∀ (kinds : Kinds) (classes : List ClassModel) (o : Offer), offer kinds classes = .ok o →
      settle o (acceptPicked o.request) = .ok o.candidates := by
  constructor
  · intro o labels names
    have hfound := map_name_resolve o.candidates labels
    simp only [found, List.count_nil, Nat.zero_add] at hfound
    exact ⟨taken names [] labels, resolve o.candidates labels, rfl,
      resolve_map_some o.candidates labels, nodup_taken names [] labels,
      countP_resolve o.candidates labels, filter_taken names [] labels, hfound⟩
  · intro kinds classes o hoffer
    obtain ⟨-, rfl⟩ := offer_eq_ok_iff.1 hoffer
    rw [acceptPicked, settle, pickedLabels_requestFor, resolve_names]

/-- Three classes, two of one name, and labels with a name too often and one unknown. -/
theorem labels_resolve_namesakes :
    let a : ClassModel := ⟨"A".toList, 1, 2, 0, [⟨"a".toList, none⟩], []⟩
    let b : ClassModel := ⟨"B".toList, 3, 4, 0, [⟨"b".toList, none⟩], []⟩
    let a' : ClassModel := ⟨"A".toList, 5, 6, 0, [⟨"a".toList, none⟩], []⟩
    let labels := ["A".toList, "X".toList, "B".toList, "A".toList, "A".toList]
    ∃ o, offer .gettersOnly [a, b, a'] = .ok o ∧
      settle o (acceptPicked o.request) = .ok [a, b, a'] ∧
      ∃ chosen, settle o (.accepted labels) = .ok chosen ∧
        chosen.map ClassModel.name = ["A".toList, "B".toList, "A".toList] ∧
        chosen.countP (fun c => c.name = "A".toList) = 2 ∧ chosen = [a, b, a'] := by
  intro a b a' labels
  obtain ⟨hlabels, haccept⟩ := labels_resolve
  have hoffer : offer .gettersOnly [a, b, a'] =
      .ok ⟨Generate.requestFor .gettersOnly [a, b, a'], [a, b, a']⟩ := rfl
  refine ⟨_, hoffer, haccept _ _ _ hoffer, ?_⟩
  obtain ⟨places, chosen, hchosen, -, -, hcount, -, hnames⟩ :=
    hlabels ⟨Generate.requestFor .gettersOnly [a, b, a'], [a, b, a']⟩ labels
  have hresolve : resolve [a, b, a'] labels = [a, b, a'] := by decide
  have hall : chosen = [a, b, a'] := by
    rw [settle, hresolve, Except.ok.injEq] at hchosen
    exact hchosen.symm
  exact ⟨chosen, hchosen, hnames.trans (by decide), (hcount "A".toList).trans (by decide), hall⟩

end Accessors.Selection
