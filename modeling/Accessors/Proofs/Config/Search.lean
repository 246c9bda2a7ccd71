import Accessors.Config
import Accessors.Proofs.Text.Split
import Mathlib.Data.List.Infix

/-!
# The nearest configuration file

A directory is given by names, and the directories above it are what is left without the last names.
Empty names and dots lead nowhere, so they count neither for where a file lies nor for what lies
above. The search goes upward and stops at the first directory with a file in it.

* `FileTree.follow_filter`: names that lead nowhere change nothing.
* `FileTree.Holds`, `FileTree.follow_eq_ok_iff`: what it takes to get to a place.
* `Config.proper`, `Config.resolve_pathIn`: where the file of a directory lies.
* `Config.Nearest`, `Config.finds_nearest?`: the search finds the nearest file, or there is none.
* `Config.search_eq_none_iff`, `Config.exists_search_eq`: what becomes of the file that is found.
-/

namespace Accessors

open Text

/-! ## Places -/

namespace FileTree

open Config (isIdle)

variable {t : FileTree} {place : Place} {name : Text} {names : List Text}

theorem follow_of_isIdle (h : isIdle name = true) (hne : names ≠ []) :
    t.follow place (name :: names) = t.follow place names := by
  have hstep : step place name = place := by
    rw [step, if_pos]
    exact h
  cases names with
  | nil => exact absurd rfl hne
  | cons next names =>
    -- both ask the same of the place
    rw [follow, hstep, follow]
    split
    · rfl
    · split
      · rfl
      · rfl

/-- Names that lead nowhere change nothing in front of another name. -/
theorem follow_filter (t : FileTree) (place : Place) (names : List Text) (last : Text) :
    t.follow place (names ++ [last]) = t.follow place (names.filter (!isIdle ·) ++ [last]) := by
  induction names generalizing place with
  | nil => rfl
  | cons name names ih =>
    cases hname : isIdle name with
    | true =>
      rw [List.cons_append, follow_of_isIdle hname (by simp), ih,
        List.filter_cons_of_neg (by simp [hname])]
    | false =>
      rw [List.filter_cons_of_pos (by simp [hname]), List.cons_append, List.cons_append, follow,
        follow, ih]

/-- A name that leads to what has this name. -/
def IsPlain (name : Text) : Prop := isIdle name = false ∧ name ≠ ['.', '.']

theorem step_of_isPlain (h : IsPlain name) : step place name = place ++ [name] := by
  obtain ⟨hidle, hup⟩ := h
  rw [step, if_neg, if_neg hup]
  rw [isIdle] at hidle
  simpa using hidle

theorem follow_eq_ok_iff (h : ∀ name ∈ names, IsPlain name) {r : Place} :
    t.follow place names = .ok r ↔ r = place ++ names ∧
      ∀ k, k < names.length → t.fileAt? (place ++ names.take k) = none ∧
        t.isDirectory (place ++ names.take k) = true := by
  induction names generalizing place with
  | nil =>
    rw [follow, List.append_nil, Except.ok.injEq, eq_comm]
    simp
  | cons name names ih =>
    rw [List.forall_mem_cons] at h
    rw [follow, List.length_cons, Nat.forall_lt_succ_left]
    simp only [List.take_zero, List.append_nil, List.take_succ_cons]
    cases hfile : t.fileAt? place with
    | some bytes => simp
    | none =>
      cases hdirectory : t.isDirectory place with
      | false => simp
      | true =>
        simp only [Option.isSome_none, Bool.false_eq_true, if_false, Bool.not_true, and_self,
          true_and, step_of_isPlain h.1, ih h.2, List.append_assoc, List.singleton_append]

/-- Something is at a place, and nothing on the way to it is a file. -/
structure Holds (t : FileTree) (q : Place) : Prop where
  stands : (t.fileAt? q).isSome = true ∨ t.isDirectory q = true
  way : ∀ k, k < q.length → t.fileAt? (q.take k) = none

/-- What lies on the way to something is a directory. -/
theorem isDirectory_take {q : Place} (h : (t.fileAt? q).isSome = true ∨ t.isDirectory q = true)
    {k : Nat} (hk : k < q.length) : t.isDirectory (q.take k) = true := by
  have hprefix : q.take k <+: q := List.take_prefix k q
  have hshort : ∀ r, q <+: r → q.take k ≠ r := by
    rintro r hr heq
    have hlength := hr.length_le
    rw [← heq, List.length_take] at hlength
    omega
  simp only [isDirectory, Bool.or_eq_true, List.any_eq_true, Bool.and_eq_true,
    List.isPrefixOf_iff_prefix, decide_eq_true_eq, List.isEmpty_iff, Prod.exists] at h ⊢
  rcases h with hfile | (hroot | ⟨r, hr, hqr⟩) | ⟨r, bytes, hr, hqr, -⟩
  · obtain ⟨bytes, hbytes⟩ := Option.isSome_iff_exists.1 hfile
    obtain ⟨before, behind, hfiles, -⟩ := List.lookup_eq_some_iff.1 hbytes
    have hmem : (q, bytes) ∈ t.files := by
      rw [hfiles]
      simp
    exact Or.inr ⟨q, bytes, hmem, hprefix, hshort q (List.prefix_refl q)⟩
  · rw [hroot] at hk
    exact absurd hk (Nat.not_lt_zero k)
  · exact Or.inl (Or.inr ⟨r, hr, hprefix.trans hqr⟩)
  · exact Or.inr ⟨r, bytes, hr, hprefix.trans hqr, hshort r hqr⟩

theorem Holds.follow (h : t.Holds names) (hplain : ∀ name ∈ names, IsPlain name) :
    t.follow [] names = .ok names := by
  refine (follow_eq_ok_iff hplain).2 ⟨rfl, ?_⟩
  intro k hk
  exact ⟨h.way k hk, isDirectory_take h.stands hk⟩

/-- A path of plain names leads to something exactly when something is at this place. -/
theorem exists_follow_iff (hplain : ∀ name ∈ names, IsPlain name) :
    (∃ q, t.follow [] names = .ok q ∧ ((t.fileAt? q).isSome = true ∨ t.isDirectory q = true)) ↔
      t.Holds names := by
  constructor
  · rintro ⟨q, hq, hstands⟩
    obtain ⟨rfl, hway⟩ := (follow_eq_ok_iff hplain).1 hq
    exact ⟨hstands, fun k hk => (hway k hk).1⟩
  · intro h
    exact ⟨names, h.follow hplain, h.stands⟩

end FileTree

/-! ## The file of a directory -/

namespace Config

open FileTree (IsPlain)

variable {t : FileTree} {names : List Text}

/-- The names that lead somewhere. -/
def proper (names : List Text) : List Text := names.filter (!isIdle ·)

theorem proper_proper (names : List Text) : proper (proper names) = proper names := by
  rw [proper, proper, List.filter_filter]
  simp

theorem proper_concat (names : List Text) (name : Text) :
    proper (names ++ [name]) = if isIdle name then proper names else proper names ++ [name] := by
  rw [proper, proper, List.filter_append]
  cases hname : isIdle name with
  | true => simp [hname]
  | false => simp [hname]

theorem mem_of_mem_proper {name : Text} (h : name ∈ proper names) : name ∈ names :=
  (List.mem_filter.1 h).1

theorem isIdle_of_mem_proper {name : Text} (h : name ∈ proper names) : isIdle name = false := by
  simpa using (List.mem_filter.1 h).2

/-- A path ends with its last name. -/
theorem exists_path_concat (names : List Text) (name : Text) :
    ∃ front, '/' :: join ['/'] (names ++ [name]) = front ++ '/' :: name := by
  by_cases hne : names = []
  · exact ⟨[], by rw [hne]; rfl⟩
  · exact ⟨'/' :: join ['/'] names, by rw [join_concat hne]; simp⟩

/-- The path of the file is the path of the directory with one more name, which takes the place of a
last name that is empty. -/
theorem exists_pathIn_eq (h : ∀ name ∈ names, '/' ∉ name) :
    ∃ outer, (names = outer ∨ names = outer ++ [[]]) ∧
      pathIn names = '/' :: join ['/'] (outer ++ [fileName]) := by
  rcases List.eq_nil_or_concat names with rfl | ⟨outer, last, rfl⟩
  · exact ⟨[], Or.inl rfl, rfl⟩
  · rw [List.concat_eq_append] at h ⊢
    obtain ⟨front, hfront⟩ := exists_path_concat outer last
    by_cases hlast : last = []
    · subst hlast
      refine ⟨outer, Or.inr rfl, ?_⟩
      have hslash : ('/' :: join ['/'] (outer ++ [[]])).getLast? = some '/' := by
        rw [hfront]
        simp
      rw [pathIn, if_pos hslash, List.cons_append, join_concat_append, List.nil_append]
    · refine ⟨outer ++ [last], Or.inl rfl, ?_⟩
      have hslash : ('/' :: join ['/'] (outer ++ [last])).getLast? ≠ some '/' := by
        intro hslash
        rw [hfront, List.getLast?_append_of_ne_nil _ (List.cons_ne_nil '/' last),
          List.getLast?_cons_of_ne_nil hlast] at hslash
        exact h last (by simp) (List.mem_of_getLast? hslash)
      have hjoin : join ['/'] (outer ++ [last] ++ [fileName]) =
          join ['/'] (outer ++ [last]) ++ ['/'] ++ fileName := join_concat (by simp) ['/'] fileName
      rw [pathIn, if_neg hslash, hjoin]
      simp

/-- Where the file of a directory lies depends on the names alone that lead somewhere. -/
theorem resolve_pathIn (h : ∀ name ∈ names, '/' ∉ name) :
    t.resolve [] (pathIn names) = t.follow [] (proper names ++ [fileName]) := by
  obtain ⟨outer, houter, hpath⟩ := exists_pathIn_eq h
  have hproper : proper names = proper outer := by
    rcases houter with rfl | rfl
    · rfl
    · exact proper_concat outer []
  have hfree : ∀ name ∈ outer ++ [fileName], '/' ∉ name := by
    have hsub : outer ⊆ names := by
      rcases houter with rfl | rfl
      · exact List.Subset.refl _
      · exact List.subset_append_left outer [[]]
    intro name hname
    rw [List.mem_append, List.mem_singleton] at hname
    rcases hname with hname | rfl
    · exact h name (hsub hname)
    · decide
  rw [hpath, FileTree.resolve, FileTree.route, splitOn_join (by simp) hfree, hproper]
  exact FileTree.follow_filter t [] outer fileName

/-- In a directory given by plain names the file lies at the place below it. -/
theorem resolve_pathIn_of_isPlain (h : ∀ name ∈ names, '/' ∉ name)
    (hplain : ∀ name ∈ names, IsPlain name) :
    t.resolve [] (pathIn names) = t.follow [] (names ++ [fileName]) := by
  have hproper : proper names = names := by
    refine List.filter_eq_self.2 ?_
    intro name hname
    rw [(hplain name hname).1]
    rfl
  rw [resolve_pathIn h, hproper]

theorem isPlain_of_mem_concat (hplain : ∀ name ∈ names, IsPlain name) :
    ∀ name ∈ names ++ [fileName], IsPlain name := by
  intro name hname
  rw [List.mem_append, List.mem_singleton] at hname
  rcases hname with hname | rfl
  · exact hplain name hname
  · exact ⟨by decide, by decide⟩

theorem pathExists_iff_holds (h : ∀ name ∈ names, '/' ∉ name)
    (hplain : ∀ name ∈ names, IsPlain name) :
    t.pathExists [] (pathIn names) = true ↔ t.Holds (names ++ [fileName]) := by
  rw [← FileTree.exists_follow_iff (isPlain_of_mem_concat hplain), FileTree.pathExists,
    resolve_pathIn_of_isPlain h hplain]
  cases t.follow [] (names ++ [fileName]) with
  | error e => simp
  | ok q => simp

theorem resolve_pathIn_of_holds (h : ∀ name ∈ names, '/' ∉ name)
    (hplain : ∀ name ∈ names, IsPlain name) (hholds : t.Holds (names ++ [fileName])) :
    t.resolve [] (pathIn names) = .ok (names ++ [fileName]) := by
  rw [resolve_pathIn_of_isPlain h hplain]
  exact hholds.follow (isPlain_of_mem_concat hplain)

/-! ## The search -/

/-- The directory `d` lies at or above `start` and has a configuration file, and no directory
between them has one. -/
structure Nearest (t : FileTree) (start d : List Text) : Prop where
  above : d <+: start
  stands : t.pathExists [] (pathIn d) = true
  nearest : ∀ d', d <+: d' → d' <+: start → t.pathExists [] (pathIn d') = true → d' = d

theorem Nearest.unique {start d d' : List Text} (h : Nearest t start d) (h' : Nearest t start d') :
    d = d' := by
  rcases List.prefix_or_prefix_of_prefix h.above h'.above with hle | hle
  · exact (h.nearest d' hle h'.above h'.stands).symm
  · exact h'.nearest d hle h.above h.stands

/-- What a search from a directory upward is to give: a path to the nearest file, if there is a
file. -/
def Finds (t : FileTree) (start : List Text) : Option Text → Prop
  | none => ∀ d, d <+: start → t.pathExists [] (pathIn d) = false
  | some path => ∃ d, Nearest t start d ∧ t.resolve [] path = t.resolve [] (pathIn d)

/-- A directory without a file does not change what is found above it. -/
theorem Finds.concat {start : List Text} {found : Option Text} (h : Finds t start found)
    {name : Text} (hname : t.pathExists [] (pathIn (start ++ [name])) = false) :
    Finds t (start ++ [name]) found := by
  cases found with
  | none =>
    intro d hd
    rcases List.prefix_concat_iff.1 hd with rfl | hd
    · exact hname
    · exact h d hd
  | some path =>
    obtain ⟨d, ⟨habove, hstands, hnearest⟩, hpath⟩ := h
    refine ⟨d, ⟨habove.trans (List.prefix_append ..), hstands, ?_⟩, hpath⟩
    intro d' hle habove' hstands'
    rcases List.prefix_concat_iff.1 habove' with rfl | habove'
    · rw [hname] at hstands'
      cases hstands'
    · exact hnearest d' hle habove' hstands'

theorem finds_cons {start : List Text} {path : Text} {rest : List Text}
    (hpath : t.resolve [] path = t.resolve [] (pathIn start))
    (hrest : t.pathExists [] (pathIn start) = false →
      Finds t start (rest.find? (t.pathExists [] ·))) :
    Finds t start ((path :: rest).find? (t.pathExists [] ·)) := by
  have hstands : t.pathExists [] path = t.pathExists [] (pathIn start) := by
    rw [FileTree.pathExists, FileTree.pathExists, hpath]
  cases hstart : t.pathExists [] (pathIn start) with
  | true =>
    rw [List.find?_cons_of_pos (by rw [hstands, hstart])]
    refine ⟨start, ⟨List.prefix_refl start, hstart, ?_⟩, hpath⟩
    intro d hle hge _
    exact hge.eq_of_length_le hle.length_le
  | false =>
    rw [List.find?_cons_of_neg (by rw [hstands, hstart]; exact Bool.false_ne_true)]
    exact hrest hstart

theorem resolve_pathIn_proper (h : ∀ name ∈ names, '/' ∉ name) :
    t.resolve [] (pathIn names) = t.resolve [] (pathIn (proper names)) := by
  rw [resolve_pathIn h, resolve_pathIn fun name hname => h name (mem_of_mem_proper hname),
    proper_proper]

theorem finds_root (t : FileTree) : Finds t [] ([pathIn []].find? (t.pathExists [] ·)) := by
  refine finds_cons rfl ?_
  intro hroot d hd
  rwa [List.prefix_nil.1 hd]

theorem finds_ancestors {outer : List Text} (h : ∀ name ∈ outer, '/' ∉ name) :
    Finds t (proper outer.reverse)
      (((ancestors outer).map fun d => pathIn d.reverse).find? (t.pathExists [] ·)) := by
  induction outer with
  | nil => exact finds_root t
  | cons name outer ih =>
    have hrest := ih fun other hother => h other (List.mem_cons_of_mem _ hother)
    rw [List.reverse_cons, proper_concat, ancestors]
    split
    · exact hrest
    · rename_i hname
      have hfree : ∀ other ∈ (name :: outer).reverse, '/' ∉ other := by
        intro other hother
        exact h other (List.mem_reverse.1 hother)
      have hproper : proper (name :: outer).reverse = proper outer.reverse ++ [name] := by
        rw [List.reverse_cons, proper_concat, if_neg hname]
      rw [List.map_cons]
      refine finds_cons ?_ hrest.concat
      rw [resolve_pathIn_proper hfree, hproper]

/-- The search finds the nearest file at or above a directory, or there is none. -/
theorem finds_nearest? (h : ∀ name ∈ names, '/' ∉ name) :
    Finds t (proper names) (nearest? t names) := by
  rw [nearest?, candidates]
  rcases List.eq_nil_or_concat names with rfl | ⟨outer, last, rfl⟩
  · exact finds_root t
  · rw [List.concat_eq_append] at h ⊢
    have hrest := @finds_ancestors t outer.reverse fun name hname =>
      h name (List.mem_append_left _ (List.mem_reverse.1 hname))
    rw [List.reverse_reverse] at hrest
    rw [List.reverse_append]
    refine finds_cons (resolve_pathIn_proper h) ?_
    rw [proper_concat]
    split
    · exact fun _ => hrest
    · exact hrest.concat

/-- Nothing is found exactly when no directory at or above has a file, whatever is in it. -/
theorem search_eq_none_iff (h : ∀ name ∈ names, '/' ∉ name) :
    search t names = .ok none ↔ ∀ d, d <+: proper names → t.pathExists [] (pathIn d) = false := by
  have hfinds := finds_nearest? (t := t) h
  rw [search]
  cases hnearest : nearest? t names with
  | none =>
    rw [hnearest] at hfinds
    exact iff_of_true rfl hfinds
  | some path =>
    rw [hnearest] at hfinds
    obtain ⟨d, hd, -⟩ := hfinds
    refine iff_of_false ?_ ?_
    · dsimp only
      cases load t [] path with
      | error e => simp
      | ok config => simp
    · intro hnone
      have hstands := hd.stands
      rw [hnone d hd.above] at hstands
      cases hstands

/-- Where a directory at or above has a file, the nearest file alone is read, and its faults are
those of the search. -/
theorem exists_search_eq (h : ∀ name ∈ names, '/' ∉ name)
    (hsome : ∃ d, d <+: proper names ∧ t.pathExists [] (pathIn d) = true) :
    ∃ d path, Nearest t (proper names) d ∧ t.resolve [] path = t.resolve [] (pathIn d) ∧
      search t names = match t.readText [] path with
        | .error cause => .error (.unreadable path cause)
        | .ok text =>
          match parse? text with
          | none => .error (.malformed path)
          | some config => .ok (some (config, path)) := by
  have hfinds := finds_nearest? (t := t) h
  cases hnearest : nearest? t names with
  | none =>
    rw [hnearest] at hfinds
    obtain ⟨d, habove, hstands⟩ := hsome
    rw [hfinds d habove] at hstands
    cases hstands
  | some path =>
    rw [hnearest] at hfinds
    obtain ⟨d, hd, hpath⟩ := hfinds
    refine ⟨d, path, hd, hpath, ?_⟩
    rw [search, hnearest]
    simp only [load]
    cases t.readText [] path with
    | error cause => rfl
    | ok text =>
      cases hparse : parse? text with
      | none => simp [hparse]
      | some config => simp [hparse]

end Config

end Accessors
