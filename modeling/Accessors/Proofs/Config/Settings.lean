import Accessors.Proofs.Config.Search
import Accessors.Proofs.Text.Decimal
import Accessors.Proofs.Text.Trim

/-!
# Settings in force

The indentation comes from the command line, or else from the configuration file, where it is an
integer or a text. An integer is written in decimal and then read as a text is.

* `resolveTabSize_pos`: an indentation is at least one column wide.
* `resolveTabSize_ofInt`: an integer in decimal notation, with blanks around it.
* `Config.settings_in_force`: which file is read, and the indentation that follows from it.
-/

namespace Accessors

open Text

/-! ## The indentation -/

theorem Text.isBlankChar_of_isDigit {c : Char} (h : c.isDigit = true) : isBlankChar c = false := by
  have hrange : 48 ≤ c.toNat ∧ c.toNat ≤ 57 := by
    simpa [Char.isDigit, UInt32.le_iff_toNat_le] using h
  rw [isBlankChar]
  simp
  omega

/-- There is no blank in a number in decimal notation. -/
theorem Text.isBlankChar_of_mem_ofInt {w : Int} {c : Char} (h : c ∈ ofInt w) :
    isBlankChar c = false := by
  cases w with
  | ofNat n => exact isBlankChar_of_isDigit (isDigit_of_mem_ofNat h)
  | negSucc n =>
    rcases List.mem_cons.1 h with rfl | h
    · decide
    · exact isBlankChar_of_isDigit (isDigit_of_mem_ofNat h)

theorem resolveTabSize_pos (setting : Option Text) : 1 ≤ resolveTabSize setting := by
  rw [resolveTabSize]
  split
  · exact Nat.le_add_left 1 _
  · decide

/-- An integer in decimal notation stands for itself if it is positive, and for the default if it is
not. -/
theorem resolveTabSize_ofInt {front back : Text} (hfront : isBlank front = true)
    (hback : isBlank back = true) {w : Int} (hw : w < UInt64.size) :
    resolveTabSize (some (front ++ ofInt w ++ back)) = if 0 < w then w.toNat else 4 := by
  have htrim : trim (front ++ ofInt w ++ back) = ofInt w :=
    trim_surrounded hfront (fun c hc => isBlankChar_of_mem_ofInt hc) hback
  rw [resolveTabSize, Option.bind_some, htrim, word64?_ofInt hw]
  rcases Int.lt_trichotomy w 0 with hneg | rfl | hpos
  · rw [if_neg (Int.not_le.2 hneg), if_neg (Int.not_lt.2 (Int.le_of_lt hneg))]
    rfl
  · rfl
  · obtain ⟨n, rfl⟩ := Int.eq_succ_of_zero_lt hpos
    rw [if_pos (Int.le_of_lt hpos), if_pos hpos]
    rfl

namespace Config

theorem effectiveTabSize_pos (c : Config) (commandLine : Option Text) :
    1 ≤ c.effectiveTabSize commandLine := by
  cases commandLine with
  | some width => exact resolveTabSize_pos (some width)
  | none =>
    rw [effectiveTabSize]
    split
    · exact resolveTabSize_pos _
    · exact resolveTabSize_pos _
    · exact resolveTabSize_pos none

theorem effectiveTabSize_integer {c : Config} {w : Int} (hw : w < UInt64.size)
    (h : c.tabSize = some (.integer w)) :
    c.effectiveTabSize none = if 0 < w then w.toNat else 4 := by
  have hread : resolveTabSize (some ([] ++ ofInt w ++ [])) = if 0 < w then w.toNat else 4 :=
    resolveTabSize_ofInt rfl rfl hw
  rw [List.nil_append, List.append_nil] at hread
  rw [effectiveTabSize, h]
  exact hread

theorem effectiveTabSize_string {c : Config} {w : Int} (hw : w < UInt64.size) {front back : Text}
    (hfront : isBlank front = true) (hback : isBlank back = true)
    (h : c.tabSize = some (.string (front ++ ofInt w ++ back))) :
    c.effectiveTabSize none = if 0 < w then w.toNat else 4 := by
  rw [effectiveTabSize, h]
  exact resolveTabSize_ofInt hfront hback hw

/-! ## The file and its settings -/

/-- From an absolute path upward, the file of the nearest directory that has one is read and no
other file: where it cannot be read or is malformed, the search fails. Nothing is found exactly when
no directory has a file. Where the path does not go upward itself, the file of a directory lies at
the place below it. The indentation is at least one column wide; one that the command line gives
comes first, usable or not, and otherwise an integer is the indentation if it is positive, whether
it is given as such or as text with blanks around it, and 4 if it is not. -/
theorem settings_in_force (t : FileTree) (rest : Text) :
    let names := (FileTree.route [] ('/' :: rest)).2
    let start := proper names
    (search t names = .ok none ↔ ∀ d, d <+: start → t.pathExists [] (pathIn d) = false) ∧
    ((∃ d, d <+: start ∧ t.pathExists [] (pathIn d) = true) → ∃ d, Nearest t start d) ∧
    (∀ d, Nearest t start d → ∃ path, t.resolve [] path = t.resolve [] (pathIn d) ∧
      search t names = match t.readText [] path with
        | .error cause => .error (.unreadable path cause)
        | .ok text =>
          match parse? text with
          | none => .error (.malformed path)
          | some config => .ok (some (config, path))) ∧
    ((∀ name ∈ start, name ≠ ['.', '.']) → ∀ d, d <+: start →
      (t.pathExists [] (pathIn d) = true ↔ t.Holds (d ++ [fileName])) ∧
      (t.Holds (d ++ [fileName]) → t.resolve [] (pathIn d) = .ok (d ++ [fileName]))) ∧
    ∀ c : Config, (∀ commandLine, 1 ≤ c.effectiveTabSize commandLine) ∧
      (∀ width, c.effectiveTabSize (some width) = resolveTabSize (some width)) ∧
      ∀ word : Int64,
        let w := word.toInt
        (c.tabSize = some (.integer w) →
          c.effectiveTabSize none = if 0 < w then w.toNat else 4) ∧
        ∀ front back, isBlank front = true → isBlank back = true →
          c.tabSize = some (.string (front ++ ofInt w ++ back)) →
          c.effectiveTabSize none = if 0 < w then w.toNat else 4 := by
  intro names start
  have hfree : ∀ name ∈ names, '/' ∉ name := fun name hname => not_mem_of_mem_splitOn hname
  refine ⟨search_eq_none_iff hfree, ?_, ?_, ?_, ?_⟩
  · intro hsome
    obtain ⟨d, path, hd, -, -⟩ := exists_search_eq hfree hsome
    exact ⟨d, hd⟩
  · intro d hd
    obtain ⟨d', path, hd', hpath, hsearch⟩ := exists_search_eq hfree ⟨d, hd.above, hd.stands⟩
    obtain rfl := hd.unique hd'
    exact ⟨path, hpath, hsearch⟩
  · intro hup d hd
    have hplain : ∀ name ∈ d, FileTree.IsPlain name := by
      intro name hname
      have hstart : name ∈ start := hd.subset hname
      exact ⟨isIdle_of_mem_proper hstart, hup name hstart⟩
    have hfree' : ∀ name ∈ d, '/' ∉ name := by
      intro name hname
      exact hfree name (mem_of_mem_proper (hd.subset hname))
    exact ⟨pathExists_iff_holds hfree' hplain, resolve_pathIn_of_holds hfree' hplain⟩
  · intro c
    refine ⟨c.effectiveTabSize_pos, fun width => rfl, ?_⟩
    intro word w
    have hw : w < UInt64.size := Int.lt_trans word.toInt_lt (by decide)
    refine ⟨effectiveTabSize_integer hw, ?_⟩
    intro front back hfront hback h
    exact effectiveTabSize_string hw hfront hback h

/-- A malformed file below one that can be used, and a width that is not positive. -/
theorem settings_in_force_malformed :
    let outer := ["a".toList]
    let inner := ["a".toList, "b".toList]
    let t : FileTree := ⟨[(outer ++ [fileName], toUtf8 "[generate]\ntab_size = 2".toList),
      (inner ++ [fileName], toUtf8 "[generate".toList)], [inner ++ ["c".toList]]⟩
    let names := (FileTree.route [] "/a//b/./c".toList).2
    (∃ path, search t names = .error (.malformed path)) ∧
      (load t [] (pathIn outer)).toOption.map (·.effectiveTabSize none) = some 2 ∧
      (Config.mk none (some (.string "\t-3 ".toList)) none).effectiveTabSize none = 4 := by
  intro outer inner t names
  obtain ⟨-, -, hnearest, -, hsettings⟩ := settings_in_force t "a//b/./c".toList
  have hinner : Nearest t (inner ++ ["c".toList]) inner := by
    refine ⟨List.prefix_append .., by decide +kernel, ?_⟩
    intro d hle hge hstands
    rcases List.prefix_concat_iff.1 hge with rfl | hge
    · exact absurd hstands (by decide +kernel)
    · exact hge.eq_of_length_le hle.length_le
  obtain ⟨path, hpath, hsearch⟩ := hnearest inner hinner
  have hread : t.readText [] path = .ok "[generate".toList := by
    have hcontents : t.readText [] path = t.readText [] (pathIn inner) := by
      simp only [FileTree.readText, FileTree.read, hpath]
    rw [hcontents]
    rfl
  have hparse : parse? "[generate".toList = none := by
    rw [← Option.isNone_iff_eq_none]
    decide +kernel
  rw [hread] at hsearch
  simp only [hparse] at hsearch
  have hwidth := (hsettings ⟨none, some (.string "\t-3 ".toList), none⟩).2.2 (-3)
  exact ⟨⟨path, hsearch⟩, by decide +kernel, hwidth.2 ['\t'] [' '] rfl rfl rfl⟩

end Config

end Accessors
