import Accessors.Proofs.Generate.Candidates
import Accessors.Proofs.Generate.Outcome
import Accessors.Proofs.Report.Formats
import Accessors.Run

/-!
# What an action does to files

An action reads its settings and its file, generates, and looks whether the generated text parses.
It writes at the end only, if at all, so whatever stops it on the way leaves every file alone.

* `FileTree.fileAt?_writeAt`, `FileTree.readText_write`: a tree after a file is written.
* `Run.answer`, `Run.Generates`, `Run.Stops`: what an action finds.
* `Run.ended`: how an action ends, before anything is shown or written.
* `Run.act_confined_to_file`: files and exit code of an action.
-/

namespace Accessors

open Selection (Request Response)
open Syntax (Program)

/-! ## Writing a file -/

theorem Text.ofUtf8?_toUtf8 (t : Text) : ofUtf8? (toUtf8 t) = some t := by
  have hbytes : ByteArray.mk (toUtf8 t).toArray = t.utf8Encode := by
    apply ByteArray.ext
    rw [toUtf8, List.utf8Encode, List.data_toByteArray]
  rw [ofUtf8?, hbytes, List.utf8Decode?_utf8Encode, Option.map_some]

namespace FileTree

variable (t : FileTree) (place : Place) (bytes : List UInt8)

/-- Writing changes the contents of one file. -/
theorem fileAt?_writeAt (p : Place) :
    (t.writeAt place bytes).fileAt? p =
      (t.fileAt? p).map fun old => if p = place then bytes else old := by
  obtain ⟨files, directories⟩ := t
  simp only [fileAt?, writeAt]
  induction files with
  | nil => rfl
  | cons entry files ih =>
    obtain ⟨q, old⟩ := entry
    rw [List.map_cons, List.lookup_cons, List.lookup_cons, ih]
    by_cases hq : p = q
    · subst hq
      simp
    · have hne : (p == q) = false := by simpa using hq
      simp [hne]

theorem isDirectory_writeAt (p : Place) :
    (t.writeAt place bytes).isDirectory p = t.isDirectory p := by
  simp only [isDirectory, writeAt, List.any_map]
  rfl

theorem follow_writeAt (start : Place) (names : List Text) :
    (t.writeAt place bytes).follow start names = t.follow start names := by
  induction names generalizing start with
  | nil => rfl
  | cons name names ih =>
    rw [follow, follow, fileAt?_writeAt, Option.isSome_map, isDirectory_writeAt, ih]

theorem resolve_writeAt (workingDirectory : Place) (path : Text) :
    (t.writeAt place bytes).resolve workingDirectory path = t.resolve workingDirectory path := by
  rw [resolve, resolve]
  simp only [follow_writeAt]

variable {t place} {workingDirectory : Place} {path : Text}

theorem exists_of_isFile (h : t.isFile workingDirectory path = true) :
    ∃ place old, t.resolve workingDirectory path = .ok place ∧ t.fileAt? place = some old := by
  rw [isFile] at h
  split at h
  · rename_i place hplace
    obtain ⟨old, hold⟩ := Option.isSome_iff_exists.1 h
    exact ⟨place, old, hplace, hold⟩
  · cases h

/-- The text written to a file is read from it. -/
theorem readText_write (hplace : t.resolve workingDirectory path = .ok place) {old : List UInt8}
    (hold : t.fileAt? place = some old) (text : Text) :
    (t.write workingDirectory path text).readText workingDirectory path = .ok text := by
  rw [write, hplace]
  simp only [readText, read, resolve_writeAt, hplace, bind, Except.bind, fileAt?_writeAt, hold,
    Option.map_some, if_true, Text.ofUtf8?_toUtf8]

end FileTree

/-! ## What an action finds -/

namespace Run

variable (here : Surroundings) (input : List UInt8) (action : Action) (a : ActionArguments)

/-- The answer to a request: what is marked in it, or what the terminal says. -/
def answer (yes : Bool) (r : Request) : Response :=
  if yes then Selection.acceptPicked r else (Prompt.run here.colors input r).1

/-- The settings are in order, there is a text to read, and this is what generation gives. -/
def Generates (manner : Report.Manner) (text : Text) (r : Except Failure Generation) : Prop :=
  ∃ options, settings here action a = .ok (manner, options) ∧
    source here a.path = .ok (some text) ∧ generate text options (answer here input a.yes) = r

/-- The settings are in order, and the run stops: there is no file, or generation fails. -/
def Stops (manner : Report.Manner) (f : Failure) : Prop :=
  (∃ options, settings here action a = .ok (manner, options) ∧ source here a.path = .ok none ∧
    f = .noActiveDocument) ∨
  ∃ text, Generates here input action a manner text (.error f)

theorem exists_settings_eq_error :
    (∃ e, settings here action a = .error e) ↔
      (∃ e, configuration here a.shared = .error e) ∨
      ∃ config, configuration here a.shared = .ok config ∧
        ((∃ e, format config a = .error e) ∨ ∃ e, visibility config a.shared = .error e) := by
  rw [settings]
  cases configuration here a.shared with
  | error e => simp [bind, Except.bind]
  | ok config =>
    cases hformat : format config a with
    | error e => simp [bind, Except.bind, hformat]
    | ok f =>
      cases hvisibility : visibility config a.shared with
      | error e => simp [bind, Except.bind, hformat, hvisibility]
      | ok v => simp [bind, Except.bind, pure, Except.pure, hformat, hvisibility]

/-! ## How an action ends -/

/-- How an action ends, before anything is shown or written. -/
def ended : Except RunError (Report.Manner × Ending) :=
  match settings here action a, source here a.path with
  | .error e, _ => .error e
  | .ok _, .error e => .error e
  | .ok (manner, _), .ok none => .ok (manner, .stopped .noActiveDocument)
  | .ok (manner, options), .ok (some text) =>
    (ending a.path text (generate text options (answer here input a.yes))).map (Prod.mk manner)

/-- What an action leaves behind, up to the dialogue with the terminal. -/
def concluded : Except RunError (Report.Manner × Ending) → Outcome
  | .error e => here.fails e
  | .ok (manner, e) => conclude here manner a (.ok e)

theorem concluded_map (manner : Report.Manner) (r : Except RunError Ending) :
    concluded here a (r.map (Prod.mk manner)) = conclude here manner a r := by
  cases r with
  | error e => rfl
  | ok e => rfl

/-- An action leaves behind what follows from its ending, and what its question wrote. -/
theorem exists_runAction_eq :
    ∃ transcript, runAction here action a input =
      { concluded here a (ended here input action a) with
        err := transcript ++ (concluded here a (ended here input action a)).err } := by
  rw [runAction, act, ended]
  cases settings here action a with
  | error e => exact ⟨[], rfl⟩
  | ok s =>
    obtain ⟨manner, options⟩ := s
    cases source here a.path with
    | error e => exact ⟨[], rfl⟩
    | ok found =>
      cases found with
      | none => exact ⟨[], rfl⟩
      | some text =>
        simp only [concluded_map, generate]
        cases Generate.offer text options with
        | error f => exact ⟨[], rfl⟩
        | ok offer =>
          cases hyes : a.yes with
          | true => exact ⟨[], rfl⟩
          | false => exact ⟨(Prompt.run here.colors input offer.request).2, rfl⟩

theorem exitCode_run :
    (run here input (.act action a)).exitCode =
      (concluded here a (ended here input action a)).exitCode := by
  obtain ⟨transcript, hrun⟩ := exists_runAction_eq here input action a
  rw [run, hrun]

theorem out_run :
    (run here input (.act action a)).out = (concluded here a (ended here input action a)).out := by
  obtain ⟨transcript, hrun⟩ := exists_runAction_eq here input action a
  rw [run, hrun]

theorem files_run :
    (run here input (.act action a)).files =
      (concluded here a (ended here input action a)).files := by
  obtain ⟨transcript, hrun⟩ := exists_runAction_eq here input action a
  rw [run, hrun]

/-- Whether edits are written makes no difference to how an action ends. -/
theorem ended_fix (fix : Bool) :
    ended here input action { a with fix } = ended here input action a := rfl

variable {here input action a} {manner : Report.Manner} {text : Text}

theorem ended_of_generates {r : Except Failure Generation}
    (h : Generates here input action a manner text r) :
    ended here input action a = (ending a.path text r).map (Prod.mk manner) := by
  obtain ⟨options, hsettings, hsource, rfl⟩ := h
  rw [ended, hsettings, hsource]

theorem ended_of_stops {f : Failure} (h : Stops here input action a manner f) :
    ended here input action a = .ok (manner, .stopped f) := by
  rcases h with ⟨options, hsettings, hsource, rfl⟩ | ⟨text, hgenerates⟩
  · rw [ended, hsettings, hsource]
  · rw [ended_of_generates hgenerates]
    rfl

theorem ended_of_parse? {planned : List PlannedEdit} {edits : List Edit} {output : Text}
    (h : Generates here input action a manner text (.ok (.edited planned edits output))) :
    ended here input action a =
      if (Program.parse? output).isSome then .ok (manner, .edited planned text output)
      else .error (.brokenOutput a.path) := by
  rw [ended_of_generates h, ending]
  split
  · rfl
  · rfl

/-- Everything that can become of an action. -/
theorem ended_cases (here : Surroundings) (input : List UInt8) (action : Action)
    (a : ActionArguments) :
    (∃ e, settings here action a = .error e ∧ ended here input action a = .error e) ∨
    (∃ e, source here a.path = .error e ∧ ended here input action a = .error e) ∨
    (∃ manner f, Stops here input action a manner f) ∨
    (∃ manner text, Generates here input action a manner text (.ok .cancelled)) ∨
    ∃ manner text planned edits output,
      Generates here input action a manner text (.ok (.edited planned edits output)) := by
  rw [ended]
  cases hsettings : settings here action a with
  | error e => exact Or.inl ⟨e, rfl, rfl⟩
  | ok s =>
    obtain ⟨manner, options⟩ := s
    cases hsource : source here a.path with
    | error e => exact Or.inr (Or.inl ⟨e, rfl, rfl⟩)
    | ok found =>
      refine Or.inr (Or.inr ?_)
      cases found with
      | none => exact Or.inl ⟨manner, _, Or.inl ⟨options, hsettings, hsource, rfl⟩⟩
      | some text =>
        have hgenerates : Generates here input action a manner text
            (generate text options (answer here input a.yes)) := ⟨options, hsettings, hsource, rfl⟩
        cases hresult : generate text options (answer here input a.yes) with
        | error f => exact Or.inl ⟨manner, f, Or.inr ⟨text, hresult ▸ hgenerates⟩⟩
        | ok g =>
          rw [hresult] at hgenerates
          cases g with
          | cancelled => exact Or.inr (Or.inl ⟨manner, text, hgenerates⟩)
          | edited planned edits output =>
            exact Or.inr (Or.inr ⟨manner, text, planned, edits, output, hgenerates⟩)

theorem ended_eq_edited {planned : List PlannedEdit} {output : Text} :
    ended here input action a = .ok (manner, .edited planned text output) ↔
      ∃ edits, Generates here input action a manner text (.ok (.edited planned edits output)) ∧
        (Program.parse? output).isSome = true := by
  constructor
  · intro h
    rcases ended_cases here input action a with ⟨e, -, hended⟩ | ⟨e, -, hended⟩ | ⟨m, f, hstops⟩ |
      ⟨m, t, hcancelled⟩ | ⟨m, t, p, edits, o, hgenerates⟩
    · rw [hended] at h
      cases h
    · rw [hended] at h
      cases h
    · rw [ended_of_stops hstops] at h
      cases h
    · rw [ended_of_generates hcancelled] at h
      cases h
    · rw [ended_of_parse? hgenerates] at h
      split at h
      · rename_i hparse
        cases h
        exact ⟨edits, hgenerates, hparse⟩
      · cases h
  · rintro ⟨edits, hgenerates, hparse⟩
    rw [ended_of_parse? hgenerates, if_pos hparse]

theorem ended_eq_stopped {f : Failure} :
    ended here input action a = .ok (manner, .stopped f) ↔ Stops here input action a manner f := by
  constructor
  · intro h
    rcases ended_cases here input action a with ⟨e, -, hended⟩ | ⟨e, -, hended⟩ | ⟨m, f', hstops⟩ |
      ⟨m, t, hcancelled⟩ | ⟨m, t, p, edits, o, hgenerates⟩
    · rw [hended] at h
      cases h
    · rw [hended] at h
      cases h
    · rw [ended_of_stops hstops] at h
      cases h
      exact hstops
    · rw [ended_of_generates hcancelled] at h
      cases h
    · rw [ended_of_parse? hgenerates] at h
      split at h
      · cases h
      · cases h
  · exact ended_of_stops

theorem exists_ended_eq_error :
    (∃ e, ended here input action a = .error e) ↔
      (∃ e, settings here action a = .error e) ∨ (∃ e, source here a.path = .error e) ∨
      ∃ manner text planned edits output,
        Generates here input action a manner text (.ok (.edited planned edits output)) ∧
          Program.parse? output = none := by
  constructor
  · rintro ⟨e, h⟩
    rcases ended_cases here input action a with ⟨e, hsettings, -⟩ | ⟨e, hsource, -⟩ |
      ⟨m, f, hstops⟩ | ⟨m, t, hcancelled⟩ | ⟨m, t, p, edits, o, hgenerates⟩
    · exact Or.inl ⟨e, hsettings⟩
    · exact Or.inr (Or.inl ⟨e, hsource⟩)
    · rw [ended_of_stops hstops] at h
      cases h
    · rw [ended_of_generates hcancelled] at h
      cases h
    · rw [ended_of_parse? hgenerates] at h
      split at h
      · cases h
      · rename_i hparse
        have hnone := Option.not_isSome_iff_eq_none.1 hparse
        exact Or.inr (Or.inr ⟨m, t, p, edits, o, hgenerates, hnone⟩)
  · rintro (⟨e, hsettings⟩ | ⟨e, hsource⟩ | ⟨m, t, planned, edits, output, hgenerates, hparse⟩)
    · exact ⟨e, by rw [ended, hsettings]⟩
    · rw [ended, hsource]
      cases settings here action a with
      | error e' => exact ⟨e', rfl⟩
      | ok s => exact ⟨e, rfl⟩
    · exact ⟨.brokenOutput a.path, by rw [ended_of_parse? hgenerates, hparse]; rfl⟩

/-! ## Exit codes and files -/

/-- What each exit code says about the ending. -/
theorem exitCode_run_spec :
    ((run here input (.act action a)).exitCode = 2 ↔
      a.fix = false ∧ ∃ manner planned text output,
        ended here input action a = .ok (manner, .edited planned text output)) ∧
    ((run here input (.act action a)).exitCode = 1 ↔
      (∃ e, ended here input action a = .error e) ∨
      ∃ manner f, ended here input action a = .ok (manner, .stopped f) ∧ f.severity = .error) ∧
    (run here input (.act action a)).exitCode ≤ 2 := by
  rw [exitCode_run]
  rcases ended here input action a with e | ⟨manner, e⟩
  · simp [concluded, Surroundings.fails]
  · cases e with
    | edited planned old new => cases hfix : a.fix <;> simp [concluded, conclude, exitCode, hfix]
    | cancelled => simp [concluded, conclude, exitCode]
    | stopped f => cases hf : f.severity <;> simp [concluded, conclude, exitCode, hf]

/-- Files change only when edits are written. -/
theorem files_run_of_not_edited
    (h : a.fix = true → ∀ manner planned text output,
      ended here input action a ≠ .ok (manner, .edited planned text output)) :
    (run here input (.act action a)).files = here.files := by
  rw [files_run]
  rcases hended : ended here input action a with e | ⟨manner, e⟩
  · rfl
  · cases e with
    | cancelled => rfl
    | stopped f => rfl
    | edited planned old new =>
      cases hfix : a.fix with
      | true => exact absurd hended (h hfix manner planned old new)
      | false => simp [concluded, conclude, filesAfter, hfix]

theorem source_eq_some (h : source here a.path = .ok (some text)) :
    here.files.isFile here.workingDirectory a.path = true := by
  rw [source] at h
  split at h
  · assumption
  · cases h

/-- Edits that are written go to the file they were planned for, and nowhere else. -/
theorem exists_fileAt?_run {planned : List PlannedEdit} {output : Text}
    (h : ended here input action a = .ok (manner, .edited planned text output))
    (hsource : source here a.path = .ok (some text)) (hfix : a.fix = true) :
    ∃ place, here.files.resolve here.workingDirectory a.path = .ok place ∧
      (∀ q, (run here input (.act action a)).files.fileAt? q =
        if q = place then some (Text.toUtf8 output) else here.files.fileAt? q) ∧
      (run here input (.act action a)).files.directories = here.files.directories ∧
      (run here input (.act action a)).files.readText here.workingDirectory a.path =
        .ok output := by
  obtain ⟨place, old, hplace, hold⟩ := FileTree.exists_of_isFile (source_eq_some hsource)
  have hfiles : (run here input (.act action a)).files =
      here.files.write here.workingDirectory a.path output := by
    rw [files_run, h]
    simp only [concluded, conclude, filesAfter, hfix, if_true]
  have hwrite : here.files.write here.workingDirectory a.path output =
      here.files.writeAt place (Text.toUtf8 output) := by
    rw [FileTree.write, hplace]
  refine ⟨place, hplace, fun q => ?_, ?_, ?_⟩
  · rw [hfiles, hwrite, FileTree.fileAt?_writeAt]
    by_cases hq : q = place
    · rw [if_pos hq, hq, hold]
      simp
    · simp [hq]
  · rw [hfiles, hwrite]
    rfl
  · rw [hfiles]
    exact FileTree.readText_write hplace hold output

/-- An action touches its file only, and only to write generated text that parses. What it writes is
the text that its report tells of when it does not write. The exit code is 2 when there is such a
text and it is not written, 1 when the settings, the file or the generated text are not in order or
the run stops with an error, and 0 otherwise. -/
theorem act_confined_to_file (here : Surroundings) (input : List UInt8) (action : Action)
    (a : ActionArguments) :
    let o := run here input (.act action a)
    let dry := run here input (.act action { a with fix := false })
    let Edits := fun manner text planned edits output =>
      Generates here input action a manner text (.ok (.edited planned edits output))
    (∀ manner text planned edits output, Edits manner text planned edits output →
      (Program.parse? output).isSome = true →
        dry.files = here.files ∧
        Report.Tells manner a.path planned text output dry.out ∧
        (a.fix = true → ∃ place, here.files.resolve here.workingDirectory a.path = .ok place ∧
          (∀ q, o.files.fileAt? q =
            if q = place then some (Text.toUtf8 output) else here.files.fileAt? q) ∧
          o.files.directories = here.files.directories ∧
          o.files.readText here.workingDirectory a.path = .ok output)) ∧
    ((a.fix = true → ∀ manner text planned edits output,
      Edits manner text planned edits output → Program.parse? output = none) →
        o.files = here.files) ∧
    (o.exitCode = 2 ↔ a.fix = false ∧ ∃ manner text planned edits output,
      Edits manner text planned edits output ∧ (Program.parse? output).isSome = true) ∧
    (o.exitCode = 1 ↔
      (∃ e, configuration here a.shared = .error e) ∨
      (∃ config, configuration here a.shared = .ok config ∧
        ((∃ e, format config a = .error e) ∨ ∃ e, visibility config a.shared = .error e)) ∨
      (∃ e, source here a.path = .error e) ∨
      (∃ manner text planned edits output,
        Edits manner text planned edits output ∧ Program.parse? output = none) ∨
      ∃ manner f, Stops here input action a manner f ∧ f.severity = .error) ∧
    (o.exitCode ≠ 2 → o.exitCode ≠ 1 → o.exitCode = 0) := by
  intro o dry Edits
  refine ⟨?_, ?_, ?_, ?_, ?_⟩
  · intro manner text planned edits output hedits hparse
    have hended := ended_eq_edited.2 ⟨edits, hedits, hparse⟩
    refine ⟨files_run_of_not_edited (by simp), ?_, ?_⟩
    · obtain ⟨options, -, -, hgenerate⟩ := hedits
      have hout : dry.out =
          (Report.ofEnding manner a.path false (.edited planned text output)).out := by
        show (run here input (.act action { a with fix := false })).out = _
        rw [out_run, ended_fix, hended]
        rfl
      rw [hout]
      exact Report.tells_ofEnding manner a.path (Generate.planned_ne_nil hgenerate) text output
    · obtain ⟨options, -, hsource, -⟩ := hedits
      exact exists_fileAt?_run hended hsource
  · intro h
    refine files_run_of_not_edited fun hfix manner planned text output hended => ?_
    obtain ⟨edits, hedits, hparse⟩ := ended_eq_edited.1 hended
    rw [h hfix manner text planned edits output hedits] at hparse
    cases hparse
  · rw [exitCode_run_spec.1]
    refine and_congr_right fun _ => ⟨?_, ?_⟩
    · rintro ⟨manner, planned, text, output, hended⟩
      obtain ⟨edits, hedits, hparse⟩ := ended_eq_edited.1 hended
      exact ⟨manner, text, planned, edits, output, hedits, hparse⟩
    · rintro ⟨manner, text, planned, edits, output, hedits, hparse⟩
      exact ⟨manner, planned, text, output, ended_eq_edited.2 ⟨edits, hedits, hparse⟩⟩
  · rw [exitCode_run_spec.2.1, exists_ended_eq_error, exists_settings_eq_error]
    simp only [ended_eq_stopped, or_assoc]
    rfl
  · intro htwo hone
    have hle : o.exitCode ≤ 2 := exitCode_run_spec.2.2
    omega

/-- A class gets its getter, and the file beside it stays; without writing, the run shows the lines
that would be added. -/
theorem act_confined_to_file_getter :
    let text := "<?php\nclass A \x7b\n    private $a;\n\x7d\n".toList
    let output := "<?php\nclass A \x7b\n    private $a;\n\n".toList ++
      "    public function getA() \x7b\n        return $this->a;\n    \x7d\n\n\x7d\n".toList
    let here : Surroundings :=
      ⟨⟨[(["B".toList], [1]), (["A".toList], Text.toUtf8 text)], []⟩, [], false⟩
    let shared : SharedArguments := ⟨none, none, none, true, false⟩
    let a : ActionArguments := ⟨"A".toList, true, true, none, false, shared⟩
    (run here [] (.act .getters a)).files.readText [] "A".toList = .ok output ∧
      (run here [] (.act .getters a)).files.fileAt? ["B".toList] = some [1] ∧
      (run here [] (.act .getters { a with fix := false })).out =
        "A\n  + \n  +     public function getA() \x7b\n  +         return $this->a;\n".toList ++
        "  +     \x7d\n  + \n\n  -> A: getA\n\nRun with --fix to apply changes\n".toList ∧
      (run here [] (.act .getters { a with fix := false, format := some "diff".toList })).out =
        "--- a/A\n+++ b/A\n@@ -1,4 +1,9 @@\n <?php\n class A \x7b\n     private $a;\n".toList ++
        "+\n+    public function getA() \x7b\n+        return $this->a;\n".toList ++
        "+    \x7d\n+\n \x7d\n".toList := by
  intro text output here shared a
  obtain ⟨hparse, houtput⟩ : (Program.parse? output).isSome = true ∧
      Generation.output? (generateAll text ⟨.gettersOnly, .isPrivate, 4⟩) = some output := by
    decide +kernel
  obtain ⟨planned, edits, hrun⟩ := Generation.exists_of_output? houtput
  have hsource : source here a.path = .ok (some text) := by
    have hread : here.files.readText here.workingDirectory a.path = .ok text := by
      have hfile : here.files.read here.workingDirectory a.path = .ok (Text.toUtf8 text) := rfl
      rw [FileTree.readText, hfile]
      simp only [bind, Except.bind, Text.ofUtf8?_toUtf8]
    rw [source, if_pos (by rfl), hread]
  have hedits : Generates here [] .getters a ⟨.text, false, false⟩ text
      (.ok (.edited planned edits output)) :=
    ⟨⟨.gettersOnly, .isPrivate, 4⟩, by rfl, hsource, hrun⟩
  obtain ⟨-, -, hfix⟩ := (act_confined_to_file here [] .getters a).1 _ _ _ _ _ hedits hparse
  obtain ⟨place, hplace, hfiles, -, hread⟩ := hfix rfl
  have hne : ["B".toList] ≠ place := by
    cases hplace
    decide
  refine ⟨hread, ?_, by decide +kernel⟩
  rw [hfiles, if_neg hne]
  rfl

end Run

end Accessors
