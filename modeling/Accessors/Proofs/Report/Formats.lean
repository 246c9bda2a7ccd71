import Accessors.Proofs.Diff.Body
import Accessors.Proofs.Diff.Comparison
import Accessors.Proofs.Json.RoundTrip
import Accessors.Proofs.Report.Styles
import Accessors.Report

/-!
# What a report says

A report on edits that are not written yet tells what would change, in each of the three formats. As
text it lists the removed and the added lines and the methods of every class. As JSON it is a
document of the planned classes, which is read back. As a difference it shows lines of both texts
and turns the old one into the new one.

* `TellsText`, `TellsJson`, `TellsDiff`: the contents of a report in each format.
* `Tells`, `tells_ofEnding`: what is shown of an ending with edits.
-/

namespace Accessors.Report

open PatchFile (patched?)

/-! ## Text -/

/-- The lines that would change, each class with its methods, and how to apply the edits. -/
def TellsText (colors : Bool) (path : Text) (planned : List PlannedEdit) (old new out : Text) :
    Prop :=
  ∃ (bold red green yellow : Text → Text) (script : List LineDiff.Entry),
    (∀ t, Style.Painted colors "1".toList t (bold t)) ∧
    (∀ t, Style.Painted colors "31".toList t (red t)) ∧
    (∀ t, Style.Painted colors "32".toList t (green t)) ∧
    (∀ t, Style.Painted colors "33".toList t (yellow t)) ∧
    LineDiff.Compares old new script ∧
    out = bold path ++ ['\n'] ++
      (script.flatMap fun
        | .removed line => "  ".toList ++ red ("- ".toList ++ line) ++ ['\n']
        | .added line => "  ".toList ++ green ("+ ".toList ++ line) ++ ['\n']
        | .kept _ => []) ++ ['\n'] ++
      (planned.flatMap fun e => "  ".toList ++ green "->".toList ++ [' '] ++ e.className ++
        ": ".toList ++ ", ".toList.intercalate e.methods ++ ['\n']) ++ ['\n'] ++
      yellow "Run with --fix to apply changes".toList ++ ['\n']

theorem tellsText_editsText (m : Manner) (path : Text) (planned : List PlannedEdit)
    (old new : Text) :
    TellsText m.colors path planned old new (editsText m path false planned old new) := by
  refine ⟨Style.bold.paint m.colors, Style.red.paint m.colors, Style.green.paint m.colors,
    Style.yellow.paint m.colors, LineDiff.compare old new, Style.painted_paint _ .bold,
    Style.painted_paint _ .red, Style.painted_paint _ .green, Style.painted_paint _ .yellow,
    LineDiff.compares_compare old new, ?_⟩
  have hentry : entryLine m.colors = fun
      | .removed line => "  ".toList ++ Style.red.paint m.colors ("- ".toList ++ line) ++ ['\n']
      | .added line => "  ".toList ++ Style.green.paint m.colors ("+ ".toList ++ line) ++ ['\n']
      | .kept _ => [] := by
    funext e
    cases e <;> rfl
  have hclass : classLine m.colors = fun e : PlannedEdit =>
      "  ".toList ++ Style.green.paint m.colors "->".toList ++ [' '] ++ e.className ++
        ": ".toList ++ ", ".toList.intercalate e.methods ++ ['\n'] := by
    funext e
    delta classLine
    rw [Text.join_eq_intercalate]
    simp only [List.append_assoc, List.cons_append, List.nil_append]
  delta editsText closingLine
  rw [hentry, hclass]
  simp only [Bool.not_false, Bool.true_or, if_true, Bool.false_eq_true, if_false, List.append_assoc]

/-! ## JSON -/

/-- A document of the planned classes; its numbers are read back if they are words of 64 bits. -/
def TellsJson (path : Text) (planned : List PlannedEdit) (out : Text) : Prop :=
  planned.length < UInt64.size →
  (∀ e ∈ planned, e.insertAt.span.start.line + 1 < UInt64.size) →
    Json.parse? out = some (.object
      [("version".toList, .string CommandLine.version), ("path".toList, .string path),
       ("outcome".toList, .string "edited".toList),
       ("classes".toList, .array (planned.map fun e => .object
         [("class".toList, .string e.className),
          ("line".toList, .integer (e.insertAt.span.start.line + 1)),
          ("methods".toList, .array (e.methods.map .string))])),
       ("edits".toList, .integer planned.length), ("written".toList, .boolean false)])

section

open Json (Value)

variable (depth : Nat)

theorem fits_natural {n : Nat} (h : n < UInt64.size) : (Value.natural n).Fits (depth + 1) := by
  rw [Value.natural, Value.Fits]
  exact ⟨by omega, by exact_mod_cast h⟩

theorem fits_string (t : Text) : (Value.string t).Fits (depth + 1) := trivial

theorem fits_classValue {e : PlannedEdit} (h : e.lineNumber < UInt64.size) :
    (classValue e).Fits (depth + 3) := by
  refine ⟨Nat.succ_pos _, ?_⟩
  simp only [List.map_cons, List.map_nil, List.forall_mem_cons, List.not_mem_nil,
    false_implies, implies_true, and_true]
  refine ⟨fits_string _ _, fits_natural _ h, Nat.succ_pos _, ?_⟩
  exact List.forall_mem_map.2 fun name _ => fits_string depth name

/-- The members of a document, but for a message. -/
theorem fits_record (path : Text) {planned : List PlannedEdit}
    (hlength : planned.length < UInt64.size)
    (hlines : ∀ e ∈ planned, e.lineNumber < UInt64.size) :
    (Value.record [("version", .string CommandLine.version), ("path", .string path),
      ("outcome", .literal "edited"), ("classes", .array (planned.map classValue)),
      ("edits", .natural planned.length), ("written", .boolean false)]).Fits (depth + 5) := by
  refine ⟨Nat.succ_pos _, ?_⟩
  simp only [List.map_cons, List.map_nil, List.forall_mem_cons, List.not_mem_nil,
    false_implies, implies_true, and_true]
  refine ⟨fits_string _ _, fits_string _ _, fits_string _ _, ⟨Nat.succ_pos _, ?_⟩,
    fits_natural _ hlength, trivial⟩
  exact List.forall_mem_map.2 fun e he => fits_classValue depth (hlines e he)

end

theorem tellsJson_document (path : Text) {planned : List PlannedEdit} (hne : planned ≠ []) :
    TellsJson path planned (document path "edited" none planned false) := by
  intro hlength hlines
  have hempty : planned.isEmpty = false := by simpa using hne
  have hfits := fits_record 123 path hlength hlines
  have hparse := Json.parse?_pretty hfits (Json.isBlank_margin 0)
  rw [document]
  simp only [hempty, Option.map_none, Option.toList_none, Bool.false_eq_true, if_false]
  exact hparse

/-! ## Differences -/

/-- Lines of both texts behind two header lines. They are a patch file if the texts end with line
feeds and the headers record where the hunks stand. -/
def TellsDiff (path old new out : Text) : Prop :=
  ∃ body, out = "--- a/".toList ++ path ++ "\n+++ b/".toList ++ path ++ ['\n'] ++ body ∧
    (∃ before after, Unified.Lines old before ∧ Unified.Lines new after ∧
      Unified.Shows before after body) ∧
    (Unified.ReturnsFed old → Unified.ReturnsFed new →
      old.getLast? = some '\n' → new.getLast? = some '\n' →
      Script.Spans 0 0 (Script.compare (Unified.linesOf old) (Unified.linesOf new))
        (Unified.linesOf old).length (Unified.linesOf new).length →
      patched? (PatchFile.lines old) body = some (PatchFile.lines new))

/-! ## All formats -/

/-- What a report on edits that are not written says. -/
structure Tells (m : Manner) (path : Text) (planned : List PlannedEdit) (old new out : Text) :
    Prop where
  text : m.format = .text → TellsText m.colors path planned old new out
  json : m.format = .json → TellsJson path planned out
  diff : m.format = .diff → TellsDiff path old new out

theorem tells_ofEnding (m : Manner) (path : Text) {planned : List PlannedEdit} (hne : planned ≠ [])
    (old new : Text) :
    Tells m path planned old new (ofEnding m path false (.edited planned old new)).out := by
  obtain ⟨format, verbose, colors⟩ := m
  refine ⟨?_, ?_, ?_⟩
  · rintro rfl
    exact tellsText_editsText ⟨.text, verbose, colors⟩ path planned old new
  · rintro rfl
    exact tellsJson_document path hne
  · rintro rfl
    exact Unified.shows_render path old new

end Accessors.Report
