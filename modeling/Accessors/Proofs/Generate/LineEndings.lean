import Accessors.Proofs.Edit.Acceptance
import Accessors.Proofs.Generate.Course
import Accessors.Proofs.Plan.Confinement
import Accessors.Proofs.Plan.Removal
import Accessors.Proofs.Text.Breaks

/-!
# Line endings are kept

An output consists of pieces of the source and of inserted methods. The methods use the line ending
of the source, and a type that is copied from the source keeps its own line breaks. What is left to
see is that no edit ends between the carriage return and the line feed of one line break: positions
stand on lines without their carriage returns.

* `Document.returned_offsetAt`: no position stands inside a line break.
* `Plan.stop_le`: a planned edit does not reach past the closing brace of its class.
* `Accessor.block_rule`, `Edit.applyAll_rule`: methods, and texts with edits applied.
* `Syntax.Program.Spanned`: what the offsets of a program promise.
* `generate_lineEndings`: the line breaks of an output.
-/

namespace Accessors

open Document Text
open Syntax (ClassDecl Member Program Statement)

/-! ## Positions and line breaks -/

namespace Document

theorem lineEnding_of_returned {t : Text} (h : Returned t) (hbreak : '\n' ∈ t) :
    (ofText t).lineEnding = .crlf := by
  obtain ⟨raw, back, rfl, hraw, hback⟩ := exists_firstLine t
  rcases hback with rfl | ⟨b, rfl⟩
  · rw [List.append_nil] at hbreak
    exact absurd hbreak hraw
  · rw [lineEnding_append hraw, if_pos (h raw b rfl)]

theorem lineEnding_of_noReturn {t : Text} (h : '\r' ∉ t) : (ofText t).lineEnding = .lf := by
  obtain ⟨raw, back, rfl, hraw, hback⟩ := exists_firstLine t
  rcases hback with rfl | ⟨b, rfl⟩
  · rw [List.append_nil]
    exact lineEnding_of_free hraw
  · rw [lineEnding_append hraw, if_neg]
    intro hlast
    exact h (List.mem_append_left _ (List.mem_of_getLast? hlast))

/-- In a text whose line feeds stand behind carriage returns, a line that a line feed ends has a
carriage return of its own. -/
theorem LineAt.getLast?_raw {t front raw b : Text} {n : Nat} (h : LineAt t n front raw ('\n' :: b))
    (hreturned : Returned t) : raw.getLast? = some '\r' := by
  have hlast := hreturned (front ++ raw) b h.eq
  rw [List.getLast?_append] at hlast
  cases hraw : raw.getLast? with
  | some c => rwa [hraw] at hlast
  | none =>
    rw [hraw, Option.none_or] at hlast
    rcases h.front_ends with hfront | ⟨f, hfront⟩
    · rw [hfront] at hlast
      cases hlast
    · rw [hfront, List.getLast?_concat] at hlast
      exact absurd hlast (by decide)

/-- No position stands between a carriage return and its line feed. -/
theorem returned_offsetAt {t : Text} (h : Returned t) (p : Position) :
    Returned (dropBytes t ((ofText t).offsetAt p)) := by
  by_cases hline : p.line ≤ t.count '\n'
  · obtain ⟨front, raw, back, hat⟩ := exists_lineAt hline
    obtain ⟨z, hz, hz'⟩ := stripReturn_append raw
    obtain ⟨w, hw⟩ := List.take_prefix p.column (stripReturn raw)
    have hoffset := hat.offsetAt p.column
    generalize (stripReturn raw).take p.column = kept at hw hoffset
    have hraw : raw = kept ++ (w ++ z) := by rw [← List.append_assoc, hw, ← hz]
    have hsplit : t = (front ++ kept) ++ (w ++ z ++ back) := by
      rw [hat.eq, hraw]
      simp
    rw [hoffset, ← byteLength_append, hsplit, dropBytes_append]
    refine Returned.back (hsplit ▸ h) fun hhead => ?_
    -- a line feed right behind the position ends its line, so the carriage return was not cut off
    cases hrest : w ++ z with
    | cons c rest =>
      rw [hrest, List.cons_append, List.head?_cons, Option.some.injEq] at hhead
      exact hat.raw_free (by rw [hraw, hrest, hhead]; simp)
    | nil =>
      rcases hat.back_starts with rfl | ⟨b, rfl⟩
      · rw [hrest] at hhead
        cases hhead
      · have hlast := hat.getLast?_raw h
        rcases hz' with ⟨-, hne⟩ | rfl
        · exact hne hlast
        · simp at hrest
  · have hnil : dropBytes t (byteLength t) = [] := by simpa using dropBytes_append t []
    rw [offsetAt_of_count_lt (Nat.lt_of_not_le hline), hnil]
    exact lineRule_returned.plain (by simp [Plain])

/-- The line of an offset starts in front of it, and so does what the column takes of the line. -/
theorem exists_positionIn {lines : List Text} (h : lines ≠ []) (n : Nat) :
    ∃ start line, lineStartIn lines (positionIn lines n).line = some start ∧
      lines[(positionIn lines n).line]? = some line ∧
      start + byteLength (line.take (positionIn lines n).column) ≤ n := by
  fun_induction positionIn lines n with
  | case1 n => exact absurd rfl h
  | case2 line n =>
    refine ⟨0, line, rfl, rfl, ?_⟩
    rw [take_length_takeBytes, Nat.zero_add]
    exact byteLength_takeBytes_le line n
  | case3 line next lines n hle =>
    refine ⟨0, line, rfl, rfl, ?_⟩
    rw [take_length_takeBytes, Nat.zero_add]
    exact byteLength_takeBytes_le line n
  | case4 line next lines n hlt below ih =>
    obtain ⟨start, found, hstart, hfound, hle⟩ := ih (by simp)
    refine ⟨byteLength line + 1 + start, found, ?_, hfound, ?_⟩
    · rw [lineStartIn, hstart, Option.map_some]
    · show byteLength line + 1 + start + byteLength (found.take below.column) ≤ n
      have hcolumn : byteLength (found.take below.column) ≤ n - (byteLength line + 1) - start :=
        Nat.le_sub_of_add_le' hle
      omega

/-- The position of an offset does not stand behind it, also where the offset lies inside a
character or behind the end. -/
theorem offsetAt_positionAt_le (t : Text) (n : Nat) :
    (ofText t).offsetAt ((ofText t).positionAt n) ≤ n := by
  obtain ⟨start, line, hstart, hline, hle⟩ := exists_positionIn (splitOn_ne_nil '\n' t) n
  obtain ⟨z, hz, -⟩ := stripReturn_append line
  have hget : (ofText t).line? ((ofText t).positionAt n).line = some (stripReturn line) := by
    rw [line?]
    exact congrArg (Option.map stripReturn) hline
  have hstart' : lineStartIn (ofText t).rawLines ((ofText t).positionAt n).line = some start :=
    hstart
  rw [offsetAt, hstart', hget]
  simp only
  -- without its carriage return a line is not longer
  have htake : byteLength ((stripReturn line).take ((ofText t).positionAt n).column) ≤
      byteLength (line.take ((ofText t).positionAt n).column) := by
    conv_rhs => rw [hz, List.take_append, byteLength_append]
    exact Nat.le_add_right _ _
  exact Nat.le_trans (Nat.add_le_add_left htake start) hle

end Document

/-! ## Texts with edits applied -/

section Rules

variable {P : Text → Prop} (hP : LineRule P)

include hP

theorem Patch.assemble_rule {source : Text} {n : Nat} {patches : List Patch}
    (hn : P (dropBytes source n))
    (hpatches : ∀ p ∈ patches, P p.text ∧ P (dropBytes source p.stop)) :
    P (assemble source n patches) := by
  induction patches generalizing n with
  | nil => exact hn
  | cons p ps ih =>
    rw [List.forall_mem_cons] at hpatches
    obtain ⟨⟨htext, hstop⟩, hps⟩ := hpatches
    exact hP.append (hP.append (hP.takeBytes hn _) htext) (ih hstop hps)

/-- A condition on line breaks goes over to the text with edits applied, if the new texts have it
and no edit cuts off the front of a line break. -/
theorem Edit.applyAll_rule {source output : Text} {edits : List Edit}
    (h : applyAll source edits = .ok output) (hsource : P source)
    (hedits : ∀ e ∈ edits, P e.replacement ∧ P (dropBytes source e.stopOffset)) : P output := by
  obtain ⟨hfit, hapart⟩ := checkBatch_eq_ok_iff.1 (checkBatch_of_applyAll h)
  rw [applyAll_eq_patches hfit hapart] at h
  cases h
  refine Patch.assemble_rule hP (by rwa [dropBytes_zero]) fun p hp => ?_
  obtain ⟨e, he, rfl⟩ := List.mem_map.1 ((List.mergeSort_perm ..).subset hp)
  exact hedits e he

/-! ## Methods -/

theorem Accessor.name_rule {a : Accessor} (hname : Plain a.property.name) : P a.name := by
  obtain ⟨kind, p⟩ := a
  have hcapital : P (capitalize p.name) := hP.plain (plain_capitalize hname)
  cases kind with
  | getter => exact hP.append (hP.plain (by decide)) hcapital
  | setter => exact hP.append (hP.plain (by decide)) hcapital

theorem Accessor.parameters_rule {a : Accessor} (hname : Plain a.property.name)
    (htype : ∀ t, a.property.type = some t → P t) : P a.parameters := by
  obtain ⟨kind, name, type⟩ := a
  have hword : P name := hP.plain hname
  cases kind with
  | getter => exact hP.plain (t := []) (by decide)
  | setter =>
    cases type with
    | none => exact hP.append (s := ['$']) (hP.plain (by decide)) hword
    | some t => exact hP.append (hP.append (htype t rfl) (hP.plain (by decide))) hword

theorem Accessor.statement_rule {a : Accessor} (hname : Plain a.property.name) : P a.statement := by
  obtain ⟨kind, p⟩ := a
  have hword : P p.name := hP.plain hname
  have hend : P [';'] := hP.plain (by decide)
  cases kind with
  | getter => exact hP.append (hP.append (hP.plain (by decide)) hword) hend
  | setter =>
    have hleft : P ("$this->".toList ++ p.name ++ " = $".toList) :=
      hP.append (hP.append (hP.plain (by decide)) hword) (hP.plain (by decide))
    exact hP.append (hP.append hleft hword) hend

/-- A method has the line breaks of its line ending and of its type. -/
theorem Accessor.block_rule {a : Accessor} (hname : Plain a.property.name)
    (htype : ∀ t, a.property.type = some t → P t) {eol : Text} (heol : P eol) (tabSize : Nat) :
    P (a.block tabSize eol) := by
  have hindent : P (spaces tabSize) := hP.plain (plain_spaces tabSize)
  have hname' : P (spaces tabSize ++ "public function ".toList ++ a.name) :=
    hP.append (hP.append hindent (hP.plain (by decide))) (Accessor.name_rule hP hname)
  have hhead : P (spaces tabSize ++ "public function ".toList ++ a.name ++ ['('] ++ a.parameters ++
      ") \x7b".toList) :=
    hP.append (hP.append (hP.append hname' (hP.plain (by decide)))
      (Accessor.parameters_rule hP hname htype)) (hP.plain (by decide))
  have hbody := hP.append (hP.append (hP.append (hP.append hhead heol) hindent) hindent)
    (Accessor.statement_rule hP hname)
  have hclose := hP.append (hP.append (hP.append hbody heol) hindent) (hP.plain (t := ['\x7d'])
    (by decide))
  exact hP.append (hP.append hclose heol) heol

theorem Plan.insertedText_rule {eol body : Text} (heol : P eol) (hbody : P body) (breaks : Nat) :
    P (insertedText eol breaks body) := by
  have htext : P (times breaks eol ++ body) := hP.append (hP.times heol breaks) hbody
  rw [insertedText]
  split
  · exact hP.take htext _
  · exact htext

/-- What is planned for a class has the line breaks of the line ending and of the types. -/
theorem Plan.planClass_rule {kinds : Kinds} {tabSize : Nat} {d : Document} {c : ClassModel}
    {e : PlannedEdit} (h : planClass kinds tabSize d c = some e) (heol : P d.lineEnding.text)
    (hproperties : ∀ p ∈ c.properties, Plain p.name ∧ ∀ t, p.type = some t → P t) : P e.text := by
  rw [planClass_eq] at h
  obtain ⟨-, -, htext⟩ := adding_eq_some h
  rw [htext]
  refine Plan.insertedText_rule hP heol (hP.flatMap fun a ha => ?_) _
  obtain ⟨hname, htype⟩ := hproperties a.property (ClassModel.property_mem ha)
  exact Accessor.block_rule hP hname htype heol tabSize

end Rules

/-! ## Where planned edits end -/

theorem Plan.stop_le {source : Text} (tabSize : Nat) {n : Nat} {c : ClassModel}
    (hend : (ofText source).positionAt n = ⟨c.endLine, c.endColumn⟩) :
    (ofText source).offsetAt (insertionPoint tabSize c (ofText source)).1.span.stop ≤ n := by
  have hbrace := offsetAt_positionAt_le source n
  rw [hend] at hbrace
  rw [insertionPoint]
  split
  · rw [inlinePoint]
    simp only
    split
    · exact hbrace
    · exact hbrace
  · rename_i hlines
    -- the methods go to the line above the closing brace, or further up
    have habove : ∀ column, (ofText source).offsetAt ⟨c.endLine - 1, column⟩ ≤ n := fun column =>
      Nat.le_trans (offsetAt_le_of_line_lt source (by simp only; omega)) hbrace
    simp only
    split
    · exact habove tabSize
    · exact habove _

/-! ## Runs -/

/-- What a run plans, it plans for classes of the program. -/
theorem exists_class_of_planned {source : Text} {options : Options}
    {answer : Selection.Request → Selection.Response} {planned : List PlannedEdit}
    {edits : List Edit} {output : Text}
    (h : generate source options answer = .ok (.edited planned edits output)) :
    ∃ program, Program.parse? source = some program ∧
      ∀ e ∈ planned, ∃ c ∈ program.classes,
        Plan.planClass options.kinds options.tabSize (ofText source)
          ((c.site options.visibility (ofText source)).model (ofText source)) = some e := by
  obtain ⟨program, hparse, chosen, -, hchosen, hplan⟩ := Generate.exists_chosen_of_edited h
  refine ⟨program, hparse, fun e he => ?_⟩
  rw [(Generate.applyPlan_eq_edited hplan).1] at he
  obtain ⟨m, hm, hme⟩ := List.mem_filterMap.1 he
  obtain ⟨c, hc, hcm⟩ := List.mem_filterMap.1 (List.mem_filter.1 (hchosen m hm)).1
  rw [Extract.classModel?_eq_some hcm] at hme
  exact ⟨c, hc, hme⟩

/-- The spans of the types that are declared for the properties of a class. -/
def Syntax.ClassDecl.hints (c : ClassDecl Statement) : List (Nat × Nat) :=
  c.members.filterMap fun
    | .property decl _ => decl.hint
    | _ => none

/-- What a parser promises about its offsets: they have 32 bits, and a type starts with a character
that is not blank. -/
structure Syntax.Program.Spanned (source : Text) (program : Program) : Prop where
  closing : ∀ c ∈ program.classes, c.closing < 2 ^ 32
  hints : ∀ c ∈ program.classes, ∀ span ∈ c.hints, Plan.Opens (sliceBytes source span.1 span.2)

theorem Plan.opens_iff {t : Text} : Opens t ↔ t.head?.any (fun c => !isBlankChar c) = true := by
  cases t with
  | nil => simp [Opens]
  | cons c rest => simp [Opens]

instance (t : Text) : Decidable (Plan.Opens t) := decidable_of_iff _ Plan.opens_iff.symm

theorem Syntax.Program.spanned_iff {source : Text} {program : Program} :
    program.Spanned source ↔ ∀ c ∈ program.classes, c.closing < 2 ^ 32 ∧
      ∀ span ∈ c.hints, Plan.Opens (sliceBytes source span.1 span.2) :=
  ⟨fun h c hc => ⟨h.closing c hc, h.hints c hc⟩,
    fun h => ⟨fun c hc => (h c hc).1, fun c hc => (h c hc).2⟩⟩

instance (source : Text) (program : Program) : Decidable (program.Spanned source) :=
  decidable_of_iff _ Syntax.Program.spanned_iff.symm

/-- The properties of a class have words for names and pieces of the source for types. -/
theorem Extract.mem_properties_hints {wanted : Visibility} {source : Text} {c : ClassDecl Statement}
    {p : Property} (h : p ∈ properties wanted (ofText source) c.members) :
    Plain p.name ∧ ∀ t, p.type = some t →
      ∃ span ∈ c.hints, t = sliceBytes source span.1 span.2 := by
  obtain ⟨decl, nested, hm, -, hp⟩ := mem_properties.1 h
  rw [property?_eq] at hp
  cases hp
  refine ⟨decl.first.plain_word, fun t ht => ?_⟩
  obtain ⟨span, hspan, hslice⟩ := Option.map_eq_some_iff.1 ht
  exact ⟨span, List.mem_filterMap.2 ⟨_, hm, hspan⟩, hslice.symm⟩

/-- A piece of a text that starts with a character that is not blank keeps its carriage returns. -/
theorem Text.Returned.sliceBytes {t : Text} (h : Returned t) {start stop : Nat}
    (hopen : Plan.Opens (sliceBytes t start stop)) : Returned (sliceBytes t start stop) := by
  obtain ⟨c, rest, hc, hblank⟩ := hopen
  have hdrop : (dropBytes t start).head? = some c := by
    have hcut := takeBytes_append_dropBytes (dropBytes t start) (stop - start)
    rw [← Text.sliceBytes, hc] at hcut
    rw [← hcut]
    rfl
  refine lineRule_returned.takeBytes (Returned.back (s := takeBytes t start) ?_ ?_) _
  · rwa [takeBytes_append_dropBytes]
  · rw [hdrop]
    rintro ⟨⟩
    exact absurd hblank (by decide)

theorem Text.mem_of_mem_dropBytes {t : Text} {n : Nat} {c : Char} (h : c ∈ dropBytes t n) :
    c ∈ t := by
  rw [← takeBytes_append_dropBytes t n]
  exact List.mem_append_right _ h

theorem Text.noReturn_sliceBytes {t : Text} (h : '\r' ∉ t) (start stop : Nat) :
    '\r' ∉ sliceBytes t start stop :=
  lineRule_noReturn.takeBytes (fun hmem => h (mem_of_mem_dropBytes hmem)) _

/-- Line endings are kept. If every line feed of the source stands behind a carriage return, and
there is one, the same holds of the output; if the source has no carriage return, the output has
none. -/
theorem generate_lineEndings {source : Text} {options : Options}
    {answer : Selection.Request → Selection.Response} {planned : List PlannedEdit}
    {edits : List Edit} {output : Text}
    (h : generate source options answer = .ok (.edited planned edits output)) :
    ((∀ program, Program.parse? source = some program → program.Spanned source) →
      '\n' ∈ source → Returned source → Returned output) ∧
    ('\r' ∉ source → '\r' ∉ output) := by
  obtain ⟨rfl, hbatch⟩ := generate_eq_edited h
  obtain ⟨program, hparse, hplanned⟩ := exists_class_of_planned h
  constructor
  · intro hspans hbreak hreturned
    refine Edit.applyAll_rule lineRule_returned hbatch hreturned fun e he => ?_
    obtain ⟨p, hp, rfl⟩ := List.mem_map.1 he
    obtain ⟨c, hc, hplan⟩ := hplanned p hp
    constructor
    · refine Plan.planClass_rule lineRule_returned hplan ?_ fun q hq => ?_
      · rw [lineEnding_of_returned hreturned hbreak]
        decide
      · obtain ⟨hname, htype⟩ := Extract.mem_properties_hints hq
        refine ⟨hname, fun t ht => ?_⟩
        obtain ⟨span, hspan, rfl⟩ := htype t ht
        exact hreturned.sliceBytes ((hspans program hparse).hints c hc span hspan)
    · have hclosing := (hspans program hparse).closing c hc
      rw [Plan.planClass_eq] at hplan
      obtain ⟨hpoint, -, -⟩ := Plan.adding_eq_some hplan
      have hstop := Plan.stop_le (n := c.closing) options.tabSize
        (c := (c.site options.visibility (ofText source)).model (ofText source)) rfl
      rw [← hpoint] at hstop
      rw [PlannedEdit.stopOffset_toEdit (Nat.lt_of_le_of_lt hstop hclosing)]
      exact returned_offsetAt hreturned _
  · intro hreturn
    refine Edit.applyAll_rule lineRule_noReturn hbatch hreturn fun e he => ?_
    obtain ⟨p, hp, rfl⟩ := List.mem_map.1 he
    obtain ⟨c, -, hplan⟩ := hplanned p hp
    refine ⟨Plan.planClass_rule lineRule_noReturn hplan ?_ fun q hq => ?_, ?_⟩
    · rw [lineEnding_of_noReturn hreturn]
      decide
    · obtain ⟨hname, htype⟩ := Extract.mem_properties_hints hq
      refine ⟨hname, fun t ht => ?_⟩
      obtain ⟨span, -, rfl⟩ := htype t ht
      exact noReturn_sliceBytes hreturn span.1 span.2
    · exact fun hmem => hreturn (mem_of_mem_dropBytes hmem)

/-- A type on two lines, and a blank line with carriage returns of its own. -/
theorem generate_lineEndings_wrapped :
    let source := "<?php\r\nclass A \x7b\r\n    private int\r\n        |string $a;\r\n".toList ++
      " \r \r\n\x7d\r\n".toList
    ∃ planned edits output,
      generateAll source ⟨.both, .isPrivate, 4⟩ = .ok (.edited planned edits output) ∧
        output.length = 215 ∧ Returned output := by
  intro source
  obtain ⟨hlength, hspans⟩ :
      (Generation.output? (generateAll source ⟨.both, .isPrivate, 4⟩)).map List.length =
          some 215 ∧
        (Program.parse? source).all (fun program => program.Spanned source) = true := by
    decide +kernel
  obtain ⟨output, houtput, hcount⟩ := Option.map_eq_some_iff.1 hlength
  obtain ⟨planned, edits, hrun⟩ := Generation.exists_of_output? houtput
  refine ⟨planned, edits, output, hrun, hcount,
    (generate_lineEndings hrun).1 (fun program hparse => ?_) (by decide) (by decide +kernel)⟩
  rw [hparse] at hspans
  simpa using hspans

end Accessors
