import Accessors.Json.Printer
import Accessors.Json.Reader
import Accessors.Proofs.Text.Decimal
import Accessors.Proofs.Text.Split
import Mathlib.Tactic.Common

/-!
# JSON that is written is read back

A value over several lines is read back as the same value, whatever texts it holds, if it does not
nest deeper than the reader goes and its numbers are integers of 64 bits.

* `stringBody_quoted`, `run_number_ofInt`: strings and numbers.
* `Value.Fits`: values that the reader can hold.
* `run_value_prettyAt`: a value at any level, by induction on its depth.
* `parse?_pretty`: a whole text.
-/

namespace Accessors

/-! ## Steps of a reader -/

namespace Reader

variable {t rest : Text}

theorem run_accept_append (expected t : Text) :
    (accept expected).run (expected ++ t) = some (true, t) := by
  simp [accept]

theorem run_accept_of_not {expected : Text} (h : ¬ expected <+: t) :
    (accept expected).run t = some (false, t) := by
  simp [accept, h]

theorem run_accept_cons (c : Char) (t : Text) : (accept [c]).run (c :: t) = some (true, t) :=
  run_accept_append [c] t

theorem run_expect_cons (c : Char) (t : Text) : (expect [c]).run (c :: t) = some ((), t) := by
  simp [expect, run_accept_cons]

/-- All characters of a class at the front are taken. -/
theorem run_takeWhile_append {p : Char → Bool} (ht : ∀ c ∈ t, p c = true)
    (hrest : ∀ c ∈ rest.head?, p c = false) : (takeWhile p).run (t ++ rest) = some (t, rest) := by
  have hnone : rest.takeWhile p = [] ∧ rest.dropWhile p = rest := by
    cases rest with
    | nil => exact ⟨rfl, rfl⟩
    | cons c rest => simp [hrest c rfl]
  simp [takeWhile, List.takeWhile_append_of_pos ht, List.dropWhile_append_of_pos ht, hnone]

end Reader

namespace Json

open Reader

/-! ## Strings -/

/-- The number of a control character is read back. -/
theorem codeUnit?_escaped {n : Nat} (hn : n < 0x20) (t : Text) :
    codeUnit? ('0' :: '0' :: hexDigit (n / 16) :: hexDigit (n % 16) :: t) = some (n, t) := by
  have hdigits : ∀ n < 0x20,
      (['0', '0', hexDigit (n / 16), hexDigit (n % 16)].all Text.isHexDigit) = true ∧
        Text.valueOf 16 ['0', '0', hexDigit (n / 16), hexDigit (n % 16)] = n := by decide
  obtain ⟨hall, hvalue⟩ := hdigits n hn
  simp only [codeUnit?, List.take_succ_cons, List.take_zero, hall, hvalue]
  rfl

theorem numericEscape?_escaped {n : Nat} (hn : n < 0x20) (t : Text) :
    numericEscape? ('0' :: '0' :: hexDigit (n / 16) :: hexDigit (n % 16) :: t) =
      some (Char.ofNat n, t) := by
  have hlow : n < 0xD800 := by omega
  simp [numericEscape?, codeUnit?_escaped hn, hlow]

/-- A character stands for itself in quotes, or it is escaped. -/
theorem escaped_cases (c : Char) :
    (escaped c = [c] ∧ c ≠ '\x22' ∧ c ≠ '\\' ∧ 0x20 ≤ c.toNat) ∨
      ∃ code, escaped c = '\\' :: code ∧ ∀ t, escape? (code ++ t) = some (c, t) := by
  unfold escaped
  split
  case h_8 hquote hslash _ _ _ _ _ =>
    split
    · rename_i hlow
      refine .inr ⟨_, rfl, fun t => ?_⟩
      have hescape := numericEscape?_escaped hlow t
      rwa [Char.ofNat_toNat] at hescape
    · rename_i hhigh
      exact .inl ⟨rfl, hquote, hslash, Nat.le_of_not_lt hhigh⟩
  all_goals exact .inr ⟨_, rfl, fun t => rfl⟩

theorem stringBody_escaped (fuel : Nat) (c : Char) (t : Text) :
    stringBody (fuel + 1) (escaped c ++ t) =
      (stringBody fuel t).map fun r => (c :: r.1, r.2) := by
  rcases escaped_cases c with ⟨hself, hquote, hslash, hhigh⟩ | ⟨code, hcode, hescape⟩
  · have hnot : ¬ c.toNat < 0x20 := Nat.not_lt.2 hhigh
    rw [hself, List.singleton_append, stringBody]
    · rw [if_neg hnot]
      cases stringBody fuel t <;> rfl
    · exact hquote
    · exact hslash
  · rw [hcode, List.cons_append, stringBody, hescape]
    simp only [Option.bind_eq_bind, Option.bind_some]
    cases stringBody fuel t <;> rfl

theorem stringBody_quoted {fuel : Nat} {t : Text} (h : t.length < fuel) (rest : Text) :
    stringBody fuel (t.flatMap escaped ++ '\x22' :: rest) = some (t, rest) := by
  induction t generalizing fuel with
  | nil =>
    obtain ⟨fuel, rfl⟩ := Nat.exists_eq_succ_of_ne_zero (Nat.ne_of_gt h)
    rfl
  | cons c t ih =>
    obtain ⟨fuel, rfl⟩ := Nat.exists_eq_succ_of_ne_zero (Nat.ne_of_gt (Nat.zero_lt_of_lt h))
    rw [List.flatMap_cons, List.append_assoc, stringBody_escaped, ih (Nat.lt_of_succ_lt_succ h)]
    rfl

theorem length_le_length_escaped (t : Text) : t.length ≤ (t.flatMap escaped).length := by
  induction t with
  | nil => exact Nat.le_refl 0
  | cons c t ih =>
    have hc : 0 < (escaped c).length := by
      rcases escaped_cases c with ⟨hself, -⟩ | ⟨code, hcode, -⟩
      · simp [hself]
      · simp [hcode]
    rw [List.flatMap_cons, List.length_cons, List.length_append]
    omega

/-- A text in quotes is read back. -/
theorem run_string_quoted (t rest : Text) : string.run (quoted t ++ rest) = some (t, rest) := by
  have hlength := length_le_length_escaped t
  have hbody : stringBody ((t.flatMap escaped ++ '\x22' :: rest).length + 1)
      (t.flatMap escaped ++ '\x22' :: rest) = some (t, rest) := by
    apply stringBody_quoted
    rw [List.length_append]
    omega
  have hquoted : quoted t ++ rest = '\x22' :: (t.flatMap escaped ++ '\x22' :: rest) := by
    simp [quoted]
  generalize t.flatMap escaped ++ '\x22' :: rest = u at hbody hquoted
  simp [hquoted, string, run_expect_cons, hbody]

/-! ## Numbers -/

/-- No digit, point or exponent follows. -/
def EndsNumber (rest : Text) : Prop :=
  ∀ c ∈ rest.head?, c.isDigit = false ∧ c ≠ '.' ∧ c ≠ 'e' ∧ c ≠ 'E'

theorem EndsNumber.isDigit {rest : Text} (h : EndsNumber rest) :
    ∀ c ∈ rest.head?, c.isDigit = false := fun c hc => (h c hc).1

/-- No text but the empty one stands in front of another one with a different first character. -/
theorem run_accept_head_ne {c : Char} {t expected : Text} (h : ∀ d ∈ t.head?, d ≠ c) :
    (accept (c :: expected)).run t = some (false, t) := by
  apply run_accept_of_not
  rintro ⟨u, rfl⟩
  exact h c rfl rfl

theorem run_fraction {rest : Text} (h : EndsNumber rest) : fraction.run rest = some ([], rest) := by
  simp [fraction, run_accept_head_ne fun c hc => (h c hc).2.1]

theorem run_exponent {rest : Text} (h : EndsNumber rest) : exponent.run rest = some ([], rest) := by
  cases rest with
  | nil => rfl
  | cons c rest =>
    obtain ⟨-, -, he, hE⟩ := h c rfl
    simp [exponent, he, hE]

theorem run_digits_ofNat (n : Nat) {rest : Text} (h : EndsNumber rest) :
    digits.run (Text.ofNat n ++ rest) = some (Text.ofNat n, rest) := by
  have hne : Text.ofNat n ≠ [] := by simp [Text.ofNat]
  have hdigits : ∀ c ∈ Text.ofNat n, c.isDigit = true := fun c hc => Text.isDigit_of_mem_ofNat hc
  have htake := run_takeWhile_append hdigits h.isDigit
  simp [digits, htake, hne]

/-- No zero stands needlessly in front of a number. -/
theorem not_needless_zero (n : Nat) :
    ¬((Text.ofNat n).head? = some '0' ∧ Text.ofNat n ≠ ['0']) := by
  rintro ⟨hhead, hne⟩
  rw [Text.eq_zero_of_head?_ofNat hhead] at hne
  exact hne (by decide)

/-- A number of 64 bits behind its sign is read back. -/
theorem run_number_of_sign {negative : Bool} {n : Nat} {t rest : Text}
    (hsign : (accept ['-']).run t = some (negative, Text.ofNat n ++ rest))
    (hzero : negative = true → n ≠ 0)
    (hbound : if negative then n ≤ 0x8000000000000000 else n < UInt64.size)
    (h : EndsNumber rest) :
    number.run t = some (.integer (if negative then -(n : Int) else n), rest) := by
  have hnotZero : negative = false ∨ ¬ n = 0 := by
    cases negative with
    | false => exact .inl rfl
    | true => exact .inr (hzero rfl)
  simp only [number, StateT.run_bind, hsign, run_digits_ofNat n h, Option.bind_eq_bind,
    Option.bind_some, Text.valueOf_ofNat]
  rw [if_neg (by simpa using not_needless_zero n)]
  simp [run_fraction h, run_exponent h, hnotZero, hbound]

/-- An integer of 64 bits is read back. -/
theorem run_number_ofInt {i : Int} (hlow : -0x8000000000000000 ≤ i) (hhigh : i < UInt64.size)
    {rest : Text} (h : EndsNumber rest) :
    number.run (Text.ofInt i ++ rest) = some (.integer i, rest) := by
  cases i with
  | ofNat n =>
    obtain ⟨d, t, hcons, hdigit⟩ := Text.exists_ofNat_eq_cons n
    have hsign : (accept ['-']).run (Text.ofNat n ++ rest) =
        some (false, Text.ofNat n ++ rest) := by
      apply run_accept_head_ne
      rw [hcons]
      rintro _ ⟨⟩ rfl
      cases hdigit
    exact run_number_of_sign hsign (by simp) (Int.ofNat_lt.1 hhigh) h
  | negSucc n =>
    have hbound : n + 1 ≤ 0x8000000000000000 := by omega
    exact run_number_of_sign (n := n + 1) (run_accept_cons '-' _) (by simp) hbound h

/-! ## Blanks -/

/-- Blanks between the parts of a value. -/
def IsBlank (t : Text) : Prop :=
  ∀ c ∈ t, (c = ' ' || c = '\t' || c = '\n' || c = '\r') = true

theorem isBlank_nil : IsBlank [] := fun _ hc => absurd hc List.not_mem_nil

theorem isBlank_margin (n : Nat) : IsBlank ('\n' :: Text.spaces n) := by
  rw [IsBlank, List.forall_mem_cons]
  refine ⟨rfl, fun c hc => ?_⟩
  rw [List.eq_of_mem_replicate hc]
  rfl

theorem IsBlank.endsNumber {blanks : Text} (h : IsBlank blanks) : EndsNumber blanks := by
  intro c hc
  have hblank := h c (List.mem_of_mem_head? hc)
  simp only [Bool.or_eq_true, decide_eq_true_eq] at hblank
  rcases hblank with ((rfl | rfl) | rfl) | rfl <;> decide

section

variable {blanks t : Text} {c : Char}

theorem run_skipBlanks_append (h : IsBlank blanks) (t : Text) :
    skipBlanks.run (blanks ++ t) = skipBlanks.run t := by
  simp [skipBlanks, takeWhile, List.dropWhile_append_of_pos h]

theorem run_skipBlanks_cons (hc : (c = ' ' || c = '\t' || c = '\n' || c = '\r') = false) :
    skipBlanks.run (c :: t) = some ((), c :: t) := by
  simp [skipBlanks, takeWhile, hc]

theorem run_skipBlanks_margin (n : Nat)
    (hc : (c = ' ' || c = '\t' || c = '\n' || c = '\r') = false) :
    skipBlanks.run ('\n' :: (Text.spaces n ++ c :: t)) = some ((), c :: t) := by
  have hmargin := run_skipBlanks_append (isBlank_margin n) (c :: t)
  rwa [List.cons_append, run_skipBlanks_cons hc] at hmargin

theorem run_value_append (h : IsBlank blanks) (depth : Nat) (t : Text) :
    (value depth).run (blanks ++ t) = (value depth).run t := by
  cases depth with
  | zero => rfl
  | succ depth => simp only [value, StateT.run_bind, run_skipBlanks_append h]

end

/-! ## Scalars -/

section

variable (depth : Nat) (rest : Text)

theorem run_value_quoted (t : Text) :
    (value (depth + 1)).run (quoted t ++ rest) = some (.string t, rest) := by
  have hstring := run_string_quoted t rest
  obtain ⟨u, hu⟩ : ∃ u, quoted t ++ rest = '\x22' :: u := ⟨_, rfl⟩
  rw [hu] at hstring ⊢
  rw [value]
  simp [-String.reduceToList, run_skipBlanks_cons, hstring]

theorem run_value_null : (value (depth + 1)).run ("null".toList ++ rest) = some (.null, rest) :=
  rfl

theorem run_value_boolean (b : Bool) :
    (value (depth + 1)).run ((if b then "true" else "false").toList ++ rest) =
      some (.boolean b, rest) := by
  cases b <;> rfl

theorem ne_of_isDigit_or_minus {c d : Char} (hc : c.isDigit = true ∨ c = '-')
    (hdigit : d.isDigit = false) (hminus : d ≠ '-') : c ≠ d := by
  rintro rfl
  rcases hc with hc | hc
  · rw [hdigit] at hc
    cases hc
  · exact hminus hc

/-- A text that starts with a digit or a minus sign is a number. -/
theorem run_value_number {c : Char} (hc : c.isDigit = true ∨ c = '-') (t : Text) :
    (value (depth + 1)).run (c :: t) = number.run (c :: t) := by
  have hblank : (c = ' ' || c = '\t' || c = '\n' || c = '\r') = false := by
    simp [ne_of_isDigit_or_minus hc]
  have hword : ∀ d w, d.isDigit = false → d ≠ '-' →
      (accept (d :: w)).run (c :: t) = some (false, c :: t) := by
    rintro d w hdigit hminus
    apply run_accept_head_ne
    rintro _ ⟨⟩
    exact ne_of_isDigit_or_minus hc hdigit hminus
  have hnull : (accept "null".toList).run (c :: t) = some (false, c :: t) :=
    hword 'n' "ull".toList (by decide) (by decide)
  have htrue : (accept "true".toList).run (c :: t) = some (false, c :: t) :=
    hword 't' "rue".toList (by decide) (by decide)
  have hfalse : (accept "false".toList).run (c :: t) = some (false, c :: t) :=
    hword 'f' "alse".toList (by decide) (by decide)
  rw [value]
  simp only [StateT.run_bind, run_skipBlanks_cons hblank, Option.bind_eq_bind, Option.bind_some,
    StateT.run_get, pure]
  split
  case h_4 =>
    simp only [StateT.run_bind, hnull, htrue, hfalse, Option.bind_eq_bind, Option.bind_some,
      Bool.false_eq_true, if_false]
  all_goals
    rename_i heq
    cases heq
    exact absurd rfl (ne_of_isDigit_or_minus hc (by decide) (by decide))

theorem exists_ofInt_eq_cons (i : Int) :
    ∃ c t, Text.ofInt i = c :: t ∧ (c.isDigit = true ∨ c = '-') := by
  cases i with
  | ofNat n =>
    obtain ⟨d, t, hofNat, hdigit⟩ := Text.exists_ofNat_eq_cons n
    exact ⟨d, t, hofNat, .inl hdigit⟩
  | negSucc n => exact ⟨'-', _, rfl, .inr rfl⟩

theorem run_value_ofInt {i : Int} (hlow : -0x8000000000000000 ≤ i) (hhigh : i < UInt64.size)
    (h : EndsNumber rest) :
    (value (depth + 1)).run (Text.ofInt i ++ rest) = some (.integer i, rest) := by
  have hnumber := run_number_ofInt hlow hhigh h
  obtain ⟨c, t, hcons, hc⟩ := exists_ofInt_eq_cons i
  rw [hcons, List.cons_append] at hnumber ⊢
  rw [run_value_number depth hc, hnumber]

end

/-! ## Arrays and objects -/

theorem endsNumber_more {α : Type} (shown : α → Text) (xs : List α) (rest : Text) :
    EndsNumber ((xs.flatMap fun x => ',' :: shown x) ++ '\n' :: rest) := by
  cases xs with
  | nil => rintro _ ⟨⟩; decide
  | cons x xs => rintro _ ⟨⟩; decide

theorem length_le_length_more {α : Type} (shown : α → Text) (xs : List α) :
    xs.length ≤ (xs.flatMap fun x => ',' :: shown x).length := by
  induction xs with
  | nil => exact Nat.le_refl 0
  | cons x xs ih =>
    rw [List.flatMap_cons, List.length_append, List.length_cons, List.length_cons]
    omega

section

variable {item : Reader Value} {fuel : Nat} (n : Nat) (rest : Text)

/-- The items behind the first one, and the end of the array. -/
theorem run_moreItems {vs : List Value} {shown : Value → Text}
    (hitem : ∀ v ∈ vs, ∀ rest, EndsNumber rest → item.run (shown v ++ rest) = some (v, rest))
    (hfuel : vs.length < fuel) :
    (moreItems item fuel).run ((vs.flatMap fun v => ',' :: shown v) ++
      '\n' :: (Text.spaces n ++ ']' :: rest)) = some (vs, rest) := by
  induction vs generalizing fuel with
  | nil =>
    obtain ⟨fuel, rfl⟩ := Nat.exists_eq_succ_of_ne_zero (Nat.ne_of_gt hfuel)
    have hcomma : (accept [',']).run (']' :: rest) = some (false, ']' :: rest) := rfl
    simp [moreItems, run_skipBlanks_margin, hcomma, run_expect_cons]
  | cons v vs ih =>
    obtain ⟨fuel, rfl⟩ := Nat.exists_eq_succ_of_ne_zero (Nat.ne_of_gt (Nat.zero_lt_of_lt hfuel))
    rw [List.forall_mem_cons] at hitem
    have hfirst := hitem.1 _ (endsNumber_more shown vs (Text.spaces n ++ ']' :: rest))
    have hrest := ih hitem.2 (Nat.lt_of_succ_lt_succ hfuel)
    simp [moreItems, run_skipBlanks_cons, run_accept_cons, hfirst, hrest]

/-- The members behind the first one, and the end of the object. -/
theorem run_moreMembers {ms : List (Text × Value)} {shown : Text × Value → Text}
    (hmember : ∀ m ∈ ms, ∀ rest, EndsNumber rest →
      (member item).run (shown m ++ rest) = some (m, rest))
    (hfuel : ms.length < fuel) :
    (moreMembers item fuel).run ((ms.flatMap fun m => ',' :: shown m) ++
      '\n' :: (Text.spaces n ++ '\x7d' :: rest)) = some (ms, rest) := by
  induction ms generalizing fuel with
  | nil =>
    obtain ⟨fuel, rfl⟩ := Nat.exists_eq_succ_of_ne_zero (Nat.ne_of_gt hfuel)
    have hcomma : (accept [',']).run ('\x7d' :: rest) = some (false, '\x7d' :: rest) := rfl
    simp [moreMembers, run_skipBlanks_margin, hcomma, run_expect_cons]
  | cons m ms ih =>
    obtain ⟨fuel, rfl⟩ := Nat.exists_eq_succ_of_ne_zero (Nat.ne_of_gt (Nat.zero_lt_of_lt hfuel))
    rw [List.forall_mem_cons] at hmember
    have hfirst := hmember.1 _ (endsNumber_more shown ms (Text.spaces n ++ '\x7d' :: rest))
    have hrest := ih hmember.2 (Nat.lt_of_succ_lt_succ hfuel)
    simp [moreMembers, run_skipBlanks_cons, run_accept_cons, hfirst, hrest]

/-- A member with blanks in front of its name and behind its colon. -/
theorem run_member {blanks t : Text} {v : Value} (hblanks : IsBlank blanks)
    (hv : item.run t = some (v, rest)) (name : Text) :
    (member item).run (blanks ++ (quoted name ++ ':' :: t)) = some ((name, v), rest) := by
  have hquote : skipBlanks.run (quoted name ++ ':' :: t) = some ((), quoted name ++ ':' :: t) :=
    run_skipBlanks_cons (by decide)
  simp [member, run_skipBlanks_append hblanks, hquote, run_string_quoted, run_skipBlanks_cons,
    run_expect_cons, hv]

end

section

variable {depth : Nat} {t u rest rest' : Text}

/-- An array with a first item. -/
theorem run_value_items (hdepth : depth ≠ 0) (hskip : skipBlanks.run t = some ((), u))
    (hfirst : ∀ c ∈ u.head?, c ≠ ']') {v : Value} (hv : (value depth).run u = some (v, rest))
    {vs : List Value}
    (hvs : (moreItems (value depth) (t.length + 1)).run rest = some (vs, rest')) :
    (value (depth + 1)).run ('[' :: t) = some (.array (v :: vs), rest') := by
  rw [value]
  simp [-String.reduceToList, run_skipBlanks_cons, hdepth, hskip, run_accept_head_ne hfirst, hv,
    hvs]

/-- An object with a first member. -/
theorem run_value_members (hdepth : depth ≠ 0) (hskip : skipBlanks.run t = some ((), u))
    (hfirst : ∀ c ∈ u.head?, c ≠ '\x7d') {m : Text × Value}
    (hm : (member (value depth)).run u = some (m, rest)) {ms : List (Text × Value)}
    (hms : (moreMembers (value depth) (t.length + 1)).run rest = some (ms, rest')) :
    (value (depth + 1)).run ('\x7b' :: t) = some (.object (m :: ms), rest') := by
  rw [value]
  simp [-String.reduceToList, run_skipBlanks_cons, hdepth, hskip, run_accept_head_ne hfirst, hm,
    hms]

end

/-! ## Values -/

/-- Parts between brackets: the first one, each of the others behind a comma, and the end. -/
theorem bracketed_cons (opening closing : Char) (level : Nat) (part : Text) (parts : List Text)
    (rest : Text) :
    bracketed opening closing level (part :: parts) ++ rest =
      opening :: ('\n' :: Text.spaces (2 * (level + 1)) ++ (part ++
        ((parts.flatMap fun p => ',' :: ('\n' :: Text.spaces (2 * (level + 1)) ++ p)) ++
          '\n' :: (Text.spaces (2 * level) ++ closing :: rest)))) := by
  simp [bracketed, Text.join_cons]

theorem prettyItems_eq (level : Nat) (items : List Value) :
    prettyItems level items = items.map (·.prettyAt level) := by
  induction items with
  | nil => rfl
  | cons v items ih => rw [prettyItems, ih, List.map_cons]

theorem prettyMembers_eq (level : Nat) (members : List (Text × Value)) :
    prettyMembers level members =
      members.map fun m => quoted m.1 ++ ": ".toList ++ m.2.prettyAt level := by
  induction members with
  | nil => rfl
  | cons m members ih => rw [prettyMembers, ih, List.map_cons]

theorem prettyAt_array (level : Nat) (items : List Value) :
    (Value.array items).prettyAt level =
      bracketed '[' ']' level (items.map (·.prettyAt (level + 1))) :=
  congrArg (bracketed '[' ']' level) (prettyItems_eq (level + 1) items)

theorem prettyAt_object (level : Nat) (members : List (Text × Value)) :
    (Value.object members).prettyAt level = bracketed '\x7b' '\x7d' level
      (members.map fun m => quoted m.1 ++ ": ".toList ++ m.2.prettyAt (level + 1)) :=
  congrArg (bracketed '\x7b' '\x7d' level) (prettyMembers_eq (level + 1) members)

/-- A value that the reader can hold: it nests at most so deep, and its numbers are integers of
64 bits. -/
def Value.Fits : Nat → Value → Prop
  | 0, _ => False
  | _ + 1, .integer i => -0x8000000000000000 ≤ i ∧ i < UInt64.size
  | _ + 1, .decimal _ => False
  | depth + 1, .array items => 0 < depth ∧ ∀ v ∈ items, Fits depth v
  | depth + 1, .object members => 0 < depth ∧ ∀ m ∈ members, Fits depth m.2
  | _ + 1, .null | _ + 1, .boolean _ | _ + 1, .string _ => True

/-- A value starts with no blank and closes nothing. -/
theorem exists_prettyAt_eq_cons {depth : Nat} {v : Value} (h : v.Fits depth) (level : Nat) :
    ∃ c t, v.prettyAt level = c :: t ∧
      (c = ' ' || c = '\t' || c = '\n' || c = '\r') = false ∧ c ≠ ']' := by
  cases depth with
  | zero => exact h.elim
  | succ depth =>
    cases v with
    | null => exact ⟨_, _, rfl, by decide, by decide⟩
    | boolean b => cases b <;> exact ⟨_, _, rfl, by decide, by decide⟩
    | integer i =>
      obtain ⟨c, t, hcons, hc⟩ := exists_ofInt_eq_cons i
      refine ⟨c, t, hcons, ?_, ?_⟩
      · simp [ne_of_isDigit_or_minus hc]
      · exact ne_of_isDigit_or_minus hc (by decide) (by decide)
    | decimal literal => exact h.elim
    | string t => exact ⟨_, _, rfl, by decide, by decide⟩
    | array items =>
      cases items <;> exact ⟨_, _, rfl, by decide, by decide⟩
    | object members =>
      cases members <;> exact ⟨_, _, rfl, by decide, by decide⟩

section

variable {depth : Nat} (hdepth : 0 < depth)
  (ih : ∀ {v : Value}, v.Fits depth → ∀ (level : Nat) {rest : Text}, EndsNumber rest →
    (value depth).run (v.prettyAt level ++ rest) = some (v, rest))

include hdepth ih

theorem run_value_array {items : List Value} (hitems : ∀ v ∈ items, v.Fits depth) (level : Nat)
    (rest : Text) :
    (value (depth + 1)).run ((Value.array items).prettyAt level ++ rest) =
      some (.array items, rest) := by
  have hne : depth ≠ 0 := Nat.ne_of_gt hdepth
  rw [prettyAt_array]
  cases items with
  | nil =>
    rw [value]
    simp [-String.reduceToList, bracketed, run_skipBlanks_cons, run_accept_cons, hne]
  | cons v vs =>
    rw [List.forall_mem_cons] at hitems
    let shown : Value → Text := fun v =>
      '\n' :: Text.spaces (2 * (level + 1)) ++ v.prettyAt (level + 1)
    have hitem : ∀ v ∈ vs, ∀ rest, EndsNumber rest →
        (value depth).run (shown v ++ rest) = some (v, rest) := by
      intro v hv rest hrest
      rw [List.append_assoc, run_value_append (isBlank_margin _)]
      exact ih (hitems.2 v hv) (level + 1) hrest
    obtain ⟨c, t, hcons, hblank, hclose⟩ := exists_prettyAt_eq_cons hitems.1 (level + 1)
    rw [List.map_cons, bracketed_cons, List.flatMap_map]
    refine run_value_items hne (run_skipBlanks_append (isBlank_margin _) _ |>.trans ?_) ?_
      (ih hitems.1 (level + 1) (endsNumber_more shown vs _))
      (run_moreItems (2 * level) rest hitem ?_)
    · rw [hcons]
      exact run_skipBlanks_cons hblank
    · rw [hcons]
      rintro _ ⟨⟩
      exact hclose
    · have hlength := length_le_length_more shown vs
      simp only [shown, List.length_append, List.length_cons] at hlength ⊢
      omega

theorem run_value_object {members : List (Text × Value)}
    (hmembers : ∀ m ∈ members, m.2.Fits depth) (level : Nat) (rest : Text) :
    (value (depth + 1)).run ((Value.object members).prettyAt level ++ rest) =
      some (.object members, rest) := by
  have hne : depth ≠ 0 := Nat.ne_of_gt hdepth
  rw [prettyAt_object]
  cases members with
  | nil =>
    rw [value]
    simp [-String.reduceToList, bracketed, run_skipBlanks_cons, run_accept_cons, hne]
  | cons m ms =>
    rw [List.forall_mem_cons] at hmembers
    have hmember : ∀ m : Text × Value, m.2.Fits depth → ∀ {blanks}, IsBlank blanks →
        ∀ rest, EndsNumber rest → (member (value depth)).run
          (blanks ++ (quoted m.1 ++ ": ".toList ++ m.2.prettyAt (level + 1)) ++ rest) =
            some (m, rest) := by
      intro m hm blanks hblanks rest hrest
      have hspace : IsBlank [' '] := by simp [IsBlank]
      have hv := ih hm (level + 1) hrest
      rw [← run_value_append hspace] at hv
      have hrun := run_member rest hblanks hv m.1
      simpa using hrun
    let shown : Text × Value → Text := fun m => '\n' :: Text.spaces (2 * (level + 1)) ++
      (quoted m.1 ++ ": ".toList ++ m.2.prettyAt (level + 1))
    have hshown : ∀ m ∈ ms, ∀ rest, EndsNumber rest →
        (member (value depth)).run (shown m ++ rest) = some (m, rest) :=
      fun m hm => hmember m (hmembers.2 m hm) (isBlank_margin _)
    rw [List.map_cons, bracketed_cons, List.flatMap_map]
    refine run_value_members hne (run_skipBlanks_append (isBlank_margin _) _ |>.trans ?_) ?_
      (hmember m hmembers.1 isBlank_nil _ (endsNumber_more shown ms _))
      (run_moreMembers (2 * level) rest hshown ?_)
    · exact run_skipBlanks_cons (by decide)
    · rintro _ ⟨⟩
      decide
    · have hlength := length_le_length_more shown ms
      simp only [shown, List.length_append, List.length_cons] at hlength ⊢
      omega

end

/-- A value that fits is read back, at any level. -/
theorem run_value_prettyAt {depth : Nat} {v : Value} (h : v.Fits depth) (level : Nat) {rest : Text}
    (hrest : EndsNumber rest) : (value depth).run (v.prettyAt level ++ rest) = some (v, rest) := by
  induction depth generalizing v level rest with
  | zero => exact h.elim
  | succ depth ih =>
    cases v with
    | null => exact run_value_null depth rest
    | boolean b =>
      cases b with
      | true => exact run_value_boolean depth rest true
      | false => exact run_value_boolean depth rest false
    | integer i =>
      rw [Value.Fits] at h
      exact run_value_ofInt depth rest h.1 h.2 hrest
    | decimal literal => exact h.elim
    | string t => exact run_value_quoted depth rest t
    | array items =>
      rw [Value.Fits] at h
      exact run_value_array h.1 ih h.2 level rest
    | object members =>
      rw [Value.Fits] at h
      exact run_value_object h.1 ih h.2 level rest

/-- A value that fits is read back from its text, whatever blanks stand behind it. -/
theorem parse?_pretty {v : Value} (h : v.Fits depthLimit) {blanks : Text}
    (hblanks : IsBlank blanks) : parse? (v.pretty ++ blanks) = some v := by
  have hv := run_value_prettyAt h 0 hblanks.endsNumber
  have hskip := run_skipBlanks_append hblanks []
  rw [List.append_nil] at hskip
  have hnil : skipBlanks.run ([] : Text) = some ((), []) := rfl
  simp [parse?, takeValue?, Value.pretty, hv, hskip, hnil]

end Json

end Accessors
