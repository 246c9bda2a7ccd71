import Accessors.Diff.Script
import Mathlib.Tactic.Common

/-!
# Edit scripts are right

A script for two lists of lines covers both lists from their first lines to their last, and the
lines that it calls equal are equal. This holds of every place at which the search may split a box,
and moving and joining operations keeps it.

An operation is asked for the lines that it takes only. A deletion also records a place in the new
list, and an insertion one in the old list; these are not kept up to date when the two change places.

* `Leads`: operations that follow each other from one place to another.
* `Op.Takes`: an operation on the lines at a place.
* `leads_conquer`, `leads_compact`, `leads_joinFrom`: the steps of the comparison.
* `leads_compare`: the script for two lists of lines.
-/

namespace Accessors.Script

/-! ## Lines that agree -/

/-- Some lines from two places on agree. -/
def Sides.AgreeOn (s : Sides) (i j length : Nat) : Prop :=
  ∀ t < length, s.agree (i + t) (j + t) = true

namespace Sides.AgreeOn

variable {s : Sides} {i j k l : Nat}

theorem take (h : s.AgreeOn i j l) (hk : k ≤ l) : s.AgreeOn i j k := by
  intro t ht
  exact h t (by omega)

theorem drop (h : s.AgreeOn i j l) (k : Nat) : s.AgreeOn (i + k) (j + k) (l - k) := by
  intro t ht
  have hagree := h (k + t) (by omega)
  rwa [← Nat.add_assoc, ← Nat.add_assoc] at hagree

theorem append (h : s.AgreeOn i j k) (h' : s.AgreeOn (i + k) (j + k) l) :
    s.AgreeOn i j (k + l) := by
  intro t ht
  by_cases hlt : t < k
  · exact h t hlt
  · have hagree := h' (t - k) (by omega)
    rwa [show i + k + (t - k) = i + t by omega, show j + k + (t - k) = j + t by omega] at hagree

end Sides.AgreeOn

theorem Sides.agreeOn_agreeingFrom (s : Sides) (i j limit : Nat) :
    s.agreeingFrom i j limit ≤ limit ∧ s.AgreeOn i j (s.agreeingFrom i j limit) := by
  induction limit generalizing i j with
  | zero => exact ⟨Nat.le_refl _, fun t ht => absurd ht (Nat.not_lt_zero t)⟩
  | succ limit ih =>
    rw [agreeingFrom]
    split
    · rename_i hfirst
      obtain ⟨hle, hrest⟩ := ih (i + 1) (j + 1)
      refine ⟨by omega, ?_⟩
      rw [Nat.add_comm]
      refine AgreeOn.append (fun t ht => ?_) hrest
      obtain rfl : t = 0 := by omega
      exact hfirst
    · exact ⟨Nat.zero_le _, fun t ht => absurd ht (Nat.not_lt_zero t)⟩

theorem Sides.agreeOn_agreeingBefore (s : Sides) (i j limit : Nat) (hi : limit ≤ i)
    (hj : limit ≤ j) :
    s.agreeingBefore i j limit ≤ limit ∧
      s.AgreeOn (i - s.agreeingBefore i j limit) (j - s.agreeingBefore i j limit)
        (s.agreeingBefore i j limit) := by
  induction limit generalizing i j with
  | zero => exact ⟨Nat.le_refl _, fun t ht => absurd ht (Nat.not_lt_zero t)⟩
  | succ limit ih =>
    rw [agreeingBefore]
    split
    · rename_i hlast
      obtain ⟨hle, hrest⟩ := ih (i - 1) (j - 1) (by omega) (by omega)
      generalize hrun : s.agreeingBefore (i - 1) (j - 1) limit = run at hle hrest ⊢
      refine ⟨by omega, ?_⟩
      rw [show i - (run + 1) = i - 1 - run by omega, show j - (run + 1) = j - 1 - run by omega]
      refine hrest.append fun t ht => ?_
      obtain rfl : t = 0 := by omega
      rwa [show i - 1 - run + run + 0 = i - 1 by omega,
        show j - 1 - run + run + 0 = j - 1 by omega]
    · exact ⟨Nat.zero_le _, fun t ht => absurd ht (Nat.not_lt_zero t)⟩

/-! ## From one place to another -/

/-- Operations that follow each other from one place to another; `P` says how an operation stands
at the place that it starts from. -/
def Leads (P : Nat → Nat → Op → Prop) : Nat → Nat → List Op → Nat → Nat → Prop
  | i, j, [], i', j' => i = i' ∧ j = j'
  | i, j, op :: ops, i', j' => P i j op ∧ Leads P (i + op.oldLength) (j + op.newLength) ops i' j'

/-- An operation takes the lines at a place, and those that it calls equal are equal. -/
def Op.Takes (s : Sides) (i j : Nat) : Op → Prop
  | .equal old new length => old = i ∧ new = j ∧ s.AgreeOn i j length
  | .delete old _ _ => old = i
  | .insert _ new _ => new = j
  | .replace old _ new _ => old = i ∧ new = j

section

variable {P : Nat → Nat → Op → Prop} {i j i' j' : Nat}

theorem leads_append {front back : List Op} :
    Leads P i j (front ++ back) i' j' ↔
      ∃ m n, Leads P i j front m n ∧ Leads P m n back i' j' := by
  induction front generalizing i j with
  | nil =>
    constructor
    · intro h
      exact ⟨i, j, ⟨rfl, rfl⟩, h⟩
    · rintro ⟨m, n, ⟨rfl, rfl⟩, h⟩
      exact h
  | cons op front ih =>
    rw [List.cons_append, Leads, ih]
    constructor
    · rintro ⟨hop, m, n, hfront, hback⟩
      exact ⟨m, n, ⟨hop, hfront⟩, hback⟩
    · rintro ⟨m, n, ⟨hop, hfront⟩, hback⟩
      exact ⟨hop, m, n, hfront, hback⟩

/-- Operations behind others may be exchanged for others that lead to the same place. -/
theorem Leads.exchange {front ops ops' : List Op} (h : Leads P i j (front ++ ops) i' j')
    (hops : ∀ m n, Leads P m n ops i' j' → Leads P m n ops' i' j') :
    Leads P i j (front ++ ops') i' j' := by
  obtain ⟨m, n, hfront, hback⟩ := leads_append.1 h
  exact leads_append.2 ⟨m, n, hfront, hops m n hback⟩

theorem Leads.le {ops : List Op} (h : Leads P i j ops i' j') : i ≤ i' ∧ j ≤ j' := by
  induction ops generalizing i j with
  | nil =>
    obtain ⟨rfl, rfl⟩ := h
    exact ⟨Nat.le_refl _, Nat.le_refl _⟩
  | cons op ops ih =>
    obtain ⟨-, hrest⟩ := h
    have := ih hrest
    omega

end

/-! ## The operations of a box -/

section

variable {s : Sides}

theorem leads_replaced {b : Box} (hold : b.oldStart ≤ b.oldStop) (hnew : b.newStart ≤ b.newStop) :
    Leads (Op.Takes s) b.oldStart b.newStart b.replaced b.oldStop b.newStop := by
  refine ⟨rfl, rfl, ?_, ?_⟩
  · simp only [Op.oldLength]
    omega
  · simp only [Op.newLength]
    omega

theorem leads_equal_run {i j run : Nat} (h : s.AgreeOn i j run) :
    Leads (Op.Takes s) i j (if 0 < run then [.equal i j run] else []) (i + run) (j + run) := by
  split
  · exact ⟨⟨rfl, rfl, h⟩, rfl, rfl⟩
  · exact ⟨by omega, by omega⟩

theorem holds_of_middle? {b : Box} {x y : Nat} (h : middle? s b = some (x, y)) :
    b.oldStart ≤ x ∧ x ≤ b.oldStop ∧ b.newStart ≤ y ∧ y ≤ b.newStop := by
  unfold middle? at h
  dsimp only at h
  split at h
  · split at h
    · rename_i hholds
      cases h
      simpa [Box.holds, and_assoc] using hholds
    · cases h
  · cases h

theorem leads_conquer (fuel : Nat) {b : Box} (hold : b.oldStart ≤ b.oldStop)
    (hnew : b.newStart ≤ b.newStop) :
    Leads (Op.Takes s) b.oldStart b.newStart (conquer s fuel b) b.oldStop b.newStop := by
  induction fuel generalizing b with
  | zero => exact leads_replaced hold hnew
  | succ fuel ih =>
    rw [conquer]
    obtain ⟨hfrontLe, hfront⟩ := s.agreeOn_agreeingFrom b.oldStart b.newStart
      (min (b.oldStop - b.oldStart) (b.newStop - b.newStart))
    generalize s.agreeingFrom b.oldStart b.newStart
      (min (b.oldStop - b.oldStart) (b.newStop - b.newStart)) = front at hfrontLe hfront ⊢
    obtain ⟨hbackLe, hback⟩ := s.agreeOn_agreeingBefore b.oldStop b.newStop
      (min (b.oldStop - (b.oldStart + front)) (b.newStop - (b.newStart + front)))
      (by omega) (by omega)
    generalize s.agreeingBefore b.oldStop b.newStop
      (min (b.oldStop - (b.oldStart + front)) (b.newStop - (b.newStart + front))) = back
      at hbackLe hback ⊢
    have hi : b.oldStart + front ≤ b.oldStop - back := by omega
    have hj : b.newStart + front ≤ b.newStop - back := by omega
    refine leads_append.2 ⟨b.oldStop - back, b.newStop - back,
      leads_append.2 ⟨b.oldStart + front, b.newStart + front, leads_equal_run hfront, ?_⟩, ?_⟩
    · generalize b.oldStart + front = i, b.newStart + front = j, b.oldStop - back = i',
        b.newStop - back = j' at hi hj ⊢
      split
      · rename_i hempty
        simp only [Bool.and_eq_true, decide_eq_true_eq] at hempty
        exact ⟨by omega, by omega⟩
      split
      · exact ⟨rfl, by simp only [Op.oldLength]; omega, by simp only [Op.newLength]; omega⟩
      split
      · exact ⟨rfl, by simp only [Op.oldLength]; omega, by simp only [Op.newLength]; omega⟩
      split
      · rename_i x y hmiddle
        obtain ⟨hx, hx', hy, hy'⟩ := holds_of_middle? hmiddle
        exact leads_append.2 ⟨x, y, ih (b := ⟨i, x, j, y⟩) hx hy, ih (b := ⟨x, i', y, j'⟩) hx' hy'⟩
      · exact leads_replaced (b := ⟨i, i', j, j'⟩) hi hj
    · have hrun := leads_equal_run hback
      rwa [Nat.sub_add_cancel (by omega), Nat.sub_add_cancel (by omega)] at hrun

/-! ## Moving operations -/

variable {i j i' j' : Nat}

theorem leads_consEqual {old new length : Nat} {ops : List Op}
    (h : Leads (Op.Takes s) i j (.equal old new length :: ops) i' j') :
    Leads (Op.Takes s) i j (consEqual old new length ops) i' j' := by
  unfold consEqual
  split
  · obtain ⟨⟨rfl, rfl, hagree⟩, ⟨rfl, rfl, hagree'⟩, hrest⟩ := h
    simp only [Op.oldLength, Op.newLength] at hagree' hrest
    refine ⟨⟨by simp [Op.oldLength], by simp [Op.newLength], ?_⟩, ?_⟩
    · rw [Nat.add_comm]
      exact hagree.append hagree'
    · simp only [Op.oldLength, Op.newLength]
      convert hrest using 1 <;> omega
  · exact h

theorem leads_swap {old new length o n l : Nat} {ops : List Op} :
    Leads (Op.Takes s) i j (.delete o l n :: .insert old new length :: ops) i' j' ↔
      Leads (Op.Takes s) i j (.insert old new length :: .delete o l n :: ops) i' j' := by
  simp only [Leads, Op.Takes, Op.oldLength, Op.newLength, Nat.add_zero]
  exact and_left_comm

/-- Equal lines in front of an insertion that agree with its last lines go behind it. -/
theorem leads_slideUp {old new length o n l : Nat} {ops : List Op} (run : Nat) (hrun : run ≤ l)
    (hagree : s.AgreeOn (o + l - run) (new + length - run) run)
    (h : Leads (Op.Takes s) i j (.equal o n l :: .insert old new length :: ops) i' j') :
    Leads (Op.Takes s) i j ((if run = l then [] else [.equal o n (l - run)]) ++
      .insert (old - run) (new - run) length ::
        consEqual (o + l - run) (new + length - run) run ops) i' j' := by
  obtain ⟨⟨rfl, rfl, hequal⟩, rfl, hrest⟩ := h
  simp only [Op.oldLength, Op.newLength] at hagree hrest ⊢
  refine leads_append.2 ⟨o + (l - run), n + (l - run), ?_, ?_, ?_⟩
  · split
    · exact ⟨by omega, by omega⟩
    · exact ⟨⟨rfl, rfl, hequal.take (Nat.sub_le ..)⟩, rfl, rfl⟩
  · simp only [Op.Takes]
    omega
  · apply leads_consEqual
    simp only [Op.oldLength, Op.newLength]
    refine ⟨⟨by omega, by omega, ?_⟩, ?_⟩
    · convert hagree using 1 <;> omega
    · simp only [Op.oldLength, Op.newLength]
      convert hrest using 1 <;> omega

/-- An insertion goes behind equal lines whose first lines agree with its own. -/
theorem leads_slideDown {old new length o n l : Nat} {ops : List Op} (run : Nat) (hrun : run ≤ l)
    (hagree : s.AgreeOn o new run)
    (h : Leads (Op.Takes s) i j (.insert old new length :: .equal o n l :: ops) i' j') :
    Leads (Op.Takes s) i j (.equal o new run :: .insert (old + run) (new + run) length ::
      ((if run = l then [] else [.equal (o + run) (n + run) (l - run)]) ++ ops)) i' j' := by
  obtain ⟨rfl, ⟨rfl, rfl, hequal⟩, hrest⟩ := h
  simp only [Op.oldLength, Op.newLength, Nat.add_zero] at hagree hequal hrest ⊢
  refine ⟨⟨rfl, rfl, hagree⟩, rfl, leads_append.2 ⟨_, _, ?_, hrest⟩⟩
  simp only [Op.oldLength, Op.newLength]
  split
  · exact ⟨by omega, by omega⟩
  · refine ⟨⟨by omega, by omega, ?_⟩, ?_, ?_⟩
    · convert hequal.drop run using 1 <;> omega
    · simp only [Op.oldLength]
      omega
    · simp only [Op.newLength]
      omega

theorem leads_insert_insert {old new length o n l : Nat} {ops : List Op}
    (h : Leads (Op.Takes s) i j (.insert o n l :: .insert old new length :: ops) i' j') :
    Leads (Op.Takes s) i j (.insert o n (l + length) :: ops) i' j' := by
  obtain ⟨hfirst, -, hrest⟩ := h
  refine ⟨hfirst, ?_⟩
  simpa only [Op.oldLength, Op.newLength, Nat.add_assoc, Nat.add_zero] using hrest

theorem leads_delete_delete {old new length o n l : Nat} {ops : List Op}
    (h : Leads (Op.Takes s) i j (.delete o l n :: .delete old length new :: ops) i' j') :
    Leads (Op.Takes s) i j (.delete o (l + length) n :: ops) i' j' := by
  obtain ⟨hfirst, -, hrest⟩ := h
  refine ⟨hfirst, ?_⟩
  simpa only [Op.oldLength, Op.newLength, Nat.add_assoc, Nat.add_zero] using hrest

/-- The operations around an operation, and itself. -/
def Focus.ops (f : Focus) : List Op := f.before.reverse ++ f.this :: f.after

theorem Focus.ops_before {f : Focus} {op prev : Op} {before : List Op}
    (hbefore : f.before = prev :: before) (hthis : f.this = op) :
    f.ops = before.reverse ++ prev :: op :: f.after := by
  rw [ops, hbefore, hthis, List.reverse_cons, List.append_assoc, List.singleton_append]

theorem Focus.ops_after {f : Focus} {op next : Op} {after : List Op}
    (hafter : f.after = next :: after) (hthis : f.this = op) :
    f.ops = f.before.reverse ++ op :: next :: after := by
  rw [ops, hafter, hthis]

theorem leads_moveUp (fuel : Nat) {f : Focus} (h : Leads (Op.Takes s) i j f.ops i' j') :
    Leads (Op.Takes s) i j (moveUp s fuel f).ops i' j' := by
  fun_induction moveUp s fuel f with
  | case1 f => exact h
  | case2 fuel f old new length o n l before hbefore hthis run hrun ih =>
    apply ih
    rw [Focus.ops_before hbefore hthis] at h
    obtain ⟨hle, hagree⟩ := s.agreeOn_agreeingBefore (o + l) (new + length) (min l length)
      (by omega) (by omega)
    have hslide := h.exchange fun m n' => leads_slideUp run (by omega) hagree
    rw [← List.append_assoc] at hslide
    convert hslide using 1
    split <;> simp [Focus.ops]
  | case3 => exact h
  | case4 fuel f old new length o l n before hbefore hthis ih =>
    apply ih
    rw [Focus.ops_before hbefore hthis] at h
    exact h.exchange fun m n' => leads_swap.1
  | case5 fuel f old length new o n l before hbefore hthis ih =>
    apply ih
    rw [Focus.ops_before hbefore hthis] at h
    exact h.exchange fun m n' => leads_swap.2
  | case6 fuel f old new length o n l before hbefore hthis ih =>
    apply ih
    rw [Focus.ops_before hbefore hthis] at h
    exact h.exchange fun m n' => leads_insert_insert
  | case7 fuel f old length new o l n before hbefore hthis ih =>
    apply ih
    rw [Focus.ops_before hbefore hthis] at h
    exact h.exchange fun m n' => leads_delete_delete
  | case8 => exact h

theorem leads_snocEqual {old new length : Nat} {before ops : List Op}
    (h : Leads (Op.Takes s) i j (before.reverse ++ .equal old new length :: ops) i' j') :
    Leads (Op.Takes s) i j ((snocEqual old new length before).reverse ++ ops) i' j' := by
  unfold snocEqual
  split
  · rename_i o n l before
    rw [List.reverse_cons, List.append_assoc, List.singleton_append] at h ⊢
    refine h.exchange fun m n' hops => ?_
    obtain ⟨⟨rfl, rfl, hagree⟩, ⟨rfl, rfl, hagree'⟩, hrest⟩ := hops
    simp only [Op.oldLength, Op.newLength] at hagree' hrest
    refine ⟨⟨rfl, rfl, hagree.append hagree'⟩, ?_⟩
    simpa only [Op.oldLength, Op.newLength, Nat.add_assoc] using hrest
  · rwa [List.reverse_cons, List.append_assoc, List.singleton_append]

theorem leads_moveDown (fuel : Nat) {f : Focus} (h : Leads (Op.Takes s) i j f.ops i' j') :
    Leads (Op.Takes s) i j (moveDown s fuel f).ops i' j' := by
  fun_induction moveDown s fuel f with
  | case1 f => exact h
  | case2 fuel f old new length o n l after hafter hthis run hrun ih =>
    apply ih
    rw [Focus.ops_after hafter hthis] at h
    obtain ⟨hle, hagree⟩ := s.agreeOn_agreeingFrom o new (min l length)
    have hslide := leads_snocEqual
      (h.exchange fun m n' => leads_slideDown run (by omega) hagree)
    convert hslide using 1
    split <;> simp [Focus.ops]
  | case3 => exact h
  | case4 fuel f old new length o l n after hafter hthis ih =>
    apply ih
    rw [Focus.ops_after hafter hthis] at h
    rw [Focus.ops, List.reverse_cons, List.append_assoc, List.singleton_append]
    exact h.exchange fun m n' => leads_swap.2
  | case5 fuel f old length new o n l after hafter hthis ih =>
    apply ih
    rw [Focus.ops_after hafter hthis] at h
    rw [Focus.ops, List.reverse_cons, List.append_assoc, List.singleton_append]
    exact h.exchange fun m n' => leads_swap.1
  | case6 fuel f o n length old new l after hafter hthis ih =>
    apply ih
    rw [Focus.ops_after hafter hthis] at h
    exact h.exchange fun m n' => leads_insert_insert
  | case7 fuel f o length n old l new after hafter hthis ih =>
    apply ih
    rw [Focus.ops_after hafter hthis] at h
    exact h.exchange fun m n' => leads_delete_delete
  | case8 => exact h

theorem leads_moveAll (limit : Nat) (moves : Op → Bool) (fuel : Nat) {before ops : List Op}
    (h : Leads (Op.Takes s) i j (before.reverse ++ ops) i' j') :
    Leads (Op.Takes s) i j (moveAll s limit moves fuel before ops) i' j' := by
  fun_induction moveAll s limit moves fuel before ops with
  | case1 => exact h
  | case2 => simpa using h
  | case3 fuel before op ops hmoves f ih =>
    apply ih
    rw [List.reverse_cons, List.append_assoc, List.singleton_append]
    exact leads_moveDown limit (leads_moveUp limit h)
  | case4 fuel before op ops hmoves ih =>
    apply ih
    rwa [List.reverse_cons, List.append_assoc, List.singleton_append]

theorem leads_compact {ops : List Op} (h : Leads (Op.Takes s) i j ops i' j') :
    Leads (Op.Takes s) i j (compact s ops) i' j' := by
  rw [compact]
  exact leads_moveAll _ _ _ (leads_moveAll _ _ _ h)

/-! ## Joining operations -/

/-- How many old lines are pending. -/
def Pending.oldLength (p : Pending) : Nat := (p.delete.map fun d => d.2.1).getD 0

/-- How many new lines are pending. -/
def Pending.newLength (p : Pending) : Nat := (p.insert.map fun d => d.2.2).getD 0

/-- The lines pending at a place. -/
def Pending.Takes (p : Pending) (i j : Nat) : Prop :=
  (∀ d ∈ p.delete, d.1 = i) ∧ ∀ d ∈ p.insert, d.2.1 = j

theorem leads_flush {p : Pending} (h : p.Takes i j) :
    Leads (Op.Takes s) i j p.flush (i + p.oldLength) (j + p.newLength) := by
  obtain ⟨delete, insert⟩ := p
  obtain ⟨hdelete, hinsert⟩ := h
  cases delete with
  | none =>
    cases insert with
    | none => exact ⟨rfl, rfl⟩
    | some d => exact ⟨hinsert d rfl, rfl, rfl⟩
  | some d =>
    cases insert with
    | none => exact ⟨hdelete d rfl, rfl, rfl⟩
    | some e => exact ⟨⟨hdelete d rfl, hinsert e rfl⟩, rfl, rfl⟩

theorem leads_equal_equal {old new length o n l : Nat} {ops : List Op}
    (h : Leads (Op.Takes s) i j (.equal old new length :: .equal o n l :: ops) i' j') :
    Leads (Op.Takes s) i j (.equal old new (length + l) :: ops) i' j' := by
  obtain ⟨⟨rfl, rfl, hagree⟩, ⟨-, -, hagree'⟩, hrest⟩ := h
  refine ⟨⟨rfl, rfl, hagree.append hagree'⟩, ?_⟩
  simpa only [Op.oldLength, Op.newLength, Nat.add_assoc] using hrest

/-- Operations that follow pending ones are joined with them or stand behind them. -/
theorem leads_joinFrom {p : Pending} {ops : List Op} (hp : p.Takes i j)
    (h : Leads (Op.Takes s) (i + p.oldLength) (j + p.newLength) ops i' j') :
    Leads (Op.Takes s) i j (joinFrom p ops) i' j' := by
  have hnone : ∀ m n, Pending.Takes ⟨none, none⟩ m n := fun m n => ⟨by simp, by simp⟩
  fun_induction joinFrom p ops generalizing i j with
  | case1 p =>
    obtain ⟨rfl, rfl⟩ := h
    exact leads_flush hp
  | case2 p old new length ops rest =>
    rename_i ih
    obtain ⟨hequal, hops⟩ := h
    have hrest := ih (hnone _ _) hops
    change Leads (Op.Takes s) _ _ rest i' j' at hrest
    refine leads_append.2 ⟨_, _, leads_flush hp, ?_⟩
    clear_value rest
    split
    · exact leads_equal_equal ⟨hequal, hrest⟩
    · exact ⟨hequal, hrest⟩
  | case3 p old length new ops o l n hdelete ih =>
    refine ih ⟨fun d hd => ?_, hp.2⟩ ?_
    · cases hd
      exact hp.1 (o, l, n) hdelete
    · simpa [Pending.oldLength, Pending.newLength, hdelete, Op.oldLength, Op.newLength,
        Nat.add_assoc] using h.2
  | case4 p old length new ops hdelete ih =>
    refine ih ⟨fun d hd => ?_, hp.2⟩ ?_
    · cases hd
      simpa [Pending.oldLength, hdelete, Op.Takes] using h.1
    · simpa [Pending.oldLength, Pending.newLength, hdelete, Op.oldLength, Op.newLength] using h.2
  | case5 p old new length ops o n l hinsert ih =>
    refine ih ⟨hp.1, fun d hd => ?_⟩ ?_
    · cases hd
      exact hp.2 (o, n, l) hinsert
    · simpa [Pending.oldLength, Pending.newLength, hinsert, Op.oldLength, Op.newLength,
        Nat.add_assoc] using h.2
  | case6 p old new length ops hinsert ih =>
    refine ih ⟨hp.1, fun d hd => ?_⟩ ?_
    · cases hd
      simpa [Pending.newLength, hinsert, Op.Takes] using h.1
    · simpa [Pending.oldLength, Pending.newLength, hinsert, Op.oldLength, Op.newLength] using h.2
  | case7 p op ops hequal hdelete hinsert ih =>
    obtain ⟨hop, hops⟩ := h
    exact leads_append.2 ⟨_, _, leads_flush hp, hop, ih (hnone _ _) hops⟩

end

/-- The script for two lists of lines leads from their first lines to their last. -/
theorem leads_compare (old new : List Text) :
    Leads (Op.Takes ⟨old.toArray, new.toArray⟩) 0 0 (compare old new) old.length new.length := by
  have hconquer := leads_conquer (s := ⟨old.toArray, new.toArray⟩) (old.length + new.length + 1)
    (b := ⟨0, old.length, 0, new.length⟩) (Nat.zero_le _) (Nat.zero_le _)
  exact leads_joinFrom ⟨by simp, by simp⟩ (leads_compact hconquer)

end Accessors.Script
