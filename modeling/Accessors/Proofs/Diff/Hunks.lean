import Accessors.Diff.Unified
import Accessors.Proofs.Diff.Script

/-!
# Hunks cover a script

Cutting a script into hunks leaves out nothing but equal lines: the hunks stand in the order of the
script, and the lines in front of the first one, between neighbours and behind the last one are the
same on both sides.

The header of a hunk is made from what its first and its last operation record. Between two hunks
these are equal lines, which record both of their places, so that only the two ends of the script
have to be right. What the hunks cover does not depend on that; `recorded` stands for what the
headers need.

* `Script.Spans`: operations that record where they start and where they stop.
* `Script.Stretch`: operations from one place to another that record where they stand.
* `Covers`: hunks with equal lines around them.
* `covers_hunks`: the hunks of a script.
-/

namespace Accessors.Script

/-- The first operation records where they all start, and the last one where they stop. -/
def Spans (i j : Nat) (ops : List Op) (m n : Nat) : Prop :=
  (∀ op ∈ ops.head?, op.oldStart = i ∧ op.newStart = j) ∧
    ∀ op ∈ ops.getLast?, op.oldStop = m ∧ op.newStop = n

instance (i j : Nat) (ops : List Op) (m n : Nat) : Decidable (Spans i j ops m n) :=
  inferInstanceAs (Decidable (_ ∧ _))

/-- Operations from one place to another, which record both places if `recorded` holds. -/
structure Stretch (recorded : Prop) (s : Sides) (i j : Nat) (ops : List Op) (m n : Nat) : Prop where
  leads : Leads (Op.Takes s) i j ops m n
  spans : recorded → Spans i j ops m n

namespace Stretch

variable {recorded : Prop} {s : Sides} {i j m n old new length k : Nat} {front back : List Op}

theorem agreeOn (h : Stretch recorded s i j (front ++ .equal old new length :: back) m n) :
    s.AgreeOn old new length := by
  obtain ⟨a, b, -, ⟨rfl, rfl, hagree⟩, -⟩ := leads_append.1 h.leads
  exact hagree

/-- Up to some of its equal lines. -/
theorem upTo (h : Stretch recorded s i j (front ++ .equal old new length :: back) m n)
    (hk : k ≤ length) :
    Stretch recorded s i j (front ++ [.equal old new k]) (old + k) (new + k) := by
  obtain ⟨a, b, hfront, ⟨rfl, rfl, hagree⟩, -⟩ := leads_append.1 h.leads
  refine ⟨leads_append.2 ⟨old, new, hfront, ⟨rfl, rfl, hagree.take hk⟩, rfl, rfl⟩,
    fun hrecorded => ⟨?_, ?_⟩⟩
  · have hfirst := (h.spans hrecorded).1
    cases front with
    | nil => simpa [Op.oldStart, Op.newStart] using hfirst
    | cons op front => simpa using hfirst
  · simp [Op.oldStop, Op.newStop, Op.oldStart, Op.newStart, Op.oldLength, Op.newLength]

/-- Without some of its equal lines. -/
theorem onFrom (h : Stretch recorded s i j (front ++ .equal old new length :: back) m n)
    (hk : k ≤ length) :
    Stretch recorded s (old + k) (new + k) (.equal (old + k) (new + k) (length - k) :: back)
      m n := by
  obtain ⟨a, b, -, ⟨rfl, rfl, hagree⟩, hback⟩ := leads_append.1 h.leads
  simp only [Op.oldLength, Op.newLength] at hback
  refine ⟨⟨⟨rfl, rfl, hagree.drop k⟩, ?_⟩, fun hrecorded => ⟨?_, ?_⟩⟩
  · simp only [Op.oldLength, Op.newLength]
    convert hback using 1 <;> omega
  · simp [Op.oldStart, Op.newStart]
  · have hlast := (h.spans hrecorded).2
    cases back with
    | nil =>
      obtain ⟨rfl, rfl⟩ := hback
      simp only [List.getLast?_singleton, Option.mem_some_iff, forall_eq', Op.oldStop, Op.newStop,
        Op.oldStart, Op.newStart, Op.oldLength, Op.newLength]
      omega
    | cons op back => simpa [List.getLast?_append, List.getLast?_cons] using hlast

end Stretch

end Accessors.Script

namespace Accessors.Unified

open Script

variable {recorded : Prop} {s : Sides} {i j m n : Nat}

/-- From two places on, the lines of both sides are the same. -/
def EndsAlike (s : Sides) (i j : Nat) : Prop :=
  ∃ gap, s.AgreeOn i j gap ∧ i + gap = s.old.size ∧ j + gap = s.new.size

/-- Hunks from two places on, with equal lines in front of each of them and behind the last one. -/
def Covers (recorded : Prop) (s : Sides) : Nat → Nat → List (List Op) → Prop
  | i, j, [] => EndsAlike s i j
  | i, j, ops :: rest =>
    ops ≠ [] ∧ ∃ gap m n, s.AgreeOn i j gap ∧ Stretch recorded s (i + gap) (j + gap) ops m n ∧
      Covers recorded s m n rest

theorem EndsAlike.widen {k : Nat} (hagree : s.AgreeOn i j k) (h : EndsAlike s (i + k) (j + k)) :
    EndsAlike s i j := by
  obtain ⟨gap, hgap, hold, hnew⟩ := h
  exact ⟨k + gap, hagree.append hgap, by omega, by omega⟩

theorem Covers.widen {k : Nat} {groups : List (List Op)} (hagree : s.AgreeOn i j k)
    (h : Covers recorded s (i + k) (j + k) groups) : Covers recorded s i j groups := by
  cases groups with
  | nil => exact EndsAlike.widen hagree h
  | cons ops rest =>
    obtain ⟨hne, gap, m, n, hgap, hops, hrest⟩ := h
    refine ⟨hne, k + gap, m, n, hagree.append hgap, ?_, hrest⟩
    rwa [← Nat.add_assoc, ← Nat.add_assoc]

theorem Covers.le {groups : List (List Op)} (h : Covers recorded s i j groups) :
    i ≤ s.old.size ∧ j ≤ s.new.size := by
  induction groups generalizing i j with
  | nil =>
    obtain ⟨gap, -, hold, hnew⟩ := h
    omega
  | cons ops rest ih =>
    obtain ⟨-, gap, m, n, -, hops, hrest⟩ := h
    have hle := hops.leads.le
    have hbound := ih hrest
    omega

/-- A group that no other follows. -/
theorem Covers.last {ops : List Op} (hne : ops ≠ []) (h : Stretch recorded s i j ops m n)
    (hend : EndsAlike s m n) : Covers recorded s i j [ops] :=
  ⟨hne, 0, m, n, fun t ht => absurd ht (Nat.not_lt_zero t), h, hend⟩

theorem covers_splitGroups {group ops : List Op}
    (h : Stretch recorded s i j (group.reverse ++ ops) m n) (hend : EndsAlike s m n) :
    Covers recorded s i j (splitGroups group ops) := by
  fun_induction splitGroups group ops generalizing i j with
  | case1 =>
    obtain ⟨rfl, rfl⟩ := h.leads
    exact hend
  | case2 old new length =>
    obtain ⟨⟨-, -, hagree⟩, rfl, rfl⟩ := h.leads
    exact hend.widen hagree
  | case3 group hnil hsingle =>
    rw [List.append_nil] at h
    exact Covers.last (by simpa using hnil) h hend
  | case4 group old new length ops hlong ih =>
    simp only [radius] at hlong ih ⊢
    refine ⟨by simp, 0, old + 3, new + 3, fun t ht => absurd ht (Nat.not_lt_zero t), ?_, ?_⟩
    · rw [List.reverse_cons]
      exact h.upTo (by omega)
    · -- between the two hunks lies what both contexts leave of the equal lines
      apply Covers.widen (k := length - 6) ((h.agreeOn.drop 3).take (by omega))
      apply ih
      rw [List.reverse_singleton, List.singleton_append]
      have hback := h.onFrom (k := length - 3) (by omega)
      rw [Nat.sub_sub_self (by omega : 3 ≤ length), ← Nat.add_sub_assoc (by omega),
        ← Nat.add_sub_assoc (by omega)] at hback
      convert hback using 1 <;> omega
  | case5 group old new length ops hshort ih =>
    apply ih
    rwa [List.reverse_cons, List.append_assoc, List.singleton_append]
  | case6 group op ops hnot ih =>
    apply ih
    rwa [List.reverse_cons, List.append_assoc, List.singleton_append]

/-- In front of the first hunk equal lines are left out. -/
theorem exists_stretch_trimFront {ops : List Op} (h : Stretch recorded s i j ops m n) :
    ∃ k, s.AgreeOn i j k ∧ Stretch recorded s (i + k) (j + k) (trimFront ops) m n := by
  unfold trimFront
  split
  · rename_i old new length ops
    have hsplit : Stretch recorded s i j ([] ++ .equal old new length :: ops) m n := h
    obtain ⟨rfl, rfl, hagree⟩ := h.leads.1
    exact ⟨length - radius, hagree.take (Nat.sub_le ..), hsplit.onFrom (Nat.sub_le ..)⟩
  · exact ⟨0, fun t ht => absurd ht (Nat.not_lt_zero t), h⟩

theorem trimBack_eq (ops : List Op) :
    trimBack ops = ops ∨ ∃ front old new length, ops = front ++ [.equal old new length] ∧
      trimBack ops = front ++ [.equal old new (min length radius)] := by
  fun_induction trimBack ops with
  | case1 => exact .inl rfl
  | case2 old new length => exact .inr ⟨[], old, new, length, rfl, rfl⟩
  | case3 op ops hnot ih =>
    rcases ih with heq | ⟨front, old, new, length, hops, heq⟩
    · exact .inl (by rw [heq])
    · exact .inr ⟨op :: front, old, new, length, by rw [hops, List.cons_append],
        by rw [heq, List.cons_append]⟩

/-- Behind the last hunk equal lines are left out. -/
theorem exists_stretch_trimBack {ops : List Op} (h : Stretch recorded s i j ops m n)
    (hend : EndsAlike s m n) :
    ∃ m' n', Stretch recorded s i j (trimBack ops) m' n' ∧ EndsAlike s m' n' := by
  rcases trimBack_eq ops with heq | ⟨front, old, new, length, rfl, heq⟩
  · exact ⟨m, n, by rwa [heq], hend⟩
  · have hle : min length radius ≤ length := Nat.min_le_left ..
    obtain ⟨a, b, -, ⟨rfl, rfl, -⟩, hm, hn⟩ := leads_append.1 h.leads
    simp only [Op.oldLength, Op.newLength] at hm hn
    refine ⟨_, _, by rw [heq]; exact h.upTo hle, ?_⟩
    apply EndsAlike.widen (h.agreeOn.drop (min length radius))
    convert hend using 1 <;> omega

/-- The hunks of a script cover it. -/
theorem covers_hunks {ops : List Op} (h : Stretch recorded s 0 0 ops s.old.size s.new.size) :
    Covers recorded s 0 0 (hunks ops) := by
  have hend : EndsAlike s s.old.size s.new.size :=
    ⟨0, fun t ht => absurd ht (Nat.not_lt_zero t), rfl, rfl⟩
  obtain ⟨k, hagree, hfront⟩ := exists_stretch_trimFront h
  obtain ⟨m, n, hback, hend⟩ := exists_stretch_trimBack hfront hend
  exact Covers.widen hagree (covers_splitGroups hback hend)

end Accessors.Unified
