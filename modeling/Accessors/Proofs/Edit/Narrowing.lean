import Accessors.Proofs.Edit.Acceptance
import Mathlib.Algebra.Group.Nat.Defs

/-!
# Offsets beyond 32 bits

An edit keeps its offsets in 32 bits, and a batch is checked with the offsets that were kept. So an
offset far behind the end of a text passes the check when its remainder lies in the text, and the
replacement lands at the remainder.

* `Patch.InRange`: a stretch that starts in front of its end and ends within a text.
* `Patch.kept`: a patch as an edit keeps it.
* `Edit.requested`: the batch that a list of requests makes.
* `Edit.requested_kept`: a batch does not tell a request from what is kept of it.
* `Edit.lands_at_kept`: where the texts of an accepted batch land, and when this is where they were
  asked for.
-/

namespace Accessors

open Text

namespace Patch

variable {source : Text} {p : Patch}

/-- The stretch starts in front of its end, or there, and ends within the text. -/
def InRange (source : Text) (p : Patch) : Prop := p.start ≤ p.stop ∧ p.stop ≤ byteLength source

instance (source : Text) (p : Patch) : Decidable (p.InRange source) :=
  inferInstanceAs (Decidable (_ ∧ _))

/-- The patch with its offsets cut down to 32 bits. -/
def kept (p : Patch) : Patch := ⟨p.start % 2 ^ 32, p.stop % 2 ^ 32, p.text⟩

theorem kept_eq_self_iff : p.kept = p ↔ p.start < 2 ^ 32 ∧ p.stop < 2 ^ 32 := by
  have hne : 2 ^ 32 ≠ 0 := by decide
  obtain ⟨start, stop, text⟩ := p
  rw [kept, Patch.mk.injEq, Nat.mod_eq_iff_lt hne, Nat.mod_eq_iff_lt hne]
  simp only [and_true]

/-- In a text of less than `2 ^ 32` bytes a stretch is kept as it is when it is in range. -/
theorem InRange.kept_eq_self (h : p.InRange source) (hsource : byteLength source < 2 ^ 32) :
    p.kept = p := by
  obtain ⟨hle, hstop⟩ := h
  refine kept_eq_self_iff.2 ⟨?_, ?_⟩
  · omega
  · omega

end Patch

namespace Edit

/-- The batch for a list of requests, each a patch and what it is for. -/
def requested (requests : List (Patch × Text)) : List Edit :=
  requests.map fun (p, message) => replace p.start p.stop p.text message

theorem replace_kept (p : Patch) (message : Text) :
    replace p.kept.start p.kept.stop p.kept.text message =
      replace p.start p.stop p.text message := by
  have hword : ∀ n, UInt32.ofNat (n % 2 ^ 32) = UInt32.ofNat n := by
    intro n
    apply UInt32.toNat_inj.1
    rw [UInt32.toNat_ofNat', UInt32.toNat_ofNat', Nat.mod_mod]
  rw [replace, replace, Patch.kept, hword, hword]

/-- A batch does not tell a request from what is kept of it. -/
theorem requested_kept (requests : List (Patch × Text)) :
    requested (requests.map fun (p, message) => (p.kept, message)) = requested requests := by
  rw [requested, requested, List.map_map]
  apply List.map_congr_left
  intro r _
  exact replace_kept r.1 r.2

theorem patch_replace (p : Patch) (message : Text) :
    (replace p.start p.stop p.text message).patch = p.kept := by
  rw [patch, startOffset, stopOffset, replace, UInt32.toNat_ofNat', UInt32.toNat_ofNat']
  rfl

theorem map_patch_requested (requests : List (Patch × Text)) :
    (requested requests).map patch = requests.map fun r => r.1.kept := by
  rw [requested, List.map_map]
  apply List.map_congr_left
  intro r _
  exact patch_replace r.1 r.2

theorem Fits.inRange_patch {source : Text} {e : Edit} (h : Fits source e) :
    e.patch.InRange source :=
  ⟨h.start_le, h.stop_le⟩

/-- An accepted batch puts every text where its offsets lead that were kept, and these are in range.
They are the offsets asked for exactly when both are below `2 ^ 32`; offsets asked for that are in
range are kept in every text of less than `2 ^ 32` bytes, and of offsets that are not in range one
at least is not kept. The batch that asks for the offsets kept is accepted alike. -/
theorem lands_at_kept (source : Text) (requests : List (Patch × Text)) (output : Text)
    (h : applyAll source (requested requests) = .ok output) :
    output = Patch.applyAll source (requests.map fun r => r.1.kept) ∧
      applyAll source (requested (requests.map fun (p, message) => (p.kept, message))) =
        .ok output ∧
      ∀ r ∈ requests,
        r.1.kept.InRange source ∧
        (r.1.kept = r.1 ↔ r.1.start < 2 ^ 32 ∧ r.1.stop < 2 ^ 32) ∧
        (r.1.kept = r.1 → r.1.InRange source) ∧
        (byteLength source < 2 ^ 32 → r.1.InRange source → r.1.kept = r.1) := by
  obtain ⟨⟨hfits, -⟩, houtput⟩ := (applyAll_eq_ok_iff source _ output).1 h
  rw [map_patch_requested] at houtput
  refine ⟨houtput, ?_, ?_⟩
  · rw [requested_kept]
    exact h
  · intro r hr
    have hkept : r.1.kept.InRange source := by
      have hmem : replace r.1.start r.1.stop r.1.text r.2 ∈ requested requests :=
        List.mem_map.2 ⟨r, hr, rfl⟩
      rw [← patch_replace r.1 r.2]
      exact (hfits _ hmem).inRange_patch
    refine ⟨hkept, Patch.kept_eq_self_iff, ?_, ?_⟩
    · intro heq
      rwa [heq] at hkept
    · intro hsource hrange
      exact hrange.kept_eq_self hsource

/-- A request in range, and one that lands in front of it though its offsets are beyond the text. -/
theorem lands_at_kept_in_front :
    let x : Patch := ⟨2 ^ 32, 2 ^ 32 + 1, "x".toList⟩
    let y : Patch := ⟨1, 2, "y".toList⟩
    applyAll "abc".toList (requested [(y, []), (x, [])]) = .ok "xyc".toList ∧
      x.kept.InRange "abc".toList ∧ x.kept ≠ x ∧ y.kept = y ∧ y.InRange "abc".toList := by
  intro x y
  have hordered : ordered (requested [(y, []), (x, [])]) = requested [(y, []), (x, [])] := by
    simp [ordered, requested, List.mergeSort, List.MergeSort.Internal.splitInTwo, laterFirst, x, y,
      replace, startOffset, stopOffset]
  have hrun : applyAll "abc".toList (requested [(y, []), (x, [])]) = .ok "xyc".toList := by
    rw [applyAll, checkBatch, hordered]
    decide +kernel
  obtain ⟨-, -, hrequests⟩ := lands_at_kept _ _ _ hrun
  obtain ⟨-, hykept, hyrange, -⟩ := hrequests (y, []) (by simp)
  obtain ⟨hxrange, hxkept, -, -⟩ := hrequests (x, []) (by simp)
  have hy : y.kept = y := hykept.2 (by decide)
  refine ⟨hrun, hxrange, ?_, hy, hyrange hy⟩
  intro hx
  exact absurd (hxkept.1 hx) (by decide)

/-- An insertion far behind the end of a text is accepted, and lands at its front. -/
theorem inserted_beyond_end :
    let asked : Patch := ⟨2 ^ 32, 2 ^ 32, "x".toList⟩
    asked.start < 2 ^ 64 ∧ asked.stop < 2 ^ 64 ∧
      applyAll "ab".toList (requested [(asked, [])]) = .ok "xab".toList ∧
      ¬ asked.InRange "ab".toList := by
  intro asked
  have hrun : applyAll "ab".toList (requested [(asked, [])]) = .ok "xab".toList := by
    have hbatch : requested [(asked, [])] = [⟨0, 0, "x".toList, []⟩] := by decide
    rw [hbatch]
    exact @applyAll_singleton [] [] "ab".toList ⟨0, 0, "x".toList, []⟩ rfl rfl
  exact ⟨by decide, by decide, hrun, by decide⟩

end Edit

end Accessors
