import Mathlib.Data.Nat.Basic

/-!
# Widening a run

The loop that counts on while the next place may be taken, and what it has counted when
it ends: at every place it counted over the test held, and it ended at its bound or at a
place where the test failed.
-/

namespace Ostiole.Logic

/-- Widen a run while it may be, by `room` places at most. -/
def widen (keep : Nat → Bool) : Nat → Nat → Nat
  | 0, width => width
  | room + 1, width => if keep width then widen keep room (width + 1) else width

theorem widen_spec (keep : Nat → Bool) (room start : Nat) :
    start ≤ widen keep room start ∧ widen keep room start ≤ start + room ∧
      (∀ i, start ≤ i → i < widen keep room start → keep i = true) ∧
      (widen keep room start = start + room ∨ keep (widen keep room start) = false) := by
  induction room generalizing start with
  | zero => exact ⟨le_rfl, le_rfl, fun i later below => absurd below (Nat.not_lt.mpr later),
      .inl rfl⟩
  | succ room ih =>
    rw [widen]
    split
    · next kept =>
        obtain ⟨least, most, each, ends⟩ := ih (start + 1)
        refine ⟨by omega, by omega, fun i later below => ?_, ends.imp (fun full => by omega) id⟩
        rcases Nat.eq_or_lt_of_le later with rfl | after
        · exact kept
        · exact each i after below
    · next failed =>
        exact ⟨le_rfl, Nat.le_add_right _ _, fun i later below =>
          absurd below (Nat.not_lt.mpr later), .inr (Bool.not_eq_true _ ▸ failed)⟩

/-- A run that is widened within a stream of `bits` places. -/
theorem widen_within (keep : Nat → Bool) (room : Nat) {start offset bits : Nat}
    (inside : offset + start ≤ bits) :
    let width := widen (fun width => decide (offset + width < bits) && keep (offset + width)) room
      start
    start ≤ width ∧ width ≤ start + room ∧ offset + width ≤ bits ∧
      (∀ i, start ≤ i → i < width → keep (offset + i) = true) ∧
      (width = start + room ∨ offset + width = bits ∨ keep (offset + width) = false) := by
  obtain ⟨least, most, each, ends⟩ :=
    widen_spec (fun width => decide (offset + width < bits) && keep (offset + width)) room start
  generalize widen (fun width => decide (offset + width < bits) && keep (offset + width)) room
    start =
    width at *
  have kept : ∀ i, start ≤ i → i < width → offset + i < bits ∧ keep (offset + i) = true := by
    intro i later below
    simpa using each i later below
  have within : offset + width ≤ bits := by
    rcases Nat.eq_or_lt_of_le least with rfl | wider
    · exact inside
    · have last := (kept (width - 1) (by omega) (by omega)).1
      omega
  refine ⟨least, most, within, fun i later below => (kept i later below).2,
    ends.imp_right fun failed => ?_⟩
  rcases Nat.eq_or_lt_of_le within with whole | more
  · exact .inl whole
  · refine .inr ?_
    simpa [more] using failed

end Ostiole.Logic
