import Mathlib.Logic.Basic

/-!
# Cumulatively acknowledged logs

A consumer works through a log offset by offset. Acknowledging an offset
acknowledges every earlier offset with it, so an offset that was passed over is
acknowledged by the first later acknowledgement. `Cursor.covered_commit_iff`
says exactly when such an acknowledgement is safe; what makes an offset
`settled` is left to the consumer.
-/

namespace Sentinel.Semantics

/-- A consumer's place in one log. -/
structure Cursor where
  /-- The offset of the message in hand, or of the next one to be fetched. -/
  position : Nat
  /-- Every offset below this one is acknowledged. -/
  committed : Nat
  /-- Offsets passed over without an acknowledgement since the last start. -/
  skipped : List Nat
deriving DecidableEq, Repr

namespace Cursor

/-- Every acknowledged offset is settled. -/
def Covered (settled : Nat → Prop) (cursor : Cursor) : Prop :=
  ∀ offset, offset < cursor.committed → settled offset

def start : Cursor := ⟨0, 0, []⟩

/-- Nothing is acknowledged, and everything before `first` has been passed over. -/
def startAt (first : Nat) : Cursor := ⟨first, 0, List.range first⟩

/-- Acknowledge the message in hand and move on. -/
def commit (cursor : Cursor) : Cursor :=
  { cursor with position := cursor.position + 1, committed := cursor.position + 1 }

/-- Move on although the acknowledgement of the message in hand failed. -/
def advance (cursor : Cursor) : Cursor :=
  { cursor with position := cursor.position + 1 }

/-- Pass over the message in hand without acknowledging it. -/
def skip (cursor : Cursor) : Cursor :=
  { cursor with
    position := cursor.position + 1
    skipped := cursor.position :: cursor.skipped }

/-- Acknowledge everything before the message in hand. -/
def commitPosition (cursor : Cursor) : Cursor :=
  { cursor with committed := cursor.position }

/-- A restarted consumer resumes at the first unacknowledged offset. -/
def restart (cursor : Cursor) : Cursor :=
  { cursor with position := cursor.committed, skipped := [] }

/-- A restarted consumer that begins at `last` as long as nothing has been acknowledged. -/
def resumeAt (cursor : Cursor) (last : Nat) : Cursor :=
  if cursor.committed = 0 then startAt last else cursor.restart

/-- The bookkeeping of a consumer: behind the cursor every unacknowledged
offset is settled or was passed over. -/
structure Tracks (settled : Nat → Prop) (cursor : Cursor) : Prop where
  bounded : cursor.committed ≤ cursor.position
  below : ∀ offset ∈ cursor.skipped, offset < cursor.position
  accounted : ∀ offset, cursor.committed ≤ offset → offset < cursor.position →
    settled offset ∨ offset ∈ cursor.skipped

variable {settled later : Nat → Prop} {cursor : Cursor}

/-- At the start nothing is behind the cursor. -/
theorem tracks_start : start.Tracks settled where
  bounded := Nat.le_refl _
  below := by simp [start]
  accounted := by simp [start]

/-- At the start nothing is acknowledged. -/
theorem covered_start : start.Covered settled := by
  intro offset below
  exact absurd below (Nat.not_lt_zero _)

/-- A cursor that starts later has passed over what came before. -/
theorem tracks_startAt (first : Nat) : (startAt first).Tracks settled where
  bounded := Nat.zero_le _
  below := fun _ member => List.mem_range.mp member
  accounted := fun _ _ behind => .inr (List.mem_range.mpr behind)

/-- A cursor that starts later has acknowledged nothing. -/
theorem covered_startAt (first : Nat) : (startAt first).Covered settled := by
  intro offset below
  exact absurd below (Nat.not_lt_zero _)

/-- What is acknowledged stays settled when more is. -/
theorem Covered.mono (implies : ∀ offset, settled offset → later offset)
    (covered : cursor.Covered settled) : cursor.Covered later :=
  fun offset below => implies offset (covered offset below)

/-- The account stays right when more is settled. -/
theorem Tracks.mono (implies : ∀ offset, settled offset → later offset)
    (tracks : cursor.Tracks settled) : cursor.Tracks later where
  bounded := tracks.bounded
  below := tracks.below
  accounted := fun offset past behind =>
    (tracks.accounted offset past behind).imp (implies offset) id

/-- What is acknowledged with the message in hand needs no account any more. -/
theorem Tracks.commit (tracks : cursor.Tracks settled) : cursor.commit.Tracks settled where
  bounded := Nat.le_refl _
  below := fun offset member => Nat.lt_succ_of_lt (tracks.below offset member)
  accounted := fun _ past behind => absurd behind (Nat.not_lt.mpr past)

/-- What is acknowledged before the message in hand needs no account either. -/
theorem Tracks.commitPosition (tracks : cursor.Tracks settled) :
    cursor.commitPosition.Tracks settled where
  bounded := Nat.le_refl _
  below := tracks.below
  accounted := fun _ past behind => absurd behind (Nat.not_lt.mpr past)

/-- The position moves over a settled message. -/
theorem Tracks.advance (tracks : cursor.Tracks settled) (done : settled cursor.position) :
    cursor.advance.Tracks settled where
  bounded := Nat.le_succ_of_le tracks.bounded
  below := fun offset member => Nat.lt_succ_of_lt (tracks.below offset member)
  accounted := by
    intro offset past behind
    rcases Nat.lt_succ_iff_lt_or_eq.mp behind with earlier | rfl
    · exact tracks.accounted offset past earlier
    · exact .inl done

/-- A message that is skipped is kept in the account. -/
theorem Tracks.skip (tracks : cursor.Tracks settled) : cursor.skip.Tracks settled where
  bounded := Nat.le_succ_of_le tracks.bounded
  below := by
    intro offset member
    rcases List.mem_cons.mp member with rfl | member
    · exact Nat.lt_succ_self _
    · exact Nat.lt_succ_of_lt (tracks.below offset member)
  accounted := by
    intro offset past behind
    rcases Nat.lt_succ_iff_lt_or_eq.mp behind with earlier | rfl
    · exact (tracks.accounted offset past earlier).imp id (List.mem_cons_of_mem _)
    · exact .inr List.mem_cons_self

/-- A restarted consumer has nothing behind its cursor. -/
theorem tracks_restart (cursor : Cursor) : cursor.restart.Tracks settled where
  bounded := Nat.le_refl _
  below := by simp [restart]
  accounted := fun _ past behind => absurd behind (Nat.not_lt.mpr past)

/-- A consumer that begins elsewhere has passed over what came before. -/
theorem tracks_resumeAt (cursor : Cursor) (last : Nat) :
    (cursor.resumeAt last).Tracks settled := by
  unfold resumeAt
  split
  · exact tracks_startAt last
  · exact tracks_restart cursor

/-- A restart acknowledges nothing. -/
theorem Covered.resumeAt (covered : cursor.Covered settled) (last : Nat) :
    (cursor.resumeAt last).Covered settled := by
  unfold Cursor.resumeAt
  split
  · exact covered_startAt last
  · exact covered

/-- Acknowledging up to the message in hand is safe exactly when everything
that was passed over has been settled since. -/
theorem covered_commitPosition_iff (tracks : cursor.Tracks settled)
    (covered : cursor.Covered settled) :
    cursor.commitPosition.Covered settled ↔ ∀ offset ∈ cursor.skipped, settled offset := by
  constructor
  · intro all offset member
    exact all offset (tracks.below offset member)
  · intro skippedSettled offset below
    rcases Nat.lt_or_ge offset cursor.committed with old | past
    · exact covered offset old
    · rcases tracks.accounted offset past below with done | member
      · exact done
      · exact skippedSettled offset member

/-- Acknowledging the message in hand is safe under the same condition,
provided that it is itself settled. -/
theorem covered_commit_iff (tracks : cursor.Tracks settled) (covered : cursor.Covered settled) :
    cursor.commit.Covered settled ↔
      (∀ offset ∈ cursor.skipped, settled offset) ∧ settled cursor.position := by
  rw [← covered_commitPosition_iff tracks covered]
  constructor
  · intro all
    exact ⟨fun offset below => all offset (Nat.lt_succ_of_lt below),
      all cursor.position (Nat.lt_succ_self _)⟩
  · rintro ⟨all, done⟩ offset below
    rcases Nat.lt_succ_iff_lt_or_eq.mp below with earlier | rfl
    · exact all offset earlier
    · exact done

end Cursor
end Sentinel.Semantics
