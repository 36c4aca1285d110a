import Mathlib.Data.List.Basic
import Sentinel.Semantics.Machine

/-!
# What a machine leaves on record

A machine with a record beside it: each step may note something, and nothing is
ever struck out. `Each` speaks about every note and the record it was added to.
-/

namespace Sentinel.Semantics

universe u v w

variable {State : Type u} {Label : Type v} {Note : Type w}

structure Recorded (State : Type u) (Note : Type w) where
  state : State
  /-- The last note first. -/
  notes : List Note

namespace Machine

/-- The machine, writing down what `note` says of each step it takes. -/
def recording (machine : Machine State Label) (note : State → Label → Option Note) :
    Machine (Recorded State Note) Label where
  step recorded label := (machine.step recorded.state label).map fun next =>
    ⟨next, (note recorded.state label).toList ++ recorded.notes⟩

variable {machine : Machine State Label} {note : State → Label → Option Note}
  {recorded next : Recorded State Note} {label : Label}

theorem recording_step (step : (machine.recording note).step recorded label = some next) :
    machine.step recorded.state label = some next.state ∧
      next.notes = (note recorded.state label).toList ++ recorded.notes := by
  obtain ⟨after, taken, rfl⟩ := Option.map_eq_some_iff.mp step
  exact ⟨taken, rfl⟩

/-- A run of the machine is recorded. -/
theorem exec_recording {state final : State} {labels : List Label}
    (run : machine.exec state labels = some final) (notes : List Note) :
    ∃ later, (machine.recording note).exec ⟨state, notes⟩ labels = some ⟨final, later⟩ := by
  induction labels generalizing state notes with
  | nil =>
      cases run
      exact ⟨notes, rfl⟩
  | cons label rest ih =>
      obtain ⟨next, step, run⟩ := exec_cons_eq_some.mp run
      obtain ⟨later, run⟩ := ih run ((note state label).toList ++ notes)
      refine ⟨later, exec_cons_eq_some.mpr ⟨_, ?_, run⟩⟩
      simp only [recording, step, Option.map_some]

end Machine

/-- Every note meets `property` with what was on record before it. -/
def Each (property : Note → List Note → Prop) : List Note → Prop
  | [] => True
  | note :: older => property note older ∧ Each property older

/-- The last note before any point of the record. -/
theorem Each.of_append {property : Note → List Note → Prop} {newer older : List Note} {note : Note}
    (each : Each property (newer ++ note :: older)) : property note older := by
  induction newer with
  | nil => exact each.1
  | cons first rest ih => exact ih each.2

end Sentinel.Semantics
