import Mathlib.Order.Basic

/-!
# Objects that answer operations in time

An object performs one operation after another, each at an instant, and answers
it. A `Simulation` between two objects is a relation that the operations a guard
admits keep, with equal answers, and that the passing of time keeps too. Related
objects then answer a whole history alike (`Simulation.answers_eq`).
-/

namespace Sentinel.Semantics

universe u v w x y

structure TimedObject (Instant : Type u) (Op : Type v) (Answer : Type w) (State : Type x) where
  perform : Instant → Op → State → Answer × State

variable {Instant : Type u} {Op : Type v} {Answer : Type w} {State : Type x}

namespace TimedObject

/-- What an object answers to a history. -/
def answers (object : TimedObject Instant Op Answer State) :
    List (Instant × Op) → State → List Answer
  | [], _ => []
  | (now, op) :: rest, state =>
      (object.perform now op state).1 :: object.answers rest (object.perform now op state).2

/-- The instants of the history do not go back, and the guard admits each of its
operations in the state it meets. -/
def Admits [LE Instant] (object : TimedObject Instant Op Answer State)
    (guard : Instant → Op → State → Prop) : Instant → List (Instant × Op) → State → Prop
  | _, [], _ => True
  | earlier, (now, op) :: rest, state =>
      earlier ≤ now ∧ guard now op state ∧
        object.Admits guard now rest (object.perform now op state).2

/-- The first object's operations, where the guard admits them, are those of the second. -/
structure Simulation [LE Instant] {Abstract : Type x} {Concrete : Type y}
    (abstract : TimedObject Instant Op Answer Abstract)
    (concrete : TimedObject Instant Op Answer Concrete)
    (guard : Instant → Op → Abstract → Prop) where
  Related : Instant → Abstract → Concrete → Prop
  wait : ∀ {earlier now state store}, earlier ≤ now → Related earlier state store →
    Related now state store
  perform : ∀ {now op state store}, Related now state store → guard now op state →
    (concrete.perform now op store).1 = (abstract.perform now op state).1 ∧
      Related now (abstract.perform now op state).2 (concrete.perform now op store).2

/-- Related objects give the same answers. -/
theorem Simulation.answers_eq [LE Instant] {Abstract : Type x} {Concrete : Type y}
    {abstract : TimedObject Instant Op Answer Abstract}
    {concrete : TimedObject Instant Op Answer Concrete}
    {guard : Instant → Op → Abstract → Prop}
    (simulation : Simulation abstract concrete guard) {earlier : Instant}
    {history : List (Instant × Op)} {state : Abstract} {store : Concrete}
    (related : simulation.Related earlier state store)
    (admitted : abstract.Admits guard earlier history state) :
    concrete.answers history store = abstract.answers history state := by
  induction history generalizing earlier state store with
  | nil => rfl
  | cons first rest ih =>
      obtain ⟨now, op⟩ := first
      obtain ⟨order, guarded, admitted⟩ := admitted
      obtain ⟨same, related⟩ := simulation.perform (simulation.wait order related) guarded
      rw [answers, answers, same, ih related admitted]

end TimedObject
end Sentinel.Semantics
