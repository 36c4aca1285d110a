import Sentinel.Semantics.Machine

/-!
# What one part of a machine sees

A `Projection` maps the states of a machine to those of a part of it. The part
takes a step for each label that it sees and stands still at the others, so what
a run does to the part is a function of the labels that it sees.
-/

namespace Sentinel.Semantics

universe u v w x

structure Projection {State : Type u} {Label : Type v} {Part : Type w} {PartLabel : Type x}
    (whole : Machine State Label) (part : Machine Part PartLabel) where
  view : State → Part
  seen : Label → Option PartLabel
  visible : ∀ {state label next partLabel}, seen label = some partLabel →
    whole.step state label = some next → part.step (view state) partLabel = some (view next)
  hidden : ∀ {state label next}, seen label = none → whole.step state label = some next →
    view next = view state

namespace Projection

variable {State : Type u} {Label : Type v} {Part : Type w} {PartLabel : Type x}
  {whole : Machine State Label} {part : Machine Part PartLabel}
  (projection : Projection whole part)

/-- A run of the whole is a run of the part on the labels that the part sees. -/
theorem exec {state final : State} {labels : List Label}
    (run : whole.exec state labels = some final) :
    part.exec (projection.view state) (labels.filterMap projection.seen) =
      some (projection.view final) := by
  induction labels generalizing state with
  | nil =>
      cases run
      rfl
  | cons label rest ih =>
      obtain ⟨next, step, run⟩ := Machine.exec_cons_eq_some.mp run
      cases seen : projection.seen label with
      | none =>
          rw [List.filterMap_cons_none seen, ← projection.hidden seen step]
          exact ih run
      | some partLabel =>
          rw [List.filterMap_cons_some seen]
          exact Machine.exec_cons_eq_some.mpr ⟨_, projection.visible seen step, ih run⟩

/-- What the part's runs keep, the whole keeps of the part. -/
theorem along {property : Part → Prop} {state : State}
    (kept : ∀ labels, part.Along property (projection.view state) labels) (labels : List Label) :
    whole.Along (fun state => property (projection.view state)) state labels := by
  induction labels generalizing state with
  | nil => exact (kept []).here
  | cons label rest ih =>
      refine ⟨(kept []).here, fun next step => ih ?_⟩
      cases seen : projection.seen label with
      | none =>
          rw [projection.hidden seen step]
          exact kept
      | some partLabel =>
          exact fun labels => (kept (partLabel :: labels)).2 _ (projection.visible seen step)

/-- Runs in which the part sees the same leave it in the same state. -/
theorem determined {state other first second : State} {labels others : List Label}
    (start : projection.view state = projection.view other)
    (run : whole.exec state labels = some first)
    (otherRun : whole.exec other others = some second)
    (same : labels.filterMap projection.seen = others.filterMap projection.seen) :
    projection.view first = projection.view second := by
  have left := projection.exec run
  have right := projection.exec otherRun
  rw [start, same, right] at left
  exact (Option.some.inj left).symm

end Projection
end Sentinel.Semantics
