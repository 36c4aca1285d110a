import Mathlib.Data.List.Basic
import Mathlib.Order.Basic

/-!
# How many entries fall in a window of time

A history is a list of entries with an instant each, and a window is the
half-open interval of a fixed width that starts at some instant. `WindowBounded`
limits the entries of every window that holds no excused entry. The `cons` rules
say what the newest entry has to meet.
-/

namespace Sentinel.Semantics

/-- The instant is in the window of the given width that begins at `start`. -/
def inWindow (width start instant : Int) : Bool := start ≤ instant ∧ instant < start + width

/-- A window has its start and not its end. -/
theorem inWindow_iff {width start instant : Int} :
    inWindow width start instant ↔ start ≤ instant ∧ instant < start + width := by
  simp [inWindow]

/-- Closer than `width`: some window of that width holds both instants. -/
def within (width instant other : Int) : Bool := other < instant + width ∧ instant < other + width

variable {Entry : Type} (time : Entry → Int) (excused : Entry → Bool) (width : Int)

/-- No excused entry is in the window. -/
def Clear (start : Int) (history : List Entry) : Prop :=
  ∀ entry ∈ history, excused entry → ¬ inWindow width start (time entry)

/-- The entries in the window. -/
def windowCount (start : Int) (history : List Entry) : Nat :=
  history.countP fun entry => inWindow width start (time entry)

/-- Every window without an excused entry has at most `limit` entries. -/
def WindowBounded (limit : Nat) (history : List Entry) : Prop :=
  ∀ start, Clear time excused width start history → windowCount time width start history ≤ limit

variable {time excused width} {limit : Nat} {history : List Entry} {entry : Entry} {start : Int}

theorem windowBounded_nil : WindowBounded time excused width limit [] :=
  fun _ _ => Nat.zero_le limit

theorem Clear.tail (clear : Clear time excused width start (entry :: history)) :
    Clear time excused width start history :=
  fun other member => clear other (List.mem_cons_of_mem _ member)

/-- One more entry counts if it lies in the window. -/
theorem windowCount_cons :
    windowCount time width start (entry :: history) =
      windowCount time width start history + if inWindow width start (time entry) then 1 else 0 := by
  simp [windowCount, List.countP_cons]

/-- A new entry keeps the bound when every window that it falls in has room. -/
theorem WindowBounded.cons (bounded : WindowBounded time excused width limit history)
    (room : ∀ start, inWindow width start (time entry) →
      Clear time excused width start (entry :: history) →
        windowCount time width start history < limit) :
    WindowBounded time excused width limit (entry :: history) := by
  intro start clear
  rw [windowCount_cons]
  by_cases inside : inWindow width start (time entry)
  · rw [if_pos inside]
    exact room start inside clear
  · rw [if_neg inside]
    exact bounded start clear.tail

/-- An excused entry breaks no bound. -/
theorem WindowBounded.cons_excused (bounded : WindowBounded time excused width limit history)
    (free : excused entry) : WindowBounded time excused width limit (entry :: history) := by
  refine bounded.cons fun start inside clear => ?_
  exact absurd inside (clear entry List.mem_cons_self free)

/-- A window that holds an instant counts only what is close to it. -/
theorem windowCount_le_within {instant : Int} (inside : inWindow width start instant) :
    windowCount time width start history ≤
      history.countP fun entry => within width instant (time entry) := by
  refine List.countP_mono_left fun other _ counted => ?_
  have here := inWindow_iff.mp inside
  have there := inWindow_iff.mp counted
  simp only [within, decide_eq_true_eq]
  omega

/-- The entries are listed from the newest to the oldest. -/
def NewestFirst (time : Entry → Int) (history : List Entry) : Prop :=
  history.Pairwise fun newer older => time older ≤ time newer

/-- In a window that reaches back from `now` over no excused entry, all entries
are newer than the last excused one. -/
theorem windowCount_le_takeWhile {now : Int} (sorted : NewestFirst time history)
    (past : ∀ entry ∈ history, time entry ≤ now) (inside : inWindow width start now)
    (clear : Clear time excused width start history) :
    windowCount time width start history ≤ (history.takeWhile (!excused ·)).length := by
  induction history with
  | nil => exact Nat.zero_le _
  | cons newest rest ih =>
      have here := inWindow_iff.mp inside
      obtain ⟨newer, sorted⟩ := List.pairwise_cons.mp sorted
      rw [windowCount_cons]
      cases free : excused newest with
      | false =>
          rw [List.takeWhile_cons_of_pos (by simp [free])]
          have rest := ih sorted (fun other member => past other (List.mem_cons_of_mem _ member))
            clear.tail
          simp only [List.length_cons]
          split <;> omega
      | true =>
          -- The excused entry is before the window, and so is all that is older.
          have outside := clear newest List.mem_cons_self free
          have early : time newest < start := by
            have bound := past newest List.mem_cons_self
            rw [inWindow_iff] at outside
            omega
          have none : windowCount time width start rest = 0 := by
            rw [windowCount, List.countP_eq_zero]
            intro other member counted
            have order := newer other member
            have counted := inWindow_iff.mp counted
            omega
          rw [none, if_neg outside]
          exact Nat.zero_le _

/-- A window that reaches up to `now` counts nothing when the newest entry is
older than its width. -/
theorem windowCount_eq_zero_of_old {now : Int} (sorted : NewestFirst time (entry :: history))
    (old : time entry + width ≤ now) (inside : inWindow width start now) :
    windowCount time width start (entry :: history) = 0 := by
  have here := inWindow_iff.mp inside
  rw [windowCount, List.countP_eq_zero]
  intro other member counted
  have counted := inWindow_iff.mp counted
  have order : time other ≤ time entry := by
    rcases List.mem_cons.mp member with rfl | older
    · exact Int.le_refl _
    · exact (List.pairwise_cons.mp sorted).1 other older
  omega

end Sentinel.Semantics
