import Mathlib.Algebra.Order.Group.Int
import Sentinel.Semantics.TimeWindow

/-!
# Quotas that their first use opens

A quota runs for a fixed width from the use that opens it, and the first use
after its end opens the next one. Windows of that width are not aligned with
quotas: one that meets two of them can hold nearly twice the limit.
-/

namespace Sentinel.Semantics

/-- When the quota was opened and how much of it is used. -/
structure Quota where
  openedAt : Int
  used : Nat
deriving DecidableEq, Repr

/-- The quota is running at this instant. -/
def Quota.Running (width now : Int) (quota : Quota) : Prop := now < quota.openedAt + width

/-- The quota after a use at `now`. -/
def Quota.use (width now : Int) : Option Quota → Quota
  | some quota =>
      if now < quota.openedAt + width then { quota with used := quota.used + 1 } else ⟨now, 1⟩
  | none => ⟨now, 1⟩

/-- The last quota that the uses opened; they are listed from the newest. -/
def quotaOf (width : Int) : List Int → Option Quota
  | [] => none
  | now :: older => some (Quota.use width now (quotaOf width older))

/-- For each use, when its quota was opened. -/
def openings (width : Int) : List Int → List Int
  | [] => []
  | now :: older => (Quota.use width now (quotaOf width older)).openedAt :: openings width older

/-- No use went beyond the limit of its quota. -/
def WithinQuota (width : Int) (limit : Nat) : List Int → Prop
  | [] => True
  | now :: older =>
      (Quota.use width now (quotaOf width older)).used ≤ limit ∧ WithinQuota width limit older

variable {width now opening start : Int} {limit : Nat} {uses older : List Int} {quota : Quota}

/-- A use joins the quota that is running. -/
theorem Quota.use_of_running (running : quota.Running width now) :
    Quota.use width now (some quota) = { quota with used := quota.used + 1 } :=
  if_pos running

/-- A use opens a quota when none is running. -/
theorem Quota.use_of_ended {last : Option Quota}
    (ended : ∀ quota, last = some quota → ¬ quota.Running width now) :
    Quota.use width now last = ⟨now, 1⟩ := by
  cases last with
  | none => rfl
  | some quota => exact if_neg (ended quota rfl)

/-- A use stays within the limit when the quota that is running has room. -/
theorem Quota.use_used_le {last : Option Quota} (positive : 0 < limit)
    (room : ∀ quota, last = some quota → quota.Running width now → quota.used < limit) :
    (Quota.use width now last).used ≤ limit := by
  by_cases running : ∃ quota, last = some quota ∧ quota.Running width now
  · obtain ⟨quota, rfl, running⟩ := running
    rw [Quota.use_of_running running]
    exact room quota rfl running
  · rw [Quota.use_of_ended fun quota present holds => running ⟨quota, present, holds⟩]
    exact positive

/-- A quota that was written has been used. -/
theorem used_pos (last : quotaOf width uses = some quota) : 0 < quota.used := by
  cases uses with
  | nil => cases last
  | cons now older =>
      cases last
      cases quotaOf width older with
      | none => exact Nat.one_pos
      | some earlier =>
          simp only [Quota.use]
          split
          · exact Nat.succ_pos _
          · exact Nat.one_pos

/-- Opened by one of the uses. -/
theorem openedAt_mem (last : quotaOf width uses = some quota) : quota.openedAt ∈ uses := by
  induction uses generalizing quota with
  | nil => cases last
  | cons now older ih =>
      cases last
      cases previous : quotaOf width older with
      | none => exact List.mem_cons_self
      | some earlier =>
          have opened : earlier.openedAt ∈ older := ih previous
          simp only [Quota.use]
          split
          · exact List.mem_cons_of_mem _ opened
          · exact List.mem_cons_self

theorem NewestFirst.tail (sorted : NewestFirst id (now :: older)) : NewestFirst id older :=
  (List.pairwise_cons.mp sorted).2

/-- No use is later than the first. -/
theorem NewestFirst.le_newest (sorted : NewestFirst id (now :: older)) {instant : Int}
    (member : instant ∈ older) : instant ≤ now :=
  (List.pairwise_cons.mp sorted).1 instant member

/-- The uses fall into those of the last quota, the one that opened it at their
end, and those of quotas that ended before. -/
structure LastQuota (width : Int) (uses : List Int) (quota : Quota) (current before : List Int) :
    Prop where
  split : uses = current ++ quota.openedAt :: before
  count : current.length + 1 = quota.used
  since : ∀ instant ∈ current, quota.openedAt ≤ instant
  upTo : ∀ instant ∈ before, instant ≤ quota.openedAt
  ended : ∀ earlier, quotaOf width before = some earlier →
    earlier.openedAt + width ≤ quota.openedAt

/-- A quota belongs to the last use that is counted in it. -/
theorem lastQuota (sorted : NewestFirst id uses) (last : quotaOf width uses = some quota) :
    ∃ current before, LastQuota width uses quota current before := by
  induction uses generalizing quota with
  | nil => cases last
  | cons now older ih =>
      cases last
      by_cases running : ∃ earlier, quotaOf width older = some earlier ∧ earlier.Running width now
      · obtain ⟨earlier, previous, running⟩ := running
        obtain ⟨current, before, parts⟩ := ih sorted.tail previous
        rw [previous, Quota.use_of_running running]
        have opened : earlier.openedAt ≤ now := sorted.le_newest (openedAt_mem previous)
        refine ⟨now :: current, before, ?_, ?_, ?_, parts.upTo, parts.ended⟩
        · rw [List.cons_append, ← parts.split]
        · rw [List.length_cons, parts.count]
        · intro instant member
          rcases List.mem_cons.mp member with rfl | member
          · exact opened
          · exact parts.since instant member
      · have ended : ∀ earlier, quotaOf width older = some earlier →
            ¬ earlier.Running width now :=
          fun earlier previous holds => running ⟨earlier, previous, holds⟩
        rw [Quota.use_of_ended ended]
        refine ⟨[], older, rfl, rfl, nofun, fun instant member => sorted.le_newest member, ?_⟩
        exact fun earlier previous => Int.not_lt.mp (ended earlier previous)

/-- A kept quota is not used more often than its limit. -/
theorem WithinQuota.used_le (within : WithinQuota width limit uses)
    (last : quotaOf width uses = some quota) : quota.used ≤ limit := by
  cases uses with
  | nil => cases last
  | cons now older =>
      cases last
      exact within.1

/-- The limit was kept before as well. -/
theorem WithinQuota.append {newer : List Int} (within : WithinQuota width limit (newer ++ older)) :
    WithinQuota width limit older := by
  induction newer with
  | nil => exact within
  | cons now newer ih => exact ih within.2

/-- Counting two parts of a history. -/
private theorem windowCount_append {newer : List Int} :
    windowCount id width start (newer ++ older) =
      windowCount id width start newer + windowCount id width start older :=
  List.countP_append

/-- What lies before a window is not counted in it. -/
private theorem windowCount_eq_zero (early : ∀ instant ∈ uses, instant < start) :
    windowCount id width start uses = 0 := by
  rw [windowCount, List.countP_eq_zero]
  intro instant member counted
  have inside := (inWindow_iff.mp counted).1
  have outside := early instant member
  exact absurd inside (Int.not_le.mpr outside)

/-- A window that begins after the last quota was opened misses its first use. -/
theorem windowCount_lt_of_opened (sorted : NewestFirst id uses)
    (within : WithinQuota width limit uses) (last : quotaOf width uses = some quota)
    (opened : quota.openedAt < start) : windowCount id width start uses < limit := by
  obtain ⟨current, before, parts⟩ := lastQuota sorted last
  have early : windowCount id width start (quota.openedAt :: before) = 0 := by
    refine windowCount_eq_zero fun instant member => ?_
    rcases List.mem_cons.mp member with rfl | member
    · exact opened
    · exact Int.lt_of_le_of_lt (parts.upTo instant member) opened
  have bound : windowCount id width start current ≤ current.length :=
    List.countP_le_length
  have used := within.used_le last
  have count := parts.count
  rw [parts.split, windowCount_append, early]
  omega

/-- A window of the quota's width holds the uses of at most one quota and those
after the first use of the quota before it. -/
theorem WithinQuota.windowCount_lt (within : WithinQuota width limit uses)
    (sorted : NewestFirst id uses) (room : 0 < limit) (start : Int) :
    windowCount id width start uses < 2 * limit := by
  induction uses with
  | nil => exact Nat.mul_pos Nat.two_pos room
  | cons now older ih =>
      by_cases inside : inWindow width start now
      · obtain ⟨quota, last⟩ : ∃ quota, quotaOf width (now :: older) = some quota := ⟨_, rfl⟩
        obtain ⟨current, before, parts⟩ := lastQuota sorted last
        have newest : quota.openedAt ≤ now := by
          rcases List.mem_cons.mp (openedAt_mem last) with same | member
          · exact same.le
          · exact sorted.le_newest member
        by_cases opened : quota.openedAt < start
        · have few := windowCount_lt_of_opened sorted within last opened
          omega
        · -- The last quota was opened in the window, so the one before it was not.
          have used := within.used_le last
          have count := parts.count
          have newer : windowCount id width start (current ++ [quota.openedAt]) ≤
              (current ++ [quota.openedAt]).length := List.countP_le_length
          have earlier : windowCount id width start before < limit := by
            cases previous : quotaOf width before with
            | none =>
                cases before with
                | nil => exact room
                | cons instant rest => cases previous
            | some earlier =>
                have sorted : NewestFirst id before := by
                  rw [parts.split, NewestFirst, List.pairwise_append] at sorted
                  exact sorted.2.1.tail
                have within : WithinQuota width limit before := by
                  rw [parts.split] at within
                  exact within.append.2
                have ended := parts.ended earlier previous
                have here := inWindow_iff.mp inside
                exact windowCount_lt_of_opened sorted within previous (by omega)
          have split : now :: older = (current ++ [quota.openedAt]) ++ before := by
            rw [parts.split, List.append_assoc, List.singleton_append]
          rw [split, windowCount_append]
          rw [List.length_append, List.length_singleton] at newer
          omega
      · rw [windowCount_cons, id, if_neg inside]
        exact ih within.2 sorted.tail

/-- The last quota's count is the number of uses it was opened for. -/
theorem count_openings (positive : 0 < width) (sorted : NewestFirst id uses)
    (last : quotaOf width uses = some quota) :
    (openings width uses).count quota.openedAt = quota.used ∧
      ∀ opening ∈ openings width uses, opening ≤ quota.openedAt := by
  induction uses generalizing quota with
  | nil => cases last
  | cons now older ih =>
      cases last
      by_cases running : ∃ earlier, quotaOf width older = some earlier ∧ earlier.Running width now
      · obtain ⟨earlier, previous, running⟩ := running
        obtain ⟨count, latest⟩ := ih sorted.tail previous
        simp only [openings, previous, Quota.use_of_running running, List.count_cons_self, count,
          true_and]
        rintro opening (_ | ⟨_, member⟩)
        · exact Int.le_refl _
        · exact latest opening member
      · have ended : ∀ earlier, quotaOf width older = some earlier →
            ¬ earlier.Running width now :=
          fun earlier previous holds => running ⟨earlier, previous, holds⟩
        have earlier : ∀ opening ∈ openings width older, opening < now := by
          intro opening member
          cases previous : quotaOf width older with
          | none =>
              cases older with
              | nil => cases member
              | cons instant rest => cases previous
          | some quota =>
              have latest := (ih sorted.tail previous).2 opening member
              have expired := Int.not_lt.mp (ended quota previous)
              omega
        simp only [openings, Quota.use_of_ended ended]
        refine ⟨?_, ?_⟩
        · rw [List.count_cons_self, List.count_eq_zero_of_not_mem]
          exact fun member => absurd (earlier now member) (Int.lt_irrefl _)
        · rintro opening (_ | ⟨_, member⟩)
          · exact Int.le_refl _
          · exact (earlier opening member).le

/-- No quota is used beyond the limit. -/
theorem WithinQuota.count_openings_le (within : WithinQuota width limit uses)
    (positive : 0 < width) (sorted : NewestFirst id uses) (opening : Int) :
    (openings width uses).count opening ≤ limit := by
  induction uses with
  | nil => exact Nat.zero_le _
  | cons now older ih =>
      obtain ⟨quota, last⟩ : ∃ quota, quotaOf width (now :: older) = some quota := ⟨_, rfl⟩
      by_cases current : quota.openedAt = opening
      · rw [← current, (count_openings positive sorted last).1]
        exact within.used_le last
      · cases last
        rw [openings, List.count_cons_of_ne current]
        exact ih within.2 sorted.tail

/-- Quotas that follow each other take their width of time each. -/
theorem WithinQuota.length_le (within : WithinQuota width limit uses) (positive : 0 < width)
    (sorted : NewestFirst id uses) (since : ∀ instant ∈ uses, start ≤ instant)
    (last : quotaOf width uses = some quota) :
    (uses.length : Int) ≤ quota.used + limit * ((quota.openedAt - start) / width) := by
  induction uses generalizing quota with
  | nil => cases last
  | cons now older ih =>
      cases last
      have begun : start ≤ now := since now List.mem_cons_self
      rw [List.length_cons]
      push_cast
      cases previous : quotaOf width older with
      | none =>
          cases older with
          | nil =>
              have elapsed : 0 ≤ (now - start) / width :=
                Int.ediv_nonneg (Int.sub_nonneg.mpr begun) positive.le
              have spent := Int.mul_nonneg (Int.natCast_nonneg limit) elapsed
              simpa [Quota.use] using spent
          | cons instant rest => cases previous
      | some earlier =>
          have few := ih within.2 sorted.tail
            (fun instant member => since instant (List.mem_cons_of_mem _ member)) previous
          by_cases running : earlier.Running width now
          · rw [Quota.use_of_running running]
            push_cast
            omega
          · rw [Quota.use_of_ended fun other same => Option.some.inj same ▸ running]
            -- The earlier quota has taken its width, and room for its limit.
            have ended : earlier.openedAt - start + width ≤ now - start := by
              have expired := Int.not_lt.mp running
              omega
            have later : (earlier.openedAt - start) / width + 1 ≤ (now - start) / width := by
              rw [Int.le_ediv_iff_mul_le positive, Int.add_mul, Int.one_mul]
              have whole := Int.ediv_mul_le (earlier.openedAt - start) positive.ne'
              omega
            have used : (earlier.used : Int) ≤ limit :=
              Int.ofNat_le.mpr (within.2.used_le previous)
            have grown := Int.mul_le_mul_of_nonneg_left later (Int.natCast_nonneg limit)
            rw [Int.mul_add, Int.mul_one] at grown
            push_cast
            omega

/-- Instants that are a width apart take that width of time each. -/
theorem length_le_of_apart (positive : 0 < width) {finish : Int}
    (apart : uses.Pairwise fun newer older => older + width ≤ newer)
    (since : ∀ instant ∈ uses, start ≤ instant) (upTo : ∀ instant ∈ uses, instant ≤ finish)
    (order : start ≤ finish) : (uses.length : Int) ≤ (finish - start) / width + 1 := by
  induction uses generalizing finish with
  | nil =>
      have elapsed : 0 ≤ (finish - start) / width :=
        Int.ediv_nonneg (Int.sub_nonneg.mpr order) positive.le
      simp only [List.length_nil]
      omega
  | cons now older ih =>
      have here : now ≤ finish := upTo now List.mem_cons_self
      have begun : start ≤ now := since now List.mem_cons_self
      obtain ⟨before, apart⟩ := List.pairwise_cons.mp apart
      cases older with
      | nil =>
          have elapsed : 0 ≤ (finish - start) / width :=
            Int.ediv_nonneg (Int.sub_nonneg.mpr order) positive.le
          simp only [List.length_singleton]
          omega
      | cons instant rest =>
          have earlier : start ≤ now - width := by
            have first := since instant (List.mem_cons_of_mem _ List.mem_cons_self)
            have spaced := before instant List.mem_cons_self
            omega
          have few := ih apart (fun other member => since other (List.mem_cons_of_mem _ member))
            (fun other member => Int.le_sub_right_of_add_le (before other member)) earlier
          have step : (now - width - start) / width + 1 ≤ (finish - start) / width := by
            rw [Int.le_ediv_iff_mul_le positive, Int.add_mul, Int.one_mul]
            have whole := Int.ediv_mul_le (now - width - start) positive.ne'
            omega
          rw [List.length_cons]
          push_cast at few ⊢
          omega

end Sentinel.Semantics
