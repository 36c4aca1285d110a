import Mathlib
import Sentinel.Semantics.Tally

/-!
# Grouped and ordered queries

What `GROUP BY`, `ORDER BY`, `LIMIT` and `OFFSET` promise of an answer. An answer
is not determined by the rows: groups come in any order, and so do rows of the
same rank, anew in every query. `IsPage` collects the answers, `ranks_eq` and
`top_of_page` say what they share, and `pages_perm_iff` when the pages of one
table fit together.
-/

namespace Sentinel.Semantics

universe u v w

section Groups

variable {Row : Type u} {Key : Type v} [DecidableEq Key] {key : Row → Key} {rows : List Row}
  {groups : List Key}

/-- The keys of `GROUP BY`, in some order. -/
structure IsGroups (key : Row → Key) (rows : List Row) (groups : List Key) : Prop where
  distinct : groups.Nodup
  complete : ∀ group, group ∈ groups ↔ ∃ row ∈ rows, key row = group

/-- The keys without repetition are the groups. -/
theorem isGroups_dedup : IsGroups key rows (rows.map key).dedup where
  distinct := List.nodup_dedup _
  complete group := by rw [List.mem_dedup, List.mem_map]

omit [DecidableEq Key] in
/-- The groups may stand in any order. -/
theorem IsGroups.perm {others : List Key} (isGroups : IsGroups key rows groups)
    (same : others.Perm groups) : IsGroups key rows others where
  distinct := same.nodup_iff.mpr isGroups.distinct
  complete group := same.mem_iff.trans (isGroups.complete group)

/-- Adding ones is counting. -/
theorem total_eq_countP (kind : Row → Bool) (rows : List Row) :
    total (fun row => if kind row then 1 else 0) rows = rows.countP kind := by
  induction rows with
  | nil => rfl
  | cons row rows ih => rw [total_cons, ih, List.countP_cons, Nat.add_comm]

/-- Every row is counted in one group. -/
theorem IsGroups.sum_countP (isGroups : IsGroups key rows groups) (kind : Row → Bool) :
    (groups.map fun group => rows.countP fun row => key row = group && kind row).sum =
      rows.countP kind := by
  have covered : ∀ row ∈ rows, key row ∈ groups := fun row member =>
    (isGroups.complete (key row)).mpr ⟨row, member, rfl⟩
  rw [← total_eq_countP kind rows, ← sum_total_by_key key isGroups.distinct covered]
  congr 1
  apply List.map_congr_left
  intro group _
  rw [← total_eq_countP]
  apply total_congr
  intro row _
  by_cases same : key row = group <;> simp [same]

/-- Rows of several keys are counted key by key. -/
theorem countP_mem_eq_sum (key : Row → Key) (rows : List Row) {keys : List Key}
    (distinct : keys.Nodup) :
    rows.countP (key · ∈ keys) = (keys.map fun one => rows.countP (key · = one)).sum := by
  induction rows with
  | nil => simp
  | cons row rows ih =>
      simp only [List.countP_cons, decide_eq_true_eq]
      rw [ih, List.sum_map_add]
      congr 1
      by_cases listed : key row ∈ keys
      · rw [if_pos listed, sum_map_ite distinct listed]
      · rw [if_neg listed]
        refine (List.sum_eq_zero fun amount member => ?_).symm
        obtain ⟨one, oneIn, rfl⟩ := List.mem_map.mp member
        rw [if_neg]
        rintro rfl
        exact listed oneIn

end Groups

section Pages

variable {Row : Type u} {Rank : Type v} [LinearOrder Rank] {rank : Row → Rank}
  {rows arranged others page : List Row} {limit offset cut : Nat}

/-- An order of the rows in which no rank is below a later one. -/
structure IsArranged (rank : Row → Rank) (rows arranged : List Row) : Prop where
  perm : arranged.Perm rows
  descending : arranged.Pairwise fun first second => rank second ≤ rank first

/-- The answers to `ORDER BY rank DESC LIMIT limit OFFSET offset`. -/
def IsPage (rank : Row → Rank) (rows : List Row) (limit offset : Nat) (page : List Row) : Prop :=
  ∃ arranged, IsArranged rank rows arranged ∧ page = (arranged.drop offset).take limit

/-- Sorting arranges the rows. -/
theorem isArranged_mergeSort (rank : Row → Rank) (rows : List Row) :
    IsArranged rank rows (rows.mergeSort fun first second => rank second ≤ rank first) where
  perm := List.mergeSort_perm _ _
  descending := by
    refine (List.pairwise_mergeSort ?_ ?_ rows).imp fun {first second} => of_decide_eq_true
    · intro first second third high low
      exact decide_eq_true ((of_decide_eq_true low).trans (of_decide_eq_true high))
    · intro first second
      rcases le_total (rank first) (rank second) with low | high
      · simp [low]
      · simp [high]

/-- Arranged rows have descending ranks. -/
theorem IsArranged.sorted (isArranged : IsArranged rank rows arranged) :
    (arranged.map rank).Pairwise (· ≥ ·) := List.pairwise_map.mpr isArranged.descending

/-- Whatever the order among rows of one rank, the ranks come in the same order. -/
theorem IsArranged.ranks_eq (isArranged : IsArranged rank rows arranged)
    (other : IsArranged rank rows others) : arranged.map rank = others.map rank := by
  have same : (arranged.map rank).Perm (others.map rank) :=
    (isArranged.perm.trans other.perm.symm).map rank
  exact same.eq_of_pairwise (fun _ _ _ _ high low => le_antisymm low high) isArranged.sorted
    other.sorted

/-- The ranks of a page do not depend on how ties stand. -/
theorem IsPage.ranks_eq (isPage : IsPage rank rows limit offset page)
    (isArranged : IsArranged rank rows arranged) :
    page.map rank = ((arranged.map rank).drop offset).take limit := by
  obtain ⟨own, ownArranged, rfl⟩ := isPage
  rw [List.map_take, List.map_drop, ownArranged.ranks_eq isArranged]

/-- How many rows a page has. -/
theorem IsPage.length (isPage : IsPage rank rows limit offset page) :
    page.length = min limit (rows.length - offset) := by
  obtain ⟨arranged, isArranged, rfl⟩ := isPage
  rw [List.length_take, List.length_drop, isArranged.perm.length_eq]

/-- What is listed first is ranked no lower than anything that is not listed. -/
theorem IsPage.top (isPage : IsPage rank rows limit 0 page) :
    ∃ rest, (page ++ rest).Perm rows ∧ (∀ row ∈ page, ∀ other ∈ rest, rank other ≤ rank row) ∧
      (rest ≠ [] → page.length = limit) := by
  obtain ⟨arranged, isArranged, rfl⟩ := isPage
  rw [List.drop_zero]
  refine ⟨arranged.drop limit, ?_, ?_, ?_⟩
  · rw [List.take_append_drop]
    exact isArranged.perm
  · have apart := isArranged.descending
    rw [← List.take_append_drop limit arranged] at apart
    exact fun row member other left => (List.pairwise_append.mp apart).2.2 row member other left
  · intro more
    rw [List.length_take, Nat.min_eq_left]
    by_contra few
    exact more (List.drop_eq_nil_of_le (Nat.le_of_not_le few))

/-- Among descending ranks, those that are high enough come first. -/
theorem countP_take_of_leading (kind : Row → Bool) {arranged : List Row}
    (leading : arranged.Pairwise fun first second => kind second = true → kind first = true)
    (cut : Nat) : (arranged.take cut).countP kind = min cut (arranged.countP kind) := by
  induction arranged generalizing cut with
  | nil => simp
  | cons row arranged ih =>
      cases cut with
      | zero => simp
      | succ cut =>
          rw [List.take_succ_cons, List.countP_cons, List.countP_cons,
            ih (List.pairwise_cons.mp leading).2]
          by_cases high : kind row = true
          · rw [if_pos high]
            omega
          · have low : arranged.countP kind = 0 := by
              rw [List.countP_eq_zero]
              exact fun other member holds =>
                high ((List.pairwise_cons.mp leading).1 other member holds)
            rw [if_neg high, low]
            omega

/-- Rows that are not equal are tied, and a cut separates some of their rank from others. -/
def Straddled (rank : Row → Rank) (rows : List Row) (cut : Nat) : Prop :=
  ∃ first ∈ rows, ∃ second ∈ rows, rank first = rank second ∧ first ≠ second ∧
    rows.countP (fun row => rank first < rank row) < cut ∧
      cut < rows.countP fun row => rank first ≤ rank row

/-- Rows of at least a rank are above it or at it. -/
theorem countP_le_eq_add (rank : Row → Rank) (bound : Rank) (rows : List Row) :
    rows.countP (fun row => bound ≤ rank row) =
      rows.countP (fun row => bound < rank row) + rows.countP fun row => rank row = bound := by
  induction rows with
  | nil => rfl
  | cons row rows ih =>
      simp only [List.countP_cons, ih]
      rcases lt_trichotomy bound (rank row) with below | same | above
      · simp [below, below.le, below.ne']
        omega
      · simp [same]
        omega
      · simp [above.not_ge, above.not_gt, above.ne]

/-- How many rows of a rank stand before a cut. -/
theorem IsArranged.countP_take (isArranged : IsArranged rank rows arranged) (bound : Rank)
    (cut : Nat) :
    (arranged.take cut).countP (fun row => rank row = bound) =
      min cut (rows.countP fun row => bound ≤ rank row) -
        min cut (rows.countP fun row => bound < rank row) := by
  have least := countP_take_of_leading (fun row => bound ≤ rank row)
    (isArranged.descending.imp fun {first second} high low => by
      rw [decide_eq_true_eq] at low ⊢
      exact low.trans high) cut
  have more := countP_take_of_leading (fun row => bound < rank row)
    (isArranged.descending.imp fun {first second} high low => by
      rw [decide_eq_true_eq] at low ⊢
      exact lt_of_lt_of_le low high) cut
  rw [isArranged.perm.countP_eq] at least more
  have split := countP_le_eq_add rank bound (arranged.take cut)
  omega

/-- A cut that no tie straddles leaves the same rows before it in every order. -/
theorem IsArranged.take_perm (isArranged : IsArranged rank rows arranged)
    (other : IsArranged rank rows others) (apart : ¬ Straddled rank rows cut) :
    (arranged.take cut).Perm (others.take cut) := by
  classical
  rw [List.perm_iff_count]
  intro row
  have tied := isArranged.countP_take (rank row) cut
  have alsoTied := other.countP_take (rank row) cut
  have all := countP_le_eq_add rank (rank row) rows
  have counted : ∀ {order : List Row}, IsArranged rank rows order →
      order.count row = rows.count row := fun order => order.perm.count_eq row
  have split : ∀ order : List Row,
      (order.take cut).count row + (order.drop cut).count row = order.count row := by
    intro order
    rw [← List.count_append, List.take_append_drop]
  have splitTied : ∀ order : List Row, (order.take cut).countP (fun one => rank one = rank row) +
      (order.drop cut).countP (fun one => rank one = rank row) =
        order.countP fun one => rank one = rank row := by
    intro order
    rw [← List.countP_append, List.take_append_drop]
  have fewer : ∀ order : List Row,
      order.count row ≤ order.countP fun one => rank one = rank row := by
    intro order
    refine List.countP_mono_left fun one _ same => ?_
    rw [eq_of_beq same]
    exact decide_eq_true rfl
  by_cases inside : rows.countP (fun one => rank row < rank one) < cut ∧
      cut < rows.countP fun one => rank row ≤ rank one
  · -- The rows of the rank are all equal, so that they are counted alike.
    have alike : ∀ order : List Row, (∀ one ∈ order, one ∈ rows) → row ∈ rows →
        order.count row = order.countP fun one => rank one = rank row := by
      intro order among member
      refine List.countP_congr fun one listed => ?_
      rw [beq_iff_eq, decide_eq_true_eq]
      refine ⟨fun same => same ▸ rfl, fun same => ?_⟩
      by_contra different
      exact apart ⟨row, member, one, among one listed, same.symm, fun same => different same.symm,
        inside⟩
    by_cases member : row ∈ rows
    · rw [alike _ (fun one listed => isArranged.perm.subset (List.mem_of_mem_take listed)) member,
        alike _ (fun one listed => other.perm.subset (List.mem_of_mem_take listed)) member, tied,
        alsoTied]
    · rw [List.count_eq_zero_of_not_mem fun listed =>
          member (isArranged.perm.subset (List.mem_of_mem_take listed)),
        List.count_eq_zero_of_not_mem fun listed =>
          member (other.perm.subset (List.mem_of_mem_take listed))]
  · have first := fewer (arranged.take cut)
    have second := fewer (others.take cut)
    have third := fewer (arranged.drop cut)
    have fourth := fewer (others.drop cut)
    have fifth := splitTied arranged
    have sixth := splitTied others
    have seventh := split arranged
    have eighth := split others
    rw [counted isArranged] at seventh
    rw [counted other] at eighth
    rw [isArranged.perm.countP_eq] at fifth
    rw [other.perm.countP_eq] at sixth
    omega

/-- An order is made of the rows above a rank, those of the rank in any order, and those below. -/
theorem isArranged_blocks {bound : Rank} {above ties below : List Row}
    (higher : IsArranged rank (rows.filter fun row => bound < rank row) above)
    (equal : ties.Perm (rows.filter fun row => rank row = bound))
    (lower : IsArranged rank (rows.filter fun row => rank row < bound) below) :
    IsArranged rank rows (above ++ (ties ++ below)) where
  perm := by
    have rest : (rows.filter fun row => !decide (bound < rank row)).Perm (ties ++ below) := by
      refine .trans (List.filter_append_perm (fun row => rank row = bound) _).symm ?_
      rw [List.filter_filter, List.filter_filter]
      refine .append (.trans (.of_eq ?_) equal.symm) (.trans (.of_eq ?_) lower.perm.symm)
      · refine List.filter_congr fun row _ => ?_
        by_cases tied : rank row = bound <;> simp [tied]
      · refine List.filter_congr fun row _ => ?_
        rcases lt_trichotomy (rank row) bound with lower | tied | higher
        · simp [lower, lower.ne, lower.le]
        · simp [tied]
        · simp [higher, higher.le]
    exact (higher.perm.append rest.symm).trans (List.filter_append_perm _ rows)
  descending := by
    have aboveBound : ∀ row ∈ above, bound < rank row := fun row member =>
      of_decide_eq_true (List.mem_filter.mp (higher.perm.subset member)).2
    have atBound : ∀ row ∈ ties, rank row = bound := fun row member =>
      of_decide_eq_true (List.mem_filter.mp (equal.subset member)).2
    have belowBound : ∀ row ∈ below, rank row < bound := fun row member =>
      of_decide_eq_true (List.mem_filter.mp (lower.perm.subset member)).2
    refine List.pairwise_append.mpr ⟨higher.descending, List.pairwise_append.mpr
      ⟨?_, lower.descending, ?_⟩, ?_⟩
    · refine List.pairwise_of_forall_mem_list fun one oneIn two twoIn => ?_
      rw [atBound one oneIn, atBound two twoIn]
    · exact fun one oneIn two twoIn => atBound one oneIn ▸ (belowBound two twoIn).le
    · intro one oneIn two twoIn
      rcases List.mem_append.mp twoIn with tied | under
      · exact atBound two tied ▸ (aboveBound one oneIn).le
      · exact ((belowBound two under).trans (aboveBound one oneIn)).le

/-- Where a tie straddles a cut, two orders leave different rows before it. -/
theorem Straddled.orders (straddled : Straddled rank rows cut) :
    ∃ first second before after, first ≠ second ∧ before.length + 1 = cut ∧
      IsArranged rank rows (before ++ first :: second :: after) ∧
        IsArranged rank rows (before ++ second :: first :: after) := by
  classical
  obtain ⟨first, member, second, alsoMember, same, different, low, high⟩ := straddled
  have split := countP_le_eq_add rank (rank first) rows
  have higher := isArranged_mergeSort rank (rows.filter fun row => rank first < rank row)
  have lower := isArranged_mergeSort rank (rows.filter fun row => rank row < rank first)
  have aboveLength := higher.perm.length_eq
  generalize (rows.filter fun row => rank first < rank row).mergeSort _ = above at higher aboveLength
  generalize (rows.filter fun row => rank row < rank first).mergeSort _ = below at lower
  -- The two rows stand at the cut, among the spare ones of their rank.
  obtain ⟨spare, tied⟩ : ∃ spare,
      (first :: second :: spare).Perm (rows.filter fun row => rank row = rank first) := by
    have inTies : first ∈ rows.filter fun row => rank row = rank first := by simp [member]
    have alsoInTies : second ∈ (rows.filter fun row => rank row = rank first).erase first :=
      (List.mem_erase_of_ne (Ne.symm different)).mpr (by simp [alsoMember, same])
    exact ⟨_, ((List.perm_cons_erase alsoInTies).symm.cons first).trans
      (List.perm_cons_erase inTies).symm⟩
  have tiedLength := tied.length_eq
  rw [← List.countP_eq_length_filter] at aboveLength tiedLength
  rw [List.length_cons, List.length_cons] at tiedLength
  have arrange : ∀ one two, (one :: two :: spare).Perm (first :: second :: spare) →
      IsArranged rank rows ((above ++ spare.take (cut - 1 - above.length)) ++
        one :: two :: (spare.drop (cut - 1 - above.length) ++ below)) := by
    intro one two swapped
    have ties : (spare.take (cut - 1 - above.length) ++
        one :: two :: spare.drop (cut - 1 - above.length)).Perm
          (rows.filter fun row => rank row = rank first) := by
      refine .trans ?_ (swapped.trans tied)
      refine List.perm_middle.trans (.cons one (List.perm_middle.trans (.cons two ?_)))
      rw [List.take_append_drop]
    have blocks := isArranged_blocks higher ties lower
    simpa only [List.append_assoc, List.cons_append] using blocks
  refine ⟨first, second, above ++ spare.take (cut - 1 - above.length),
    spare.drop (cut - 1 - above.length) ++ below, different, ?_, arrange first second .rfl,
    arrange second first (.swap first second spare)⟩
  rw [List.length_append, List.length_take]
  omega

/-- The first pages of one order are its beginning. -/
theorem flatMap_pages (limit number : Nat) (arranged : List Row) :
    ((List.range number).flatMap fun index => (arranged.drop (index * limit)).take limit) =
      arranged.take (number * limit) := by
  induction number with
  | zero => simp
  | succ number ih =>
      rw [List.range_succ, List.flatMap_append, ih, List.flatMap_singleton, Nat.succ_mul,
        List.take_add]

/-- The first pages of one order, with those of another order behind them. -/
theorem flatMap_pages_of_two {index number : Nat} (before : index ≤ number) (limit : Nat)
    (arranged others : List Row) :
    ((List.range number).flatMap fun page => if page < index
        then (arranged.drop (page * limit)).take limit
        else (others.drop (page * limit)).take limit) =
      arranged.take (index * limit) ++
        (others.drop (index * limit)).take ((number - index) * limit) := by
  induction number, before using Nat.le_induction with
  | base =>
      rw [Nat.sub_self, Nat.zero_mul, List.take_zero, List.append_nil, ← flatMap_pages]
      exact List.flatMap_congr fun page member => if_pos (List.mem_range.mp member)
  | succ number before ih =>
      have later : index * limit + (number - index) * limit = number * limit := by
        rw [← Nat.add_mul, Nat.add_sub_of_le before]
      rw [List.range_succ, List.flatMap_append, ih, List.flatMap_singleton,
        if_neg (Nat.not_lt_of_le before), Nat.succ_sub before, Nat.succ_mul, List.take_add,
        List.drop_drop, later, List.append_assoc]

/-- A page between two cuts that no tie straddles has the same rows in every answer. -/
theorem IsPage.perm_of_apart (isPage : IsPage rank rows limit offset page)
    (isArranged : IsArranged rank rows arranged) (apart : ¬ Straddled rank rows offset)
    (apartNext : ¬ Straddled rank rows (offset + limit)) :
    page.Perm ((arranged.drop offset).take limit) := by
  obtain ⟨own, ownArranged, rfl⟩ := isPage
  have upTo := ownArranged.take_perm isArranged apartNext
  rw [List.take_add, List.take_add] at upTo
  have before := ownArranged.take_perm isArranged apart
  exact (List.perm_append_left_iff (own.take offset)).mp
    (upTo.trans (before.symm.append_right _))

/-- The pages of a table, each from an answer of its own, have every row exactly once in
any case if and only if no tie of different rows straddles the boundary of two pages. -/
theorem pages_perm_iff {number : Nat} (enough : rows.length ≤ number * limit) :
    (∀ pages : Nat → List Row,
        (∀ index < number, IsPage rank rows limit (index * limit) (pages index)) →
          ((List.range number).flatMap pages).Perm rows) ↔
      ∀ index ≤ number, ¬ Straddled rank rows (index * limit) := by
  classical
  constructor
  · intro fit index within straddled
    obtain ⟨first, second, before, after, different, length, one, two⟩ := straddled.orders
    -- The pages before the boundary are answered in one order, those after it in the other.
    have perm := fit (fun page => if page < index
      then ((before ++ first :: second :: after).drop (page * limit)).take limit
      else ((before ++ second :: first :: after).drop (page * limit)).take limit) ?_
    · have all : (first :: after).length ≤ (number - index) * limit := by
        have total := one.perm.length_eq
        have later := Nat.add_mul (number - index) index limit
        rw [Nat.sub_add_cancel within] at later
        simp only [List.length_append, List.length_cons] at total ⊢
        omega
      rw [flatMap_pages_of_two within, ← length, List.take_length_add_append,
        List.drop_length_add_append] at perm
      simp only [List.take_succ_cons, List.take_zero, List.drop_succ_cons, List.drop_zero] at perm
      rw [List.take_of_length_le all, List.append_assoc] at perm
      have twice : (first :: first :: after).Perm (first :: second :: after) :=
        (List.perm_append_left_iff before).mp (perm.trans one.perm.symm)
      have listed : second ∈ first :: first :: after := twice.symm.subset (by simp)
      have counted := twice.count_eq second
      simp only [List.count_cons, beq_self_eq_true, beq_iff_eq, different, if_false, if_true]
        at counted
      omega
    · intro page _
      split
      · exact ⟨_, one, rfl⟩
      · exact ⟨_, two, rfl⟩
  · intro apart pages isPage
    have sorted := isArranged_mergeSort rank rows
    generalize (rows.mergeSort fun first second => rank second ≤ rank first) = arranged at sorted
    have alike : ((List.range number).flatMap pages).Perm (arranged.take (number * limit)) := by
      rw [← flatMap_pages]
      refine List.Perm.flatMap_left _ fun index member => ?_
      have below := List.mem_range.mp member
      refine (isPage index below).perm_of_apart sorted (apart index below.le) ?_
      rw [← Nat.succ_mul]
      exact apart (index + 1) below
    rw [List.take_of_length_le (sorted.perm.length_eq.trans_le enough)] at alike
    exact alike.trans sorted.perm

end Pages

section Weights

variable {Row : Type u} {weight : Row → Nat} {rows page others : List Row} {limit : Nat}

/-- In descending weights a step to the front loses nothing. -/
theorem sum_take_le_cons {first : Nat} {weights : List Nat}
    (descending : (first :: weights).Pairwise (· ≥ ·)) (limit : Nat) :
    (weights.take limit).sum ≤ ((first :: weights).take limit).sum := by
  induction weights generalizing first limit with
  | nil => simp
  | cons second weights ih =>
      cases limit with
      | zero => exact Nat.le_refl _
      | succ limit =>
          obtain ⟨above, descending⟩ := List.pairwise_cons.mp descending
          simp only [List.take_succ_cons, List.sum_cons]
          exact Nat.add_le_add (above second List.mem_cons_self) (ih descending limit)

/-- No part of a descending list has a larger sum than as long a beginning of it. -/
theorem sum_le_sum_take {weights part : List Nat} (descending : weights.Pairwise (· ≥ ·))
    (sublist : part.Sublist weights) {limit : Nat} (few : part.length ≤ limit) :
    part.sum ≤ (weights.take limit).sum := by
  induction sublist generalizing limit with
  | slnil => exact Nat.zero_le _
  | cons first sublist ih =>
      exact (ih (List.pairwise_cons.mp descending).2 few).trans (sum_take_le_cons descending limit)
  | cons_cons first sublist ih =>
      cases limit with
      | zero => exact absurd few (Nat.not_succ_le_zero _)
      | succ limit =>
          rw [List.take_succ_cons, List.sum_cons, List.sum_cons]
          exact Nat.add_le_add_left
            (ih (List.pairwise_cons.mp descending).2 (Nat.le_of_succ_le_succ few)) first

/-- No choice of as many rows weighs more than the first page. -/
theorem IsPage.sum_le (isPage : IsPage weight rows limit 0 page) (chosen : others.Subperm rows)
    (few : others.length ≤ limit) : (others.map weight).sum ≤ (page.map weight).sum := by
  have sorted := isArranged_mergeSort weight rows
  rw [isPage.ranks_eq sorted, List.drop_zero]
  obtain ⟨part, same, sublist⟩ := chosen.trans sorted.perm.symm.subperm
  rw [← (same.map weight).sum_eq]
  refine sum_le_sum_take sorted.sorted (sublist.map weight) ?_
  rwa [List.length_map, same.length_eq]

end Weights

section Tallies

variable {Row : Type u} {Key : Type v} [DecidableEq Key] {key : Row → Key} {rows : List Row}
  {limit : Nat} {answer : List (Key × Nat)}

/-- The answers to a query that counts the rows of every key and lists the largest counts. -/
def IsTally (key : Row → Key) (rows : List Row) (limit : Nat) (answer : List (Key × Nat)) : Prop :=
  ∃ groups page, IsGroups key rows groups ∧
    IsPage (fun group => rows.countP (key · = group)) groups limit 0 page ∧
      answer = page.map fun group => (group, rows.countP (key · = group))

/-- The keys listed are those with most rows, each with its number. -/
structure TopTally (key : Row → Key) (rows : List Row) (limit : Nat)
    (answer : List (Key × Nat)) : Prop where
  distinct : (answer.map Prod.fst).Nodup
  exact : ∀ entry ∈ answer, entry.2 = rows.countP (key · = entry.1) ∧ 0 < entry.2
  descending : answer.Pairwise fun first second => second.2 ≤ first.2
  bounded : answer.length ≤ limit
  complete : answer.length < limit → ∀ row ∈ rows, key row ∈ answer.map Prod.fst
  /-- No choice of as many keys has more rows. -/
  heaviest : ∀ keys : List Key, keys.length ≤ limit →
    rows.countP (key · ∈ keys) ≤ (answer.map Prod.snd).sum

/-- Some of the groups, without repetition, have all rows whose keys are among some keys. -/
theorem IsGroups.countP_mem {groups : List Key} (isGroups : IsGroups key rows groups)
    (keys : List Key) :
    rows.countP (key · ∈ keys) =
      ((groups.filter (· ∈ keys)).map fun group => rows.countP (key · = group)).sum := by
  rw [← countP_mem_eq_sum key rows (isGroups.distinct.filter _)]
  refine List.countP_congr fun row member => ?_
  have listed : key row ∈ groups := (isGroups.complete _).mpr ⟨row, member, rfl⟩
  simp [listed]

/-- Few keys, each listed with its number, in descending order of the numbers. -/
theorem isTally_of_descending {groups : List Key} (isGroups : IsGroups key rows groups)
    (descending : groups.Pairwise fun first second =>
      rows.countP (key · = second) ≤ rows.countP (key · = first))
    (few : groups.length ≤ limit)
    (counted : answer = groups.map fun group => (group, rows.countP (key · = group))) :
    IsTally key rows limit answer := by
  refine ⟨groups, groups, isGroups, ⟨groups, ⟨.rfl, descending⟩, ?_⟩, counted⟩
  rw [List.drop_zero, List.take_of_length_le few]

/-- A tally shows the largest groups with their numbers. -/
theorem IsTally.top (isTally : IsTally key rows limit answer) : TopTally key rows limit answer := by
  obtain ⟨groups, page, isGroups, isPage, rfl⟩ := isTally
  have keys : (page.map fun group => (group, rows.countP (key · = group))).map Prod.fst = page :=
    (List.map_map ..).trans (List.map_id page)
  obtain ⟨rest, all, top, full⟩ := isPage.top
  have part : page.Sublist (page ++ rest) := List.sublist_append_left page rest
  refine ⟨?_, ?_, ?_, ?_, ?_, ?_⟩
  · rw [keys]
    exact (all.nodup_iff.mpr isGroups.distinct).sublist part
  · intro entry member
    obtain ⟨group, listed, rfl⟩ := List.mem_map.mp member
    obtain ⟨row, rowIn, same⟩ := (isGroups.complete group).mp (all.subset (part.subset listed))
    exact ⟨rfl, List.countP_pos_iff.mpr ⟨row, rowIn, decide_eq_true same⟩⟩
  · obtain ⟨arranged, isArranged, rfl⟩ := isPage
    exact List.pairwise_map.mpr (isArranged.descending.sublist (List.take_sublist _ _))
  · rw [List.length_map, isPage.length]
    exact Nat.min_le_left ..
  · intro few row member
    rw [keys]
    rw [List.length_map] at few
    have none : rest = [] := by
      by_contra some
      exact absurd (full some) few.ne
    rw [none, List.append_nil] at all
    exact all.symm.subset ((isGroups.complete _).mpr ⟨row, member, rfl⟩)
  · intro keys few
    rw [isGroups.countP_mem, List.map_map]
    refine isPage.sum_le (List.filter_sublist.subperm) ?_
    have inside : (groups.filter (· ∈ keys)).Subperm keys := by
      refine List.subperm_of_subset (isGroups.distinct.filter _) fun group member => ?_
      exact of_decide_eq_true (List.mem_filter.mp member).2
    exact inside.length_le.trans few

/-- The numbers listed are the same in every answer. -/
theorem IsTally.counts_eq {other : List (Key × Nat)} (isTally : IsTally key rows limit answer)
    (isOther : IsTally key rows limit other) : answer.map Prod.snd = other.map Prod.snd := by
  obtain ⟨groups, page, isGroups, isPage, rfl⟩ := isTally
  obtain ⟨others, otherPage, alsoGroups, isOtherPage, rfl⟩ := isOther
  have same : groups.Perm others := by
    refine (List.perm_ext_iff_of_nodup isGroups.distinct alsoGroups.distinct).mpr fun group => ?_
    rw [isGroups.complete, alsoGroups.complete]
  have sorted := isArranged_mergeSort (fun group => rows.countP (key · = group)) groups
  have alsoSorted := (⟨sorted.perm.trans same, sorted.descending⟩ : IsArranged _ others _)
  have ranks := (isPage.ranks_eq sorted).trans (isOtherPage.ranks_eq alsoSorted).symm
  rw [List.map_map, List.map_map]
  exact ranks

end Tallies
end Sentinel.Semantics
