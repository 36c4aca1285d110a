import Mathlib.Algebra.BigOperators.Group.List.Basic
import Mathlib.Data.List.Nodup

/-!
# What concurrent calls add to a counter

Each call adds to shared counters as it goes on, and `total` is what all of them
have added to one. A counter agrees with it for as long as every step `Adds` to
the counter what it adds to its caller's share (`Adds.total`); at the end
the total is a number of calls (`total_eq_ofNat_countP`). Counters have 64 bits.
-/

namespace Sentinel.Semantics

universe u v w

variable {Call : Type u} {Amount : Type v} {Key : Type w}

section

variable [AddCommMonoid Amount] {share : Call → Amount} {calls : List Call}

def total (share : Call → Amount) (calls : List Call) : Amount := (calls.map share).sum

@[simp] theorem total_nil : total share [] = 0 := rfl

@[simp] theorem total_cons {call : Call} :
    total share (call :: calls) = share call + total share calls := List.sum_cons

@[simp] theorem total_append_singleton {call : Call} :
    total share (calls ++ [call]) = total share calls + share call := by
  rw [total, List.map_append, List.sum_append, List.map_singleton, List.sum_singleton]
  rfl

/-- Beside the share of one call there is what the others have added. -/
theorem total_split (share : Call → Amount) {index : Nat} {call : Call}
    (found : calls[index]? = some call) :
    ∃ others, total share calls = others + share call ∧
      ∀ next, total share (calls.set index next) = others + share next := by
  induction calls generalizing index with
  | nil => cases found
  | cons first rest ih =>
      cases index with
      | zero =>
          obtain rfl : first = call := Option.some.inj found
          exact ⟨total share rest, by rw [total_cons, add_comm],
            fun next => by rw [List.set_cons_zero, total_cons, add_comm]⟩
      | succ index =>
          obtain ⟨others, before, after⟩ := ih found
          exact ⟨share first + others, by rw [total_cons, before, add_assoc],
            fun next => by rw [List.set_cons_succ, total_cons, after, add_assoc]⟩

/-- One call goes on, and its share grows by what the total grows by. -/
theorem total_set {index : Nat} {call next : Call} {amount : Amount}
    (found : calls[index]? = some call) (adds : share next = share call + amount) :
    total share (calls.set index next) = total share calls + amount := by
  obtain ⟨others, before, after⟩ := total_split share found
  rw [before, after, adds, add_assoc]

/-- The share of a call is exchanged for its share after a step. -/
theorem total_set_add {index : Nat} {call : Call} (next : Call)
    (found : calls[index]? = some call) :
    total share (calls.set index next) + share call = total share calls + share next := by
  obtain ⟨others, before, after⟩ := total_split share found
  rw [before, after, add_right_comm]

/-- A list with an entry put back where it stands. -/
theorem set_of_getElem? {index : Nat} {call : Call} (found : calls[index]? = some call) :
    calls.set index call = calls := by
  obtain ⟨inside, rfl⟩ := List.getElem?_eq_some_iff.mp found
  exact List.set_getElem_self inside

/-- What a call yields by its step comes to what the others have yielded. -/
theorem filterMap_set_perm {Yield : Type w} {yield : Call → Option Yield} {index : Nat}
    {call next : Call} (found : calls[index]? = some call) (before : yield call = none) :
    ((calls.set index next).filterMap yield).Perm
      (calls.filterMap yield ++ (yield next).toList) := by
  induction calls generalizing index with
  | nil => cases found
  | cons first rest ih =>
      cases index with
      | zero =>
          obtain rfl : first = call := Option.some.inj found
          rw [List.set_cons_zero, List.filterMap_cons, List.filterMap_cons, before]
          cases yield next with
          | none => exact .of_eq (List.append_nil _).symm
          | some value => exact (List.perm_append_singleton value _).symm
      | succ index =>
          rw [List.set_cons_succ, List.filterMap_cons, List.filterMap_cons]
          cases yield first with
          | none => exact ih found
          | some value => exact (ih found).cons value

/-- The total depends on the shares of its calls only. -/
theorem total_congr {other : Call → Amount} (same : ∀ call ∈ calls, share call = other call) :
    total share calls = total other calls :=
  congrArg List.sum (List.map_congr_left same)

/-- The step from `before` to `after` adds to a counter what it adds to a share. -/
def Adds (before after share next : Amount) : Prop :=
  ∃ amount, after = before + amount ∧ next = share + amount

/-- A step that does not touch a counter adds nothing. -/
theorem Adds.nothing {counter held : Amount} : Adds counter counter held held :=
  ⟨0, (add_zero counter).symm, (add_zero held).symm⟩

/-- A call that has added nothing adds to the counter. -/
theorem Adds.first {before amount : Amount} : Adds before (before + amount) 0 amount :=
  ⟨amount, rfl, (zero_add amount).symm⟩

/-- A counter that agrees with the total still does so after the step of a call. -/
theorem Adds.total {before after : Amount} {index : Nat} {call next : Call}
    (adds : Adds before after (share call) (share next)) (found : calls[index]? = some call)
    (agrees : before = total share calls) :
    after = Semantics.total share (calls.set index next) := by
  obtain ⟨amount, rfl, grown⟩ := adds
  rw [total_set found grown, agrees]

/-- An amount for one of several keys is counted once. -/
theorem sum_map_ite [DecidableEq Key] {keys : List Key} (distinct : keys.Nodup) {key : Key}
    (member : key ∈ keys) (amount : Amount) :
    (keys.map fun other => if key = other then amount else 0).sum = amount := by
  have elsewhere : ∀ other, other ≠ key → other ∈ keys →
      (if key = other then amount else 0) = 0 := fun _ different _ => if_neg different.symm
  rw [List.sum_map_eq_nsmul_single key _ elsewhere, List.count_eq_one_of_mem distinct member,
    one_nsmul, if_pos rfl]

/-- The totals by key sum up to the total when every share has a key. -/
theorem sum_total_by_key [DecidableEq Key] (key : Call → Key) {keys : List Key}
    (distinct : keys.Nodup) (covered : ∀ call ∈ calls, key call ∈ keys) :
    (keys.map fun one => total (fun call => if key call = one then share call else 0) calls).sum =
      total share calls := by
  induction calls with
  | nil => simp
  | cons call calls ih =>
      have later : ∀ call ∈ calls, key call ∈ keys := fun call member =>
        covered call (List.mem_cons_of_mem _ member)
      simp only [total_cons]
      rw [List.sum_map_add, ih later, sum_map_ite distinct (covered call List.mem_cons_self)]

/-- What is absent counts for nothing. -/
theorem sum_filterMap (keys : List Key) (value : Key → Option Amount) :
    (keys.filterMap value).sum = (keys.map fun key => (value key).getD 0).sum := by
  induction keys with
  | nil => rfl
  | cons key keys ih =>
      rw [List.map_cons, List.sum_cons, ← ih, List.filterMap_cons]
      cases value key with
      | none => exact (zero_add _).symm
      | some amount => exact List.sum_cons

end

/-- Smaller shares have a smaller total. -/
theorem total_le_total {fewer share : Call → Nat} (le : ∀ call, fewer call ≤ share call)
    {calls : List Call} : total fewer calls ≤ total share calls := by
  induction calls with
  | nil => exact Nat.le_refl _
  | cons call calls ih => exact Nat.add_le_add (le call) ih

/-- What is left to do gets less when the work of one call does. -/
theorem total_set_lt {work : Call → Nat} {calls : List Call} {index : Nat} {call next : Call}
    (found : calls[index]? = some call) (less : work next < work call) :
    total work (calls.set index next) < total work calls := by
  have inside : index < calls.length := (List.getElem?_eq_some_iff.mp found).1
  have put : (calls.set index next)[index]? = some next := List.getElem?_set_self inside
  have grown := total_set put (Nat.add_sub_of_le (Nat.le_of_lt less)).symm
  rw [List.set_set, set_of_getElem? found] at grown
  omega

instance int64AddCommMonoid : AddCommMonoid Int64 where
  add_assoc := Int64.add_assoc
  zero_add := Int64.zero_add
  add_zero := Int64.add_zero
  add_comm := Int64.add_comm
  nsmul := nsmulRec

/-- A counter to which each call of a kind has added one has their number. -/
theorem total_eq_ofNat_countP {share : Call → Int64} {calls : List Call} (kind : Call → Bool)
    (one : ∀ call ∈ calls, share call = if kind call then 1 else 0) :
    total share calls = .ofNat (calls.countP kind) := by
  rw [total_congr one]
  induction calls with
  | nil => rfl
  | cons call calls ih =>
      have later := ih fun call member => one call (List.mem_cons_of_mem _ member)
      rw [total_cons, later, List.countP_cons, Int64.ofNat_add, add_comm]
      split <;> rfl

/-- The counter has the number as its value, as far as it has the bits for it. -/
structure Shows (counter : Int64) (number : Nat) : Prop where
  wrapped : counter = .ofNat number
  exact : number < 2 ^ 63 → counter.toInt = number

/-- A counter shows the number of which it has the low bits. -/
theorem shows_of_eq {counter : Int64} {number : Nat} (equal : counter = .ofNat number) :
    Shows counter number :=
  ⟨equal, fun small => by rw [equal, Int64.toInt_ofNat_of_lt small]⟩

end Sentinel.Semantics
