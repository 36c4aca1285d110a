import Mathlib.Logic.Function.Basic

/-!
# Values that expire

A store in which every write replaces the value of its key and gives it a lifetime.
`Agrees` ties the store to the history of its writes: a key has the value of its
last write for as long as that lives, and no value after it (`Agrees.get_iff`).
-/

namespace Sentinel.Semantics

universe u v

variable {Key : Type u} {Value : Type v}

/-- Each key has a value with the instant at which it expires, or none. -/
abbrev Expiring (Key : Type u) (Value : Type v) := Key → Option (Value × Int)

namespace Expiring

/-- The value of a key, if it is still alive. -/
def get (store : Expiring Key Value) (now : Int) (key : Key) : Option Value :=
  match store key with
  | some (value, expiry) => if now < expiry then some value else none
  | none => none

variable [DecidableEq Key]

def set (store : Expiring Key Value) (key : Key) (value : Value) (expiry : Int) :
    Expiring Key Value := Function.update store key (some (value, expiry))

/-- Forget the value of a key. -/
def erase (store : Expiring Key Value) (key : Key) : Expiring Key Value :=
  Function.update store key none

omit [DecidableEq Key] in
/-- A value that is still alive was alive before. -/
theorem get_of_later {store : Expiring Key Value} {now later : Int} {key : Key} {value : Value}
    (order : now ≤ later) (alive : store.get later key = some value) :
    store.get now key = some value := by
  unfold get at alive ⊢
  cases held : store key with
  | none =>
      rw [held] at alive
      cases alive
  | some entry =>
      simp only [held, Option.ite_none_right_eq_some] at alive ⊢
      exact ⟨Int.lt_of_le_of_lt order alive.1, alive.2⟩

/-- A value that was set is found until it expires. -/
theorem get_set_self (store : Expiring Key Value) (now : Int) (key : Key) (value : Value)
    (expiry : Int) :
    (store.set key value expiry).get now key = if now < expiry then some value else none := by
  simp only [get, set, Function.update_self]

/-- Setting one key leaves the others alone. -/
theorem get_set_of_ne (store : Expiring Key Value) (now : Int) {key other : Key} (value : Value)
    (expiry : Int) (different : other ≠ key) :
    (store.set key value expiry).get now other = store.get now other := by
  simp only [get, set, Function.update_of_ne different]

/-- An erased key is not found. -/
theorem get_erase_self (store : Expiring Key Value) (now : Int) (key : Key) :
    (store.erase key).get now key = none := by
  simp only [get, erase, Function.update_self]

/-- Erasing one key leaves the others alone. -/
theorem get_erase_of_ne (store : Expiring Key Value) (now : Int) {key other : Key}
    (different : other ≠ key) : (store.erase key).get now other = store.get now other := by
  simp only [get, erase, Function.update_of_ne different]

/-- What is found after a write was written or there before. -/
theorem get_of_set {store : Expiring Key Value} {now expiry : Int} {key other : Key}
    {value found : Value} (held : (store.set key value expiry).get now other = some found) :
    other = key ∧ found = value ∨ other ≠ key ∧ store.get now other = some found := by
  by_cases own : other = key
  · subst own
    rw [get_set_self, Option.ite_none_right_eq_some] at held
    exact .inl ⟨rfl, (Option.some.inj held.2).symm⟩
  · rw [get_set_of_ne _ _ _ _ own] at held
    exact .inr ⟨own, held⟩

/-- What is found after an erasure was there before. -/
theorem get_of_erase {store : Expiring Key Value} {now : Int} {key other : Key} {found : Value}
    (held : (store.erase key).get now other = some found) : store.get now other = some found := by
  by_cases own : other = key
  · subst own
    rw [get_erase_self] at held
    cases held
  · rwa [get_erase_of_ne _ _ own] at held

/-- Forget the values that are chosen. -/
def forget (store : Expiring Key Value) (chosen : Value → Bool) : Expiring Key Value :=
  fun key => (store key).filter fun entry => !chosen entry.1

omit [DecidableEq Key] in
/-- Forgetting filters what is found. -/
theorem get_forget (store : Expiring Key Value) (now : Int) (key : Key) (chosen : Value → Bool) :
    (store.forget chosen).get now key = (store.get now key).filter fun value => !chosen value := by
  unfold get forget
  cases store key with
  | none => rfl
  | some entry =>
      obtain ⟨value, expiry⟩ := entry
      by_cases forgotten : chosen value <;> by_cases alive : now < expiry <;>
        simp [Option.filter_some, forgotten, alive]

omit [DecidableEq Key] in
/-- What is left was there and not chosen. -/
theorem get_of_forget {store : Expiring Key Value} {now : Int} {key : Key} {value : Value}
    {chosen : Value → Bool} (held : (store.forget chosen).get now key = some value) :
    store.get now key = some value ∧ chosen value = false := by
  rw [get_forget, Option.filter_eq_some_iff, Bool.not_eq_true'] at held
  exact held

/-- A write that was made. -/
structure Write (Key : Type u) (Value : Type v) where
  key : Key
  value : Value
  expiry : Int

/-- The last write of a key in a history that lists the newest write first. -/
def last (history : List (Write Key Value)) (key : Key) : Option (Write Key Value) :=
  history.find? fun write => write.key = key

/-- The last write of a longer history. -/
theorem last_cons {write : Write Key Value} {history : List (Write Key Value)} {key : Key} :
    last (write :: history) key = if write.key = key then some write else last history key := by
  unfold last
  by_cases own : write.key = key <;> simp [own]

/-- The store is what the writes have made of it. -/
def Agrees (store : Expiring Key Value) (history : List (Write Key Value)) : Prop :=
  ∀ key, store key = (last history key).map fun write => (write.value, write.expiry)

variable {store : Expiring Key Value} {history : List (Write Key Value)} {key : Key}
  {value : Value} {expiry now : Int}

/-- The empty store agrees with the empty history. -/
theorem agrees_empty : Agrees (fun _ => none : Expiring Key Value) [] := fun _ => rfl

/-- A write to both keeps them in agreement. -/
theorem Agrees.set (agrees : Agrees store history) (write : Write Key Value) :
    Agrees (store.set write.key write.value write.expiry) (write :: history) := by
  intro key
  rw [last_cons, Expiring.set]
  by_cases own : write.key = key
  · subst own
    rw [Function.update_self, if_pos rfl]
    rfl
  · rw [Function.update_of_ne (Ne.symm own), if_neg own]
    exact agrees key

/-- A key has a value exactly while its last write lives. -/
theorem Agrees.get_iff (agrees : Agrees store history) :
    store.get now key = some value ↔
      ∃ write, last history key = some write ∧ write.value = value ∧ now < write.expiry := by
  rw [Expiring.get, agrees key]
  cases last history key with
  | none => simp
  | some write =>
      simp only [Option.map_some, Option.some.injEq, exists_eq_left', Option.ite_none_right_eq_some]
      exact And.comm

/-- Where later writes expire later, any write of the key that lives shows that it has a value. -/
theorem Agrees.isSome_of_mem (agrees : Agrees store history)
    (ordered : history.Pairwise fun newer older => older.expiry ≤ newer.expiry)
    {write : Write Key Value} (member : write ∈ history) (alive : now < write.expiry) :
    ∃ value, store.get now write.key = some value := by
  have newest : ∃ newest, last history write.key = some newest ∧ write.expiry ≤ newest.expiry := by
    clear agrees
    induction history with
    | nil => cases member
    | cons first rest ih =>
        obtain ⟨newer, ordered⟩ := List.pairwise_cons.mp ordered
        by_cases own : first.key = write.key
        · refine ⟨first, last_cons.trans (if_pos own), ?_⟩
          rcases List.mem_cons.mp member with rfl | older
          · exact Int.le_refl _
          · exact newer write older
        · have older : write ∈ rest :=
            (List.mem_cons.mp member).resolve_left fun same => own (same ▸ rfl)
          obtain ⟨newest, found, le⟩ := ih ordered older
          exact ⟨newest, last_cons.trans ((if_neg own).trans found), le⟩
  obtain ⟨newest, found, le⟩ := newest
  exact ⟨newest.value, agrees.get_iff.mpr ⟨newest, found, rfl, Int.lt_of_lt_of_le alive le⟩⟩

end Expiring
end Sentinel.Semantics
