import Mathlib.Data.List.AList

/-!
# Maps to shared cells

A key is bound to a cell once and for all, and whoever holds the cell updates it
in place. `get` is the map from keys to values that this stands for;
`get_loadOrStore` and `get_update` say what the operations do to it.
-/

namespace Sentinel.Semantics

universe u v

/-- A cell is named by its place in the store. -/
structure CellMap (Key : Type u) (Value : Type v) [DecidableEq Key] where
  cellOf : AList fun _ : Key => Nat
  cells : List Value
  bounded : ∀ key cell, cellOf.lookup key = some cell → cell < cells.length
  distinct : ∀ key other cell, cellOf.lookup key = some cell → cellOf.lookup other = some cell →
    key = other

namespace CellMap

variable {Key : Type u} {Value : Type v} [DecidableEq Key]

def empty : CellMap Key Value where
  cellOf := ∅
  cells := []
  bounded := by simp
  distinct := by simp

def load (map : CellMap Key Value) (key : Key) : Option Nat := map.cellOf.lookup key

def read (map : CellMap Key Value) (cell : Nat) : Option Value := map.cells[cell]?

def get (map : CellMap Key Value) (key : Key) : Option Value := (map.load key).bind map.read

def keys (map : CellMap Key Value) : List Key := map.cellOf.keys

def values (map : CellMap Key Value) : List Value := map.keys.filterMap map.get

/-- A new cell that no key is bound to yet. -/
def new (map : CellMap Key Value) (value : Value) : CellMap Key Value where
  cellOf := map.cellOf
  cells := map.cells ++ [value]
  bounded key cell found := by
    rw [List.length_append]
    exact Nat.lt_add_right _ (map.bounded key cell found)
  distinct := map.distinct

/-- What is found after an insertion was inserted or there before. -/
theorem lookup_insert_eq_some {cellOf : AList fun _ : Key => Nat} {key other : Key}
    {cell held : Nat} (found : (cellOf.insert key cell).lookup other = some held) :
    other = key ∧ held = cell ∨ cellOf.lookup other = some held := by
  by_cases same : other = key
  · subst same
    rw [AList.lookup_insert] at found
    exact .inl ⟨rfl, (Option.some.inj found).symm⟩
  · rw [AList.lookup_insert_ne same] at found
    exact .inr found

/-- Bind a key to a cell of its own. -/
def bind (map : CellMap Key Value) (key : Key) (value : Value) : CellMap Key Value where
  cellOf := map.cellOf.insert key map.cells.length
  cells := map.cells ++ [value]
  bounded other cell found := by
    rw [List.length_append, List.length_singleton]
    rcases lookup_insert_eq_some found with ⟨_, rfl⟩ | found
    · exact Nat.lt_succ_self _
    · exact Nat.lt_succ_of_lt (map.bounded other cell found)
  distinct first second cell left right := by
    rcases lookup_insert_eq_some left with ⟨leftKey, fresh⟩ | left <;>
      rcases lookup_insert_eq_some right with ⟨rightKey, other⟩ | right
    · exact leftKey.trans rightKey.symm
    · exact absurd fresh (Nat.ne_of_lt (map.bounded second cell right))
    · exact absurd other (Nat.ne_of_lt (map.bounded first cell left))
    · exact map.distinct first second cell left right

/-- The cell that the key is bound to, which is a new one if there was none. The
new cell of a caller who comes second is left unused. -/
def loadOrStore (map : CellMap Key Value) (key : Key) (value : Value) :
    CellMap Key Value × Nat :=
  match map.load key with
  | some actual => (map.new value, actual)
  | none => (map.bind key value, map.cells.length)

def update (map : CellMap Key Value) (cell : Nat) (become : Value → Value) :
    CellMap Key Value where
  cellOf := map.cellOf
  cells := map.cells.modify cell become
  bounded key held found := by
    rw [List.length_modify]
    exact map.bounded key held found
  distinct := map.distinct

variable {map : CellMap Key Value} {key other : Key} {cell : Nat} {value : Value}
  {become : Value → Value}

@[simp] theorem load_empty : (empty : CellMap Key Value).load key = none := AList.lookup_empty key

@[simp] theorem get_empty : (empty : CellMap Key Value).get key = none := by
  rw [get, load_empty, Option.bind_none]

/-- The keys are what is bound. -/
theorem mem_keys : key ∈ map.keys ↔ map.load key ≠ none := by
  rw [load, Ne, AList.lookup_eq_none, not_not]
  exact AList.mem_keys.symm

/-- No key stands twice. -/
theorem keys_nodup : map.keys.Nodup := map.cellOf.keys_nodup

/-- A key is bound exactly when it has a value. -/
theorem get_eq_none_iff : map.get key = none ↔ map.load key = none := by
  constructor
  · intro absent
    cases found : map.load key with
    | none => rfl
    | some cell =>
        have inside : cell < map.cells.length := map.bounded key cell found
        rw [get, found, Option.bind_some, read, List.getElem?_eq_getElem inside] at absent
        cases absent
  · intro absent
    rw [get, absent, Option.bind_none]

/-- A bound key holds a value. -/
theorem exists_get_of_load (found : map.load key = some cell) :
    ∃ value, map.get key = some value := by
  apply Option.ne_none_iff_exists'.mp
  rw [Ne, get_eq_none_iff, found]
  exact Option.some_ne_none cell

/-- A key is bound to the next cell. -/
theorem load_bind_self : (map.bind key value).load key = some map.cells.length :=
  AList.lookup_insert map.cellOf

/-- The other keys keep their cells. -/
theorem load_bind_of_ne (different : other ≠ key) :
    (map.bind key value).load other = map.load other :=
  AList.lookup_insert_ne different

/-- Afterwards the key is bound to the cell that the caller has got. -/
@[simp] theorem load_loadOrStore_self :
    (map.loadOrStore key value).1.load key = some (map.loadOrStore key value).2 := by
  cases found : map.load key with
  | some actual =>
      rw [loadOrStore, found]
      exact found
  | none =>
      rw [loadOrStore, found]
      exact load_bind_self

theorem load_loadOrStore_of_ne (different : other ≠ key) :
    (map.loadOrStore key value).1.load other = map.load other := by
  unfold loadOrStore
  split
  · rfl
  · exact load_bind_of_ne different

/-- No key is ever bound to another cell. -/
theorem load_loadOrStore_of_load (found : map.load other = some cell) :
    (map.loadOrStore key value).1.load other = some cell := by
  by_cases same : other = key
  · subst same
    rw [loadOrStore, found]
    exact found
  · rw [load_loadOrStore_of_ne same, found]

@[simp] theorem load_update : (map.update cell become).load key = map.load key := rfl

/-- The cells that are there keep their values when one is added. -/
theorem read_append (inside : cell < map.cells.length) :
    (map.cells ++ [value])[cell]? = map.read cell := List.getElem?_append_left inside

/-- A new cell is no key's yet. -/
theorem get_new : (map.new value).get key = map.get key := by
  have same : (map.new value).load key = map.load key := rfl
  rw [get, get, same]
  cases found : map.load key with
  | none => rfl
  | some cell => exact read_append (map.bounded key cell found)

/-- What the keys hold after one was bound. -/
theorem get_bind (absent : map.load key = none) :
    (map.bind key value).get other = if other = key then some value else map.get other := by
  split
  · rename_i same
    subst same
    rw [get, load_bind_self, Option.bind_some]
    exact List.getElem?_concat_length
  · rename_i different
    cases found : map.load other with
    | none => rw [get, get, load_bind_of_ne different, found, Option.bind_none, Option.bind_none]
    | some cell =>
        rw [get, get, load_bind_of_ne different, found, Option.bind_some, Option.bind_some]
        exact read_append (map.bounded other cell found)

/-- A key without a value gets the new one, and nothing else changes. -/
theorem get_loadOrStore : (map.loadOrStore key value).1.get other =
    if other = key then some ((map.get key).getD value) else map.get other := by
  cases found : map.load key with
  | some actual =>
      obtain ⟨held, valued⟩ := exists_get_of_load found
      rw [loadOrStore, found, valued, Option.getD_some]
      refine get_new.trans ?_
      split
      · rename_i same
        rw [same, valued]
      · rfl
  | none =>
      rw [loadOrStore, found, get_eq_none_iff.mpr found, Option.getD_none]
      exact get_bind found

/-- The update of a key's cell is an update at this key alone. -/
theorem get_update (found : map.load key = some cell) : (map.update cell become).get other =
    if other = key then (map.get key).map become else map.get other := by
  cases loaded : map.load other with
  | none =>
      have different : other ≠ key := by
        rintro rfl
        cases loaded.symm.trans found
      rw [if_neg different, get, load_update, loaded, get, loaded, Option.bind_none,
        Option.bind_none]
  | some held =>
      by_cases same : other = key
      · subst same
        obtain rfl := Option.some.inj (loaded.symm.trans found)
        rw [if_pos rfl, get, load_update, get, loaded, Option.bind_some, Option.bind_some]
        exact List.getElem?_modify_eq become held map.cells
      · have apart : cell ≠ held := by
          rintro rfl
          exact same (map.distinct other key cell loaded found)
        rw [if_neg same, get, load_update, get, loaded, Option.bind_some, Option.bind_some]
        exact List.getElem?_modify_ne become map.cells apart

end CellMap
end Sentinel.Semantics
