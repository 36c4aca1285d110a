import Mathlib.Data.Rat.Floor
import Sentinel.Wire.Json
import Sentinel.Wire.Uuid

/-!
# Tables and parameterised inserts

A table is a list of typed columns. `insert` is one INSERT statement with query
parameters: the server looks up the columns that are named, the client driver
encodes each argument for the type of its column, and the server fits the value
into the column and checks its constraints.
-/

namespace Sentinel.Postgres

open Sentinel.Wire

inductive SqlType where
  | uuid
  | varchar (limit : Nat)
  | text
  | textArray
  | inet
  | numeric (precision scale : Nat)
  | integer
  | jsonb
  | timestamptz
deriving DecidableEq

/-- A value in a row. An address is kept as its text. -/
inductive SqlValue where
  | null
  | uuid (id : Uuid)
  | text (text : String)
  | textArray (texts : List String)
  | inet (address : String)
  | numeric (value : ℚ)
  | integer (value : Int)
  | jsonb (document : Json)
  | timestamptz (instant : Int)

/-- A Python value given as a query argument. -/
inductive PyValue where
  | none
  | str (text : String)
  /-- A string that holds the JSON text of a document. -/
  | jsonText (document : Json)
  | int (value : Int)
  | float (value : ℚ)
  | uuid (id : Uuid)
  | strList (texts : List String)

inductive SqlError where
  | undefinedColumn (column : String)
  /-- The driver's refusal to encode an argument. -/
  | dataError (column : String)
  | untranslatableCharacter
  | valueTooLong (limit : Nat)
  | outOfRange
  | notNullViolation (column : String)
  | checkViolation (column : String)
  | uniqueViolation (column : String)

/-- How the client encodes an argument for a column type; `none` when it raises. -/
abbrev Driver := SqlType → PyValue → Option SqlValue

/-- Text that the server can store. -/
def fitText (text : String) : Except SqlError String :=
  if Char.ofNat 0 ∈ text.toList then .error .untranslatableCharacter else .ok text

/-- Assignment to VARCHAR(limit): excess blanks are cut off, other excess is an error. -/
def fitVarchar (limit : Nat) (text : String) : Except SqlError String := do
  let text ← fitText text
  if text.length ≤ limit then .ok text
  else if (text.toList.drop limit).all (· = ' ') then .ok (String.ofList (text.toList.take limit))
  else .error (.valueTooLong limit)

def fitsInteger (value : Int) : Bool := -2 ^ 31 ≤ value ∧ value < 2 ^ 31

/-- Assignment to NUMERIC(precision, scale), rounding half away from zero. -/
def fitNumeric (precision scale : Nat) (value : ℚ) : Except SqlError ℚ :=
  let magnitude : ℤ := ⌊|value| * 10 ^ scale + 1 / 2⌋
  if magnitude < 10 ^ precision then
    .ok ((if value < 0 then -magnitude else magnitude) / 10 ^ scale)
  else .error .outOfRange

/-- Fit an encoded value into a column of the given type. -/
def SqlType.fit : SqlType → SqlValue → Except SqlError SqlValue
  | .varchar limit, .text content => (fitVarchar limit content).map .text
  | .text, .text content => (fitText content).map .text
  | .textArray, .textArray items => (items.mapM fitText).map .textArray
  | .numeric precision scale, .numeric value => (fitNumeric precision scale value).map .numeric
  | .integer, .integer value =>
      if fitsInteger value then .ok (.integer value) else .error .outOfRange
  | _, value => .ok value

structure Column where
  name : String
  type : SqlType
  notNull : Bool := false
  hasDefault : Bool := false

structure Table where
  columns : List Column
  /-- The column of the primary key. -/
  key : String

/-- A row has one value for each column of its table. -/
abbrev Row := List (String × SqlValue)

abbrev Statement := List (String × PyValue)

def Table.column (table : Table) (name : String) : Option Column :=
  table.columns.find? (·.name = name)

variable (driver : Driver) (defaults : String → SqlValue)

/-- The value a statement gives to a column: its argument, or the default. -/
def supplied (statement : Statement) (column : Column) : Except SqlError SqlValue :=
  match statement.lookup column.name with
  | some .none => .ok .null
  | some argument =>
      match driver column.type argument with
      | some value => column.type.fit value
      | none => .error (.dataError column.name)
  | none => .ok (if column.hasDefault then defaults column.name else .null)

def SqlValue.isNull : SqlValue → Bool
  | .null => true
  | _ => false

/-- The cell of a column in the new row. -/
def cell (statement : Statement) (column : Column) : Except SqlError (String × SqlValue) := do
  let value ← supplied driver defaults statement column
  if column.notNull && value.isNull then .error (.notNullViolation column.name)
  else .ok (column.name, value)

/-- The key column holds the same value in both rows. Keys are UUIDs here. -/
def sameKey (key : String) (row other : Row) : Bool :=
  match row.lookup key, other.lookup key with
  | some (.uuid id), some (.uuid same) => id = same
  | _, _ => false

def insert (table : Table) (statement : Statement) (rows : List Row) :
    Except SqlError (List Row) :=
  match statement.find? fun entry => (table.column entry.1).isNone with
  | some (name, _) => .error (.undefinedColumn name)
  | none => do
      let row ← table.columns.mapM (cell driver defaults statement)
      if rows.any (sameKey table.key row) then .error (.uniqueViolation table.key)
      else .ok (rows ++ [row])

variable {driver defaults} {table : Table} {statement : Statement} {rows : List Row}

/-- A statement that names a column the table does not have is refused, whatever
its arguments are. -/
theorem insert_undefinedColumn {name : String} (named : name ∈ statement.map Prod.fst)
    (missing : table.column name = none) :
    ∃ other, insert driver defaults table statement rows = .error (.undefinedColumn other) := by
  obtain ⟨entry, member, rfl⟩ := List.mem_map.mp named
  obtain ⟨found, first⟩ : ∃ found, statement.find? (fun entry =>
      (table.column entry.1).isNone) = some found := by
    rw [← Option.isSome_iff_exists, List.find?_isSome]
    exact ⟨entry, member, by rw [missing]; rfl⟩
  exact ⟨found.1, by rw [insert, first]⟩

/-- A traversal fails when it fails at one of the items. -/
theorem mapM_error_of_mem {α β ε : Type} {visit : α → Except ε β} {items : List α} {item : α}
    {problem : ε} (member : item ∈ items) (failed : visit item = .error problem) :
    ∃ other, items.mapM visit = .error other := by
  induction member with
  | head rest =>
      refine ⟨problem, ?_⟩
      rw [List.mapM_cons, failed]
      rfl
  | tail head _ ih =>
      obtain ⟨later, rest⟩ := ih
      rw [List.mapM_cons, rest]
      cases visit head with
      | error earlier => exact ⟨earlier, rfl⟩
      | ok value => exact ⟨later, rfl⟩

/-- One column that gets no value keeps the whole row out. -/
theorem insert_refused {column : Column} (member : column ∈ table.columns) {problem : SqlError}
    (refused : cell driver defaults statement column = .error problem) :
    ∃ other, insert driver defaults table statement rows = .error other := by
  obtain ⟨other, failed⟩ := mapM_error_of_mem member refused
  unfold insert
  split
  · exact ⟨_, rfl⟩
  · rw [failed]
    exact ⟨other, rfl⟩

end Sentinel.Postgres
