import Mathlib.Data.List.Nodup
import Mathlib.Data.Rat.Defs

/-!
# JSON documents and struct tags

Documents are trees: printing a tree and parsing the text again is the identity
on it and is not modelled. `JsonField` is one field of a Go struct under its
`json` tag, and `marshal` and `unmarshal` are `json.Marshal` and
`json.Unmarshal` over a list of such fields.
-/

namespace Sentinel.Wire

inductive Json where
  | null
  | bool (value : Bool)
  | num (value : ℚ)
  | str (text : String)
  /-- An RFC 3339 text, identified with the instant it denotes (nanoseconds
  since the Unix epoch). -/
  | time (instant : Int)
  | arr (items : List Json)
  | obj (entries : List (String × Json))

/-- Year, month and day of a day counted from the Unix epoch. -/
def civilDate (day : Int) : Int × Int × Int :=
  let shifted := day + 719468
  let era := shifted / 146097
  let dayOfEra := shifted - era * 146097
  let yearOfEra :=
    (dayOfEra - dayOfEra / 1460 + dayOfEra / 36524 - dayOfEra / 146096) / 365
  let dayOfYear := dayOfEra - (365 * yearOfEra + yearOfEra / 4 - yearOfEra / 100)
  let shiftedMonth := (5 * dayOfYear + 2) / 153
  let month := if shiftedMonth < 10 then shiftedMonth + 3 else shiftedMonth - 9
  (yearOfEra + era * 400 + (if month ≤ 2 then 1 else 0), month,
    dayOfYear - (153 * shiftedMonth + 2) / 5 + 1)

/-- Decimal digits, filled up with zeros on the left. -/
def padded (width : Nat) (value : Int) : String :=
  let digits := toString value.toNat
  String.ofList (List.replicate (width - digits.length) '0') ++ digits

/-- `time.RFC3339Nano` in UTC. -/
def rfc3339 (instant : Int) : String :=
  let seconds := instant / 1000000000
  let (year, month, day) := civilDate (seconds / 86400)
  let clock := seconds % 86400
  let fraction := ((padded 9 (instant % 1000000000)).toList.reverse.dropWhile (· = '0')).reverse
  padded 4 year ++ "-" ++ padded 2 month ++ "-" ++ padded 2 day ++ "T" ++
    padded 2 (clock / 3600) ++ ":" ++ padded 2 (clock / 60 % 60) ++ ":" ++ padded 2 (clock % 60) ++
    (if fraction = [] then "" else "." ++ String.ofList fraction) ++ "Z"

/-- The case folding under which object keys match struct tags. For the ASCII
tags used here only the ASCII letters, the long s and the Kelvin sign matter. -/
def foldRune (rune : Char) : Char :=
  if rune = Char.ofNat 0x17F then 'S'
  else if rune = Char.ofNat 0x212A then 'K'
  else rune.toUpper

def foldName (name : String) : List Char := name.toList.map foldRune

/-- One struct field: its tag, and how its value is written and read. -/
structure JsonField (σ : Type) where
  tag : String
  /-- The value written; `none` when `omitempty` leaves the field out. -/
  write : σ → Option Json
  /-- Store a JSON value into the field; `none` is a type mismatch. -/
  read : Json → σ → Option σ

namespace JsonField

variable {σ : Type}

/-- The tag `-` takes a field out of both directions. -/
def visible (field : JsonField σ) : Bool := field.tag ≠ "-"

/-- The field an object key selects: an exact match is preferred. -/
def select (fields : List (JsonField σ)) (key : String) : Option (JsonField σ) :=
  (fields.find? fun field => field.visible && field.tag = key).or
    (fields.find? fun field => field.visible && foldName field.tag = foldName key)

/-- `json.Marshal` of a struct. -/
def marshal (fields : List (JsonField σ)) (value : σ) : Json :=
  .obj ((fields.filter visible).filterMap fun field =>
    (field.write value).map fun json => (field.tag, json))

/-- Store one object entry; an unknown key is skipped. -/
def readEntry (fields : List (JsonField σ)) (value : σ) (entry : String × Json) : Option σ :=
  match select fields entry.1 with
  | some field => field.read entry.2 value
  | none => some value

/-- `json.Unmarshal` into a struct that holds `zero`. -/
def unmarshal (fields : List (JsonField σ)) (zero : σ) : Json → Option σ
  | .obj entries => entries.foldlM (readEntry fields) zero
  | .null => some zero
  | _ => none

/-- A selected field is a visible field of the record. -/
theorem select_mem {fields : List (JsonField σ)} {key : String} {field : JsonField σ}
    (selected : select fields key = some field) : field ∈ fields ∧ field.visible := by
  rcases Option.or_eq_some_iff.mp selected with found | ⟨_, found⟩
  · have holds := List.find?_some found
    simp only [Bool.and_eq_true] at holds
    exact ⟨List.mem_of_find?_eq_some found, holds.1⟩
  · have holds := List.find?_some found
    simp only [Bool.and_eq_true] at holds
    exact ⟨List.mem_of_find?_eq_some found, holds.1⟩

/-- A key that no tag folds to is skipped. -/
theorem readEntry_skip {fields : List (JsonField σ)} {key : String}
    (unknown : ∀ field ∈ fields, foldName field.tag ≠ foldName key) (json : Json) (value : σ) :
    readEntry fields value (key, json) = some value := by
  have exact : (fields.find? fun field => field.visible && field.tag = key) = none := by
    refine List.find?_eq_none.mpr fun field member selected => ?_
    simp only [Bool.and_eq_true, decide_eq_true_eq] at selected
    exact unknown field member (congrArg foldName selected.2)
  have folded : (fields.find? fun field =>
      field.visible && foldName field.tag = foldName key) = none := by
    refine List.find?_eq_none.mpr fun field member selected => ?_
    simp only [Bool.and_eq_true, decide_eq_true_eq] at selected
    exact unknown field member selected.2
  simp only [readEntry, select, exact, folded, Option.or_none]

/-- Read the first entry, then the others. -/
theorem foldlM_readEntry {fields : List (JsonField σ)} {entry : String × Json}
    {rest : List (String × Json)} {value middle : σ} {result : Option σ}
    (first : readEntry fields value entry = some middle)
    (remaining : rest.foldlM (readEntry fields) middle = result) :
    (entry :: rest).foldlM (readEntry fields) value = result := by
  rw [List.foldlM_cons, first]
  exact remaining

/-- Keys that no tag folds to are all skipped. -/
theorem foldlM_skip {fields : List (JsonField σ)} {entries : List (String × Json)}
    (unknown : ∀ entry ∈ entries, ∀ field ∈ fields, foldName field.tag ≠ foldName entry.1)
    (value : σ) : entries.foldlM (readEntry fields) value = some value := by
  induction entries with
  | nil => rfl
  | cons entry rest ih =>
      refine foldlM_readEntry (readEntry_skip (unknown entry List.mem_cons_self) entry.2 value) ?_
      exact ih fun other member => unknown other (List.mem_cons_of_mem _ member)

/-- Of fields whose tags fold apart, a key selects the one that it folds to. -/
theorem select_of_fold {fields : List (JsonField σ)} {field : JsonField σ} {key : String}
    (distinct : (fields.map fun field => foldName field.tag).Nodup) (member : field ∈ fields)
    (visible : field.visible = true) (folds : foldName field.tag = foldName key) :
    select fields key = some field := by
  have only : ∀ other ∈ fields, foldName other.tag = foldName key → other = field :=
    fun other listed same =>
      List.inj_on_of_nodup_map distinct listed member (same.trans folds.symm)
  unfold select
  cases exact : fields.find? fun field => field.visible && field.tag = key with
  | some other =>
      have found := List.find?_some exact
      simp only [Bool.and_eq_true, decide_eq_true_eq] at found
      rw [only other (List.mem_of_find?_eq_some exact) (congrArg foldName found.2)]
      rfl
  | none =>
      rw [Option.none_or]
      cases folded : fields.find? fun field => field.visible && foldName field.tag = foldName key with
      | some other =>
          have found := List.find?_some folded
          simp only [Bool.and_eq_true, decide_eq_true_eq] at found
          rw [only other (List.mem_of_find?_eq_some folded) found.2]
      | none =>
          have missed := List.find?_eq_none.mp folded field member
          simp [visible, folds] at missed

/-- The field that a key selects folds to the key. -/
theorem foldName_of_select {fields : List (JsonField σ)} {field : JsonField σ} {key : String}
    (selected : select fields key = some field) : foldName field.tag = foldName key := by
  rcases Option.or_eq_some_iff.mp selected with found | ⟨_, found⟩
  · have holds := List.find?_some found
    simp only [Bool.and_eq_true, decide_eq_true_eq] at holds
    exact congrArg foldName holds.2
  · have holds := List.find?_some found
    simp only [Bool.and_eq_true, decide_eq_true_eq] at holds
    exact holds.2

/-- Storing a document into the field does not break `property`. -/
def Keeps (property : σ → Prop) (field : JsonField σ) : Prop :=
  ∀ json value after, property value → field.read json value = some after → property after

/-- A property that every visible field keeps holds of whatever any document
at all is read into. -/
theorem unmarshal_invariant {fields : List (JsonField σ)} {property : σ → Prop}
    (kept : ∀ field ∈ fields, field.visible → field.Keeps property)
    {zero value : σ} {json : Json} (initial : property zero)
    (read : unmarshal fields zero json = some value) : property value := by
  cases json with
  | obj entries =>
      change entries.foldlM (readEntry fields) zero = some value at read
      induction entries generalizing zero with
      | nil =>
          cases read
          exact initial
      | cons entry rest ih =>
          simp only [List.foldlM_cons, Option.bind_eq_bind, Option.bind_eq_some_iff] at read
          obtain ⟨middle, first, read⟩ := read
          refine ih ?_ read
          unfold readEntry at first
          split at first
          · rename_i field selected
            obtain ⟨member, visible⟩ := select_mem selected
            exact kept field member visible entry.2 zero middle initial first
          · cases first
            exact initial
  | null =>
      cases read
      exact initial
  | bool _ | num _ | str _ | time _ | arr _ => cases read

/-- A string field. As for every kind below, `null` leaves the field alone. -/
def text (tag : String) (get : σ → String) (set : String → σ → σ) (omitEmpty : Bool) :
    JsonField σ where
  tag := tag
  write value := if omitEmpty ∧ get value = "" then none else some (.str (get value))
  read json value :=
    match json with
    | .str text => some (set text value)
    | .time instant => some (set (rfc3339 instant) value)
    | .null => some value
    | _ => none

/-- A `float64` field, with `omitempty`. -/
def number (tag : String) (get : σ → ℚ) (set : ℚ → σ → σ) : JsonField σ where
  tag := tag
  write value := if get value = 0 then none else some (.num (get value))
  read json value :=
    match json with
    | .num number => some (set number value)
    | .null => some value
    | _ => none

/-- An `int` field, with `omitempty`. -/
def integer (tag : String) (get : σ → Int) (set : Int → σ → σ) : JsonField σ where
  tag := tag
  write value := if get value = 0 then none else some (.num (get value))
  read json value :=
    match json with
    | .num number =>
        if number.den = 1 ∧ -9223372036854775808 ≤ number.num ∧ number.num < 9223372036854775808
        then some (set number.num value) else none
    | .null => some value
    | _ => none

/-- A `map[string]any` field, with `omitempty`. An object is added to the
entries that are there, of which the last one under a key counts. -/
def table (tag : String) (get : σ → List (String × Json))
    (set : List (String × Json) → σ → σ) : JsonField σ where
  tag := tag
  write value := if get value = [] then none else some (.obj (get value))
  read json value :=
    match json with
    | .obj entries => some (set (get value ++ entries) value)
    | .null => some (set [] value)
    | _ => none

def boolean (tag : String) (get : σ → Bool) (set : Bool → σ → σ) : JsonField σ where
  tag := tag
  write value := some (.bool (get value))
  read json value :=
    match json with
    | .bool flag => some (set flag value)
    | .null => some value
    | _ => none

/-- A `time.Time` field. -/
def instant (tag : String) (get : σ → Int) (set : Int → σ → σ) : JsonField σ where
  tag := tag
  write value := some (.time (get value))
  read json value :=
    match json with
    | .time instant => some (set instant value)
    | .null => some value
    | _ => none

/-- A field of type `any`, or of any type that is kept as the document it is. -/
def any (tag : String) (get : σ → Json) (set : Json → σ → σ) : JsonField σ where
  tag := tag
  write value := some (get value)
  read json value := some (set json value)

/-- A field whose type brings its own text form. -/
def textual {α : Type} (tag : String) (format : α → String) (parse : String → Option α)
    (get : σ → α) (set : α → σ → σ) : JsonField σ where
  tag := tag
  write value := some (.str (format (get value)))
  read json value :=
    match json with
    | .str text => (parse text).map fun parsed => set parsed value
    | _ => none

section Keeps

variable {property : σ → Prop} {tag : String}

/-- A text field keeps what every assignment keeps. -/
theorem keeps_text {get : σ → String} {set : String → σ → σ} {omitEmpty : Bool}
    (stable : ∀ text value, property value → property (set text value)) :
    (text tag get set omitEmpty).Keeps property := by
  intro json value after holds read
  simp only [text] at read
  split at read <;> cases read
  · exact stable _ _ holds
  · exact stable _ _ holds
  · exact holds

theorem keeps_boolean {get : σ → Bool} {set : Bool → σ → σ}
    (stable : ∀ flag value, property value → property (set flag value)) :
    (boolean tag get set).Keeps property := by
  intro json value after holds read
  simp only [boolean] at read
  split at read <;> cases read
  · exact stable _ _ holds
  · exact holds

theorem keeps_number {get : σ → ℚ} {set : ℚ → σ → σ}
    (stable : ∀ number value, property value → property (set number value)) :
    (number tag get set).Keeps property := by
  intro json value after holds read
  simp only [number] at read
  split at read <;> cases read
  · exact stable _ _ holds
  · exact holds

theorem keeps_integer {get : σ → Int} {set : Int → σ → σ}
    (stable : ∀ number value, property value → property (set number value)) :
    (integer tag get set).Keeps property := by
  intro json value after holds read
  simp only [integer] at read
  split at read
  · split at read <;> cases read
    exact stable _ _ holds
  · cases read
    exact holds
  · cases read

theorem keeps_instant {get : σ → Int} {set : Int → σ → σ}
    (stable : ∀ instant value, property value → property (set instant value)) :
    (instant tag get set).Keeps property := by
  intro json value after holds read
  simp only [instant] at read
  split at read <;> cases read
  · exact stable _ _ holds
  · exact holds

theorem keeps_any {get : σ → Json} {set : Json → σ → σ}
    (stable : ∀ json value, property value → property (set json value)) :
    (any tag get set).Keeps property := by
  rintro json value after holds ⟨⟩
  exact stable _ _ holds

theorem keeps_textual {α : Type} {format : α → String} {parse : String → Option α}
    {get : σ → α} {set : α → σ → σ}
    (stable : ∀ parsed value, property value → property (set parsed value)) :
    (textual tag format parse get set).Keeps property := by
  intro json value after holds read
  simp only [textual] at read
  split at read
  · obtain ⟨parsed, _, rfl⟩ := Option.map_eq_some_iff.mp read
    exact stable _ _ holds
  · cases read

end Keeps

end JsonField
end Sentinel.Wire
