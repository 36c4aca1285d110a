import Sentinel.Wire.Json

/-!
# The values under a key

Readers of a document differ in what they take for the value under a key.
`json.Unmarshal` matches names without regard to case, and the last value counts
that is not `null`; other readers take the first value under exactly this name.
`unmarshal_get` says which value of the document a field of a struct holds.
-/

namespace Sentinel.Wire

namespace Json

def isNull : Json → Bool
  | .null => true
  | _ => false

/-- The text that a JSON string denotes, and `""` for anything else. -/
def asText : Json → String
  | .str text => text
  | .time instant => rfc3339 instant
  | _ => ""

def asNumber : Json → ℚ
  | .num value => value
  | _ => 0

def entries : Json → List (String × Json)
  | .obj entries => entries
  | _ => []

/-- The first value under exactly this name. -/
def exact (document : Json) (key : String) : Option Json :=
  (document.entries.find? (·.1 = key)).map (·.2)

/-- A value under a name that is the key up to case. -/
def spells (key : String) (entry : String × Json) : Bool :=
  foldName entry.1 = foldName key && !entry.2.isNull

/-- The last value that is not `null` under this name, in any case of its letters. -/
def caseless (document : Json) (key : String) : Option Json :=
  ((document.entries.filter (spells key)).getLast?).map (·.2)

/-- The exact member is a member of the document. -/
theorem exact_mem {document json : Json} {key : String} (found : document.exact key = some json) :
    (key, json) ∈ document.entries := by
  obtain ⟨⟨name, value⟩, first, rfl⟩ := Option.map_eq_some_iff.mp found
  obtain rfl : name = key := by simpa using List.find?_some first
  exact List.mem_of_find?_eq_some first

/-- The last entry that is kept, one entry further on. -/
theorem map_getLast?_filter_cons {α β : Type} {keep : α → Bool} {head : α} {rest : List α}
    (read : α → β) (otherwise : β) :
    ((head :: rest).filter keep).getLast?.elim otherwise read =
      (rest.filter keep).getLast?.elim (if keep head then read head else otherwise) read := by
  rw [List.filter_cons]
  split
  · rw [List.getLast?_cons]
    cases (rest.filter keep).getLast? <;> rfl
  · rfl

end Json

namespace JsonField

variable {σ α : Type} {fields : List (JsonField σ)} {field : JsonField σ}

/-- A part of the struct that the field fills, and no other field touches. -/
structure Fills (fields : List (JsonField σ)) (field : JsonField σ) (get : σ → α)
    (value : Json → α) : Prop where
  own : ∀ json before after, field.read json before = some after →
    get after = if json.isNull then get before else value json
  others : ∀ other ∈ fields, other.tag ≠ field.tag → ∀ kept, other.Keeps fun held =>
    get held = kept

variable {get : σ → α} {value : Json → α}

/-- One entry of the object: it fills the part if it spells the field's tag. -/
theorem get_readEntry (fills : Fills fields field get value)
    (distinct : (fields.map fun field => foldName field.tag).Nodup) (member : field ∈ fields)
    (visible : field.visible = true) {before after : σ} {entry : String × Json}
    (read : readEntry fields before entry = some after) :
    get after = if Json.spells field.tag entry then value entry.2 else get before := by
  unfold readEntry at read
  by_cases folds : foldName field.tag = foldName entry.1
  · rw [select_of_fold distinct member visible folds] at read
    rw [fills.own _ _ _ read, Json.spells, folds]
    cases entry.2.isNull <;> simp
  · have unspelled : Json.spells field.tag entry = false := by
      rw [Json.spells, Bool.and_eq_false_iff]
      exact .inl (decide_eq_false fun same => folds same.symm)
    rw [unspelled]
    split at read
    · rename_i other selected
      refine fills.others other (select_mem selected).1 (fun same => folds ?_) _ _ _ _ rfl read
      rw [← same]
      exact foldName_of_select selected
    · cases read
      rfl

/-- The last value that is not `null` under the tag of the field is what it holds. -/
theorem unmarshal_get (fills : Fills fields field get value)
    (distinct : (fields.map fun field => foldName field.tag).Nodup) (member : field ∈ fields)
    (visible : field.visible = true) {zero after : σ} {document : Json}
    (read : unmarshal fields zero document = some after) :
    get after = (document.caseless field.tag).elim (get zero) value := by
  rw [Json.caseless, Option.elim_map]
  cases document with
  | obj entries =>
      change entries.foldlM (readEntry fields) zero = some after at read
      change get after = (entries.filter _).getLast?.elim _ _
      induction entries generalizing zero with
      | nil =>
          cases read
          rfl
      | cons entry rest ih =>
          simp only [List.foldlM_cons, Option.bind_eq_bind, Option.bind_eq_some_iff] at read
          obtain ⟨middle, first, read⟩ := read
          rw [ih read, Json.map_getLast?_filter_cons, get_readEntry fills distinct member visible first]
          rfl
  | null =>
      cases read
      rfl
  | bool _ | num _ | str _ | time _ | arr _ => cases read

/-- In a document that is read, every value under a field's name is one that the field can
store. -/
theorem read_of_unmarshal {zero after : σ} {document : Json}
    (read : unmarshal fields zero document = some after) {entry : String × Json}
    (member : entry ∈ document.entries) (selected : select fields entry.1 = some field) :
    ∃ before stored, field.read entry.2 before = some stored := by
  cases document with
  | obj entries =>
      change entries.foldlM (readEntry fields) zero = some after at read
      change entry ∈ entries at member
      induction entries generalizing zero with
      | nil => cases member
      | cons head rest ih =>
          simp only [List.foldlM_cons, Option.bind_eq_bind, Option.bind_eq_some_iff] at read
          obtain ⟨middle, first, read⟩ := read
          rcases List.mem_cons.mp member with rfl | member
          · refine ⟨zero, middle, ?_⟩
            rwa [readEntry, selected] at first
          · exact ih read member
  | null | bool _ | num _ | str _ | time _ | arr _ => cases member

end JsonField
end Sentinel.Wire
