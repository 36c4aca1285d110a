import Sentinel.Wire.Json

/-!
# JSON documents as Python values

What `json.loads` returns, under Python's truth and `dict.get`. `none` stands
for a raised exception.
-/

namespace Sentinel.Wire.Json

/-- `bool(value)` -/
def truthy : Json → Bool
  | .null => false
  | .bool value => value
  | .num value => value ≠ 0
  | .str text => text ≠ ""
  | .time _ => true
  | .arr items => !items.isEmpty
  | .obj entries => !entries.isEmpty

/-- `value.get(key, default)`; of repeated keys the last one counts. Only a
dictionary has the method. -/
def get (value : Json) (key : String) (default : Json) : Option Json :=
  match value with
  | .obj entries => some (((entries.reverse.find? (·.1 = key)).map Prod.snd).getD default)
  | _ => none

/-- `first or second`, which evaluates `second` only when it has to. -/
def orElse (first : Json) (second : Option Json) : Option Json :=
  if first.truthy then some first else second

/-- `value in {text}`: a list or a dictionary is unhashable. -/
def isText (value : Json) (text : String) : Option Bool :=
  match value with
  | .arr _ | .obj _ => none
  | .str same => some (same = text)
  | _ => some false

/-- `value != text` -/
def isNotText (value : Json) (text : String) : Bool :=
  match value with
  | .str same => same ≠ text
  | _ => true

end Sentinel.Wire.Json
