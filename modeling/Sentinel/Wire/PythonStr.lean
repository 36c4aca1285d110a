import Mathlib.Data.List.Basic

/-!
# Texts of Python

A `str` is a sequence of code points in which a surrogate may stand alone: `json.loads`
lets it in. `json.dumps` escapes everything outside ASCII in units of UTF-16, and
`encoding/json` puts two surrogates that make a pair together and the replacement
character in the place of any other. So exactly the texts without surrogates arrive
as they were sent (`is_decoded_iff`).
-/

namespace Sentinel.Wire

inductive CodePoint where
  | scalar (char : Char)
  /-- The code point U+D800 and so many. -/
  | surrogate (index : Fin 2048)
deriving DecidableEq

structure PyStr where
  codePoints : List CodePoint
deriving DecidableEq

namespace PyStr

/-- `unicode.ReplacementChar` -/
def replacementChar : Char := Char.ofNat 0xFFFD

/-- `utf16.DecodeRune`, which takes a high surrogate and a low one. -/
def decodeRune (first second : Fin 2048) : Option Char :=
  if first.val < 1024 ∧ 1024 ≤ second.val then
    some (Char.ofNat (0x10000 + first.val * 1024 + (second.val - 1024)))
  else none

/-- What `encoding/json` reads of the escapes; `held` is a surrogate before them of which
it is not known yet whether it is the first of a pair. -/
def unquote (held : Option (Fin 2048)) : List CodePoint → List Char
  | [] => held.toList.map fun _ => replacementChar
  | .scalar char :: rest => (held.toList.map fun _ => replacementChar) ++ char :: unquote none rest
  | .surrogate index :: rest =>
      match held.bind (decodeRune · index) with
      | some char => char :: unquote none rest
      | none => (held.toList.map fun _ => replacementChar) ++ unquote (some index) rest

/-- The text that arrives in a Go service. -/
def decoded (str : PyStr) : String := String.ofList (unquote none str.codePoints)

/-- The `str` that is the text. -/
def ofString (text : String) : PyStr := ⟨text.toList.map .scalar⟩

/-- The text is what the `str` says. -/
def Is (str : PyStr) (text : String) : Prop := str = ofString text

/-- No code point is a surrogate. -/
def Scalar (str : PyStr) : Prop := ∀ point ∈ str.codePoints, ∃ char, point = .scalar char

/-- A Lean string has scalar values only. -/
theorem scalar_ofString (text : String) : (ofString text).Scalar := by
  intro point member
  obtain ⟨char, _, rfl⟩ := List.mem_map.mp member
  exact ⟨char, rfl⟩

/-- A text of scalar values comes through unquoted. -/
theorem map_unquote {points : List CodePoint}
    (scalar : ∀ point ∈ points, ∃ char, point = .scalar char) :
    (unquote none points).map .scalar = points := by
  induction points with
  | nil => rfl
  | cons point rest ih =>
      obtain ⟨char, rfl⟩ := scalar point List.mem_cons_self
      have others := ih fun other member => scalar other (List.mem_cons_of_mem _ member)
      rw [unquote, Option.toList_none, List.map_nil, List.nil_append, List.map_cons, others]

/-- Without surrogates the text arrives, and with one it does not. -/
theorem is_decoded_iff {str : PyStr} : str.Is str.decoded ↔ str.Scalar := by
  constructor
  · intro same
    rw [same]
    exact scalar_ofString _
  · intro scalar
    have points : str.codePoints = (ofString str.decoded).codePoints := by
      rw [ofString, decoded, String.toList_ofList, map_unquote scalar]
    cases str
    exact congrArg PyStr.mk points

end PyStr
end Sentinel.Wire
