import Mathlib.Data.List.Basic
import Mathlib.Data.List.Induction

/-!
# UUIDs, hexadecimal text and their parsers

`Uuid.string` is the canonical lower-case text of `github.com/google/uuid` and
`Uuid.parse` its `Parse`, with the four spellings that function documents.
-/

namespace Sentinel.Wire

/-- The lower-case hexadecimal digit of a value below 16. -/
def hexDigit (value : Nat) : Char :=
  if value < 10 then Char.ofNat (48 + value) else Char.ofNat (87 + value)

/-- The value of a hexadecimal digit of either case. -/
def hexValue (digit : Char) : Option Nat :=
  if '0' ≤ digit ∧ digit ≤ '9' then some (digit.toNat - 48)
  else if 'a' ≤ digit ∧ digit ≤ 'f' then some (digit.toNat - 87)
  else if 'A' ≤ digit ∧ digit ≤ 'F' then some (digit.toNat - 55)
  else none

/-- A hexadecimal digit is ASCII, and no dot. -/
theorem hexDigit_ascii : ∀ value < 16, (hexDigit value).toNat < 128 ∧ hexDigit value ≠ '.' := by
  decide

/-- What holds of the first 128 characters holds of every ASCII character. -/
theorem forall_ascii (property : Char → Prop) (checked : ∀ code < 128, property (Char.ofNat code))
    {char : Char} (ascii : char.toNat < 128) : property char := by
  rw [← Char.ofNat_toNat char]
  exact checked char.toNat ascii

/-- What is read as a digit is ASCII. -/
theorem hexValue_ascii {digit : Char} {value : Nat} (read : hexValue digit = some value) :
    digit.toNat < 128 := by
  unfold hexValue at read
  split at read
  · rename_i range
    exact Nat.lt_of_le_of_lt range.2 (by decide)
  split at read
  · rename_i range
    exact Nat.lt_of_le_of_lt range.2 (by decide)
  split at read
  · rename_i range
    exact Nat.lt_of_le_of_lt range.2 (by decide)
  · cases read

/-- What is ASCII after lower-casing was ASCII before. -/
theorem ascii_of_toLower {char : Char} (lower : char.toLower.toNat < 128) : char.toNat < 128 := by
  unfold Char.toLower at lower
  split at lower
  · rename_i range
    exact Nat.lt_of_le_of_lt range.2 (by decide)
  · exact lower

/-- A digit of either case denotes what its lower-case form spells. -/
theorem hexValue_eq_some_iff {digit : Char} {value : Nat} :
    hexValue digit = some value ↔ value < 16 ∧ digit.toLower = hexDigit value := by
  constructor
  · intro read
    have property : ∀ found ∈ hexValue digit, found < 16 ∧ digit.toLower = hexDigit found :=
      forall_ascii (fun digit => ∀ found ∈ hexValue digit,
        found < 16 ∧ digit.toLower = hexDigit found) (by decide +kernel) (hexValue_ascii read)
    exact property value read
  · rintro ⟨small, lower⟩
    have ascii : digit.toLower.toNat < 128 := by
      rw [lower]
      exact (hexDigit_ascii value small).1
    exact forall_ascii (fun digit => ∀ value < 16, digit.toLower = hexDigit value →
      hexValue digit = some value) (by decide +kernel) (ascii_of_toLower ascii) value small lower

def byteHex (byte : UInt8) : List Char :=
  [hexDigit (byte.toNat / 16), hexDigit (byte.toNat % 16)]

/-- `hex.EncodeToString`. -/
def hexEncode (bytes : List UInt8) : String := String.ofList (bytes.flatMap byteHex)

/-- Two digits for every byte. -/
theorem length_hexEncode (bytes : List UInt8) : (hexEncode bytes).length = 2 * bytes.length := by
  induction bytes with
  | nil => rfl
  | cons byte rest ih =>
      simp only [hexEncode, String.length_ofList, List.flatMap_cons, List.length_append,
        List.length_cons] at ih ⊢
      simp only [byteHex, List.length_cons, List.length_nil]
      omega

/-- `xtob`: the byte that two hexadecimal digits denote. -/
def xtob (high low : Char) : Option UInt8 :=
  match hexValue high, hexValue low with
  | some highValue, some lowValue => some (UInt8.ofNat (16 * highValue + lowValue))
  | _, _ => none

/-- Two digits are read as the byte that they write, in either case. -/
theorem xtob_eq_some_iff {high low : Char} {byte : UInt8} :
    xtob high low = some byte ↔ [high, low].map Char.toLower = byteHex byte := by
  have bound := byte.toNat_lt
  simp only [List.map_cons, List.map_nil, byteHex, List.cons.injEq, and_true]
  constructor
  · intro read
    unfold xtob at read
    split at read
    · rename_i highValue lowValue highRead lowRead
      obtain ⟨highSmall, highLower⟩ := hexValue_eq_some_iff.mp highRead
      obtain ⟨lowSmall, lowLower⟩ := hexValue_eq_some_iff.mp lowRead
      obtain rfl := Option.some.inj read
      have value : (UInt8.ofNat (16 * highValue + lowValue)).toNat = 16 * highValue + lowValue :=
        Nat.mod_eq_of_lt (by omega)
      rw [highLower, lowLower, value]
      constructor
      · congr 1
        omega
      · congr 1
        omega
    · cases read
  · rintro ⟨highLower, lowLower⟩
    rw [xtob, hexValue_eq_some_iff.mpr ⟨by omega, highLower⟩,
      hexValue_eq_some_iff.mpr ⟨by omega, lowLower⟩]
    simp only [Nat.div_add_mod, UInt8.ofNat_toNat]

/-- Read a text of digit pairs. -/
def hexDecode : List Char → Option (List UInt8)
  | [] => some []
  | [_] => none
  | high :: low :: rest =>
      match xtob high low, hexDecode rest with
      | some byte, some bytes => some (byte :: bytes)
      | _, _ => none

/-- Digits are decoded in pairs. -/
theorem hexDecode_cons_cons {high low : Char} {rest : List Char} {bytes : List UInt8} :
    hexDecode (high :: low :: rest) = some bytes ↔
      ∃ byte others, xtob high low = some byte ∧ hexDecode rest = some others ∧
        bytes = byte :: others := by
  rw [hexDecode]
  cases xtob high low with
  | none => simp
  | some byte =>
      cases hexDecode rest with
      | none => simp
      | some others => simp [eq_comm]

/-- Digits of either case are read as the bytes that their lower-case forms spell. -/
theorem hexDecode_eq_some_iff {digits : List Char} {bytes : List UInt8} :
    hexDecode digits = some bytes ↔ digits.map Char.toLower = bytes.flatMap byteHex := by
  induction digits using List.twoStepInduction generalizing bytes with
  | nil => cases bytes <;> simp [hexDecode, byteHex]
  | singleton digit => cases bytes <;> simp [hexDecode, byteHex]
  | cons_cons high low rest ih _ =>
      rw [hexDecode_cons_cons]
      constructor
      · rintro ⟨byte, others, pair, decoded, rfl⟩
        rw [List.flatMap_cons, ← xtob_eq_some_iff.mp pair, ← ih.mp decoded]
        rfl
      · intro lower
        cases bytes with
        | nil => cases lower
        | cons byte others =>
            have parts : [high, low].map Char.toLower ++ rest.map Char.toLower =
                byteHex byte ++ others.flatMap byteHex := lower
            obtain ⟨pair, decoded⟩ := List.append_inj parts rfl
            exact ⟨byte, others, xtob_eq_some_iff.mpr pair, ih.mpr decoded, rfl⟩

/-- The encoder writes small letters. -/
theorem toLower_hexDigit : ∀ value < 16, (hexDigit value).toLower = hexDigit value := by decide

/-- Bytes are spelled in lower-case digits. -/
theorem mem_flatMap_byteHex {bytes : List UInt8} {char : Char}
    (member : char ∈ bytes.flatMap byteHex) : ∃ value < 16, char = hexDigit value := by
  obtain ⟨byte, _, inside⟩ := List.mem_flatMap.mp member
  have bound := byte.toNat_lt
  simp only [byteHex, List.mem_cons, List.not_mem_nil, or_false] at inside
  rcases inside with rfl | rfl
  · exact ⟨byte.toNat / 16, by omega, rfl⟩
  · exact ⟨byte.toNat % 16, by omega, rfl⟩

theorem lower_flatMap_byteHex (bytes : List UInt8) :
    (bytes.flatMap byteHex).map Char.toLower = bytes.flatMap byteHex := by
  refine (List.map_congr_left fun char member => ?_).trans (List.map_id _)
  obtain ⟨value, small, rfl⟩ := mem_flatMap_byteHex member
  exact toLower_hexDigit value small

theorem hexDecode_flatMap (bytes : List UInt8) :
    hexDecode (bytes.flatMap byteHex) = some bytes :=
  hexDecode_eq_some_iff.mpr (lower_flatMap_byteHex bytes)

structure Uuid where
  bytes : List UInt8
  length_bytes : bytes.length = 16
deriving DecidableEq

namespace Uuid

/-- Insert the hyphens of the canonical form. -/
def hyphenate (digits : List Char) : List Char :=
  digits.take 8 ++ '-' :: (digits.drop 8).take 4 ++ '-' :: (digits.drop 12).take 4 ++
    '-' :: (digits.drop 16).take 4 ++ '-' :: digits.drop 20

/-- Check the hyphens of a 36-character text and drop them. -/
def unhyphenate (text : List Char) : Option (List Char) :=
  if text[8]? = some '-' ∧ text[13]? = some '-' ∧ text[18]? = some '-' ∧ text[23]? = some '-' then
    some (text.take 8 ++ (text.drop 9).take 4 ++ (text.drop 14).take 4 ++
      (text.drop 19).take 4 ++ text.drop 24)
  else none

/-- `UUID.String`. -/
def string (id : Uuid) : String := String.ofList (hyphenate (id.bytes.flatMap byteHex))

def ofDigits (digits : List Char) : Option Uuid :=
  match hexDecode digits with
  | some bytes => if sized : bytes.length = 16 then some ⟨bytes, sized⟩ else none
  | none => none

def ofHyphenated (text : List Char) : Option Uuid :=
  (unhyphenate text).bind ofDigits

/-- `uuid.Parse`: hyphenated, `urn:uuid:`-prefixed, between two arbitrary bytes
(meant for braces), or bare. A text with a non-ASCII character fits no form. -/
def parse (text : String) : Option Uuid :=
  let chars := text.toList
  if chars.all fun char => char.toNat < 128 then
    match chars.length with
    | 36 => ofHyphenated chars
    | 45 =>
        if (chars.take 9).map Char.toLower = "urn:uuid:".toList then
          ofHyphenated (chars.drop 9)
        else none
    | 38 => ofHyphenated ((chars.drop 1).take 36)
    | 32 => ofDigits chars
    | _ => none
  else none

/-- An id has thirty-two digits. -/
theorem length_digits (id : Uuid) : (id.bytes.flatMap byteHex).length = 32 := by
  have lengths := length_hexEncode id.bytes
  rw [hexEncode, String.length_ofList, id.length_bytes] at lengths
  exact lengths

theorem length_hyphenate {digits : List Char} (sized : digits.length = 32) :
    (hyphenate digits).length = 36 := by
  simp [hyphenate, sized]

/-- Taking the hyphens out again gives the digits. -/
theorem unhyphenate_hyphenate {digits : List Char} (sized : digits.length = 32) :
    unhyphenate (hyphenate digits) = some digits := by
  -- Thirty-two digits, named by the group they are printed in.
  match digits, sized with
  | [a0, a1, a2, a3, a4, a5, a6, a7, b0, b1, b2, b3, c0, c1, c2, c3, d0, d1, d2, d3,
      e0, e1, e2, e3, e4, e5, e6, e7, e8, e9, ea, eb], _ => rfl

/-- The hyphens stand between the five groups. -/
theorem hyphenate_append {first second third fourth : List Char} (rest : List Char)
    (eight : first.length = 8) (four : second.length = 4) (alsoFour : third.length = 4)
    (againFour : fourth.length = 4) :
    hyphenate (first ++ second ++ third ++ fourth ++ rest) =
      first ++ '-' :: (second ++ '-' :: (third ++ '-' :: (fourth ++ '-' :: rest))) := by
  simp [hyphenate, List.drop_append, List.drop_of_length_le, eight, four, alsoFour, againFour]

/-- A group of characters that ends before a hyphen. -/
theorem drop_group {text : List Char} (start length : Nat)
    (hyphen : text[start + length]? = some '-') :
    text.drop start = (text.drop start).take length ++ '-' :: text.drop (start + length + 1) := by
  obtain ⟨inside, same⟩ := List.getElem?_eq_some_iff.mp hyphen
  have rest : (text.drop start).drop length = '-' :: text.drop (start + length + 1) := by
    rw [List.drop_drop, List.drop_eq_getElem_cons inside, same]
  rw [← rest, List.take_append_drop]

/-- A text of the full length is its digits with hyphens. -/
theorem eq_hyphenate_of_unhyphenate {text digits : List Char} (sized : text.length = 36)
    (plain : unhyphenate text = some digits) : text = hyphenate digits := by
  unfold unhyphenate at plain
  obtain ⟨⟨first, second, third, fourth⟩, same⟩ := Option.ite_none_right_eq_some.mp plain
  obtain rfl := Option.some.inj same
  rw [hyphenate_append _ (by simp [sized]) (by simp [sized]) (by simp [sized]) (by simp [sized]),
    ← drop_group 19 4 fourth, ← drop_group 14 4 third, ← drop_group 9 4 second]
  exact drop_group 0 8 first

/-- Nothing but hyphens is added. -/
theorem mem_hyphenate {digits : List Char} {char : Char} (member : char ∈ hyphenate digits) :
    char = '-' ∨ char ∈ digits := by
  simp only [hyphenate, List.append_assoc, List.cons_append, List.mem_append,
    List.mem_cons] at member
  rcases member with part | same | part | same | part | same | part | same | part
  · exact .inr (List.mem_of_mem_take part)
  · exact .inl same
  · exact .inr (List.mem_of_mem_drop (List.mem_of_mem_take part))
  · exact .inl same
  · exact .inr (List.mem_of_mem_drop (List.mem_of_mem_take part))
  · exact .inl same
  · exact .inr (List.mem_of_mem_drop (List.mem_of_mem_take part))
  · exact .inl same
  · exact .inr (List.mem_of_mem_drop part)

/-- The canonical text consists of hexadecimal digits and hyphens. -/
theorem mem_string {id : Uuid} {char : Char} (member : char ∈ id.string.toList) :
    char = '-' ∨ ∃ value < 16, char = hexDigit value := by
  rw [string, String.toList_ofList] at member
  rcases mem_hyphenate member with same | digit
  · exact .inl same
  · exact .inr (mem_flatMap_byteHex digit)

/-- No id is written as the empty text. -/
theorem string_ne_empty (id : Uuid) : id.string ≠ "" := by
  intro empty
  have length : (hyphenate (id.bytes.flatMap byteHex)).length = 36 :=
    length_hyphenate id.length_digits
  rw [string] at empty
  rw [String.ofList_injective empty] at length
  cases length

/-- No id is written with a dot. -/
theorem dot_not_mem_string (id : Uuid) : '.' ∉ id.string.toList := by
  intro member
  rcases mem_string member with same | ⟨value, small, same⟩
  · exact absurd same (by decide)
  · exact (hexDigit_ascii value small).2 same.symm

/-! ## The spellings of an id -/

/-- The texts that `uuid.Parse` takes for an id. -/
inductive Spelling (id : Uuid) : List Char → Prop
  | hyphenated {digits : List Char} (same : digits.map Char.toLower = id.bytes.flatMap byteHex) :
      Spelling id (hyphenate digits)
  | urn {scheme digits : List Char} (named : scheme.map Char.toLower = "urn:uuid:".toList)
      (same : digits.map Char.toLower = id.bytes.flatMap byteHex) :
      Spelling id (scheme ++ hyphenate digits)
  | enclosed {first last : Char} {digits : List Char} (ascii : first.toNat < 128)
      (alsoAscii : last.toNat < 128)
      (same : digits.map Char.toLower = id.bytes.flatMap byteHex) :
      Spelling id (first :: hyphenate digits ++ [last])
  | bare {digits : List Char} (same : digits.map Char.toLower = id.bytes.flatMap byteHex) :
      Spelling id digits

section

variable {id : Uuid} {digits : List Char}

/-- Digits make the id that they write, in either case. -/
theorem ofDigits_eq_some_iff :
    ofDigits digits = some id ↔ digits.map Char.toLower = id.bytes.flatMap byteHex := by
  rw [← hexDecode_eq_some_iff, ofDigits]
  cases hexDecode digits with
  | none => simp
  | some bytes =>
      simp only [Option.some.injEq]
      constructor
      · intro same
        split at same
        · cases same
          rfl
        · cases same
      · rintro rfl
        rw [dif_pos id.length_bytes]

theorem length_of_lower (same : digits.map Char.toLower = id.bytes.flatMap byteHex) :
    digits.length = 32 := by
  rw [← List.length_map (f := Char.toLower), same, length_digits]

/-- Hyphenated texts of an id have their hyphens in place and digits of either case. -/
theorem ofHyphenated_eq_some_iff {text : List Char} (sized : text.length = 36) :
    ofHyphenated text = some id ↔
      ∃ digits, text = hyphenate digits ∧ digits.map Char.toLower = id.bytes.flatMap byteHex := by
  rw [ofHyphenated, Option.bind_eq_some_iff]
  constructor
  · rintro ⟨digits, plain, read⟩
    exact ⟨digits, eq_hyphenate_of_unhyphenate sized plain, ofDigits_eq_some_iff.mp read⟩
  · rintro ⟨digits, rfl, lower⟩
    exact ⟨digits, unhyphenate_hyphenate (length_of_lower lower), ofDigits_eq_some_iff.mpr lower⟩

theorem ascii_of_lower (same : digits.map Char.toLower = id.bytes.flatMap byteHex) :
    ∀ digit ∈ digits, digit.toNat < 128 := by
  intro digit member
  have lower : digit.toLower ∈ id.bytes.flatMap byteHex := by
    rw [← same]
    exact List.mem_map_of_mem member
  obtain ⟨value, small, named⟩ := mem_flatMap_byteHex lower
  apply ascii_of_toLower
  rw [named]
  exact (hexDigit_ascii value small).1

/-- The scheme has nine letters in either case. -/
theorem length_of_scheme {scheme : List Char}
    (named : scheme.map Char.toLower = "urn:uuid:".toList) : scheme.length = 9 := by
  rw [← List.length_map (f := Char.toLower), named]
  rfl

/-- So every spelling of an id is ASCII. -/
theorem Spelling.ascii {text : List Char} (spelling : id.Spelling text) :
    ∀ char ∈ text, char.toNat < 128 := by
  have hyphenated {digits : List Char}
      (same : digits.map Char.toLower = id.bytes.flatMap byteHex) :
      ∀ char ∈ hyphenate digits, char.toNat < 128 := by
    intro char member
    rcases mem_hyphenate member with rfl | digit
    · decide
    · exact ascii_of_lower same char digit
  cases spelling with
  | hyphenated same => exact hyphenated same
  | urn named same =>
      intro char member
      rcases List.mem_append.mp member with scheme | rest
      · have lower : char.toLower ∈ "urn:uuid:".toList := by
          rw [← named]
          exact List.mem_map_of_mem scheme
        apply ascii_of_toLower
        revert lower
        exact List.forall_iff_forall_mem.mp (by decide : List.Forall
          (fun lower : Char => lower.toNat < 128) "urn:uuid:".toList) char.toLower
      · exact hyphenated same char rest
  | enclosed ascii alsoAscii same =>
      intro char member
      simp only [List.cons_append, List.mem_cons, List.mem_append, List.not_mem_nil,
        or_false] at member
      rcases member with rfl | inside | rfl
      · exact ascii
      · exact hyphenated same char inside
      · exact alsoAscii
  | bare same => exact ascii_of_lower same

/-- `uuid.Parse` reads exactly these texts as the id. -/
theorem parse_eq_some_iff {text : List Char} :
    parse (String.ofList text) = some id ↔ id.Spelling text := by
  rw [parse, String.toList_ofList]
  constructor
  · intro read
    obtain ⟨ascii, read⟩ := Option.ite_none_right_eq_some.mp read
    split at read
    · rename_i sized
      obtain ⟨digits, rfl, same⟩ := (ofHyphenated_eq_some_iff sized).mp read
      exact .hyphenated same
    · rename_i sized
      obtain ⟨named, read⟩ := Option.ite_none_right_eq_some.mp read
      obtain ⟨digits, rest, same⟩ :=
        (ofHyphenated_eq_some_iff (by rw [List.length_drop, sized])).mp read
      rw [← List.take_append_drop 9 text, rest]
      exact .urn named same
    · rename_i sized
      obtain ⟨first, rest, rfl⟩ := List.exists_cons_of_length_eq_add_one sized
      have length : rest.length = 37 := Nat.succ.inj sized
      obtain ⟨last, final⟩ := List.length_eq_one_iff.mp
        (show (rest.drop 36).length = 1 by rw [List.length_drop, length])
      rw [List.drop_succ_cons, List.drop_zero] at read
      obtain ⟨digits, middle, same⟩ :=
        (ofHyphenated_eq_some_iff (by rw [List.length_take, length]; rfl)).mp read
      have whole : rest = hyphenate digits ++ [last] := by
        rw [← middle, ← final, List.take_append_drop]
      rw [whole] at ascii ⊢
      have plain := List.all_eq_true.mp ascii
      exact .enclosed (of_decide_eq_true (plain first (by simp)))
        (of_decide_eq_true (plain last (by simp))) same
    · exact .bare (ofDigits_eq_some_iff.mp read)
    · cases read
  · intro spelling
    have ascii : text.all (fun char => decide (char.toNat < 128)) = true :=
      List.all_eq_true.mpr fun char member => decide_eq_true (spelling.ascii char member)
    rw [if_pos ascii]
    cases spelling with
    | hyphenated same =>
        rw [length_hyphenate (length_of_lower same)]
        exact (ofHyphenated_eq_some_iff (length_hyphenate (length_of_lower same))).mpr
          ⟨_, rfl, same⟩
    | @urn scheme digits named same =>
        have length := length_of_scheme named
        have sized := length_hyphenate (length_of_lower same)
        rw [List.length_append, length, sized]
        simp only [List.take_left' length, List.drop_left' length, named, if_true]
        exact (ofHyphenated_eq_some_iff sized).mpr ⟨_, rfl, same⟩
    | @enclosed first last digits _ _ same =>
        have sized := length_hyphenate (length_of_lower same)
        have length : (first :: hyphenate digits ++ [last]).length = 38 := by simp [sized]
        rw [length]
        simp only [List.cons_append, List.drop_succ_cons, List.drop_zero, List.take_left' sized]
        exact (ofHyphenated_eq_some_iff sized).mpr ⟨_, rfl, same⟩
    | bare same =>
        rw [length_of_lower same]
        exact ofDigits_eq_some_iff.mpr same

/-- What is written is read back. -/
theorem parse_string (id : Uuid) : parse id.string = some id :=
  parse_eq_some_iff.mpr (.hyphenated (lower_flatMap_byteHex id.bytes))

/-- Hyphens have no case. -/
theorem map_hyphenate (digits : List Char) :
    (hyphenate digits).map Char.toLower = hyphenate (digits.map Char.toLower) := by
  simp only [hyphenate, List.map_append, List.map_cons, List.map_take, List.map_drop]
  rfl

/-- Only capital letters change. -/
theorem toLower_of_not_isUpper {char : Char} (lower : char.isUpper = false) :
    char.toLower = char := by
  unfold Char.toLower
  rw [dif_neg]
  rintro ⟨low, high⟩
  have upper : char.isUpper = true := decide_eq_true ⟨low, high⟩
  rw [upper] at lower
  cases lower

/-- A spelling of 36 characters without upper-case letters is the canonical one. -/
theorem Spelling.eq_string_iff {text : List Char} (spelling : id.Spelling text) :
    text = id.string.toList ↔ text.length = 36 ∧ ∀ char ∈ text, char.isUpper = false := by
  constructor
  · rintro rfl
    constructor
    · rw [string, String.toList_ofList, length_hyphenate (length_digits id)]
    · intro char member
      rcases mem_string member with rfl | ⟨value, small, rfl⟩
      · decide
      · exact (by decide : ∀ value < 16, (hexDigit value).isUpper = false) value small
  · rintro ⟨sized, lower⟩
    cases spelling with
    | @hyphenated digits same =>
        have plain : (hyphenate digits).map Char.toLower = hyphenate digits :=
          (List.map_congr_left fun char member => toLower_of_not_isUpper (lower char member)).trans
            (List.map_id _)
        rw [string, String.toList_ofList, ← same, ← map_hyphenate, plain]
    | @urn scheme digits named same =>
        have length := length_of_scheme named
        simp [length, length_hyphenate (length_of_lower same)] at sized
    | enclosed _ _ same => simp [length_hyphenate (length_of_lower same)] at sized
    | bare same =>
        rw [length_of_lower same] at sized
        cases sized

end

end Uuid
end Sentinel.Wire
