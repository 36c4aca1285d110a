import Sentinel.Wire.Uuid

/-!
# What Python's `uuid.UUID` and `ipaddress.ip_address` accept

Both take a text. `pythonUuid` follows the constructor through `int(hex, 16)`,
which reads more than hexadecimal digits, and `isIpAddress` is true when
`ip_address` raises no exception.
-/

namespace Sentinel.Wire

/-- The code points with the decimal value 0; the other nine digits follow each. -/
def decimalZeros : List Nat :=
  [0x30, 0x660, 0x6F0, 0x7C0, 0x966, 0x9E6, 0xA66, 0xAE6, 0xB66, 0xBE6, 0xC66, 0xCE6, 0xD66,
    0xDE6, 0xE50, 0xED0, 0xF20, 0x1040, 0x1090, 0x17E0, 0x1810, 0x1946, 0x19D0, 0x1A80, 0x1A90,
    0x1B50, 0x1BB0, 0x1C40, 0x1C50, 0xA620, 0xA8D0, 0xA900, 0xA9D0, 0xA9F0, 0xAA50, 0xABF0,
    0xFF10, 0x104A0, 0x10D30, 0x11066, 0x110F0, 0x11136, 0x111D0, 0x112F0, 0x11450, 0x114D0,
    0x11650, 0x116C0, 0x11730, 0x118E0, 0x11950, 0x11C50, 0x11D50, 0x11DA0, 0x11F50, 0x16A60,
    0x16AC0, 0x16B50, 0x1D7CE, 0x1D7D8, 0x1D7E2, 0x1D7EC, 0x1D7F6, 0x1E140, 0x1E2F0, 0x1E4F0,
    0x1E950, 0x1FBF0]

def decimalValue (char : Char) : Option Nat :=
  (decimalZeros.find? fun first => first ≤ char.toNat ∧ char.toNat < first + 10).map
    (char.toNat - ·)

def isAsciiSpace (char : Char) : Bool :=
  char = ' ' ∨ 9 ≤ char.toNat ∧ char.toNat ≤ 13

/-- White space beyond ASCII. -/
def isWideSpace (char : Char) : Bool :=
  char.toNat ∈ [0x85, 0xA0, 0x1680, 0x2028, 0x2029, 0x202F, 0x205F, 0x3000] ∨
    0x2000 ≤ char.toNat ∧ char.toNat ≤ 0x200A

/-- What `int` makes of a character before it reads digits. -/
def asciiForInt (char : Char) : Char :=
  if char.toNat < 127 then char
  else if isWideSpace char then ' '
  else match decimalValue char with
    | some value => hexDigit value
    | none => '?'

/-- Hexadecimal digits with single underscores between them, then white space. -/
def readHexDigits : List Char → Nat → Bool → Option Nat
  | [], value, afterDigit => if afterDigit then some value else none
  | char :: rest, value, afterDigit =>
      if char = '_' then
        if afterDigit then readHexDigits rest value false else none
      else match hexValue char with
        | some digit => readHexDigits rest (16 * value + digit) true
        | none => if afterDigit && (char :: rest).all isAsciiSpace then some value else none

/-- `int(text, 16)` of a text without a minus sign. -/
def pythonHexInt (text : List Char) : Option Nat :=
  let trimmed := (text.map asciiForInt).dropWhile isAsciiSpace
  let unsigned := if trimmed.head? = some '+' then trimmed.tail else trimmed
  let digits :=
    if unsigned.take 2 = "0x".toList ∨ unsigned.take 2 = "0X".toList then
      if (unsigned.drop 2).head? = some '_' then unsigned.drop 3 else unsigned.drop 2
    else unsigned
  readHexDigits digits 0 false

/-- `text.replace(pattern, "")`; `fuel` bounds the length of the text. -/
def removeAll (pattern : List Char) : Nat → List Char → List Char
  | 0, text => text
  | _, [] => []
  | fuel + 1, char :: rest =>
      if (char :: rest).take pattern.length = pattern then
        removeAll pattern fuel ((char :: rest).drop pattern.length)
      else char :: removeAll pattern fuel rest

/-- `text.strip(chars)` -/
def strip (chars text : List Char) : List Char :=
  ((text.dropWhile (· ∈ chars)).reverse.dropWhile (· ∈ chars)).reverse

/-- The UUID of a 128-bit integer. -/
def Uuid.ofNat (value : Nat) : Uuid where
  bytes := (List.range 16).map fun index => UInt8.ofNat (value >>> (8 * (15 - index)))
  length_bytes := by simp

/-- `uuid.UUID(text)` -/
def pythonUuid (text : String) : Option Uuid :=
  let chars := text.toList
  let bare := removeAll "urn:".toList chars.length chars
  let bare := removeAll "uuid:".toList bare.length bare
  let hex := (strip ['{', '}'] bare).filter (· ≠ '-')
  if hex.length = 32 then (pythonHexInt hex).map Uuid.ofNat else none

/-- `_parse_octet` -/
def isOctet (text : List Char) : Bool :=
  text ≠ [] && text.all (fun char => '0' ≤ char ∧ char ≤ '9') && text.length ≤ 3 &&
    (text = ['0'] || text.head? ≠ some '0') &&
    text.foldl (fun value char => 10 * value + (char.toNat - 48)) 0 ≤ 255

def isIPv4Address (text : List Char) : Bool :=
  '/' ∉ text && (text.splitOn '.').length = 4 && (text.splitOn '.').all isOctet

/-- `_parse_hextet` -/
def isHextet (text : List Char) : Bool :=
  text ≠ [] && text.all (fun char => (hexValue char).isSome) && text.length ≤ 4

/-- One side of a double colon. An empty outermost group is the edge of the
text itself, and then no other group may stand on that side. -/
def doubleColonSide (outermost : List Char) (groups : List (List Char)) :
    Option (List (List Char)) :=
  if outermost = [] then if groups.length = 1 then some [] else none else some groups

/-- The groups between colons, with an IPv4 tail already split in two. -/
def areIPv6Groups (first : List Char) (interior : List (List Char)) (last : List Char) : Bool :=
  if interior.length + 2 ≤ 9 then
    match interior.count [] with
    | 0 => interior.length + 2 = 8 && (first :: interior ++ [last]).all isHextet
    | 1 =>
        match doubleColonSide first (first :: interior.takeWhile (· ≠ [])),
            doubleColonSide last ((interior.dropWhile (· ≠ [])).tail ++ [last]) with
        | some high, some low => high.length + low.length ≤ 7 && (high ++ low).all isHextet
        | _, _ => false
    | _ => false
  else false

/-- The address part of an IPv6 text. -/
def isIPv6Number (text : List Char) : Bool :=
  match text.splitOn ':' with
  | first :: second :: third :: rest =>
      let interior := (second :: third :: rest).dropLast
      let last := (third :: rest).getLast (List.cons_ne_nil _ _)
      if '.' ∈ last then
        -- The IPv4 tail stands for two groups, both of them well formed.
        isIPv4Address last && areIPv6Groups first (interior ++ [['0']]) ['0']
      else areIPv6Groups first interior last
  | _ => false

/-- An address with at most one non-empty scope after a percent sign. -/
def isIPv6Address (text : List Char) : Bool :=
  '/' ∉ text &&
    match text.dropWhile (· ≠ '%') with
    | [] => isIPv6Number text
    | _ :: scope => scope ≠ [] && '%' ∉ scope && isIPv6Number (text.takeWhile (· ≠ '%'))

def isIpAddress (text : String) : Bool :=
  isIPv4Address text.toList || isIPv6Address text.toList

end Sentinel.Wire
