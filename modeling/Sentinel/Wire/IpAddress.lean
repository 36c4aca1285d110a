import Mathlib.Data.List.TakeWhile
import Sentinel.Wire.PythonParsers

/-!
# Internet addresses in Go's package `net`

`parseIP` is `net.ParseIP` and `IpAddress.string` the method `String` of its
result, whose text reads back (`parseIP_string`). `splitHostPort` is
`net.SplitHostPort` without the texts of its errors. A text that `parseIP` reads
has no port, so `splitHostPort` fails on it.
-/

namespace Sentinel.Wire

/-- The sixteen bytes of `net.IP`, as eight groups; an IPv4 address is mapped. -/
structure IpAddress where
  groups : List UInt16
  length_groups : groups.length = 8
deriving DecidableEq

def decimalNumber (digits : List Char) : Nat :=
  digits.foldl (fun value digit => 10 * value + (digit.toNat - 48)) 0

def hexNumber (digits : List Char) : Nat :=
  digits.foldl (fun value digit => 16 * value + (hexValue digit).getD 0) 0

/-- Four octets without leading zeros. -/
def parseIPv4Fields (text : List Char) : Option (UInt16 × UInt16) :=
  match text.splitOn '.' with
  | [first, second, third, fourth] =>
      if isOctet first && isOctet second && isOctet third && isOctet fourth then
        some (.ofNat (256 * decimalNumber first + decimalNumber second),
          .ofNat (256 * decimalNumber third + decimalNumber fourth))
      else none
  | _ => none

/-- The groups read so far, and how many stand before the double colon. -/
abbrev ReadGroups := List UInt16 × Option Nat

/-- The loop of `parseIPv6` with its remaining slots. -/
def readGroups : Nat → ReadGroups → List Char → Option ReadGroups
  | 0, read, text => if text = [] then some read else none
  | slots + 1, (groups, ellipsis), text =>
      let digits := text.takeWhile fun char => (hexValue char).isSome
      let next := groups ++ [.ofNat (hexNumber digits)]
      if digits = [] ∨ 4 < digits.length then none
      else match text.dropWhile fun char => (hexValue char).isSome with
        | [] => some (next, ellipsis)
        | '.' :: _ =>
            -- An IPv4 tail takes the place of the last two groups.
            if ellipsis = none ∧ groups.length ≠ 6 ∨ 6 < groups.length then none
            else (parseIPv4Fields text).map fun (high, low) => (groups ++ [high, low], ellipsis)
        | [':'] => none
        | ':' :: ':' :: rest =>
            if ellipsis.isSome then none
            else if rest = [] then some (next, some next.length)
            else readGroups slots (next, some next.length) rest
        | ':' :: rest => readGroups slots (next, ellipsis) rest
        | _ => none

/-- Put the zeros that the double colon stands for in its place. -/
def expandGroups : ReadGroups → Option IpAddress
  | (groups, none) => if full : groups.length = 8 then some ⟨groups, full⟩ else none
  | (groups, some position) =>
      if room : groups.length < 8 then
        some ⟨groups.take position ++ List.replicate (8 - groups.length) 0 ++
          groups.drop position, by simp; omega⟩
      else none

/-- A text with a zone yields an address that `ParseIP` does not return. -/
def parseIPv6 (text : List Char) : Option IpAddress :=
  if '%' ∈ text then none
  else match text with
    | [':', ':'] => expandGroups ([], some 0)
    | ':' :: ':' :: rest => (readGroups 8 ([], some 0) rest).bind expandGroups
    | _ => (readGroups 8 ([], none) text).bind expandGroups

def parseIPv4 (text : List Char) : Option IpAddress :=
  (parseIPv4Fields text).map fun (high, low) => ⟨[0, 0, 0, 0, 0, 0xffff, high, low], rfl⟩

/-- `net.ParseIP`: the first dot, colon or percent sign decides the family. -/
def parseIP (text : List Char) : Option IpAddress :=
  match text.find? fun char => char = '.' ∨ char = ':' ∨ char = '%' with
  | some '.' => parseIPv4 text
  | some ':' => parseIPv6 text
  | _ => none

namespace IpAddress

def decimal (value : Nat) : List Char := (toString value).toList

def octets (group : UInt16) : List Char :=
  decimal (group.toNat / 256) ++ '.' :: decimal (group.toNat % 256)

/-- `appendHex`: no leading zeros. -/
def hextet (group : UInt16) : List Char := (Nat.toDigits 16 group.toNat)

def zeroRun (groups : List UInt16) : Nat := (groups.takeWhile (· = 0)).length

/-- Start and length of the first longest run of at least two zero groups. -/
def longestRun (groups : List UInt16) : Nat × Nat :=
  (List.range 8).foldl (fun best start =>
    let run := zeroRun (groups.drop start)
    if 2 ≤ run ∧ best.2 < run then (start, run) else best) (0, 0)

def colonSeparated (groups : List UInt16) : List Char :=
  [':'].intercalate (groups.map hextet)

/-- The method `String` of `net.IP`. -/
def string (address : IpAddress) : String :=
  String.ofList <|
    match address.groups with
    | [0, 0, 0, 0, 0, 0xffff, high, low] => octets high ++ '.' :: octets low
    | groups =>
        match longestRun groups with
        | (_, 0) => colonSeparated groups
        | (start, run) =>
            colonSeparated (groups.take start) ++ [':', ':'] ++
              colonSeparated (groups.drop (start + run))

/-- `To4`: the two groups of an IPv4 address. -/
def to4 (address : IpAddress) : Option (UInt16 × UInt16) :=
  match address.groups.splitAt 6 with
  | (mapped, [high, low]) => if mapped = [0, 0, 0, 0, 0, 0xffff] then some (high, low) else none
  | _ => none

/-- `IsLoopback` -/
def isLoopback (address : IpAddress) : Bool :=
  match address.to4 with
  | some (high, _) => high &&& 0xff00 = 0x7f00
  | none => address.groups = [0, 0, 0, 0, 0, 0, 0, 1]

/-- `IsPrivate` -/
def isPrivate (address : IpAddress) : Bool :=
  match address.to4 with
  | some (high, _) =>
      high &&& 0xff00 = 0x0a00 ∨ high &&& 0xfff0 = 0xac10 ∨ high = 0xc0a8
  | none => address.groups.headD 0 &&& 0xfe00 = 0xfc00

/-- `IsLinkLocalUnicast` -/
def isLinkLocalUnicast (address : IpAddress) : Bool :=
  match address.to4 with
  | some (high, _) => high = 0xa9fe
  | none => address.groups.headD 0 &&& 0xffc0 = 0xfe80

/-- `IsUnspecified` -/
def isUnspecified (address : IpAddress) : Bool :=
  match address.to4 with
  | some groups => groups = (0, 0)
  | none => address.groups = [0, 0, 0, 0, 0, 0, 0, 0]

end IpAddress

/-- The address that a host is when it is no name: an IPv6 one may have a zone. -/
def literalAddress (host : List Char) : Option IpAddress :=
  match host.dropWhile (· ≠ '%') with
  | [] => parseIP host
  | [_] => none
  | _ => let address := host.takeWhile (· ≠ '%')
      if ':' ∈ address then parseIPv6 address else none

/-- `net.SplitHostPort` -/
def splitHostPort (address : List Char) : Option (List Char × List Char) :=
  match address with
  | '[' :: inner =>
      let host := inner.takeWhile (· ≠ ']')
      match inner.dropWhile (· ≠ ']') with
      | ']' :: ':' :: port =>
          if '[' ∈ host ∨ ':' ∈ port ∨ '[' ∈ port ∨ ']' ∈ port then none else some (host, port)
      | _ => none
  | _ =>
      match address.dropWhile (· ≠ ':') with
      | _ :: port =>
          if ':' ∈ port ∨ '[' ∈ address ∨ ']' ∈ address then none
          else some (address.takeWhile (· ≠ ':'), port)
      | [] => none

/-- `net.JoinHostPort` -/
def joinHostPort (host port : List Char) : List Char :=
  if ':' ∈ host then '[' :: host ++ ']' :: ':' :: port else host ++ ':' :: port

/-- A host and a port that were joined are split again. -/
theorem splitHostPort_joinHostPort {host port : List Char} (plainHost : '[' ∉ host ∧ ']' ∉ host)
    (plainPort : ':' ∉ port ∧ '[' ∉ port ∧ ']' ∉ port) :
    splitHostPort (joinHostPort host port) = some (host, port) := by
  obtain ⟨noOpen, noClose⟩ := plainHost
  obtain ⟨noColon, portOpen, portClose⟩ := plainPort
  have untilClose : ∀ char ∈ host, (decide (char ≠ ']')) = true := by
    intro char member
    exact decide_eq_true fun equal => noClose (equal ▸ member)
  by_cases colon : ':' ∈ host
  · simp only [joinHostPort, if_pos colon, List.cons_append, splitHostPort,
      List.takeWhile_append_of_pos untilClose, List.dropWhile_append_of_pos untilClose]
    simp [noOpen, noColon, portOpen, portClose]
  · have untilColon : ∀ char ∈ host, (decide (char ≠ ':')) = true := by
      intro char member
      exact decide_eq_true fun equal => colon (equal ▸ member)
    simp only [joinHostPort, if_neg colon]
    unfold splitHostPort
    split
    · rename_i inner shape
      cases host with
      | nil => cases shape
      | cons first rest =>
          obtain rfl := (List.cons.inj shape).1
          exact absurd List.mem_cons_self noOpen
    · rw [List.takeWhile_append_of_pos untilColon, List.dropWhile_append_of_pos untilColon]
      simp [noOpen, noClose, noColon, portOpen, portClose]

/-- An octet has no colon. -/
theorem colon_notMem_of_isOctet {text : List Char} (octet : isOctet text = true) : ':' ∉ text := by
  simp only [isOctet, Bool.and_eq_true, List.all_eq_true, decide_eq_true_eq] at octet
  intro member
  have digit := octet.1.1.1.2 ':' member
  exact absurd digit.2 (by decide)

/-- So a dotted address has none. -/
theorem colon_notMem_of_parseIPv4Fields {text : List Char} {parsed : UInt16 × UInt16}
    (fields : parseIPv4Fields text = some parsed) : ':' ∉ text := by
  unfold parseIPv4Fields at fields
  split at fields
  · rename_i first second third fourth parts
    split at fields
    · rename_i octets
      simp only [Bool.and_eq_true] at octets
      obtain ⟨⟨⟨one, two⟩, three⟩, four⟩ := octets
      have whole : ['.'].intercalate (text.splitOn '.') = text := List.intercalate_splitOn '.'
      rw [← whole, parts]
      simp [List.intercalate, colon_notMem_of_isOctet, one, two, three, four]
    · cases fields
  · cases fields

/-- Each group beyond the first read takes a colon, and so do both marks of the
double colon. -/
theorem readGroups_colons {slots : Nat} {read result : ReadGroups} {text : List Char}
    (parsed : readGroups slots read text = some result) :
    result.1.length ≤ read.1.length + text.count ':' + 2 ∧
      (result.2 = read.2 ∨ 2 ≤ text.count ':') := by
  induction slots generalizing read text with
  | zero =>
      unfold readGroups at parsed
      split at parsed
      · cases parsed
        exact ⟨by omega, .inl rfl⟩
      · cases parsed
  | succ slots ih =>
      obtain ⟨groups, ellipsis⟩ := read
      have split := List.takeWhile_append_dropWhile
        (p := fun char => (hexValue char).isSome) (l := text)
      simp only [readGroups] at parsed
      split at parsed
      · cases parsed
      · split at parsed
        · cases parsed
          simp
          omega
        · split at parsed
          · cases parsed
          · obtain ⟨fields, _, rfl⟩ := Option.map_eq_some_iff.mp parsed
            simp
        · cases parsed
        · rename_i rest shape
          have colons : 2 + rest.count ':' ≤ text.count ':' := by
            rw [← split, shape]
            simp
            omega
          split at parsed
          · cases parsed
          · split at parsed
            · cases parsed
              simp
              omega
            · have later := ih parsed
              simp only [List.length_append, List.length_singleton] at later
              exact ⟨by simp only; omega, .inr (by omega)⟩
        · rename_i rest _ _ shape
          have colons : 1 + rest.count ':' ≤ text.count ':' := by
            rw [← split, shape]
            simp
            omega
          have later := ih parsed
          simp only [List.length_append, List.length_singleton] at later
          exact ⟨by simp only; omega, later.2.imp id fun two => by omega⟩
        · cases parsed

/-- A text with a port has one. -/
theorem colon_mem_of_splitHostPort {text host port : List Char}
    (divided : splitHostPort text = some (host, port)) : ':' ∈ text := by
  unfold splitHostPort at divided
  split at divided
  · rename_i inner
    have whole := List.takeWhile_append_dropWhile (p := (· ≠ ']')) (l := inner)
    split at divided
    · rename_i rest shape
      rw [← whole, shape]
      simp
    · cases divided
  · split at divided
    · refine Decidable.byContradiction fun absent => ?_
      have nothing : text.dropWhile (· ≠ ':') = [] := by
        refine List.dropWhile_eq_nil_iff.mpr fun char member => ?_
        exact decide_eq_true fun equal => absent (equal ▸ member)
      simp_all
    · cases divided

/-- A text with two colons and no bracket has no port. -/
theorem splitHostPort_of_count {text : List Char} (start : text.head? ≠ some '[')
    (colons : 2 ≤ text.count ':') : splitHostPort text = none := by
  unfold splitHostPort
  split
  · simp at start
  · split
    · rename_i char port shape
      have whole := List.takeWhile_append_dropWhile (p := (· ≠ ':')) (l := text)
      have before : (text.takeWhile (· ≠ ':')).count ':' = 0 := by
        refine List.count_eq_zero.mpr fun member => ?_
        simpa using List.mem_takeWhile_imp member
      rw [← whole, shape, List.count_append, before, List.count_cons] at colons
      have more : ':' ∈ port := List.count_pos_iff.mp (by split at colons <;> omega)
      exact if_pos (.inl more)
    · rfl

/-- A bracket begins no group. -/
theorem readGroups_bracket (slots : Nat) (read : ReadGroups) (rest : List Char) :
    readGroups slots read ('[' :: rest) = none := by
  cases slots <;> rfl

/-- Without an ellipsis all eight groups are written. -/
theorem expandGroups_length {read : ReadGroups} {address : IpAddress}
    (expanded : expandGroups read = some address) : read.2 = none → read.1.length = 8 := by
  obtain ⟨groups, ellipsis⟩ := read
  rintro rfl
  simp only [expandGroups] at expanded
  split at expanded
  · assumption
  · cases expanded

/-- An IPv6 text has at least two colons, and none is its own port's. -/
theorem splitHostPort_of_parseIPv6 {text : List Char} {address : IpAddress}
    (parsed : parseIPv6 text = some address) : splitHostPort text = none := by
  unfold parseIPv6 at parsed
  split at parsed
  · cases parsed
  · split at parsed
    · rfl
    · exact splitHostPort_of_count (by simp) (by simp)
    · obtain ⟨read, loop, expanded⟩ := Option.bind_eq_some_iff.mp parsed
      obtain ⟨length, marked⟩ := readGroups_colons loop
      have complete := expandGroups_length expanded
      refine splitHostPort_of_count ?_ ?_
      · intro bracket
        obtain ⟨rest, rfl⟩ := List.head?_eq_some_iff.mp bracket
        rw [readGroups_bracket] at loop
        cases loop
      · rcases marked with unmarked | two
        · have eight := complete unmarked
          simp only [List.length_nil] at length
          omega
        · exact two

/-- A bare address has no port, so a request whose `RemoteAddr` is one keeps it
as a whole. -/
theorem splitHostPort_of_parseIP {text : List Char} {address : IpAddress}
    (parsed : parseIP text = some address) : splitHostPort text = none := by
  unfold parseIP at parsed
  split at parsed
  · obtain ⟨fields, read, _⟩ := Option.map_eq_some_iff.mp parsed
    have noColon := colon_notMem_of_parseIPv4Fields read
    exact Option.eq_none_iff_forall_ne_some.mpr fun (_, _) divided =>
      noColon (colon_mem_of_splitHostPort divided)
  · exact splitHostPort_of_parseIPv6 parsed
  · cases parsed

/-- The first character that an address may have. -/
def startsAddress (char : Char) : Bool := char = ':' || (hexValue char).isSome

/-- A dotted address begins as an address can. -/
theorem head_of_parseIPv4Fields {text : List Char} {parsed : UInt16 × UInt16}
    (fields : parseIPv4Fields text = some parsed) :
    ∃ first rest, text = first :: rest ∧ startsAddress first = true := by
  unfold parseIPv4Fields at fields
  split at fields
  · rename_i octet second third fourth parts
    split at fields
    · rename_i octets
      simp only [Bool.and_eq_true] at octets
      have digits := octets.1.1.1
      simp only [isOctet, Bool.and_eq_true, List.all_eq_true, decide_eq_true_eq] at digits
      have whole : ['.'].intercalate (text.splitOn '.') = text := List.intercalate_splitOn '.'
      cases octet with
      | nil => exact absurd rfl digits.1.1.1.1
      | cons first rest =>
          have digit := digits.1.1.1.2 first List.mem_cons_self
          refine ⟨first, rest ++ ['.'] ++ ['.'].intercalate [second, third, fourth], ?_, ?_⟩
          · rw [← whole, parts, List.intercalate_cons_cons, List.cons_append, List.cons_append]
          · simp [startsAddress, hexValue, digit]
    · cases fields
  · cases fields

/-- Groups with colons begin as an address can. -/
theorem head_of_readGroups {slots : Nat} {read result : ReadGroups} {text : List Char}
    (parsed : readGroups (slots + 1) read text = some result) :
    ∃ first rest, text = first :: rest ∧ startsAddress first = true := by
  obtain ⟨groups, ellipsis⟩ := read
  cases text with
  | nil => simp [readGroups] at parsed
  | cons first rest =>
      refine ⟨first, rest, rfl, ?_⟩
      cases digit : (hexValue first).isSome with
      | true => simp [startsAddress, digit]
      | false => simp [readGroups, digit] at parsed

/-- Every text that is an address begins as one can. -/
theorem head_of_parseIP {text : List Char} {address : IpAddress}
    (parsed : parseIP text = some address) :
    ∃ first rest, text = first :: rest ∧ startsAddress first = true := by
  unfold parseIP at parsed
  split at parsed
  · obtain ⟨fields, read, _⟩ := Option.map_eq_some_iff.mp parsed
    exact head_of_parseIPv4Fields read
  · unfold parseIPv6 at parsed
    split at parsed
    · cases parsed
    · split at parsed
      · exact ⟨':', _, rfl, rfl⟩
      · exact ⟨':', _, rfl, rfl⟩
      · obtain ⟨read, loop, _⟩ := Option.bind_eq_some_iff.mp parsed
        exact head_of_readGroups loop
  · cases parsed

namespace IpAddress

/-! ## An address reads back from its text -/

/-- The decimal digits of a byte are an octet with its value. -/
theorem isOctet_decimal : ∀ value < 256,
    isOctet (decimal value) = true ∧ decimalNumber (decimal value) = value := by
  decide +kernel

/-- An octet has no dot. -/
theorem dot_notMem_of_isOctet {text : List Char} (octet : isOctet text = true) : '.' ∉ text := by
  simp only [isOctet, Bool.and_eq_true, List.all_eq_true, decide_eq_true_eq] at octet
  intro member
  exact absurd (octet.1.1.1.2 '.' member).1 (by decide)

/-- Four octets with dots are read back. -/
theorem parseIPv4Fields_octets (high low : UInt16) :
    parseIPv4Fields (octets high ++ '.' :: octets low) = some (high, low) := by
  have bound : ∀ group : UInt16, group.toNat / 256 < 256 ∧ group.toNat % 256 < 256 := by
    intro group
    have size := group.toNat_lt
    omega
  have value : ∀ group : UInt16,
      UInt16.ofNat (256 * (group.toNat / 256) + group.toNat % 256) = group := by
    intro group
    rw [Nat.div_add_mod]
    exact UInt16.ofNat_toNat
  have plain : ∀ {number : Nat}, number < 256 → '.' ∉ decimal number := fun small =>
    dot_notMem_of_isOctet (isOctet_decimal _ small).1
  have parts : (octets high ++ '.' :: octets low).splitOn '.' =
      [decimal (high.toNat / 256), decimal (high.toNat % 256), decimal (low.toNat / 256),
        decimal (low.toNat % 256)] := by
    simp only [octets, List.append_assoc, List.cons_append]
    rw [List.splitOn_append_cons_self_of_not_mem (plain (bound high).1),
      List.splitOn_append_cons_self_of_not_mem (plain (bound high).2),
      List.splitOn_append_cons_self_of_not_mem (plain (bound low).1),
      List.splitOn_eq_singleton (plain (bound low).2)]
  simp only [parseIPv4Fields, parts, isOctet_decimal _ (bound high).1,
    isOctet_decimal _ (bound high).2, isOctet_decimal _ (bound low).1,
    isOctet_decimal _ (bound low).2, Bool.and_self, if_true, value]

theorem parseIP_octets (high low : UInt16) :
    parseIP (octets high ++ '.' :: octets low) =
      some ⟨[0, 0, 0, 0, 0, 0xffff, high, low], rfl⟩ := by
  have small : high.toNat / 256 < 256 := by
    have size := high.toNat_lt
    omega
  have digits : ∀ char ∈ decimal (high.toNat / 256), '0' ≤ char ∧ char ≤ '9' := by
    have octet := (isOctet_decimal _ small).1
    simp only [isOctet, Bool.and_eq_true, List.all_eq_true, decide_eq_true_eq] at octet
    exact octet.1.1.1.2
  have first : (octets high ++ '.' :: octets low).find?
      (fun char => char = '.' ∨ char = ':' ∨ char = '%') = some '.' := by
    rw [octets, List.append_assoc, List.find?_append, List.find?_eq_none.mpr]
    · rfl
    · intro char member
      have digit := digits char member
      simp only [decide_eq_true_eq, not_or]
      refine ⟨?_, ?_, ?_⟩ <;> rintro rfl
      · exact absurd digit.1 (by decide)
      · exact absurd digit.2 (by decide)
      · exact absurd digit.1 (by decide)
  rw [parseIP, first]
  simp only [parseIPv4, parseIPv4Fields_octets, Option.map_some]

/-- Every hexadecimal digit has the value it stands for. -/
theorem hexValue_digitChar : ∀ value < 16, hexValue value.digitChar = some value := by
  decide

/-- Hexadecimal digits are read back. -/
theorem hexNumber_toDigits (number : Nat) : hexNumber (Nat.toDigits 16 number) = number := by
  induction number using Nat.strongRecOn with
  | ind number ih =>
      rw [Nat.toDigits_eq_if (by decide)]
      split
      · rename_i small
        simp [hexNumber, hexValue_digitChar number small]
      · rename_i large
        have smaller : number / 16 < number := Nat.div_lt_self (by omega) (by decide)
        have digit := hexValue_digitChar (number % 16) (Nat.mod_lt _ (by decide))
        have front := ih _ smaller
        rw [hexNumber] at front
        rw [hexNumber, List.foldl_append, front]
        simp only [List.foldl_cons, List.foldl_nil, digit, Option.getD_some]
        exact Nat.div_add_mod number 16

/-- They are all digits. -/
theorem hexValue_toDigits (number : Nat) :
    ∀ char ∈ Nat.toDigits 16 number, (hexValue char).isSome = true := by
  induction number using Nat.strongRecOn with
  | ind number ih =>
      rw [Nat.toDigits_eq_if (by decide)]
      split
      · rename_i small
        simp [hexValue_digitChar number small]
      · rename_i large
        have smaller : number / 16 < number := Nat.div_lt_self (by omega) (by decide)
        have digit := hexValue_digitChar (number % 16) (Nat.mod_lt _ (by decide))
        intro char member
        rcases List.mem_append.mp member with front | last
        · exact ih _ smaller char front
        · obtain rfl := List.mem_singleton.mp last
          simp [digit]

/-- A group has four digits at most. -/
theorem length_hextet (group : UInt16) : (hextet group).length ≤ 4 :=
  (Nat.length_toDigits_le_iff (by decide) (by decide)).mpr group.toNat_lt

/-- A group is read up to the next character that is no digit. -/
theorem read_hextet (group : UInt16) (rest : List Char)
    (stops : ∀ char ∈ rest.head?, hexValue char = none) :
    (hextet group ++ rest).takeWhile (fun char => (hexValue char).isSome) = hextet group ∧
      (hextet group ++ rest).dropWhile (fun char => (hexValue char).isSome) = rest ∧
      UInt16.ofNat (hexNumber (hextet group)) = group := by
  have digits : ∀ char ∈ hextet group, (hexValue char).isSome = true :=
    hexValue_toDigits group.toNat
  refine ⟨?_, ?_, ?_⟩
  · rw [List.takeWhile_append_of_pos digits]
    cases rest with
    | nil => simp
    | cons first rest => simp [stops first rfl]
  · rw [List.dropWhile_append_of_pos digits]
    cases rest with
    | nil => rfl
    | cons first rest => simp [stops first rfl]
  · rw [hextet, hexNumber_toDigits, UInt16.ofNat_toNat]

theorem hextet_ne_nil (group : UInt16) : hextet group ≠ [] := Nat.toDigits_ne_nil

/-- It begins with a digit. -/
theorem hextet_eq_cons (group : UInt16) : ∃ digit rest, hextet group = digit :: rest ∧
    (hexValue digit).isSome = true := by
  have digits : ∀ char ∈ hextet group, (hexValue char).isSome = true :=
    hexValue_toDigits group.toNat
  cases shape : hextet group with
  | nil => exact absurd shape (hextet_ne_nil group)
  | cons digit rest => exact ⟨digit, rest, rfl, digits digit (shape ▸ List.mem_cons_self)⟩

/-- So the parser takes it. -/
theorem hextet_fits (group : UInt16) : ¬ (hextet group = [] ∨ 4 < (hextet group).length) := by
  rintro (empty | long)
  · exact hextet_ne_nil group empty
  · exact absurd (length_hextet group) (Nat.not_le.mpr long)

/-- The loop at the last group. -/
theorem readGroups_last (slots : Nat) (groups : List UInt16) (ellipsis : Option Nat)
    (group : UInt16) :
    readGroups (slots + 1) (groups, ellipsis) (hextet group) =
      some (groups ++ [group], ellipsis) := by
  have read := read_hextet group [] (by simp)
  rw [List.append_nil] at read
  obtain ⟨taken, dropped, value⟩ := read
  rw [readGroups]
  simp only [taken, dropped, value, if_neg (hextet_fits group)]

/-- The loop at the double colon. -/
theorem readGroups_ellipsis (slots : Nat) (groups : List UInt16) (group : UInt16)
    (rest : List Char) :
    readGroups (slots + 1) (groups, none) (hextet group ++ ':' :: ':' :: rest) =
      if rest = [] then some (groups ++ [group], some (groups ++ [group]).length)
      else readGroups slots (groups ++ [group], some (groups ++ [group]).length) rest := by
  obtain ⟨taken, dropped, value⟩ := read_hextet group (':' :: ':' :: rest)
    (by simp; decide)
  rw [readGroups]
  simp only [taken, dropped, value, if_neg (hextet_fits group)]
  rfl

/-- The loop at a colon between two groups. -/
theorem readGroups_colon (slots : Nat) (groups : List UInt16) (ellipsis : Option Nat)
    (group : UInt16) {digit : Char} (rest : List Char) (isDigit : (hexValue digit).isSome = true) :
    readGroups (slots + 1) (groups, ellipsis) (hextet group ++ ':' :: digit :: rest) =
      readGroups slots (groups ++ [group], ellipsis) (digit :: rest) := by
  obtain ⟨taken, dropped, value⟩ := read_hextet group (':' :: digit :: rest)
    (by simp; decide)
  have noColon : digit ≠ ':' := by
    rintro rfl
    exact absurd isDigit (by decide)
  rw [readGroups]
  simp only [taken, dropped, value, if_neg (hextet_fits group)]
  split
  · rename_i equal
    cases equal
  · rename_i equal
    cases equal
  · rename_i equal
    cases equal
  · rename_i equal
    exact absurd (List.cons.inj (List.cons.inj equal).2).1 noColon
  · rename_i equal
    rw [(List.cons.inj equal).2]
  · rename_i other
    exact absurd rfl (other _)

/-- Between two groups stands a colon. -/
theorem colonSeparated_cons (group next : UInt16) (rest : List UInt16) :
    colonSeparated (group :: next :: rest) =
      hextet group ++ ':' :: colonSeparated (next :: rest) := by
  simp [colonSeparated, List.intercalate_cons_cons]

/-- The groups begin with a digit. -/
theorem colonSeparated_eq_cons (group : UInt16) (rest : List UInt16) :
    ∃ digit more, colonSeparated (group :: rest) = digit :: more ∧
      (hexValue digit).isSome = true := by
  obtain ⟨digit, more, shape, isDigit⟩ := hextet_eq_cons group
  cases rest with
  | nil => exact ⟨digit, more, by simp [colonSeparated, shape], isDigit⟩
  | cons next rest =>
      refine ⟨digit, more ++ ':' :: colonSeparated (next :: rest), ?_, isDigit⟩
      rw [colonSeparated_cons, shape, List.cons_append]

/-- Groups with colons are read back where there is room for them. -/
theorem readGroups_colonSeparated {slots : Nat} (groups : List UInt16) (ellipsis : Option Nat)
    (group : UInt16) (rest : List UInt16) (room : rest.length < slots) :
    readGroups slots (groups, ellipsis) (colonSeparated (group :: rest)) =
      some (groups ++ group :: rest, ellipsis) := by
  induction rest generalizing slots groups group with
  | nil =>
      obtain ⟨slots, rfl⟩ := Nat.exists_eq_succ_of_ne_zero (Nat.ne_of_gt room)
      simpa [colonSeparated] using readGroups_last slots groups ellipsis group
  | cons next rest ih =>
      obtain ⟨slots, rfl⟩ := Nat.exists_eq_succ_of_ne_zero (Nat.ne_of_gt (Nat.zero_lt_of_lt room))
      obtain ⟨digit, more, shape, isDigit⟩ := colonSeparated_eq_cons next rest
      rw [colonSeparated_cons, shape, readGroups_colon slots groups ellipsis group more isDigit,
        ← shape, ih _ _ (by simpa using room)]
      simp

/-- What the loop makes of groups with a double colon after the first ones. -/
theorem readGroups_compressed {slots : Nat} (groups : List UInt16) (group : UInt16)
    (before after : List UInt16) (room : before.length + after.length < slots) :
    readGroups slots (groups, none)
        (colonSeparated (group :: before) ++ [':', ':'] ++ colonSeparated after) =
      some (groups ++ group :: before ++ after, some (groups ++ group :: before).length) := by
  induction before generalizing slots groups group with
  | nil =>
      obtain ⟨slots, rfl⟩ := Nat.exists_eq_succ_of_ne_zero (Nat.ne_of_gt (Nat.zero_lt_of_lt room))
      have text : colonSeparated [group] ++ [':', ':'] ++ colonSeparated after =
          hextet group ++ ':' :: ':' :: colonSeparated after := by simp [colonSeparated]
      rw [text, readGroups_ellipsis]
      cases after with
      | nil => simp [colonSeparated]
      | cons next rest =>
          obtain ⟨digit, more, shape, _⟩ := colonSeparated_eq_cons next rest
          rw [if_neg (by simp [shape]), readGroups_colonSeparated _ _ _ _ (by simpa using room)]
  | cons next before ih =>
      obtain ⟨slots, rfl⟩ := Nat.exists_eq_succ_of_ne_zero (Nat.ne_of_gt (Nat.zero_lt_of_lt room))
      obtain ⟨digit, more, shape, isDigit⟩ := colonSeparated_eq_cons next before
      have text : colonSeparated (group :: next :: before) ++ [':', ':'] ++ colonSeparated after =
          hextet group ++ ':' :: digit :: (more ++ [':', ':'] ++ colonSeparated after) := by
        rw [colonSeparated_cons, shape]
        simp
      have tail : digit :: (more ++ [':', ':'] ++ colonSeparated after) =
          colonSeparated (next :: before) ++ [':', ':'] ++ colonSeparated after := by
        rw [shape]
        simp
      rw [text, readGroups_colon slots groups none group _ isDigit, tail,
        ih _ _ (by simp only [List.length_cons] at room; omega)]
      simp

/-- No run, or one of at least two zeros. -/
def IsZeroRun (groups : List UInt16) (run : Nat × Nat) : Prop :=
  run.2 = 0 ∨ (groups.drop run.1).take run.2 = List.replicate run.2 0 ∧ 2 ≤ run.2 ∧
    run.1 + run.2 ≤ groups.length

/-- The longest run is a run of zeros. -/
theorem isZeroRun_longestRun (groups : List UInt16) : IsZeroRun groups (longestRun groups) := by
  refine List.foldlRecOn (motive := IsZeroRun groups) (List.range 8) _ (.inl rfl) ?_
  intro best inv start _
  dsimp only
  split
  · rename_i longer
    refine .inr ⟨?_, longer.1, ?_⟩
    · have zeros : ∀ group ∈ (groups.drop start).takeWhile (· = 0), group = 0 := by
        intro group member
        simpa using List.mem_takeWhile_imp member
      have prefixed : (groups.drop start).takeWhile (· = 0) <+: groups.drop start :=
        List.takeWhile_prefix _
      calc (groups.drop start).take (zeroRun (groups.drop start))
          = (groups.drop start).takeWhile (· = 0) := (List.prefix_iff_eq_take.mp prefixed).symm
        _ = List.replicate (zeroRun (groups.drop start)) 0 := List.eq_replicate_of_mem zeros
    · have length : zeroRun (groups.drop start) ≤ (groups.drop start).length :=
        (List.takeWhile_sublist _).length_le
      have positive := longer.1
      rw [List.length_drop] at length
      omega
  · exact inv

/-- The text of an IPv6 address has a colon, and no dot or percent sign. -/
theorem hex_or_colon {groups : List UInt16} {char : Char} (member : char ∈ colonSeparated groups) :
    char = ':' ∨ (hexValue char).isSome = true := by
  induction groups with
  | nil => cases member
  | cons group rest ih =>
      cases rest with
      | nil =>
          rw [colonSeparated, List.map_cons, List.map_nil, List.intercalate_singleton] at member
          exact .inr (hexValue_toDigits group.toNat char member)
      | cons next rest =>
          rw [colonSeparated_cons] at member
          rcases List.mem_append.mp member with digit | later
          · exact .inr (hexValue_toDigits group.toNat char digit)
          · rcases List.mem_cons.mp later with colon | deeper
            · exact .inl colon
            · exact ih deeper

/-- A text with colons and without dots is read as groups. -/
theorem parseIP_of_plain {text : List Char}
    (plain : ∀ char ∈ text, char = ':' ∨ (hexValue char).isSome = true) (colon : ':' ∈ text) :
    parseIP text = parseIPv6 text := by
  have found : text.find? (fun char => char = '.' ∨ char = ':' ∨ char = '%') = some ':' := by
    cases search : text.find? (fun char => char = '.' ∨ char = ':' ∨ char = '%') with
    | none =>
        have missing := List.find?_eq_none.mp search ':' colon
        exact absurd missing (by decide)
    | some char =>
        have kind := List.find?_some search
        rcases plain char (List.mem_of_find?_eq_some search) with rfl | digit
        · rfl
        · simp only [decide_eq_true_eq] at kind
          rcases kind with rfl | rfl | rfl <;> exact absurd digit (by decide)
  simp only [parseIP, found]

/-- A text of digits and colons has no zone. -/
theorem parseIPv6_of_plain {text : List Char}
    (plain : ∀ char ∈ text, char = ':' ∨ (hexValue char).isSome = true) : '%' ∉ text := by
  intro member
  rcases plain '%' member with colon | digit
  · exact absurd colon (by decide)
  · exact absurd digit (by decide)

/-- A text that begins with a group is read by the loop from its start. -/
theorem parseIPv6_of_digit {digit : Char} {rest : List Char} (noZone : '%' ∉ digit :: rest)
    (isDigit : (hexValue digit).isSome = true) :
    parseIPv6 (digit :: rest) =
      (readGroups 8 ([], none) (digit :: rest)).bind expandGroups := by
  have noColon : digit ≠ ':' := by
    rintro rfl
    exact absurd isDigit (by decide)
  unfold parseIPv6
  rw [if_neg noZone]
  split
  · rename_i equal
    exact absurd (List.cons.inj equal).1 noColon
  · rename_i equal
    exact absurd (List.cons.inj equal).1 noColon
  · rfl

/-- All eight groups are read back. -/
theorem parseIP_colonSeparated {groups : List UInt16} (full : groups.length = 8) :
    parseIP (colonSeparated groups) = some ⟨groups, full⟩ := by
  obtain ⟨group, next, rest, rfl⟩ : ∃ group next rest, groups = group :: next :: rest := by
    match groups, full with
    | group :: next :: rest, _ => exact ⟨group, next, rest, rfl⟩
  have plain := fun char => @hex_or_colon (group :: next :: rest) char
  have colon : ':' ∈ colonSeparated (group :: next :: rest) := by
    rw [colonSeparated_cons]
    exact List.mem_append_right _ List.mem_cons_self
  obtain ⟨digit, more, shape, isDigit⟩ := colonSeparated_eq_cons group (next :: rest)
  have room : (next :: rest).length < 8 := by
    simp only [List.length_cons] at full ⊢
    omega
  have read := readGroups_colonSeparated [] none group (next :: rest) room
  rw [parseIP_of_plain plain colon, shape,
    parseIPv6_of_digit (shape ▸ parseIPv6_of_plain plain) isDigit, ← shape, read]
  simp only [List.nil_append, Option.bind_some, expandGroups]
  exact dif_pos full

/-- The zeros come back where the double colon stands. -/
theorem expandGroups_compressed {before after : List UInt16} {run : Nat}
    (full : (before ++ List.replicate run 0 ++ after).length = 8) (two : 2 ≤ run) :
    expandGroups (before ++ after, some before.length) =
      some ⟨before ++ List.replicate run 0 ++ after, full⟩ := by
  simp only [List.length_append, List.length_replicate] at full
  have room : (before ++ after).length < 8 := by
    rw [List.length_append]
    omega
  have missing : 8 - (before ++ after).length = run := by
    rw [List.length_append]
    omega
  simp only [expandGroups, dif_pos room, missing, List.take_left, List.drop_left]

theorem parseIP_compressed {before after : List UInt16} {run : Nat}
    (full : (before ++ List.replicate run 0 ++ after).length = 8) (two : 2 ≤ run) :
    parseIP (colonSeparated before ++ [':', ':'] ++ colonSeparated after) =
      some ⟨before ++ List.replicate run 0 ++ after, full⟩ := by
  have plain : ∀ char ∈ colonSeparated before ++ [':', ':'] ++ colonSeparated after,
      char = ':' ∨ (hexValue char).isSome = true := by
    intro char member
    simp only [List.mem_append, List.mem_cons, List.not_mem_nil, or_false, or_self] at member
    rcases member with (first | colon) | last
    · exact hex_or_colon first
    · exact .inl colon
    · exact hex_or_colon last
  rw [parseIP_of_plain plain (by simp)]
  have length : before.length + after.length < 7 := by
    simp only [List.length_append, List.length_replicate] at full
    omega
  have expanded := expandGroups_compressed full two
  cases before with
  | nil =>
      have noZone := parseIPv6_of_plain plain
      cases after with
      | nil => simpa [colonSeparated, parseIPv6] using expanded
      | cons group rest =>
          obtain ⟨digit, more, shape, isDigit⟩ := colonSeparated_eq_cons group rest
          have read := @readGroups_colonSeparated 8 [] (some 0) group rest
            (by simp only [List.length_nil, List.length_cons] at length; omega)
          rw [shape] at noZone read ⊢
          have text : colonSeparated [] ++ [':', ':'] ++ digit :: more = ':' :: ':' :: digit :: more :=
            rfl
          have opened : parseIPv6 (':' :: ':' :: digit :: more) =
              (readGroups 8 ([], some 0) (digit :: more)).bind expandGroups := by
            unfold parseIPv6
            exact if_neg (text ▸ noZone)
          rw [text, opened, read]
          exact expanded
  | cons group before =>
      obtain ⟨digit, more, shape, isDigit⟩ := colonSeparated_eq_cons group before
      have read := @readGroups_compressed 8 [] group before after
        (by simp only [List.length_cons] at length; omega)
      have noZone := parseIPv6_of_plain plain
      rw [shape, List.append_assoc, List.cons_append] at noZone read ⊢
      rw [parseIPv6_of_digit noZone isDigit, read]
      exact expanded

/-- Every address that is written is read back. -/
theorem parseIP_string (address : IpAddress) : parseIP address.string.toList = some address := by
  obtain ⟨groups, full⟩ := address
  rw [string, String.toList_ofList]
  dsimp only
  split
  · exact parseIP_octets _ _
  · have zeros := isZeroRun_longestRun groups
    split
    · exact parseIP_colonSeparated full
    · rename_i start run some_ shape
      rw [shape] at zeros
      rcases zeros with none_ | ⟨same, two, fits⟩
      · exact absurd none_ (by simpa using some_)
      · have whole : groups.take start ++ List.replicate run 0 ++ groups.drop (start + run) =
            groups := by
          rw [← same, List.append_assoc, ← List.drop_drop, List.take_append_drop,
            List.take_append_drop]
        have parsed := @parseIP_compressed (groups.take start) (groups.drop (start + run)) run
          (by rw [whole, full]) two
        simpa only [whole] using parsed

/-- Different addresses are written differently. -/
theorem string_injective : Function.Injective string := by
  intro one other same
  have read := parseIP_string one
  rw [same, parseIP_string other] at read
  exact (Option.some.inj read).symm

end IpAddress

example : parseIP "203.0.113.07".toList = none := by decide
example : (parseIP "2001:DB8:0:0:1::".toList).map IpAddress.string = some "2001:db8:0:0:1::" := by
  decide +kernel
example : (parseIP "::ffff:203.0.113.7".toList).map IpAddress.string = some "203.0.113.7" := by
  decide +kernel

end Sentinel.Wire
