import Mathlib.Data.List.Basic

/-!
# Unpadded base64url

`base64.RawURLEncoding`: `encode` is `EncodeToString` and `decode` is
`DecodeString`, which skips CR and LF anywhere and ignores the unused low bits
of the last character.
-/

namespace Sentinel.Wire.Base64

/-- The URL-safe alphabet. -/
def digit (value : Nat) : Char :=
  if value < 26 then Char.ofNat (65 + value)
  else if value < 52 then Char.ofNat (71 + value)
  else if value < 62 then Char.ofNat (value - 4)
  else if value = 62 then '-' else '_'

def value (char : Char) : Option Nat :=
  if 'A' ≤ char ∧ char ≤ 'Z' then some (char.toNat - 65)
  else if 'a' ≤ char ∧ char ≤ 'z' then some (char.toNat - 71)
  else if '0' ≤ char ∧ char ≤ '9' then some (char.toNat + 4)
  else if char = '-' then some 62
  else if char = '_' then some 63
  else none

/-- Every digit has the value it stands for. -/
theorem value_digit : ∀ sextet < 64, value (digit sextet) = some sextet := by decide

/-- Each character of the alphabet has one value. -/
theorem value_eq_some_iff {char : Char} {sextet : Nat} :
    value char = some sextet ↔ sextet < 64 ∧ char = digit sextet := by
  constructor
  · intro read
    unfold value at read
    split at read
    · rename_i range
      have low : 65 ≤ char.toNat := range.1
      have high : char.toNat ≤ 90 := range.2
      obtain rfl := Option.some.inj read
      refine ⟨by omega, ?_⟩
      rw [digit, if_pos (by omega), Nat.add_sub_cancel' low, Char.ofNat_toNat]
    split at read
    · rename_i range
      have low : 97 ≤ char.toNat := range.1
      have high : char.toNat ≤ 122 := range.2
      obtain rfl := Option.some.inj read
      refine ⟨by omega, ?_⟩
      rw [digit, if_neg (by omega), if_pos (by omega), Nat.add_sub_cancel' (by omega),
        Char.ofNat_toNat]
    split at read
    · rename_i range
      have low : 48 ≤ char.toNat := range.1
      have high : char.toNat ≤ 57 := range.2
      obtain rfl := Option.some.inj read
      refine ⟨by omega, ?_⟩
      rw [digit, if_neg (by omega), if_neg (by omega), if_pos (by omega), Nat.add_sub_cancel,
        Char.ofNat_toNat]
    split at read
    · rename_i same
      obtain rfl := Option.some.inj read
      exact ⟨by decide, same⟩
    split at read
    · rename_i same
      obtain rfl := Option.some.inj read
      exact ⟨by decide, same⟩
    · cases read
  · rintro ⟨small, rfl⟩
    exact value_digit sextet small

/-- No character of the alphabet is a line break or the dot of a refresh token. -/
theorem digit_plain : ∀ sextet < 64,
    digit sextet ≠ '\r' ∧ digit sextet ≠ '\n' ∧ digit sextet ≠ '.' := by decide

/-- The sextets of a byte string, the last one padded with zero bits. -/
def sextets : List UInt8 → List Nat
  | [] => []
  | [first] => [first.toNat / 4, first.toNat % 4 * 16]
  | [first, second] =>
      [first.toNat / 4, first.toNat % 4 * 16 + second.toNat / 16, second.toNat % 16 * 4]
  | first :: second :: third :: rest =>
      first.toNat / 4 :: (first.toNat % 4 * 16 + second.toNat / 16) ::
        (second.toNat % 16 * 4 + third.toNat / 64) :: third.toNat % 64 :: sextets rest

def encode (bytes : List UInt8) : List Char := (sextets bytes).map digit

/-- Reassemble bytes; a single left-over sextet is an error. -/
def ofSextets : List Nat → Option (List UInt8)
  | [] => some []
  | [_] => none
  | [first, second] => some [UInt8.ofNat (first * 4 + second / 16)]
  | [first, second, third] =>
      some [UInt8.ofNat (first * 4 + second / 16), UInt8.ofNat (second % 16 * 16 + third / 4)]
  | first :: second :: third :: fourth :: rest =>
      (ofSextets rest).map fun bytes =>
        UInt8.ofNat (first * 4 + second / 16) :: UInt8.ofNat (second % 16 * 16 + third / 4) ::
          UInt8.ofNat (third % 4 * 64 + fourth) :: bytes

def decode (text : List Char) : Option (List UInt8) :=
  ((text.filter fun char => char ≠ '\r' ∧ char ≠ '\n').mapM value).bind ofSextets

/-! ## The unused bits -/

/-- How many values the unused bits of the last sextet can have. -/
def spares : List UInt8 → Nat
  | [] => 1
  | [_] => 16
  | [_, _] => 4
  | _ :: _ :: _ :: rest => spares rest

/-- The sextets of a byte string, the unused bits as given. -/
def sextetsWith (spare : Nat) : List UInt8 → List Nat
  | [] => []
  | [first] => [first.toNat / 4, first.toNat % 4 * 16 + spare]
  | [first, second] =>
      [first.toNat / 4, first.toNat % 4 * 16 + second.toNat / 16, second.toNat % 16 * 4 + spare]
  | first :: second :: third :: rest =>
      first.toNat / 4 :: (first.toNat % 4 * 16 + second.toNat / 16) ::
        (second.toNat % 16 * 4 + third.toNat / 64) :: third.toNat % 64 :: sextetsWith spare rest

/-- The encoder leaves them zero. -/
theorem sextetsWith_zero (bytes : List UInt8) : sextetsWith 0 bytes = sextets bytes := by
  induction bytes using sextets.induct with
  | case1 => rfl
  | case2 first => rfl
  | case3 first second => rfl
  | case4 first second third rest ih => rw [sextetsWith, sextets, ih]

/-- There is always at least one way to fill them. -/
theorem spares_pos (bytes : List UInt8) : 0 < spares bytes := by
  induction bytes using sextets.induct with
  | case1 => decide
  | case2 first => exact Nat.succ_pos _
  | case3 first second => exact Nat.succ_pos _
  | case4 first second third rest ih => exact ih

/-- Every sextet has six bits. -/
theorem sextetsWith_small {bytes : List UInt8} {spare : Nat} (unused : spare < spares bytes) :
    ∀ sextet ∈ sextetsWith spare bytes, sextet < 64 := by
  induction bytes using sextets.induct with
  | case1 => simp [sextetsWith]
  | case2 first =>
      have bound := first.toNat_lt
      simp only [spares] at unused
      simp only [sextetsWith, List.mem_cons, List.not_mem_nil, or_false]
      omega
  | case3 first second =>
      have firstBound := first.toNat_lt
      have secondBound := second.toNat_lt
      simp only [spares] at unused
      simp only [sextetsWith, List.mem_cons, List.not_mem_nil, or_false]
      omega
  | case4 first second third rest ih =>
      have firstBound := first.toNat_lt
      have secondBound := second.toNat_lt
      have thirdBound := third.toNat_lt
      intro sextet member
      simp only [sextetsWith, List.mem_cons] at member
      rcases member with same | same | same | same | member
      · omega
      · omega
      · omega
      · omega
      · exact ih unused sextet member

theorem sextets_small (bytes : List UInt8) : ∀ sextet ∈ sextets bytes, sextet < 64 := by
  rw [← sextetsWith_zero]
  exact sextetsWith_small (spares_pos bytes)

/-- Decoding ignores the unused bits. -/
theorem ofSextets_sextetsWith {bytes : List UInt8} {spare : Nat} (unused : spare < spares bytes) :
    ofSextets (sextetsWith spare bytes) = some bytes := by
  induction bytes using sextets.induct with
  | case1 => rfl
  | case2 first =>
      have head : (first.toNat / 4 * 4 + (first.toNat % 4 * 16 + spare) / 16) = first.toNat := by
        simp only [spares] at unused
        omega
      simp only [sextetsWith, ofSextets, head, UInt8.ofNat_toNat]
  | case3 first second =>
      have bound := second.toNat_lt
      simp only [spares] at unused
      have head : first.toNat / 4 * 4 + (first.toNat % 4 * 16 + second.toNat / 16) / 16 =
          first.toNat := by omega
      have next : (first.toNat % 4 * 16 + second.toNat / 16) % 16 * 16 +
          (second.toNat % 16 * 4 + spare) / 4 = second.toNat := by omega
      simp only [sextetsWith, ofSextets, head, next, UInt8.ofNat_toNat]
  | case4 first second third rest ih =>
      have secondBound := second.toNat_lt
      have thirdBound := third.toNat_lt
      have head : first.toNat / 4 * 4 + (first.toNat % 4 * 16 + second.toNat / 16) / 16 =
          first.toNat := by omega
      have next : (first.toNat % 4 * 16 + second.toNat / 16) % 16 * 16 +
          (second.toNat % 16 * 4 + third.toNat / 64) / 4 = second.toNat := by omega
      have last : (second.toNat % 16 * 4 + third.toNat / 64) % 4 * 64 + third.toNat % 64 =
          third.toNat := by omega
      simp only [sextetsWith, ofSextets, ih unused, Option.map_some, head, next, last,
        UInt8.ofNat_toNat]

/-- Sextets that decode to bytes are their sextets with some filling. -/
theorem eq_sextetsWith {values : List Nat} {bytes : List UInt8}
    (small : ∀ sextet ∈ values, sextet < 64) (read : ofSextets values = some bytes) :
    ∃ spare < spares bytes, values = sextetsWith spare bytes := by
  induction values using ofSextets.induct generalizing bytes with
  | case1 =>
      cases read
      exact ⟨0, by decide, rfl⟩
  | case2 single => cases read
  | case3 first second =>
      obtain rfl := Option.some.inj read
      simp only [List.forall_mem_cons] at small
      have byte : (UInt8.ofNat (first * 4 + second / 16)).toNat = first * 4 + second / 16 :=
        Nat.mod_eq_of_lt (by omega)
      refine ⟨second % 16, Nat.mod_lt _ (by decide), ?_⟩
      rw [sextetsWith, byte]
      congr 1
      · omega
      · congr 1
        omega
  | case4 first second third =>
      obtain rfl := Option.some.inj read
      simp only [List.forall_mem_cons] at small
      have byte : (UInt8.ofNat (first * 4 + second / 16)).toNat = first * 4 + second / 16 :=
        Nat.mod_eq_of_lt (by omega)
      have next : (UInt8.ofNat (second % 16 * 16 + third / 4)).toNat =
          second % 16 * 16 + third / 4 := Nat.mod_eq_of_lt (by omega)
      refine ⟨third % 4, Nat.mod_lt _ (by decide), ?_⟩
      simp only [sextetsWith, byte, next, List.cons.injEq, and_true]
      omega
  | case5 first second third fourth rest ih =>
      obtain ⟨others, decoded, rfl⟩ := Option.map_eq_some_iff.mp read
      simp only [List.forall_mem_cons] at small
      obtain ⟨spare, unused, rfl⟩ := ih small.2.2.2.2 decoded
      have byte : (UInt8.ofNat (first * 4 + second / 16)).toNat = first * 4 + second / 16 :=
        Nat.mod_eq_of_lt (by omega)
      have next : (UInt8.ofNat (second % 16 * 16 + third / 4)).toNat =
          second % 16 * 16 + third / 4 := Nat.mod_eq_of_lt (by omega)
      have last : (UInt8.ofNat (third % 4 * 64 + fourth)).toNat = third % 4 * 64 + fourth :=
        Nat.mod_eq_of_lt (by omega)
      refine ⟨spare, unused, ?_⟩
      simp only [sextetsWith, byte, next, last, List.cons.injEq, and_true]
      omega

/-- No digit is a line break or a dot. -/
theorem mem_encode {bytes : List UInt8} {char : Char} (member : char ∈ encode bytes) :
    char ≠ '\r' ∧ char ≠ '\n' ∧ char ≠ '.' := by
  obtain ⟨sextet, inside, rfl⟩ := List.mem_map.mp member
  exact digit_plain sextet (sextets_small bytes sextet inside)

/-- Which texts consist of digits. -/
theorem mapM_value_eq_some_iff {text : List Char} {values : List Nat} :
    text.mapM value = some values ↔ (∀ sextet ∈ values, sextet < 64) ∧ text = values.map digit := by
  induction text generalizing values with
  | nil => cases values <;> simp
  | cons char rest ih =>
      rw [List.mapM_cons]
      constructor
      · intro read
        obtain ⟨sextet, first, read⟩ := Option.bind_eq_some_iff.mp read
        obtain ⟨others, later, same⟩ := Option.bind_eq_some_iff.mp read
        obtain rfl := Option.some.inj same
        obtain ⟨small, rfl⟩ := value_eq_some_iff.mp first
        obtain ⟨allSmall, rfl⟩ := ih.mp later
        exact ⟨List.forall_mem_cons.mpr ⟨small, allSmall⟩, rfl⟩
      · rintro ⟨small, same⟩
        cases values with
        | nil => cases same
        | cons sextet others =>
            obtain ⟨rfl, rfl⟩ := List.cons.inj same
            obtain ⟨first, later⟩ := List.forall_mem_cons.mp small
            rw [value_digit sextet first, ih.mpr ⟨later, rfl⟩]
            rfl

/-- `base64.RawURLEncoding` reads exactly these texts as the bytes. -/
def Spelling (bytes : List UInt8) (text : List Char) : Prop :=
  ∃ spare < spares bytes, (text.filter fun char => char ≠ '\r' ∧ char ≠ '\n') =
    (sextetsWith spare bytes).map digit

/-- The decoder accepts exactly the spellings of its result. -/
theorem decode_eq_some_iff {text : List Char} {bytes : List UInt8} :
    decode text = some bytes ↔ Spelling bytes text := by
  rw [decode, Option.bind_eq_some_iff]
  constructor
  · rintro ⟨values, read, reassembled⟩
    obtain ⟨small, same⟩ := mapM_value_eq_some_iff.mp read
    obtain ⟨spare, unused, rfl⟩ := eq_sextetsWith small reassembled
    exact ⟨spare, unused, same⟩
  · rintro ⟨spare, unused, same⟩
    exact ⟨_, mapM_value_eq_some_iff.mpr ⟨sextetsWith_small unused, same⟩,
      ofSextets_sextetsWith unused⟩

/-- The encoding is a spelling. -/
theorem spelling_encode (bytes : List UInt8) : Spelling bytes (encode bytes) := by
  refine ⟨0, spares_pos bytes, ?_⟩
  rw [sextetsWith_zero, List.filter_eq_self.mpr, encode]
  intro char member
  exact decide_eq_true ⟨(mem_encode member).1, (mem_encode member).2.1⟩

/-- So it decodes to the bytes it was made from. -/
theorem decode_encode (bytes : List UInt8) : decode (encode bytes) = some bytes :=
  decode_eq_some_iff.mpr (spelling_encode bytes)

/-- How many spellings there are depends on the length alone. -/
theorem spares_eq (bytes : List UInt8) :
    spares bytes =
      if bytes.length % 3 = 1 then 16 else if bytes.length % 3 = 2 then 4 else 1 := by
  induction bytes using sextets.induct with
  | case1 => rfl
  | case2 first => rfl
  | case3 first second => rfl
  | case4 first second third rest ih =>
      have length : (first :: second :: third :: rest).length % 3 = rest.length % 3 :=
        Nat.add_mod_right rest.length 3
      rw [spares, ih, length]

/-- The unused bits can be told from the last sextet. -/
theorem getLast_sextetsWith {bytes : List UInt8} {spare : Nat} (unused : spare < spares bytes)
    (nonempty : bytes ≠ []) :
    ∃ last, (sextetsWith spare bytes).getLast? = some last ∧ last % spares bytes = spare := by
  induction bytes using sextets.induct with
  | case1 => exact absurd rfl nonempty
  | case2 first =>
      simp only [spares] at unused
      refine ⟨first.toNat % 4 * 16 + spare, rfl, ?_⟩
      simp only [spares]
      omega
  | case3 first second =>
      simp only [spares] at unused
      refine ⟨second.toNat % 16 * 4 + spare, rfl, ?_⟩
      simp only [spares]
      omega
  | case4 first second third rest ih =>
      cases rest with
      | nil =>
          simp only [spares] at unused
          refine ⟨_, rfl, ?_⟩
          simp only [spares]
          omega
      | cons fourth others =>
          obtain ⟨last, found, bits⟩ := ih unused (List.cons_ne_nil _ _)
          refine ⟨last, ?_, bits⟩
          rw [sextetsWith]
          simp only [List.getLast?_cons, found]
          rfl

/-- A spelling without line breaks whose unused bits are zero is the canonical one. -/
theorem Spelling.eq_encode_iff {text : List Char} {bytes : List UInt8}
    (spelling : Spelling bytes text) :
    text = encode bytes ↔ (∀ char ∈ text, char ≠ '\r' ∧ char ≠ '\n') ∧
      ∀ last ∈ text.getLast?, ∀ sextet ∈ value last, sextet % spares bytes = 0 := by
  obtain ⟨spare, unused, same⟩ := spelling
  have canonical : encode bytes = (sextetsWith 0 bytes).map digit := by
    rw [sextetsWith_zero, encode]
  have final {spare : Nat} (unused : spare < spares bytes) (nonempty : bytes ≠ []) :
      ∃ sextet, value (digit sextet) = some sextet ∧ sextet % spares bytes = spare ∧
        ((sextetsWith spare bytes).map digit).getLast? = some (digit sextet) := by
    obtain ⟨last, found, bits⟩ := getLast_sextetsWith unused nonempty
    refine ⟨last, value_digit last ?_, bits, by rw [List.getLast?_map, found, Option.map_some]⟩
    exact sextetsWith_small unused last (List.mem_of_getLast? found)
  constructor
  · rintro rfl
    refine ⟨fun char member => ⟨(mem_encode member).1, (mem_encode member).2.1⟩, ?_⟩
    intro last found sextet read
    by_cases nonempty : bytes = []
    · subst nonempty
      cases found
    · obtain ⟨first, itself, bits, ends⟩ := final (spares_pos bytes) nonempty
      rw [canonical, ends] at found
      obtain rfl := Option.some.inj found
      obtain rfl := Option.some.inj (itself.symm.trans read)
      exact bits
  · rintro ⟨plain, bits⟩
    rw [List.filter_eq_self.mpr fun char member => decide_eq_true (plain char member)] at same
    suffices zero : spare = 0 by rw [same, zero, canonical]
    by_cases nonempty : bytes = []
    · subst nonempty
      exact Nat.lt_one_iff.mp unused
    · obtain ⟨sextet, itself, left, ends⟩ := final unused nonempty
      rw [← same] at ends
      rw [← left]
      exact bits _ ends sextet itself

end Sentinel.Wire.Base64
