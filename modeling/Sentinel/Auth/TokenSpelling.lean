import Sentinel.Auth.Token

/-!
# The spellings of a refresh token

`GenerateTokenPair` spells a session id and a secret in one way, and
`ValidateRefreshToken` accepts every text from which its two parsers read them.
`validateRefreshToken_spelling` says which texts these are and how to tell the
generated one among them.
-/

namespace Sentinel.Auth

open Sentinel.Wire

/-- The token is made of a spelling of the session id, a dot and a spelling of
the secret. -/
def Spells (token : String) (sessionID : Uuid) (secret : Secret) : Prop :=
  ∃ first rest, token.toList = first ++ '.' :: rest ∧ '.' ∉ first ∧ sessionID.Spelling first ∧
    Base64.Spelling secret.bytes rest

/-- The id has its 36 characters and no capital letter, and in the secret there are
no line breaks and the unused bits are zero. -/
def PlainSpelling (token : String) : Prop :=
  ∀ first rest, token.toList = first ++ '.' :: rest → '.' ∉ first →
    (first.length = 36 ∧ ∀ char ∈ first, char.isUpper = false) ∧
    (∀ char ∈ rest, char ≠ '\r' ∧ char ≠ '\n') ∧
    ∀ last ∈ rest.getLast?, ∀ sextet ∈ Base64.value last, sextet % 4 = 0

section

variable {token : String} {sessionID : Uuid} {secret : Secret} {first rest : List Char}

/-- A secret is spelled without a dot. -/
theorem dot_not_mem_secret {bytes : List UInt8} (spelling : Base64.Spelling bytes rest) :
    '.' ∉ rest := by
  intro member
  obtain ⟨spare, unused, same⟩ := spelling
  have kept : '.' ∈ rest.filter fun char => char ≠ '\r' ∧ char ≠ '\n' :=
    List.mem_filter.mpr ⟨member, by decide⟩
  rw [same] at kept
  obtain ⟨sextet, inside, dot⟩ := List.mem_map.mp kept
  exact (Base64.digit_plain sextet (Base64.sextetsWith_small unused sextet inside)).2.2 dot

/-- A text without a dot is its only part. -/
theorem splitOn_eq_single_iff {text part : List Char} :
    text.splitOn '.' = [part] ↔ text = part ∧ '.' ∉ text := by
  constructor
  · intro split
    have plain : '.' ∉ text := by
      intro member
      obtain ⟨first, rest, rfl, before⟩ := List.eq_append_cons_of_mem member
      rw [List.splitOn_append_cons_self_of_not_mem before] at split
      exact List.splitOn_ne_nil _ _ (List.cons.inj split).2
    rw [List.splitOn_eq_singleton plain] at split
    exact ⟨List.singleton_inj.mp split, plain⟩
  · rintro ⟨rfl, plain⟩
    exact List.splitOn_eq_singleton plain

/-- The parts that `strings.Split` finds, when it finds two. -/
theorem splitOn_eq_pair_iff {text : List Char} :
    text.splitOn '.' = [first, rest] ↔ text = first ++ '.' :: rest ∧ '.' ∉ first ∧ '.' ∉ rest := by
  constructor
  · intro split
    have member : '.' ∈ text := by
      by_contra plain
      rw [List.splitOn_eq_singleton plain] at split
      cases split
    obtain ⟨earlier, later, rfl, before⟩ := List.eq_append_cons_of_mem member
    rw [List.splitOn_append_cons_self_of_not_mem before] at split
    obtain ⟨rfl, single⟩ := List.cons.inj split
    obtain ⟨rfl, after⟩ := splitOn_eq_single_iff.mp single
    exact ⟨rfl, before, after⟩
  · rintro ⟨rfl, before, after⟩
    rw [List.splitOn_append_cons_self_of_not_mem before, List.splitOn_eq_singleton after]

/-- The part before a dot and the part after it are determined by the whole. -/
theorem parts_unique {other another : List Char} (before : '.' ∉ first) (alsoBefore : '.' ∉ other)
    (same : first ++ '.' :: rest = other ++ '.' :: another) : first = other ∧ rest = another := by
  have split := congrArg (List.splitOn '.') same
  rw [List.splitOn_append_cons_self_of_not_mem before,
    List.splitOn_append_cons_self_of_not_mem alsoBefore] at split
  obtain ⟨rfl, -⟩ := List.cons.inj split
  exact ⟨rfl, (List.cons.inj (List.append_cancel_left same)).2⟩

/-- A generated token has 36 characters before its dot. -/
theorem length_sessionID (generated : token = refreshTokenText sessionID secret)
    (whole : token.toList = first ++ '.' :: rest) (before : '.' ∉ first) : first.length = 36 := by
  have characters : first ++ '.' :: rest =
      sessionID.string.toList ++ '.' :: Base64.encode secret.bytes := by
    rw [← whole, generated, refreshTokenText, String.toList_ofList]
  rw [(parts_unique before sessionID.dot_not_mem_string characters).1, Uuid.string,
    String.toList_ofList, Uuid.length_hyphenate sessionID.length_digits]

/-- What is accepted is spelled, and what is spelled is accepted. -/
theorem validateRefreshToken_ok_iff :
    validateRefreshToken token = .ok sessionID ↔ ∃ secret, Spells token sessionID secret := by
  constructor
  · intro accepted
    unfold validateRefreshToken at accepted
    split at accepted
    · rename_i first rest parts
      obtain ⟨whole, before, after⟩ := splitOn_eq_pair_iff.mp parts
      split at accepted
      · cases accepted
      rename_i id parsed
      split at accepted
      · cases accepted
      rename_i bytes decoded
      split at accepted
      · rename_i sized
        cases accepted
        exact ⟨⟨bytes, sized⟩, first, rest, whole, before, Uuid.parse_eq_some_iff.mp parsed,
          Base64.decode_eq_some_iff.mp decoded⟩
      · cases accepted
    · cases accepted
  · rintro ⟨secret, first, rest, whole, before, named, kept⟩
    rw [validateRefreshToken, splitOn_eq_pair_iff.mpr ⟨whole, before, dot_not_mem_secret kept⟩]
    simp only [Uuid.parse_eq_some_iff.mpr named, Base64.decode_eq_some_iff.mpr kept,
      secret.length_bytes, if_true]

/-- The generated token is a spelling of its session id and secret. -/
theorem spells_refreshTokenText : Spells (refreshTokenText sessionID secret) sessionID secret := by
  have named : Uuid.parse (.ofList sessionID.string.toList) = some sessionID := by
    rw [String.ofList_toList, Uuid.parse_string]
  exact ⟨sessionID.string.toList, Base64.encode secret.bytes, String.toList_ofList,
    sessionID.dot_not_mem_string, Uuid.parse_eq_some_iff.mp named,
    Base64.decode_eq_some_iff.mp (Base64.decode_encode secret.bytes)⟩

/-- A text spells one session id and one secret. -/
theorem Spells.unique {other : Uuid} {another : Secret} (spells : Spells token sessionID secret)
    (also : Spells token other another) : sessionID = other ∧ secret = another := by
  obtain ⟨first, rest, whole, before, named, kept⟩ := spells
  obtain ⟨first', rest', same, before', named', kept'⟩ := also
  obtain ⟨rfl, rfl⟩ := parts_unique before before' (whole.symm.trans same)
  have id := (Uuid.parse_eq_some_iff.mpr named).symm.trans (Uuid.parse_eq_some_iff.mpr named')
  have bytes :=
    (Base64.decode_eq_some_iff.mpr kept).symm.trans (Base64.decode_eq_some_iff.mpr kept')
  cases secret
  cases another
  obtain rfl := Option.some.inj bytes
  exact ⟨Option.some.inj id, rfl⟩

/-- The generated token is the plain one among its spellings. -/
theorem Spells.eq_refreshTokenText_iff (spells : Spells token sessionID secret) :
    token = refreshTokenText sessionID secret ↔ PlainSpelling token := by
  obtain ⟨first, rest, whole, before, named, kept⟩ := spells
  have generated : token = refreshTokenText sessionID secret ↔
      first = sessionID.string.toList ∧ rest = Base64.encode secret.bytes := by
    rw [← String.toList_inj, whole, refreshTokenText, String.toList_ofList]
    constructor
    · exact parts_unique before sessionID.dot_not_mem_string
    · rintro ⟨rfl, rfl⟩
      rfl
  have plain : PlainSpelling token ↔
      (first.length = 36 ∧ ∀ char ∈ first, char.isUpper = false) ∧
        (∀ char ∈ rest, char ≠ '\r' ∧ char ≠ '\n') ∧
        ∀ last ∈ rest.getLast?, ∀ sextet ∈ Base64.value last, sextet % 4 = 0 := by
    constructor
    · intro every
      exact every first rest whole before
    · rintro holds other another same alsoBefore
      obtain ⟨rfl, rfl⟩ := parts_unique before alsoBefore (whole.symm.trans same)
      exact holds
  have unused : Base64.spares secret.bytes = 4 := by
    rw [Base64.spares_eq, secret.length_bytes]
    rfl
  rw [generated, plain, named.eq_string_iff, kept.eq_encode_iff, unused]

end

/-- `ValidateRefreshToken` accepts the generated token, which is a spelling; it accepts
a text only as a spelling of the token of one session and secret; and of the
spellings the plain one is the generated token. -/
theorem validateRefreshToken_spelling (token : String) (sessionID : Uuid) (secret : Secret) :
    validateRefreshToken (refreshTokenText sessionID secret) = .ok sessionID ∧
      Spells (refreshTokenText sessionID secret) sessionID secret ∧
      (validateRefreshToken token = .ok sessionID ↔ ∃ secret, Spells token sessionID secret) ∧
      (Spells token sessionID secret → ∀ other another, Spells token other another →
        sessionID = other ∧ secret = another) ∧
      (Spells token sessionID secret →
        (token = refreshTokenText sessionID secret ↔ PlainSpelling token)) :=
  ⟨validateRefreshToken_refreshTokenText sessionID secret, spells_refreshTokenText,
    validateRefreshToken_ok_iff,
    fun spells _ _ also => spells.unique also, fun spells => spells.eq_refreshTokenText_iff⟩

/-- The nil id without its hyphens, and a secret of zeros. -/
def bareToken : String :=
  String.ofList (List.replicate 32 '0' ++ '.' :: List.replicate 43 'A')

def nilID : Uuid := Session.zero.id

def zeroSecret : Secret := ⟨List.replicate 32 0, rfl⟩

/-- Without hyphens it still spells the nil id. -/
theorem spells_bareToken : Spells bareToken nilID zeroSecret := by
  refine ⟨List.replicate 32 '0', List.replicate 43 'A', String.toList_ofList, by decide,
    .bare (by decide), 0, by decide, by decide⟩

/-- So it is accepted, though no session has it. -/
theorem validateRefreshToken_bareToken : validateRefreshToken bareToken = .ok nilID ∧
    bareToken ≠ refreshTokenText nilID zeroSecret := by
  obtain ⟨-, -, accepted, -, plain⟩ := validateRefreshToken_spelling bareToken nilID zeroSecret
  refine ⟨accepted.mpr ⟨zeroSecret, spells_bareToken⟩, fun same => ?_⟩
  obtain ⟨⟨sized, -⟩, -⟩ := (plain spells_bareToken).mp same (List.replicate 32 '0')
    (List.replicate 43 'A') String.toList_ofList (by decide)
  exact absurd (sized : (List.replicate 32 '0').length = 36) (by decide)

/-- It is not the token of any session and secret, but accepted. -/
theorem validateRefreshToken_fails :
    ¬ ∀ token sessionID, validateRefreshToken token = .ok sessionID →
      ∃ secret, token = refreshTokenText sessionID secret := by
  intro always
  have accepted := validateRefreshToken_ok_iff.mpr ⟨zeroSecret, spells_bareToken⟩
  obtain ⟨secret, same⟩ := always bareToken nilID accepted
  have sized : (List.replicate 32 '0').length = 36 :=
    length_sessionID same String.toList_ofList (by decide)
  exact absurd sized (by decide)

end Sentinel.Auth
