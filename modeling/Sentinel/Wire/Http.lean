import Mathlib.Algebra.GroupWithZero.Nat
import Mathlib.Data.List.DropRight
import Mathlib.Logic.Function.Basic
import Sentinel.Wire.IpAddress
import Sentinel.Wire.Json

/-!
# Requests and headers in Go's package `net/http`

A `Header` maps canonical names to values, the empty list standing for an
absent name. The text functions are those of `strings` that the handlers apply
to header values.
-/

namespace Sentinel.Wire

/-- A text has the bytes of its characters. -/
theorem utf8ByteSize_ofList (text : List Char) :
    (String.ofList text).utf8ByteSize = (text.map Char.utf8Size).sum := by
  induction text with
  | nil => rfl
  | cons char rest ih =>
      rw [← List.singleton_append, String.ofList_append, String.utf8ByteSize_append, ih,
        ← String.singleton_eq_ofList, String.utf8ByteSize_singleton]
      rfl

/-- It has at least as many bytes as characters. -/
theorem length_le_utf8ByteSize (text : String) : text.length ≤ text.utf8ByteSize := by
  rw [← String.ofList_toList (s := text), utf8ByteSize_ofList, String.length_ofList]
  generalize text.toList = chars
  induction chars with
  | nil => exact Nat.le_refl 0
  | cons char rest ih =>
      rw [List.map_cons, List.sum_cons, List.length_cons, Nat.add_comm]
      exact Nat.add_le_add char.utf8Size_pos ih

/-- `unicode.IsSpace` -/
def isSpace (char : Char) : Bool := isAsciiSpace char || isWideSpace char

/-- The text without the characters of one kind at both of its ends. -/
def trimBoth (removed : Char → Bool) (text : List Char) : List Char :=
  ((text.dropWhile removed).reverse.dropWhile removed).reverse

/-- `strings.TrimSpace` -/
def trimSpace (text : String) : String := String.ofList (trimBoth isSpace text.toList)

/-- `strings.Fields` -/
def fields (text : String) : List String :=
  ((text.toList.splitOnP isSpace).filter (· ≠ [])).map String.ofList

/-- A text that `strings.Fields` leaves in one piece. -/
def IsWord (text : String) : Prop :=
  text ≠ "" ∧ ∀ char ∈ text.toList, isSpace char = false

/-- Two words with a blank between them are split in two. -/
theorem fields_pair {first second : String} (left : IsWord first) (right : IsWord second) :
    fields (first ++ " " ++ second) = [first, second] := by
  have characters : (first ++ " " ++ second).toList = first.toList ++ ' ' :: second.toList := by
    simp
  have parts : (first.toList ++ ' ' :: second.toList).splitOnP isSpace =
      [first.toList, second.toList] := by
    rw [List.splitOnP_append_cons_of_forall_mem left.2 ' ' (by decide),
      List.splitOnP_eq_singleton right.2]
  have nonempty : ∀ {text : String}, IsWord text → text.toList ≠ [] := by
    intro text word empty
    exact word.1 (String.toList_injective empty)
  rw [fields, characters, parts]
  simp [nonempty left, nonempty right]

/-- `strings.Split` at commas. -/
def splitComma (text : String) : List String := (text.toList.splitOn ',').map String.ofList

/-- `strings.Split(text, ",")[0]` -/
def firstEntry (text : String) : String := String.ofList (text.toList.takeWhile (· ≠ ','))

/-- Where there is nothing to trim, nothing is trimmed. -/
theorem trimBoth_of_plain {removed : Char → Bool} {text : List Char}
    (plain : ∀ char ∈ text, removed char = false) : trimBoth removed text = text := by
  have kept : ∀ rest : List Char, (∀ char ∈ rest, removed char = false) →
      rest.dropWhile removed = rest := by
    intro rest plain
    cases rest with
    | nil => rfl
    | cons first rest => simp [plain first List.mem_cons_self]
  rw [trimBoth, kept text plain,
    kept text.reverse fun char member => plain char (List.mem_reverse.mp member),
    List.reverse_reverse]

/-- So a text without blanks is kept. -/
theorem trimSpace_of_plain {text : List Char} (plain : ∀ char ∈ text, isSpace char = false) :
    trimSpace (String.ofList text) = String.ofList text := by
  rw [trimSpace, String.toList_ofList, trimBoth_of_plain plain]

section

variable {removed : Char → Bool} {text : List Char}

/-- Trimming again changes nothing. -/
theorem trimBoth_trimBoth (removed : Char → Bool) (text : List Char) :
    trimBoth removed (trimBoth removed text) = trimBoth removed text := by
  have start : (trimBoth removed text).dropWhile removed = trimBoth removed text := by
    rw [List.dropWhile_eq_self_iff]
    intro nonempty
    have front : trimBoth removed text <+: text.dropWhile removed := List.rdropWhile_prefix ..
    rw [front.getElem nonempty]
    exact List.dropWhile_eq_self_iff.mp (List.dropWhile_idempotent removed text) _
  have ends : ((trimBoth removed text).reverse).dropWhile removed =
      (trimBoth removed text).reverse := by
    rw [trimBoth, List.reverse_reverse, List.dropWhile_idempotent]
  rw [trimBoth, start, ends, List.reverse_reverse]

/-- Characters of the removed kind around a text make no difference. -/
theorem trimBoth_padded {left right : List Char} (before : ∀ char ∈ left, removed char)
    (after : ∀ char ∈ right, removed char) (text : List Char) :
    trimBoth removed (left ++ text ++ right) = trimBoth removed text := by
  have alsoAfter : ∀ char ∈ right.reverse, removed char := fun char member =>
    after char (List.mem_reverse.mp member)
  rw [trimBoth, trimBoth, List.append_assoc, List.dropWhile_append_of_pos before,
    List.dropWhile_append]
  split
  · rename_i nothing
    rw [List.isEmpty_iff.mp nothing, List.dropWhile_eq_nil_iff.mpr after]
  · rw [List.reverse_append, List.dropWhile_append_of_pos alsoAfter]

/-- What trimming takes away stands around what it leaves. -/
theorem exists_padding (removed : Char → Bool) (text : List Char) :
    ∃ left right, text = left ++ trimBoth removed text ++ right ∧
      (∀ char ∈ left, removed char) ∧ ∀ char ∈ right, removed char := by
  refine ⟨text.takeWhile removed, ((text.dropWhile removed).reverse.takeWhile removed).reverse,
    ?_, fun char => List.mem_takeWhile_imp, ?_⟩
  · rw [List.append_assoc, trimBoth, ← List.reverse_append, List.takeWhile_append_dropWhile,
      List.reverse_reverse, List.takeWhile_append_dropWhile]
  · intro char member
    exact List.mem_takeWhile_imp (List.mem_reverse.mp member)

/-- What is trimmed once of fewer characters is trimmed as before of more. -/
theorem trimBoth_of_imp {inner outer : Char → Bool} (fewer : ∀ char, inner char → outer char)
    (text : List Char) : trimBoth outer (trimBoth inner text) = trimBoth outer text := by
  obtain ⟨left, right, whole, before, after⟩ := exists_padding inner text
  conv_rhs => rw [whole]
  exact (trimBoth_padded (fun char member => fewer char (before char member))
    (fun char member => fewer char (after char member)) _).symm

/-- The same for a first part that ends at a character of another kind. -/
theorem trimBoth_takeWhile {inner outer kept : Char → Bool}
    (fewer : ∀ char, inner char → outer char ∧ kept char) (text : List Char) :
    trimBoth outer ((trimBoth inner text).takeWhile kept) =
      trimBoth outer (text.takeWhile kept) := by
  obtain ⟨left, right, whole, before, after⟩ := exists_padding inner text
  have keepsLeft : ∀ char ∈ left, kept char := fun char member => (fewer char (before char member)).2
  have keepsRight : ∀ char ∈ right, kept char :=
    fun char member => (fewer char (after char member)).2
  have blankLeft : ∀ char ∈ left, outer char := fun char member => (fewer char (before char member)).1
  have blankRight : ∀ char ∈ right, outer char :=
    fun char member => (fewer char (after char member)).1
  conv_rhs => rw [whole]
  rw [List.append_assoc, List.takeWhile_append_of_pos keepsLeft, List.takeWhile_append]
  split
  · rename_i all
    have same : trimBoth inner text = (trimBoth inner text).takeWhile kept :=
      ((List.takeWhile_prefix kept).eq_of_length all).symm
    rw [← same, List.takeWhile_eq_self_iff.mpr keepsRight, ← List.append_assoc,
      trimBoth_padded blankLeft blankRight]
  · have padded := @trimBoth_padded _ _ [] blankLeft (by simp)
      ((trimBoth inner text).takeWhile kept)
    rw [List.append_nil] at padded
    exact padded.symm

/-- Nothing is left of a text of blanks. -/
theorem forall_of_trimBoth_nil (blank : trimBoth removed text = []) : ∀ char ∈ text, removed char := by
  obtain ⟨left, right, whole, before, after⟩ := exists_padding removed text
  rw [blank, List.append_nil] at whole
  intro char member
  rw [whole] at member
  exact (List.mem_append.mp member).elim (before char) (after char)

/-- Trimming commutes with a change of characters that keeps their kind. -/
theorem trimBoth_map {change : Char → Char} (keeps : ∀ char, removed (change char) = removed char)
    (text : List Char) : trimBoth removed (text.map change) = (trimBoth removed text).map change := by
  have same : removed ∘ change = removed := funext keeps
  rw [trimBoth, trimBoth, List.dropWhile_map, same, ← List.map_reverse, List.dropWhile_map, same,
    List.map_reverse]

end

/-- No address begins with a blank. -/
theorem not_isSpace_of_startsAddress {char : Char} (starts : startsAddress char = true) :
    isSpace char = false := by
  simp only [startsAddress, Bool.or_eq_true, decide_eq_true_eq] at starts
  rcases starts with rfl | digit
  · decide
  · obtain ⟨value, read⟩ := Option.isSome_iff_exists.mp digit
    exact forall_ascii (fun char => (hexValue char).isSome → isSpace char = false)
      (by decide +kernel) (hexValue_ascii read) digit

/-- A blank text is no address. -/
theorem parseIP_blank {text : String} (blank : trimSpace text = "") :
    parseIP text.toList = none := by
  refine Option.eq_none_iff_forall_ne_some.mpr fun address parsed => ?_
  obtain ⟨first, rest, shape, starts⟩ := head_of_parseIP parsed
  have nothing : trimBoth isSpace text.toList = [] := String.ofList_injective blank
  have space := forall_of_trimBoth_nil nothing first (shape ▸ List.mem_cons_self)
  rw [not_isSpace_of_startsAddress starts] at space
  cases space

/-- A list without commas is its own first entry. -/
theorem firstEntry_of_plain {text : List Char} (plain : ',' ∉ text) :
    firstEntry (String.ofList text) = String.ofList text := by
  rw [firstEntry, String.toList_ofList, List.takeWhile_eq_self_iff.mpr]
  intro char member
  exact decide_eq_true fun equal => plain (equal ▸ member)

/-- More entries after the first do not change it. -/
theorem firstEntry_intercalate (first : String) {rest : List String} (more : rest ≠ []) :
    firstEntry (", ".intercalate (first :: rest)) = firstEntry first := by
  have stops : ∀ head tail : List Char,
      (head ++ ',' :: tail).takeWhile (· ≠ ',') = head.takeWhile (· ≠ ',') := by
    intro head tail
    induction head with
    | nil => rfl
    | cons char head ih =>
        simp only [List.cons_append, List.takeWhile_cons]
        rw [ih]
  rw [firstEntry, String.intercalate_cons_of_ne_nil more, String.toList_append,
    String.toList_append, List.append_assoc]
  exact congrArg String.ofList (stops first.toList _)

/-- `strings.EqualFold` with an ASCII text. -/
def equalFold (text ascii : String) : Bool := foldName text = foldName ascii

def isTokenChar (char : Char) : Bool :=
  char.isAlphanum || char ∈ "!#$%&'*+-.^_`|~".toList

def canonicalize : Bool → List Char → List Char
  | _, [] => []
  | upper, char :: rest =>
      (if upper then char.toUpper else char.toLower) :: canonicalize (char = '-') rest

/-- `http.CanonicalHeaderKey`; a text that is no token stays as it is. -/
def canonicalHeaderKey (name : String) : String :=
  if name.toList.all isTokenChar then String.ofList (canonicalize true name.toList) else name

/-- `http.Header` -/
abbrev Header := String → List String

namespace Header

def get (header : Header) (name : String) : String :=
  (header (canonicalHeaderKey name)).headD ""

def set (header : Header) (name value : String) : Header :=
  Function.update header (canonicalHeaderKey name) [value]

def del (header : Header) (name : String) : Header :=
  Function.update header (canonicalHeaderKey name) []

/-- Delete several names. -/
def delAll (header : Header) (names : List String) : Header :=
  names.foldl del header

/-- All values under a name, which need not be canonical. -/
def values (header : Header) (name : String) : List String := header (canonicalHeaderKey name)

variable {header : Header} {name other value : String}

@[simp] theorem values_set_self : (header.set name value).values name = [value] :=
  Function.update_self ..

/-- Setting one name leaves the others alone. -/
theorem values_set_of_ne (distinct : canonicalHeaderKey other ≠ canonicalHeaderKey name) :
    (header.set name value).values other = header.values other :=
  Function.update_of_ne distinct ..

@[simp] theorem values_del_self : (header.del name).values name = [] :=
  Function.update_self ..

/-- Deleting one name leaves the others alone. -/
theorem values_del_of_ne (distinct : canonicalHeaderKey other ≠ canonicalHeaderKey name) :
    (header.del name).values other = header.values other :=
  Function.update_of_ne distinct ..

/-- The first value of a header, or the empty text. -/
theorem get_eq (header : Header) (name : String) :
    header.get name = (header.values name).headD "" := rfl

/-- Deleting several names. -/
theorem values_delAll (header : Header) (names : List String) (name : String) :
    (header.delAll names).values name =
      if canonicalHeaderKey name ∈ names.map canonicalHeaderKey then [] else header.values name := by
  induction names generalizing header with
  | nil => rfl
  | cons first rest ih =>
      simp only [delAll, List.foldl_cons] at ih ⊢
      rw [ih]
      by_cases same : canonicalHeaderKey name = canonicalHeaderKey first
      · have absent : (header.del first).values name = [] := by
          rw [values, same]
          exact values_del_self
        simp [same, absent]
      · simp [same, values_del_of_ne same]

end Header

/-- What the services read of `http.Request`: `query` is `URL.Query()`. -/
structure Request where
  path : String := "/"
  query : String → List String := fun _ => []
  header : Header := fun _ => []
  remoteAddr : String := ""

/-- What `http.Error` answers. -/
structure HTTPError where
  status : Nat
  message : String
deriving DecidableEq, Repr

/-- The address of a TCP connection's other end. -/
structure Peer where
  host : List Char
  port : List Char
  host_ne_nil : host ≠ []
  host_plain : ∀ char ∈ host, char ≠ '[' ∧ char ≠ ']' ∧ char ≠ ',' ∧ isSpace char = false
  port_plain : ∀ char ∈ port, char ≠ ':' ∧ char ≠ '[' ∧ char ≠ ']'

namespace Peer

/-- The `RemoteAddr` that the server gives a request. -/
def remoteAddr (peer : Peer) : String := String.ofList (joinHostPort peer.host peer.port)

/-- The peer's address is split into its host and port. -/
theorem splitHostPort_remoteAddr (peer : Peer) :
    splitHostPort peer.remoteAddr.toList = some (peer.host, peer.port) := by
  rw [remoteAddr, String.toList_ofList]
  refine splitHostPort_joinHostPort ⟨fun member => ?_, fun member => ?_⟩
    ⟨fun member => ?_, fun member => ?_, fun member => ?_⟩
  · exact (peer.host_plain _ member).1 rfl
  · exact (peer.host_plain _ member).2.1 rfl
  · exact (peer.port_plain _ member).1 rfl
  · exact (peer.port_plain _ member).2.1 rfl
  · exact (peer.port_plain _ member).2.2 rfl

end Peer

/-- The request as the server that `peer` connects to sees it. -/
def Request.arriving (request : Request) (peer : Peer) : Request :=
  { request with remoteAddr := peer.remoteAddr }

example : canonicalHeaderKey "x-uSER-id" = "X-User-Id" := by decide
example : canonicalHeaderKey "X-User-ID" ≠ canonicalHeaderKey "X-User-Role" := by decide
example : trimSpace " a b " = "a b" := by decide

end Sentinel.Wire
