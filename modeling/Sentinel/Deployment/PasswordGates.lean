import Sentinel.Auth.Onboarding
import Sentinel.Dashboard.PasswordPolicy

/-!
# The three gates of a password

The login page, `ValidatePassword` and bcrypt each have their own idea of a
password. What the page lets through the policy accepts, but the policy also
accepts passwords that are too short for the page when counted in UTF-16, whose
special character is none of the page's, or that bcrypt refuses for their length.
And a letter may have two lower cases, as the Greek sigma does: then the account is
not found under every spelling of its email.
-/

namespace Sentinel.Deployment

open Sentinel.Wire Sentinel.Auth Sentinel.Dashboard

/-- Matched by `[^a-zA-Z0-9]`. -/
def isOther (char : Char) : Bool :=
  !('a' ≤ char ∧ char ≤ 'z' ∨ 'A' ≤ char ∧ char ≤ 'Z' ∨ '0' ≤ char ∧ char ≤ '9')

/-- Twelve bytes, a letter of either case, a digit and another character. -/
structure Strong (password : String) : Prop where
  length : 12 ≤ password.utf8ByteSize
  upper : (policy password).upper
  lower : (policy password).lower
  digit : (policy password).digit
  other : ∃ char ∈ password.toList, isOther char

/-- The service accepts the strong passwords. -/
theorem validatePassword_ok_iff {password : String} :
    validatePassword password = .ok () ↔ Strong password := by
  have classes : validatePassword password =
      if password.utf8ByteSize < 12 then .error .weakPassword
      else if !(policy password).upper || !(policy password).lower || !(policy password).digit ||
        !password.toList.any isOther then .error .weakPassword
      else .ok () := rfl
  rw [classes]
  constructor
  · intro accepted
    split at accepted
    · cases accepted
    rename_i long
    split at accepted
    · cases accepted
    rename_i complete
    simp only [Bool.or_eq_true, Bool.not_eq_true', not_or, Bool.not_eq_false] at complete
    obtain ⟨⟨⟨upper, lower⟩, digit⟩, other⟩ := complete
    exact ⟨Nat.not_lt.mp long, upper, lower, digit, List.any_eq_true.mp other⟩
  · rintro ⟨length, upper, lower, digit, other⟩
    rw [if_neg (Nat.not_lt.mpr length), upper, lower, digit, List.any_eq_true.mpr other]
    rfl

/-- What the form calls special is neither letter nor digit. -/
theorem isOther_of_special : ∀ char ∈ specialCharacters, isOther char :=
  List.forall_iff_forall_mem.mp (by decide : List.Forall _ _)

/-- The page and the policy agree, and what the policy accepts can be registered
and logged in with. -/
structure GatesAgree (library : PasswordLibrary) (service : AuthService) (world : World RedisStore)
    (request : RegisterRequest) (input : RegisterInput) : Prop where
  submits : canSubmit .register request.password ↔ validatePassword request.password = .ok ()
  registers : validatePassword request.password = .ok () → ∃ user after,
    library.registrar.registerUser request input world = (.ok user, after) ∧
      ∀ (login : LoginRequest) (loginInput : LoginInput),
        library.IsVariant request.email login.email → login.password = request.password →
          loginInput.storedAt < loginInput.now + service.refreshTTL →
            ∃ pair next, service.login sessionRedis login loginInput after = (.ok pair, next)

/-- An open account, whatever the time, with this password. -/
def OpensAccount (service : AuthService) (users : Users) (email password : String) : Prop :=
  ∃ user, users.getByEmail email = some user ∧ (∀ now, user.isLocked now = false) ∧
    user.isActive = true ∧ service.compareHashAndPassword user.passwordHash password = true

/-- A strong password is long enough in UTF-16 and has a special character of the
page's, bcrypt and the database take password and email, and each spelling of the
email is normalized like it or opens another account. -/
structure GatesCoincide (library : PasswordLibrary) (service : AuthService) (users : Users)
    (password email : String) : Prop where
  units : 12 ≤ utf16Length password
  special : (policy password).special
  hashable : password.utf8ByteSize ≤ 72
  plain : Char.ofNat 0 ∉ (library.normalized email).toList
  spellings : ∀ variant, library.IsVariant email variant →
    library.normalized variant = library.normalized email ∨
      OpensAccount service users (library.normalized variant) password

/-- The form asks for a length in UTF-16 and one of its own special characters. -/
theorem canSubmit_iff {password : String} :
    canSubmit .register password ↔
      Strong password ∧ 12 ≤ utf16Length password ∧ (policy password).special := by
  have met : canSubmit .register password ↔ policyMet password = 5 := by simp [canSubmit]
  rw [met, policyMet_eq_five_iff]
  constructor
  · rintro ⟨length, upper, lower, digit, special⟩
    have units : 12 ≤ utf16Length password := of_decide_eq_true length
    obtain ⟨char, member, listed⟩ := List.any_eq_true.mp special
    refine ⟨⟨units.trans (utf16Length_le password), upper, lower, digit, char, member, ?_⟩,
      units, special⟩
    exact isOther_of_special char (of_decide_eq_true listed)
  · rintro ⟨strong, units, special⟩
    exact ⟨decide_eq_true units, strong.upper, strong.lower, strong.digit, special⟩

/-- A new row hides no older one. -/
theorem getByEmail_append {users : Users} {email : String} {user : User} (row : User)
    (found : users.getByEmail email = some user) : (users ++ [row]).getByEmail email = some user := by
  rw [Users.getByEmail] at found ⊢
  rw [List.find?_append, found]
  rfl

/-- Whatever the clock, there is an input with which the session is stored in time. -/
theorem exists_prompt (now refreshTTL : Time) :
    ∃ input : LoginInput, input.now = now ∧ input.storedAt < input.now + refreshTTL :=
  ⟨⟨now, now + refreshTTL - 1, Installed.uuid 0, Installed.uuid 0, Installed.secret 0,
    Installed.uuid 0⟩, rfl, Int.sub_one_lt_of_le (Int.le_refl _)⟩

/-- A spelling under which the registered password logs in is the account's own, or
another account's. -/
theorem spelling_of_logins {library : PasswordLibrary} {tokens : JWTTokenService}
    {sum256 : String → Digest} {refreshTTL : Time} {world after : World RedisStore}
    {request : RegisterRequest} {variant email hash fullName : String} {role : Role} {id : Uuid}
    {created : Time}
    (users : after.users = world.users ++ [registeredRow email hash fullName role id created])
    (logins : ∀ (login : LoginRequest) (loginInput : LoginInput), login.email = variant →
      login.password = request.password → loginInput.storedAt < loginInput.now + refreshTTL →
        ∃ pair next, (library.service tokens sum256 refreshTTL).login sessionRedis login loginInput
          after = (.ok pair, next)) :
    library.normalized variant = email ∨
      OpensAccount (library.service tokens sum256 refreshTTL) world.users
        (library.normalized variant) request.password := by
  have opens : ∀ now, ∃ user, after.users.getByEmail (library.normalized variant) = some user ∧
      user.isLocked now = false ∧ user.isActive = true ∧
      library.compareHashAndPassword user.passwordHash request.password = true := by
    intro now
    obtain ⟨input, rfl, prompt⟩ := exists_prompt now refreshTTL
    obtain ⟨pair, next, loggedIn⟩ :=
      logins ⟨variant, request.password, "", "", .null⟩ input rfl rfl prompt
    obtain ⟨user, found, unlocked, active, matched⟩ := AuthService.open_of_login loggedIn
    exact ⟨user, found, unlocked, active, matched⟩
  obtain ⟨user, found, -, active, matched⟩ := opens 0
  have unlocked : ∀ now, user.isLocked now = false := by
    intro now
    obtain ⟨other, same, free, -⟩ := opens now
    obtain rfl := Option.some.inj (found.symm.trans same)
    exact free
  rw [users, Users.getByEmail, List.find?_append] at found
  rcases Option.or_eq_some_iff.mp found with known | ⟨-, new⟩
  · exact .inr ⟨user, known, unlocked, active, matched⟩
  · have own := List.find?_some new
    obtain rfl := List.mem_singleton.mp (List.mem_of_find?_eq_some new)
    exact .inl (of_decide_eq_true own).symm

/-- The gates agree on a registration with nothing to be refused for but its password
exactly if they coincide on it whenever it is strong. -/
theorem gatesAgree_iff (library : PasswordLibrary) (tokens : JWTTokenService)
    (sum256 : String → Digest) (refreshTTL : Time) (world : World RedisStore)
    (request : RegisterRequest) (input : RegisterInput)
    (registrable : Registrable library world.users request input.id) :
    GatesAgree library (library.service tokens sum256 refreshTTL) world request input ↔
      (Strong request.password →
        GatesCoincide library (library.service tokens sum256 refreshTTL) world.users
          request.password request.email) := by
  constructor
  · rintro ⟨submits, registers⟩ strong
    have valid := validatePassword_ok_iff.mpr strong
    obtain ⟨-, units, special⟩ := canSubmit_iff.mp (submits.mpr valid)
    obtain ⟨user, after, registered, logins⟩ := registers valid
    obtain ⟨hashable, plain⟩ := hashable_of_registerUser registered
    obtain ⟨_, hash, fullName, role, events, same, -⟩ :=
      registerUser_ok registrable valid hashable plain
    rw [registered] at same
    obtain ⟨-, rfl⟩ := Prod.mk.inj same
    refine ⟨units, special, hashable, plain, fun variant isVariant => ?_⟩
    exact spelling_of_logins rfl fun login loginInput named =>
      logins login loginInput (named ▸ isVariant)
  · intro coincide
    constructor
    · rw [canSubmit_iff, validatePassword_ok_iff]
      exact ⟨fun submitted => submitted.1, fun strong =>
        ⟨strong, (coincide strong).units, (coincide strong).special⟩⟩
    · intro valid
      obtain ⟨-, -, hashable, plain, spellings⟩ := coincide (validatePassword_ok_iff.mp valid)
      obtain ⟨user, hash, fullName, role, events, registered, matched⟩ :=
        registerUser_ok registrable valid hashable plain
      refine ⟨user, _, registered, fun login loginInput variant same prompt => ?_⟩
      rcases spellings login.email variant with own | ⟨other, found, unlocked, active, opens⟩
      · refine login_registered registrable.untaken own ?_ prompt
        rw [same]
        exact matched
      · obtain ⟨next, created⟩ := sessionRedis_create
          ((library.service tokens sum256 refreshTTL).newSession other
            (tokens.generateTokenPair other loginInput.sessionID loginInput.now loginInput.secret)
            login loginInput) world.sessions prompt
        exact login_of_matched (getByEmail_append _ found) (unlocked _) active (same ▸ opens) created

/-- The library functions on ASCII text and the passwords below. -/
def asciiLibrary : PasswordLibrary where
  lower := Char.toLower
  upper := Char.toUpper
  generateFromPassword password _ _ :=
    if password.utf8ByteSize ≤ 72 then some (String.ofList (List.replicate 60 'h')) else none
  compareHashAndPassword hash _ := hash = String.ofList (List.replicate 60 'h')
  isSpace_lower char := by
    by_cases upper : char.isUpper = true
    · have ascii : char.toNat < 128 :=
        Nat.lt_of_le_of_lt (of_decide_eq_true upper).2 (by decide)
      exact forall_ascii (fun char => isSpace char.toLower = isSpace char) (by decide) ascii
    · rw [Uuid.toLower_of_not_isUpper (Bool.eq_false_iff.mpr upper)]
  generate_isSome password _ := by
    by_cases short : password.utf8ByteSize ≤ 72 <;> simp [short]
  length_hash hashed := by
    obtain ⟨-, same⟩ := Option.ite_none_right_eq_some.mp hashed
    rw [← Option.some.inj same]
    decide
  hash_plain hashed := by
    obtain ⟨-, same⟩ := Option.ite_none_right_eq_some.mp hashed
    rw [← Option.some.inj same]
    decide
  compare_hash hashed := by
    obtain ⟨-, same⟩ := Option.ite_none_right_eq_some.mp hashed
    exact decide_eq_true (Option.some.inj same).symm

/-- A letter of ASCII has one lower case. -/
theorem toLower_caseVariant {char other : Char} (variant : asciiLibrary.CaseVariant char other) :
    other.toLower = char.toLower := by
  have upper : ∀ char : Char, char.toUpper.toLower = char.toLower := by
    intro char
    by_cases lower : 'a'.val ≤ char.val ∧ char.val ≤ 'z'.val
    · have ascii : char.toNat < 128 := Nat.lt_of_le_of_lt lower.2 (by decide)
      exact forall_ascii (fun char => char.toUpper.toLower = char.toLower) (by decide) ascii
    · have same : char.toUpper = char := dif_neg lower
      rw [same]
  have lower : ∀ char : Char, char.toLower.toLower = char.toLower := by
    intro char
    by_cases upper : char.isUpper = true
    · have ascii : char.toNat < 128 :=
        Nat.lt_of_le_of_lt (of_decide_eq_true upper).2 (by decide)
      exact forall_ascii (fun char => char.toLower.toLower = char.toLower) (by decide) ascii
    · rw [Uuid.toLower_of_not_isUpper (Bool.eq_false_iff.mpr upper)]
      exact Uuid.toLower_of_not_isUpper (Bool.eq_false_iff.mpr upper)
  rcases variant with rfl | rfl | rfl | rfl | rfl
  · rfl
  · exact upper char
  · exact lower char
  · exact (upper other).symm
  · exact (lower other).symm

def asciiService : AuthService :=
  asciiLibrary.service Installed.service.tokens Installed.lastCharacters (604800 * second)

def emptyWorld : World RedisStore := ⟨[], .empty, []⟩

def registration (password : String) : RegisterRequest :=
  ⟨"Ada@example.com", password, "Ada", "203.0.113.7"⟩

def registerInput : RegisterInput := ⟨[], Installed.uuid 1, 0, Installed.uuid 5, 0⟩

/-- Apart from its password the registration is in order. -/
theorem registrable_registration (password : String) :
    Registrable asciiLibrary [] (registration password) (Installed.uuid 1) where
  addressed := (by decide : '@' ∈ (asciiLibrary.normalized "Ada@example.com").toList)
  short := (by decide : (asciiLibrary.normalized "Ada@example.com").utf8ByteSize ≤ 255)
  untaken := by simp
  fresh := by simp
  named := ⟨"Ada", fitVarchar_of_plain (by decide : Char.ofNat 0 ∉ "Ada".toList)
    (by decide : "Ada".length ≤ 255)⟩

/-- An ordinary password passes all of them. -/
theorem gatesAgree_ordinary :
    GatesAgree asciiLibrary asciiService emptyWorld (registration "Correct-Horse-9")
      registerInput := by
  refine (gatesAgree_iff asciiLibrary Installed.service.tokens Installed.lastCharacters
    (604800 * second) emptyWorld (registration "Correct-Horse-9") registerInput
    (registrable_registration "Correct-Horse-9")).mpr ?_
  rintro -
  refine ⟨by decide, by decide, by decide, by decide, fun variant isVariant => .inl ?_⟩
  exact PasswordLibrary.normalized_variant isVariant fun _ _ _ => toLower_caseVariant

/-- A passphrase whose only special characters are blanks. -/
theorem gatesAgree_fails :
    ¬ ∀ (library : PasswordLibrary) (tokens : JWTTokenService) (sum256 : String → Digest)
      (refreshTTL : Time) (world : World RedisStore) (request : RegisterRequest)
      (input : RegisterInput), Registrable library world.users request input.id →
        GatesAgree library (library.service tokens sum256 refreshTTL) world request input := by
  intro always
  obtain ⟨submits, -⟩ := always asciiLibrary Installed.service.tokens Installed.lastCharacters
    (604800 * second) emptyWorld (registration "Correct Horse 9") registerInput
    (registrable_registration "Correct Horse 9")
  exact absurd (submits.mpr (by decide)) (by decide)

end Sentinel.Deployment
