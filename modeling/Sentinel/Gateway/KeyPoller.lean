import Sentinel.Gateway.VerifyJWT

/-!
# The gateway's copy of the public key

`ParsePEMPublicKey`, `RefreshKey` and the loop of `KeyPoller.Start`. A pass that
fetches no key leaves the middleware's key in place.
-/

namespace Sentinel.Gateway

/-- A key in PKIX form. -/
inductive PKIXKey (PublicKey : Type) where
  | rsa (key : PublicKey)
  | other

/-- Go's packages `encoding/pem` and `crypto/x509`. -/
structure KeyFormat (PublicKey : Type) where
  encodePEM : List UInt8 → List UInt8
  decodePEM : List UInt8 → Option (List UInt8)
  marshalPKIX : PublicKey → List UInt8
  parsePKIX : List UInt8 → Except String (PKIXKey PublicKey)
  decodePEM_encodePEM : ∀ bytes, decodePEM (encodePEM bytes) = some bytes
  parsePKIX_marshalPKIX : ∀ key, parsePKIX (marshalPKIX key) = .ok (.rsa key)

structure HTTPResponse where
  status : Nat
  /-- What reading the body to its end yields. -/
  body : Except String (List UInt8)

variable {PublicKey : Type} (format : KeyFormat PublicKey)

/-- `GetPublicKeyPEM` of the auth service. -/
def getPublicKeyPEM (key : PublicKey) : List UInt8 :=
  format.encodePEM (format.marshalPKIX key)

def parsePEMPublicKey (pemBytes : List UInt8) : Except String PublicKey :=
  match format.decodePEM pemBytes with
  | none => .error "failed to decode PEM block"
  | some block =>
      match format.parsePKIX block with
      | .error error => .error error
      | .ok .other => .error "not an RSA public key"
      | .ok (.rsa key) => .ok key

/-- `RefreshKey`, which ignores a nil key. -/
def AuthMiddleware.refreshKey (middleware : AuthMiddleware PublicKey) (pubKey : Option PublicKey) :
    AuthMiddleware PublicKey :=
  match pubKey with
  | some key => { middleware with publicKey := some key }
  | none => middleware

structure KeyPoller (PublicKey : Type) where
  current : Option PublicKey
  /-- The last error, empty when there is none. -/
  lastErr : String

namespace KeyPoller

/-- `NewKeyPoller` -/
def new : KeyPoller PublicKey := ⟨none, ""⟩

/-- One pass of the loop of `Start` with the outcome of its `client.Get`. -/
def handle [DecidableEq PublicKey] (poller : KeyPoller PublicKey)
    (middleware : AuthMiddleware PublicKey) (outcome : Except String HTTPResponse) :
    KeyPoller PublicKey × AuthMiddleware PublicKey :=
  match outcome with
  | .error error => ({ poller with lastErr := error }, middleware)
  | .ok response =>
      if response.status ≠ 200 then
        ({ poller with lastErr := "status " ++ toString response.status }, middleware)
      else match response.body with
        | .error error => ({ poller with lastErr := error }, middleware)
        | .ok pemBytes =>
            match parsePEMPublicKey format pemBytes with
            | .error error => ({ poller with lastErr := error }, middleware)
            | .ok pub =>
                let sameKey := poller.current = some pub
                (⟨some pub, ""⟩, if sameKey then middleware else middleware.refreshKey (some pub))

end KeyPoller

/-- The key that a pass fetches: none when the request fails, the status is not
200 or the body does not parse. -/
def fetchedKey (outcome : Except String HTTPResponse) : Option PublicKey :=
  match outcome with
  | .error _ => none
  | .ok response =>
      if response.status ≠ 200 then none
      else response.body.toOption.bind fun pemBytes => (parsePEMPublicKey format pemBytes).toOption

variable {format} {poller : KeyPoller PublicKey} {middleware : AuthMiddleware PublicKey}
  {outcome : Except String HTTPResponse}

/-- A key that is served is parsed back. -/
theorem parsePEMPublicKey_getPublicKeyPEM (key : PublicKey) :
    parsePEMPublicKey format (getPublicKeyPEM format key) = .ok key := by
  simp only [parsePEMPublicKey, getPublicKeyPEM, format.decodePEM_encodePEM,
    format.parsePKIX_marshalPKIX]

/-- So the gateway fetches the key that is served. -/
theorem fetchedKey_served (key : PublicKey) :
    fetchedKey format (.ok ⟨200, .ok (getPublicKeyPEM format key)⟩) = some key := by
  simp [fetchedKey, parsePEMPublicKey_getPublicKeyPEM, Except.toOption]

namespace KeyPoller

variable [DecidableEq PublicKey]

/-- A failing pass keeps both copies of the key. -/
theorem handle_of_none (failed : fetchedKey format outcome = none) :
    (poller.handle format middleware outcome).1.current = poller.current ∧
      (poller.handle format middleware outcome).2 = middleware := by
  unfold handle
  split
  · exact ⟨rfl, rfl⟩
  · rename_i response
    split
    · exact ⟨rfl, rfl⟩
    · rename_i answered
      split
      · exact ⟨rfl, rfl⟩
      · rename_i pemBytes read
        split
        · exact ⟨rfl, rfl⟩
        · rename_i pub parsed
          simp [fetchedKey, answered, read, parsed, Except.toOption] at failed

/-- What a pass that fetches a key leaves behind. -/
theorem handle_of_some {key : PublicKey} (fetched : fetchedKey format outcome = some key) :
    poller.handle format middleware outcome =
      (⟨some key, ""⟩,
        if poller.current = some key then middleware else middleware.refreshKey (some key)) := by
  cases outcome with
  | error error => cases fetched
  | ok response =>
      obtain ⟨status, body⟩ := response
      by_cases answered : status ≠ 200
      · simp [fetchedKey, answered] at fetched
      · cases body with
        | error error => simp [fetchedKey, Except.toOption] at fetched
        | ok pemBytes =>
            cases parsed : parsePEMPublicKey format pemBytes with
            | error error => simp [fetchedKey, parsed, Except.toOption] at fetched
            | ok pub =>
                obtain rfl : pub = key := by
                  simpa [fetchedKey, answered, parsed, Except.toOption] using fetched
                simp only [handle, answered, if_false, parsed]

/-- A poller that knows no other key than the middleware's leaves it the key it
fetches. -/
theorem handle_current {key : PublicKey} (fetched : fetchedKey format outcome = some key)
    (known : poller.current = none ∨ poller.current = middleware.publicKey) :
    (poller.handle format middleware outcome).2 = { middleware with publicKey := some key } := by
  rw [handle_of_some fetched]
  dsimp only
  split
  · rename_i same
    rcases known with unknown | known
    · rw [unknown] at same
      cases same
    · rw [← same, known]
  · rfl

end KeyPoller

end Sentinel.Gateway
