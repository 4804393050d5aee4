import XClone.Js.Json

/-!
# XClone.AccessToken.Issuer — Identity's half of the access token

`Hs256AccessTokenIssuer` writes a JWT by hand: two base64url segments and the
HMAC of their text. An issuer is only built from a secret of at least 32 bytes.
-/

namespace XClone.AccessToken

open Js

/-- The exceptions an issuer or a verifier can throw. -/
inductive Thrown where
  /-- `InvalidAccessTokenError`. -/
  | invalidAccessToken
  /-- A plain `Error`. -/
  | error (message : String)
  /-- The `RangeError` of `timingSafeEqual`. -/
  | rangeError
deriving DecidableEq

/-- `error.message`. -/
def Thrown.message : Thrown → String
  | .invalidAccessToken => "the access token is not valid"
  | .error message => message
  | .rangeError => "Input buffers must have the same byte length"

/-- HS256's MAC is 256 bits, and a shorter key is refused. -/
def minSecretBytes : ℕ := 32

/-- The message of a refused secret: its length, never its value. -/
def shortSecretMessage (byteLength : ℕ) : String :=
  "the JWT secret must be at least " ++ toString minSecretBytes ++ " bytes, got " ++
    toString byteLength ++ "."

/-- A secret both constructors accept, as its bytes. -/
structure Secret where
  bytes : Bytes
  longEnough : minSecretBytes ≤ bytes.length

/-- The check both constructors make. -/
def acceptSecret (secret : JsString) : Except Thrown Secret :=
  let key := utf8 secret
  if h : minSecretBytes ≤ key.length then .ok ⟨key, h⟩
  else .error (.error (shortSecretMessage key.length))

/-- What the issuer puts in a token. -/
structure AccessTokenClaims where
  userId : JsString
  sessionId : JsString
  issuedAt : Date
  expiresAt : Date
deriving DecidableEq

variable (node : Node)

/-- The signature segment: `createHmac(..).update(signingInput).digest('base64url')`. -/
def hs256 (secret : Secret) (signingInput : JsString) : JsString :=
  base64url (node.hmacSha256 secret.bytes (utf8 signingInput))

/-- `base64url(JSON.stringify(record))`. -/
def encodeRecord (record : Record) : JsString := base64url (utf8 (node.jsonStringify (.obj record)))

/-- The record of the header. -/
def headerRecord : Record := [(js "alg", .str (js "HS256")), (js "typ", .str (js "JWT"))]

/-- `HEADER`. -/
def header : JsString := encodeRecord node headerRecord

/-- NumericDate: seconds, not milliseconds. -/
def toNumericDate (date : Date) : JsNumber := ((JsNumber.finite date).div 1000).floor

/-- The record of the payload. -/
def payloadRecord (claims : AccessTokenClaims) : Record :=
  [(js "sub", .str claims.userId), (js "sid", .str claims.sessionId),
    (js "iat", .num (toNumericDate claims.issuedAt)),
    (js "exp", .num (toNumericDate claims.expiresAt))]

/-- `Hs256AccessTokenIssuer`. -/
structure Hs256AccessTokenIssuer where
  secret : Secret

namespace Hs256AccessTokenIssuer

/-- The constructor. -/
def construct (secret : JsString) : Except Thrown Hs256AccessTokenIssuer := do
  let key ← acceptSecret secret
  return { secret := key }

/-- The text `issue` signs. -/
def signingInput (claims : AccessTokenClaims) : JsString :=
  dotted (header node) (encodeRecord node (payloadRecord claims))

/-- `issue(claims)`. -/
def issue (issuer : Hs256AccessTokenIssuer) (claims : AccessTokenClaims) : JsString :=
  dotted (signingInput node claims) (hs256 node issuer.secret (signingInput node claims))

end Hs256AccessTokenIssuer

/-! ## The segments of an issued token -/

variable {node}

theorem dot_notMem_encodeRecord (record : Record) : dot ∉ encodeRecord node record :=
  dot_notMem_base64url _

theorem dot_notMem_hs256 (secret : Secret) (input : JsString) : dot ∉ hs256 node secret input :=
  dot_notMem_base64url _

theorem headerRecord_plain : PlainRecord headerRecord where
  distinct := by decide
  names := by
    simp only [headerRecord, List.forall_mem_cons]
    exact ⟨by decide, by decide, fun _ h => nomatch h⟩
  values := by
    simp only [headerRecord, List.forall_mem_cons]
    exact ⟨.str _, .str _, fun _ h => nomatch h⟩

/-- The seconds of a valid date are a safe integer. -/
theorem toNumericDate_valid {t : ℤ} (h : ValidDate t) :
    toNumericDate t = .finite ((t / 1000 : ℤ) : ℚ) ∧ |t / 1000| < 2 ^ 53 ∧
      ValidDate (t / 1000 * 1000) := by
  have hlow : -8640000000000000 ≤ t := (abs_le.mp h).1
  have hhigh : t ≤ 8640000000000000 := (abs_le.mp h).2
  refine ⟨floor_div_thousand h, ?_, ?_⟩
  · rw [abs_lt]
    omega
  · refine abs_le.mpr ⟨?_, ?_⟩
    · show -8640000000000000 ≤ t / 1000 * 1000
      omega
    · show t / 1000 * 1000 ≤ 8640000000000000
      omega

theorem payloadRecord_plain {claims : AccessTokenClaims} (hi : ValidDate claims.issuedAt)
    (he : ValidDate claims.expiresAt) : PlainRecord (payloadRecord claims) where
  distinct := by
    show [js "sub", js "sid", js "iat", js "exp"].Nodup
    decide
  names := by
    simp only [payloadRecord, List.forall_mem_cons]
    exact ⟨by decide, by decide, by decide, by decide, fun _ h => nomatch h⟩
  values := by
    rcases toNumericDate_valid hi with ⟨hiat, hiatsafe, -⟩
    rcases toNumericDate_valid he with ⟨hexp, hexpsafe, -⟩
    simp only [payloadRecord, List.forall_mem_cons, hiat, hexp]
    exact ⟨.str _, .str _, .int _ hiatsafe, .int _ hexpsafe, fun _ h => nomatch h⟩

end XClone.AccessToken
