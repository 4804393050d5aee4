import XClone.AccessToken.Verifier
import XClone.Js.ReferenceNode

/-!
# XClone.AccessToken.Agreement — issuer and verifier agree

The two halves live in different services and share no code. Built from one
secret they agree: what `issue` writes, `verify` reads back, until the second the
token expires in.
-/

namespace XClone.AccessToken

open Js

variable {node : Node}

/-- The expiry a verifier reads: rounded down to a whole second. -/
def expirySecond (claims : AccessTokenClaims) : Date := claims.expiresAt / 1000 * 1000

/-- Both constructors accept the same secrets, and keep the same key. -/
theorem construct_same {secret : JsString} {issuer : Hs256AccessTokenIssuer}
    {verifier : Hs256AccessTokenVerifier}
    (hissuer : Hs256AccessTokenIssuer.construct secret = .ok issuer)
    (hverifier : Hs256AccessTokenVerifier.construct secret = .ok verifier) :
    verifier.secret = issuer.secret := by
  unfold Hs256AccessTokenIssuer.construct at hissuer
  unfold Hs256AccessTokenVerifier.construct at hverifier
  cases hkey : acceptSecret secret with
  | error e =>
    rw [hkey] at hissuer
    cases hissuer
  | ok key =>
    rw [hkey] at hissuer hverifier
    cases hissuer
    cases hverifier
    rfl

/-- An encoded plain record decodes to itself. -/
theorem decode_encodeRecord (hnode : node.Lawful) {record : Record} (h : PlainRecord record) :
    decodeJsonObject node (encodeRecord node record) = .ok record := by
  unfold decodeJsonObject encodeRecord
  rw [hnode.decode_encode h, hnode.parse_stringify h]

theorem expectedHeader_header : Hs256AccessTokenVerifier.expectedHeader headerRecord = true := by
  decide

/-- The claims of an issued payload, read at `now`. -/
theorem readClaims_payloadRecord {claims : AccessTokenClaims} (hexp : ValidDate claims.expiresAt)
    (now : Date) :
    Hs256AccessTokenVerifier.readClaims now (payloadRecord claims) =
      if expirySecond claims ≤ now then .error .invalidAccessToken
      else .ok ⟨claims.userId, claims.sessionId, some (expirySecond claims)⟩ := by
  rcases toNumericDate_valid hexp with ⟨hseconds, -, hvalid⟩
  have hsub : (payloadRecord claims).get (js "sub") = some (.str claims.userId) := rfl
  have hsid : (payloadRecord claims).get (js "sid") = some (.str claims.sessionId) := rfl
  have hget : (payloadRecord claims).get (js "exp") =
      some (.num (toNumericDate claims.expiresAt)) := rfl
  have hms : newDate ((toNumericDate claims.expiresAt).mul (.finite 1000)) =
      some (expirySecond claims) := by
    have hsafe : |expirySecond claims| < 2 ^ 53 := lt_of_le_of_lt hvalid (by decide)
    have hmul : ((claims.expiresAt / 1000 : ℤ) : ℚ) * 1000 = ((expirySecond claims : ℤ) : ℚ) := by
      unfold expirySecond
      push_cast
      rfl
    rw [hseconds]
    simp only [JsNumber.mul]
    rw [hmul, JsNumber.ofRat_intCast hsafe]
    exact newDate_intCast hvalid
  unfold Hs256AccessTokenVerifier.readClaims
  simp only [hsub, hsid, hget, hms, notBefore, decide_eq_true_eq]

/-- The three segments of a token. -/
theorem splitOn_issue (issuer : Hs256AccessTokenIssuer) (claims : AccessTokenClaims) :
    (issuer.issue node claims).splitOn dot =
      [header node, encodeRecord node (payloadRecord claims),
        hs256 node issuer.secret (Hs256AccessTokenIssuer.signingInput node claims)] :=
  splitOn_dotted (dot_notMem_encodeRecord _) (dot_notMem_encodeRecord _) (dot_notMem_hs256 _ _)

/-- A token names the account and the session of its claims. -/
theorem names_issued (hnode : node.Lawful) (issuer : Hs256AccessTokenIssuer)
    {claims : AccessTokenClaims} (hiat : ValidDate claims.issuedAt)
    (hexp : ValidDate claims.expiresAt) :
    Names node (issuer.issue node claims) claims.userId claims.sessionId :=
  ⟨_, _, _, payloadRecord claims, splitOn_issue issuer claims,
    decode_encodeRecord hnode (payloadRecord_plain hiat hexp), rfl, rfl⟩

/-- What `verify` makes of what `issue` wrote with the same key. -/
theorem verify_issued (hnode : node.Lawful) {issuer : Hs256AccessTokenIssuer}
    {verifier : Hs256AccessTokenVerifier} (hkey : verifier.secret = issuer.secret)
    {claims : AccessTokenClaims} (hiat : ValidDate claims.issuedAt)
    (hexp : ValidDate claims.expiresAt) (now : Date) :
    verifier.verify node now (issuer.issue node claims) =
      if expirySecond claims ≤ now then .error .invalidAccessToken
      else .ok ⟨claims.userId, claims.sessionId, some (expirySecond claims)⟩ := by
  have hheader : decodeJsonObject node (header node) = .ok headerRecord :=
    decode_encodeRecord hnode headerRecord_plain
  have hpayload : decodeJsonObject node (encodeRecord node (payloadRecord claims)) =
      .ok (payloadRecord claims) :=
    decode_encodeRecord hnode (payloadRecord_plain hiat hexp)
  rw [verifier.verify_segments now (splitOn_issue issuer claims), hkey, hheader, hpayload]
  simp only [Hs256AccessTokenIssuer.signingInput, if_true, bind, Except.bind,
    expectedHeader_header, readClaims_payloadRecord hexp]

/-- Rounding to a second only ever shortens a token's life. -/
theorem expirySecond_le (claims : AccessTokenClaims) : expirySecond claims ≤ claims.expiresAt := by
  have hexp : expirySecond claims = (claims.expiresAt : ℤ) / 1000 * 1000 := rfl
  rw [hexp]
  exact Int.ediv_mul_le _ (by decide)

/-! ## One token of one secret -/

def sampleSecret : JsString := js "0123456789abcdef0123456789abcdef"

def sampleSigningInput : JsString :=
  js ("eyJhbGciOiJIUzI1NiIsInR5cCI6IkpXVCJ9." ++
    "eyJzdWIiOiI3Iiwic2lkIjoiOSIsImlhdCI6MTc2NzIyNTYwMCwiZXhwIjoxNzY3MjI2NTAwfQ")

/-- HMAC-SHA256 of `sampleSigningInput` under `sampleSecret`, and nothing else. -/
def sampleMac (key data : Bytes) : Bytes :=
  if key = utf8 sampleSecret ∧ data = utf8 sampleSigningInput then
    [189, 162, 134, 254, 77, 93, 213, 32, 171, 161, 41, 87, 130, 98, 74, 157,
      222, 106, 111, 200, 75, 232, 145, 232, 251, 134, 148, 65, 53, 31, 168, 7]
  else List.replicate 32 0

def sampleNode : Node := Reference.node sampleMac

theorem sampleNode_lawful : sampleNode.Lawful := Reference.node_lawful sampleMac

def sampleKey : Secret := ⟨utf8 sampleSecret, by decide⟩

def sampleClaims : AccessTokenClaims := ⟨js "7", js "9", 1767225600123, 1767226500456⟩

def sampleToken : JsString :=
  dotted sampleSigningInput (js "vaKG_k1d1SCroSlXgmJKnd5qb8hL6JHo-4aUQTUfqAc")

theorem sampleClaims_valid :
    ValidDate sampleClaims.issuedAt ∧ ValidDate sampleClaims.expiresAt := by
  decide

theorem issue_sample :
    (Hs256AccessTokenIssuer.mk sampleKey).issue sampleNode sampleClaims = sampleToken := by
  decide +kernel

theorem construct_sample :
    Hs256AccessTokenIssuer.construct sampleSecret = .ok ⟨sampleKey⟩ ∧
      Hs256AccessTokenVerifier.construct sampleSecret = .ok ⟨sampleKey⟩ :=
  ⟨rfl, rfl⟩

/-! ## Agreement -/

/-- Issuer and verifier built from one secret agree on every token at every
instant. -/
theorem verify_issue (hnode : node.Lawful) {secret : JsString} {issuer : Hs256AccessTokenIssuer}
    {verifier : Hs256AccessTokenVerifier}
    (hissuer : Hs256AccessTokenIssuer.construct secret = .ok issuer)
    (hverifier : Hs256AccessTokenVerifier.construct secret = .ok verifier)
    (claims : AccessTokenClaims) (hiat : ValidDate claims.issuedAt)
    (hexp : ValidDate claims.expiresAt) (now : Date) :
    (now < expirySecond claims →
      verifier.verify node now (issuer.issue node claims) =
        .ok ⟨claims.userId, claims.sessionId, some (expirySecond claims)⟩) ∧
    (claims.expiresAt ≤ now →
      verifier.verify node now (issuer.issue node claims) = .error .invalidAccessToken) := by
  have hverify := verify_issued hnode (construct_same hissuer hverifier) hiat hexp now
  constructor
  · intro hlive
    rw [hverify, if_neg (not_le.mpr hlive)]
  · intro hexpired
    rw [hverify, if_pos (le_trans (expirySecond_le claims) hexpired)]

/-- The sample token: live to the last millisecond of its second, refused at the
expiry it was issued with. -/
theorem verify_sample_token :
    (Hs256AccessTokenVerifier.mk sampleKey).verify sampleNode 1767226499999 sampleToken =
        .ok ⟨js "7", js "9", some 1767226500000⟩ ∧
      (Hs256AccessTokenVerifier.mk sampleKey).verify sampleNode 1767226500456 sampleToken =
        .error .invalidAccessToken := by
  have hat (now : Date) := verify_issue sampleNode_lawful construct_sample.1
    construct_sample.2 sampleClaims sampleClaims_valid.1 sampleClaims_valid.2 now
  rw [← issue_sample]
  constructor
  · exact (hat 1767226499999).1 (by decide)
  · exact (hat 1767226500456).2 (by decide)

end XClone.AccessToken
