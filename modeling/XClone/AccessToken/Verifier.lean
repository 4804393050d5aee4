import XClone.AccessToken.Issuer

/-!
# XClone.AccessToken.Verifier — the Gateway's half of the access token

`Hs256AccessTokenVerifier.verify` splits the token, compares the signature of the
literal text of its first two segments, and only then decodes anything. The
function is translated statement by statement, its exceptions included; the
control points are `verify_ok` and `verify_error`.
-/

namespace XClone.AccessToken

open Js

/-- `VerifiedAccessToken`; `expiresAt` may be an Invalid Date. -/
structure VerifiedAccessToken where
  userId : JsString
  sessionId : JsString
  expiresAt : Option Date
deriving DecidableEq

/-- `timingSafeEqual`: buffers of different lengths are a `RangeError`. -/
def timingSafeEqual (a b : Bytes) : Except Thrown Bool :=
  if a.length = b.length then .ok (a == b) else .error .rangeError

variable (node : Node)

/-- `decodeJsonObject`: a record, and nothing else that JSON allows. -/
def decodeJsonObject (segment : JsString) : Except Thrown Record :=
  match node.jsonParse (node.decodeText segment) with
  | none => .error .invalidAccessToken
  | some (.obj members) => .ok members
  | some _ => .error .invalidAccessToken

/-- The payload of the token, once decoded, has this account as its `sub` and this session
as its `sid`. -/
def Names (token userId sessionId : JsString) : Prop :=
  ∃ encodedHeader encodedPayload signature payload,
    token.splitOn dot = [encodedHeader, encodedPayload, signature] ∧
      decodeJsonObject node encodedPayload = .ok payload ∧
      payload.get (js "sub") = some (.str userId) ∧ payload.get (js "sid") = some (.str sessionId)

/-- `Hs256AccessTokenVerifier`; the clock is read once, by `verify`. -/
structure Hs256AccessTokenVerifier where
  secret : Secret

namespace Hs256AccessTokenVerifier

/-- The constructor. -/
def construct (secret : JsString) : Except Thrown Hs256AccessTokenVerifier := do
  let key ← acceptSecret secret
  return { secret := key }

/-- `signatureMatches`: the base64url texts are compared, not the bytes they decode to. -/
def signatureMatches (verifier : Hs256AccessTokenVerifier) (signingInput signature : JsString) :
    Except Thrown Bool :=
  let presented := utf8 signature
  let computed := utf8 (hs256 node verifier.secret signingInput)
  if presented.length ≠ computed.length then .ok false
  else timingSafeEqual presented computed

/-- `readClaims(payload)` with the clock at `now`. -/
def readClaims (now : Date) (payload : Record) : Except Thrown VerifiedAccessToken :=
  match payload.get (js "sub"), payload.get (js "sid"), payload.get (js "exp") with
  | some (.str sub), some (.str sid), some (.num exp) =>
    let expiresAt := newDate (exp.mul (.finite 1000))
    if notBefore now expiresAt then .error .invalidAccessToken
    else .ok { userId := sub, sessionId := sid, expiresAt }
  | _, _, _ => .error .invalidAccessToken

/-- `header.alg === 'HS256' && header.typ === 'JWT'`. -/
def expectedHeader (header : Record) : Bool :=
  match header.get (js "alg"), header.get (js "typ") with
  | some (.str alg), some (.str typ) => alg = js "HS256" && typ = js "JWT"
  | _, _ => false

/-- `verify(token)` with the clock at `now`. -/
def verify (verifier : Hs256AccessTokenVerifier) (now : Date) (token : JsString) :
    Except Thrown VerifiedAccessToken :=
  match token.splitOn dot with
  | [encodedHeader, encodedPayload, signature] => do
    if !(← verifier.signatureMatches node (dotted encodedHeader encodedPayload) signature) then
      throw .invalidAccessToken
    let header ← decodeJsonObject node encodedHeader
    if !expectedHeader header then
      throw .invalidAccessToken
    readClaims now (← decodeJsonObject node encodedPayload)
  | _ => .error .invalidAccessToken

end Hs256AccessTokenVerifier

/-! ## What each step decides -/

variable {node}

theorem decodeJsonObject_error {segment : JsString} {e : Thrown}
    (h : decodeJsonObject node segment = .error e) : e = .invalidAccessToken := by
  unfold decodeJsonObject at h
  split at h <;> cases h <;> rfl

theorem decodeJsonObject_ok {segment : JsString} {record : Record}
    (h : decodeJsonObject node segment = .ok record) :
    node.jsonParse (node.decodeText segment) = some (.obj record) := by
  unfold decodeJsonObject at h
  split at h
  · cases h
  · cases h
    assumption
  · cases h

namespace Hs256AccessTokenVerifier

/-- The length check keeps `timingSafeEqual` from throwing, and equal bytes are
equal texts because a base64url text is ASCII. -/
theorem signatureMatches_eq (verifier : Hs256AccessTokenVerifier)
    (signingInput signature : JsString) :
    verifier.signatureMatches node signingInput signature =
      .ok (signature == hs256 node verifier.secret signingInput) := by
  have hbytes : (utf8 signature == utf8 (hs256 node verifier.secret signingInput)) =
      (signature == hs256 node verifier.secret signingInput) := by
    rw [Bool.eq_iff_iff, beq_iff_eq, beq_iff_eq]
    constructor
    · exact utf8_ascii_injective (base64url_ascii _)
    · exact congrArg utf8
  unfold signatureMatches timingSafeEqual
  by_cases hlength : (utf8 signature).length =
      (utf8 (hs256 node verifier.secret signingInput)).length
  · simp only [hlength, ne_eq, not_true_eq_false, if_false, if_true, hbytes]
  · simp only [hlength, ne_eq, not_false_eq_true, if_true]
    rw [← hbytes]
    refine congrArg Except.ok (Eq.symm (beq_eq_false_iff_ne.mpr ?_))
    intro heq
    exact hlength (congrArg List.length heq)

/-- What `readClaims` read out of the payload it accepted. -/
theorem readClaims_ok {now : Date} {payload : Record} {verified : VerifiedAccessToken}
    (h : readClaims now payload = .ok verified) :
    ∃ exp, payload.get (js "sub") = some (.str verified.userId) ∧
      payload.get (js "sid") = some (.str verified.sessionId) ∧
      payload.get (js "exp") = some (.num exp) ∧
      verified.expiresAt = newDate (exp.mul (.finite 1000)) ∧
      notBefore now verified.expiresAt = false := by
  unfold readClaims at h
  split at h
  · rename_i sub sid exp hsub hsid hexp
    simp only at h
    split at h
    · cases h
    · rename_i hlive
      cases h
      exact ⟨exp, hsub, hsid, hexp, rfl, Bool.eq_false_iff.mpr hlive⟩
  · cases h

theorem readClaims_error {now : Date} {payload : Record} {e : Thrown}
    (h : readClaims now payload = .error e) : e = .invalidAccessToken := by
  unfold readClaims at h
  split at h
  · simp only at h
    split at h <;> cases h
    rfl
  · cases h
    rfl

theorem expectedHeader_iff (header : Record) : expectedHeader header = true ↔
    header.get (js "alg") = some (.str (js "HS256")) ∧
      header.get (js "typ") = some (.str (js "JWT")) := by
  unfold expectedHeader
  constructor
  · intro h
    split at h
    · rename_i alg typ halg htyp
      simp only [Bool.and_eq_true, decide_eq_true_eq] at h
      rw [halg, htyp, h.1, h.2]
      exact ⟨rfl, rfl⟩
    · cases h
  · rintro ⟨halg, htyp⟩
    simp [halg, htyp]

/-! ## What `verify` decides -/

/-- Three segments: the signature decides first, then the two decoded objects. -/
theorem verify_segments (verifier : Hs256AccessTokenVerifier) (now : Date) {token h p s : JsString}
    (hsplit : token.splitOn dot = [h, p, s]) :
    verifier.verify node now token =
      if s = hs256 node verifier.secret (dotted h p) then do
        let header ← decodeJsonObject node h
        if expectedHeader header then readClaims now (← decodeJsonObject node p)
        else throw .invalidAccessToken
      else .error .invalidAccessToken := by
  unfold verify
  rw [hsplit]
  simp only [signatureMatches_eq, bind, Except.bind]
  by_cases hs : s = hs256 node verifier.secret (dotted h p)
  · simp only [hs, beq_self_eq_true, Bool.not_true, Bool.false_eq_true, if_false, if_true]
    cases decodeJsonObject node h with
    | error e => rfl
    | ok header =>
      cases hheader : expectedHeader header with
      | false =>
        simp only [hheader]
        rfl
      | true => simp [hheader]
  · simp only [beq_eq_false_iff_ne.mpr hs, Bool.not_false, if_true, if_neg hs]
    rfl

/-- Anything but three segments is refused. -/
theorem verify_not_three (verifier : Hs256AccessTokenVerifier) (now : Date) {token : JsString}
    (hsplit : ∀ h p s, token.splitOn dot ≠ [h, p, s]) :
    verifier.verify node now token = .error .invalidAccessToken := by
  unfold verify
  split
  · rename_i h p s heq
    exact absurd heq (hsplit h p s)
  · rfl

/-- `verify` throws nothing but `InvalidAccessTokenError`. -/
theorem verify_error {verifier : Hs256AccessTokenVerifier} {now : Date} {token : JsString}
    {e : Thrown} (h : verifier.verify node now token = .error e) : e = .invalidAccessToken := by
  by_cases hthree : ∃ h p s, token.splitOn dot = [h, p, s]
  · rcases hthree with ⟨eh, ep, s, hsplit⟩
    rw [verify_segments verifier now hsplit] at h
    split at h
    · -- the signature is right: each decoder and `readClaims` throw only this error
      cases hheader : decodeJsonObject node eh with
      | error e' =>
        rw [hheader] at h
        cases h
        exact decodeJsonObject_error hheader
      | ok header =>
        rw [hheader] at h
        simp only [bind, Except.bind] at h
        split at h
        · cases hpayload : decodeJsonObject node ep with
          | error e' =>
            rw [hpayload] at h
            cases h
            exact decodeJsonObject_error hpayload
          | ok payload =>
            rw [hpayload] at h
            exact readClaims_error h
        · cases h
          rfl
    · cases h
      rfl
  · have hrefused := @verify_not_three node verifier now token
      fun eh ep s hsplit => hthree ⟨eh, ep, s, hsplit⟩
    rw [hrefused] at h
    cases h
    rfl

/-- What an accepted token is made of: its first two segments `h` and `p`, the
objects they decode to, and what `verify` returned. -/
structure AcceptedAs (node : Node) (verifier : Hs256AccessTokenVerifier) (now : Date)
    (token h p : JsString) (header payload : Record) (verified : VerifiedAccessToken) : Prop where
  text : token = dotted (dotted h p) (hs256 node verifier.secret (dotted h p))
  dotFree : dot ∉ h ∧ dot ∉ p
  headerDecodes : node.jsonParse (node.decodeText h) = some (.obj header)
  alg : header.get (js "alg") = some (.str (js "HS256"))
  typ : header.get (js "typ") = some (.str (js "JWT"))
  payloadDecodes : node.jsonParse (node.decodeText p) = some (.obj payload)
  claims : readClaims now payload = .ok verified

theorem verify_ok {verifier : Hs256AccessTokenVerifier} {now : Date} {token : JsString}
    {verified : VerifiedAccessToken} (h : verifier.verify node now token = .ok verified) :
    ∃ eh ep header payload,
      AcceptedAs node verifier now token eh ep header payload verified := by
  by_cases hthree : ∃ h p s, token.splitOn dot = [h, p, s]
  · rcases hthree with ⟨eh, ep, s, hsplit⟩
    rw [verify_segments verifier now hsplit] at h
    split at h
    · -- the signature is the right one; both parts still have to decode
      rename_i hs
      cases hheader : decodeJsonObject node eh with
      | error e => simp [hheader, bind, Except.bind] at h
      | ok header =>
        cases hpayload : decodeJsonObject node ep with
        | error e =>
          simp only [hheader, hpayload, bind, Except.bind] at h
          split at h <;> cases h
        | ok payload =>
          simp only [hheader, hpayload, bind, Except.bind] at h
          split at h
          · rename_i hexpected
            rcases (expectedHeader_iff header).mp hexpected with ⟨halg, htyp⟩
            rcases dot_notMem_of_splitOn hsplit with ⟨hh, hp, -⟩
            refine ⟨eh, ep, header, payload, ?_, ⟨hh, hp⟩, decodeJsonObject_ok hheader, halg, htyp,
              decodeJsonObject_ok hpayload, h⟩
            rw [dotted_of_splitOn hsplit, hs]
          · cases h
    · cases h
  · have hrefused := @verify_not_three node verifier now token
      fun eh ep s hsplit => hthree ⟨eh, ep, s, hsplit⟩
    rw [hrefused] at h
    cases h

end Hs256AccessTokenVerifier

end XClone.AccessToken
