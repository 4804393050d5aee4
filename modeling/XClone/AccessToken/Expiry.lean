import XClone.AccessToken.Agreement

/-!
# XClone.AccessToken.Expiry — when a signed expiry counts

The verifier compares its clock with a `Date` made of `exp`, not with the number. Where
that is a date, the comparison is exact: a token is accepted only strictly before its
expiry. Where `exp` is out of a `Date`'s range its time is `NaN`, no clock reading is at or
after it, and the token is accepted for ever, with an expiry that is no date
(`expiry_fails_closed_iff`).
-/

namespace XClone.AccessToken

open Js

variable {node : Node} {verifier : Hs256AccessTokenVerifier} {token h : JsString} {exp : JsNumber}

/-- A token signed with the key of the verifier, with this header segment, and a payload
with a string `sub`, a string `sid` and this `exp`. -/
structure SignedWith (node : Node) (verifier : Hs256AccessTokenVerifier) (token h : JsString)
    (exp : JsNumber) : Prop where
  signed : ∃ (p : JsString) (payload : Record) (sub sid : JsString), dot ∉ h ∧ dot ∉ p ∧
    token = dotted (dotted h p) (hs256 node verifier.secret (dotted h p)) ∧
    node.jsonParse (node.decodeText p) = some (.obj payload) ∧
    payload.get (js "sub") = some (.str sub) ∧ payload.get (js "sid") = some (.str sid) ∧
    payload.get (js "exp") = some (.num exp)

/-- The header segment is the one the verifier expects. -/
def HeaderExpected (node : Node) (h : JsString) : Prop :=
  ∃ header, decodeJsonObject node h = .ok header ∧
    Hs256AccessTokenVerifier.expectedHeader header = true

/-- The instant is strictly before `exp * 1000` milliseconds. -/
def BeforeSeconds (now : Date) : JsNumber → Prop
  | .finite seconds => (now : ℚ) < seconds * 1000
  | .infinity negative => negative = false
  | .nan => False

/-- A time value within a `Date`'s range. -/
def InDateRange : JsNumber → Prop
  | .finite value => |value| ≤ maxTime
  | _ => False

instance : DecidablePred InDateRange := fun
  | .finite value => inferInstanceAs (Decidable (|value| ≤ maxTime))
  | .nan => isFalse id
  | .infinity _ => isFalse id

/-- The token was accepted in time, and says till when it is good. -/
structure AcceptedInTime (now : Date) (exp : JsNumber) (verified : VerifiedAccessToken) : Prop where
  before : BeforeSeconds now exp
  expires : ∃ t, verified.expiresAt = some t ∧ ValidDate t ∧ now < t

theorem newDate_eq_none {value : JsNumber} : newDate value = none ↔ ¬ InDateRange value := by
  cases value with
  | nan => exact ⟨fun _ => id, fun _ => rfl⟩
  | infinity negative => exact ⟨fun _ => id, fun _ => rfl⟩
  | finite value =>
    by_cases hrange : |value| ≤ maxTime
    · simp [newDate, InDateRange, hrange]
    · simp [newDate, InDateRange, hrange]

/-- What `verify` makes of such a token. -/
theorem verify_signedWith (hsigned : SignedWith node verifier token h exp) (now : Date) :
    ∃ sub sid, (HeaderExpected node h → verifier.verify node now token =
        if notBefore now (newDate (exp.mul (.finite 1000))) then .error .invalidAccessToken
        else .ok ⟨sub, sid, newDate (exp.mul (.finite 1000))⟩) ∧
      (¬ HeaderExpected node h → ∀ verified, verifier.verify node now token ≠ .ok verified) := by
  rcases hsigned.signed with ⟨p, payload, sub, sid, hh, hp, rfl, hpayload, hsub, hsid, hexp⟩
  have hsplit := splitOn_dotted hh hp (@dot_notMem_hs256 node verifier.secret (dotted h p))
  have hclaims : Hs256AccessTokenVerifier.readClaims now payload =
      if notBefore now (newDate (exp.mul (.finite 1000))) then .error .invalidAccessToken
      else .ok ⟨sub, sid, newDate (exp.mul (.finite 1000))⟩ := by
    unfold Hs256AccessTokenVerifier.readClaims
    rw [hsub, hsid, hexp]
  have hdecoded : decodeJsonObject node p = .ok payload := by
    unfold decodeJsonObject
    rw [hpayload]
  refine ⟨sub, sid, ?_, ?_⟩
  · rintro ⟨header, hheader, hexpected⟩
    rw [verifier.verify_segments now hsplit, if_pos rfl, hheader, hdecoded]
    simp only [bind, Except.bind, hexpected, if_true]
    exact hclaims
  · intro hrefused verified hok
    rw [verifier.verify_segments now hsplit, if_pos rfl] at hok
    cases hheader : decodeJsonObject node h with
    | error e =>
      rw [hheader] at hok
      cases hok
    | ok header =>
      rw [hheader] at hok
      simp only [bind, Except.bind] at hok
      split at hok
      · rename_i hexpected
        exact hrefused ⟨header, hheader, hexpected⟩
      · cases hok

/-- A date made of `exp` is only ahead of instants before `exp`. -/
theorem beforeSeconds_of_lt {now t : Date} (ht : newDate (exp.mul (.finite 1000)) = some t)
    (hlt : now < t) : ValidDate t ∧ BeforeSeconds now exp := by
  cases exp with
  | nan => cases ht
  | infinity negative =>
    exfalso
    simp [JsNumber.mul, newDate] at ht
  | finite seconds =>
    rcases newDate_mul ht with ⟨hvalid, hbefore⟩
    exact ⟨hvalid, hbefore hlt⟩

/-- Expiry fails closed exactly for the expiries a `Date` can hold. -/
theorem expiry_fails_closed_iff (hsigned : SignedWith node verifier token h exp) (now : Date) :
    (∀ verified, verifier.verify node now token = .ok verified → AcceptedInTime now exp verified) ↔
      (HeaderExpected node h → InDateRange (exp.mul (.finite 1000))) := by
  rcases verify_signedWith hsigned now with ⟨sub, sid, hexpected, hrefused⟩
  constructor
  · intro hclosed hheader
    by_contra hrange
    have hnone := newDate_eq_none.mpr hrange
    rw [hnone] at hexpected
    -- no reading is at or after `NaN`
    rcases (hclosed _ (hexpected hheader)).expires with ⟨t, ht, -⟩
    cases ht
  · intro hrange verified hok
    by_cases hheader : HeaderExpected node h
    · rw [hexpected hheader] at hok
      cases hdate : newDate (exp.mul (.finite 1000)) with
      | none => exact absurd (hrange hheader) (newDate_eq_none.mp hdate)
      | some t =>
        rw [hdate] at hok
        split at hok
        · cases hok
        · rename_i hlive
          cases hok
          have hlt : now < t := by simpa [notBefore] using hlive
          rcases beforeSeconds_of_lt hdate hlt with ⟨hvalid, hbefore⟩
          exact ⟨hbefore, t, rfl, hvalid, hlt⟩
    · exact absurd hok (hrefused hheader verified)

/-! ## An expiry before all dates -/

/-- The header segment of every issued token. -/
def sampleHeader : JsString := js "eyJhbGciOiJIUzI1NiIsInR5cCI6IkpXVCJ9"

/-- The payload `{"sub":"7","sid":"9","exp":-8640000000001}`. -/
def ancientPayload : JsString := js "eyJzdWIiOiI3Iiwic2lkIjoiOSIsImV4cCI6LTg2NDAwMDAwMDAwMDF9"

/-- HMAC-SHA256 of the ancient signing input under `sampleSecret`, and nothing else. -/
def ancientMac (key data : Bytes) : Bytes :=
  if key = utf8 sampleSecret ∧ data = utf8 (dotted sampleHeader ancientPayload) then
    [150, 67, 74, 153, 231, 34, 136, 103, 222, 149, 198, 241, 128, 164, 24, 37, 83, 47, 194, 251,
      237, 49, 235, 107, 22, 14, 2, 227, 151, 97, 29, 36]
  else List.replicate 32 0

def ancientNode : Node := Reference.node ancientMac

def ancientToken : JsString :=
  dotted (dotted sampleHeader ancientPayload) (js "lkNKmeciiGfelcbxgKQYJVMvwvvtMetrFg4C45dhHSQ")

def ancientRecord : Record :=
  [(js "sub", .str (js "7")), (js "sid", .str (js "9")),
    (js "exp", .num (.finite (-8640000000001)))]

theorem ancientRecord_plain : PlainRecord ancientRecord where
  distinct := by decide
  names := by decide
  values := by
    simp only [ancientRecord, List.forall_mem_cons]
    have hexp : PlainValue (.num (.finite ((-8640000000001 : ℤ) : ℚ))) := .int _ (by decide)
    exact ⟨.str _, .str _, by simpa using hexp, fun _ h => nomatch h⟩

theorem ancientToken_signed :
    SignedWith ancientNode ⟨sampleKey⟩ ancientToken sampleHeader (.finite (-8640000000001)) := by
  have hencoded : ancientPayload = encodeRecord ancientNode ancientRecord := by decide +kernel
  have hdecoded : decodeJsonObject ancientNode ancientPayload = .ok ancientRecord := by
    rw [hencoded]
    exact decode_encodeRecord (Reference.node_lawful ancientMac) ancientRecord_plain
  refine ⟨ancientPayload, ancientRecord, js "7", js "9", ?_, ?_, ?_,
    decodeJsonObject_ok hdecoded, rfl, rfl, rfl⟩
  · decide +kernel
  · decide +kernel
  · decide +kernel

theorem sampleHeader_expected : HeaderExpected ancientNode sampleHeader := by
  have hencoded : sampleHeader = header ancientNode := by decide +kernel
  refine ⟨headerRecord, ?_, expectedHeader_header⟩
  rw [hencoded]
  exact decode_encodeRecord (Reference.node_lawful ancientMac) headerRecord_plain

/-- The ancient token does not fail closed. -/
theorem ancient_token_fails_open :
    ¬ ∀ verified, (Hs256AccessTokenVerifier.mk sampleKey).verify ancientNode 1767226500000
      ancientToken = .ok verified →
      AcceptedInTime 1767226500000 (.finite (-8640000000001)) verified := by
  rw [expiry_fails_closed_iff ancientToken_signed 1767226500000]
  intro hrange
  have hout : ¬ InDateRange ((JsNumber.finite (-8640000000001)).mul (.finite 1000)) := by
    decide +kernel
  exact hout (hrange sampleHeader_expected)

/-- A token that expired before any date is accepted today, and its expiry is no date. -/
theorem ancient_token_is_accepted :
    SignedWith ancientNode ⟨sampleKey⟩ ancientToken sampleHeader (.finite (-8640000000001)) ∧
    (Hs256AccessTokenVerifier.mk sampleKey).verify ancientNode 1767226500000 ancientToken =
      .ok ⟨js "7", js "9", none⟩ ∧
    ¬ BeforeSeconds 1767226500000 (.finite (-8640000000001)) := by
  refine ⟨ancientToken_signed, ?_, ?_⟩
  · decide +kernel
  · norm_num [BeforeSeconds]

end XClone.AccessToken
