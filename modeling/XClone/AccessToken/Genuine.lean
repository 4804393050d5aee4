import XClone.AccessToken.Agreement

/-!
# XClone.AccessToken.Genuine — only genuinely signed tokens are accepted

Every string a caller can send is refused with the one error, or is a signing
input followed by its own MAC. Nothing is assumed of Node here: not even that its
JSON parser is correct.
-/

namespace XClone.AccessToken

open Js

variable {node : Node}

/-- `token` is accepted at some instant. -/
def Accepted (node : Node) (verifier : Hs256AccessTokenVerifier) (token : JsString) : Prop :=
  ∃ now verified, verifier.verify node now token = .ok verified

/-- Whoever sent `token` did not compute a MAC: if it carries the MAC of an input,
a holder of the secret signed that input. -/
def NotForged (node : Node) (secret : Secret) (signed : JsString → Prop) (token : JsString) :
    Prop :=
  ∀ input, token = dotted input (hs256 node secret input) → signed input

/-- The signature segment of an accepted token is determined by the other two. -/
theorem signature_of_accepted {verifier : Hs256AccessTokenVerifier} {h p s : JsString}
    (hh : dot ∉ h) (hp : dot ∉ p)
    (haccepted : Accepted node verifier (dotted (dotted h p) s)) :
    s = hs256 node verifier.secret (dotted h p) := by
  rcases haccepted with ⟨now, verified, hverify⟩
  rcases Hs256AccessTokenVerifier.verify_ok hverify with ⟨eh, ep, header, payload, htoken⟩
  have hours : (dotted (dotted h p) s).splitOn dot = h :: p :: s.splitOn dot := by
    simp only [dotted, List.append_assoc, List.cons_append, List.splitOn_append_cons_self,
      List.splitOn_eq_singleton hh, List.splitOn_eq_singleton hp, List.nil_append]
  have htheirs := splitOn_dotted htoken.dotFree.1 htoken.dotFree.2
    (@dot_notMem_hs256 node verifier.secret (dotted eh ep))
  rw [← htoken.text, hours] at htheirs
  rcases List.cons.inj htheirs with ⟨rfl, htail⟩
  rcases List.cons.inj htail with ⟨rfl, hsig⟩
  have hjoin : [dot].intercalate (s.splitOn dot) = s := List.intercalate_splitOn dot
  rw [hsig] at hjoin
  simpa [List.intercalate] using hjoin.symm

/-- The fate of any text presented as a token: it is refused with the one error,
or it is a signing input followed by its MAC whose decoded claims are returned.
So a signing input has one accepted signature, a wrong one is refused whatever the
header says, and what is accepted was signed by a holder of the secret. -/
theorem only_genuine_tokens_accepted (node : Node) (verifier : Hs256AccessTokenVerifier)
    (token : JsString) :
    (∀ now e, verifier.verify node now token = .error e → e = .invalidAccessToken) ∧
    (∀ now verified, verifier.verify node now token = .ok verified →
      ∃ (h p : JsString) (header payload : Record) (exp : JsNumber),
        token = dotted (dotted h p) (hs256 node verifier.secret (dotted h p)) ∧
        node.jsonParse (node.decodeText h) = some (.obj header) ∧
        header.get (js "alg") = some (.str (js "HS256")) ∧
        header.get (js "typ") = some (.str (js "JWT")) ∧
        node.jsonParse (node.decodeText p) = some (.obj payload) ∧
        payload.get (js "sub") = some (.str verified.userId) ∧
        payload.get (js "sid") = some (.str verified.sessionId) ∧
        payload.get (js "exp") = some (.num exp)) ∧
    (∀ h p s s', dot ∉ h → dot ∉ p → token = dotted (dotted h p) s →
      Accepted node verifier token → Accepted node verifier (dotted (dotted h p) s') → s = s') ∧
    (∀ now h p s, dot ∉ h → dot ∉ p → token = dotted (dotted h p) s →
      s ≠ hs256 node verifier.secret (dotted h p) →
      verifier.verify node now token = .error .invalidAccessToken) ∧
    (∀ signed, NotForged node verifier.secret signed token → Accepted node verifier token →
      ∃ h p s, token = dotted (dotted h p) s ∧ signed (dotted h p)) := by
  refine ⟨?_, ?_, ?_, ?_, ?_⟩
  · -- nothing else is thrown
    intro now e herror
    exact Hs256AccessTokenVerifier.verify_error herror
  · -- what an accepted token is made of
    intro now verified hverify
    rcases Hs256AccessTokenVerifier.verify_ok hverify with ⟨h, p, header, payload, htoken⟩
    rcases Hs256AccessTokenVerifier.readClaims_ok htoken.claims with ⟨exp, hsub, hsid, hexp, -, -⟩
    exact ⟨h, p, header, payload, exp, htoken.text, htoken.headerDecodes, htoken.alg, htoken.typ,
      htoken.payloadDecodes, hsub, hsid, hexp⟩
  · -- one signature for a signing input
    rintro h p s s' hh hp rfl haccepted haccepted'
    rw [signature_of_accepted hh hp haccepted, signature_of_accepted hh hp haccepted']
  · -- a wrong signature
    rintro now h p s hh hp rfl hwrong
    cases hverify : verifier.verify node now (dotted (dotted h p) s) with
    | error e => rw [Hs256AccessTokenVerifier.verify_error hverify]
    | ok verified => exact absurd (signature_of_accepted hh hp ⟨now, verified, hverify⟩) hwrong
  · -- signed by a holder
    rintro signed hforged ⟨now, verified, hverify⟩
    rcases Hs256AccessTokenVerifier.verify_ok hverify with ⟨h, p, header, payload, htoken⟩
    exact ⟨h, p, _, htoken.text, hforged _ htoken.text⟩

/-- The sample token is accepted as signed, and a token with another signature is
refused. -/
theorem sample_token_is_genuine :
    (∃ (h p : JsString) (header payload : Record) (exp : JsNumber),
      sampleToken = dotted (dotted h p) (hs256 sampleNode sampleKey (dotted h p)) ∧
      sampleNode.jsonParse (sampleNode.decodeText h) = some (.obj header) ∧
      header.get (js "alg") = some (.str (js "HS256")) ∧
      header.get (js "typ") = some (.str (js "JWT")) ∧
      sampleNode.jsonParse (sampleNode.decodeText p) = some (.obj payload) ∧
      payload.get (js "sub") = some (.str (js "7")) ∧
      payload.get (js "sid") = some (.str (js "9")) ∧
      payload.get (js "exp") = some (.num exp)) ∧
    (Hs256AccessTokenVerifier.mk sampleKey).verify sampleNode 0
      (dotted (dotted (js "e30") (js "e30")) (js "vaKG")) = .error .invalidAccessToken := by
  have hlive : ¬ expirySecond sampleClaims ≤ 0 := by decide
  have haccept : (Hs256AccessTokenVerifier.mk sampleKey).verify sampleNode 0 sampleToken =
      .ok ⟨js "7", js "9", some (expirySecond sampleClaims)⟩ := by
    have hverify := @verify_issued sampleNode sampleNode_lawful ⟨sampleKey⟩ ⟨sampleKey⟩ rfl
      sampleClaims sampleClaims_valid.1 sampleClaims_valid.2 0
    rw [if_neg hlive] at hverify
    rw [← issue_sample]
    exact hverify
  have hwrong : js "vaKG" ≠ hs256 sampleNode sampleKey (dotted (js "e30") (js "e30")) := by
    decide +kernel
  constructor
  · exact (only_genuine_tokens_accepted sampleNode ⟨sampleKey⟩ sampleToken).2.1 0 _ haccept
  · exact (only_genuine_tokens_accepted sampleNode ⟨sampleKey⟩ _).2.2.2.1 0 _ _ _ (by decide)
      (by decide) rfl hwrong

end XClone.AccessToken
