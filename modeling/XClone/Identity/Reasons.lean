import XClone.Identity.Evidence
import XClone.Identity.Executions

/-!
# XClone.Identity.Reasons — reasons from any store

The reason for a call is in the events of its own execution, so it does not depend on the
store the run started from: `why_of_path` reads it off the path through the use case.
What a run found is still stored at its end, and that does not depend on it either.
-/

namespace XClone.Identity

open Js Interleaving Program SessionTables

variable {settings : Settings} {i : ℕ} {τ : List IdentityEvent}

/-! ## What an execution has done by then -/

/-- Nothing but a refresh revokes. -/
theorem execute_revokes {request : Request} {sessionId : JsString} {revokedAt : Date}
    {next : Unit → UseCase Response}
    (h : Path i (execute settings request) τ (.call (.revoke sessionId revokedAt) next)) :
    ∃ input, request = .refresh input := by
  cases request with
  | refresh input => exact ⟨input, rfl⟩
  | register input => exact (h.only (only_map (registerUser_calls input) _)).elim
  | login input => exact (h.only (login_calls input)).elim
  | getProfile handle => cases h.only (only_map (getProfile_calls handle) _)
  | updateProfile input =>
    rcases h.only (only_map (updateProfile_calls input) _) with ⟨changes, heq⟩
    cases heq

/-- What a refresh has done when it comes to revoke: it found the token spent, or could not
rotate it. -/
inductive ReuseFound (settings : Settings) (i : ℕ) (input : RefreshSessionInput)
    (session : Session) (token : StoredRefreshToken) (now : Date) : List IdentityEvent → Prop where
  | spent : token.spentAt ≠ none → ReuseFound settings i input session token now
      [.returned i (.findByTokenHash (settings.hashRefreshToken input.refreshToken))
          (some ⟨session, token⟩), .returned i .now now]
  | notRotated (minted : RefreshToken) (id : JsString) :
      ReuseFound settings i input session token now
        [.returned i (.findByTokenHash (settings.hashRefreshToken input.refreshToken))
            (some ⟨session, token⟩), .returned i .now now,
          .returned i .createRefreshToken minted, .returned i .nextId id,
          .returned i (.rotate token.id (mintedRow minted id session.id now) now) false]

theorem refresh_revokes {input : RefreshSessionInput} {sessionId : JsString} {revokedAt : Date}
    {next : Unit → UseCase Response}
    (h : Path i (execute settings (.refresh input)) τ (.call (.revoke sessionId revokedAt) next)) :
    ∃ session token, sessionId = session.id ∧
      ReuseFound settings i input session token revokedAt τ := by
  cases h with | returned found h₁ =>
  rcases found with _ | ⟨session, token⟩
  · cases h₁
  cases h₁ with | returned now h₂ =>
  change Path i (Response.tokens <$> RefreshSession.exchange settings session token now) _ _ at h₂
  unfold RefreshSession.exchange at h₂
  split at h₂
  · rename_i hspent
    cases h₂ with
    | nil => exact ⟨session, token, rfl, .spent hspent⟩
    | returned revoked h₃ => cases h₃
  split at h₂
  · cases h₂
  cases h₂ with | returned minted h₃ =>
  cases h₃ with | returned id h₄ =>
  cases h₄ with | returned rotated h₅ =>
  cases rotated with
  | true => cases h₅ with | returned accessToken h₆ => cases h₆
  | false =>
    cases h₅ with
    | nil => exact ⟨session, token, rfl, .notRotated minted id⟩
    | returned revoked h₆ => cases h₆

/-- A refresh revokes the session of a token it found spent, or could not rotate. -/
theorem refresh_reuses {input : RefreshSessionInput} {sessionId : JsString} {revokedAt : Date}
    {next : Unit → UseCase Response}
    (h : Path i (execute settings (.refresh input)) τ (.call (.revoke sessionId revokedAt) next)) :
    ∃ session token, .returned i
        (.findByTokenHash (settings.hashRefreshToken input.refreshToken))
          (some ⟨session, token⟩) ∈ τ ∧ sessionId = session.id ∧
      (token.spentAt ≠ none ∨
        ∃ replacement spentAt, .returned i (.rotate token.id replacement spentAt) false ∈ τ) := by
  rcases refresh_revokes h with ⟨session, token, rfl, hfound⟩
  cases hfound with
  | spent hspent => exact ⟨session, token, List.mem_cons_self, rfl, Or.inl hspent⟩
  | notRotated minted id =>
    exact ⟨session, token, List.mem_cons_self, rfl,
      Or.inr ⟨_, _, List.mem_of_getElem? (i := 4) rfl⟩⟩

/-- Before it issues an access token, a login has opened the session and a refresh has
rotated one of its tokens, at the clock reading the access token is issued for. -/
inductive Opened (settings : Settings) (i : ℕ) (τ : List IdentityEvent) (session : Session)
    (now : Date) : Request → Prop where
  | login {input : LoginInput} {firstToken : StoredRefreshToken} :
      .returned i (.createSession session firstToken) () ∈ τ → session.createdAt = now →
      Opened settings i τ session now (.login input)
  | refresh {input : RefreshSessionInput} {token replacement : StoredRefreshToken} :
      .returned i (.findByTokenHash (settings.hashRefreshToken input.refreshToken))
        (some ⟨session, token⟩) ∈ τ →
      .returned i (.rotate token.id replacement now) true ∈ τ →
      replacement.sessionId = session.id → Opened settings i τ session now (.refresh input)

theorem issues_access {request : Request} {claims : AccessToken.AccessTokenClaims}
    {next : JsString → UseCase Response}
    (h : Path i (execute settings request) τ (.call (.issueAccessToken claims) next)) :
    ∃ session now, claims = accessClaims settings session now ∧ .returned i .now now ∈ τ ∧
      Opened settings i τ session now request := by
  cases request with
  | register input => exact (h.only (only_map (registerUser_calls input) _)).elim
  | getProfile handle => cases h.only (only_map (getProfile_calls handle) _)
  | updateProfile input =>
    rcases h.only (only_map (updateProfile_calls input) _) with ⟨changes, heq⟩
    cases heq
  | login input =>
    cases h with | returned found h₁ =>
    rcases found with _ | credentials
    · cases h₁ with | returned hash h₂ => cases h₂
    cases h₁ with | returned verified h₂ =>
    cases verified with
    | false => cases h₂
    | true =>
      cases h₂ with | returned now h₃ =>
      cases h₃ with | returned id h₄ =>
      cases h₄ with | returned minted h₅ =>
      cases h₅ with | returned tokenId h₆ =>
      cases h₆ with | returned u h₇ =>
      cases h₇ with
      | nil =>
        exact ⟨_, now, rfl, List.mem_of_getElem? (i := 2) rfl,
          .login (List.mem_of_getElem? (i := 6) rfl) rfl⟩
      | returned accessToken h₈ => cases h₈
  | refresh input =>
    cases h with | returned found h₁ =>
    rcases found with _ | ⟨session, token⟩
    · cases h₁
    cases h₁ with | returned now h₂ =>
    change Path i (Response.tokens <$> RefreshSession.exchange settings session token now) _ _ at h₂
    unfold RefreshSession.exchange at h₂
    split at h₂
    · -- a reuse issues nothing
      cases h₂ with | returned u h₃ => cases h₃
    split at h₂
    · cases h₂
    cases h₂ with | returned minted h₃ =>
    cases h₃ with | returned id h₄ =>
    cases h₄ with | returned rotated h₅ =>
    cases rotated with
    | false => cases h₅ with | returned u h₆ => cases h₆
    | true =>
      cases h₅ with
      | nil =>
        exact ⟨session, now, rfl, List.mem_of_getElem? (i := 1) rfl,
          .refresh List.mem_cons_self (List.mem_of_getElem? (i := 4) rfl) rfl⟩
      | returned accessToken h₆ => cases h₆

/-! ## Reasons -/

variable {services : Services}

/-- The call an execution has come to has its reason in what the execution did. -/
theorem why_of_path {request : Request} {call : PortCall} {next : Answer call → UseCase Response}
    (h : Path i (execute services.toSettings request) τ (.call call next)) :
    Why services (.start i request :: τ) i call := by
  cases call with
  | findByTokenHash tokenHash =>
    rcases execute_finds h with ⟨input, rfl⟩
    obtain rfl := refresh_finds h
    cases h
    exact ⟨input, List.mem_cons_self, rfl⟩
  | rotate spentTokenId replacement spentAt =>
    rcases execute_rotates h with ⟨input, rfl⟩
    rcases refresh_rotates h with ⟨session, token, minted, id, rfl, hunspent, hlive, rfl, rfl⟩
    exact ⟨input, session, token, ⟨List.mem_cons_self, by simp⟩, hunspent, by simp, hlive, rfl, rfl,
      rfl⟩
  | revoke sessionId revokedAt =>
    rcases execute_revokes h with ⟨input, rfl⟩
    rcases refresh_reuses h with ⟨session, token, hfound, hid, hreuse⟩
    refine ⟨input, session, token, ⟨List.mem_cons_self, List.mem_cons_of_mem _ hfound⟩, hid, ?_⟩
    rcases hreuse with hspent | ⟨replacement, spentAt, hrefused⟩
    · exact Or.inl hspent
    · exact Or.inr ⟨replacement, spentAt, List.mem_cons_of_mem _ hrefused⟩
  | createSession session firstToken =>
    rcases execute_opens h with ⟨input, rfl⟩
    rcases login_opens h with ⟨credentials, id, minted, tokenId, now, rfl, rfl, rfl⟩
    exact ⟨credentials, ⟨input, List.mem_cons_self, by simp, by simp⟩, rfl, rfl⟩
  | issueAccessToken claims =>
    rcases issues_access h with ⟨session, now, hclaims, hnow, hopened⟩
    refine ⟨session, now, hclaims, List.mem_cons_of_mem _ hnow, ?_⟩
    cases hopened with
    | login hcreated _ => exact Or.inl ⟨_, List.mem_cons_of_mem _ hcreated⟩
    | @refresh input token replacement hfound hrotated _ =>
      exact Or.inr ⟨input, token, replacement,
        ⟨List.mem_cons_self, List.mem_cons_of_mem _ hfound⟩, List.mem_cons_of_mem _ hrotated⟩
  | updateProfile userId changes =>
    rcases execute_updates h with ⟨input, rfl⟩
    have hcall := h.only (only_map (updateProfile_calls input) _)
    rcases hcall with ⟨changes', heq⟩
    cases heq
    exact ⟨input, List.mem_cons_self, rfl⟩
  | existsByHandle | createUser | findCredentialsByHandle | findByHandle | hashPassword
  | verifyPassword | createRefreshToken | nextId | now => trivial

section Runs

variable {s : Store services.lower} {c : IdentityConfig services}

/-- What a thread has done is in the history, its start included. -/
theorem started_subset {request : Request} {events : List IdentityEvent} {p : UseCase Response}
    (hdid : Did (machine services) τ i request events p) : .start i request :: events ⊆ τ := by
  intro e he
  rcases List.mem_cons.mp he with rfl | he
  · exact hdid.started
  · exact hdid.subset he

/-- A call under way has its reason in the history. -/
theorem pending_why (hrun : Run (machine services) (.initial s) τ c) {request : Request}
    {call : PortCall} {next : Answer call → UseCase Response}
    (hthread : c.threads i = some ⟨request, .call call next⟩) : Why services τ i call := by
  rcases hrun.did hthread with ⟨events, hdid⟩
  exact (why_of_path hdid.went.calling).mono (started_subset hdid)

/-- So has a call that was answered. -/
theorem answered_why (hrun : Run (machine services) (.initial s) τ c) {call : PortCall}
    {answer : Answer call} (hmem : .returned i call answer ∈ τ) : Why services τ i call := by
  rcases hrun.done_by hmem (i := i) rfl with ⟨request, p, events, -, hdid⟩
  rcases hdid.went.called (hdid.returned.mp hmem) with ⟨τ₁, τ₂, next, rfl, hbefore⟩
  refine (why_of_path hbefore).mono fun e he => started_subset hdid ?_
  rcases List.mem_cons.mp he with rfl | he
  · exact List.mem_cons_self
  · exact List.mem_cons_of_mem _ (List.mem_append_left _ he)

/-- What was found is a token with its session, and both rows stay. -/
theorem found_stored (hrun : Run (machine services) (.initial s) τ c) {tokenHash : JsString}
    {session : Session} {token : StoredRefreshToken}
    (hfound : .returned i (.findByTokenHash tokenHash) (some ⟨session, token⟩) ∈ τ) :
    token.tokenHash = tokenHash ∧ session.id = token.sessionId ∧
      (∃ row ∈ c.store.tables.refreshTokens.rows, TokenLater token row) ∧
      (∃ row ∈ c.store.tables.sessions.rows, SessionLater session row) := by
  rcases hrun.answered_at hfound with ⟨τ₁, τ₂, c₁, c₂, -, -, ⟨hsame, hanswer⟩, hafter⟩
  rcases DrizzleSessionRepository.findByTokenHash_some hanswer.symm with
    ⟨htoken, hhash, hsession, hid⟩
  have hlater := (run_later hafter).tables
  rw [hsame] at hlater
  exact ⟨hhash, hid, hlater.token token htoken, hlater.session session hsession⟩

/-- A rotation was refused for a session that was revoked, or a token that was spent: they
still are. -/
theorem refused_rotation (hrun : Run (machine services) (.initial s) τ c) {spentTokenId : JsString}
    {next : StoredRefreshToken} {spentAt : Date}
    (hmem : .returned i (.rotate spentTokenId next spentAt) false ∈ τ) :
    c.store.tables.Revoked next.sessionId ∨
      ∃ row ∈ c.store.tables.refreshTokens.rows, row.id = spentTokenId ∧ row.spentAt ≠ none := by
  rcases hrun.at hmem with ⟨τ₁, τ₂, c₁, c₂, rfl, hbefore, hstep, hafter⟩
  have hlater : Later c₁.store.tables c.store.tables :=
    ((step_later hstep).trans (run_later hafter)).tables
  cases hstep with
  | returned hthread hreturns =>
    rcases pending_why hbefore hthread with
      ⟨input, session, found, hpresented, -, -, -, hid, hsession, -⟩
    rcases found_stored hbefore hpresented.2 with
      ⟨-, hfoundSession, ⟨row, hrow, hrowLater⟩, ⟨owner, howner, hownerLater⟩⟩
    have hrowId : row.id = spentTokenId := by
      rw [hid, hrowLater.id]
    have hrowSession : row.sessionId = next.sessionId := by
      rw [hsession, hfoundSession, hrowLater.sessionId]
    have hownerId : owner.id = next.sessionId := by
      rw [hsession, hownerLater.id]
    rcases DrizzleSessionRepository.rotate_cases hreturns.2 with ⟨hno, -⟩ | ⟨-, -, hrefuses⟩
    · cases hno
    rcases hrefuses with hrevoked | hspent
    · exact Or.inl (hlater.revoked ⟨owner, howner, hownerId, hrevoked owner howner hownerId⟩)
    · have hset := hspent row hrow hrowId hrowSession
      rcases hlater.token row hrow with ⟨row', hrow', hrowLater'⟩
      refine Or.inr ⟨row', hrow', hrowLater'.id.trans hrowId, ?_⟩
      rw [hrowLater'.2 hset]
      exact hset

end Runs

end XClone.Identity
