import XClone.Lib.Effects
import XClone.Identity.Reasons
import XClone.Identity.Scheduler

/-!
# XClone.Identity.AllOrNothing — a use case happens as a whole or not at all

Every use case that writes does so with one call, and after that call nothing can fail:
`execute_commits`. So whichever calls fail, and whatever other executions do in between,
an execution that ends in an error has changed no table, but for the revocation of a
session whose token was reused, and one that returns has made its one contribution.
-/

namespace XClone.Identity

open Js Interleaving Program Relational

variable {settings : Settings}

/-! ## What may change the store -/

/-- The answers that come with a change of a table. -/
def changes : (c : PortCall) → Answer c → Bool
  | .createUser _ _, _ => true
  | .createSession _ _, _ => true
  | .rotate _ _ _, rotated => rotated
  | .revoke _ _, _ => true
  | .updateProfile _ _, returned => returned.isSome
  | _, _ => false

/-- The calls that cannot fail and that follow a write. -/
def NeverThrows : PortCall → Prop
  | .issueAccessToken _ => True
  | _ => False

/-- How an execution ends once a call has changed the store: a revocation rejects the
token, everything else is answered. -/
def endsAfter : PortCall → Option Failure → Prop
  | .revoke _ _, outcome => outcome = some .invalidRefreshToken
  | _, outcome => outcome = none

theorem neverThrows {services : Services} (c : PortCall) (s : Store services.lower) (e : Failure)
    (hc : NeverThrows c) : ¬ (machine services).throws c s e := by
  cases c with
  | issueAccessToken claims =>
    intro hthrows
    exact hthrows
  | _ => exact hc.elim

@[ext] theorem Store.ext {lower : JsString → JsString} {s s' : Store lower}
    (ha : s.accounts = s'.accounts) (ht : s.tables = s'.tables) : s = s' := by
  cases s
  cases s'
  cases ha
  cases ht
  rfl

/-- The other answers leave the store as it was. -/
theorem machine_keeps (services : Services) : (machine services).Keeps changes := by
  intro c s answer s' hreturns hquiet
  have hreturns : returns services c s answer s' := hreturns
  apply Store.ext
  · cases wroteAccounts hreturns with
    | nothing _ hsame => exact hsame
    | created user passwordHash hcreate => cases hquiet
    | updated userId patch returned hupdate =>
      -- nobody has that id
      obtain rfl : returned = none := Option.not_isSome_iff_eq_none.mp (Bool.eq_false_iff.mp hquiet)
      exact DrizzleProfileRepository.update_unknown hupdate
  · cases wrote hreturns with
    | nothing _ hsame => exact hsame
    | created session firstToken hcreate => cases hquiet
    | revoked sessionId revokedAt hrevoke => cases hquiet
    | rotated spentTokenId next spentAt rotated hrotate =>
      rcases DrizzleSessionRepository.rotate_cases hrotate with ⟨rfl, -⟩ | ⟨-, hsame, -⟩
      · cases hquiet
      · exact hsame

/-! ## Every write comes last -/

/-- A program that commits as the use cases do. -/
abbrev UseCase.Commits {α : Type} (p : UseCase α) : Prop :=
  Program.Commits changes NeverThrows endsAfter p

theorem registerUser_commits (input : RegisterUserInput) :
    (RegisterUser.execute input).Commits := by
  refine commits_ofExcept fun _ _ => commits_ofExcept fun _ _ => ?_
  intro taken
  cases taken with
  | true => trivial
  | false =>
    intro passwordHash id createdAt created
    exact rfl

theorem issueTokens_settles (session : Session) (refreshToken : JsString) (now : Date) :
    (issueTokens settings session refreshToken now).Settles changes NeverThrows (· = none) := by
  refine ⟨trivial, ?_⟩
  intro accessToken
  exact ⟨rfl, rfl⟩

theorem login_commits (input : LoginInput) : (Login.execute settings input).Commits := by
  intro found
  rcases found with _ | credentials
  · -- an unknown handle
    intro hash
    trivial
  intro verified
  cases verified with
  | false => trivial
  | true =>
    intro now id minted tokenId created
    exact issueTokens_settles (loginSession settings input credentials id now) minted.token now

theorem rejectAsReuse_commits (sessionId : JsString) (now : Date) :
    (RefreshSession.rejectAsReuse sessionId now).Commits := by
  intro revoked
  exact rfl

theorem exchange_commits (session : Session) (token : StoredRefreshToken) (now : Date) :
    (RefreshSession.exchange settings session token now).Commits := by
  unfold RefreshSession.exchange
  split
  · exact rejectAsReuse_commits session.id now
  split
  · trivial
  intro minted id rotated
  cases rotated with
  | false => exact rejectAsReuse_commits session.id now
  | true => exact issueTokens_settles session minted.token now

theorem refresh_commits (input : RefreshSessionInput) :
    (RefreshSession.execute settings input).Commits := by
  intro found
  rcases found with _ | ⟨session, token⟩
  · trivial
  intro now
  exact exchange_commits session token now

theorem updateProfile_commits (input : UpdateProfileInput) :
    (UpdateProfile.execute input).Commits := by
  refine commits_ofExcept fun displayName _ => commits_ofExcept fun bio _ => ?_
  split
  · trivial
  intro returned
  cases returned with
  | none => trivial
  | some profile => exact rfl

/-- The four use cases that write. -/
def Request.Writes : Request → Prop
  | .getProfile _ => False
  | _ => True

/-- Each of them writes last. -/
theorem execute_commits {request : Request} (hrequest : request.Writes) :
    (execute settings request).Commits := by
  cases request with
  | register input => exact commits_map (registerUser_commits input) _
  | login input => exact commits_map (login_commits input) _
  | refresh input => exact commits_map (refresh_commits input) _
  | updateProfile input => exact commits_map (updateProfile_commits input) _
  | getProfile handle => exact hrequest.elim

/-! ## What an execution contributes -/

section Contributions

variable {lower : JsString → JsString}

/-- One user and one credentials row, for the handle asked for. -/
structure AddsAccount (input : RegisterUserInput) (user : User) (passwordHash : JsString)
    (s s' : Store lower) : Prop where
  handle : user.handle = input.handle
  users : s'.accounts.users.rows = DrizzleUserRepository.userRow user :: s.accounts.users.rows
  credentials : s'.accounts.credentials.rows =
    ⟨user.id, passwordHash⟩ :: s.accounts.credentials.rows
  tables : s'.tables = s.tables

/-- One session and its first token, which is unspent. -/
structure OpensSession (session : Session) (token : StoredRefreshToken) (s s' : Store lower) :
    Prop where
  first : token.sessionId = session.id ∧ token.spentAt = none
  sessions : s'.tables.sessions.rows = session :: s.tables.sessions.rows
  tokens : s'.tables.refreshTokens.rows = token :: s.tables.refreshTokens.rows
  accounts : s'.accounts = s.accounts

/-- One token marked spent, and one new unspent token in its session. -/
structure ExchangesToken (old next : StoredRefreshToken) (spentAt : Date) (s s' : Store lower) :
    Prop where
  unspent : old ∈ s.tables.refreshTokens.rows ∧ old.spentAt = none
  fresh : next.sessionId = old.sessionId ∧ next.spentAt = none
  tokens : s'.tables.refreshTokens.rows = next :: s.tables.refreshTokens.rows.map fun row =>
    if row = old then { row with spentAt := some spentAt } else row
  sessions : s'.tables.sessions = s.tables.sessions
  accounts : s'.accounts = s.accounts

/-- The fields the input names, of the row it names. -/
structure PatchesRow (input : UpdateProfileInput) (patch : ProfileChanges) (old : UserRow)
    (s s' : Store lower) : Prop where
  named : Normalises input patch
  row : old ∈ s.accounts.users.rows ∧ old.id = input.userId
  users : s'.accounts.users.rows = s.accounts.users.rows.map fun row =>
    if row = old then DrizzleProfileRepository.patched patch row else row
  credentials : s'.accounts.credentials = s.accounts.credentials
  tables : s'.tables = s.tables

/-- What a use case contributes when it returns. -/
def Contributes : Request → Store lower → Store lower → Prop
  | .register input, s, s' => ∃ user passwordHash, AddsAccount input user passwordHash s s'
  | .login _, s, s' => ∃ session token, OpensSession session token s s'
  | .refresh _, s, s' => ∃ old next spentAt, ExchangesToken old next spentAt s s'
  | .updateProfile input, s, s' => ∃ patch old, PatchesRow input patch old s s'
  | .getProfile _, s, s' => s' = s

/-- `revokedAt` of one session, if it was null. -/
def Revokes (sessionId : JsString) (s s' : Store lower) : Prop :=
  ∃ revokedAt, s'.tables.sessions.rows = (s.tables.sessions.rows.map fun row =>
      if row.id = sessionId ∧ row.revokedAt = none then { row with revokedAt := some revokedAt }
      else row) ∧
    s'.tables.refreshTokens = s.tables.refreshTokens ∧ s'.accounts = s.accounts

end Contributions

/-- Execution `i` presented a token of the session that was spent, or whose rotation was
refused: a reuse. -/
def Reuses (τ : List IdentityEvent) (i : ℕ) (session : Session) : Prop :=
  ∃ tokenHash token, .returned i (.findByTokenHash tokenHash) (some ⟨session, token⟩) ∈ τ ∧
    (token.spentAt ≠ none ∨
      ∃ spentTokenId next spentAt, .returned i (.rotate spentTokenId next spentAt) false ∈ τ)

/-! ## What each writing call does -/

theorem spend_rows {t : SessionTables} {old : StoredRefreshToken} {sessionId : JsString}
    (hold : old ∈ t.refreshTokens.rows) (hsession : old.sessionId = sessionId)
    (hunspent : old.spentAt = none) (spentAt : Date) :
    (t.spend old.id sessionId spentAt).refreshTokens.rows = t.refreshTokens.rows.map fun row =>
      if row = old then { row with spentAt := some spentAt } else row := by
  refine List.map_congr_left fun row hrow => ?_
  by_cases heq : row = old
  · subst heq
    rw [if_pos rfl, if_pos (SessionTables.spends_iff.mpr ⟨rfl, hsession, hunspent⟩)]
  · -- another token has another id
    rw [if_neg heq, if_neg]
    intro hspends
    exact heq (t.token_unique hrow hold (SessionTables.spends_iff.mp hspends).1)

theorem revoke_rows (t : SessionTables) (sessionId : JsString) (revokedAt : Date) :
    (DrizzleSessionRepository.revoke t sessionId revokedAt).sessions.rows =
      t.sessions.rows.map fun row =>
        if row.id = sessionId ∧ row.revokedAt = none then { row with revokedAt := some revokedAt }
        else row := by
  refine List.map_congr_left fun row _ => ?_
  simp only [SessionTables.isLive_iff]

theorem update_rows {lower : JsString → JsString} {t t' : UserTables lower} {userId : JsString}
    {patch : ProfileChanges} {profile : Profile}
    (h : DrizzleProfileRepository.update t userId patch = some (some profile, t')) :
    ∃ old ∈ t.users.rows, old.id = userId ∧ t'.credentials = t.credentials ∧
      t'.users.rows = t.users.rows.map fun row =>
        if row = old then DrizzleProfileRepository.patched patch row else row := by
  have hreturned := DrizzleProfileRepository.update_answer h
  have hcredentials := (DrizzleProfileRepository.update_spec h).1
  -- the row that was returned is the patched one
  obtain ⟨row', hrow', -⟩ := Option.map_eq_some_iff.mp hreturned.symm
  rcases List.mem_filter.mp (List.mem_of_head? hrow') with ⟨hmem, hid⟩
  rcases ((DrizzleProfileRepository.update_spec h).2 row').mp hmem with ⟨old, hold, heq⟩
  have hid' : old.id = userId := by
    have hrow := of_decide_eq_true hid
    rw [heq] at hrow
    split at hrow
    · exact hrow
    · exact hrow
  refine ⟨old, hold, hid', hcredentials, ?_⟩
  unfold DrizzleProfileRepository.update at h
  split at h
  · cases h
  · rw [← (Prod.mk.inj (Option.some.inj h)).2]
    refine List.map_congr_left fun row hrow => ?_
    by_cases hsame : row = old
    · subst hsame
      rw [if_pos rfl, if_pos (decide_eq_true hid')]
    · rw [if_neg hsame, if_neg]
      intro hmatch
      have hmatch := of_decide_eq_true hmatch
      exact hsame (t.user_unique hrow hold (hmatch.trans hid'.symm))

/-- What a refresh found before it comes to revoke is a reuse. -/
theorem ReuseFound.reuses {i : ℕ} {τ : List IdentityEvent} {input : RefreshSessionInput}
    {session : Session} {token : StoredRefreshToken} {now : Date}
    (h : ReuseFound settings i input session token now τ) : Reuses τ i session := by
  cases h with
  | spent hspent => exact ⟨_, token, List.mem_cons_self, Or.inl hspent⟩
  | notRotated minted id =>
    exact ⟨_, token, List.mem_cons_self, Or.inr ⟨_, _, _, List.mem_of_getElem? (i := 4) rfl⟩⟩

/-- A writing call of a use case makes its contribution, or revokes a reused session. -/
theorem writing_call {services : Services} {s s' : Store services.lower} {i : ℕ}
    {τ : List IdentityEvent} {request : Request} (hrequest : request.Writes) {call : PortCall}
    {next : Answer call → UseCase Response} {answer : Answer call}
    (hpath : Path i (execute services.toSettings request) τ (.call call next))
    (hreturns : returns services call s answer s') (hwrites : changes call answer = true) :
    (Contributes request s s' ∧ ∀ outcome, endsAfter call outcome → outcome = none) ∨
      (∃ input session, request = .refresh input ∧ Reuses τ i session ∧ Revokes session.id s s' ∧
        ∀ outcome, endsAfter call outcome → outcome = some .invalidRefreshToken) := by
  cases request with
  | getProfile handle => exact hrequest.elim
  | register input =>
    have hcall := hpath.only (only_map (registerUser_calls input) _)
    cases call with
    | createUser user passwordHash =>
      rcases register_creates hpath with ⟨id, createdAt, -, -, rfl⟩
      rcases DrizzleUserRepository.create_spec hreturns.2 with ⟨-, husers, hcredentials⟩
      exact Or.inl ⟨⟨_, passwordHash, rfl, husers, hcredentials, hreturns.1⟩, fun _ h => h⟩
    | createSession | rotate | revoke | updateProfile => exact hcall.elim
    | _ => cases hwrites
  | login input =>
    have hcall := hpath.only (login_calls input)
    cases call with
    | createSession session firstToken =>
      rcases login_opens hpath with ⟨credentials, id, minted, tokenId, now, -, rfl, rfl⟩
      rcases DrizzleSessionRepository.create_spec hreturns.2 with ⟨-, -, hsessions, htokens⟩
      exact Or.inl ⟨⟨_, _, ⟨rfl, rfl⟩, hsessions, htokens, hreturns.1⟩, fun _ h => h⟩
    | createUser | rotate | revoke | updateProfile => exact hcall.elim
    | _ => cases hwrites
  | refresh input =>
    have hcall := hpath.only (refresh_calls input)
    cases call with
    | rotate spentTokenId next' spentAt =>
      obtain rfl : answer = true := hwrites
      rcases DrizzleSessionRepository.rotate_cases hreturns.2 with ⟨-, hrotated⟩ | ⟨hno, -⟩
      · rcases refresh_rotates hpath with ⟨session, token, minted, id, -, -, -, -, rfl⟩
        rcases hrotated.unspent with ⟨old, hold, rfl, hsession, hunspent⟩
        refine Or.inl ⟨⟨old, _, spentAt, ⟨hold, hunspent⟩, ⟨hsession.symm, rfl⟩, ?_,
          hrotated.sessions, hreturns.1⟩, fun _ h => h⟩
        rw [← spend_rows hold hsession hunspent spentAt]
        exact hrotated.tokens
      · cases hno
    | revoke sessionId revokedAt =>
      rcases refresh_revokes hpath with ⟨session, token, rfl, hreuse⟩
      refine Or.inr ⟨input, session, rfl, hreuse.reuses, ⟨revokedAt, ?_, ?_, hreturns.1⟩, fun _ h => h⟩
      · rw [hreturns.2]
        exact revoke_rows s.tables session.id revokedAt
      · rw [hreturns.2]
        rfl
    | createUser | createSession | updateProfile => exact hcall.elim
    | _ => cases hwrites
  | updateProfile input =>
    rcases updateProfile_writes hpath with ⟨-, patch, hpatch, rfl⟩
    obtain ⟨profile, rfl⟩ := Option.isSome_iff_exists.mp hwrites
    rcases update_rows hreturns.2 with ⟨old, hold, hid, hcredentials, husers⟩
    exact Or.inl ⟨⟨patch, old, hpatch, ⟨hold, hid⟩, husers, hcredentials, hreturns.1⟩, fun _ h => h⟩

/-! ## All or nothing -/

section AllOrNothing

variable {services : Services} {s : Store services.lower} {c : IdentityConfig services}
  {ξ : List (Effect (Store services.lower) Request Failure PortCall Answer)}

/-- An execution has found at most one session. -/
theorem found_once {i : ℕ} {events : List IdentityEvent} {input : RefreshSessionInput}
    {p : UseCase Response} (h : Went i (execute settings (.refresh input)) events p)
    {tokenHash tokenHash' : JsString} {found found' : Option SessionWithToken}
    (hmem : .returned i (.findByTokenHash tokenHash) found ∈ events)
    (hmem' : .returned i (.findByTokenHash tokenHash') found' ∈ events) : found = found' := by
  rcases h.split hmem with ⟨τ₁, τ₂, next, rfl, hbefore, -⟩
  rcases h.split hmem' with ⟨τ₁', τ₂', next', heq, hbefore', -⟩
  obtain rfl := refresh_finds hbefore
  obtain rfl := refresh_finds hbefore'
  cases heq
  rfl

theorem Reuses.mono {τ τ' : List IdentityEvent} {i : ℕ} {session : Session}
    (h : Reuses τ i session) (hsub : τ ⊆ τ') : Reuses τ' i session := by
  rcases h with ⟨tokenHash, token, hfound, hspent | ⟨spentTokenId, next, spentAt, hrefused⟩⟩
  · exact ⟨tokenHash, token, hsub hfound, Or.inl hspent⟩
  · exact ⟨tokenHash, token, hsub hfound, Or.inr ⟨spentTokenId, next, spentAt, hsub hrefused⟩⟩

/-- Only a refresh can reuse a token, and it finds one session. -/
theorem reuse_of_run {τ : List IdentityEvent} (hrun : Run (machine services) (.initial s) τ c)
    {i : ℕ} {request : Request} {p : UseCase Response}
    (hthread : c.threads i = some ⟨request, p⟩) {session : Session} (hreuse : Reuses τ i session) :
    (∃ input, request = .refresh input) ∧ ∀ session', Reuses τ i session' → session' = session := by
  rcases hrun.did hthread with ⟨events, hdid⟩
  rcases hreuse with ⟨tokenHash, token, hfound, -⟩
  have hfound := hdid.returned.mp hfound
  rcases hdid.went.called hfound with ⟨τ₁, τ₂, next, -, hpath⟩
  rcases execute_finds hpath with ⟨input, rfl⟩
  refine ⟨⟨input, rfl⟩, ?_⟩
  rintro session' ⟨tokenHash', token', hfound', -⟩
  cases found_once hdid.went hfound (hdid.returned.mp hfound')
  rfl

/-- A refresh that rejects a reuse has revoked a session. -/
theorem rejected_reuse_revokes {τ : List IdentityEvent}
    (hrun : Run (machine services) (.initial s) τ c) {i : ℕ} {input : RefreshSessionInput}
    (hthread : c.threads i = some ⟨.refresh input, .failed .invalidRefreshToken⟩)
    {session : Session} (hreuse : Reuses τ i session) :
    ∃ sessionId revokedAt, .returned i (.revoke sessionId revokedAt) () ∈ τ := by
  rcases hrun.did hthread with ⟨events, hdid⟩
  have hwent := hdid.went
  rcases hreuse with ⟨tokenHash, token, hfound, hreuse⟩
  have hfound := hdid.returned.mp hfound
  cases hwent with
  | @threw before call next _ hpath =>
    -- no port throws this error
    have hthrown := hdid.subset (List.mem_append_right _ (List.mem_singleton_self _))
    rcases hrun.thrown hthrown with ⟨s₁, hthrows⟩
    rcases throws_cases hthrows with hno | hno | ⟨user, passwordHash, -, hno⟩ <;> cases hno
  | answered hpath =>
    cases (refresh_rejected hpath).2 with
    | unknown => simp at hfound
    | spent session' token' now hspent =>
      exact ⟨session'.id, now, hdid.subset (List.mem_of_getElem? (i := 2) rfl)⟩
    | notRotated session' token' now minted id hunspent hvalid =>
      exact ⟨session'.id, now, hdid.subset (List.mem_of_getElem? (i := 5) rfl)⟩
    | expired session' token' now hunspent hexpired =>
      -- an expired token is rejected without a rotation
      rcases hreuse with hspent | ⟨spentTokenId, next, spentAt, hrefused⟩
      · cases found_once hdid.went hfound List.mem_cons_self
        exact absurd hunspent hspent
      · have hrefused := hdid.returned.mp hrefused
        simp at hrefused

/-- Whichever calls fail, and whatever other executions do meanwhile: an execution that
ends in an error has changed nothing, but for a reuse, which revokes the one session; and
one that returns has made its contribution in one step and changed nothing else. -/
theorem use_cases_are_all_or_nothing (hrun : Effects (machine services) (.initial s) ξ c) {i : ℕ}
    {request : Request} (hrequest : request.Writes) :
    (∀ e, c.threads i = some ⟨request, .failed e⟩ →
      (∀ session, e = .invalidRefreshToken → Reuses (history ξ) i session →
        (∃ input, request = .refresh input) ∧ Once i ξ (Revokes session.id)) ∧
      ((∀ session, ¬ (e = .invalidRefreshToken ∧ Reuses (history ξ) i session)) → Silent i ξ)) ∧
    ∀ response, c.threads i = some ⟨request, .done response⟩ → Once i ξ (Contributes request) := by
  constructor
  · intro e hthread
    rcases hrun.commits (machine_keeps services) neverThrows hthread (execute_commits hrequest) with
      ⟨hquiet, hsilent, -⟩ |
      ⟨before, call, next, answer, s₁, s₂, ξ₁, ξ₂, hpath, hbefore, rfl, hwrites, hreturns, hsilent,
        hend⟩
    · refine ⟨?_, fun _ => hsilent⟩
      rintro session rfl hreuse
      rcases (reuse_of_run hrun.run hthread hreuse).1 with ⟨input, rfl⟩
      rcases rejected_reuse_revokes hrun.run hthread hreuse with ⟨sessionId, revokedAt, hmem⟩
      cases hquiet _ _ hmem
    · rcases writing_call hrequest hpath hreturns hwrites with
        ⟨-, hends⟩ | ⟨input, session, rfl, hreuse, hrevokes, hends⟩
      · -- it would have returned
        cases hends _ hend
      · cases hends _ hend
        have hreuse := hreuse.mono hbefore
        constructor
        · intro session' _ hreuse'
          obtain rfl := (reuse_of_run hrun.run hthread hreuse).2 session' hreuse'
          exact ⟨⟨input, rfl⟩, ξ₁, _, ξ₂, rfl, rfl, hrevokes, hsilent⟩
        · intro hno
          exact absurd ⟨rfl, hreuse⟩ (hno session)
  · intro response hthread
    rcases hrun.commits (machine_keeps services) neverThrows hthread (execute_commits hrequest) with
      ⟨-, -, hno⟩ |
      ⟨before, call, next, answer, s₁, s₂, ξ₁, ξ₂, hpath, -, rfl, hwrites, hreturns, hsilent, hend⟩
    · exact absurd rfl (hno response)
    · rcases writing_call hrequest hpath hreturns hwrites with
        ⟨hcontributes, -⟩ | ⟨input, session, rfl, -, -, hends⟩
      · exact ⟨ξ₁, _, ξ₂, rfl, rfl, hcontributes, hsilent⟩
      · -- a revocation ends in an error
        cases hends _ hend

/-- The registration of the sign-up left one user and one credentials row. -/
theorem sample_registration_is_whole :
    ∃ ξ, history ξ = sampleSignedUp.2 ∧
      Effects (machine sampleServices) (.initial (.blank asciiLower)) ξ sampleSignedUp.1 ∧
      Once 0 ξ (Contributes (.register ⟨js "sam", js "correct horse 1"⟩)) := by
  rcases sampleSignedUp_run.effects with ⟨ξ, hhistory, hrun⟩
  refine ⟨ξ, hhistory, hrun, ?_⟩
  have hwrites : (Request.register ⟨js "sam", js "correct horse 1"⟩).Writes := trivial
  exact (use_cases_are_all_or_nothing hrun hwrites).2 _ rfl

end AllOrNothing

end XClone.Identity
