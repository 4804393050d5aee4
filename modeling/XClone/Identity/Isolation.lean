import XClone.Identity.Evidence
import XClone.Identity.Executions
import XClone.Identity.GrpcController
import XClone.Identity.Reasons
import XClone.Identity.TokenChain
import XClone.Lib.Deletion

/-!
# XClone.Identity.Isolation — sessions are isolated

A session is revoked only when one of its own tokens was presented twice, and what is
presented to one session is invisible to the others: without the executions that present
its tokens the run is a run, in which every other session has the same rows and every
other execution the same end. The tables with and without them agree on all other
sessions (`AgreeBut`), and every statement of a refresh selects by session.
-/

namespace XClone.Identity

open Js Interleaving SessionTables Relational

/-! ## Tables that agree but for one session -/

/-- A session as it was opened. -/
def unrevoked (session : Session) : Session := { session with revokedAt := none }

/-- `t` and `t'` have the same rows but for the session `sessionId`, which is open in
both or in neither, and `t'` has no token that is not in `t`. -/
structure AgreeBut (sessionId : JsString) (t t' : SessionTables) : Prop where
  sessions : t'.sessions.rows.filter (·.id ≠ sessionId) = t.sessions.rows.filter (·.id ≠ sessionId)
  opened : t'.sessions.rows.map unrevoked = t.sessions.rows.map unrevoked
  tokens : t'.refreshTokens.rows.filter (·.sessionId ≠ sessionId) =
    t.refreshTokens.rows.filter (·.sessionId ≠ sessionId)
  columns : ∀ row' ∈ t'.refreshTokens.rows, ∃ row ∈ t.refreshTokens.rows,
    row.id = row'.id ∧ row.tokenHash = row'.tokenHash ∧ row.sessionId = row'.sessionId

namespace AgreeBut

variable {sessionId : JsString} {t t' u : SessionTables}

theorem refl (sessionId : JsString) (t : SessionTables) : AgreeBut sessionId t t :=
  ⟨rfl, rfl, rfl, fun row hrow => ⟨row, hrow, rfl, rfl, rfl⟩⟩

/-- The other sessions are in both. -/
theorem mem_session (h : AgreeBut sessionId t t') {session : Session}
    (hother : session.id ≠ sessionId) :
    session ∈ t'.sessions.rows ↔ session ∈ t.sessions.rows := by
  have hmem {rows : List Session} : session ∈ rows.filter (·.id ≠ sessionId) ↔ session ∈ rows := by
    simp [hother]
  rw [← hmem, h.sessions, hmem]

/-- So are their tokens. -/
theorem mem_token (h : AgreeBut sessionId t t') {token : StoredRefreshToken}
    (hother : token.sessionId ≠ sessionId) :
    token ∈ t'.refreshTokens.rows ↔ token ∈ t.refreshTokens.rows := by
  have hmem {rows : List StoredRefreshToken} :
      token ∈ rows.filter (·.sessionId ≠ sessionId) ↔ token ∈ rows := by
    simp [hother]
  rw [← hmem, h.tokens, hmem]

/-- Sessions have the same ids. -/
theorem ids (h : AgreeBut sessionId t t') :
    t'.sessions.rows.map Session.id = t.sessions.rows.map Session.id := by
  have hmap {rows : List Session} :
      (rows.map unrevoked).map Session.id = rows.map Session.id := by
    rw [List.map_map]
    rfl
  rw [← hmap, h.opened, hmap]

theorem fresh_session (h : AgreeBut sessionId t t') {session : Session}
    (hfresh : ¬ t.sessions.Conflicts session) : ¬ t'.sessions.Conflicts session := by
  rintro ⟨column, hcolumn, hmem⟩
  obtain rfl := List.mem_singleton.mp hcolumn
  rw [h.ids] at hmem
  exact hfresh ⟨Session.id, hcolumn, hmem⟩

theorem fresh_token (h : AgreeBut sessionId t t') {token : StoredRefreshToken}
    (hfresh : ¬ t.refreshTokens.Conflicts token) : ¬ t'.refreshTokens.Conflicts token := by
  rintro ⟨column, hcolumn, hmem⟩
  rcases List.mem_map.mp hmem with ⟨row', hrow', heq⟩
  rcases h.columns row' hrow' with ⟨row, hrow, hid, hhash, -⟩
  have hsame : column row = column row' := by
    simp only [List.mem_cons, List.not_mem_nil, or_false] at hcolumn
    rcases hcolumn with rfl | rfl
    · exact hid
    · exact hhash
  exact hfresh ⟨column, hcolumn, List.mem_map.mpr ⟨row, hrow, hsame.trans heq⟩⟩

/-- A token inserted in both has its like in both. -/
theorem columns_cons {token : StoredRefreshToken} {rows rows' : List StoredRefreshToken}
    (h : ∀ row' ∈ rows', ∃ row ∈ rows,
      row.id = row'.id ∧ row.tokenHash = row'.tokenHash ∧ row.sessionId = row'.sessionId) :
    ∀ row' ∈ token :: rows', ∃ row ∈ token :: rows,
      row.id = row'.id ∧ row.tokenHash = row'.tokenHash ∧ row.sessionId = row'.sessionId := by
  intro row' hrow'
  rcases List.mem_cons.mp hrow' with rfl | hrow'
  · exact ⟨row', List.mem_cons_self, rfl, rfl, rfl⟩
  · rcases h row' hrow' with ⟨row, hrow, hcolumns⟩
    exact ⟨row, List.mem_cons_of_mem _ hrow, hcolumns⟩

/-- A change that selects rows as before keeps selected rows the same. -/
theorem filter_map_congr {α : Type} {rows rows' : List α} {f : α → α} {p : α → Bool}
    (hp : ∀ r, p (f r) = p r) (h : rows'.filter p = rows.filter p) :
    (rows'.map f).filter p = (rows.map f).filter p := by
  have hmap (rows : List α) : (rows.map f).filter p = (rows.filter p).map f := by
    rw [List.filter_map]
    congr 1
    exact List.filter_congr fun r _ => hp r
  rw [hmap, hmap, h]

/-! ### What the other sessions do -/

/-- A lookup of a hash that is not one of the session's. -/
theorem find (h : AgreeBut sessionId t t') {tokenHash : JsString}
    (hother : ∀ row ∈ t.refreshTokens.rows, row.tokenHash = tokenHash → row.sessionId ≠ sessionId) :
    DrizzleSessionRepository.findByTokenHash t' tokenHash =
      DrizzleSessionRepository.findByTokenHash t tokenHash := by
  cases hfound : DrizzleSessionRepository.findByTokenHash t tokenHash with
  | none =>
    cases hfound' : DrizzleSessionRepository.findByTokenHash t' tokenHash with
    | none => rfl
    | some found =>
      -- its hash would be one of `t`'s
      rcases DrizzleSessionRepository.findByTokenHash_some hfound' with ⟨htoken, hhash, -, -⟩
      rcases h.columns _ htoken with ⟨row, hrow, -, hrowhash, -⟩
      rcases DrizzleSessionRepository.findByTokenHash_of_mem hrow with ⟨session, hsome⟩
      rw [hrowhash, hhash, hfound] at hsome
      cases hsome
  | some found =>
    rcases DrizzleSessionRepository.findByTokenHash_some hfound with
      ⟨htoken, hhash, hsession, hid⟩
    have htokenOther := hother found.token htoken hhash
    have htoken' := (h.mem_token htokenOther).mpr htoken
    have hsession' := (h.mem_session (hid ▸ htokenOther)).mpr hsession
    rcases DrizzleSessionRepository.findByTokenHash_of_mem htoken' with ⟨session, hsome⟩
    rcases DrizzleSessionRepository.findByTokenHash_some hsome with ⟨-, -, hmem, hid'⟩
    rw [hhash] at hsome
    obtain rfl : session = found.session :=
      t'.session_unique hmem hsession' (hid'.trans hid.symm)
    exact hsome

/-- A new session. -/
theorem create (h : AgreeBut sessionId t t') {session : Session} {firstToken : StoredRefreshToken}
    (hcreate : DrizzleSessionRepository.create t session firstToken = some u) :
    ∃ u', DrizzleSessionRepository.create t' session firstToken = some u' ∧
      AgreeBut sessionId u u' := by
  rcases DrizzleSessionRepository.create_spec hcreate with ⟨hfresh, htoken, hsessions, htokens⟩
  have howner : ∃ owner ∈ session :: t'.sessions.rows, owner.id = firstToken.sessionId := by
    have hmem : firstToken.sessionId ∈ (session :: t.sessions.rows).map Session.id := by
      rcases u.tokenSession firstToken (by rw [htokens]; exact List.mem_cons_self) with
        ⟨owner, howner, hid⟩
      rw [hsessions] at howner
      exact List.mem_map.mpr ⟨owner, howner, hid⟩
    rw [List.map_cons, ← h.ids, ← List.map_cons] at hmem
    exact List.mem_map.mp hmem
  rcases DrizzleSessionRepository.create_of_fresh (h.fresh_session hfresh) (h.fresh_token htoken)
    howner with ⟨u', hu'⟩
  rcases DrizzleSessionRepository.create_spec hu' with ⟨-, -, hsessions', htokens'⟩
  refine ⟨u', hu', ?_⟩
  constructor
  · rw [hsessions, hsessions', List.filter_cons, List.filter_cons, h.sessions]
  · rw [hsessions, hsessions', List.map_cons, List.map_cons, h.opened]
  · rw [htokens, htokens', List.filter_cons, List.filter_cons, h.tokens]
  · rw [htokens, htokens']
    exact columns_cons h.columns

/-- Spending a token. -/
theorem spend (h : AgreeBut sessionId t t') (spentTokenId spentSessionId : JsString)
    (spentAt : Date) :
    AgreeBut sessionId (t.spend spentTokenId spentSessionId spentAt)
      (t'.spend spentTokenId spentSessionId spentAt) := by
  refine ⟨h.sessions, h.opened, ?_, ?_⟩
  · refine filter_map_congr ?_ h.tokens
    intro row
    split <;> rfl
  · intro row' hrow'
    rcases mem_spend.mp hrow' with ⟨old', hold', rfl⟩
    rcases h.columns old' hold' with ⟨old, hold, hid, hhash, hsession⟩
    refine ⟨_, mem_spend.mpr ⟨old, hold, rfl⟩, ?_⟩
    split <;> split <;> exact ⟨hid, hhash, hsession⟩

/-- A rotation in another session. -/
theorem rotate (h : AgreeBut sessionId t t') {spentTokenId : JsString} {next : StoredRefreshToken}
    {spentAt : Date} {answer : Bool} (hother : next.sessionId ≠ sessionId)
    (hrotate : DrizzleSessionRepository.rotate t spentTokenId next spentAt = some (answer, u)) :
    ∃ u', DrizzleSessionRepository.rotate t' spentTokenId next spentAt = some (answer, u') ∧
      AgreeBut sessionId u u' := by
  rcases DrizzleSessionRepository.rotate_cases hrotate with ⟨rfl, hrotated⟩ | ⟨rfl, rfl, hrefuses⟩
  · -- it goes through in both
    have hspend := h.spend spentTokenId next.sessionId spentAt
    have hlive : ∃ session ∈ t'.sessions.rows,
        session.id = next.sessionId ∧ session.revokedAt = none := by
      rcases hrotated.live with ⟨session, hsession, hid, hnull⟩
      exact ⟨session, (h.mem_session (hid ▸ hother)).mpr hsession, hid, hnull⟩
    have hunspent : ∃ token ∈ t'.refreshTokens.rows,
        token.id = spentTokenId ∧ token.sessionId = next.sessionId ∧ token.spentAt = none := by
      rcases hrotated.unspent with ⟨token, htoken, hid, hsession, hnull⟩
      exact ⟨token, (h.mem_token (hsession ▸ hother)).mpr htoken, hid, hsession, hnull⟩
    rcases DrizzleSessionRepository.rotate_of_fresh hlive hunspent
      (hspend.fresh_token hrotated.fresh) with ⟨u', hu'⟩
    refine ⟨u', hu', ?_⟩
    rcases DrizzleSessionRepository.rotate_cases hu' with ⟨-, hrotated'⟩ | ⟨hno, -, -⟩
    · constructor
      · rw [hrotated.sessions, hrotated'.sessions]
        exact h.sessions
      · rw [hrotated.sessions, hrotated'.sessions]
        exact h.opened
      · rw [hrotated.tokens, hrotated'.tokens, List.filter_cons, List.filter_cons, hspend.tokens]
      · rw [hrotated.tokens, hrotated'.tokens]
        exact columns_cons hspend.columns
    · cases hno
  · -- it is refused in both
    refine ⟨t', DrizzleSessionRepository.rotate_of_refuses ?_ spentAt, h⟩
    rcases hrefuses with hlive | hspent
    · left
      intro session hsession hid
      exact hlive session ((h.mem_session (hid ▸ hother)).mp hsession) hid
    · right
      intro token htoken hid hsession
      exact hspent token ((h.mem_token (hsession ▸ hother)).mp htoken) hid hsession

/-- A revocation leaves the sessions as they were opened. -/
theorem revoke_unrevoked (t : SessionTables) (revokedId : JsString) (revokedAt : Date) :
    (DrizzleSessionRepository.revoke t revokedId revokedAt).sessions.rows.map unrevoked =
      t.sessions.rows.map unrevoked := by
  show (t.sessions.rows.map _).map unrevoked = _
  rw [List.map_map]
  refine List.map_congr_left fun session _ => ?_
  simp only [Function.comp_apply]
  split <;> rfl

/-- A revocation. -/
theorem revoke (h : AgreeBut sessionId t t') (revokedId : JsString) (revokedAt : Date) :
    AgreeBut sessionId (DrizzleSessionRepository.revoke t revokedId revokedAt)
      (DrizzleSessionRepository.revoke t' revokedId revokedAt) := by
  refine ⟨?_, ?_, h.tokens, h.columns⟩
  · refine filter_map_congr ?_ h.sessions
    intro row
    split <;> rfl
  · rw [revoke_unrevoked, revoke_unrevoked]
    exact h.opened

/-! ### What the session itself does -/

/-- A rotation in the session. -/
theorem rotate_own (h : AgreeBut sessionId t t') {spentTokenId : JsString}
    {next : StoredRefreshToken} {spentAt : Date} {answer : Bool}
    (hown : next.sessionId = sessionId)
    (hrotate : DrizzleSessionRepository.rotate t spentTokenId next spentAt = some (answer, u)) :
    AgreeBut sessionId u t' := by
  rcases DrizzleSessionRepository.rotate_cases hrotate with ⟨rfl, hrotated⟩ | ⟨rfl, rfl, -⟩
  · constructor
    · rw [hrotated.sessions]
      exact h.sessions
    · rw [hrotated.sessions]
      exact h.opened
    · -- what it spent and what it inserted are tokens of the session
      have hspent : (t.spend spentTokenId next.sessionId spentAt).refreshTokens.rows.filter
          (·.sessionId ≠ sessionId) = t.refreshTokens.rows.filter (·.sessionId ≠ sessionId) := by
        refine Table.filter_updateWhere (spentAt_keeps spentAt) ?_ ?_
        · intro token _ hmatch
          have hsession := (spends_iff.mp hmatch).2.1
          simp [hsession, hown]
        · intro token _ _
          rfl
      rw [hrotated.tokens, List.filter_cons_of_neg (by simp [hown]), hspent]
      exact h.tokens
    · intro row' hrow'
      rcases h.columns row' hrow' with ⟨row, hrow, hid, hhash, hsession⟩
      rcases hrotated.later.token row hrow with ⟨later, hlater, hsame, -⟩
      refine ⟨later, hlater, ?_⟩
      rw [← hsame]
      exact ⟨hid, hhash, hsession⟩
  · exact h

/-- A revocation of the session. -/
theorem revoke_own (h : AgreeBut sessionId t t') (revokedAt : Date) :
    AgreeBut sessionId (DrizzleSessionRepository.revoke t sessionId revokedAt) t' := by
  have hothers : (DrizzleSessionRepository.revoke t sessionId revokedAt).sessions.rows.filter
      (·.id ≠ sessionId) = t.sessions.rows.filter (·.id ≠ sessionId) := by
    refine Table.filter_updateWhere (revokedAt_keeps revokedAt) ?_ ?_
    · intro session _ hmatch
      have hid := (isLive_iff.mp hmatch).1
      simp [hid]
    · intro session _ _
      rfl
  have hopened := h.opened.trans (revoke_unrevoked t sessionId revokedAt).symm
  exact ⟨h.sessions.trans hothers.symm, hopened, h.tokens, h.columns⟩

end AgreeBut

/-! ## Stores that agree but for one session -/

section Stores

variable {services : Services} {sessionId : JsString}

/-- The same accounts, and tables that agree. -/
structure StoresAgree (sessionId : JsString) (s s' : Store services.lower) : Prop where
  accounts : s'.accounts = s.accounts
  tables : AgreeBut sessionId s.tables s'.tables

/-- The store with tables that agree with its own. -/
def Store.agreeing (s : Store services.lower) {t' : SessionTables}
    (h : AgreeBut sessionId s.tables t') : Store services.lower :=
  ⟨s.accounts, t', by
    intro session' hsession'
    have hmem : unrevoked session' ∈ s.tables.sessions.rows.map unrevoked := by
      rw [← h.opened]
      exact List.mem_map.mpr ⟨session', hsession', rfl⟩
    rcases List.mem_map.mp hmem with ⟨session, hsession, hsame⟩
    rcases s.sessionUser session hsession with ⟨user, huser, hid⟩
    have howner : (unrevoked session).userId = (unrevoked session').userId :=
      congrArg Session.userId hsame
    exact ⟨user, huser, hid.trans howner⟩⟩

/-- A call that does not select by the session. -/
def Spares (sessionId : JsString) (s : Store services.lower) : PortCall → Prop
  | .findByTokenHash tokenHash => ∀ row ∈ s.tables.refreshTokens.rows,
      row.tokenHash = tokenHash → row.sessionId ≠ sessionId
  | .rotate _ next _ => next.sessionId ≠ sessionId
  | _ => True

/-- The call of another execution is answered alike. -/
theorem returns_agree {call : PortCall} {answer : Answer call} {s s' u : Store services.lower}
    (hreturns : returns services call s answer u) (h : StoresAgree sessionId s s')
    (hspares : Spares sessionId s call) :
    ∃ u', returns services call s' answer u' ∧ StoresAgree sessionId u u' := by
  have reads (hu : u = s) (hanswer : returns services call s' answer s') :
      ∃ u', returns services call s' answer u' ∧ StoresAgree sessionId u u' := by
    rw [hu]
    exact ⟨s', hanswer, h⟩
  cases call with
  | existsByHandle handle | findCredentialsByHandle handle | findByHandle handle =>
    refine reads hreturns.1 ⟨rfl, ?_⟩
    rw [h.accounts]
    exact hreturns.2
  | findByTokenHash tokenHash =>
    exact reads hreturns.1 ⟨rfl, hreturns.2.trans (h.tables.find hspares).symm⟩
  | hashPassword password | now => exact reads hreturns rfl
  | verifyPassword hash password | createRefreshToken | nextId | issueAccessToken claims =>
    exact reads hreturns.1 ⟨rfl, hreturns.2⟩
  | createUser user passwordHash | updateProfile userId changes =>
    have hagree : AgreeBut sessionId u.tables s'.tables := hreturns.1 ▸ h.tables
    refine ⟨u.agreeing hagree, ⟨rfl, ?_⟩, rfl, hagree⟩
    rw [h.accounts]
    exact hreturns.2
  | createSession session firstToken =>
    rcases h.tables.create hreturns.2 with ⟨t', hcreate, hagree⟩
    exact ⟨u.agreeing hagree, ⟨hreturns.1.trans h.accounts.symm, hcreate⟩, rfl, hagree⟩
  | rotate spentTokenId next spentAt =>
    rcases h.tables.rotate hspares hreturns.2 with ⟨t', hrotate, hagree⟩
    exact ⟨u.agreeing hagree, ⟨hreturns.1.trans h.accounts.symm, hrotate⟩, rfl, hagree⟩
  | revoke revokedId revokedAt =>
    have hagree : AgreeBut sessionId u.tables
        (DrizzleSessionRepository.revoke s'.tables revokedId revokedAt) := by
      rw [hreturns.2]
      exact h.tables.revoke revokedId revokedAt
    exact ⟨u.agreeing hagree, ⟨hreturns.1.trans h.accounts.symm, rfl⟩, rfl, hagree⟩

/-- A call of another execution throws alike, unless a row was refused: that may have been
for a row of the session. -/
theorem throws_agree {call : PortCall} {e : Failure} {s s' : Store services.lower}
    (hthrows : throws services call s e) (h : StoresAgree sessionId s s')
    (hquiet : e ≠ .constraintViolation) : throws services call s' e := by
  cases call with
  | createUser user passwordHash =>
    rcases hthrows with he | he
    · exact Or.inl he
    · exact Or.inr (by rw [h.accounts]; exact he)
  | createSession | rotate =>
    rcases hthrows with he | ⟨he, -⟩
    · exact Or.inl he
    · exact absurd he hquiet
  | createRefreshToken | now | issueAccessToken => exact hthrows.elim
  | existsByHandle | findCredentialsByHandle | findByTokenHash | revoke | findByHandle
  | updateProfile | hashPassword | verifyPassword | nextId => exact hthrows

/-- A refresh that presents a token of the session changes nothing else. -/
theorem own_agree {call : PortCall} {answer : Answer call} {s s' u : Store services.lower}
    (hreturns : returns services call s answer u) (h : StoresAgree sessionId s s')
    (hcall : Refreshes call)
    (hrotate : ∀ spentTokenId next spentAt, call = .rotate spentTokenId next spentAt →
      next.sessionId = sessionId)
    (hrevoke : ∀ revokedId revokedAt, call = .revoke revokedId revokedAt →
      revokedId = sessionId) : StoresAgree sessionId u s' := by
  cases call with
  | findByTokenHash tokenHash | createRefreshToken | nextId | issueAccessToken claims =>
    rw [hreturns.1]
    exact h
  | now =>
    rw [show u = s from hreturns]
    exact h
  | rotate spentTokenId next spentAt =>
    refine ⟨h.accounts.trans hreturns.1.symm, ?_⟩
    exact h.tables.rotate_own (hrotate _ _ _ rfl) hreturns.2
  | revoke revokedId revokedAt =>
    obtain rfl := hrevoke _ _ rfl
    refine ⟨h.accounts.trans hreturns.1.symm, ?_⟩
    rw [hreturns.2]
    exact h.tables.revoke_own revokedAt
  | existsByHandle | createUser | findCredentialsByHandle | createSession | findByHandle
  | updateProfile | hashPassword | verifyPassword => exact hcall.elim

end Stores

/-! ## The run without a session's executions -/

section Deleting

variable {services : Services} {accounts : UserTables services.lower} {τ : List IdentityEvent}
  {c : IdentityConfig services}

/-- `hashes` are the hashes of the session's tokens, `deleted` the executions that present
one, and no row was refused to another. -/
structure Observed (sessionId : JsString) (hashes : JsString → Prop) (deleted : ℕ → Prop)
    (τ : List IdentityEvent) (c : IdentityConfig services) : Prop where
  tokens : ∀ row ∈ c.store.tables.refreshTokens.rows,
    row.sessionId = sessionId ↔ hashes row.tokenHash
  threads : ∀ i request, .start i request ∈ τ → (deleted i ↔
    ∃ input, request = .refresh input ∧ hashes (services.hashRefreshToken input.refreshToken))
  quiet : ∀ i call, ¬ deleted i → .threw i call .constraintViolation ∉ τ

variable {sessionId : JsString} {hashes : JsString → Prop} {deleted : ℕ → Prop}

/-- An execution presents a token of the session exactly when that is what it found. -/
theorem Observed.presented (h : Observed sessionId hashes deleted τ c)
    (hrun : Run (machine services) (.initial (.noSessions accounts)) τ c) {i : ℕ}
    {input : RefreshSessionInput} {session : Session} {token : StoredRefreshToken}
    (hpresented : Presented services τ i input session token) :
    deleted i ↔ session.id = sessionId := by
  rcases (good_evidence hrun).inv.found hpresented.2 with ⟨hhash, hid, ⟨row, hrow, hlater⟩, -⟩
  have hrowSession : row.sessionId = session.id := by
    rw [hid, hlater.sessionId]
  have hrowHash : row.tokenHash = services.hashRefreshToken input.refreshToken := by
    rw [← hhash, hlater.tokenHash]
  rw [← hrowSession, h.tokens row hrow, hrowHash, h.threads i _ hpresented.1]
  constructor
  · rintro ⟨other, heq, hmem⟩
    cases heq
    exact hmem
  · intro hmem
    exact ⟨input, rfl, hmem⟩

/-- The obligations of the deletion rule. -/
theorem deletion (services : Services) (accounts : UserTables services.lower)
    (sessionId : JsString) (hashes : JsString → Prop) (deleted : ℕ → Prop) :
    Deletion (machine services) (.noSessions accounts) deleted (StoresAgree sessionId)
      (Observed sessionId hashes deleted) where
  initial := ⟨rfl, .refl _ _⟩
  before := by
    intro τ c e c' h hstep
    constructor
    · intro row hrow
      rcases (step_later hstep).tables.token row hrow with ⟨row', hrow', hlater⟩
      have htokens := h.tokens row' hrow'
      rw [hlater.sessionId, hlater.tokenHash] at htokens
      exact htokens
    · intro i request hstart
      exact h.threads i request (List.mem_append_left _ hstart)
    · intro i call hi hmem
      exact h.quiet i call hi (List.mem_append_left _ hmem)
  -- a deleted execution is a refresh that presented a token of the session
  hidden := by
    intro τ c i request call next answer s s' hrun h hi hthread hreturns hagree
    rcases hrun.did hthread with ⟨events, hdid⟩
    rcases (h.threads i request hdid.started).mp hi with ⟨input, rfl, -⟩
    have hcall : Refreshes call := hdid.went.calling.only (refresh_calls input)
    have hwhy := pending_why hrun hthread
    refine own_agree hreturns hagree hcall ?_ ?_
    · rintro spentTokenId token spentAt rfl
      rcases hwhy with ⟨input, session, found, hpresented, -, -, -, -, hid, -⟩
      exact hid.trans ((h.presented hrun hpresented).mp hi)
    · rintro revokedId revokedAt rfl
      rcases hwhy with ⟨input, session, found, hpresented, hid, -⟩
      exact hid.trans ((h.presented hrun hpresented).mp hi)
  -- a kept one looks up and rotates other tokens, and revokes other sessions
  answered := by
    intro τ c i request call next answer s s' hrun h hi hthread hreturns hagree
    have hwhy := pending_why hrun hthread
    refine returns_agree hreturns hagree ?_
    cases call with
    | findByTokenHash tokenHash =>
      rcases hwhy with ⟨input, hstart, rfl⟩
      intro row hrow hhash hsession
      apply hi
      refine (h.threads i _ hstart).mpr ⟨input, rfl, ?_⟩
      rw [← hhash]
      exact (h.tokens row hrow).mp hsession
    | rotate spentTokenId token spentAt =>
      rcases hwhy with ⟨input, session, found, hpresented, -, -, -, -, hid, -⟩
      intro hsession
      exact hi ((h.presented hrun hpresented).mpr (hid.symm.trans hsession))
    | existsByHandle | createUser | findCredentialsByHandle | createSession | revoke | findByHandle
    | updateProfile | hashPassword | verifyPassword | createRefreshToken | nextId | now
    | issueAccessToken => trivial
  excepted := by
    intro τ c' i call e s s' h hi hthrows hagree
    refine throws_agree hthrows hagree ?_
    rintro rfl
    exact h.quiet i call hi (List.mem_append_right _ (List.mem_singleton_self _))

end Deleting

/-! ## Why sessions are revoked -/

section Evidence

variable {services : Services} {s : Store services.lower} {τ : List IdentityEvent}
  {c : IdentityConfig services}

/-- Execution `i` presented this token, and found it. -/
def PresentsToken (services : Services) (τ : List IdentityEvent) (i : ℕ)
    (token : StoredRefreshToken) : Prop :=
  ∃ input session found, Presented services τ i input session found ∧ found.id = token.id ∧
    found.tokenHash = token.tokenHash

/-- Two executions presented one token of the session. -/
def PresentedTwice (τ : List IdentityEvent) (c : IdentityConfig services) (sessionId : JsString) :
    Prop :=
  ∃ token ∈ c.store.tables.refreshTokens.rows, token.sessionId = sessionId ∧
    ∃ i j, i ≠ j ∧ PresentsToken services τ i token ∧ PresentsToken services τ j token

theorem PresentedTwice.step {e : IdentityEvent} {c' : IdentityConfig services}
    {sessionId : JsString} (h : PresentedTwice τ c sessionId)
    (hstep : Step (machine services) c e c') : PresentedTwice (τ ++ [e]) c' sessionId := by
  rcases h with ⟨token, htoken, hsession, i, j, hij, hi, hj⟩
  rcases (step_later hstep).tables.token token htoken with ⟨token', htoken', hlater⟩
  have keep {k : ℕ} (hk : PresentsToken services τ k token) :
      PresentsToken services (τ ++ [e]) k token' := by
    rcases hk with ⟨input, session, found, hpresented, hid, hhash⟩
    refine ⟨input, session, found, hpresented.mono (List.subset_append_left _ _), ?_, ?_⟩
    · rw [hid, hlater.id]
    · rw [hhash, hlater.tokenHash]
  refine ⟨token', htoken', ?_, i, j, hij, keep hi, keep hj⟩
  rw [← hsession, hlater.sessionId]

/-- No token has been spent yet. -/
def Unused (t : SessionTables) : Prop := ∀ row ∈ t.refreshTokens.rows, row.spentAt = none

theorem unused_noSessions (accounts : UserTables services.lower) :
    Unused (Store.noSessions accounts).tables := by
  intro row hrow
  cases hrow

/-- A token that is spent was rotated. -/
theorem spent_rotated (hunused : Unused s.tables) (hrun : Run (machine services) (.initial s) τ c) :
    ∀ row ∈ c.store.tables.refreshTokens.rows, row.spentAt ≠ none →
      ∃ j next spentAt, .returned j (.rotate row.id next spentAt) true ∈ τ := by
  refine Run.invariant (P := fun τ c => ∀ row ∈ c.store.tables.refreshTokens.rows,
    row.spentAt ≠ none → ∃ j next spentAt, .returned j (.rotate row.id next spentAt) true ∈ τ)
    ?_ ?_ hrun
  · intro row hrow hspent
    exact absurd (hunused row hrow) hspent
  intro τ c e c' hbefore ih hstep
  have old : ∀ row ∈ c.store.tables.refreshTokens.rows, row.spentAt ≠ none →
      ∃ j next spentAt, .returned j (.rotate row.id next spentAt) true ∈ τ ++ [e] := by
    intro row hrow hspent
    rcases ih row hrow hspent with ⟨j, next, spentAt, hmem⟩
    exact ⟨j, next, spentAt, List.mem_append_left _ hmem⟩
  cases hstep with
  | start i request hnone => exact old
  | threw hthread hthrows => exact old
  | @returned i request call rest answer s hthread hreturns =>
    rcases hbefore.did hthread with ⟨events, hdid⟩
    -- what is inserted is unspent
    have hmints : Mints call :=
      hdid.went.calling.only (execute_only services.toSettings request)
    show ∀ row ∈ s.tables.refreshTokens.rows, _
    cases wrote hreturns with
    | nothing _ hsame =>
      rw [hsame]
      exact old
    | created session firstToken hcreate =>
      rw [(DrizzleSessionRepository.create_spec hcreate).2.2.2]
      intro row hrow hspent
      rcases List.mem_cons.mp hrow with rfl | hrow
      · exact absurd hmints.2 hspent
      · exact old row hrow hspent
    | rotated spentTokenId next spentAt answer hrotate =>
      rcases DrizzleSessionRepository.rotate_cases hrotate with ⟨rfl, hrotated⟩ | ⟨-, hsame, -⟩
      · rw [hrotated.tokens]
        intro row hrow hspent
        rcases List.mem_cons.mp hrow with rfl | hrow
        · exact absurd hmints hspent
        rcases mem_spend.mp hrow with ⟨before, hmem, rfl⟩
        by_cases hmatch : spends spentTokenId next.sessionId before = true
        · -- the token this rotation spent
          rw [if_pos hmatch]
          refine ⟨i, next, spentAt, ?_⟩
          rw [← (spends_iff.mp hmatch).1]
          exact List.mem_append_right _ (List.mem_singleton_self _)
        · rw [if_neg hmatch] at hspent ⊢
          exact old before hmem hspent
      · rw [hsame]
        exact old
    | revoked revokedId revokedAt hrevoke =>
      rw [hrevoke]
      exact old

/-- An execution finds one token at most. -/
theorem presented_unique (hrun : Run (machine services) (.initial s) τ c)
    {i : ℕ} {input input' : RefreshSessionInput} {session session' : Session}
    {token token' : StoredRefreshToken} (h : Presented services τ i input session token)
    (h' : Presented services τ i input' session' token') : session = session' ∧ token = token' := by
  obtain rfl : input = input' := by
    have heq := hrun.start_unique h.1 h'.1
    cases heq
    rfl
  rcases hrun.done_by h.1 (i := i) rfl with ⟨request, p, events, -, hdid⟩
  obtain rfl : request = .refresh input := hrun.start_unique hdid.started h.1
  rcases hdid.went.called (hdid.returned.mp h.2) with ⟨τ₁, τ₂, next, hevents, hbefore⟩
  rcases hdid.went.called (hdid.returned.mp h'.2) with ⟨τ₃, τ₄, next', hevents', hbefore'⟩
  obtain rfl := refresh_finds hbefore
  obtain rfl := refresh_finds hbefore'
  rw [hevents] at hevents'
  cases hevents'
  exact ⟨rfl, rfl⟩

/-- An execution that comes to rotate has not rotated yet. -/
theorem not_rotated (hrun : Run (machine services) (.initial s) τ c) {i : ℕ}
    {request : Request} {spentTokenId : JsString} {next : StoredRefreshToken} {spentAt : Date}
    {rest : Bool → UseCase Response} {input : RefreshSessionInput}
    (hstart : .start i (.refresh input) ∈ τ)
    (hthread : c.threads i = some ⟨request, .call (.rotate spentTokenId next spentAt) rest⟩)
    (spentTokenId' : JsString) (next' : StoredRefreshToken) (spentAt' : Date) (answer : Bool) :
    .returned i (.rotate spentTokenId' next' spentAt') answer ∉ τ := by
  intro hmem
  rcases hrun.did hthread with ⟨events, hdid⟩
  obtain rfl : request = .refresh input := hrun.start_unique hdid.started hstart
  rcases refresh_rotates hdid.went.calling with ⟨session, token, minted, id, rfl, -⟩
  have hevents := hdid.returned.mp hmem
  simp at hevents

/-- A rotation that was refused, in a session still live, lost the race to another
execution. -/
theorem lost_race_rotated (hunused : Unused s.tables)
    (hrun : Run (machine services) (.initial s) τ c) {i : ℕ} {token : StoredRefreshToken}
    {next : StoredRefreshToken} {spentAt : Date}
    (hmem : .returned i (.rotate token.id next spentAt) false ∈ τ)
    (hlive : ¬ c.store.tables.Revoked next.sessionId) :
    ∃ j next' spentAt', j ≠ i ∧ .returned j (.rotate token.id next' spentAt') true ∈ τ := by
  rcases hrun.at hmem with ⟨τ₁, τ₂, c₁, c₂, rfl, hbefore, hstep, hafter⟩
  have hlater : Later c₁.store.tables c.store.tables :=
    ((step_later hstep).trans (run_later hafter)).tables
  cases hstep with
  | @returned _ request _ rest _ s hthread hreturns =>
    rcases pending_why hbefore hthread with
      ⟨input, session, found, hpresented, -, -, -, hid, hsession, -⟩
    rcases found_stored hbefore hpresented.2 with
      ⟨-, hfoundSession, ⟨row, hrow, hrowLater⟩, ⟨owner, howner, hownerLater⟩⟩
    have hrowid : row.id = token.id := by
      rw [hid, hrowLater.id]
    have hrowSession : row.sessionId = next.sessionId := by
      rw [hsession, hfoundSession, hrowLater.sessionId]
    have hownerid : owner.id = next.sessionId := by
      rw [hsession, hownerLater.id]
    rcases DrizzleSessionRepository.rotate_cases hreturns.2 with ⟨hno, -⟩ | ⟨-, -, hrefuses⟩
    · cases hno
    rcases hrefuses with hrevoked | hspent
    · -- the session was not live
      have hset := hrevoked owner howner hownerid
      exact absurd (hlater.revoked ⟨owner, howner, hownerid, hset⟩) hlive
    · -- the token was spent
      have hset := hspent row hrow hrowid hrowSession
      rcases spent_rotated hunused hbefore row hrow hset with ⟨j, next', spentAt', hrotated⟩
      rw [hrowid] at hrotated
      refine ⟨j, next', spentAt', ?_, List.mem_append_left _ hrotated⟩
      rintro rfl
      exact not_rotated hbefore hpresented.1 hthread _ _ _ _ hrotated

/-- An execution that found its token spent, or lost the race for it, was not the one
that rotated it. -/
theorem reuse_rotated (hunused : Unused s.tables)
    (hrun : Run (machine services) (.initial s) τ c) {i : ℕ} {input : RefreshSessionInput}
    {session : Session} {token : StoredRefreshToken}
    (hpresented : Presented services τ i input session token)
    (hreuse : token.spentAt ≠ none ∨
      ∃ next spentAt, .returned i (.rotate token.id next spentAt) false ∈ τ)
    (hlive : ¬ c.store.tables.Revoked session.id) :
    ∃ j next spentAt, j ≠ i ∧ .returned j (.rotate token.id next spentAt) true ∈ τ := by
  rcases hreuse with hspent | ⟨next, spentAt, hlost⟩
  · -- it found the token spent
    rcases found_stored hrun hpresented.2 with ⟨-, -, ⟨stored, hstored, hlater⟩, -⟩
    have hset : stored.spentAt ≠ none := by
      rw [hlater.2 hspent]
      exact hspent
    have hid : stored.id = token.id := hlater.id
    rcases spent_rotated hunused hrun stored hstored hset with ⟨j, next, spentAt, hrotated⟩
    rw [hid] at hrotated
    refine ⟨j, next, spentAt, ?_, hrotated⟩
    rintro rfl
    rcases answered_why hrun hrotated with
      ⟨input', session', token', hpresented', hunspent, -⟩
    obtain ⟨-, rfl⟩ := presented_unique hrun hpresented hpresented'
    exact hspent hunspent
  · -- it lost the race
    have hnext : next.sessionId = session.id := by
      rcases answered_why hrun hlost with
        ⟨input', session', token', hpresented', -, -, -, -, hsession, -⟩
      obtain ⟨rfl, -⟩ := presented_unique hrun hpresented hpresented'
      exact hsession
    exact lost_race_rotated hunused hrun hlost (hnext ▸ hlive)

/-- A token that was reused, on a session still live, was presented twice. -/
theorem reused_presented_twice (hunused : Unused s.tables)
    (hrun : Run (machine services) (.initial s) τ c) {i : ℕ} {input : RefreshSessionInput}
    {session : Session} {token : StoredRefreshToken}
    (hpresented : Presented services τ i input session token)
    (hreuse : token.spentAt ≠ none ∨
      ∃ next spentAt, .returned i (.rotate token.id next spentAt) false ∈ τ)
    (hlive : ¬ c.store.tables.Revoked session.id) : PresentedTwice τ c session.id := by
  rcases reuse_rotated hunused hrun hpresented hreuse hlive with ⟨j, next, spentAt, hne, hrotated⟩
  rcases found_stored hrun hpresented.2 with
    ⟨-, hsession, ⟨stored, hstored, hlater⟩, -⟩
  rcases answered_why hrun hrotated with
    ⟨input', session', token', hpresented', -, -, -, hid, -, -⟩
  rcases found_stored hrun hpresented'.2 with ⟨-, -, ⟨stored', hstored', hlater'⟩, -⟩
  -- both found the same row
  have hsame : stored' = stored := by
    refine c.store.tables.token_unique hstored' hstored ?_
    rw [hlater.id, hlater'.id]
    exact hid.symm
  have hi : PresentsToken services τ i stored :=
    ⟨input, session, token, hpresented, hlater.id.symm, hlater.tokenHash.symm⟩
  have hj : PresentsToken services τ j stored :=
    ⟨input', session', token', hpresented', by rw [← hsame, hlater'.id],
      by rw [← hsame, hlater'.tokenHash]⟩
  refine ⟨stored, hstored, ?_, j, i, hne, hj, hi⟩
  rw [hsession, hlater.sessionId]

/-- The first revocation of a session is by an execution that presented a token another
one had presented. -/
theorem revoking_presented_twice (hunused : Unused s.tables)
    (hrun : Run (machine services) (.initial s) τ c) {i : ℕ}
    {request : Request} {sessionId : JsString} {revokedAt : Date}
    {rest : Unit → UseCase Response}
    (hthread : c.threads i = some ⟨request, .call (.revoke sessionId revokedAt) rest⟩)
    (hlive : ¬ c.store.tables.Revoked sessionId) : PresentedTwice τ c sessionId := by
  rcases pending_why hrun hthread with ⟨input, session, token, hpresented, rfl, hreuse⟩
  exact reused_presented_twice hunused hrun hpresented hreuse hlive

/-- A session that was not revoked at first is revoked only on evidence. -/
theorem revoked_since (hunused : Unused s.tables) (hrun : Run (machine services) (.initial s) τ c) :
    ∀ sessionId, c.store.tables.Revoked sessionId →
      s.tables.Revoked sessionId ∨ PresentedTwice τ c sessionId := by
  refine Run.invariant (P := fun τ c => ∀ sessionId, c.store.tables.Revoked sessionId →
    s.tables.Revoked sessionId ∨ PresentedTwice τ c sessionId) ?_ ?_ hrun
  · intro sessionId hrevoked
    exact Or.inl hrevoked
  intro τ c e c' hbefore ih hstep sessionId hrevoked
  by_cases hold : c.store.tables.Revoked sessionId
  · exact (ih sessionId hold).imp_right fun h => h.step hstep
  -- the first revocation of the session
  refine Or.inr (PresentedTwice.step ?_ hstep)
  have unchanged (h : c'.store.tables.sessions = c.store.tables.sessions) :
      PresentedTwice τ c sessionId := by
    unfold SessionTables.Revoked at hrevoked
    rw [h] at hrevoked
    exact absurd hrevoked hold
  cases hstep with
  | start i request hnone => exact unchanged rfl
  | threw hthread hthrows => exact unchanged rfl
  | @returned i request call rest answer s hthread hreturns =>
    cases wrote hreturns with
    | nothing _ hsame => exact unchanged (congrArg SessionTables.sessions hsame)
    | created session firstToken hcreate =>
      -- a new session is live
      rcases hbefore.did hthread with ⟨events, hdid⟩
      rcases pending_why hbefore hthread with ⟨credentials, ⟨input, hstart, -, -⟩, -, -⟩
      obtain rfl : request = .login input := hbefore.start_unique hdid.started hstart
      rcases login_opens hdid.went.calling with ⟨_, id, _, _, now, -, rfl, -⟩
      rcases hrevoked with ⟨row, hrow, hid, hset⟩
      rw [Config.set_store, (DrizzleSessionRepository.create_spec hcreate).2.2.1] at hrow
      rcases List.mem_cons.mp hrow with rfl | hrow
      · exact absurd rfl hset
      · exact absurd ⟨row, hrow, hid, hset⟩ hold
    | rotated spentTokenId next spentAt answer hrotate =>
      rcases DrizzleSessionRepository.rotate_cases hrotate with ⟨-, hrotated⟩ | ⟨-, hsame, -⟩
      · exact unchanged hrotated.sessions
      · exact unchanged (congrArg SessionTables.sessions hsame)
    | revoked revokedId revokedAt hrevoke =>
      rcases hrevoked with ⟨row, hrow, hid, hset⟩
      rw [Config.set_store, hrevoke] at hrow
      rcases DrizzleSessionRepository.mem_revoke.mp hrow with ⟨before, hmem, rfl⟩
      by_cases hmatch : isLive revokedId before = true
      · -- it is the session revoked here, by an execution with its reason
        rw [if_pos hmatch] at hid
        obtain rfl : revokedId = sessionId := (isLive_iff.mp hmatch).1.symm.trans hid
        exact revoking_presented_twice hunused hbefore hthread hold
      · rw [if_neg hmatch] at hid hset
        exact absurd ⟨before, hmem, hid, hset⟩ hold

/-- From a store without sessions, every session is. -/
theorem revoked_on_evidence {accounts : UserTables services.lower}
    (hrun : Run (machine services) (.initial (.noSessions accounts)) τ c) :
    ∀ sessionId, c.store.tables.Revoked sessionId → PresentedTwice τ c sessionId := by
  intro sessionId hrevoked
  rcases revoked_since (unused_noSessions accounts) hrun sessionId hrevoked with ⟨row, hrow, -⟩ | h
  · cases hrow
  · exact h

end Evidence

/-! ## Isolation -/

section Isolation

variable {services : Services} {accounts : UserTables services.lower} {τ : List IdentityEvent}
  {c : IdentityConfig services}

/-- Execution `i` is a refresh that presents a token of the session. -/
def PresentsTo (τ : List IdentityEvent) (c : IdentityConfig services) (sessionId : JsString)
    (i : ℕ) : Prop :=
  ∃ input, .start i (.refresh input) ∈ τ ∧ ∃ row ∈ c.store.tables.refreshTokens.rows,
    row.sessionId = sessionId ∧ row.tokenHash = services.hashRefreshToken input.refreshToken

/-- The row of a session. -/
def sessionRow (c : IdentityConfig services) (sessionId : JsString) : List Session :=
  c.store.tables.sessions.rows.filter (·.id = sessionId)

/-- The rows of its tokens. -/
def tokenRows (c : IdentityConfig services) (sessionId : JsString) : List StoredRefreshToken :=
  c.store.tables.refreshTokens.rows.filter (·.sessionId = sessionId)

/-- An execution presents tokens of one session. -/
theorem PresentsTo.unique (hrun : Run (machine services) (.initial (.noSessions accounts)) τ c)
    {sessionId sessionId' : JsString} {i : ℕ} (h : PresentsTo τ c sessionId i)
    (h' : PresentsTo τ c sessionId' i) : sessionId = sessionId' := by
  rcases h with ⟨input, hstart, row, hrow, rfl, hhash⟩
  rcases h' with ⟨input', hstart', row', hrow', rfl, hhash'⟩
  have heq : Request.refresh input = .refresh input' := hrun.start_unique hstart hstart'
  cases heq
  rw [c.store.tables.hash_unique hrow hrow' (hhash.trans hhash'.symm)]

/-- The run with its own executions that present to `sessionId` is observed. -/
theorem observed (hrun : Run (machine services) (.initial (.noSessions accounts)) τ c)
    {sessionId : JsString}
    (hquiet : ∀ i call, ¬ PresentsTo τ c sessionId i → .threw i call .constraintViolation ∉ τ) :
    Observed sessionId
      (fun tokenHash => ∃ row ∈ c.store.tables.refreshTokens.rows,
        row.sessionId = sessionId ∧ row.tokenHash = tokenHash)
      (PresentsTo τ c sessionId) τ c := by
  constructor
  · intro row hrow
    constructor
    · intro hsession
      exact ⟨row, hrow, hsession, rfl⟩
    · rintro ⟨row', hrow', hsession, hhash⟩
      rw [← c.store.tables.hash_unique hrow' hrow hhash]
      exact hsession
  · intro i request hstart
    constructor
    · rintro ⟨input, hstart', hpresents⟩
      exact ⟨input, hrun.start_unique hstart hstart', hpresents⟩
    · rintro ⟨input, rfl, hpresents⟩
      exact ⟨input, hstart, hpresents⟩
  · exact hquiet

open scoped Classical in
/-- `c'` is where the run goes without the executions that present to `sessionId`. -/
structure IsolatedFrom (accounts : UserTables services.lower) (τ : List IdentityEvent)
    (c : IdentityConfig services) (sessionId : JsString) (c' : IdentityConfig services) :
    Prop where
  /-- Every other execution has the same draws, readings and answers. -/
  run : Run (machine services) (.initial (.noSessions accounts))
    (τ.filter fun e => ¬ PresentsTo τ c sessionId e.thread) c'
  others : ∀ i, ¬ PresentsTo τ c sessionId i → c'.threads i = c.threads i
  /-- Every other session has the same rows, -/
  rows : ∀ other, other ≠ sessionId →
    sessionRow c' other = sessionRow c other ∧ tokenRows c' other = tokenRows c other
  /-- and what presents to it ends alike. -/
  results : ∀ other, other ≠ sessionId → ∀ i, PresentsTo τ c other i →
    c'.threads i = c.threads i

/-- Without the executions that present to a session the run is a run. -/
theorem isolated (hrun : Run (machine services) (.initial (.noSessions accounts)) τ c)
    (sessionId : JsString)
    (hquiet : ∀ i call, ¬ PresentsTo τ c sessionId i → .threw i call .constraintViolation ∉ τ) :
    ∃ c', IsolatedFrom accounts τ c sessionId c' := by
  classical
  rcases hrun.delete (deletion services accounts sessionId _ _) (observed hrun hquiet) with
    ⟨c', hrun', hdeleted⟩
  have hagree := hdeleted.store.tables
  refine ⟨c', hrun', hdeleted.kept, ?_, ?_⟩
  · -- the rows of another session are among those that agree
    intro other hother
    have select {α : Type} {rows rows' : List α} {key : α → JsString}
        (h : rows'.filter (key · ≠ sessionId) = rows.filter (key · ≠ sessionId)) :
        rows'.filter (key · = other) = rows.filter (key · = other) := by
      have hboth (rows : List α) :
          rows.filter (key · = other) = (rows.filter (key · ≠ sessionId)).filter (key · = other) := by
        rw [List.filter_filter]
        refine List.filter_congr fun row _ => ?_
        by_cases hkey : key row = other
        · simp [hkey, hother]
        · simp [hkey]
      rw [hboth, h, ← hboth]
    exact ⟨select hagree.sessions, select hagree.tokens⟩
  · intro other hother i hi
    refine hdeleted.kept i fun hpresents => ?_
    exact hother (hi.unique hrun hpresents)

/-- A refresh that has found no token writes nothing. -/
theorem unknown_writes_nothing (hrun : Run (machine services) (.initial (.noSessions accounts)) τ c)
    {e : IdentityEvent} {c' : IdentityConfig services} (hstep : Step (machine services) c e c')
    {input : RefreshSessionInput} (hstart : .start e.thread (.refresh input) ∈ τ ++ [e])
    (hunknown : ∀ session token, ¬ Presented services (τ ++ [e]) e.thread input session token) :
    c'.store = c.store := by
  cases hstep with
  | start i request hnone => rfl
  | threw hthread hthrows => rfl
  | @returned i request call next answer s hthread hreturns =>
    rcases hrun.did hthread with ⟨events, hdid⟩
    have hstarted : .start i (.refresh input) ∈ τ := by simpa using hstart
    obtain rfl : request = .refresh input := hrun.start_unique hdid.started hstarted
    rcases refresh_has_found hdid.went.calling with ⟨tokenHash, rfl⟩ | ⟨session, token, hmem⟩
    · -- its lookup
      exact hreturns.1
    · have hfound : .returned i
          (.findByTokenHash (services.hashRefreshToken input.refreshToken))
            (some ⟨session, token⟩) ∈ τ := hdid.subset hmem
      exact absurd ⟨hstart, List.mem_append_left _ hfound⟩ (hunknown session token)

/-- A login changes no row. -/
theorem login_changes_nothing (hrun : Run (machine services) (.initial (.noSessions accounts)) τ c)
    {e : IdentityEvent} {c' : IdentityConfig services} (hstep : Step (machine services) c e c')
    {input : LoginInput} (hstart : .start e.thread (.login input) ∈ τ ++ [e]) :
    c'.store.accounts = c.store.accounts ∧
      (∀ row ∈ c.store.tables.sessions.rows, row ∈ c'.store.tables.sessions.rows) ∧
      ∀ row ∈ c.store.tables.refreshTokens.rows, row ∈ c'.store.tables.refreshTokens.rows := by
  cases hstep with
  | start i request hnone => exact ⟨rfl, fun _ hrow => hrow, fun _ hrow => hrow⟩
  | threw hthread hthrows => exact ⟨rfl, fun _ hrow => hrow, fun _ hrow => hrow⟩
  | @returned i request call next answer s hthread hreturns =>
    rcases hrun.did hthread with ⟨events, hdid⟩
    have hstarted : .start i (.login input) ∈ τ := by simpa using hstart
    obtain rfl : request = .login input := hrun.start_unique hdid.started hstarted
    exact login_adds hreturns (hdid.went.calling.only (login_calls input))

/-- Sessions are isolated, in every run of the Identity service from a store without
sessions: a session is revoked only when two executions presented one of its tokens;
without the executions that present to one session, unless a row was refused to another,
every other session has the same rows and what presents to it the same results; an unknown
token changes nothing; and a login changes no row. -/
theorem sessions_are_isolated (services : Services) {accounts : UserTables services.lower}
    {τ : List IdentityEvent} {c : IdentityConfig services}
    (hrun : Run (machine services) (.initial (.noSessions accounts)) τ c) :
    (∀ sessionId, c.store.tables.Revoked sessionId → PresentedTwice τ c sessionId) ∧
    (∀ sessionId,
      (∀ i call, ¬ PresentsTo τ c sessionId i → .threw i call .constraintViolation ∉ τ) →
      ∃ c', IsolatedFrom accounts τ c sessionId c') ∧
    (∀ i tokenHash, .returned i (.findByTokenHash tokenHash) none ∈ τ →
      ∃ request, c.threads i = some ⟨request, .failed .invalidRefreshToken⟩) ∧
    (∀ e c', Step (machine services) c e c' →
      (∀ input, .start e.thread (.refresh input) ∈ τ ++ [e] →
        (∀ session token, ¬ Presented services (τ ++ [e]) e.thread input session token) →
        c'.store = c.store) ∧
      ∀ input, .start e.thread (.login input) ∈ τ ++ [e] →
        c'.store.accounts = c.store.accounts ∧
        (∀ row ∈ c.store.tables.sessions.rows, row ∈ c'.store.tables.sessions.rows) ∧
        ∀ row ∈ c.store.tables.refreshTokens.rows, row ∈ c'.store.tables.refreshTokens.rows) := by
  refine ⟨revoked_on_evidence hrun, isolated hrun, ?_, ?_⟩
  · -- a token that is not found
    intro i tokenHash hmem
    rcases hrun.done_by hmem (i := i) rfl with ⟨request, p, events, hthread, hdid⟩
    have hevent := hdid.returned.mp hmem
    rcases hdid.went.called hevent with ⟨τ₁, τ₂, next, -, hbefore⟩
    rcases execute_finds hbefore with ⟨input, rfl⟩
    rcases refresh_unknown hdid.went hevent with ⟨-, rfl⟩
    exact ⟨_, hthread⟩
  · intro e c' hstep
    constructor
    · intro input hstart hunknown
      exact unknown_writes_nothing hrun hstep hstart hunknown
    · intro input hstart
      exact login_changes_nothing hrun hstep hstart

/-! ### Two sample sessions -/

/-- How an execution ended. -/
def resultOf (c : IdentityConfig services) (i : ℕ) : Option (Except Failure Response) :=
  match c.threads i with
  | some ⟨_, .done response⟩ => some (.ok response)
  | some ⟨_, .failed e⟩ => some (.error e)
  | _ => none

/-- What an execution is given from outside. -/
inductive Drawn where
  | request (request : Request)
  | text (value : JsString)
  | at (date : Date)
deriving DecidableEq

/-- The request, the draws and the clock readings of an execution. -/
def drawn : IdentityEvent → Option (ℕ × Drawn)
  | .start i request => some (i, .request request)
  | .returned i .createRefreshToken minted => some (i, .text minted.token)
  | .returned i .nextId id => some (i, .text id)
  | .returned i .now date => some (i, .at date)
  | .returned i (.hashPassword _) hash => some (i, .text hash)
  | _ => none

/-- Whether an execution with this request presents a token of the session. -/
def presents (c : IdentityConfig services) (sessionId : JsString) : Drawn → Bool
  | .request (.refresh input) => c.store.tables.refreshTokens.rows.any fun row =>
      row.sessionId = sessionId ∧ row.tokenHash = services.hashRefreshToken input.refreshToken
  | _ => false

theorem mem_drawn_request {i : ℕ} {request : Request} :
    (i, .request request) ∈ τ.filterMap drawn ↔ .start i request ∈ τ := by
  rw [List.mem_filterMap]
  constructor
  · rintro ⟨e, he, hdrawn⟩
    unfold drawn at hdrawn
    split at hdrawn <;> cases hdrawn
    exact he
  · intro hmem
    exact ⟨_, hmem, rfl⟩

/-- The executions that do. -/
def presenters (τ : List IdentityEvent) (c : IdentityConfig services) (sessionId : JsString) :
    List ℕ :=
  ((τ.filterMap drawn).filter fun given => presents c sessionId given.2).map Prod.fst

theorem mem_presenters {sessionId : JsString} {i : ℕ} :
    i ∈ presenters τ c sessionId ↔ PresentsTo τ c sessionId i := by
  unfold presenters
  rw [List.mem_map]
  constructor
  · rintro ⟨⟨j, given⟩, hmem, rfl⟩
    rcases List.mem_filter.mp hmem with ⟨hgiven, hpresents⟩
    unfold presents at hpresents
    split at hpresents
    · rename_i input heq
      obtain rfl : given = .request (.refresh input) := heq
      rcases List.any_eq_true.mp hpresents with ⟨row, hrow, hmatch⟩
      exact ⟨input, mem_drawn_request.mp hgiven, row, hrow, of_decide_eq_true hmatch⟩
    · cases hpresents
  · rintro ⟨input, hstart, row, hrow, hsession, hhash⟩
    have hpresents : presents c sessionId (.request (.refresh input)) = true :=
      List.any_eq_true.mpr ⟨row, hrow, decide_eq_true ⟨hsession, hhash⟩⟩
    exact ⟨_, List.mem_filter.mpr ⟨mem_drawn_request.mpr hstart, hpresents⟩, rfl⟩

/-- Thread 1 logs in too: session 12 with token `opaque-3`. -/
def sampleSecondLogin : List Move :=
  [.start 1 (.login ⟨js "SAM", js "correct horse 1", none⟩), .answer 1 .none, .answer 1 .none,
    .answer 1 (.at 1767225600200), .answer 1 (.id 12), .answer 1 (.text (js "opaque-3")),
    .answer 1 (.id 13), .answer 1 .none, .answer 1 .none]

/-- Thread `i` comes to exchange `token` for `minted`. -/
def sampleExchange (i : ℕ) (token minted : JsString) (id : ℤ) : List Move :=
  [.start i (.refresh ⟨token⟩), .answer i .none, .answer i (.at 1767225600456),
    .answer i (.text minted), .answer i (.id id)]

/-- The exchange goes through. -/
def sampleRotates (i : ℕ) : List Move := [.answer i .none, .answer i .none]

/-- Threads 2 and 4 present `opaque-1`, and thread 3 `opaque-3`. -/
def sampleTwoSessions : List Move :=
  sampleLogin ++ sampleSecondLogin ++
    sampleExchange 2 (js "opaque-1") (js "opaque-2") 14 ++ sampleRotates 2 ++
    [.start 4 (.refresh ⟨js "opaque-1"⟩), .answer 4 .none, .answer 4 (.at 1767225600789),
      .answer 4 .none] ++
    sampleExchange 3 (js "opaque-3") (js "opaque-4") 15 ++ sampleRotates 3

theorem sampleTwoSessions_plays :
    (simulate sampleServices sampleStart sampleTwoSessions).isSome = true := by
  decide +kernel

def sampleIsolated : IdentityConfig sampleServices × List IdentityEvent :=
  (simulate sampleServices sampleStart sampleTwoSessions).get sampleTwoSessions_plays

/-- One session was revoked because its first token came twice, and without the two
executions that presented it the other is refreshed as it was. -/
theorem sample_sessions_are_isolated :
    ∃ τ c c', Run (machine sampleServices) sampleStart τ c ∧
      (c.store.tables.Revoked (js "9") ∧ PresentedTwice τ c (js "9")) ∧
      (PresentsTo τ c (js "9") 2 ∧ PresentsTo τ c (js "9") 4 ∧ PresentsTo τ c (js "12") 3) ∧
      IsolatedFrom sampleAccounts τ c (js "9") c' ∧
      (resultOf c 3).any Except.isOk = true ∧ resultOf c' 3 = resultOf c 3 := by
  have hrun : Run (machine sampleServices) sampleStart sampleIsolated.2 sampleIsolated.1 :=
    run_of_isSome sampleTwoSessions_plays
  -- one evaluation of the run for all
  have hplayed : sampleIsolated.1.store.tables.Revoked (js "9") ∧
      (PresentsTo sampleIsolated.2 sampleIsolated.1 (js "9") 2 ∧
        PresentsTo sampleIsolated.2 sampleIsolated.1 (js "9") 4 ∧
        PresentsTo sampleIsolated.2 sampleIsolated.1 (js "12") 3) ∧
      (resultOf sampleIsolated.1 3).any Except.isOk = true := by
    simp only [← mem_presenters]
    unfold SessionTables.Revoked
    decide +kernel
  rcases hplayed with ⟨hrevoked, hpresents, hserved⟩
  rcases sessions_are_isolated sampleServices hrun with ⟨htwice, hisolated, -⟩
  rcases hisolated (js "9") fun i call _ hmem =>
    noThrow_of_isSome sampleTwoSessions_plays i call _ hmem with ⟨c', hc'⟩
  have hsame := hc'.results (js "12") (by decide) 3 hpresents.2.2
  have hresult : resultOf c' 3 = resultOf sampleIsolated.1 3 := by
    unfold resultOf
    rw [hsame]
  exact ⟨_, _, c', hrun, ⟨hrevoked, htwice _ hrevoked⟩, hpresents, hc', hserved, hresult⟩

/-! ### A colliding draw -/

/-- Threads 2 and 3 draw the same id for their new tokens, and thread 2 inserts its own
first. -/
def sampleCollision : List Move :=
  sampleLogin ++ sampleSecondLogin ++
    sampleExchange 2 (js "opaque-1") (js "opaque-2") 14 ++ sampleRotates 2 ++
    sampleExchange 3 (js "opaque-3") (js "opaque-4") 14

/-- The same draws without thread 2. -/
def sampleNoCollision : List Move :=
  sampleLogin ++ sampleSecondLogin ++
    sampleExchange 3 (js "opaque-3") (js "opaque-4") 14 ++ sampleRotates 3

theorem sampleCollision_plays :
    (simulate sampleServices sampleStart sampleCollision).isSome = true := by
  decide +kernel

theorem sampleNoCollision_plays :
    (simulate sampleServices sampleStart sampleNoCollision).isSome = true := by
  decide +kernel

def sampleColliding : IdentityConfig sampleServices × List IdentityEvent :=
  (simulate sampleServices sampleStart sampleCollision).get sampleCollision_plays

def sampleAlone : IdentityConfig sampleServices × List IdentityEvent :=
  (simulate sampleServices sampleStart sampleNoCollision).get sampleNoCollision_plays

/-- The rotation thread 3 comes to. -/
def sampleNext : StoredRefreshToken :=
  ⟨js "14", js "12", sampleDigest (js "opaque-4"), none, 1767225600456⟩

theorem sampleColliding_threads : ∃ next, sampleColliding.1.threads 3 =
    some ⟨.refresh ⟨js "opaque-3"⟩, .call (.rotate (js "13") sampleNext 1767225600456) next⟩ := by
  exact ⟨_, rfl⟩

/-- The database refuses its row: the id is taken. -/
def sampleRefused : IdentityConfig sampleServices × List IdentityEvent :=
  (sampleColliding.1.set sampleColliding.1.store 3
      ⟨.refresh ⟨js "opaque-3"⟩, .failed .constraintViolation⟩,
    sampleColliding.2 ++
      [.threw 3 (.rotate (js "13") sampleNext 1767225600456) .constraintViolation])

/-- Without the execution that presents to session 9, and with every other draw and
reading as it was, session 12 is refreshed: with it, the database had refused the row. -/
theorem colliding_draw_reaches_another_session :
    ∃ τ c τ' c', Run (machine sampleServices) sampleStart τ c ∧
      Run (machine sampleServices) sampleStart τ' c' ∧
      (∀ i, PresentsTo τ c (js "9") i ↔ i = 2) ∧ PresentsTo τ c (js "12") 3 ∧
      τ'.filterMap drawn = (τ.filter fun e => e.thread ≠ 2).filterMap drawn ∧
      resultOf c 3 = some (.error .constraintViolation) ∧
      (resultOf c' 3).any Except.isOk = true ∧
      tokenRows c' (js "12") ≠ tokenRows c (js "12") := by
  rcases sampleColliding_threads with ⟨next, hthread⟩
  have hrefused : throws sampleServices (.rotate (js "13") sampleNext 1767225600456)
      sampleColliding.1.store .constraintViolation := by
    refine Or.inr ⟨rfl, ?_⟩
    decide +kernel
  have hrun : Run (machine sampleServices) sampleStart sampleRefused.2 sampleRefused.1 :=
    (run_of_isSome sampleCollision_plays).snoc (.threw hthread hrefused)
  -- one evaluation of the runs for all
  have hplayed : presenters sampleRefused.2 sampleRefused.1 (js "9") = [2] ∧
      3 ∈ presenters sampleRefused.2 sampleRefused.1 (js "12") ∧
      sampleAlone.2.filterMap drawn =
        (sampleRefused.2.filter fun e => e.thread ≠ 2).filterMap drawn ∧
      resultOf sampleRefused.1 3 = some (.error .constraintViolation) ∧
      (resultOf sampleAlone.1 3).any Except.isOk = true ∧
      tokenRows sampleAlone.1 (js "12") ≠ tokenRows sampleRefused.1 (js "12") := by
    decide +kernel
  rcases hplayed with ⟨hpresenters, hthree, hplayed⟩
  refine ⟨_, _, sampleAlone.2, sampleAlone.1, hrun, run_of_isSome sampleNoCollision_plays, ?_,
    mem_presenters.mp hthree, hplayed⟩
  intro i
  rw [← mem_presenters, hpresenters]
  exact List.mem_singleton

end Isolation

end XClone.Identity
