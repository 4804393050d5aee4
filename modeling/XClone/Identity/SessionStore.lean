import XClone.Lib.Table
import XClone.Identity.Domain

/-!
# XClone.Identity.SessionStore — `DrizzleSessionRepository`

The tables `identity.sessions` and `identity.refresh_tokens` with their
constraints, and the four operations of the session repository, each one
transaction. `rotate_cases` says all a rotation can do; `Later` is the order the
tables only move up in.
-/

namespace XClone.Identity

open Js Relational

/-- `identity.sessions` and `identity.refresh_tokens`: two primary keys, the unique
`token_hash` and the reference from a token to its session. -/
structure SessionTables where
  sessions : Table Session [Session.id]
  refreshTokens : Table StoredRefreshToken [StoredRefreshToken.id, StoredRefreshToken.tokenHash]
  tokenSession : ∀ token ∈ refreshTokens.rows,
    ∃ session ∈ sessions.rows, session.id = token.sessionId

/-- A session joined with one of its tokens. -/
structure SessionWithToken where
  session : Session
  token : StoredRefreshToken
deriving DecidableEq

namespace SessionTables

@[ext] theorem ext {t u : SessionTables} (hs : t.sessions.rows = u.sessions.rows)
    (ht : t.refreshTokens.rows = u.refreshTokens.rows) : t = u := by
  cases t
  cases u
  cases Table.ext hs
  cases Table.ext ht
  rfl

/-- Neither table has a row. -/
def empty : SessionTables := ⟨.empty, .empty, fun _ h => nomatch h⟩

/-- Rows with one id are one session. -/
theorem session_unique (t : SessionTables) {s s' : Session} (hs : s ∈ t.sessions.rows)
    (hs' : s' ∈ t.sessions.rows) (h : s.id = s'.id) : s = s' :=
  t.sessions.eq_of_column List.mem_cons_self hs hs' h

/-- Rows with one id are one token. -/
theorem token_unique (t : SessionTables) {k k' : StoredRefreshToken}
    (hk : k ∈ t.refreshTokens.rows) (hk' : k' ∈ t.refreshTokens.rows) (h : k.id = k'.id) : k = k' :=
  t.refreshTokens.eq_of_column List.mem_cons_self hk hk' h

/-- Rows with one hash are one token. -/
theorem hash_unique (t : SessionTables) {k k' : StoredRefreshToken}
    (hk : k ∈ t.refreshTokens.rows) (hk' : k' ∈ t.refreshTokens.rows)
    (h : k.tokenHash = k'.tokenHash) : k = k' :=
  t.refreshTokens.eq_of_column (List.mem_cons_of_mem _ List.mem_cons_self) hk hk' h

/-- `INSERT INTO refresh_tokens`; `none` is a constraint violation. -/
def insertToken (t : SessionTables) (token : StoredRefreshToken) : Option SessionTables :=
  match h : t.refreshTokens.insert token with
  | none => none
  | some refreshTokens =>
    if hsession : ∃ session ∈ t.sessions.rows, session.id = token.sessionId then
      some
        { sessions := t.sessions
          refreshTokens
          tokenSession := by
            rw [(Table.insert_eq_some.mp h).2]
            intro row hrow
            rcases List.mem_cons.mp hrow with rfl | hrow
            · exact hsession
            · exact t.tokenSession row hrow }
    else none

/-- `INSERT INTO sessions`; `none` is a constraint violation. -/
def insertSession (t : SessionTables) (session : Session) : Option SessionTables :=
  match h : t.sessions.insert session with
  | none => none
  | some sessions =>
    some
      { sessions
        refreshTokens := t.refreshTokens
        tokenSession := by
          rw [(Table.insert_eq_some.mp h).2]
          intro row hrow
          rcases t.tokenSession row hrow with ⟨owner, howner, hid⟩
          exact ⟨owner, List.mem_cons_of_mem _ howner, hid⟩ }

/-- The rows the conditional `UPDATE` of `rotate` spends. -/
def spends (spentTokenId sessionId : JsString) (token : StoredRefreshToken) : Bool :=
  token.id = spentTokenId && token.sessionId = sessionId && token.spentAt.isNone

/-- Spending changes no unique column. -/
theorem spentAt_keeps (spentAt : Date) :
    ∀ column ∈ [StoredRefreshToken.id, StoredRefreshToken.tokenHash], ∀ token : StoredRefreshToken,
      column { token with spentAt := some spentAt } = column token := by
  intro column hcolumn token
  simp only [List.mem_cons, List.not_mem_nil, or_false] at hcolumn
  rcases hcolumn with rfl | rfl <;> rfl

/-- Revoking changes no unique column. -/
theorem revokedAt_keeps (revokedAt : Date) :
    ∀ column ∈ [Session.id], ∀ session : Session,
      column { session with revokedAt := some revokedAt } = column session := by
  intro column hcolumn session
  rw [List.mem_singleton.mp hcolumn]

/-- The conditional `UPDATE` of `rotate`. -/
def spend (t : SessionTables) (spentTokenId sessionId : JsString) (spentAt : Date) :
    SessionTables where
  sessions := t.sessions
  refreshTokens := t.refreshTokens.updateWhere (spends spentTokenId sessionId)
    (fun token => { token with spentAt := some spentAt }) (spentAt_keeps spentAt)
  tokenSession := by
    intro row hrow
    rcases (Table.mem_updateWhere (spentAt_keeps spentAt)).mp hrow with ⟨old, hold, rfl⟩
    rcases t.tokenSession old hold with ⟨session, hsession, hid⟩
    refine ⟨session, hsession, hid.trans ?_⟩
    split <;> rfl

/-- The sessions the locking read of `rotate` finds live. -/
def isLive (sessionId : JsString) (session : Session) : Bool :=
  session.id = sessionId && session.revokedAt.isNone

end SessionTables

namespace DrizzleSessionRepository

open SessionTables

/-- `create(session, firstToken)`; `none` when the transaction rolls back. -/
def create (t : SessionTables) (session : Session) (firstToken : StoredRefreshToken) :
    Option SessionTables := do
  let inserted ← t.insertSession session
  inserted.insertToken firstToken

/-- `findByTokenHash(tokenHash)`: the join, limited to one row. -/
def findByTokenHash (t : SessionTables) (tokenHash : JsString) : Option SessionWithToken :=
  let joined := (t.refreshTokens.rows.filter (·.tokenHash = tokenHash)).flatMap fun token =>
    (t.sessions.rows.filter (·.id = token.sessionId)).map fun session => ⟨session, token⟩
  joined.head?

/-- `rotate(spentTokenId, next, spentAt)`; `none` when the transaction rolls back. -/
def rotate (t : SessionTables) (spentTokenId : JsString) (next : StoredRefreshToken)
    (spentAt : Date) : Option (Bool × SessionTables) :=
  let live := t.sessions.rows.filter (isLive next.sessionId)
  if live.isEmpty then some (false, t)
  else
    let spent := t.refreshTokens.rows.filter (spends spentTokenId next.sessionId)
    if spent.isEmpty then some (false, t)
    else (((t.spend spentTokenId next.sessionId spentAt).insertToken next).map fun t' => (true, t'))

/-- `revoke(sessionId, revokedAt)`. -/
def revoke (t : SessionTables) (sessionId : JsString) (revokedAt : Date) : SessionTables where
  sessions := t.sessions.updateWhere (isLive sessionId)
    (fun session => { session with revokedAt := some revokedAt }) (revokedAt_keeps revokedAt)
  refreshTokens := t.refreshTokens
  tokenSession := by
    intro row hrow
    rcases t.tokenSession row hrow with ⟨session, hsession, hid⟩
    refine ⟨_, (Table.mem_updateWhere (revokedAt_keeps revokedAt)).mpr ⟨session, hsession, rfl⟩, ?_⟩
    rw [← hid]
    split <;> rfl

end DrizzleSessionRepository

/-! ## What each operation does -/

namespace SessionTables

theorem insertToken_spec {t t' : SessionTables} {token : StoredRefreshToken}
    (h : t.insertToken token = some t') :
    ¬ t.refreshTokens.Conflicts token ∧ t'.sessions = t.sessions ∧
      t'.refreshTokens.rows = token :: t.refreshTokens.rows := by
  unfold insertToken at h
  split at h
  · cases h
  · rename_i refreshTokens hinsert
    split at h
    · cases h
      rcases Table.insert_eq_some.mp hinsert with ⟨hfresh, hrows⟩
      exact ⟨hfresh, rfl, hrows⟩
    · cases h

theorem insertSession_spec {t t' : SessionTables} {session : Session}
    (h : t.insertSession session = some t') :
    ¬ t.sessions.Conflicts session ∧ t'.sessions.rows = session :: t.sessions.rows ∧
      t'.refreshTokens = t.refreshTokens := by
  unfold insertSession at h
  split at h
  · cases h
  · rename_i sessions hinsert
    cases h
    rcases Table.insert_eq_some.mp hinsert with ⟨hfresh, hrows⟩
    exact ⟨hfresh, hrows, rfl⟩

/-- A row that does not conflict has a new value in every unique column. -/
theorem fresh_session {t : SessionTables} {session row : Session}
    (h : ¬ t.sessions.Conflicts session) (hrow : row ∈ t.sessions.rows) : row.id ≠ session.id := by
  intro heq
  apply h
  exact ⟨Session.id, List.mem_cons_self, List.mem_map.mpr ⟨row, hrow, heq⟩⟩

theorem isLive_iff {sessionId : JsString} {session : Session} :
    isLive sessionId session = true ↔ session.id = sessionId ∧ session.revokedAt = none := by
  simp [isLive]

theorem spends_iff {spentTokenId sessionId : JsString} {token : StoredRefreshToken} :
    spends spentTokenId sessionId token = true ↔
      token.id = spentTokenId ∧ token.sessionId = sessionId ∧ token.spentAt = none := by
  simp [spends, and_assoc]

theorem mem_spend {t : SessionTables} {spentTokenId sessionId : JsString} {spentAt : Date}
    {row : StoredRefreshToken} :
    row ∈ (t.spend spentTokenId sessionId spentAt).refreshTokens.rows ↔
      ∃ old ∈ t.refreshTokens.rows, row =
        if spends spentTokenId sessionId old then { old with spentAt := some spentAt } else old :=
  Table.mem_updateWhere (spentAt_keeps spentAt)

/-- The session `sessionId` is revoked. -/
def Revoked (t : SessionTables) (sessionId : JsString) : Prop :=
  ∃ session ∈ t.sessions.rows, session.id = sessionId ∧ session.revokedAt ≠ none

/-- The token `id` is spent. -/
def Spent (t : SessionTables) (id : JsString) : Prop :=
  ∃ token ∈ t.refreshTokens.rows, token.id = id ∧ token.spentAt ≠ none

end SessionTables

namespace DrizzleSessionRepository

open SessionTables

theorem create_spec {t t' : SessionTables} {session : Session} {firstToken : StoredRefreshToken}
    (h : create t session firstToken = some t') :
    ¬ t.sessions.Conflicts session ∧ ¬ t.refreshTokens.Conflicts firstToken ∧
      t'.sessions.rows = session :: t.sessions.rows ∧
      t'.refreshTokens.rows = firstToken :: t.refreshTokens.rows := by
  rcases Option.bind_eq_some_iff.mp h with ⟨inserted, hsession, htoken⟩
  rcases insertSession_spec hsession with ⟨hfresh, hrows, hsame⟩
  rcases insertToken_spec htoken with ⟨hfresh', hsessions, hrows'⟩
  rw [hsame] at hfresh' hrows'
  rw [← hsessions] at hrows
  exact ⟨hfresh, hfresh', hrows, hrows'⟩

theorem mem_revoke {t : SessionTables} {sessionId : JsString} {revokedAt : Date} {row : Session} :
    row ∈ (revoke t sessionId revokedAt).sessions.rows ↔
      ∃ old ∈ t.sessions.rows, row =
        if isLive sessionId old then { old with revokedAt := some revokedAt } else old :=
  Table.mem_updateWhere (revokedAt_keeps revokedAt)

/-- What `findByTokenHash` found is a token with that hash and its session. -/
theorem findByTokenHash_some {t : SessionTables} {tokenHash : JsString} {found : SessionWithToken}
    (h : findByTokenHash t tokenHash = some found) :
    found.token ∈ t.refreshTokens.rows ∧ found.token.tokenHash = tokenHash ∧
      found.session ∈ t.sessions.rows ∧ found.session.id = found.token.sessionId := by
  have hmem := List.mem_of_head? h
  rcases List.mem_flatMap.mp hmem with ⟨token, htoken, hjoin⟩
  rcases List.mem_map.mp hjoin with ⟨session, hsession, rfl⟩
  simp only [List.mem_filter, decide_eq_true_eq] at htoken hsession
  exact ⟨htoken.1, htoken.2, hsession.1, hsession.2⟩

/-- Every stored token is found by its hash. -/
theorem findByTokenHash_of_mem {t : SessionTables} {token : StoredRefreshToken}
    (h : token ∈ t.refreshTokens.rows) :
    ∃ session, findByTokenHash t token.tokenHash = some ⟨session, token⟩ := by
  rcases t.tokenSession token h with ⟨session, hsession, hid⟩
  cases hfound : findByTokenHash t token.tokenHash with
  | none =>
    have hempty := List.head?_eq_none_iff.mp hfound
    have hmem : (⟨session, token⟩ : SessionWithToken) ∈
        (t.refreshTokens.rows.filter (·.tokenHash = token.tokenHash)).flatMap fun token =>
          (t.sessions.rows.filter (·.id = token.sessionId)).map fun session => ⟨session, token⟩ := by
      refine List.mem_flatMap.mpr ⟨token, by simp [h], List.mem_map.mpr ⟨session, ?_, rfl⟩⟩
      simp [hsession, hid]
    rw [hempty] at hmem
    cases hmem
  | some found =>
    rcases findByTokenHash_some hfound with ⟨hmem, hhash, -, -⟩
    obtain rfl := t.hash_unique hmem h hhash
    exact ⟨found.session, rfl⟩

/-- A rotation that went through: it spent one unspent token of a live session and
added `next`. -/
structure Rotated (t : SessionTables) (spentTokenId : JsString) (next : StoredRefreshToken)
    (spentAt : Date) (t' : SessionTables) : Prop where
  live : ∃ session ∈ t.sessions.rows, session.id = next.sessionId ∧ session.revokedAt = none
  unspent : ∃ token ∈ t.refreshTokens.rows,
    token.id = spentTokenId ∧ token.sessionId = next.sessionId ∧ token.spentAt = none
  fresh : ¬ (t.spend spentTokenId next.sessionId spentAt).refreshTokens.Conflicts next
  sessions : t'.sessions = t.sessions
  tokens : t'.refreshTokens.rows =
    next :: (t.spend spentTokenId next.sessionId spentAt).refreshTokens.rows

/-- A rotation that was refused: no live session, or no unspent token. -/
def Refuses (t : SessionTables) (spentTokenId : JsString) (next : StoredRefreshToken) : Prop :=
  (∀ session ∈ t.sessions.rows, session.id = next.sessionId → session.revokedAt ≠ none) ∨
  (∀ token ∈ t.refreshTokens.rows, token.id = spentTokenId → token.sessionId = next.sessionId →
    token.spentAt ≠ none)

/-- All a rotation can do. -/
theorem rotate_cases {t t' : SessionTables} {spentTokenId : JsString} {next : StoredRefreshToken}
    {spentAt : Date} {rotated : Bool} (h : rotate t spentTokenId next spentAt = some (rotated, t')) :
    (rotated = true ∧ Rotated t spentTokenId next spentAt t') ∨
    (rotated = false ∧ t' = t ∧ Refuses t spentTokenId next) := by
  simp only [rotate] at h
  split at h
  · -- no live session
    rename_i hlive
    cases h
    refine Or.inr ⟨rfl, rfl, Or.inl ?_⟩
    intro session hsession hid hrevoked
    have hmem : session ∈ t.sessions.rows.filter (isLive next.sessionId) :=
      List.mem_filter.mpr ⟨hsession, isLive_iff.mpr ⟨hid, hrevoked⟩⟩
    rw [List.isEmpty_iff.mp hlive] at hmem
    cases hmem
  rename_i hlive
  split at h
  · -- no unspent token
    rename_i hspent
    cases h
    refine Or.inr ⟨rfl, rfl, Or.inr ?_⟩
    intro token htoken hid hsession hspentAt
    have hmem : token ∈ t.refreshTokens.rows.filter (spends spentTokenId next.sessionId) :=
      List.mem_filter.mpr ⟨htoken, spends_iff.mpr ⟨hid, hsession, hspentAt⟩⟩
    rw [List.isEmpty_iff.mp hspent] at hmem
    cases hmem
  · -- spent and inserted
    rename_i hspent
    rcases Option.map_eq_some_iff.mp h with ⟨t'', hinsert, heq⟩
    cases heq
    rcases insertToken_spec hinsert with ⟨hfresh, hsessions, hrows⟩
    refine Or.inl ⟨rfl, ?_, ?_, hfresh, hsessions, hrows⟩
    · obtain ⟨session, hmem⟩ := List.isEmpty_eq_false_iff_exists_mem.mp
        (Bool.eq_false_iff.mpr hlive)
      rcases List.mem_filter.mp hmem with ⟨hsession, hmatch⟩
      exact ⟨session, hsession, isLive_iff.mp hmatch⟩
    · obtain ⟨token, hmem⟩ := List.isEmpty_eq_false_iff_exists_mem.mp
        (Bool.eq_false_iff.mpr hspent)
      rcases List.mem_filter.mp hmem with ⟨htoken, hmatch⟩
      exact ⟨token, htoken, spends_iff.mp hmatch⟩

/-- After `revoke`, an existing session is revoked. -/
theorem revoke_revoked {t : SessionTables} {session : Session} (h : session ∈ t.sessions.rows)
    (revokedAt : Date) : (revoke t session.id revokedAt).Revoked session.id := by
  refine ⟨_, mem_revoke.mpr ⟨session, h, rfl⟩, ?_, ?_⟩
  · split <;> rfl
  · split
    · simp
    · rename_i hmatch
      intro hnone
      exact hmatch (isLive_iff.mpr ⟨rfl, hnone⟩)

end DrizzleSessionRepository

/-! ## The order the tables grow in -/

namespace SessionTables

/-- `row` became `row'`: at most `revokedAt` was set. -/
def SessionLater (row row' : Session) : Prop :=
  { row with revokedAt := row'.revokedAt } = row' ∧
    (row.revokedAt ≠ none → row'.revokedAt = row.revokedAt)

/-- `row` became `row'`: at most `spentAt` was set. -/
def TokenLater (row row' : StoredRefreshToken) : Prop :=
  { row with spentAt := row'.spentAt } = row' ∧ (row.spentAt ≠ none → row'.spentAt = row.spentAt)

/-- No row is lost, no revocation undone, no token unspent. -/
structure Later (t t' : SessionTables) : Prop where
  session : ∀ row ∈ t.sessions.rows, ∃ row' ∈ t'.sessions.rows, SessionLater row row'
  token : ∀ row ∈ t.refreshTokens.rows, ∃ row' ∈ t'.refreshTokens.rows, TokenLater row row'

theorem SessionLater.refl (row : Session) : SessionLater row row := ⟨rfl, fun _ => rfl⟩

theorem TokenLater.refl (row : StoredRefreshToken) : TokenLater row row := ⟨rfl, fun _ => rfl⟩

/-! The columns that stay. -/

section Stays

variable {row row' : Session} {token token' : StoredRefreshToken}

theorem SessionLater.id (h : SessionLater row row') : row'.id = row.id := by
  rw [← h.1]

theorem SessionLater.userId (h : SessionLater row row') : row'.userId = row.userId := by
  rw [← h.1]

theorem SessionLater.expiresAt (h : SessionLater row row') : row'.expiresAt = row.expiresAt := by
  rw [← h.1]

theorem TokenLater.id (h : TokenLater token token') : token'.id = token.id := by
  rw [← h.1]

theorem TokenLater.sessionId (h : TokenLater token token') :
    token'.sessionId = token.sessionId := by
  rw [← h.1]

theorem TokenLater.tokenHash (h : TokenLater token token') :
    token'.tokenHash = token.tokenHash := by
  rw [← h.1]

end Stays

theorem SessionLater.trans {a b c : Session} (h : SessionLater a b) (h' : SessionLater b c) :
    SessionLater a c := by
  rcases h with ⟨hb, hkeep⟩
  rcases h' with ⟨hc, hkeep'⟩
  constructor
  · rw [← hc, ← hb]
  · intro hset
    have hb' := hkeep hset
    rw [hkeep' (by rw [hb']; exact hset), hb']

theorem TokenLater.trans {a b c : StoredRefreshToken} (h : TokenLater a b) (h' : TokenLater b c) :
    TokenLater a c := by
  rcases h with ⟨hb, hkeep⟩
  rcases h' with ⟨hc, hkeep'⟩
  constructor
  · rw [← hc, ← hb]
  · intro hset
    have hb' := hkeep hset
    rw [hkeep' (by rw [hb']; exact hset), hb']

theorem Later.refl (t : SessionTables) : Later t t :=
  ⟨fun row h => ⟨row, h, .refl row⟩, fun row h => ⟨row, h, .refl row⟩⟩

theorem Later.trans {t u v : SessionTables} (h : Later t u) (h' : Later u v) : Later t v := by
  constructor
  · intro row hrow
    rcases h.session row hrow with ⟨row', hrow', hl⟩
    rcases h'.session row' hrow' with ⟨row'', hrow'', hl'⟩
    exact ⟨row'', hrow'', hl.trans hl'⟩
  · intro row hrow
    rcases h.token row hrow with ⟨row', hrow', hl⟩
    rcases h'.token row' hrow' with ⟨row'', hrow'', hl'⟩
    exact ⟨row'', hrow'', hl.trans hl'⟩

theorem Later.revoked {t t' : SessionTables} (h : Later t t') {sessionId : JsString}
    (hr : t.Revoked sessionId) : t'.Revoked sessionId := by
  rcases hr with ⟨row, hrow, hid, hset⟩
  rcases h.session row hrow with ⟨row', hrow', hsame, hkeep⟩
  refine ⟨row', hrow', ?_, ?_⟩
  · rw [← hsame]
    exact hid
  · rw [hkeep hset]
    exact hset

theorem Later.spent {t t' : SessionTables} (h : Later t t') {id : JsString}
    (hr : t.Spent id) : t'.Spent id := by
  rcases hr with ⟨row, hrow, hid, hset⟩
  rcases h.token row hrow with ⟨row', hrow', hsame, hkeep⟩
  refine ⟨row', hrow', ?_, ?_⟩
  · rw [← hsame]
    exact hid
  · rw [hkeep hset]
    exact hset

end SessionTables

namespace DrizzleSessionRepository

open SessionTables

theorem spend_later (t : SessionTables) (spentTokenId sessionId : JsString) (spentAt : Date) :
    Later t (t.spend spentTokenId sessionId spentAt) := by
  refine ⟨fun row h => ⟨row, h, .refl row⟩, fun row h => ?_⟩
  refine ⟨_, mem_spend.mpr ⟨row, h, rfl⟩, ?_⟩
  split
  · rename_i hmatch
    exact ⟨rfl, fun hset => absurd (spends_iff.mp hmatch).2.2 hset⟩
  · exact .refl row

theorem create_later {t t' : SessionTables} {session : Session} {firstToken : StoredRefreshToken}
    (h : create t session firstToken = some t') : Later t t' := by
  rcases create_spec h with ⟨-, -, hsessions, htokens⟩
  constructor
  · intro row hrow
    exact ⟨row, by rw [hsessions]; exact List.mem_cons_of_mem _ hrow, .refl row⟩
  · intro row hrow
    exact ⟨row, by rw [htokens]; exact List.mem_cons_of_mem _ hrow, .refl row⟩

theorem Rotated.later {t t' : SessionTables} {spentTokenId : JsString} {next : StoredRefreshToken}
    {spentAt : Date} (h : Rotated t spentTokenId next spentAt t') : Later t t' := by
  constructor
  · intro row hrow
    exact ⟨row, by rw [h.sessions]; exact hrow, .refl row⟩
  · intro row hrow
    rcases (spend_later t spentTokenId next.sessionId spentAt).token row hrow with ⟨row', hrow', hl⟩
    exact ⟨row', by rw [h.tokens]; exact List.mem_cons_of_mem _ hrow', hl⟩

theorem rotate_later {t t' : SessionTables} {spentTokenId : JsString} {next : StoredRefreshToken}
    {spentAt : Date} {rotated : Bool} (h : rotate t spentTokenId next spentAt = some (rotated, t')) :
    Later t t' := by
  rcases rotate_cases h with ⟨-, hrotated⟩ | ⟨-, rfl, -⟩
  · exact hrotated.later
  · exact .refl _

theorem revoke_later (t : SessionTables) (sessionId : JsString) (revokedAt : Date) :
    Later t (revoke t sessionId revokedAt) := by
  refine ⟨fun row h => ?_, fun row h => ⟨row, h, .refl row⟩⟩
  refine ⟨_, mem_revoke.mpr ⟨row, h, rfl⟩, ?_⟩
  split
  · rename_i hmatch
    exact ⟨rfl, fun hset => absurd (isLive_iff.mp hmatch).2 hset⟩
  · exact .refl row

/-- A rotation that went through leaves its token spent. -/
theorem Rotated.spent {t t' : SessionTables} {spentTokenId : JsString} {next : StoredRefreshToken}
    {spentAt : Date} (h : Rotated t spentTokenId next spentAt t') : t'.Spent spentTokenId := by
  rcases h.unspent with ⟨token, htoken, hid, hsession, hunspent⟩
  refine ⟨{ token with spentAt := some spentAt }, ?_, hid, by simp⟩
  rw [h.tokens]
  refine List.mem_cons_of_mem _ (mem_spend.mpr ⟨token, htoken, ?_⟩)
  rw [if_pos (spends_iff.mpr ⟨hid, hsession, hunspent⟩)]

/-- A spent token cannot be rotated. -/
theorem Rotated.not_spent {t t' : SessionTables} {spentTokenId : JsString}
    {next : StoredRefreshToken} {spentAt : Date} (h : Rotated t spentTokenId next spentAt t') :
    ¬ t.Spent spentTokenId := by
  rcases h.unspent with ⟨token, htoken, hid, -, hunspent⟩
  rintro ⟨token', htoken', hid', hspent⟩
  obtain rfl := t.token_unique htoken htoken' (hid.trans hid'.symm)
  exact hspent hunspent

/-- A session that is not live cannot be rotated. -/
theorem Rotated.not_revoked {t t' : SessionTables} {spentTokenId : JsString}
    {next : StoredRefreshToken} {spentAt : Date} (h : Rotated t spentTokenId next spentAt t') :
    ¬ t.Revoked next.sessionId := by
  rcases h.live with ⟨session, hsession, hid, hlive⟩
  rintro ⟨session', hsession', hid', hset⟩
  obtain rfl := t.session_unique hsession hsession' (hid.trans hid'.symm)
  exact hset hlive

end DrizzleSessionRepository

/-! ## When writes go through -/

namespace SessionTables

theorem insertToken_of_fresh {t : SessionTables} {token : StoredRefreshToken}
    (hfresh : ¬ t.refreshTokens.Conflicts token)
    (hsession : ∃ session ∈ t.sessions.rows, session.id = token.sessionId) :
    ∃ t', t.insertToken token = some t' := by
  unfold insertToken
  split
  · rename_i hinsert
    unfold Table.insert at hinsert
    rw [dif_neg hfresh] at hinsert
    cases hinsert
  · rw [dif_pos hsession]
    exact ⟨_, rfl⟩

theorem insertSession_of_fresh {t : SessionTables} {session : Session}
    (hfresh : ¬ t.sessions.Conflicts session) : ∃ t', t.insertSession session = some t' := by
  unfold insertSession
  split
  · rename_i hinsert
    unfold Table.insert at hinsert
    rw [dif_neg hfresh] at hinsert
    cases hinsert
  · exact ⟨_, rfl⟩

end SessionTables

namespace DrizzleSessionRepository

open SessionTables

theorem create_of_fresh {t : SessionTables} {session : Session} {firstToken : StoredRefreshToken}
    (hsession : ¬ t.sessions.Conflicts session) (htoken : ¬ t.refreshTokens.Conflicts firstToken)
    (howner : ∃ owner ∈ session :: t.sessions.rows, owner.id = firstToken.sessionId) :
    ∃ t', create t session firstToken = some t' := by
  rcases insertSession_of_fresh hsession with ⟨inserted, hinserted⟩
  rcases insertSession_spec hinserted with ⟨-, hrows, hsame⟩
  rcases insertToken_of_fresh (hsame ▸ htoken) (hrows ▸ howner) with ⟨t', ht'⟩
  exact ⟨t', Option.bind_eq_some_iff.mpr ⟨inserted, hinserted, ht'⟩⟩

theorem rotate_of_refuses {t : SessionTables} {spentTokenId : JsString} {next : StoredRefreshToken}
    (h : Refuses t spentTokenId next) (spentAt : Date) :
    rotate t spentTokenId next spentAt = some (false, t) := by
  unfold rotate
  rcases h with hlive | hspent
  · have hnone : t.sessions.rows.filter (isLive next.sessionId) = [] := by
      rw [List.filter_eq_nil_iff]
      intro session hsession hmatch
      rcases isLive_iff.mp hmatch with ⟨hid, hnull⟩
      exact hlive session hsession hid hnull
    rw [hnone]
    rfl
  · have hnone : t.refreshTokens.rows.filter (spends spentTokenId next.sessionId) = [] := by
      rw [List.filter_eq_nil_iff]
      intro token htoken hmatch
      rcases spends_iff.mp hmatch with ⟨hid, hsession, hnull⟩
      exact hspent token htoken hid hsession hnull
    rw [hnone]
    simp

theorem rotate_of_fresh {t : SessionTables} {spentTokenId : JsString} {next : StoredRefreshToken}
    {spentAt : Date}
    (hlive : ∃ session ∈ t.sessions.rows, session.id = next.sessionId ∧ session.revokedAt = none)
    (hunspent : ∃ token ∈ t.refreshTokens.rows,
      token.id = spentTokenId ∧ token.sessionId = next.sessionId ∧ token.spentAt = none)
    (hfresh : ¬ (t.spend spentTokenId next.sessionId spentAt).refreshTokens.Conflicts next) :
    ∃ t', rotate t spentTokenId next spentAt = some (true, t') := by
  rcases hlive with ⟨session, hsession, hid, hnull⟩
  rcases hunspent with ⟨token, htoken, hmatch⟩
  have hsome : session ∈ t.sessions.rows.filter (isLive next.sessionId) :=
    List.mem_filter.mpr ⟨hsession, isLive_iff.mpr ⟨hid, hnull⟩⟩
  have hspends : token ∈ t.refreshTokens.rows.filter (spends spentTokenId next.sessionId) :=
    List.mem_filter.mpr ⟨htoken, spends_iff.mpr hmatch⟩
  have howner : ∃ owner ∈ (t.spend spentTokenId next.sessionId spentAt).sessions.rows,
      owner.id = next.sessionId := ⟨session, hsession, hid⟩
  rcases insertToken_of_fresh hfresh howner with ⟨t', ht'⟩
  refine ⟨t', ?_⟩
  unfold rotate
  dsimp only
  rw [if_neg (by simp [List.ne_nil_of_mem hsome]), if_neg (by simp [List.ne_nil_of_mem hspends]),
    ht']
  rfl

end DrizzleSessionRepository

end XClone.Identity
