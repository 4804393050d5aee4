import XClone.Identity.Isolation
import XClone.Identity.RefreshTokenMigration

/-!
# XClone.Identity.CarriedSessions — sessions go on across the deploy

The migration that gave tokens their own table leaves every session with one unspent
token. Identity then serves from there, and what it guarantees from a store without
sessions it guarantees of the sessions that were carried over: chains do not fork, tokens
are single-use, and a session is revoked only when one of its tokens was presented twice.
So whoever presents each token once, in time, is never logged out.
-/

namespace XClone.Identity

open Js Interleaving SessionTables

variable {services : Services} {s : Store services.lower} {τ τ₁ τ₂ : List IdentityEvent}
  {c c₁ : IdentityConfig services}

/-! ## Any chained store -/

/-- Where every session has as many unspent tokens as tokens, no token is spent. -/
theorem unused_of_chained {t : SessionTables} (h : ChainedBy (fun _ => 0) t) : Unused t := by
  intro token htoken
  rcases t.tokenSession token htoken with ⟨session, hsession, hid⟩
  rcases h.unspent session hsession with ⟨unspent, hunspent⟩
  have hmem : unspent ∈ t.refreshTokens.rows.filter (unspentOf session.id) := by
    rw [hunspent]
    exact List.mem_singleton_self _
  rcases List.mem_filter.mp hmem with ⟨hstored, hmatch⟩
  -- the session has one token, so this is the unspent one
  have hone : (t.refreshTokens.rows.filter (ofSession session.id)).length = 1 := by
    rw [← List.countP_eq_length_filter]
    exact h.length session hsession
  rcases List.length_eq_one_iff.mp hone with ⟨only, honly⟩
  have heq (row : StoredRefreshToken) (hrow : row ∈ t.refreshTokens.rows)
      (hsame : row.sessionId = session.id) : row = only := by
    have hin : row ∈ t.refreshTokens.rows.filter (ofSession session.id) :=
      List.mem_filter.mpr ⟨hrow, by simpa [ofSession] using hsame⟩
    rw [honly] at hin
    exact List.mem_singleton.mp hin
  rw [heq token htoken hid.symm, ← heq unspent hstored (unspentOf_iff.mp hmatch).1]
  exact (unspentOf_iff.mp hmatch).2

/-! ## A token presented once is exchanged -/

/-- What is found under the hash of a stored token is that token's session, and a session
keeps its id, its account and its deadline. -/
theorem found_same (hbefore : Run (machine services) (.initial s) τ₁ c₁)
    (hrun : Run (machine services) c₁ τ₂ c) {i : ℕ} {session session' : Session}
    {token token' : StoredRefreshToken} (htoken : token ∈ c₁.store.tables.refreshTokens.rows)
    (hsession : session ∈ c₁.store.tables.sessions.rows) (hid : token.sessionId = session.id)
    (hfound : .returned i (.findByTokenHash token.tokenHash) (some ⟨session', token'⟩) ∈ τ₁ ++ τ₂) :
    session'.id = session.id ∧ session'.userId = session.userId ∧
      session'.expiresAt = session.expiresAt := by
  have hlater := (run_later hrun).tables
  rcases found_stored (hbefore.append hrun) hfound with
    ⟨hhash, hid', ⟨row', hrow', hrowLater'⟩, ⟨owner', howner', hownerLater'⟩⟩
  rcases hlater.token token htoken with ⟨row, hrow, hrowLater⟩
  rcases hlater.session session hsession with ⟨owner, howner, hownerLater⟩
  -- one hash, one token
  obtain rfl : row' = row := by
    refine c.store.tables.hash_unique hrow' hrow ?_
    rw [hrowLater.tokenHash, hrowLater'.tokenHash]
    exact hhash
  have hsame : token'.sessionId = token.sessionId :=
    hrowLater'.sessionId.symm.trans hrowLater.sessionId
  -- and one id, one session
  obtain rfl : owner' = owner := by
    refine c.store.tables.session_unique howner' howner ?_
    rw [hownerLater.id, hownerLater'.id]
    exact hid'.trans (hsame.trans hid)
  refine ⟨?_, ?_, ?_⟩
  · rw [← hownerLater'.id, hownerLater.id]
  · rw [← hownerLater'.userId, hownerLater.userId]
  · rw [← hownerLater'.expiresAt, hownerLater.expiresAt]

/-- A thread that starts in the later part of a run does all it does there. -/
theorem did_later (hbefore : Run (machine services) (.initial s) τ₁ c₁) {i : ℕ}
    (hfresh : c₁.threads i = none) {request : Request} {events : List IdentityEvent}
    {p : UseCase Response} (hdid : Did (machine services) (τ₁ ++ τ₂) i request events p) :
    events ⊆ τ₂ := by
  intro e he
  rcases (hdid.own e).mpr (Or.inr he) with ⟨hmem, hthread⟩
  rcases List.mem_append.mp hmem with hold | hlate
  · have hown : e ∈ (World.mk τ₁ c₁.store).own i := World.mem_own.mpr ⟨hold, hthread⟩
    rw [hbefore.projected.fresh i hfresh] at hown
    cases hown
  · exact hlate

/-- A refresh that presents a stored token in time, on a session none of whose tokens is
presented twice, is answered with a pair of that session. -/
theorem presented_once_served (hunused : Unused s.tables)
    (hbefore : Run (machine services) (.initial s) τ₁ c₁) (hrun : Run (machine services) c₁ τ₂ c)
    {session : Session} (hsession : session ∈ c₁.store.tables.sessions.rows)
    {token : StoredRefreshToken} (htoken : token ∈ c₁.store.tables.refreshTokens.rows)
    (hid : token.sessionId = session.id) (hlive : ¬ s.tables.Revoked session.id)
    (honce : ¬ PresentedTwice (τ₁ ++ τ₂) c session.id) {i : ℕ} {input : RefreshSessionInput}
    (hhash : services.hashRefreshToken input.refreshToken = token.tokenHash)
    (hfresh : c₁.threads i = none) {p : UseCase Response} (hended : EndedAs c i input p)
    (hthrow : NoThrow τ₂ i)
    (hclock : ∀ now, .returned i .now now ∈ τ₂ → now < session.expiresAt) :
    ∃ tokens, p = .done (.tokens tokens) ∧ tokens.userId = session.userId ∧
      tokens.refreshTokenExpiresAt = session.expiresAt := by
  have hall := hbefore.append hrun
  rcases hended with ⟨hthread, hcompleted⟩
  rcases hall.did hthread with ⟨events, hdid⟩
  have hlate := did_later hbefore hfresh hdid
  have hpath := hdid.went.quiet fun call e hthrew => hthrow call e (hlate hthrew)
  have hrevoked : ¬ c.store.tables.Revoked session.id := by
    intro hrevoked
    rcases revoked_since hunused hall session.id hrevoked with hfirst | htwice
    · exact hlive hfirst
    · exact honce htwice
  have same {session' : Session} {token' : StoredRefreshToken}
      (hfound : .returned i (.findByTokenHash (services.hashRefreshToken input.refreshToken))
        (some ⟨session', token'⟩) ∈ events) :
      session'.id = session.id ∧ session'.userId = session.userId ∧
        session'.expiresAt = session.expiresAt := by
    rw [hhash] at hfound
    exact found_same hbefore hrun htoken hsession hid (hdid.subset hfound)
  -- no reuse: the token would have been presented by another execution too
  have reuse {session' : Session} {token' : StoredRefreshToken}
      (hfound : .returned i (.findByTokenHash (services.hashRefreshToken input.refreshToken))
        (some ⟨session', token'⟩) ∈ events)
      (hreuse : token'.spentAt ≠ none ∨
        ∃ next spentAt, .returned i (.rotate token'.id next spentAt) false ∈ τ₁ ++ τ₂) : False := by
    rw [← (same hfound).1] at honce hrevoked
    exact honce (reused_presented_twice hunused hall ⟨hdid.started, hdid.subset hfound⟩ hreuse
      hrevoked)
  cases p with
  | call call next => exact hcompleted.elim
  | done response =>
    rcases refresh_done hpath with
      ⟨session', token', now, minted, id, accessToken, rfl, -, -, rfl⟩
    exact ⟨_, rfl, (same List.mem_cons_self).2⟩
  | failed e =>
    exfalso
    rcases refresh_rejected hpath with ⟨-, hrejection⟩
    cases hrejection with
    | unknown =>
      -- the token is stored
      rcases hrun.answered_at (hlate List.mem_cons_self) with
        ⟨_, _, c₂, c₃, -, hstill, ⟨-, hnone⟩, -⟩
      rcases (run_later hstill).tables.token token htoken with ⟨row, hrow, hrowLater⟩
      rcases DrizzleSessionRepository.findByTokenHash_of_mem hrow with ⟨owner, hsome⟩
      rw [hrowLater.tokenHash, ← hhash] at hsome
      exact Option.some_ne_none _ (hsome.symm.trans hnone.symm)
    | spent session' token' now hspent => exact reuse List.mem_cons_self (Or.inl hspent)
    | expired session' token' now hunspent hexpired =>
      have hnow := hclock now (hlate (by simp))
      rw [← (same List.mem_cons_self).2.2] at hnow
      exact absurd hexpired (not_le.mpr hnow)
    | notRotated session' token' now minted id hunspent hvalid =>
      have hrefused := hdid.subset (List.mem_of_getElem? (i := 4) rfl)
      exact reuse List.mem_cons_self (Or.inr ⟨_, _, hrefused⟩)

/-! ## After the migration -/

/-- What Identity keeps to from `s`: in a run that got to `c₁` and then to `c`, chains do
not fork, tokens are single-use, a session is revoked only on evidence, and whoever alone
presents a token that is stored at `c₁`, in time, is answered with the session's next
pair. -/
structure GoesOn (s : Store services.lower) (c₁ : IdentityConfig services)
    (τ₁ τ₂ : List IdentityEvent) (c : IdentityConfig services) : Prop where
  chained : ∀ session ∈ c.store.tables.sessions.rows,
    c.store.tables.refreshTokens.rows.countP (unspentOf session.id) = 1 ∧
      c.store.tables.refreshTokens.rows.countP (ofSession session.id) =
        1 + successes (τ₁ ++ τ₂) session.id
  single : ∀ i j input, ReturnedTokens c i input → ReturnedTokens c j input → i = j
  revoked : ∀ sessionId, c.store.tables.Revoked sessionId →
    s.tables.Revoked sessionId ∨ PresentedTwice (τ₁ ++ τ₂) c sessionId
  served : ∀ session ∈ c₁.store.tables.sessions.rows,
    ∀ token ∈ c₁.store.tables.refreshTokens.rows, token.sessionId = session.id →
    ¬ s.tables.Revoked session.id → ¬ PresentedTwice (τ₁ ++ τ₂) c session.id →
    ∀ i input p, services.hashRefreshToken input.refreshToken = token.tokenHash →
      c₁.threads i = none → EndedAs c i input p → NoThrow τ₂ i →
      (∀ now, .returned i .now now ∈ τ₂ → now < session.expiresAt) →
      ∃ tokens, p = .done (.tokens tokens) ∧ tokens.userId = session.userId ∧
        tokens.refreshTokenExpiresAt = session.expiresAt

theorem goes_on (hchained : ChainedBy (fun _ => 0) s.tables)
    (hbefore : Run (machine services) (.initial s) τ₁ c₁) (hrun : Run (machine services) c₁ τ₂ c) :
    GoesOn s c₁ τ₁ τ₂ c := by
  have hall := hbefore.append hrun
  have hunused := unused_of_chained hchained
  constructor
  · intro session hsession
    exact (chained_from hchained hall).counts hsession
  · intro i j input hi hj
    exact returned_unique (good_singleUse hall) hi hj
  · exact revoked_since hunused hall
  · intro session hsession token htoken hid hlive honce i input p hhash hfresh hended hthrow hclock
    exact presented_once_served hunused hbefore hrun hsession htoken hid hlive honce hhash hfresh
      hended hthrow hclock

section Deploy

open Migrations Relational

variable {ρ : Type} {other : Execute (Schema ρ)} {earlier : List Migration}
  {db₀ : Database (Schema ρ)} {old : Table HashedSession [fun row => row.id]} {rest : ρ}

/-- What a finished runner of the migrations leaves: every session carried over, and the
rest of the database as it was. -/
theorem carried_of_finished (hdistinct : ((earlier ++ [migration0002]).map Migration.id).Nodup)
    (hrecorded : RecordsPrefix (earlier ++ [migration0002]) earlier.length db₀)
    (hdata : db₀.data = .before old rest)
    {τ₀ : List (Event Unit QueryError Query Migrations.Answer)}
    {c₀ : Config (Migrations.Server (Schema ρ)) Unit (List JsString) QueryError Query
      Migrations.Answer}
    (hmigrated : Run (Migrations.machine (Schema.execute other) (earlier ++ [migration0002]))
      (.initial (.fresh db₀)) τ₀ c₀)
    {k : ℕ} {applied : List JsString} (hfinished : c₀.threads k = some ⟨(), .done applied⟩)
    {t : SessionTables} {rest' : ρ} (hafter : c₀.store.db.data = .after t rest') :
    Schema.CarriedOver old t ∧ rest' = rest := by
  have happlied := database_of_finished hdistinct hrecorded hmigrated hfinished
  have hstart : db₀.withTable.data = .before old rest := hdata
  rw [pending_blocks, Schema.applyAll_migration0002, hstart] at happlied
  rcases Option.bind_eq_some_iff.mp happlied with ⟨data, hmigrate, hrecord⟩
  -- recording its id is all that is left to do
  have hsame : c₀.store.db.data = data := by
    rcases Option.bind_eq_some_iff.mp hrecord with ⟨inserted, -, hinserted⟩
    rw [← Option.some.inj hinserted]
  cases hinsert : Table.insertAll (.empty : RefreshTokensTable) (old.rows.map Schema.carried) with
  | none =>
    rw [Schema.migrate_before_none hinsert] at hmigrate
    cases hmigrate
  | some inserted =>
    have hrows := (Table.insertAll_eq_some.mp hinsert).2
    rw [Schema.migrate_before hinsert hrows] at hmigrate
    rw [hsame, ← Option.some.inj hmigrate] at hafter
    have hsessions : Schema.withoutHash old = t.sessions :=
      SessionsTable.dropped.inj (congrArg Schema.sessions hafter)
    have htokens : inserted = t.refreshTokens :=
      Option.some.inj (congrArg Schema.refreshTokens hafter)
    have htables : Schema.carriedTables inserted hrows = t := by
      cases t
      cases hsessions
      cases htokens
      rfl
    rw [← htables]
    exact ⟨Schema.carriedOver hrows, (congrArg Schema.rest hafter).symm⟩

end Deploy

open Migrations in
/-- Sessions go on across the deploy. The migrations up to `0002` have been applied, by any
runners with any failures, and one of them has returned; Identity then starts over what is
committed. Every session was carried over, and in every run of Identity from there the
sessions, carried over or new, go on. -/
theorem carried_sessions_go_on (services : Services)
    {other : Execute (Schema (UserTables services.lower))} {earlier : List Migration}
    {db₀ : Database (Schema (UserTables services.lower))}
    {old : Relational.Table HashedSession [fun row => row.id]}
    {accounts : UserTables services.lower}
    (hdistinct : ((earlier ++ [migration0002]).map Migration.id).Nodup)
    (hrecorded : RecordsPrefix (earlier ++ [migration0002]) earlier.length db₀)
    (hdata : db₀.data = .before old accounts)
    {τ₀ : List (Event Unit QueryError Query Migrations.Answer)}
    {c₀ : Config (Migrations.Server (Schema (UserTables services.lower))) Unit (List JsString)
      QueryError Query Migrations.Answer}
    (hmigrated : Run (Migrations.machine (Schema.execute other) (earlier ++ [migration0002]))
      (.initial (.fresh db₀)) τ₀ c₀)
    {k : ℕ} {applied : List JsString} (hfinished : c₀.threads k = some ⟨(), .done applied⟩)
    {s : Store services.lower} (hafter : c₀.store.db.data = .after s.tables s.accounts) :
    s.accounts = accounts ∧ Schema.CarriedOver old s.tables ∧
      ∀ τ₁ c₁ τ₂ c, Run (machine services) (.initial s) τ₁ c₁ → Run (machine services) c₁ τ₂ c →
        GoesOn s c₁ τ₁ τ₂ c := by
  rcases carried_of_finished hdistinct hrecorded hdata hmigrated hfinished hafter with
    ⟨hcarried, haccounts⟩
  refine ⟨haccounts, hcarried, ?_⟩
  intro τ₁ c₁ τ₂ c hbefore hrun
  exact goes_on hcarried.chained hbefore hrun

/-! ## A sample -/

/-- The session of the sample login as `0001` kept it, with the hash of `opaque-1`. -/
def sampleOld : Relational.Table Migrations.HashedSession [fun row => row.id] where
  rows :=
    [{ id := js "9", userId := js "7", expiresAt := 1769817600123, revokedAt := none
       userAgent := none, createdAt := 1767225600123
       refreshTokenHash := sampleDigest (js "opaque-1") }]
  unique := by decide +kernel

/-- What the migration makes of it. -/
def sampleCarried : Store asciiLower where
  accounts := sampleAccounts
  tables :=
    { sessions := Migrations.Schema.withoutHash sampleOld
      refreshTokens := ⟨sampleOld.rows.map Migrations.Schema.carried, by decide +kernel⟩
      tokenSession := by decide +kernel }
  sessionUser := by decide +kernel

/-- `opaque-1`, presented after the deploy. -/
def sampleAfterDeploy : List Move :=
  [.start 0 (.refresh sampleRefreshInput), .answer 0 .none, .answer 0 (.at 1767225700000),
    .answer 0 (.text (js "opaque-2")), .answer 0 (.id 11), .answer 0 .none, .answer 0 .none]

theorem sampleAfterDeploy_plays :
    (simulate sampleServices (.initial sampleCarried) sampleAfterDeploy).isSome = true := by
  decide +kernel

/-- The token has been exchanged. -/
def sampleWentOn : IdentityConfig sampleServices × List IdentityEvent :=
  (simulate sampleServices (.initial sampleCarried) sampleAfterDeploy).get sampleAfterDeploy_plays

/-- The database before the migration. -/
def sampleDeployed : Migrations.Database (Migrations.Schema (UserTables asciiLower)) where
  recorded := Migrations.sampleDatabase.recorded
  data := .before sampleOld sampleAccounts

/-- A clock reading of the event is before the deadline. -/
def readsBefore (deadline : Date) : IdentityEvent → Bool
  | .returned _ .now now => now < deadline
  | _ => true

open Migrations in
/-- The migration applies to the sample database. -/
theorem sample_migrates : ∃ db, applyAll (Schema.execute fun _ _ => none)
      (((sampleEarlier ++ [migration0002]).drop sampleEarlier.length).map blockOf).flatten
      sampleDeployed.withTable = some db ∧
    db.data = .after sampleCarried.tables sampleCarried.accounts := by
  have hinsert : Relational.Table.insertAll .empty (sampleOld.rows.map Schema.carried) =
      some sampleCarried.tables.refreshTokens :=
    Relational.Table.insertAll_eq_some.mpr ⟨by decide +kernel, rfl⟩
  have hrows := (Relational.Table.insertAll_eq_some.mp hinsert).2
  have hdata : sampleDeployed.withTable.data = .before sampleOld sampleAccounts := rfl
  have hfresh : migration0002.id ∉ sampleDeployed.withTable.ids := by
    decide +kernel
  rcases record_apply (Schema.execute fun _ _ => none)
    { sampleDeployed.withTable with
      data := .after (Schema.carriedTables _ hrows) sampleAccounts } rfl hfresh
    with ⟨db, hrecord, hafter⟩
  refine ⟨db, ?_, hafter⟩
  rw [pending_blocks, Schema.applyAll_migration0002, hdata, Schema.migrate_before hinsert hrows]
  exact hrecord

/-- Whoever was logged in before the deploy presents the old token, and is answered with a
pair of the same account and deadline. -/
theorem sample_session_goes_on : ∃ tokens,
    sampleWentOn.1.threads 0 = some ⟨.refresh sampleRefreshInput, .done (.tokens tokens)⟩ ∧
      tokens.userId = js "7" ∧ tokens.refreshTokenExpiresAt = 1769817600123 := by
  have hdistinct : ((Migrations.sampleEarlier ++ [Migrations.migration0002]).map
      Migrations.Migration.id).Nodup := by
    decide +kernel
  have hrecorded : Migrations.RecordsPrefix (Migrations.sampleEarlier ++ [Migrations.migration0002])
      Migrations.sampleEarlier.length sampleDeployed := ⟨by decide, List.Perm.refl _⟩
  rcases sample_migrates with ⟨db, happlied, hafter⟩
  rcases (Migrations.uninterrupted_iff hdistinct hrecorded).mpr happlied with
    ⟨τ₀, c₀, applied, hmigrated, -, hfinished, rfl⟩
  rcases carried_sessions_go_on sampleServices hdistinct hrecorded rfl hmigrated hfinished hafter
    with ⟨-, -, hgo⟩
  have hrun : Run (machine sampleServices) (.initial sampleCarried) sampleWentOn.2 sampleWentOn.1 :=
    run_of_isSome sampleAfterDeploy_plays
  have hended : ∃ response,
      sampleWentOn.1.threads 0 = some ⟨.refresh sampleRefreshInput, .done response⟩ := ⟨_, rfl⟩
  rcases hended with ⟨response, hended⟩
  have hlive : ¬ sampleCarried.tables.Revoked (js "9") := by
    unfold SessionTables.Revoked
    decide +kernel
  have honly : ∀ e ∈ sampleWentOn.2, e.thread = 0 := by
    decide +kernel
  have honce : ¬ PresentedTwice ([] ++ sampleWentOn.2) sampleWentOn.1 (js "9") := by
    rintro ⟨token, -, -, i, j, hij, ⟨_, _, _, ⟨hi, -⟩, -⟩, ⟨_, _, _, ⟨hj, -⟩, -⟩⟩
    exact hij ((honly _ hi).trans (honly _ hj).symm)
  have hclock : ∀ now, .returned 0 .now now ∈ sampleWentOn.2 → now < 1769817600123 := by
    have hall : ∀ e ∈ sampleWentOn.2, readsBefore 1769817600123 e = true := by
      decide +kernel
    intro now hmem
    exact of_decide_eq_true (hall _ hmem)
  have hthrow := noThrow_of_isSome sampleAfterDeploy_plays 0
  rcases (hgo [] _ _ _ (.nil _) hrun).served _ List.mem_cons_self _ List.mem_cons_self rfl hlive
    honce 0 sampleRefreshInput _ rfl rfl ⟨hended, trivial⟩ hthrow hclock with ⟨tokens, hdone, hterms⟩
  rw [hdone] at hended
  exact ⟨tokens, hended, hterms⟩

end XClone.Identity
