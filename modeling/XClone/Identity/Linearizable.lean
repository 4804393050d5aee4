import XClone.Identity.LoginCorrect
import XClone.Identity.OperationPoints
import XClone.Identity.Reasons

/-!
# XClone.Identity.Linearizable — the tables keep the ledger

However executions interleave, the tables stand for a ledger, and every answered call
moves them as its operation moves the ledger. So a run is linearizable: its requests are
served one after the other, each between its start and its end.
-/

namespace XClone.Identity

open Js Interleaving SessionTables

/-! ## The tables and the ledger -/

/-- The token was minted, and this is its hash. -/
def MintedAs (services : Services) (τ : List IdentityEvent) (token hash : JsString) : Prop :=
  services.hashRefreshToken token = hash ∧
    ∃ i minted, .returned i .createRefreshToken minted ∈ τ ∧ minted.token = token

/-- A hash of this password is stored for the account. -/
def Secures {lower : JsString → JsString} (τ : List IdentityEvent) (t : UserTables lower)
    (userId password : JsString) : Prop :=
  ∃ hash, ⟨userId, hash⟩ ∈ t.credentials.rows ∧ ∃ i, .returned i (.hashPassword password) hash ∈ τ

/-- `users` and `credentials` are the accounts, with the passwords of the history in the
place of their hashes. -/
structure KeepAccounts {lower : JsString → JsString} (τ : List IdentityEvent)
    (t : UserTables lower) (accounts : JsString → Option Account) : Prop where
  account : ∀ row ∈ t.users.rows, ∃ account, accounts row.id = some account ∧
    account.profile = row.toProfile ∧ Secures τ t row.id account.password
  user : ∀ id account, accounts id = some account → ∃ row ∈ t.users.rows, row.id = id

/-- `sessions` and `refresh_tokens` are the families, with the tokens of the history in the
place of theirs. -/
structure KeepFamilies (services : Services) (τ : List IdentityEvent) (t : SessionTables)
    (families : JsString → Option Family) : Prop where
  family : ∀ row ∈ t.sessions.rows, ∃ family, families row.id = some family ∧
    family.session = row
  session : ∀ id family, families id = some family → ∃ row ∈ t.sessions.rows, row.id = id
  token : ∀ row ∈ t.refreshTokens.rows, ∃ family token, families row.sessionId = some family ∧
    MintedAs services τ token row.tokenHash ∧
      (row.spentAt = none → token = family.current) ∧ (row.spentAt ≠ none → token ∈ family.spent)
  stored : ∀ id family, families id = some family → ∀ token, family.Has token →
    ∃ row ∈ t.refreshTokens.rows, row.tokenHash = services.hashRefreshToken token

/-- The tables stand for the ledger. -/
structure Represents (services : Services) (τ : List IdentityEvent) (s : Store services.lower)
    (ledger : Ledger) : Prop where
  accounts : KeepAccounts τ s.accounts ledger.accounts
  families : KeepFamilies services τ s.tables ledger.families

/-- The refresh tokens that requests of a history presented. -/
def presentedTokens (τ : List IdentityEvent) : List JsString :=
  τ.filterMap fun
    | .start _ (.refresh input) => some input.refreshToken
    | _ => none

/-- The digest tells the tokens that are presented from those that are minted. -/
def DigestApart (services : Services) (τ : List IdentityEvent) : Prop :=
  ∀ token ∈ presentedTokens τ, ∀ minted ∈ mintedTokens τ,
    services.hashRefreshToken token = services.hashRefreshToken minted.token → token = minted.token

/-- Draws that do not repeat, a hasher that verifies what it hashed, and a digest without
collisions. -/
structure Ideal (services : Services) (τ : List IdentityEvent) : Prop where
  fresh : FreshDraws τ
  hasher : IdealHasher services τ
  digest : DigestApart services τ

variable {services : Services} {τ τ' : List IdentityEvent} {c c' : IdentityConfig services}
  {ledger : Ledger}

theorem Ideal.of_append (h : Ideal services (τ ++ τ')) : Ideal services τ := by
  refine ⟨h.fresh.of_append, ?_, ?_⟩
  · intro i password hash hmem
    exact h.hasher i password hash (List.mem_append_left _ hmem)
  · intro token htoken minted hminted
    apply h.digest token _ minted
    · rw [mintedTokens, List.filterMap_append]
      exact List.mem_append_left _ hminted
    · rw [presentedTokens, List.filterMap_append]
      exact List.mem_append_left _ htoken

theorem MintedAs.mono {token hash : JsString} (h : MintedAs services τ token hash)
    (hsub : τ ⊆ τ') : MintedAs services τ' token hash := by
  rcases h with ⟨hhash, i, minted, hmem, htoken⟩
  exact ⟨hhash, i, minted, hsub hmem, htoken⟩

theorem Secures.mono {lower : JsString → JsString} {t t' : UserTables lower}
    {userId password : JsString} (h : Secures τ t userId password) (hsub : τ ⊆ τ')
    (hrows : t.credentials.rows ⊆ t'.credentials.rows) : Secures τ' t' userId password := by
  rcases h with ⟨hash, hrow, i, hmem⟩
  exact ⟨hash, hrows hrow, i, hsub hmem⟩

theorem KeepAccounts.mono {lower : JsString → JsString} {t : UserTables lower}
    {accounts : JsString → Option Account} (h : KeepAccounts τ t accounts) (hsub : τ ⊆ τ') :
    KeepAccounts τ' t accounts := by
  refine ⟨?_, h.user⟩
  intro row hrow
  rcases h.account row hrow with ⟨account, haccount, hprofile, hsecures⟩
  exact ⟨account, haccount, hprofile, hsecures.mono hsub (List.Subset.refl _)⟩

theorem KeepFamilies.mono {t : SessionTables} {families : JsString → Option Family}
    (h : KeepFamilies services τ t families) (hsub : τ ⊆ τ') :
    KeepFamilies services τ' t families := by
  refine ⟨h.family, h.session, ?_, h.stored⟩
  intro row hrow
  rcases h.token row hrow with ⟨family, token, hfamily, hminted, hkind⟩
  exact ⟨family, token, hfamily, hminted.mono hsub, hkind⟩

/-! ## What the ledger says of the rows -/

namespace Represents

variable {s : Store services.lower}

theorem mono (h : Represents services τ s ledger) (hsub : τ ⊆ τ') :
    Represents services τ' s ledger :=
  ⟨h.accounts.mono hsub, h.families.mono hsub⟩

theorem holds_row (h : Represents services τ s ledger) {handle : JsString} {account : Account}
    (hholds : ledger.Holds services.lower handle account) :
    ∃ row ∈ s.accounts.users.rows, ledger.accounts row.id = some account ∧
      account.profile = row.toProfile ∧ services.lower row.handle = services.lower handle ∧
      Secures τ s.accounts row.id account.password := by
  rcases hholds with ⟨id, haccount, hhandle⟩
  rcases h.accounts.user id account haccount with ⟨row, hrow, rfl⟩
  rcases h.accounts.account row hrow with ⟨account', haccount', hprofile, hsecures⟩
  rw [haccount] at haccount'
  obtain rfl := Option.some.inj haccount'
  refine ⟨row, hrow, haccount, hprofile, ?_, hsecures⟩
  rw [← hhandle, hprofile]

theorem row_holds (h : Represents services τ s ledger) {handle : JsString} {row : UserRow}
    (hrow : row ∈ s.accounts.users.rows) (hhandle : services.lower row.handle = services.lower handle) :
    ∃ account, account.profile = row.toProfile ∧ ledger.Holds services.lower handle account ∧
      Secures τ s.accounts row.id account.password := by
  rcases h.accounts.account row hrow with ⟨account, haccount, hprofile, hsecures⟩
  refine ⟨account, hprofile, ⟨row.id, haccount, ?_⟩, hsecures⟩
  rw [hprofile]
  exact hhandle

/-- One handle, one account. -/
theorem holder_unique (h : Represents services τ s ledger) {handle : JsString}
    {account account' : Account} (hholds : ledger.Holds services.lower handle account)
    (hholds' : ledger.Holds services.lower handle account') : account = account' := by
  rcases h.holds_row hholds with ⟨row, hrow, haccount, -, hhandle, -⟩
  rcases h.holds_row hholds' with ⟨row', hrow', haccount', -, hhandle', -⟩
  have hsame : row = row' :=
    s.accounts.users.eq_of_column (List.mem_cons_of_mem _ List.mem_cons_self) hrow hrow'
      (hhandle.trans hhandle'.symm)
  rw [hsame, haccount'] at haccount
  exact (Option.some.inj haccount).symm

/-- A token that is presented and stored is one of its family. -/
theorem presented (h : Represents services τ s ledger) (hideal : Ideal services τ) {i : ℕ}
    {input : RefreshSessionInput} (hstart : .start i (.refresh input) ∈ τ) {row : StoredRefreshToken}
    (hrow : row ∈ s.tables.refreshTokens.rows)
    (hhash : row.tokenHash = services.hashRefreshToken input.refreshToken) :
    ∃ family, ledger.families row.sessionId = some family ∧
      (row.spentAt = none → input.refreshToken = family.current) ∧
      (row.spentAt ≠ none → input.refreshToken ∈ family.spent) := by
  rcases h.families.token row hrow with
    ⟨family, token, hfamily, ⟨htoken, j, minted, hminted, rfl⟩, hnew, hspent⟩
  have hpresented : input.refreshToken ∈ presentedTokens τ :=
    List.mem_filterMap.mpr ⟨_, hstart, rfl⟩
  have hmintedToken : minted ∈ mintedTokens τ := List.mem_filterMap.mpr ⟨_, hminted, rfl⟩
  have hsame : input.refreshToken = minted.token :=
    hideal.digest _ hpresented minted hmintedToken (by rw [htoken, hhash])
  rw [hsame]
  exact ⟨family, hfamily, hnew, hspent⟩

/-- A token whose hash is not stored is nobody's. -/
theorem unknown (h : Represents services τ s ledger) {token : JsString}
    (hnone : ∀ row ∈ s.tables.refreshTokens.rows, row.tokenHash ≠ services.hashRefreshToken token)
    (family : Family) : ¬ ledger.Knows token family := by
  rintro ⟨id, hfamily, hhas⟩
  rcases h.families.stored id family hfamily token hhas with ⟨row, hrow, hhash⟩
  exact hnone row hrow hhash

end Represents

/-- The family of a stored session. -/
theorem KeepFamilies.family_of {t : SessionTables} {families : JsString → Option Family}
    (h : KeepFamilies services τ t families) {row : Session} {family : Family}
    (hrow : row ∈ t.sessions.rows) (hfamily : families row.id = some family) :
    family.session = row := by
  rcases h.family row hrow with ⟨family', hfamily', hsession⟩
  rw [hfamily] at hfamily'
  rw [Option.some.inj hfamily']
  exact hsession

/-! ## What the writes do to them -/

section Accounts

variable {lower : JsString → JsString} {t t' : UserTables lower} {accounts : JsString → Option Account}

/-- A new account. -/
theorem KeepAccounts.create (h : KeepAccounts τ t accounts) {user : User} {password hash : JsString}
    (hcreate : DrizzleUserRepository.create t user hash = .ok t') {i : ℕ}
    (hhashed : .returned i (.hashPassword password) hash ∈ τ) :
    KeepAccounts τ t' (Function.update accounts user.id
      (some ⟨(DrizzleUserRepository.userRow user).toProfile, password⟩)) := by
  rcases DrizzleUserRepository.create_spec hcreate with ⟨hfresh, husers, hcredentials⟩
  rw [conflicts_iff, not_or] at hfresh
  constructor
  · intro row hrow
    rw [husers] at hrow
    rcases List.mem_cons.mp hrow with rfl | hold
    · refine ⟨_, Function.update_self _ _ _, rfl, hash, ?_, i, hhashed⟩
      rw [hcredentials]
      exact List.mem_cons_self
    · rcases h.account row hold with ⟨account, haccount, hprofile, hsecures⟩
      refine ⟨account, ?_, hprofile, hsecures.mono (List.Subset.refl _) ?_⟩
      · rw [Function.update_of_ne (fun hid => hfresh.1 ⟨row, hold, hid⟩)]
        exact haccount
      · rw [hcredentials]
        exact List.subset_cons_self _ _
  · intro id account haccount
    rw [husers]
    by_cases hid : id = user.id
    · exact ⟨_, List.mem_cons_self, hid.symm⟩
    · rw [Function.update_of_ne hid] at haccount
      rcases h.user id account haccount with ⟨row, hrow, hrowId⟩
      exact ⟨row, List.mem_cons_of_mem _ hrow, hrowId⟩

/-- A changed profile. -/
theorem KeepAccounts.update (h : KeepAccounts τ t accounts) {userId : JsString}
    {changes : ProfileChanges} {returned : Option Profile} {account : Account}
    (hupdate : DrizzleProfileRepository.update t userId changes = some (returned, t'))
    (haccount : accounts userId = some account) :
    KeepAccounts τ t' (Function.update accounts userId
      (some { account with profile := changes.apply account.profile })) := by
  rcases DrizzleProfileRepository.update_spec hupdate with ⟨hcredentials, hrows⟩
  constructor
  · intro row hrow
    rcases (hrows row).mp hrow with ⟨old, hold, rfl⟩
    rcases h.account old hold with ⟨account', haccount', hprofile, hsecures⟩
    have hsecures' {id : JsString} (hid : id = old.id) : Secures τ t' id account'.password := by
      rw [hid]
      refine hsecures.mono (List.Subset.refl _) ?_
      rw [hcredentials]
      exact List.Subset.refl _
    by_cases hid : old.id = userId
    · rw [hid, haccount] at haccount'
      obtain rfl := Option.some.inj haccount'
      rw [if_pos hid]
      refine ⟨{ account with profile := changes.apply account.profile }, ?_, ?_, hsecures' rfl⟩
      · rw [← hid]
        exact Function.update_self _ _ _
      · show changes.apply account.profile = _
        rw [hprofile]
        rfl
    · rw [if_neg hid]
      refine ⟨account', ?_, hprofile, hsecures' rfl⟩
      rw [Function.update_of_ne hid]
      exact haccount'
  · intro id account' haccount'
    have hknown : ∃ old ∈ t.users.rows, old.id = id := by
      by_cases hid : id = userId
      · rw [hid]
        exact h.user userId account haccount
      · rw [Function.update_of_ne hid] at haccount'
        exact h.user id account' haccount'
    rcases hknown with ⟨old, hold, rfl⟩
    refine ⟨_, (hrows _).mpr ⟨old, hold, rfl⟩, ?_⟩
    split <;> rfl

end Accounts

section Families

variable {t t' : SessionTables} {families : JsString → Option Family} {i : ℕ}

/-- A new session, and its first token. -/
theorem KeepFamilies.create (h : KeepFamilies services τ t families) {session : Session}
    {firstToken : StoredRefreshToken} {minted : RefreshToken}
    (hcreate : DrizzleSessionRepository.create t session firstToken = some t')
    (hsession : firstToken.sessionId = session.id)
    (hminted : .returned i .createRefreshToken minted ∈ τ)
    (hhash : firstToken.tokenHash = services.hashRefreshToken minted.token)
    (hunspent : firstToken.spentAt = none) :
    KeepFamilies services τ t'
      (Function.update families session.id (some ⟨session, minted.token, []⟩)) := by
  rcases DrizzleSessionRepository.create_spec hcreate with ⟨hfresh, -, hsessions, htokens⟩
  constructor
  · intro row hrow
    rw [hsessions] at hrow
    rcases List.mem_cons.mp hrow with rfl | hold
    · exact ⟨_, Function.update_self _ _ _, rfl⟩
    · rw [Function.update_of_ne (fresh_session hfresh hold)]
      exact h.family row hold
  · intro id family hfamily
    rw [hsessions]
    by_cases hid : id = session.id
    · exact ⟨_, List.mem_cons_self, hid.symm⟩
    · rw [Function.update_of_ne hid] at hfamily
      rcases h.session id family hfamily with ⟨row, hrow, hrowId⟩
      exact ⟨row, List.mem_cons_of_mem _ hrow, hrowId⟩
  · intro row hrow
    rw [htokens] at hrow
    rcases List.mem_cons.mp hrow with rfl | hold
    · rw [hsession]
      exact ⟨_, minted.token, Function.update_self _ _ _, ⟨hhash.symm, i, minted, hminted, rfl⟩,
        fun _ => rfl, fun hspent => absurd hunspent hspent⟩
    · -- an old token is on an old session
      rcases t.tokenSession row hold with ⟨owner, howner, hownerId⟩
      rw [Function.update_of_ne (hownerId ▸ fresh_session hfresh howner)]
      exact h.token row hold
  · intro id family hfamily token hhas
    rw [htokens]
    by_cases hid : id = session.id
    · rw [hid, Function.update_self] at hfamily
      cases hfamily
      rcases hhas with rfl | hno
      · exact ⟨firstToken, List.mem_cons_self, hhash⟩
      · cases hno
    · rw [Function.update_of_ne hid] at hfamily
      rcases h.stored id family hfamily token hhas with ⟨row, hrow, hrowHash⟩
      exact ⟨row, List.mem_cons_of_mem _ hrow, hrowHash⟩

/-- The token a rotation spends is the current one of its family, and no other row is. -/
theorem KeepFamilies.spent_current (h : KeepFamilies services τ t families) {family : Family}
    {sessionId spentTokenId : JsString} (hfamily : families sessionId = some family)
    {spent row : StoredRefreshToken} (hspent : spent ∈ t.refreshTokens.rows)
    (hmatch : spends spentTokenId sessionId spent = true) (hrow : row ∈ t.refreshTokens.rows)
    (hsession : row.sessionId = sessionId) (hunspent : row.spentAt = none) :
    spends spentTokenId sessionId row = true := by
  rcases spends_iff.mp hmatch with ⟨-, hspentSession, hspentNone⟩
  rcases h.token row hrow with ⟨family', token, hfamily', ⟨hhash, -⟩, hnew, -⟩
  rcases h.token spent hspent with ⟨family'', token', hfamily'', ⟨hhash', -⟩, hnew', -⟩
  rw [hsession, hfamily] at hfamily'
  rw [hspentSession, hfamily] at hfamily''
  obtain rfl := Option.some.inj hfamily'
  obtain rfl := Option.some.inj hfamily''
  have hsame : row = spent := by
    apply t.hash_unique hrow hspent
    rw [← hhash, ← hhash', hnew hunspent, hnew' hspentNone]
  rw [hsame]
  exact hmatch

/-- A rotation moves its family on to the next token. -/
theorem KeepFamilies.rotate (h : KeepFamilies services τ t families) {family : Family}
    {spentTokenId : JsString} {next : StoredRefreshToken} {spentAt : Date} {minted : RefreshToken}
    (hrotated : DrizzleSessionRepository.Rotated t spentTokenId next spentAt t')
    (hfamily : families next.sessionId = some family)
    (hminted : .returned i .createRefreshToken minted ∈ τ)
    (hhash : next.tokenHash = services.hashRefreshToken minted.token)
    (hunspent : next.spentAt = none) :
    KeepFamilies services τ t' (Function.update families next.sessionId
      (some ⟨family.session, minted.token, family.current :: family.spent⟩)) := by
  rcases hrotated.unspent with ⟨spent, hspent, hspends⟩
  have hmatch := spends_iff.mpr hspends
  constructor
  · rw [hrotated.sessions]
    intro row hrow
    by_cases hid : row.id = next.sessionId
    · rw [hid]
      have hkept : family.session = row := h.family_of hrow (hid ▸ hfamily)
      exact ⟨⟨family.session, minted.token, family.current :: family.spent⟩,
        Function.update_self _ _ _, hkept⟩
    · rw [Function.update_of_ne hid]
      exact h.family row hrow
  · rw [hrotated.sessions]
    intro id family' hfamily'
    by_cases hid : id = next.sessionId
    · rw [hid]
      exact h.session _ _ hfamily
    · rw [Function.update_of_ne hid] at hfamily'
      exact h.session id family' hfamily'
  · intro row hrow
    rw [hrotated.tokens] at hrow
    rcases List.mem_cons.mp hrow with rfl | hold
    · exact ⟨_, minted.token, Function.update_self _ _ _, ⟨hhash.symm, i, minted, hminted, rfl⟩,
        fun _ => rfl, fun hno => absurd hunspent hno⟩
    rcases mem_spend.mp hold with ⟨old, hmem, rfl⟩
    rcases h.token old hmem with ⟨family', token, hfamily', hmintedAs, hnew, hused⟩
    by_cases hsession : old.sessionId = next.sessionId
    · rw [hsession, hfamily] at hfamily'
      obtain rfl := Option.some.inj hfamily'
      by_cases hspent' : spends spentTokenId next.sessionId old = true
      · -- the token that was current
        rw [if_pos hspent']
        refine ⟨⟨family.session, minted.token, family.current :: family.spent⟩, token, ?_, hmintedAs,
          fun hno => absurd hno (Option.some_ne_none _), fun _ => ?_⟩
        · show Function.update families next.sessionId _ old.sessionId = _
          rw [hsession]
          exact Function.update_self _ _ _
        · exact List.mem_cons.mpr (Or.inl (hnew (spends_iff.mp hspent').2.2))
      · rw [if_neg hspent', hsession]
        refine ⟨⟨family.session, minted.token, family.current :: family.spent⟩, token,
          Function.update_self _ _ _, hmintedAs, ?_, ?_⟩
        · intro hnone
          exact absurd (h.spent_current hfamily hspent hmatch hmem hsession hnone) hspent'
        · intro hsome
          exact List.mem_cons_of_mem _ (hused hsome)
    · -- another family
      have hnot : ¬ spends spentTokenId next.sessionId old = true := fun hno =>
        hsession (spends_iff.mp hno).2.1
      rw [if_neg hnot, Function.update_of_ne hsession]
      exact ⟨family', token, hfamily', hmintedAs, hnew, hused⟩
  · intro id family' hfamily' token hhas
    rw [hrotated.tokens]
    have hold : token = minted.token ∨ ∃ row ∈ t.refreshTokens.rows,
        row.tokenHash = services.hashRefreshToken token := by
      by_cases hid : id = next.sessionId
      · rw [hid, Function.update_self] at hfamily'
        cases hfamily'
        rcases hhas with hcurrent | hspent'
        · exact Or.inl hcurrent
        · exact Or.inr (h.stored _ family hfamily token (List.mem_cons.mp hspent'))
      · rw [Function.update_of_ne hid] at hfamily'
        exact Or.inr (h.stored id family' hfamily' token hhas)
    rcases hold with rfl | ⟨row, hrow, hrowHash⟩
    · exact ⟨next, List.mem_cons_self, hhash⟩
    · refine ⟨_, List.mem_cons_of_mem _ (mem_spend.mpr ⟨row, hrow, rfl⟩), ?_⟩
      split <;> exact hrowHash

/-- A revocation, of a family that may have been revoked before. -/
theorem KeepFamilies.revoke (h : KeepFamilies services τ t ledger.families) (sessionId : JsString)
    (revokedAt : Date) : KeepFamilies services τ
      (DrizzleSessionRepository.revoke t sessionId revokedAt)
      (ledger.revoke sessionId revokedAt).families := by
  constructor
  · intro row hrow
    rcases DrizzleSessionRepository.mem_revoke.mp hrow with ⟨old, hold, rfl⟩
    rcases h.family old hold with ⟨family, hfamily, rfl⟩
    have hid : (if isLive sessionId family.session then
        { family.session with revokedAt := some revokedAt } else family.session).id =
          family.session.id := by
      split <;> rfl
    rw [hid, Ledger.revoke_families, hfamily, Option.map_some]
    refine ⟨_, rfl, ?_⟩
    by_cases hlive : family.session.id = sessionId ∧ family.session.revokedAt = none
    · rw [if_pos hlive, if_pos (isLive_iff.mpr hlive)]
    · rw [if_neg hlive, if_neg (mt isLive_iff.mp hlive)]
  · intro id family' hfamily'
    rw [Ledger.revoke_families] at hfamily'
    rcases Option.map_eq_some_iff.mp hfamily' with ⟨family, hfamily, -⟩
    rcases h.session id family hfamily with ⟨row, hrow, rfl⟩
    refine ⟨_, DrizzleSessionRepository.mem_revoke.mpr ⟨row, hrow, rfl⟩, ?_⟩
    split <;> rfl
  · intro row hrow
    rcases h.token row hrow with ⟨family, token, hfamily, hminted, hnew, hspent⟩
    rw [Ledger.revoke_families, hfamily, Option.map_some]
    refine ⟨_, token, rfl, hminted, ?_, ?_⟩
    · intro hnone
      rw [hnew hnone]
      split <;> rfl
    · intro hsome
      split <;> exact hspent hsome
  · intro id family' hfamily' token hhas
    rw [Ledger.revoke_families] at hfamily'
    rcases Option.map_eq_some_iff.mp hfamily' with ⟨family, hfamily, rfl⟩
    apply h.stored id family hfamily token
    by_cases hlive : id = sessionId ∧ family.session.revokedAt = none
    · rw [if_pos hlive] at hhas
      exact hhas
    · rw [if_neg hlive] at hhas
      exact hhas

end Families

/-! ## Pending calls -/

section Pending

variable {i : ℕ} {request : Request} {call : PortCall} {next : Answer call → UseCase Response}

/-- What an execution had done before the call it is at. -/
theorem pending (hrun : Run (machine services) (.initial (.blank services.lower)) τ c)
    (hthread : c.threads i = some ⟨request, .call call next⟩) :
    ∃ events, (World.mk τ c.store).own i = .start i request :: events ∧
      Path i (execute services.toSettings request) events (.call call next) ∧
      .start i request ∈ τ ∧ events ⊆ τ := by
  rcases hrun.projected.went i _ hthread with ⟨events, hown, hwent⟩
  have hsub : .start i request :: events ⊆ τ := by
    rw [← hown]
    exact List.filter_subset_self _
  exact ⟨events, hown, hwent.calling, hsub List.mem_cons_self,
    fun e he => hsub (List.mem_cons_of_mem _ he)⟩

end Pending

/-- What one answered call owes the ledger. -/
def Owes (services : Services) (τ : List IdentityEvent) (c : IdentityConfig services)
    (ledger : Ledger) (e : IdentityEvent) (s : Store services.lower) : Prop :=
  ∃ ledger', Moves (Ledger.Performs services) (point services ((World.mk τ c.store).own e.thread) e)
    ledger ledger' ∧ Represents services (τ ++ [e]) s ledger'

/-- A call that settles nothing and leaves the tables alone. -/
theorem owes_nothing {e : IdentityEvent} {s : Store services.lower}
    (hrep : Represents services τ c.store ledger) (hsame : s = c.store)
    (hpoint : point services ((World.mk τ c.store).own e.thread) e = none) :
    Owes services τ c ledger e s := by
  refine ⟨ledger, ?_, ?_⟩
  · rw [hpoint]
    exact rfl
  · rw [hsame]
    exact hrep.mono (List.subset_append_left _ _)

/-- A call that settles a request, and leaves the tables and the ledger alone. -/
theorem owes_answer {e : IdentityEvent} {s : Store services.lower} {request : Request}
    {reading : Option Date} {outcome : Except Failure Response}
    (hrep : Represents services τ c.store ledger) (hsame : s = c.store)
    (hpoint : point services ((World.mk τ c.store).own e.thread) e =
      some (.serve request reading outcome))
    (hserves : Serves services ledger request reading outcome ledger) :
    Owes services τ c ledger e s := by
  refine ⟨ledger, ?_, ?_⟩
  · rw [hpoint]
    exact hserves
  · rw [hsame]
    exact hrep.mono (List.subset_append_left _ _)

/-- A call that rejects a token of no use. -/
theorem owes_reuse {e : IdentityEvent} {s : Store services.lower} {token id : JsString}
    {family : Family} (hrep : Represents services τ c.store ledger) (hsame : s = c.store)
    (hpoint : point services ((World.mk τ c.store).own e.thread) e = some (.reuse token))
    (hfamily : ledger.families id = some family) (hrejects : family.Rejects token) :
    Owes services τ c ledger e s := by
  refine ⟨ledger, ?_, ?_⟩
  · rw [hpoint]
    exact ⟨⟨id, family, hfamily, hrejects⟩, rfl⟩
  · rw [hsame]
    exact hrep.mono (List.subset_append_left _ _)

/-! ## Registering -/

section Steps

variable {i : ℕ} {request : Request} {e : IdentityEvent}

/-- The check of a registration: a handle that is taken is one some account holds. -/
theorem owes_existsByHandle {handle : JsString} {next : Bool → UseCase Response} {taken : Bool}
    {s : Store services.lower} (hrep : Represents services τ c.store ledger)
    (hrun : Run (machine services) (.initial (.blank services.lower)) τ c)
    (hthread : c.threads i = some ⟨request, .call (.existsByHandle handle) next⟩)
    (hreturns : returns services (.existsByHandle handle) c.store taken s) :
    Owes services τ c ledger (.returned i (.existsByHandle handle) taken) s := by
  rcases pending hrun hthread with ⟨events, hown, hpath, -, -⟩
  rcases execute_asks hpath with ⟨input, rfl, rfl, rfl⟩
  have hcheck := check_of_path hpath (Or.inr id)
  cases taken with
  | false =>
    apply owes_nothing hrep hreturns.1
    rw [Event.thread_returned, hown]
    rfl
  | true =>
    have hany := hreturns.2.symm
    rw [DrizzleUserRepository.existsByHandle, List.any_eq_true] at hany
    rcases hany with ⟨row, hrow, hsame⟩
    rcases hrep.row_holds hrow (of_decide_eq_true hsame) with ⟨account, -, hholds, -⟩
    refine @owes_answer _ _ _ _ _ _ _ none _ hrep hreturns.1 ?_ (.handleTaken hcheck hholds)
    rw [Event.thread_returned, hown]
    rfl

/-- The insert of an account registers it. -/
theorem owes_createUser {user : User} {passwordHash : JsString} {next : Unit → UseCase Response}
    {s : Store services.lower} (hrep : Represents services τ c.store ledger)
    (hrun : Run (machine services) (.initial (.blank services.lower)) τ c)
    (hthread : c.threads i = some ⟨request, .call (.createUser user passwordHash) next⟩)
    (hreturns : returns services (.createUser user passwordHash) c.store () s) :
    Owes services τ c ledger (.returned i (.createUser user passwordHash) ()) s := by
  rcases pending hrun hthread with ⟨events, hown, hpath, -, hsub⟩
  rcases execute_creates hpath with ⟨input, rfl⟩
  have hcheck := check_of_path hpath (Or.inr id)
  rcases register_creates hpath with ⟨id, createdAt, rfl, -, rfl⟩
  have hhash : .returned i (.hashPassword input.password) passwordHash ∈ τ := hsub (by simp)
  have hfresh := (DrizzleUserRepository.create_spec hreturns.2).1
  rw [conflicts_iff, not_or] at hfresh
  refine ⟨ledger.withAccount id ⟨newProfile input id createdAt, input.password⟩, ?_, ?_⟩
  · rw [Event.thread_returned, hown]
    apply Serves.registered id createdAt hcheck
    · intro account hholds
      rcases hrep.holds_row hholds with ⟨row, hrow, -, -, hhandle, -⟩
      exact hfresh.2 ⟨row, hrow, hhandle⟩
    · refine Option.eq_none_iff_forall_ne_some.mpr fun account haccount => ?_
      exact hfresh.1 (hrep.accounts.user id account haccount)
  · refine ⟨(hrep.accounts.create hreturns.2 hhash).mono (List.subset_append_left _ _), ?_⟩
    have hsame : s.tables = c.store.tables := hreturns.1
    rw [hsame]
    exact hrep.families.mono (List.subset_append_left _ _)

/-- An insert that was refused found the handle taken. -/
theorem owes_threw {call : PortCall} {next : Answer call → UseCase Response} {e : Failure}
    (hrep : Represents services τ c.store ledger)
    (hrun : Run (machine services) (.initial (.blank services.lower)) τ c)
    (hfresh : FreshDraws τ) (hthread : c.threads i = some ⟨request, .call call next⟩)
    (hthrows : throws services call c.store e) :
    Owes services τ c ledger (.threw i call e) c.store := by
  rcases pending hrun hthread with ⟨events, hown, hpath, -, -⟩
  rcases @point_threw services i ((World.mk τ c.store).own i) call e with
    hnone | ⟨user, passwordHash, handle, rfl, rfl⟩
  · exact owes_nothing hrep rfl hnone
  · rcases execute_creates hpath with ⟨input, rfl⟩
    have hcheck := check_of_path hpath (Or.inr id)
    rcases register_creates hpath with ⟨id, createdAt, rfl, -, rfl⟩
    rcases hthrows with hno | herror
    · cases hno
    cases DrizzleUserRepository.create_error herror
    rcases taken_of_create herror (create_free hrun hfresh hthread) with ⟨row, hrow, hsame⟩
    rcases hrep.row_holds hrow hsame with ⟨account, -, hholds, -⟩
    refine @owes_answer _ _ _ _ _ _ _ (some createdAt) _ hrep rfl ?_ (.handleTaken hcheck hholds)
    rw [Event.thread_threw, hown]
    rfl

/-! ## Logging in -/

/-- The account a login found is still that of its handle, and its hash still the one of
its password. -/
theorem found_account (hrep : Represents services τ c.store ledger)
    (hrun : Run (machine services) (.initial (.blank services.lower)) τ c) {handle : JsString}
    {credentials : StoredCredentials}
    (hfound : .returned i (.findCredentialsByHandle handle) (some credentials) ∈ τ) :
    ∃ account, ledger.Holds services.lower handle account ∧
      account.profile.id = credentials.userId ∧
      ∃ j, .returned j (.hashPassword account.password) credentials.passwordHash ∈ τ := by
  rcases hrun.answered_at hfound with ⟨τ₁, τ₂, c₁, c₂, -, -, hreturns, hafter⟩
  rcases DrizzleUserRepository.findCredentialsByHandle_some hreturns.2.symm with
    ⟨hcredentials, user, huser, hid, hhandle⟩
  -- rows stay, with their ids and handles
  rw [← hreturns.1] at huser hcredentials
  have hlater := (run_later hafter).accounts
  rcases hlater.user user huser with ⟨row, hrow, hsame⟩
  have hrowId : row.id = credentials.userId := by
    rw [← hsame]
    exact hid
  have hrowHandle : services.lower row.handle = services.lower handle := by
    rw [← hsame]
    exact hhandle
  rcases hrep.row_holds hrow hrowHandle with
    ⟨account, hprofile, hholds, hash, hstored, j, hhashed⟩
  have hone : (⟨row.id, hash⟩ : CredentialsRow) = ⟨credentials.userId, credentials.passwordHash⟩ :=
    c.store.accounts.credentials.eq_of_column List.mem_cons_self hstored
      (hlater.credentials _ hcredentials) hrowId
  refine ⟨account, hholds, ?_, j, ?_⟩
  · rw [hprofile]
    exact hrowId
  · have hhash : hash = credentials.passwordHash := congrArg CredentialsRow.passwordHash hone
    rw [← hhash]
    exact hhashed

/-- A handle without credentials is nobody's. -/
theorem owes_findCredentials {handle : JsString} {next : Option StoredCredentials → UseCase Response}
    {found : Option StoredCredentials} {s : Store services.lower}
    (hrep : Represents services τ c.store ledger)
    (hrun : Run (machine services) (.initial (.blank services.lower)) τ c)
    (hthread : c.threads i = some ⟨request, .call (.findCredentialsByHandle handle) next⟩)
    (hreturns : returns services (.findCredentialsByHandle handle) c.store found s) :
    Owes services τ c ledger (.returned i (.findCredentialsByHandle handle) found) s := by
  rcases pending hrun hthread with ⟨events, hown, hpath, -, -⟩
  rcases execute_looksUp hpath with ⟨input, rfl, rfl, rfl⟩
  cases found with
  | some credentials =>
    apply owes_nothing hrep hreturns.1
    rw [Event.thread_returned, hown]
    rfl
  | none =>
    apply @owes_answer _ _ _ _ _ _ (.login input) none (.error .invalidCredentials) hrep hreturns.1
    · rw [Event.thread_returned, hown]
      rfl
    · apply Serves.wrongCredentials
      intro account hholds
      rcases hrep.holds_row hholds with ⟨row, hrow, -, -, hhandle, hash, hstored, -⟩
      have hfound := DrizzleUserRepository.findCredentialsByHandle_of_mem hrow hhandle hstored rfl
      rw [← hreturns.2] at hfound
      cases hfound

/-- A password that does not match is not that of the account. -/
theorem owes_verifyPassword {hash password : JsString} {next : Bool → UseCase Response}
    {verified : Bool} {s : Store services.lower} (hrep : Represents services τ c.store ledger)
    (hrun : Run (machine services) (.initial (.blank services.lower)) τ c)
    (hideal : Ideal services τ)
    (hthread : c.threads i = some ⟨request, .call (.verifyPassword hash password) next⟩)
    (hreturns : returns services (.verifyPassword hash password) c.store verified s) :
    Owes services τ c ledger (.returned i (.verifyPassword hash password) verified) s := by
  rcases pending hrun hthread with ⟨events, hown, hpath, -, hsub⟩
  rcases execute_verifies hpath with ⟨input, credentials, rfl, rfl, rfl, rfl⟩
  cases verified with
  | true =>
    apply owes_nothing hrep hreturns.1
    rw [Event.thread_returned, hown]
    rfl
  | false =>
    apply @owes_answer _ _ _ _ _ _ (.login input) none (.error .invalidCredentials) hrep hreturns.1
    · rw [Event.thread_returned, hown]
      rfl
    · rcases found_account hrep hrun (hsub List.mem_cons_self) with ⟨account, hholds, -, j, hhashed⟩
      apply Serves.wrongCredentials
      intro account' hholds' hsame
      rw [hrep.holder_unique hholds' hholds] at hsame
      -- the hasher would have said so
      have hmatches := (hideal.hasher j _ _ hhashed input.password).mpr hsame.symm
      rw [← hreturns.2] at hmatches
      cases hmatches

/-- What a token was minted with is its hash. -/
theorem minted_hash (hrun : Run (machine services) (.initial (.blank services.lower)) τ c)
    {minted : RefreshToken} (hmem : .returned i .createRefreshToken minted ∈ τ) :
    minted.hash = services.hashRefreshToken minted.token := by
  rcases hrun.answered hmem with ⟨s, s', hreturns⟩
  exact hreturns.2

/-- The session of a login is a new family, with its token the current one. -/
theorem owes_createSession {session : Session} {firstToken : StoredRefreshToken}
    {next : Unit → UseCase Response} {s : Store services.lower}
    (hrep : Represents services τ c.store ledger)
    (hrun : Run (machine services) (.initial (.blank services.lower)) τ c)
    (hideal : Ideal services τ)
    (hthread : c.threads i = some ⟨request, .call (.createSession session firstToken) next⟩)
    (hreturns : returns services (.createSession session firstToken) c.store () s) :
    Owes services τ c ledger (.returned i (.createSession session firstToken) ()) s := by
  rcases pending hrun hthread with ⟨events, hown, hpath, -, hsub⟩
  rcases execute_opens hpath with ⟨input, rfl⟩
  rcases point_createSession hpath with ⟨minted, hmintedOwn, htokenHash, hpoint⟩
  have hminted := hsub hmintedOwn
  have hhash := htokenHash.trans (minted_hash hrun hminted)
  rcases login_opens hpath with ⟨credentials, id, minted', tokenId, now, rfl, rfl, rfl⟩
  rcases DrizzleSessionRepository.create_spec hreturns.2 with ⟨hfresh, hfreshToken, -, -⟩
  -- the password was that of the account
  rcases found_account hrep hrun (hsub List.mem_cons_self) with
    ⟨account, hholds, haccountId, j, hhashed⟩
  have hverified : .returned i (.verifyPassword credentials.passwordHash input.password) true ∈ τ :=
    hsub (by simp)
  rcases hrun.answered hverified with ⟨s₁, s₂, hverify⟩
  have hpassword := ((hideal.hasher j _ _ hhashed input.password).mp hverify.2.symm).symm
  have hsession : loginSession services.toSettings input credentials id now =
      newSession services input account id now := by
    unfold loginSession newSession
    rw [haccountId]
  refine ⟨ledger.withFamily id ⟨newSession services input account id now, minted.token, []⟩, ?_, ?_⟩
  · rw [Event.thread_returned, hown, hpoint, hsession]
    apply Serves.loggedIn id minted.token now hholds hpassword
    · refine Option.eq_none_iff_forall_ne_some.mpr fun family hfamily => ?_
      rcases hrep.families.session id family hfamily with ⟨row, hrow, hid⟩
      exact fresh_session hfresh hrow hid
    · apply hrep.unknown
      intro row hrow hsame
      apply hfreshToken
      refine ⟨StoredRefreshToken.tokenHash, List.mem_cons_of_mem _ List.mem_cons_self, ?_⟩
      exact List.mem_map.mpr ⟨row, hrow, hsame.trans hhash.symm⟩
  · have hsame : s.accounts = c.store.accounts := hreturns.1
    constructor
    · rw [hsame]
      exact hrep.accounts.mono (List.subset_append_left _ _)
    · rw [← hsession]
      exact (hrep.families.create hreturns.2 rfl hminted hhash rfl).mono (List.subset_append_left _ _)

/-! ## Refreshing -/

/-- The lookup of a refresh: an unknown token is nobody's, a spent one of no use. -/
theorem owes_findByTokenHash {tokenHash : JsString} {next : Option SessionWithToken → UseCase Response}
    {found : Option SessionWithToken} {s : Store services.lower}
    (hrep : Represents services τ c.store ledger)
    (hrun : Run (machine services) (.initial (.blank services.lower)) τ c)
    (hideal : Ideal services τ)
    (hthread : c.threads i = some ⟨request, .call (.findByTokenHash tokenHash) next⟩)
    (hreturns : returns services (.findByTokenHash tokenHash) c.store found s) :
    Owes services τ c ledger (.returned i (.findByTokenHash tokenHash) found) s := by
  rcases pending hrun hthread with ⟨events, hown, hpath, hstart, -⟩
  rcases execute_finds hpath with ⟨input, rfl⟩
  obtain rfl := refresh_finds hpath
  obtain rfl : tokenHash = services.hashRefreshToken input.refreshToken := by
    cases hpath
    rfl
  cases found with
  | none =>
    apply @owes_answer _ _ _ _ _ _ (.refresh input) none (.error .invalidRefreshToken) hrep
      hreturns.1
    · rw [Event.thread_returned, hown]
      rfl
    · apply Serves.unknownToken
      apply hrep.unknown
      intro row hrow hhash
      rcases DrizzleSessionRepository.findByTokenHash_of_mem hrow with ⟨session, hsome⟩
      rw [hhash, ← hreturns.2] at hsome
      cases hsome
  | some found =>
    have hpoint := @point_find services i input (services.hashRefreshToken input.refreshToken) found
    by_cases hunspent : found.token.spentAt = none
    · apply owes_nothing hrep hreturns.1
      rw [if_pos hunspent] at hpoint
      rw [Event.thread_returned, hown, hpoint]
    rw [if_neg hunspent] at hpoint
    rcases DrizzleSessionRepository.findByTokenHash_some hreturns.2.symm with ⟨hrow, hhash, -, -⟩
    rcases hrep.presented hideal hstart hrow hhash with ⟨family, hfamily, -, hspent⟩
    refine owes_reuse hrep hreturns.1 ?_ hfamily (Or.inl (hspent hunspent))
    rw [Event.thread_returned, hown, hpoint]

/-- The rows a refresh found are still there. -/
theorem found_rows (hrun : Run (machine services) (.initial (.blank services.lower)) τ c)
    {tokenHash : JsString} {session : Session} {token : StoredRefreshToken}
    (hfound : .returned i (.findByTokenHash tokenHash) (some ⟨session, token⟩) ∈ τ) :
    token.tokenHash = tokenHash ∧ session.id = token.sessionId ∧
      (∃ row ∈ c.store.tables.refreshTokens.rows, TokenLater token row) ∧
      ∃ row ∈ c.store.tables.sessions.rows, SessionLater session row :=
  (good_evidence hrun).inv.found hfound

/-- What a refresh found, as the tables and the ledger have it by now. -/
structure FoundNow (ledger : Ledger) (t : SessionTables) (input : RefreshSessionInput)
    (session : Session) (token : StoredRefreshToken) (family : Family) (row : StoredRefreshToken)
    (owner : Session) : Prop where
  stored : row ∈ t.refreshTokens.rows
  later : TokenLater token row
  sessionId : row.sessionId = session.id
  opened : owner ∈ t.sessions.rows
  ownerLater : SessionLater session owner
  known : ledger.families session.id = some family
  terms : family.session = owner
  current : row.spentAt = none → input.refreshToken = family.current
  spent : row.spentAt ≠ none → input.refreshToken ∈ family.spent

theorem found_now (hrep : Represents services τ c.store ledger)
    (hrun : Run (machine services) (.initial (.blank services.lower)) τ c)
    (hideal : Ideal services τ) {input : RefreshSessionInput} {session : Session}
    {token : StoredRefreshToken} (hpresented : Presented services τ i input session token) :
    ∃ family row owner, FoundNow ledger c.store.tables input session token family row owner := by
  rcases found_rows hrun hpresented.2 with
    ⟨hhash, hsession, ⟨row, hrow, hlater⟩, owner, howner, hownerLater⟩
  have hrowHash : row.tokenHash = services.hashRefreshToken input.refreshToken := by
    rw [hlater.tokenHash, ← hhash]
  have hrowSession : row.sessionId = session.id := by
    rw [hlater.sessionId]
    exact hsession.symm
  have hownerId : owner.id = session.id := hownerLater.id
  rcases hrep.presented hideal hpresented.1 hrow hrowHash with ⟨family, hfamily, hcurrent, hspent⟩
  rw [hrowSession] at hfamily
  exact ⟨family, row, owner, hrow, hlater, hrowSession, howner, hownerLater, hfamily,
    hrep.families.family_of howner (hownerId ▸ hfamily), hcurrent, hspent⟩

namespace FoundNow

variable {t : SessionTables} {input : RefreshSessionInput} {session owner : Session}
  {token row : StoredRefreshToken} {family : Family}

theorem knows (h : FoundNow ledger t input session token family row owner) :
    ledger.Knows input.refreshToken family := by
  refine ⟨session.id, h.known, ?_⟩
  by_cases hunspent : row.spentAt = none
  · exact Or.inl (h.current hunspent)
  · exact Or.inr (h.spent hunspent)

/-- Once the session is revoked, or the token spent, it is of no use. -/
theorem rejects (h : FoundNow ledger t input session token family row owner)
    (huseless : t.Revoked session.id ∨ row.spentAt ≠ none) : family.Rejects input.refreshToken := by
  by_cases hunspent : row.spentAt = none
  · rcases huseless with ⟨live, hlive, hid, hset⟩ | hspent
    · obtain rfl : live = owner :=
        t.session_unique hlive h.opened (hid.trans h.ownerLater.id.symm)
      refine Or.inr ⟨h.current hunspent, ?_⟩
      rw [h.terms]
      exact hset
    · exact absurd hunspent hspent
  · exact Or.inl (h.spent hunspent)

end FoundNow

/-- The clock of a refresh may say that its session has expired. -/
theorem owes_now {next : Date → UseCase Response} {now : Date} {s : Store services.lower}
    (hrep : Represents services τ c.store ledger)
    (hrun : Run (machine services) (.initial (.blank services.lower)) τ c)
    (hideal : Ideal services τ) (hthread : c.threads i = some ⟨request, .call .now next⟩)
    (hreturns : returns services .now c.store now s) :
    Owes services τ c ledger (.returned i .now now) s := by
  rcases pending hrun hthread with ⟨events, hown, hpath, hstart, hsub⟩
  cases request with
  | register input | login input | getProfile handle | updateProfile input =>
    apply owes_nothing hrep hreturns
    rw [Event.thread_returned, hown]
    rfl
  | refresh input =>
    rcases refresh_reads hpath with ⟨⟨session, token⟩, rfl⟩
    have hpoint := @point_now services i input ⟨session, token⟩ now
    by_cases hexpired : token.spentAt = none ∧ session.expiresAt ≤ now
    · rw [if_pos hexpired] at hpoint
      apply @owes_answer _ _ _ _ _ _ (.refresh input) (some now) (.error .invalidRefreshToken) hrep
        hreturns
      · rw [Event.thread_returned, hown, hpoint]
      · rcases found_now hrep hrun hideal ⟨hstart, hsub List.mem_cons_self⟩ with
          ⟨family, row, owner, hfound⟩
        have hterms : family.session.expiresAt = session.expiresAt := by
          rw [hfound.terms, hfound.ownerLater.expiresAt]
        exact Serves.expired now hfound.knows (hterms ▸ hexpired.2)
    · rw [if_neg hexpired] at hpoint
      apply owes_nothing hrep hreturns
      rw [Event.thread_returned, hown, hpoint]

/-- A rotation: the next token, or one that is of no use. -/
theorem owes_rotate {spentTokenId : JsString} {next : StoredRefreshToken} {spentAt : Date}
    {after : Bool → UseCase Response} {rotated : Bool} {s : Store services.lower}
    (hrep : Represents services τ c.store ledger)
    (hrun : Run (machine services) (.initial (.blank services.lower)) τ c)
    (hideal : Ideal services τ)
    (hthread : c.threads i = some ⟨request, .call (.rotate spentTokenId next spentAt) after⟩)
    (hreturns : returns services (.rotate spentTokenId next spentAt) c.store rotated s) :
    Owes services τ c ledger (.returned i (.rotate spentTokenId next spentAt) rotated) s := by
  rcases pending hrun hthread with ⟨events, hown, hpath, hstart, hsub⟩
  rcases execute_rotates hpath with ⟨input, rfl⟩
  rcases refresh_rotates hpath with ⟨session, token, minted, id, rfl, hunspent, hvalid, rfl, rfl⟩
  have hpoint := @point_rotate services i input session token (mintedRow minted id session.id spentAt)
    minted id token.id spentAt spentAt rotated
  have hminted : .returned i .createRefreshToken minted ∈ τ := hsub (by simp)
  -- the rows it found, as they are now
  rcases found_now hrep hrun hideal ⟨hstart, hsub List.mem_cons_self⟩ with
    ⟨family, row, owner, hfound⟩
  have hrowId : row.id = token.id := hfound.later.id
  have hownerId : owner.id = session.id := hfound.ownerLater.id
  have hfamily := hfound.known
  rcases DrizzleSessionRepository.rotate_cases hreturns.2 with ⟨rfl, hrotated⟩ | ⟨rfl, hsame, hrefuses⟩
  · -- the session was live when it was found, so it is the one the family has
    rcases hrotated.live with ⟨live, hlive, hliveId, hnull⟩
    obtain rfl : live = owner :=
      c.store.tables.session_unique hlive hfound.opened (hliveId.trans hownerId.symm)
    have hunrevoked : session.revokedAt = none := by
      by_contra hset
      rw [hfound.ownerLater.2 hset] at hnull
      exact hset hnull
    have hterms : family.session = session := by
      rw [hfound.terms, ← hfound.ownerLater.1, hnull, ← hunrevoked]
    rcases hrotated.unspent with ⟨spent, hspentRow, hspentId, -, hspentNone⟩
    obtain rfl : spent = row :=
      c.store.tables.token_unique hspentRow hfound.stored (hspentId.trans hrowId.symm)
    refine ⟨ledger.withFamily session.id ⟨family.session, minted.token, family.current :: family.spent⟩,
      ?_, ?_⟩
    · rw [Event.thread_returned, hown, hpoint, if_pos rfl, ← hterms]
      rw [← hterms] at hvalid hfamily
      refine Serves.refreshed minted.token spentAt hfamily (hfound.current hspentNone) ?_ hvalid ?_
      · rw [hfound.terms]
        exact hnull
      · apply hrep.unknown
        intro other hother hotherHash
        apply hrotated.fresh
        refine ⟨StoredRefreshToken.tokenHash, List.mem_cons_of_mem _ List.mem_cons_self, ?_⟩
        refine List.mem_map.mpr ⟨_, mem_spend.mpr ⟨other, hother, rfl⟩, ?_⟩
        have hsameHash : other.tokenHash = minted.hash := by
          rw [hotherHash, minted_hash hrun hminted]
        split <;> exact hsameHash
    · have hsameAccounts : s.accounts = c.store.accounts := hreturns.1
      constructor
      · rw [hsameAccounts]
        exact hrep.accounts.mono (List.subset_append_left _ _)
      · exact (hrep.families.rotate hrotated hfamily hminted (minted_hash hrun hminted) rfl).mono
          (List.subset_append_left _ _)
  · have hstore : s = c.store := by
      have haccounts : s.accounts = c.store.accounts := hreturns.1
      cases s
      cases hc : c.store
      rw [hc] at haccounts hsame
      cases haccounts
      cases hsame
      rfl
    have huseless : c.store.tables.Revoked session.id ∨ row.spentAt ≠ none := by
      rcases hrefuses with hrevoked | hspentAll
      · exact Or.inl ⟨owner, hfound.opened, hownerId, hrevoked owner hfound.opened hownerId⟩
      · exact Or.inr (hspentAll row hfound.stored hrowId hfound.sessionId)
    refine owes_reuse hrep hstore ?_ hfamily (hfound.rejects huseless)
    rw [Event.thread_returned, hown, hpoint]
    rfl

/-- The revocation after a reuse: of the family of the token that was presented. -/
theorem owes_revoke {sessionId : JsString} {revokedAt : Date} {next : Unit → UseCase Response}
    {s : Store services.lower} (hrep : Represents services τ c.store ledger)
    (hrun : Run (machine services) (.initial (.blank services.lower)) τ c)
    (hideal : Ideal services τ)
    (hthread : c.threads i = some ⟨request, .call (.revoke sessionId revokedAt) next⟩)
    (hreturns : returns services (.revoke sessionId revokedAt) c.store () s) :
    Owes services τ c ledger (.returned i (.revoke sessionId revokedAt) ()) s := by
  rcases pending hrun hthread with ⟨events, hown, hpath, hstart, hsub⟩
  rcases execute_revokes hpath with ⟨input, rfl⟩
  rcases refresh_revokes hpath with ⟨session, token, rfl, hreuse⟩
  have hpoint : point services (.start i (.refresh input) :: events)
      (.returned i (.revoke session.id revokedAt) ()) =
        some (.revoke input.refreshToken session.id revokedAt) := by
    cases hreuse <;> rfl
  have hpresented : Presented services τ i input session token := by
    refine ⟨hstart, ?_⟩
    cases hreuse <;> exact hsub List.mem_cons_self
  rcases found_now hrep hrun hideal hpresented with ⟨family, row, owner, hfound⟩
  have huseless : c.store.tables.Revoked session.id ∨ row.spentAt ≠ none := by
    cases hreuse with
    | spent hspent =>
      right
      rw [hfound.later.2 hspent]
      exact hspent
    | notRotated minted id =>
      have hrefused : .returned i
          (.rotate token.id (mintedRow minted id session.id revokedAt) revokedAt) false ∈ τ :=
        hsub (by simp)
      rcases refused_rotation hrun hrefused with hrevoked | ⟨other, hother, hid, hspent⟩
      · exact Or.inl hrevoked
      · obtain rfl : other = row :=
          c.store.tables.token_unique hother hfound.stored (hid.trans hfound.later.id.symm)
        exact Or.inr hspent
  refine ⟨ledger.revoke session.id revokedAt, ?_, ?_⟩
  · rw [Event.thread_returned, hown, hpoint]
    exact ⟨⟨family, hfound.known, hfound.rejects huseless⟩, rfl⟩
  constructor
  · rw [hreturns.1, Ledger.revoke_accounts]
    exact hrep.accounts.mono (List.subset_append_left _ _)
  · rw [hreturns.2]
    exact (hrep.families.revoke session.id revokedAt).mono (List.subset_append_left _ _)

/-! ## Profiles -/

/-- A lookup finds the account that holds the handle. -/
theorem owes_findByHandle {handle : JsString} {next : Option Profile → UseCase Response}
    {found : Option Profile} {s : Store services.lower} (hrep : Represents services τ c.store ledger)
    (hrun : Run (machine services) (.initial (.blank services.lower)) τ c)
    (hthread : c.threads i = some ⟨request, .call (.findByHandle handle) next⟩)
    (hreturns : returns services (.findByHandle handle) c.store found s) :
    Owes services τ c ledger (.returned i (.findByHandle handle) found) s := by
  rcases pending hrun hthread with ⟨events, hown, hpath, -, -⟩
  rcases execute_findsProfile hpath with ⟨rfl, rfl⟩
  have hcheck := check_of_path hpath (Or.inr id)
  have hpoint : point services ((World.mk τ c.store).own i) (.returned i (.findByHandle handle) found) =
      some (.serve (.getProfile handle) none (found.elim (.error (.profileNotFoundByHandle handle))
        fun profile => .ok (.profile profile))) := by
    rw [hown]
    rfl
  refine owes_answer (e := .returned i (.findByHandle handle) found) hrep hreturns.1 hpoint ?_
  have hfound := hreturns.2
  unfold DrizzleProfileRepository.findByHandle at hfound
  cases hrows : c.store.accounts.users.rows.filter fun user =>
      services.lower user.handle = services.lower handle with
  | nil =>
    rw [hrows] at hfound
    subst hfound
    apply Serves.noProfile hcheck
    intro account hholds
    rcases hrep.holds_row hholds with ⟨row, hrow, -, -, hhandle, -⟩
    exact List.filter_eq_nil_iff.mp hrows row hrow (decide_eq_true hhandle)
  | cons row rows =>
    rw [hrows] at hfound
    subst hfound
    have hmem : row ∈ c.store.accounts.users.rows.filter fun user =>
        services.lower user.handle = services.lower handle := by
      rw [hrows]
      exact List.mem_cons_self
    rcases List.mem_filter.mp hmem with ⟨hrow, hhandle⟩
    rcases hrep.row_holds hrow (of_decide_eq_true hhandle) with ⟨account, hprofile, hholds, -⟩
    rw [List.head?_cons, Option.map_some, Option.elim_some, ← hprofile]
    exact Serves.profile hcheck hholds

/-- An update changes the profile of the account, if there is one. -/
theorem owes_updateProfile {userId : JsString} {changes : ProfileChanges}
    {next : Option Profile → UseCase Response} {returned : Option Profile} {s : Store services.lower}
    (hrep : Represents services τ c.store ledger)
    (hrun : Run (machine services) (.initial (.blank services.lower)) τ c)
    (hthread : c.threads i = some ⟨request, .call (.updateProfile userId changes) next⟩)
    (hreturns : returns services (.updateProfile userId changes) c.store returned s) :
    Owes services τ c ledger (.returned i (.updateProfile userId changes) returned) s := by
  rcases pending hrun hthread with ⟨events, hown, hpath, -, -⟩
  rcases execute_updates hpath with ⟨input, rfl⟩
  have hcheck := check_of_path hpath (Or.inr id)
  rcases updateProfile_writes hpath with ⟨rfl, changes', hnormal, heq⟩
  cases heq
  have hpoint : point services ((World.mk τ c.store).own i)
      (.returned i (.updateProfile input.userId changes) returned) =
        some (.serve (.updateProfile input) none
          (returned.elim (.error (.profileNotFoundById input.userId)) fun profile =>
            .ok (.profile profile))) := by
    rw [hown]
    rfl
  cases haccount : ledger.accounts input.userId with
  | none =>
    -- no row has the id
    have hnone : returned = none := by
      rw [DrizzleProfileRepository.update_answer hreturns.2]
      cases hrows : s.accounts.users.rows.filter (·.id = input.userId) with
      | nil => rfl
      | cons row rows =>
        have hmem : row ∈ s.accounts.users.rows.filter (·.id = input.userId) := by
          rw [hrows]
          exact List.mem_cons_self
        rcases List.mem_filter.mp hmem with ⟨hrow, hid⟩
        rcases ((DrizzleProfileRepository.update_spec hreturns.2).2 row).mp hrow with ⟨old, hold, hpatched⟩
        have hold' : old.id = input.userId := by
          rw [← of_decide_eq_true hid, hpatched]
          split <;> rfl
        rcases hrep.accounts.account old hold with ⟨account, hsome, -⟩
        rw [hold', haccount] at hsome
        cases hsome
    subst hnone
    have hsame : s = c.store := by
      have htables := hreturns.1
      have haccounts := DrizzleProfileRepository.update_unknown hreturns.2
      cases s
      cases hc : c.store
      rw [hc] at htables haccounts
      cases htables
      cases haccounts
      rfl
    exact owes_answer (e := .returned i (.updateProfile input.userId changes) none) hrep hsame hpoint
      (.nobody hcheck haccount)
  | some account =>
    rcases hrep.accounts.user input.userId account haccount with ⟨row, hrow, hid⟩
    rcases hrep.accounts.account row hrow with ⟨account', haccount', hprofile, -⟩
    rw [hid, haccount] at haccount'
    obtain rfl := Option.some.inj haccount'
    have hreturned := DrizzleProfileRepository.update_returned hreturns.2 hrow hid
    refine ⟨ledger.withAccount input.userId
      { account with profile := changes.apply account.profile }, ?_, ?_⟩
    · rw [Event.thread_returned, hpoint, hreturned]
      have hpatched : (DrizzleProfileRepository.patched changes row).toProfile =
          changes.apply account.profile := by
        rw [hprofile]
        rfl
      rw [hpatched]
      exact Serves.updated hnormal haccount
    · constructor
      · exact (hrep.accounts.update hreturns.2 haccount).mono (List.subset_append_left _ _)
      · rw [hreturns.1]
        exact hrep.families.mono (List.subset_append_left _ _)

/-! ## Every step -/

/-- A call that answers. -/
theorem owes_returned {call : PortCall} {next : Answer call → UseCase Response} {r : Answer call}
    {s : Store services.lower} (hrep : Represents services τ c.store ledger)
    (hrun : Run (machine services) (.initial (.blank services.lower)) τ c)
    (hideal : Ideal services τ) (hthread : c.threads i = some ⟨request, .call call next⟩)
    (hreturns : returns services call c.store r s) :
    Owes services τ c ledger (.returned i call r) s := by
  cases call with
  | existsByHandle handle => exact owes_existsByHandle hrep hrun hthread hreturns
  | createUser user passwordHash => exact owes_createUser hrep hrun hthread hreturns
  | findCredentialsByHandle handle => exact owes_findCredentials hrep hrun hthread hreturns
  | createSession session firstToken => exact owes_createSession hrep hrun hideal hthread hreturns
  | findByTokenHash tokenHash => exact owes_findByTokenHash hrep hrun hideal hthread hreturns
  | rotate spentTokenId next spentAt => exact owes_rotate hrep hrun hideal hthread hreturns
  | revoke sessionId revokedAt => exact owes_revoke hrep hrun hideal hthread hreturns
  | findByHandle handle => exact owes_findByHandle hrep hrun hthread hreturns
  | updateProfile userId changes => exact owes_updateProfile hrep hrun hthread hreturns
  | verifyPassword hash password => exact owes_verifyPassword hrep hrun hideal hthread hreturns
  | now => exact owes_now hrep hrun hideal hthread hreturns
  | hashPassword password => exact owes_nothing hrep hreturns (point_unsettled _ id)
  | createRefreshToken | nextId | issueAccessToken claims =>
    exact owes_nothing hrep hreturns.1 (point_unsettled _ id)

/-- A step moves the ledger as its operation does, and the tables still stand for it. -/
theorem step_owes (hrep : Represents services τ c.store ledger)
    (hrun : Run (machine services) (.initial (.blank services.lower)) τ c)
    (hideal : Ideal services τ) (hstep : Step (machine services) c e c') :
    Owes services τ c ledger e c'.store := by
  cases hstep with
  | returned hthread hreturns => exact owes_returned hrep hrun hideal hthread hreturns
  | threw hthread hthrows => exact owes_threw hrep hrun hideal.fresh hthread hthrows
  | start i request hnone =>
    rcases execute_checks services.toSettings request with ⟨e, hcheck, -⟩ | ⟨hcheck, -⟩
    · have hpoint : point services ((World.mk τ c.store).own i) (.start i request) =
          some (.serve request none (.error e)) := by
        simp only [point, invalidAt, hcheck]
      exact owes_answer (e := .start i request) hrep rfl hpoint (.invalid hcheck)
    · have hpoint : point services ((World.mk τ c.store).own i) (.start i request) = none := by
        simp only [point, invalidAt, hcheck]
      exact owes_nothing (e := .start i request) hrep rfl hpoint

end Steps

/-! ## Every run -/

theorem represents_blank (services : Services) :
    Represents services [] (.blank services.lower) .empty := by
  constructor
  · constructor
    · intro row hrow
      cases hrow
    · intro id account haccount
      cases haccount
  · constructor
    · intro row hrow
      cases hrow
    · intro id family hfamily
      cases hfamily
    · intro row hrow
      cases hrow
    · intro id family hfamily
      cases hfamily

/-- The issuer's tokens are the issuer's, whoever asked for them. -/
theorem run_issues (hrun : Run (machine services) (.initial (.blank services.lower)) τ c)
    {events : List IdentityEvent} (hsub : events ⊆ τ) : Issues services events := by
  intro i claims token hmem
  rcases hrun.answered (hsub hmem) with ⟨s, s', hreturns⟩
  exact hreturns.2

/-- The operations of an execution are those of what it did. -/
theorem operationsOf_did {i : ℕ} {request : Request} {events : List IdentityEvent}
    (hown : (World.mk τ c.store).own i = .start i request :: events) :
    operationsOf i (operations (point services) τ) =
      ownFrom (point services) [] (.start i request :: events) := by
  rw [operationsOf_operations]
  exact congrArg _ hown

/-- The requests of a run took effect one after the other. -/
structure Linearized (services : Services) (τ : List IdentityEvent) (c : IdentityConfig services) :
    Prop where
  /-- A ledger served them, and the tables stand for it. -/
  served : ∃ ledger, Replays (Ledger.Performs services) .empty
    ((operations (point services) τ).map Prod.snd) ledger ∧ Represents services τ c.store ledger
  /-- Whoever was answered was served once, with that answer. -/
  answered : ∀ i request outcome, c.threads i = some ⟨request, .ofExcept outcome⟩ →
    outcome ≠ .error .unavailable →
    Answered request outcome (operationsOf i (operations (point services) τ))
  /-- Anyone else was served at most once, and has more to come, if not. -/
  begun : ∀ i t, c.threads i = some t → ∃ outcome ops, Answered t.request outcome ops ∧
    operationsOf i (operations (point services) τ) <+: ops
  /-- Each goes by the clock reading of its own execution. -/
  readings : ∀ i op now, (i, op) ∈ operations (point services) τ → op.reading = some now →
    .returned i .now now ∈ τ
  /-- A request that came after the answer to another is served after it. -/
  order : ∀ τ₁ j request τ₂, τ = τ₁ ++ .start j request :: τ₂ → ∃ c₁ later,
    Run (machine services) (.initial (.blank services.lower)) τ₁ c₁ ∧
    operations (point services) τ = operations (point services) τ₁ ++ later ∧
    (∀ op ∈ operations (point services) τ₁, op.1 ≠ j) ∧
    ∀ i t, c₁.threads i = some t → t.program.Completed → ∀ op ∈ later, op.1 ≠ i

/-- What an execution that was answered did, other than by a port that could not do its
work, is its operation. -/
theorem answered_of_run (hrun : Run (machine services) (.initial (.blank services.lower)) τ c)
    (hfresh : FreshDraws τ) {i : ℕ} {request : Request} {outcome : Except Failure Response}
    (hthread : c.threads i = some ⟨request, .ofExcept outcome⟩)
    (hserved : outcome ≠ .error .unavailable) :
    Answered request outcome (operationsOf i (operations (point services) τ)) := by
  rcases hrun.projected.went i _ hthread with ⟨events, hown, hwent⟩
  have hsub : .start i request :: events ⊆ τ := by
    rw [← hown]
    exact List.filter_subset_self _
  have hissues : Issues services events :=
    run_issues hrun (List.Subset.trans (List.subset_cons_self _ _) hsub)
  rw [operationsOf_did hown]
  change Went i (execute services.toSettings request) events (.ofExcept outcome) at hwent
  generalize hend : Program.ofExcept outcome = p at hwent
  cases hwent with
  | answered hpath =>
    rw [← hend] at hpath
    exact answered_of_path hpath hissues
  | @threw before call next e hpath =>
    obtain rfl : outcome = .error e := by
      cases outcome <;> cases hend
      rfl
    have hthrown : .threw i call e ∈ τ := hsub (List.mem_cons_of_mem _
      (List.mem_append_right _ (List.mem_singleton_self _)))
    rcases fresh_throws hrun hfresh hthrown with hunavailable | ⟨user, hash, rfl, rfl, -⟩
    · exact absurd (congrArg Except.error hunavailable) hserved
    · exact answered_threw hpath

/-- A ledger serves a run, and the tables stand for it. -/
theorem served_of_run (hideal : Ideal services τ)
    (hrun : Run (machine services) (.initial (.blank services.lower)) τ c) :
    ∃ ledger, Replays (Ledger.Performs services) .empty
      ((operations (point services) τ).map Prod.snd) ledger ∧ Represents services τ c.store ledger := by
  have hsimulates {τ : List IdentityEvent} {c c' : IdentityConfig services} {e : IdentityEvent}
      {ledger : Ledger} (hideal : Ideal services (τ ++ [e]))
      (hrun : Run (machine services) (.initial (.blank services.lower)) τ c)
      (hstep : Step (machine services) c e c') (hrep : Represents services τ c.store ledger) :
      Owes services τ c ledger e c'.store :=
    step_owes hrep hrun hideal.of_append hstep
  exact hrun.linearizes Ideal.of_append (represents_blank services) hsimulates hideal

/-- An operation goes by what its own execution read off the clock. -/
theorem reading_of_operation {i : ℕ} {op : Operation} {now : Date}
    (hop : (i, op) ∈ operations (point services) τ) (hreading : op.reading = some now) :
    .returned i .now now ∈ τ := by
  rcases event_of_operation hop with ⟨τ₁, e, τ₂, rfl, rfl, hpoint⟩
  rcases reading_of_point hpoint hreading with ⟨j, hmem⟩
  rw [List.nil_append] at hmem
  rcases List.mem_append.mp hmem with hown | hlast
  · rcases List.mem_filter.mp hown with ⟨hmem, hthread⟩
    obtain rfl : j = e.thread := of_decide_eq_true hthread
    exact List.mem_append_left _ hmem
  · obtain rfl := List.mem_singleton.mp hlast
    exact List.mem_append_right _ List.mem_cons_self

/-- Wherever an execution is, it was served at most once. -/
theorem begun_of_run (hrun : Run (machine services) (.initial (.blank services.lower)) τ c) {i : ℕ}
    {t : Thread Request PortCall Answer Failure Response} (hthread : c.threads i = some t) :
    ∃ outcome ops, Answered t.request outcome ops ∧
      operationsOf i (operations (point services) τ) <+: ops := by
  rcases hrun.projected.went i t hthread with ⟨events, hown, hwent⟩
  have hsub : .start i t.request :: events ⊆ τ := by
    rw [← hown]
    exact List.filter_subset_self _
  rw [operationsOf_did hown]
  apply operations_begin hwent
  exact run_issues hrun (List.Subset.trans (List.subset_cons_self _ _) hsub)

/-- The service is linearizable, whatever its executions interleave: registrations racing
for a handle, refreshes for a token, revocations and updates in between. -/
theorem identity_is_linearizable (services : Services) {τ : List IdentityEvent}
    {c : IdentityConfig services} (hideal : Ideal services τ)
    (hrun : Run (machine services) (.initial (.blank services.lower)) τ c) :
    Linearized services τ c := by
  constructor
  · exact served_of_run hideal hrun
  · intro i request outcome hthread hserved
    exact answered_of_run hrun hideal.fresh hthread hserved
  · intro i t hthread
    exact begun_of_run hrun hthread
  · intro i op now hop hreading
    exact reading_of_operation hop hreading
  · rintro τ₁ j request τ₂ rfl
    exact hrun.real_time

/-- The sign-up goes on: thread 3 exchanges `opaque-1`, and while it does so thread 4
presents it too, too late. -/
def sampleReuse : List Move :=
  sampleSignUp ++ [.start 3 (.refresh sampleRefreshInput), .answer 3 .none,
    .answer 3 (.at 1767225600456), .start 4 (.refresh sampleRefreshInput),
    .answer 3 (.text (js "opaque-2")), .answer 3 (.id 11), .answer 3 .none, .answer 4 .none,
    .answer 3 .none, .answer 4 (.at 1767225600789), .answer 4 .none]

theorem sampleReuse_plays :
    (simulate sampleServices (.initial (.blank asciiLower)) sampleReuse).isSome = true := by
  decide +kernel

/-- The session is revoked. -/
def sampleReused : IdentityConfig sampleServices × List IdentityEvent :=
  (simulate sampleServices (.initial (.blank asciiLower)) sampleReuse).get sampleReuse_plays

/-- The sample hasher is ideal about what it has hashed. -/
theorem sampleHasher_ideal
    (h : ∀ hashed ∈ hashes τ, hashed.2 = js "hashed:" ++ hashed.1) :
    IdealHasher sampleServices τ := by
  intro i password hash hmem candidate
  have hone : (password, hash) ∈ hashes τ := List.mem_filterMap.mpr ⟨_, hmem, rfl⟩
  obtain rfl : hash = js "hashed:" ++ password := h _ hone
  show decide (js "hashed:" ++ password = js "hashed:" ++ candidate) = true ↔ _
  rw [decide_eq_true_eq, List.append_cancel_left_eq]
  exact eq_comm

/-- Thread 4 was rejected, and then the session revoked. -/
theorem reuse_is_served :
    Answered (.refresh sampleRefreshInput) (.error .invalidRefreshToken)
      (operationsOf 4 (operations (point sampleServices) sampleReused.2)) := by
  have hrun : Run (machine sampleServices) (.initial (.blank asciiLower)) sampleReused.2
      sampleReused.1 := run_of_isSome sampleReuse_plays
  have hideal : Ideal sampleServices sampleReused.2 := by
    refine ⟨⟨by decide +kernel, by decide +kernel⟩, sampleHasher_ideal (by decide +kernel), ?_⟩
    unfold DigestApart
    decide +kernel
  exact (identity_is_linearizable sampleServices hideal hrun).answered 4 (.refresh sampleRefreshInput)
    (.error .invalidRefreshToken) rfl (by simp)

end XClone.Identity
