import XClone.Identity.UseCases

/-!
# XClone.Identity.System — the Identity service over its database

What each port answers, and the machine that runs any number of use cases against
one database. Every repository call is one transaction, so one atomic step; ids,
clock readings and minted tokens are arbitrary; any call that leaves the process
may fail, and then has no effect. `Wrote` and `Store.Later` say what a call can do
to the tables.
-/

namespace XClone.Identity

open Js Interleaving AccessToken

/-- The four tables of `identity.*`. -/
structure Store (lower : JsString → JsString) where
  accounts : UserTables lower
  tables : SessionTables
  sessionUser : ∀ session ∈ tables.sessions.rows,
    ∃ user ∈ accounts.users.rows, user.id = session.userId

/-- Identity's settings and what it runs on: Postgres's lower-casing, argon2's
verification and the token issuer. -/
structure Services extends Settings where
  lower : JsString → JsString
  passwordMatches : JsString → JsString → Bool
  issue : AccessTokenClaims → JsString

/-- The texts of ids: decimal integers. -/
def IsId (id : JsString) : Prop := ∃ n : ℤ, id = js (toString n)

variable (services : Services)

/-! ## The ports -/

/-- What a call that returns answers, and the store it leaves. -/
def returns : (c : PortCall) → Store services.lower → Answer c → Store services.lower → Prop
  | .existsByHandle handle, s, answer, s' =>
    s' = s ∧ answer = DrizzleUserRepository.existsByHandle s.accounts handle
  | .createUser user passwordHash, s, _, s' =>
    s'.tables = s.tables ∧
      DrizzleUserRepository.create s.accounts user passwordHash = .ok s'.accounts
  | .findCredentialsByHandle handle, s, answer, s' =>
    s' = s ∧ answer = DrizzleUserRepository.findCredentialsByHandle s.accounts handle
  | .createSession session firstToken, s, _, s' =>
    s'.accounts = s.accounts ∧
      DrizzleSessionRepository.create s.tables session firstToken = some s'.tables
  | .findByTokenHash tokenHash, s, answer, s' =>
    s' = s ∧ answer = DrizzleSessionRepository.findByTokenHash s.tables tokenHash
  | .rotate spentTokenId next spentAt, s, answer, s' =>
    s'.accounts = s.accounts ∧
      DrizzleSessionRepository.rotate s.tables spentTokenId next spentAt = some (answer, s'.tables)
  | .revoke sessionId revokedAt, s, _, s' =>
    s'.accounts = s.accounts ∧
      s'.tables = DrizzleSessionRepository.revoke s.tables sessionId revokedAt
  | .findByHandle handle, s, answer, s' =>
    s' = s ∧ answer = DrizzleProfileRepository.findByHandle s.accounts handle
  | .updateProfile userId changes, s, answer, s' =>
    s'.tables = s.tables ∧
      DrizzleProfileRepository.update s.accounts userId changes = some (answer, s'.accounts)
  | .hashPassword _, s, _, s' => s' = s
  | .verifyPassword hash password, s, answer, s' =>
    s' = s ∧ answer = services.passwordMatches hash password
  | .createRefreshToken, s, answer, s' =>
    s' = s ∧ answer.hash = services.hashRefreshToken answer.token
  | .nextId, s, answer, s' => s' = s ∧ IsId answer
  | .now, s, _, s' => s' = s
  | .issueAccessToken claims, s, answer, s' => s' = s ∧ answer = services.issue claims

/-- The exceptions of a call. -/
def throws : PortCall → Store services.lower → Failure → Prop
  | .createUser user passwordHash, s, e =>
    e = .unavailable ∨ DrizzleUserRepository.create s.accounts user passwordHash = .error e
  | .createSession session firstToken, s, e =>
    e = .unavailable ∨ (e = .constraintViolation ∧
      (DrizzleSessionRepository.create s.tables session firstToken = none ∨
        ∀ user ∈ s.accounts.users.rows, user.id ≠ session.userId))
  | .rotate spentTokenId next spentAt, s, e =>
    e = .unavailable ∨ (e = .constraintViolation ∧
      DrizzleSessionRepository.rotate s.tables spentTokenId next spentAt = none)
  | .createRefreshToken, _, _ => False
  | .now, _, _ => False
  | .issueAccessToken _, _, _ => False
  | _, _, e => e = .unavailable

/-- Any number of use cases against one database. -/
def machine : Machine (Store services.lower) Request Response Failure PortCall Answer where
  code := execute services.toSettings
  returns := returns services
  throws := throws services

/-- A store without sessions, over any accounts. -/
def Store.noSessions {lower : JsString → JsString} (accounts : UserTables lower) : Store lower :=
  ⟨accounts, .empty, fun _ h => nomatch h⟩

/-- Nobody is registered yet. -/
def Store.blank (lower : JsString → JsString) : Store lower := .noSessions .empty

/-- What the ports throw: an error of the domain is a taken handle, from the insert. -/
theorem throws_cases {services : Services} {call : PortCall} {s : Store services.lower}
    {e : Failure} (h : throws services call s e) :
    e = .unavailable ∨ e = .constraintViolation ∨
      ∃ user passwordHash, call = .createUser user passwordHash ∧ e = .handleTaken user.handle := by
  cases call with
  | createUser user passwordHash =>
    rcases h with hunavailable | herror
    · exact Or.inl hunavailable
    · have htaken := DrizzleUserRepository.create_error herror
      exact Or.inr (Or.inr ⟨user, passwordHash, rfl, htaken⟩)
  | createSession session firstToken =>
    rcases h with hunavailable | ⟨hviolation, -⟩
    · exact Or.inl hunavailable
    · exact Or.inr (Or.inl hviolation)
  | rotate spentTokenId next spentAt =>
    rcases h with hunavailable | ⟨hviolation, -⟩
    · exact Or.inl hunavailable
    · exact Or.inr (Or.inl hviolation)
  | createRefreshToken => exact h.elim
  | now => exact h.elim
  | issueAccessToken claims => exact h.elim
  | _ => exact Or.inl h

/-! ## What a call writes -/

/-- The calls that can write `sessions` or `refresh_tokens`. -/
def PortCall.writesSessions : PortCall → Bool
  | .createSession _ _ => true
  | .rotate _ _ _ => true
  | .revoke _ _ => true
  | _ => false

/-- What a call did to the session tables. -/
inductive Wrote (t t' : SessionTables) : (c : PortCall) → Answer c → Prop where
  | nothing {c : PortCall} {answer : Answer c} :
      c.writesSessions = false → t' = t → Wrote t t' c answer
  | created (session : Session) (firstToken : StoredRefreshToken) :
      DrizzleSessionRepository.create t session firstToken = some t' →
      Wrote t t' (.createSession session firstToken) ()
  | rotated (spentTokenId : JsString) (next : StoredRefreshToken) (spentAt : Date) (answer : Bool) :
      DrizzleSessionRepository.rotate t spentTokenId next spentAt = some (answer, t') →
      Wrote t t' (.rotate spentTokenId next spentAt) answer
  | revoked (sessionId : JsString) (revokedAt : Date) :
      t' = DrizzleSessionRepository.revoke t sessionId revokedAt →
      Wrote t t' (.revoke sessionId revokedAt) ()

variable {services}

theorem wrote {c : PortCall} {answer : Answer c} {s s' : Store services.lower}
    (h : returns services c s answer s') : Wrote s.tables s'.tables c answer := by
  cases c with
  | createSession session firstToken => exact .created session firstToken h.2
  | rotate spentTokenId next spentAt => exact .rotated spentTokenId next spentAt answer h.2
  | revoke sessionId revokedAt => exact .revoked sessionId revokedAt h.2
  | createUser user passwordHash => exact .nothing rfl h.1
  | updateProfile userId changes => exact .nothing rfl h.1
  | existsByHandle handle => exact .nothing rfl (congrArg Store.tables h.1)
  | findCredentialsByHandle handle => exact .nothing rfl (congrArg Store.tables h.1)
  | findByTokenHash tokenHash => exact .nothing rfl (congrArg Store.tables h.1)
  | findByHandle handle => exact .nothing rfl (congrArg Store.tables h.1)
  | hashPassword password => exact .nothing rfl (congrArg Store.tables h)
  | verifyPassword hash password => exact .nothing rfl (congrArg Store.tables h.1)
  | createRefreshToken => exact .nothing rfl (congrArg Store.tables h.1)
  | nextId => exact .nothing rfl (congrArg Store.tables h.1)
  | now => exact .nothing rfl (congrArg Store.tables h)
  | issueAccessToken claims => exact .nothing rfl (congrArg Store.tables h.1)

theorem Wrote.later {t t' : SessionTables} {c : PortCall} {answer : Answer c}
    (h : Wrote t t' c answer) : SessionTables.Later t t' := by
  cases h with
  | nothing _ hsame =>
    rw [hsame]
    exact .refl t
  | created session firstToken hcreate => exact DrizzleSessionRepository.create_later hcreate
  | rotated spentTokenId next spentAt answer hrotate =>
    exact DrizzleSessionRepository.rotate_later hrotate
  | revoked sessionId revokedAt hrevoke =>
    rw [hrevoke]
    exact DrizzleSessionRepository.revoke_later t sessionId revokedAt

/-- The calls that can write `users` or `credentials`. -/
def PortCall.writesAccounts : PortCall → Bool
  | .createUser _ _ => true
  | .updateProfile _ _ => true
  | _ => false

/-- What a call did to the accounts. -/
inductive WroteAccounts {lower : JsString → JsString} (t t' : UserTables lower) :
    (c : PortCall) → Answer c → Prop where
  | nothing {c : PortCall} {answer : Answer c} :
      c.writesAccounts = false → t' = t → WroteAccounts t t' c answer
  | created (user : User) (passwordHash : JsString) :
      DrizzleUserRepository.create t user passwordHash = .ok t' →
      WroteAccounts t t' (.createUser user passwordHash) ()
  | updated (userId : JsString) (changes : ProfileChanges) (answer : Option Profile) :
      DrizzleProfileRepository.update t userId changes = some (answer, t') →
      WroteAccounts t t' (.updateProfile userId changes) answer

theorem wroteAccounts {c : PortCall} {answer : Answer c} {s s' : Store services.lower}
    (h : returns services c s answer s') : WroteAccounts s.accounts s'.accounts c answer := by
  cases c with
  | createUser user passwordHash => exact .created user passwordHash h.2
  | updateProfile userId changes => exact .updated userId changes answer h.2
  | createSession session firstToken => exact .nothing rfl h.1
  | rotate spentTokenId next spentAt => exact .nothing rfl h.1
  | revoke sessionId revokedAt => exact .nothing rfl h.1
  | existsByHandle handle => exact .nothing rfl (congrArg Store.accounts h.1)
  | findCredentialsByHandle handle => exact .nothing rfl (congrArg Store.accounts h.1)
  | findByTokenHash tokenHash => exact .nothing rfl (congrArg Store.accounts h.1)
  | findByHandle handle => exact .nothing rfl (congrArg Store.accounts h.1)
  | hashPassword password => exact .nothing rfl (congrArg Store.accounts h)
  | verifyPassword hash password => exact .nothing rfl (congrArg Store.accounts h.1)
  | createRefreshToken => exact .nothing rfl (congrArg Store.accounts h.1)
  | nextId => exact .nothing rfl (congrArg Store.accounts h.1)
  | now => exact .nothing rfl (congrArg Store.accounts h)
  | issueAccessToken claims => exact .nothing rfl (congrArg Store.accounts h.1)

/-- A call keeps the accounts, but for the two writes of the account ports. -/
theorem accounts_later {c : PortCall} {answer : Answer c} {s s' : Store services.lower}
    (h : returns services c s answer s') : UserTables.Later s.accounts s'.accounts := by
  cases wroteAccounts h with
  | nothing _ hsame =>
    rw [hsame]
    exact .refl _
  | created user passwordHash hcreate => exact UserTables.create_later hcreate
  | updated userId changes answer hupdate => exact UserTables.update_later hupdate

/-- Only `updateProfile` changes a profile, and only that of the account it names. -/
theorem profile_changed {c : PortCall} {answer : Answer c} {s s' : Store services.lower}
    (h : returns services c s answer s') {row row' : UserRow}
    (hrow : row ∈ s.accounts.users.rows) (hrow' : row' ∈ s'.accounts.users.rows)
    (hid : row'.id = row.id) (hchanged : row' ≠ row) :
    ∃ changes, c = .updateProfile row.id changes := by
  cases wroteAccounts h with
  | nothing _ hsame =>
    rw [hsame] at hrow'
    exact absurd (s.accounts.user_unique hrow' hrow hid) hchanged
  | created user passwordHash hcreate =>
    exact absurd (UserTables.create_keeps hcreate hrow hrow' hid) hchanged
  | updated userId changes answer hupdate =>
    by_cases howner : row.id = userId
    · exact ⟨changes, by rw [howner]⟩
    · exact absurd (UserTables.update_keeps hupdate hrow hrow' hid howner) hchanged

/-- Both halves of the store only move up. -/
structure Store.Later {lower : JsString → JsString} (s s' : Store lower) : Prop where
  accounts : UserTables.Later s.accounts s'.accounts
  tables : SessionTables.Later s.tables s'.tables

theorem Store.Later.refl {lower : JsString → JsString} (s : Store lower) : Store.Later s s :=
  ⟨.refl _, .refl _⟩

theorem Store.Later.trans {lower : JsString → JsString} {s t u : Store lower}
    (h : Store.Later s t) (h' : Store.Later t u) : Store.Later s u :=
  ⟨h.accounts.trans h'.accounts, h.tables.trans h'.tables⟩

theorem returns_later {c : PortCall} {answer : Answer c} {s s' : Store services.lower}
    (h : returns services c s answer s') : Store.Later s s' :=
  ⟨accounts_later h, (wrote h).later⟩

/-! ## Histories -/

/-- What has happened to Identity. -/
abbrev IdentityEvent := Event Request Failure PortCall Answer

/-- A history and the store it led to. -/
abbrev IdentityWorld (services : Services) :=
  World (Store services.lower) Request Failure PortCall Answer

/-- A configuration of the Identity service. -/
abbrev IdentityConfig (services : Services) :=
  Interleaving.Config (Store services.lower) Request Response Failure PortCall Answer

variable (services) in
/-- A discipline over the growth of the store: its invariant and what it allows are its
own. -/
def growing (inv : IdentityWorld services → Prop)
    (allowed : IdentityWorld services → ℕ → PortCall → Prop)
    (start : ∀ w, inv w → ∀ i request, inv (w.after (.start i request) w.store))
    (returned : ∀ w i c (answer : Answer c) s, inv w → allowed w i c →
      returns services c w.store answer s → inv (w.after (.returned i c answer) s))
    (threw : ∀ w i c e, inv w → throws services c w.store e →
      inv (w.after (.threw i c e) w.store)) :
    Discipline (machine services) where
  inv := inv
  allowed := allowed
  grows := Store.Later
  grows_refl := .refl
  grows_trans := .trans
  returned_grows := returns_later
  inv_start h := start _ h
  inv_returned h hallowed hreturns := returned _ _ _ _ _ h hallowed hreturns
  inv_threw h hthrows := threw _ _ _ _ h hthrows

/-- An answered rotation: the token it was to spend, the session of `next`, and
whether it went through. -/
structure Rotation where
  tokenId : JsString
  sessionId : JsString
  answer : Bool
deriving DecidableEq

/-- The rotation an event answers. -/
def rotation : IdentityEvent → Option Rotation
  | .returned _ (.rotate spentTokenId next _) answer => some ⟨spentTokenId, next.sessionId, answer⟩
  | _ => none

/-- A call of the event's thread threw. -/
def threw : IdentityEvent → Bool
  | .threw _ _ _ => true
  | _ => false

/-- No call of thread `i` threw. -/
def NoThrow (τ : List IdentityEvent) (i : ℕ) : Prop := ∀ call e, .threw i call e ∉ τ

/-- The rotations of a history, in order. -/
def rotations (τ : List IdentityEvent) : List Rotation := τ.filterMap rotation

@[simp] theorem rotations_append (τ τ' : List IdentityEvent) :
    rotations (τ ++ τ') = rotations τ ++ rotations τ' :=
  List.filterMap_append

/-- An event that is no rotation adds none. -/
theorem rotations_quiet {τ : List IdentityEvent} {e : IdentityEvent} (he : rotation e = none) :
    rotations (τ ++ [e]) = rotations τ := by
  rw [rotations_append, rotations, rotations, List.filterMap_cons_none he, List.filterMap_nil,
    List.append_nil]

/-- A rotation of a longer history is an old one or the last event. -/
theorem mem_rotations_snoc {τ : List IdentityEvent} {e : IdentityEvent} {r : Rotation}
    (h : r ∈ rotations (τ ++ [e])) : r ∈ rotations τ ∨ rotation e = some r := by
  rw [rotations_append] at h
  rcases List.mem_append.mp h with h | h
  · exact Or.inl h
  · rcases List.mem_filterMap.mp h with ⟨e', he', hr⟩
    rw [List.mem_singleton.mp he'] at hr
    exact Or.inr hr

theorem mem_rotations {τ : List IdentityEvent} {r : Rotation} :
    r ∈ rotations τ ↔ ∃ e ∈ τ, rotation e = some r :=
  List.mem_filterMap

theorem rotation_of_mem {τ : List IdentityEvent} {i : ℕ} {spentTokenId : JsString}
    {next : StoredRefreshToken} {spentAt : Date} {answer : Bool}
    (h : .returned i (.rotate spentTokenId next spentAt) answer ∈ τ) :
    ⟨spentTokenId, next.sessionId, answer⟩ ∈ rotations τ :=
  mem_rotations.mpr ⟨_, h, rfl⟩

/-- Only a call that writes the session tables is a rotation. -/
theorem rotation_eq_none {i : ℕ} {c : PortCall} {answer : Answer c}
    (h : c.writesSessions = false) : rotation (.returned i c answer) = none := by
  cases c <;> first | rfl | cases h

end XClone.Identity
