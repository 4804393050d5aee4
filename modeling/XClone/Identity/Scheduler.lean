import XClone.AccessToken.Agreement
import XClone.Identity.System

/-!
# XClone.Identity.Scheduler — running the Identity service

An executable side of `XClone.Identity.System`: `respond` computes what a call does
once the draws it leaves open (ids, clock readings, minted tokens) are given, and
`simulate` plays a schedule of moves. Whatever it plays is a run of the machine
(`simulate_run`).
-/

namespace XClone.Identity

open Js Interleaving

variable (services : Services)

/-- What a call leaves open. -/
inductive Draw where
  | none
  | text (value : JsString)
  | id (n : ℤ)
  | at (date : Date)

/-- The store with other session tables over the same users. -/
def Store.withTables {lower : JsString → JsString} (s : Store lower) (tables : SessionTables)
    (h : ∀ session ∈ tables.sessions.rows,
      ∃ user ∈ s.accounts.users.rows, user.id = session.userId) : Store lower :=
  ⟨s.accounts, tables, h⟩

/-- The store with later accounts under the same sessions. -/
def Store.withAccounts {lower : JsString → JsString} (s : Store lower)
    (accounts : UserTables lower) (h : UserTables.Later s.accounts accounts) : Store lower :=
  ⟨accounts, s.tables, by
    intro session hsession
    rcases s.sessionUser session hsession with ⟨user, huser, hid⟩
    rcases h.user user huser with ⟨user', huser', hsame⟩
    exact ⟨user', huser', by rw [← hid, ← hsame]⟩⟩

/-- The answer of a call and the store it leaves; `none` where the draw does not fit
the call or the call does not return. -/
def respond : (c : PortCall) → Draw → Store services.lower →
    Option (Answer c × Store services.lower)
  | .existsByHandle handle, _, s =>
    some (DrizzleUserRepository.existsByHandle s.accounts handle, s)
  | .createUser user passwordHash, _, s =>
    match h : DrizzleUserRepository.create s.accounts user passwordHash with
    | .ok accounts => some ((), s.withAccounts accounts (UserTables.create_later h))
    | .error _ => none
  | .findCredentialsByHandle handle, _, s =>
    some (DrizzleUserRepository.findCredentialsByHandle s.accounts handle, s)
  | .createSession session firstToken, _, s =>
    match h : DrizzleSessionRepository.create s.tables session firstToken with
    | some tables =>
      if huser : ∃ user ∈ s.accounts.users.rows, user.id = session.userId then
        some ((), s.withTables tables (by
          rw [(DrizzleSessionRepository.create_spec h).2.2.1]
          intro row hrow
          rcases List.mem_cons.mp hrow with rfl | hrow
          · exact huser
          · exact s.sessionUser row hrow))
      else none
    | none => none
  | .findByTokenHash tokenHash, _, s =>
    some (DrizzleSessionRepository.findByTokenHash s.tables tokenHash, s)
  | .rotate spentTokenId next spentAt, _, s =>
    match h : DrizzleSessionRepository.rotate s.tables spentTokenId next spentAt with
    | some (answer, tables) =>
      some (answer, s.withTables tables (by
        rcases DrizzleSessionRepository.rotate_cases h with ⟨-, hrotated⟩ | ⟨-, rfl, -⟩
        · rw [hrotated.sessions]
          exact s.sessionUser
        · exact s.sessionUser))
    | none => none
  | .revoke sessionId revokedAt, _, s =>
    some ((), s.withTables (DrizzleSessionRepository.revoke s.tables sessionId revokedAt) (by
      intro row hrow
      rcases DrizzleSessionRepository.mem_revoke.mp hrow with ⟨old, hold, rfl⟩
      rcases s.sessionUser old hold with ⟨user, huser, hid⟩
      refine ⟨user, huser, hid.trans ?_⟩
      split <;> rfl))
  | .findByHandle handle, _, s =>
    some (DrizzleProfileRepository.findByHandle s.accounts handle, s)
  | .updateProfile userId changes, _, s =>
    match h : DrizzleProfileRepository.update s.accounts userId changes with
    | some (answer, accounts) => some (answer, s.withAccounts accounts (UserTables.update_later h))
    | none => none
  | .hashPassword _, .text hash, s => some (hash, s)
  | .verifyPassword hash password, _, s => some (services.passwordMatches hash password, s)
  | .createRefreshToken, .text token, s => some (⟨token, services.hashRefreshToken token⟩, s)
  | .nextId, .id n, s => some (js (toString n), s)
  | .now, .at date, s => some (date, s)
  | .issueAccessToken claims, _, s => some (services.issue claims, s)
  | _, _, _ => none

variable {services}

theorem respond_returns {c : PortCall} {draw : Draw} {s s' : Store services.lower}
    {answer : Answer c} (h : respond services c draw s = some (answer, s')) :
    returns services c s answer s' := by
  cases c with
  | existsByHandle handle =>
    cases h
    exact ⟨rfl, rfl⟩
  | createUser user passwordHash =>
    simp only [respond] at h
    split at h
    · rename_i hcreate
      cases h
      exact ⟨rfl, hcreate⟩
    · cases h
  | findCredentialsByHandle handle =>
    cases h
    exact ⟨rfl, rfl⟩
  | createSession session firstToken =>
    simp only [respond] at h
    split at h
    · rename_i hcreate
      split at h
      · cases h
        exact ⟨rfl, hcreate⟩
      · cases h
    · cases h
  | findByTokenHash tokenHash =>
    cases h
    exact ⟨rfl, rfl⟩
  | rotate spentTokenId next spentAt =>
    simp only [respond] at h
    split at h
    · rename_i hrotate
      cases h
      exact ⟨rfl, hrotate⟩
    · cases h
  | revoke sessionId revokedAt =>
    cases h
    exact ⟨rfl, rfl⟩
  | findByHandle handle =>
    cases h
    exact ⟨rfl, rfl⟩
  | updateProfile userId changes =>
    simp only [respond] at h
    split at h
    · rename_i hupdate
      cases h
      exact ⟨rfl, hupdate⟩
    · cases h
  | hashPassword password =>
    cases draw <;> cases h
    rfl
  | verifyPassword hash password =>
    cases h
    exact ⟨rfl, rfl⟩
  | createRefreshToken =>
    cases draw <;> cases h
    exact ⟨rfl, rfl⟩
  | nextId =>
    cases draw <;> cases h
    exact ⟨rfl, _, rfl⟩
  | now =>
    cases draw <;> cases h
    rfl
  | issueAccessToken claims =>
    cases h
    exact ⟨rfl, rfl⟩

/-! ## Schedules -/

/-- What the scheduler does next: start a thread, or let its call return. -/
inductive Move where
  | start (i : ℕ) (request : Request)
  | answer (i : ℕ) (draw : Draw)

variable (services)

/-- One move, and what it did. -/
def play (c : IdentityConfig services) : Move → Option (IdentityConfig services × IdentityEvent)
  | .start i request =>
    match c.threads i with
    | none => some (c.set c.store i ⟨request, execute services.toSettings request⟩, .start i request)
    | some _ => none
  | .answer i draw =>
    match c.threads i with
    | some ⟨request, .call call next⟩ =>
      match respond services call draw c.store with
      | some (answer, s) => some (c.set s i ⟨request, next answer⟩, .returned i call answer)
      | none => none
    | _ => none

/-- A schedule, and the history it makes. -/
def simulate (c : IdentityConfig services) :
    List Move → Option (IdentityConfig services × List IdentityEvent)
  | [] => some (c, [])
  | move :: moves =>
    match play services c move with
    | some (c', e) => (simulate c' moves).map fun played => (played.1, e :: played.2)
    | none => none

variable {services}

theorem play_step {c c' : IdentityConfig services} {move : Move} {e : IdentityEvent}
    (h : play services c move = some (c', e)) : Step (machine services) c e c' := by
  cases move with
  | start i request =>
    simp only [play] at h
    split at h
    · rename_i hnone
      cases h
      exact .start i request hnone
    · cases h
  | answer i draw =>
    simp only [play] at h
    split at h
    · rename_i request call next hthread
      split at h
      · rename_i answer s hrespond
        cases h
        exact .returned hthread (respond_returns hrespond)
      · cases h
    · cases h

/-- A move lets no call throw. -/
theorem play_answered {c c' : IdentityConfig services} {move : Move} {e : IdentityEvent}
    (h : play services c move = some (c', e)) : threw e = false := by
  cases move with
  | start i request =>
    simp only [play] at h
    split at h
    · cases h
      rfl
    · cases h
  | answer i draw =>
    simp only [play] at h
    split at h
    · split at h
      · cases h
        rfl
      · cases h
    · cases h

/-- What is played is a run. -/
theorem simulate_run {c c' : IdentityConfig services} {moves : List Move} {τ : List IdentityEvent}
    (h : simulate services c moves = some (c', τ)) : Run (machine services) c τ c' := by
  induction moves generalizing c τ with
  | nil =>
    cases h
    exact .nil _
  | cons move moves ih =>
    simp only [simulate] at h
    split at h
    · rename_i c₁ e hplay
      rcases Option.map_eq_some_iff.mp h with ⟨played, hplayed, heq⟩
      cases heq
      exact ((Run.nil _).snoc (play_step hplay)).append (ih hplayed)
    · cases h

/-- The scheduler lets no call throw. -/
theorem simulate_noThrow {c c' : IdentityConfig services} {moves : List Move}
    {τ : List IdentityEvent} (h : simulate services c moves = some (c', τ)) (i : ℕ) :
    NoThrow τ i := by
  induction moves generalizing c τ with
  | nil =>
    cases h
    intro call e he
    cases he
  | cons move moves ih =>
    simp only [simulate] at h
    split at h
    · rename_i c₁ e hplay
      rcases Option.map_eq_some_iff.mp h with ⟨played, hplayed, heq⟩
      cases heq
      intro call error hmem
      rcases List.mem_cons.mp hmem with rfl | hmem
      · cases play_answered hplay
      · exact ih hplayed call error hmem
    · cases h

/-- The run a schedule plays, from its last configuration. -/
theorem run_of_isSome {c : IdentityConfig services} {moves : List Move}
    (h : (simulate services c moves).isSome = true) :
    Run (machine services) c ((simulate services c moves).get h).2
      ((simulate services c moves).get h).1 :=
  simulate_run (Option.some_get h).symm

theorem noThrow_of_isSome {c : IdentityConfig services} {moves : List Move}
    (h : (simulate services c moves).isSome = true) (i : ℕ) :
    NoThrow ((simulate services c moves).get h).2 i :=
  simulate_noThrow (Option.some_get h).symm i

/-! ## One account, one login -/

/-- Lower-casing of ASCII. -/
def asciiLower (s : JsString) : JsString := s.map fun u => if 65 ≤ u && u ≤ 90 then u + 32 else u

/-- SHA-256 digests of four tokens. -/
def sampleDigest (token : JsString) : JsString :=
  if token = js "opaque-1" then
    js "542a54f3a69883c0048852956e739592eba50c33917566cfe5b2012883c39799"
  else if token = js "opaque-2" then
    js "22ea0a98200723db7f60821180a13f8965be0b38e3e66110ac97f1279a958e75"
  else if token = js "opaque-3" then
    js "6970cd32df13e2537735a7ef41d986379f27060c7fa0e41c5c08503df98ef584"
  else if token = js "opaque-4" then
    js "b4606c04be977cfd1e72dfe3ba9076507e76760a69d060a1db47e3149e870c17"
  else []

/-- The token issuer of the sample key over the password hasher and the lifetimes of
the service's own tests. -/
def sampleServices : Services where
  lifetimes := ⟨900000, 2592000000⟩
  hashRefreshToken := sampleDigest
  lower := asciiLower
  passwordMatches hash password := hash = js "hashed:" ++ password
  issue := (AccessToken.Hs256AccessTokenIssuer.mk AccessToken.sampleKey).issue
    AccessToken.sampleNode

/-- The account of `sam`, as registering it leaves it. -/
def sampleAccounts : UserTables asciiLower :=
  match DrizzleUserRepository.create .empty ⟨js "7", js "sam", js "sam", 1767225000000⟩
    (js "hashed:correct horse 1") with
  | .ok accounts => accounts
  | .error _ => .empty

def sampleStart : IdentityConfig sampleServices := .initial (.noSessions sampleAccounts)

/-- Thread 0 logs in as `sam`: session 9 with token `opaque-1`. -/
def sampleLogin : List Move :=
  [.start 0 (.login ⟨js "SAM", js "correct horse 1", none⟩), .answer 0 .none, .answer 0 .none,
    .answer 0 (.at 1767225600123), .answer 0 (.id 9), .answer 0 (.text (js "opaque-1")),
    .answer 0 (.id 10), .answer 0 .none, .answer 0 .none]

def sampleRefreshInput : RefreshSessionInput := ⟨js "opaque-1"⟩

/-- Thread 1 exchanges `opaque-1` for `opaque-2`. -/
def sampleRefresh : List Move :=
  [.start 1 (.refresh sampleRefreshInput), .answer 1 .none, .answer 1 (.at 1767225600456),
    .answer 1 (.text (js "opaque-2")), .answer 1 (.id 11), .answer 1 .none, .answer 1 .none]

/-- Thread 2 presents `opaque-1` again, a year later. -/
def sampleReplay : List Move :=
  [.start 2 (.refresh sampleRefreshInput), .answer 2 .none, .answer 2 (.at 1798761600000),
    .answer 2 .none]

/-! ## A sign-up -/

/-- From no accounts: thread 0 registers `sam`, thread 1 changes the profile, and thread 2
logs in. -/
def sampleSignUp : List Move :=
  [.start 0 (.register ⟨js "sam", js "correct horse 1"⟩), .answer 0 .none,
    .answer 0 (.text (js "hashed:correct horse 1")), .answer 0 (.id 7),
    .answer 0 (.at 1767225000000), .answer 0 .none,
    .start 1 (.updateProfile ⟨js "7", some (js " Sam "), some (js "hello\r\n")⟩), .answer 1 .none,
    .start 2 (.login ⟨js "SAM", js "correct horse 1", none⟩), .answer 2 .none, .answer 2 .none,
    .answer 2 (.at 1767225600123), .answer 2 (.id 9), .answer 2 (.text (js "opaque-1")),
    .answer 2 (.id 10), .answer 2 .none, .answer 2 .none]

theorem sampleSignUp_plays :
    (simulate sampleServices (.initial (.blank asciiLower)) sampleSignUp).isSome = true := by
  decide +kernel

/-- The sign-up has been served. -/
def sampleSignedUp : IdentityConfig sampleServices × List IdentityEvent :=
  (simulate sampleServices (.initial (.blank asciiLower)) sampleSignUp).get sampleSignUp_plays

theorem sampleSignedUp_run :
    Run (machine sampleServices) (.initial (.blank asciiLower)) sampleSignedUp.2 sampleSignedUp.1 :=
  run_of_isSome sampleSignUp_plays

end XClone.Identity
