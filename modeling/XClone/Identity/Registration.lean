import XClone.Identity.ProfileHistory
import XClone.Identity.Scheduler

/-!
# XClone.Identity.Registration — one account for each handle

Registrations check, hash and insert in separate steps, so any number of them can pass
the check with the same handle. The insert decides: it is one transaction over `users`
and `credentials`, and the handle is unique as `CITEXT` compares it. From empty tables,
in any run: every account has one credentials row, every registration that returned a
user has left its two rows, and of those with one handle at most one did.
-/

namespace XClone.Identity

open Js Interleaving

variable {services : Services} {start : Store services.lower} {τ : List IdentityEvent}
  {c c' : IdentityConfig services}

/-! ## Accounts are pairs of rows -/

/-- The credentials are those of the users, row by row. -/
def Paired {lower : JsString → JsString} (t : UserTables lower) : Prop :=
  t.credentials.rows.map CredentialsRow.userId = t.users.rows.map fun row => row.id

theorem paired_step {e : IdentityEvent} (h : Paired c.store.accounts)
    (hstep : Step (machine services) c e c') : Paired c'.store.accounts := by
  cases hstep with
  | start i request hnone => exact h
  | threw hthread hthrows => exact h
  | @returned i request call next answer s hthread hreturns =>
    show Paired s.accounts
    cases wroteAccounts hreturns with
    | nothing _ hsame =>
      rw [hsame]
      exact h
    | created user passwordHash hcreate =>
      -- both rows in one transaction
      rcases DrizzleUserRepository.create_spec hcreate with ⟨-, husers, hcredentials⟩
      unfold Paired
      rw [husers, hcredentials, List.map_cons, List.map_cons, h]
      rfl
    | updated userId changes answer hupdate =>
      unfold Paired
      rw [(DrizzleProfileRepository.update_spec hupdate).1,
        DrizzleProfileRepository.update_ids hupdate]
      exact h

theorem paired_of_run (hrun : Run (machine services) c τ c') (h : Paired c.store.accounts) :
    Paired c'.store.accounts := by
  induction hrun with
  | nil => exact h
  | snoc _ hstep ih => exact paired_step ih hstep

/-- Every user has its credentials. -/
theorem Paired.credentials {lower : JsString → JsString} {t : UserTables lower} (h : Paired t)
    {user : UserRow} (huser : user ∈ t.users.rows) :
    ∃! row, row ∈ t.credentials.rows ∧ row.userId = user.id := by
  have hmem : user.id ∈ t.credentials.rows.map CredentialsRow.userId := by
    rw [h]
    exact List.mem_map.mpr ⟨user, huser, rfl⟩
  rcases List.mem_map.mp hmem with ⟨row, hrow, hid⟩
  refine ⟨row, ⟨hrow, hid⟩, ?_⟩
  rintro other ⟨hother, hotherId⟩
  exact t.credentials.eq_of_column List.mem_cons_self hother hrow (hotherId.trans hid.symm)

/-- And every credentials row its user. -/
theorem credentials_user {lower : JsString → JsString} (t : UserTables lower)
    {row : CredentialsRow} (hrow : row ∈ t.credentials.rows) :
    ∃! user, user ∈ t.users.rows ∧ user.id = row.userId := by
  rcases t.credentialsUser row hrow with ⟨user, huser, hid⟩
  refine ⟨user, ⟨huser, hid⟩, ?_⟩
  rintro other ⟨hother, hotherId⟩
  exact t.user_unique hother huser (hotherId.trans hid.symm)

/-! ## What a registration leaves -/

/-- The account an execution returned, or is about to. -/
theorem created_returned (hrun : Run (machine services) (.initial start) τ c) {i : ℕ} {user : User}
    {passwordHash : JsString} (hmem : .returned i (.createUser user passwordHash) () ∈ τ) :
    ∃ input : RegisterUserInput,
      c.threads i = some ⟨.register input, .done (.user user)⟩ ∧ user.handle = input.handle ∧
        user.displayName = input.handle ∧
        .returned i (.hashPassword input.password) passwordHash ∈ τ := by
  rcases hrun.done_by hmem (i := i) rfl with ⟨request, p, events, hthread, hdid⟩
  rcases hdid.went.split (hdid.returned.mp hmem) with ⟨τ₁, τ₂, next, hevents, hbefore, hafter⟩
  rcases execute_creates hbefore with ⟨input, rfl⟩
  have hpath : Path i (execute services.toSettings (.register input)) τ₁
    (.call (.createUser user passwordHash) next) := hbefore
  rcases register_creates hpath with ⟨id, createdAt, hbeforeEvents, -, rfl⟩
  have hdone := register_answers hpath
  change Went i (next ()) τ₂ p at hafter
  rw [hdone] at hafter
  rcases hafter.of_completed trivial with ⟨-, rfl⟩
  refine ⟨input, hthread, rfl, rfl, hdid.subset ?_⟩
  rw [hevents, hbeforeEvents]
  simp

/-- An execution that returned a user created it. -/
theorem returned_created (hrun : Run (machine services) (.initial start) τ c) {i : ℕ}
    {input : RegisterUserInput} {user : User}
    (hthread : c.threads i = some ⟨.register input, .done (.user user)⟩) :
    ∃ passwordHash, .returned i (.createUser user passwordHash) () ∈ τ ∧
      .returned i (.hashPassword input.password) passwordHash ∈ τ ∧
      user.handle = input.handle := by
  rcases hrun.did hthread with ⟨events, hdid⟩
  have hpath : Path i (execute services.toSettings (.register input)) events
    (.done (.user user)) := hdid.went.done
  rcases register_done hpath with ⟨passwordHash, id, createdAt, hevents, -, heq⟩
  cases heq
  refine ⟨passwordHash, hdid.subset ?_, hdid.subset ?_, rfl⟩
  · rw [hevents]
    simp
  · rw [hevents]
    simp

/-- What was created is there, changed by its updates only. -/
theorem created_row (hrun : Run (machine services) c τ c') {i : ℕ} {user : User}
    {passwordHash : JsString} (hmem : .returned i (.createUser user passwordHash) () ∈ τ) :
    applied (commits τ user.id) (DrizzleUserRepository.userRow user) ∈
        c'.store.accounts.users.rows ∧
      ⟨user.id, passwordHash⟩ ∈ c'.store.accounts.credentials.rows := by
  rcases hrun.answered_at hmem with ⟨τ₁, τ₂, c₁, c₂, rfl, hbefore, hreturns, hafter⟩
  rcases DrizzleUserRepository.create_spec hreturns.2 with ⟨hfresh, husers, hcredentials⟩
  constructor
  · -- there was nothing to update before
    have hnew : ∀ row ∈ c₁.store.accounts.users.rows, row.id ≠ user.id := by
      intro row hrow hid
      exact hfresh ⟨_, List.mem_cons_self, List.mem_map.mpr ⟨row, hrow, hid⟩⟩
    have hcreated : DrizzleUserRepository.userRow user ∈ c₂.store.accounts.users.rows := by
      rw [husers]
      exact List.mem_cons_self
    have hkept := row_of_run hafter hcreated
    rw [List.append_cons, commits_append, commits_append, commits_eq_nil hbefore hnew]
    exact hkept
  · refine (run_later hafter).accounts.credentials _ ?_
    rw [hcredentials]
    exact List.mem_cons_self

/-- Its handle is taken from then on. -/
theorem created_once (hrun : Run (machine services) (.initial start) τ c) :
    ∀ i j (user user' : User) passwordHash passwordHash',
      .returned i (.createUser user passwordHash) () ∈ τ →
      .returned j (.createUser user' passwordHash') () ∈ τ →
      services.lower user.handle = services.lower user'.handle → i = j := by
  refine Run.invariant (P := fun τ c => ∀ i j (user user' : User) passwordHash passwordHash',
    .returned i (.createUser user passwordHash) () ∈ τ →
    .returned j (.createUser user' passwordHash') () ∈ τ →
    services.lower user.handle = services.lower user'.handle → i = j) ?_ ?_ hrun
  · intro i j user user' passwordHash passwordHash' hmem
    cases hmem
  intro τ c e c' hbefore ih hstep
  -- an account with that handle is already there
  have taken {i j : ℕ} {user user' : User} {passwordHash passwordHash' : JsString}
      (hold : .returned i (.createUser user passwordHash) () ∈ τ)
      (hlast : e = .returned j (.createUser user' passwordHash') ())
      (hhandle : services.lower user.handle = services.lower user'.handle) : False := by
    subst hlast
    cases hstep with
    | returned hthread hreturns =>
      refine (DrizzleUserRepository.create_spec hreturns.2).1 ?_
      refine ⟨fun row => services.lower row.handle, List.mem_cons_of_mem _ List.mem_cons_self, ?_⟩
      exact List.mem_map.mpr ⟨_, (created_row hbefore hold).1, hhandle⟩
  intro i j user user' passwordHash passwordHash' hi hj hhandle
  rcases List.mem_append.mp hi with hi | hi <;> rcases List.mem_append.mp hj with hj | hj
  · exact ih i j user user' passwordHash passwordHash' hi hj hhandle
  · exact (taken hi (List.mem_singleton.mp hj).symm hhandle).elim
  · exact (taken hj (List.mem_singleton.mp hi).symm hhandle.symm).elim
  · have heq := (List.mem_singleton.mp hi).trans (List.mem_singleton.mp hj).symm
    cases heq
    rfl

/-! ## Accounts are whole -/

/-- Execution `i` registered `input`, and returned `user`. -/
def ReturnedUser (c : IdentityConfig services) (i : ℕ) (input : RegisterUserInput) (user : User) :
    Prop :=
  c.threads i = some ⟨.register input, .done (.user user)⟩

/-- Every account was returned by the registration that created it. -/
theorem row_returned (hrun : Run (machine services) (.initial (.blank services.lower)) τ c)
    {row : UserRow} (hrow : row ∈ c.store.accounts.users.rows) :
    ∃ i input user, ReturnedUser c i input user ∧
      row = applied (commits τ user.id) (DrizzleUserRepository.userRow user) := by
  rcases origin_of_run hrun hrow with ⟨first, hfirst, -⟩ | ⟨i, user, passwordHash, hmem, hid⟩
  · cases hfirst
  · rcases created_returned hrun hmem with ⟨input, hthread, -, -, -⟩
    refine ⟨i, input, user, hthread, ?_⟩
    exact c.store.accounts.user_unique hrow (created_row hrun hmem).1 hid

/-- Handles are unique and no account is half-created, in every run from empty tables,
whatever registrations race: no two users have a handle `CITEXT` takes for the same; the
credentials are those of the users, one each; of the registrations of one handle at most
one returns a user; each that does has left its two rows, with the hash of its password;
and there are no others. -/
theorem accounts_are_whole (services : Services) {τ : List IdentityEvent}
    {c : IdentityConfig services}
    (hrun : Run (machine services) (.initial (.blank services.lower)) τ c) :
    (c.store.accounts.users.rows.map fun row => services.lower row.handle).Nodup ∧
    Paired c.store.accounts ∧
    (∀ user ∈ c.store.accounts.users.rows,
      ∃! row, row ∈ c.store.accounts.credentials.rows ∧ row.userId = user.id) ∧
    (∀ row ∈ c.store.accounts.credentials.rows,
      ∃! user, user ∈ c.store.accounts.users.rows ∧ user.id = row.userId) ∧
    (∀ i j input input' user user', ReturnedUser c i input user → ReturnedUser c j input' user' →
      services.lower input.handle = services.lower input'.handle → i = j) ∧
    (∀ i input user, ReturnedUser c i input user → user.handle = input.handle ∧
      applied (commits τ user.id) (DrizzleUserRepository.userRow user) ∈
        c.store.accounts.users.rows ∧
      ∃ passwordHash, .returned i (.hashPassword input.password) passwordHash ∈ τ ∧
        ⟨user.id, passwordHash⟩ ∈ c.store.accounts.credentials.rows) ∧
    (∀ row ∈ c.store.accounts.users.rows, ∃ i input user, ReturnedUser c i input user ∧
      row = applied (commits τ user.id) (DrizzleUserRepository.userRow user)) := by
  have hpaired : Paired c.store.accounts := paired_of_run hrun rfl
  refine ⟨?_, hpaired, ?_, ?_, ?_, ?_, ?_⟩
  · -- the unique index on `lower(handle)`
    exact c.store.accounts.users.unique _ (List.mem_cons_of_mem _ List.mem_cons_self)
  · exact fun user huser => hpaired.credentials huser
  · exact fun row hrow => credentials_user c.store.accounts hrow
  · -- one winner for each handle
    intro i j input input' user user' hi hj hhandle
    rcases returned_created hrun hi with ⟨passwordHash, hcreated, -, hsame⟩
    rcases returned_created hrun hj with ⟨passwordHash', hcreated', -, hsame'⟩
    rw [← hsame, ← hsame'] at hhandle
    exact created_once hrun i j user user' passwordHash passwordHash' hcreated hcreated' hhandle
  · -- a registration's two rows, the account as later updates left it
    intro i input user hi
    rcases returned_created hrun hi with ⟨passwordHash, hcreated, hhash, hsame⟩
    rcases created_row hrun hcreated with ⟨hrow, hcredentials⟩
    exact ⟨hsame, hrow, passwordHash, hhash, hcredentials⟩
  · -- and no other rows
    exact fun row hrow => row_returned hrun hrow

/-- The sample registration has left its credentials. -/
theorem sample_registration_left_its_rows :
    ∃ user, ReturnedUser sampleSignedUp.1 0 ⟨js "sam", js "correct horse 1"⟩ user ∧
      ∃ passwordHash, ⟨user.id, passwordHash⟩ ∈
        sampleSignedUp.1.store.accounts.credentials.rows := by
  have hreturned : ReturnedUser sampleSignedUp.1 0 ⟨js "sam", js "correct horse 1"⟩
      ⟨js "7", js "sam", js "sam", 1767225000000⟩ := rfl
  have hleft := (accounts_are_whole sampleServices sampleSignedUp_run).2.2.2.2.2.1 0 _ _ hreturned
  rcases hleft with ⟨-, -, passwordHash, -, hcredentials⟩
  exact ⟨_, hreturned, passwordHash, hcredentials⟩

end XClone.Identity
