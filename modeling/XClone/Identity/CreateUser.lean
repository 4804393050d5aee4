import XClone.Identity.PgError
import XClone.Identity.UserStore

/-!
# XClone.Identity.CreateUser — what creating an account throws

`DrizzleUserRepository.create` over a driver: two inserts in a transaction, each of which
can violate a constraint, or fail for a reason of its own, and the translation of what they
throw. The translation looks at the code alone, and two constraints of `users` share it: a
taken id is reported as a taken handle (`create_meets_iff`).
-/

namespace XClone.Identity

open Js Relational

variable {lower : JsString → JsString}

/-! ## The driver -/

/-- The constraints the two inserts can violate. -/
inductive Constraint where
  | usersPkey
  | usersHandleUnique
  | credentialsPkey
  | credentialsUserFk
deriving DecidableEq

/-- The SQLSTATE of a violation. -/
def Constraint.code : Constraint → JsString
  | .usersPkey | .usersHandleUnique | .credentialsPkey => uniqueViolation
  | .credentialsUserFk => js "23503"

/-- The statements of the transaction. -/
inductive CreateStatement where
  | begin
  | insertUser
  | insertCredentials
  | commit
deriving DecidableEq

/-- How violations are reported, in whatever wrappers, and what else goes wrong. -/
structure Driver where
  report : Constraint → Unknown
  reports : ∀ constraint, Reports constraint.code (report constraint)
  fault : CreateStatement → Option Unknown
  faults : ∀ {statement error}, fault statement = some error → isUniqueViolation error = false

/-- Both tables, as a transaction sees them. -/
structure AccountRows (lower : JsString → JsString) where
  users : Table UserRow [fun row => row.id, fun row => lower row.handle]
  credentials : Table CredentialsRow [CredentialsRow.userId]

/-- The tables outside of any transaction. -/
def UserTables.accountRows (t : UserTables lower) : AccountRows lower := ⟨t.users, t.credentials⟩

/-- What `create` throws. -/
inductive CreateError where
  /-- `HandleTakenError`. -/
  | handleTaken (handle : JsString)
  | rethrown (error : Unknown)

namespace Driver

variable (driver : Driver)

/-- A statement, unless it fails for a reason of its own. -/
def attempt {α : Type} (statement : CreateStatement) (result : Except Unknown α) :
    Except Unknown α :=
  match driver.fault statement with
  | some error => .error error
  | none => result

/-- `INSERT INTO users`. -/
def insertUser (user : User) (rows : AccountRows lower) : Except Unknown (AccountRows lower) :=
  match rows.users.insert (DrizzleUserRepository.userRow user) with
  | some users => .ok { rows with users }
  | none =>
    if ∃ row ∈ rows.users.rows, row.id = user.id then .error (driver.report .usersPkey)
    else .error (driver.report .usersHandleUnique)

/-- `INSERT INTO credentials`. -/
def insertCredentials (row : CredentialsRow) (rows : AccountRows lower) :
    Except Unknown (AccountRows lower) :=
  match rows.credentials.insert row with
  | some credentials =>
    if ∃ user ∈ rows.users.rows, user.id = row.userId then .ok { rows with credentials }
    else .error (driver.report .credentialsUserFk)
  | none => .error (driver.report .credentialsPkey)

/-- The body of the transaction, and its end. -/
def inserts (user : User) (passwordHash : JsString) (rows : AccountRows lower) :
    Except Unknown (AccountRows lower) := do
  driver.attempt .begin (.ok ())
  let rows ← driver.attempt .insertUser (driver.insertUser user rows)
  let rows ← driver.attempt .insertCredentials
    (driver.insertCredentials ⟨user.id, passwordHash⟩ rows)
  driver.attempt .commit (.ok rows)

/-- `db.transaction(body)`: what the body throws rolls it back. -/
def transaction (body : AccountRows lower → Except Unknown (AccountRows lower))
    (rows : AccountRows lower) : AccountRows lower × Except Unknown Unit :=
  match body rows with
  | .ok rows' => (rows', .ok ())
  | .error error => (rows, .error error)

/-- `create(user, passwordHash)`: the tables it leaves, and what it throws. -/
def create (t : UserTables lower) (user : User) (passwordHash : JsString) :
    AccountRows lower × Except CreateError Unit :=
  match transaction (driver.inserts user passwordHash) t.accountRows with
  | (rows, .ok ()) => (rows, .ok ())
  | (rows, .error error) =>
    if isUniqueViolation error then (rows, .error (.handleTaken user.handle))
    else (rows, .error (.rethrown error))

end Driver

/-! ## What the constraints decide -/

/-- A row holds the handle, ignoring case. -/
def Taken (t : UserTables lower) (handle : JsString) : Prop :=
  ∃ row ∈ t.users.rows, lower row.handle = lower handle

/-- A row has the id. -/
def IdTaken (t : UserTables lower) (id : JsString) : Prop := ∃ row ∈ t.users.rows, row.id = id

theorem conflicts_iff {t : UserTables lower} {user : User} :
    t.users.Conflicts (DrizzleUserRepository.userRow user) ↔
      IdTaken t user.id ∨ Taken t user.handle := by
  simp only [Table.Conflicts, List.mem_cons, List.not_mem_nil, or_false, exists_eq_or_imp,
    exists_eq_left, List.mem_map]
  rfl

/-- Credentials of a new id conflict with none: each row has its user. -/
theorem credentials_free {t : UserTables lower} {user : User} (passwordHash : JsString)
    (h : ¬ IdTaken t user.id) : ¬ t.credentials.Conflicts ⟨user.id, passwordHash⟩ := by
  rintro ⟨column, hcolumn, hmem⟩
  obtain rfl := List.mem_singleton.mp hcolumn
  rcases List.mem_map.mp hmem with ⟨row, hrow, hid⟩
  rcases t.credentialsUser row hrow with ⟨owner, howner, hsame⟩
  exact h ⟨owner, howner, hsame.trans hid⟩

/-- A new id is refused for its handle only. -/
theorem taken_of_create {t : UserTables lower} {user : User} {passwordHash : JsString} {e : Failure}
    (h : DrizzleUserRepository.create t user passwordHash = .error e) (hid : ¬ IdTaken t user.id) :
    Taken t user.handle := by
  unfold DrizzleUserRepository.create at h
  split at h
  · rename_i hinsert
    have hconflict : t.users.Conflicts (DrizzleUserRepository.userRow user) := by
      by_contra hno
      exact Table.insert_ne_none hno hinsert
    exact (conflicts_iff.mp hconflict).resolve_left hid
  split at h
  · rename_i hinsert
    exact absurd hinsert (Table.insert_ne_none (credentials_free passwordHash hid))
  · cases h

namespace Driver

variable {driver : Driver} {t : UserTables lower} {user : User} {passwordHash : JsString}

/-- Neither the beginning nor the insert of the user fails for a reason of its own. -/
structure Reaches (driver : Driver) : Prop where
  begin : driver.fault .begin = none
  insertUser : driver.fault .insertUser = none

/-- All the transaction can come to: something else fails, and not because there is a
conflict; there is a conflict, and the insert of the user reports it; or the account is
created. -/
inductive InsertsTo (driver : Driver) (t : UserTables lower) (user : User)
    (passwordHash : JsString) : Except Unknown (AccountRows lower) → Prop where
  | fault {statement : CreateStatement} {error : Unknown} :
      driver.fault statement = some error →
      (driver.Reaches → ¬ (IdTaken t user.id ∨ Taken t user.handle)) →
      InsertsTo driver t user passwordHash (.error error)
  | violation (constraint : Constraint) :
      driver.Reaches → IdTaken t user.id ∨ Taken t user.handle →
      constraint.code = uniqueViolation →
      InsertsTo driver t user passwordHash (.error (driver.report constraint))
  | created {t' : UserTables lower} :
      ¬ (IdTaken t user.id ∨ Taken t user.handle) →
      DrizzleUserRepository.create t user passwordHash = .ok t' →
      InsertsTo driver t user passwordHash (.ok t'.accountRows)

/-- The first insert, where it is reached. -/
theorem insertUser_cases :
    (∃ constraint, constraint.code = uniqueViolation ∧ (IdTaken t user.id ∨ Taken t user.handle) ∧
      driver.insertUser user t.accountRows = .error (driver.report constraint)) ∨
    ∃ users, t.users.insert (DrizzleUserRepository.userRow user) = some users ∧
      ¬ (IdTaken t user.id ∨ Taken t user.handle) ∧
      driver.insertUser user t.accountRows = .ok ⟨users, t.credentials⟩ := by
  have hdef : driver.insertUser user t.accountRows =
      match t.users.insert (DrizzleUserRepository.userRow user) with
      | some users => .ok ⟨users, t.credentials⟩
      | none =>
        if ∃ row ∈ t.users.rows, row.id = user.id then .error (driver.report .usersPkey)
        else .error (driver.report .usersHandleUnique) := rfl
  rw [hdef, ← conflicts_iff]
  cases hinsert : t.users.insert (DrizzleUserRepository.userRow user) with
  | some users => exact Or.inr ⟨users, rfl, (Table.insert_eq_some.mp hinsert).1, rfl⟩
  | none =>
    have hconflict : t.users.Conflicts (DrizzleUserRepository.userRow user) := by
      by_contra hno
      rw [Table.insert, dif_neg hno] at hinsert
      cases hinsert
    left
    dsimp only
    split
    · exact ⟨.usersPkey, rfl, hconflict, rfl⟩
    · exact ⟨.usersHandleUnique, rfl, hconflict, rfl⟩

/-- The second insert, after the first: its user is there, and its id is new. -/
theorem insertCredentials_after
    {users : Table UserRow [fun row => row.id, fun row => lower row.handle]}
    (husers : t.users.insert (DrizzleUserRepository.userRow user) = some users) :
    ∃ t', DrizzleUserRepository.create t user passwordHash = .ok t' ∧
      driver.insertCredentials ⟨user.id, passwordHash⟩ ⟨users, t.credentials⟩ =
        .ok t'.accountRows := by
  rcases Table.insert_eq_some.mp husers with ⟨hfree, hrows⟩
  rw [conflicts_iff, not_or] at hfree
  have hcredentials := credentials_free passwordHash hfree.1
  have hdef : driver.insertCredentials ⟨user.id, passwordHash⟩ ⟨users, t.credentials⟩ =
      match t.credentials.insert ⟨user.id, passwordHash⟩ with
      | some credentials =>
        if ∃ row ∈ users.rows, row.id = user.id then .ok ⟨users, credentials⟩
        else .error (driver.report .credentialsUserFk)
      | none => .error (driver.report .credentialsPkey) := rfl
  have howner : ∃ row ∈ users.rows, row.id = user.id := by
    rw [hrows]
    exact ⟨_, List.mem_cons_self, rfl⟩
  unfold DrizzleUserRepository.create
  split
  · rename_i hnone
    rw [husers] at hnone
    cases hnone
  · rename_i users' husers'
    rw [husers] at husers'
    cases husers'
    split
    · rename_i hnone
      rw [Table.insert, dif_neg hcredentials] at hnone
      cases hnone
    · rename_i credentials hinsert
      have hinserted : driver.insertCredentials ⟨user.id, passwordHash⟩ ⟨users, t.credentials⟩ =
          .ok ⟨users, credentials⟩ := by
        rw [hdef, hinsert]
        exact if_pos howner
      exact ⟨_, rfl, hinserted⟩

theorem insertsTo : InsertsTo driver t user passwordHash
    (driver.inserts user passwordHash t.accountRows) := by
  unfold inserts attempt
  cases hbegin : driver.fault .begin with
  | some error =>
    refine .fault hbegin ?_
    intro hreaches
    rw [hreaches.begin] at hbegin
    cases hbegin
  | none =>
    cases huser : driver.fault .insertUser with
    | some error =>
      refine .fault huser ?_
      intro hreaches
      rw [hreaches.insertUser] at huser
      cases huser
    | none =>
      rcases @insertUser_cases lower driver t user with
        ⟨constraint, hcode, hconflict, hinsert⟩ | ⟨users, husers, hfree, hinsert⟩
      · rw [hinsert]
        exact .violation constraint ⟨hbegin, huser⟩ hconflict hcode
      · rw [hinsert]
        rcases @insertCredentials_after lower driver t user passwordHash users husers with
          ⟨t', hcreate, hcredentials⟩
        simp only [bind, Except.bind]
        rw [hcredentials]
        cases hfault : driver.fault .insertCredentials with
        | some error => exact .fault hfault fun _ => hfree
        | none =>
          cases hcommit : driver.fault .commit with
          | some error => exact .fault hcommit fun _ => hfree
          | none => exact .created hfree hcreate

/-- What `create` makes of each. -/
theorem create_of_error {error : Unknown}
    (h : driver.inserts user passwordHash t.accountRows = .error error) :
    driver.create t user passwordHash =
      (t.accountRows, .error (if isUniqueViolation error then .handleTaken user.handle
        else .rethrown error)) := by
  unfold create transaction
  rw [h]
  dsimp only
  split <;> rfl

theorem create_of_ok {rows : AccountRows lower}
    (h : driver.inserts user passwordHash t.accountRows = .ok rows) :
    driver.create t user passwordHash = (rows, .ok ()) := by
  unfold create transaction
  rw [h]

/-- `create` keeps its word: a taken handle is said where it is one, and only there; what
else fails is rethrown as it was; and whatever fails leaves both tables as they were. -/
structure KeepsWord (driver : Driver) (t : UserTables lower) (user : User)
    (passwordHash : JsString) : Prop where
  said : ∀ handle, (driver.create t user passwordHash).2 = .error (.handleTaken handle) →
    handle = user.handle ∧ Taken t user.handle
  taken : driver.Reaches → Taken t user.handle →
    (driver.create t user passwordHash).2 = .error (.handleTaken user.handle)
  rethrown : ∀ error, driver.inserts user passwordHash t.accountRows = .error error →
    (∃ statement, driver.fault statement = some error) →
    (driver.create t user passwordHash).2 = .error (.rethrown error)
  unchanged : ∀ error, (driver.create t user passwordHash).2 = .error error →
    (driver.create t user passwordHash).1 = t.accountRows

/-- Something else failed: it is rethrown. -/
theorem keepsWord_of_fault {error : Unknown} (hfault : isUniqueViolation error = false)
    (hinserts : driver.inserts user passwordHash t.accountRows = .error error)
    (hfree : driver.Reaches → ¬ (IdTaken t user.id ∨ Taken t user.handle)) :
    KeepsWord driver t user passwordHash := by
  have hcreate := create_of_error hinserts
  rw [hfault] at hcreate
  constructor
  · intro handle hsaid
    rw [hcreate] at hsaid
    cases hsaid
  · intro hreaches htaken
    exact absurd (Or.inr htaken) (hfree hreaches)
  · intro error' herror _
    rw [hinserts] at herror
    cases herror
    rw [hcreate]
    rfl
  · intro _ _
    rw [hcreate]

/-- A constraint was violated: it is taken for that of the handle. -/
theorem keepsWord_of_violation {error : Unknown} (hviolation : isUniqueViolation error = true)
    (hinserts : driver.inserts user passwordHash t.accountRows = .error error) :
    KeepsWord driver t user passwordHash ↔ Taken t user.handle := by
  have hcreate := create_of_error hinserts
  rw [hviolation, if_pos rfl] at hcreate
  constructor
  · intro hkeeps
    refine (hkeeps.said user.handle ?_).2
    rw [hcreate]
  · intro htaken
    constructor
    · intro handle hsaid
      rw [hcreate] at hsaid
      cases hsaid
      exact ⟨rfl, htaken⟩
    · intro _ _
      rw [hcreate]
    · rintro error' herror ⟨statement, hfault⟩
      rw [hinserts] at herror
      cases herror
      rw [driver.faults hfault] at hviolation
      cases hviolation
    · intro _ _
      rw [hcreate]

/-- The account was created: nothing was thrown. -/
theorem keepsWord_of_created {rows : AccountRows lower}
    (hinserts : driver.inserts user passwordHash t.accountRows = .ok rows)
    (hfree : ¬ Taken t user.handle) : KeepsWord driver t user passwordHash := by
  have hcreate := create_of_ok hinserts
  constructor
  · intro handle hsaid
    rw [hcreate] at hsaid
    cases hsaid
  · intro _ htaken
    exact absurd htaken hfree
  · intro error herror
    rw [hinserts] at herror
    cases herror
  · intro error herror
    rw [hcreate] at herror
    cases herror

/-- `create` keeps its word unless its first insert is reached with a new handle and an id
that some other row has. -/
theorem create_keeps_word_iff (driver : Driver) (t : UserTables lower) (user : User)
    (passwordHash : JsString) : KeepsWord driver t user passwordHash ↔
      Taken t user.handle ∨ ¬ IdTaken t user.id ∨ ¬ driver.Reaches := by
  have hcases := @insertsTo lower driver t user passwordHash
  generalize hout : driver.inserts user passwordHash t.accountRows = out at hcases
  cases hcases with
  | fault hfault hfree =>
    refine iff_of_true (keepsWord_of_fault (driver.faults hfault) hout hfree) ?_
    by_cases hreaches : driver.Reaches
    · exact Or.inr (Or.inl fun hid => hfree hreaches (Or.inl hid))
    · exact Or.inr (Or.inr hreaches)
  | violation constraint hreaches hconflict hcode =>
    have hviolation := (isUniqueViolation_reports (driver.reports constraint)).mpr hcode
    rw [keepsWord_of_violation hviolation hout]
    constructor
    · exact Or.inl
    · rintro (htaken | hid | hno)
      · exact htaken
      · exact hconflict.resolve_left hid
      · exact absurd hreaches hno
  | created hfree _ =>
    rw [not_or] at hfree
    exact iff_of_true (keepsWord_of_created hout hfree.2) (Or.inr (Or.inl hfree.1))

/-- Where nothing else fails, `create` does what `DrizzleUserRepository.create` says. -/
theorem create_quiet (h : ∀ statement, driver.fault statement = none) :
    driver.create t user passwordHash =
      match DrizzleUserRepository.create t user passwordHash with
      | .ok t' => (t'.accountRows, .ok ())
      | .error _ => (t.accountRows, .error (.handleTaken user.handle)) := by
  have hcases := @insertsTo lower driver t user passwordHash
  generalize hout : driver.inserts user passwordHash t.accountRows = out at hcases
  cases hcases with
  | @fault statement error hfault _ =>
    rw [h statement] at hfault
    cases hfault
  | violation constraint _ hconflict hcode =>
    have hviolation := (isUniqueViolation_reports (driver.reports constraint)).mpr hcode
    rw [create_of_error hout, hviolation]
    cases hcreate : DrizzleUserRepository.create t user passwordHash with
    | error e => rfl
    | ok t' =>
      have hfresh := (DrizzleUserRepository.create_spec hcreate).1
      exact absurd (conflicts_iff.mpr hconflict) hfresh
  | created _ hcreate =>
    rw [create_of_ok hout, hcreate]

end Driver

/-! ## An id that is taken -/

/-- A driver that reports in one wrapper, over a database that fails on nothing else. -/
def wrappingDriver : Driver where
  report constraint :=
    .object none (some (.object (some (.string constraint.code)) none))
  reports _ := .wrapped (.driver none)
  fault _ := none
  faults h := nomatch h

/-- Row 7 is `sam`'s. -/
def oneAccount : UserTables id :=
  match DrizzleUserRepository.create .empty ⟨js "7", js "sam", js "sam", 0⟩ (js "hashed") with
  | .ok t => t
  | .error _ => .empty

/-- A second account with id 7 is told that its handle `alex` is taken, though the only
other handle is `sam`. -/
theorem taken_id_is_said_to_be_a_taken_handle :
    (wrappingDriver.create oneAccount ⟨js "7", js "alex", js "alex", 0⟩ (js "hashed")).2 =
      .error (.handleTaken (js "alex")) ∧
    oneAccount.users.rows.map (·.handle) = [js "sam"] ∧ ¬ Taken oneAccount (js "alex") := by
  refine ⟨?_, rfl, ?_⟩
  · -- the database refuses the row, and fails on nothing else
    rw [Driver.create_quiet fun _ => rfl]
    rfl
  rintro ⟨row, hrow, hsame⟩
  have hhandle : row.handle ∈ oneAccount.users.rows.map (·.handle) := List.mem_map_of_mem hrow
  have hsam : row.handle = js "sam" := List.mem_singleton.mp hhandle
  have halex : row.handle = js "alex" := hsame
  rw [hsam] at halex
  exact absurd halex (by decide)

end XClone.Identity
