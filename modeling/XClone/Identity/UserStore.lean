import XClone.Lib.Table
import XClone.Identity.Domain

/-!
# XClone.Identity.UserStore — `DrizzleUserRepository` and `DrizzleProfileRepository`

The tables `identity.users` and `identity.credentials`. Handles are compared as
`CITEXT` does: by their lower-cased text, `lower`, which is Postgres's. Of
`credentials` only the columns the services read are kept.
-/

namespace XClone.Identity

open Js Relational

/-- A row of `identity.credentials`. -/
structure CredentialsRow where
  userId : JsString
  passwordHash : JsString
deriving DecidableEq

/-- What a login reads of an account. -/
structure StoredCredentials where
  userId : JsString
  passwordHash : JsString
deriving DecidableEq

/-- A row of `identity.users`: a profile, and the columns nothing writes yet. -/
structure UserRow extends Profile where
  avatarMediaId : Option JsString
  followerCount : ℤ
  followingCount : ℤ
  isCelebrity : Bool
deriving DecidableEq

/-- `identity.users` and `identity.credentials`. -/
structure UserTables (lower : JsString → JsString) where
  users : Table UserRow [fun row => row.id, fun row => lower row.handle]
  credentials : Table CredentialsRow [CredentialsRow.userId]
  credentialsUser : ∀ row ∈ credentials.rows, ∃ user ∈ users.rows, user.id = row.userId

variable {lower : JsString → JsString}

namespace UserTables

/-- Neither table has a row. -/
def empty : UserTables lower := ⟨.empty, .empty, fun _ h => nomatch h⟩

/-- Rows with one id are one account. -/
theorem user_unique (t : UserTables lower) {u u' : UserRow} (hu : u ∈ t.users.rows)
    (hu' : u' ∈ t.users.rows) (h : u.id = u'.id) : u = u' :=
  t.users.eq_of_column List.mem_cons_self hu hu' h

end UserTables

namespace DrizzleUserRepository

/-- `existsByHandle(handle)`. -/
def existsByHandle (t : UserTables lower) (handle : JsString) : Bool :=
  t.users.rows.any fun user => lower user.handle = lower handle

/-- `findCredentialsByHandle(handle)`: the join, limited to one row. -/
def findCredentialsByHandle (t : UserTables lower) (handle : JsString) :
    Option StoredCredentials :=
  let joined := (t.users.rows.filter fun user => lower user.handle = lower handle).flatMap
    fun user => (t.credentials.rows.filter (·.userId = user.id)).map
      fun row => ⟨user.id, row.passwordHash⟩
  joined.head?

/-- The row `create` inserts, the columns it does not name at their defaults. -/
def userRow (user : User) : UserRow :=
  { id := user.id, handle := user.handle, displayName := user.displayName, bio := []
    createdAt := user.createdAt, avatarMediaId := none, followerCount := 0, followingCount := 0
    isCelebrity := false }

/-- `create(user, passwordHash)`: any unique violation becomes `HandleTakenError`. -/
def create (t : UserTables lower) (user : User) (passwordHash : JsString) :
    Except Failure (UserTables lower) :=
  match hu : t.users.insert (userRow user) with
  | none => .error (.handleTaken user.handle)
  | some users =>
    match hc : t.credentials.insert ⟨user.id, passwordHash⟩ with
    | none => .error (.handleTaken user.handle)
    | some credentials =>
      .ok
        { users
          credentials
          credentialsUser := by
            rw [(Table.insert_eq_some.mp hu).2, (Table.insert_eq_some.mp hc).2]
            intro row hrow
            rcases List.mem_cons.mp hrow with rfl | hrow
            · exact ⟨userRow user, List.mem_cons_self, rfl⟩
            · rcases t.credentialsUser row hrow with ⟨owner, howner, hid⟩
              exact ⟨owner, List.mem_cons_of_mem _ howner, hid⟩ }

/-- A violation of a unique column is that of the handle. -/
theorem create_error {t : UserTables lower} {user : User} {passwordHash : JsString} {e : Failure}
    (h : create t user passwordHash = .error e) : e = .handleTaken user.handle := by
  unfold create at h
  split at h
  · exact (Except.error.inj h).symm
  split at h
  · exact (Except.error.inj h).symm
  · cases h

theorem create_spec {t t' : UserTables lower} {user : User} {passwordHash : JsString}
    (h : create t user passwordHash = .ok t') :
    ¬ t.users.Conflicts (userRow user) ∧ t'.users.rows = userRow user :: t.users.rows ∧
      t'.credentials.rows = ⟨user.id, passwordHash⟩ :: t.credentials.rows := by
  unfold create at h
  split at h
  · cases h
  · rename_i users hu
    split at h
    · cases h
    · rename_i credentials hc
      cases h
      rcases Table.insert_eq_some.mp hu with ⟨hfresh, hrows⟩
      exact ⟨hfresh, hrows, (Table.insert_eq_some.mp hc).2⟩

theorem findCredentialsByHandle_some {t : UserTables lower} {handle : JsString}
    {found : StoredCredentials} (h : findCredentialsByHandle t handle = some found) :
    ⟨found.userId, found.passwordHash⟩ ∈ t.credentials.rows ∧
      ∃ user ∈ t.users.rows, user.id = found.userId ∧ lower user.handle = lower handle := by
  have hmem := List.mem_of_head? h
  rcases List.mem_flatMap.mp hmem with ⟨user, huser, hjoin⟩
  rcases List.mem_map.mp hjoin with ⟨row, hrow, rfl⟩
  simp only [List.mem_filter, decide_eq_true_eq] at huser hrow
  rcases hrow with ⟨hrow, hid⟩
  exact ⟨by rw [← hid]; exact hrow, user, huser.1, rfl, huser.2⟩

end DrizzleUserRepository

namespace DrizzleProfileRepository

/-- `findByHandle(handle)`. -/
def findByHandle (t : UserTables lower) (handle : JsString) : Option Profile :=
  (t.users.rows.filter fun user => lower user.handle = lower handle).head?.map
    UserRow.toProfile

/-- The `SET` clause: an absent field never reaches it. -/
def patched (changes : ProfileChanges) (row : UserRow) : UserRow :=
  { row with
    displayName := changes.displayName.getD row.displayName
    bio := changes.bio.getD row.bio }

/-- A patch changes no unique column. -/
theorem patched_keeps (changes : ProfileChanges) :
    ∀ column ∈ [fun row : UserRow => row.id, fun row => lower row.handle], ∀ row,
      column (patched changes row) = column row := by
  intro column hcolumn row
  simp only [List.mem_cons, List.not_mem_nil, or_false] at hcolumn
  rcases hcolumn with rfl | rfl <;> rfl

/-- `update(userId, changes)`, with the row it returns; `none` is the malformed
statement an empty `SET` would be. -/
def update (t : UserTables lower) (userId : JsString) (changes : ProfileChanges) :
    Option (Option Profile × UserTables lower) :=
  if changes.displayName = none ∧ changes.bio = none then none
  else
    let users := t.users.updateWhere (·.id = userId) (patched changes) (patched_keeps changes)
    some ((users.rows.filter (·.id = userId)).head?.map UserRow.toProfile,
      { users
        credentials := t.credentials
        credentialsUser := by
          intro row hrow
          rcases t.credentialsUser row hrow with ⟨user, huser, hid⟩
          refine ⟨_, (Table.mem_updateWhere (patched_keeps changes)).mpr ⟨user, huser, rfl⟩, ?_⟩
          rw [← hid]
          split <;> rfl })

theorem update_spec {t t' : UserTables lower} {userId : JsString} {changes : ProfileChanges}
    {returned : Option Profile} (h : update t userId changes = some (returned, t')) :
    t'.credentials = t.credentials ∧ ∀ row', row' ∈ t'.users.rows ↔
      ∃ row ∈ t.users.rows, row' = if row.id = userId then patched changes row else row := by
  unfold update at h
  split at h
  · cases h
  · cases h
    refine ⟨rfl, fun row' => ?_⟩
    have hmem : row' ∈ (t.users.updateWhere (fun user => decide (user.id = userId))
        (patched changes) (patched_keeps changes)).rows ↔ _ :=
      Table.mem_updateWhere (patched_keeps changes)
    simpa only [decide_eq_true_eq] using hmem

theorem update_answer {t t' : UserTables lower} {userId : JsString} {changes : ProfileChanges}
    {returned : Option Profile} (h : update t userId changes = some (returned, t')) :
    returned = (t'.users.rows.filter (·.id = userId)).head?.map UserRow.toProfile := by
  unfold update at h
  split at h
  · cases h
  · cases h
    rfl

/-- An update keeps the ids, in their order. -/
theorem update_ids {t t' : UserTables lower} {userId : JsString} {changes : ProfileChanges}
    {returned : Option Profile} (h : update t userId changes = some (returned, t')) :
    t'.users.rows.map (fun row => row.id) = t.users.rows.map fun row => row.id := by
  unfold update at h
  split at h
  · cases h
  · cases h
    exact Table.map_updateWhere (patched_keeps changes) List.mem_cons_self

/-- An update answers the row it changed. -/
theorem update_returned {t t' : UserTables lower} {userId : JsString} {changes : ProfileChanges}
    {returned : Option Profile} (h : update t userId changes = some (returned, t'))
    {row : UserRow} (hrow : row ∈ t.users.rows) (hid : row.id = userId) :
    returned = some (patched changes row).toProfile := by
  have hpatched := ((update_spec h).2 _).mpr ⟨row, hrow, rfl⟩
  rw [if_pos hid] at hpatched
  have hmem : patched changes row ∈ t'.users.rows.filter (·.id = userId) :=
    List.mem_filter.mpr ⟨hpatched, decide_eq_true hid⟩
  rw [update_answer h]
  cases hrows : t'.users.rows.filter (·.id = userId) with
  | nil =>
    rw [hrows] at hmem
    cases hmem
  | cons first rest =>
    -- no other row has that id
    have hfirst : first ∈ t'.users.rows.filter (·.id = userId) := by
      rw [hrows]
      exact List.mem_cons_self
    rcases List.mem_filter.mp hfirst with ⟨hfirst, hfirstId⟩
    have hsame := t'.user_unique hfirst hpatched ((of_decide_eq_true hfirstId).trans hid.symm)
    rw [hsame]
    rfl

/-- An update of an account that does not exist changes nothing. -/
theorem update_unknown {t t' : UserTables lower} {userId : JsString} {changes : ProfileChanges}
    (h : update t userId changes = some (none, t')) : t' = t := by
  have hunknown : ∀ row ∈ t.users.rows, decide (row.id = userId) = false := by
    intro row hrow
    refine decide_eq_false fun hid => ?_
    cases update_returned h hrow hid
  have hsame := Table.updateWhere_eq_self (patched_keeps changes) hunknown
  unfold update at h
  split at h
  · cases h
  · rw [← (Prod.mk.inj (Option.some.inj h)).2]
    simp only [hsame]

end DrizzleProfileRepository

namespace UserTables

/-- Accounts keep their id, handle and creation time, and credentials never change. -/
structure Later (t t' : UserTables lower) : Prop where
  user : ∀ row ∈ t.users.rows, ∃ row' ∈ t'.users.rows,
    { row with displayName := row'.displayName, bio := row'.bio } = row'
  credentials : ∀ row ∈ t.credentials.rows, row ∈ t'.credentials.rows

theorem Later.refl (t : UserTables lower) : Later t t :=
  ⟨fun row h => ⟨row, h, rfl⟩, fun _ h => h⟩

theorem Later.trans {t u v : UserTables lower} (h : Later t u) (h' : Later u v) : Later t v := by
  constructor
  · intro row hrow
    rcases h.user row hrow with ⟨row', hrow', hsame⟩
    rcases h'.user row' hrow' with ⟨row'', hrow'', hsame'⟩
    exact ⟨row'', hrow'', by rw [← hsame', ← hsame]⟩
  · intro row hrow
    exact h'.credentials row (h.credentials row hrow)

theorem create_later {t t' : UserTables lower} {user : User} {passwordHash : JsString}
    (h : DrizzleUserRepository.create t user passwordHash = .ok t') : Later t t' := by
  rcases DrizzleUserRepository.create_spec h with ⟨-, husers, hcredentials⟩
  constructor
  · intro row hrow
    exact ⟨row, by rw [husers]; exact List.mem_cons_of_mem _ hrow, rfl⟩
  · intro row hrow
    rw [hcredentials]
    exact List.mem_cons_of_mem _ hrow

theorem update_later {t t' : UserTables lower} {userId : JsString} {changes : ProfileChanges}
    {returned : Option Profile}
    (h : DrizzleProfileRepository.update t userId changes = some (returned, t')) : Later t t' := by
  rcases DrizzleProfileRepository.update_spec h with ⟨hcredentials, hrows⟩
  constructor
  · intro row hrow
    refine ⟨_, (hrows _).mpr ⟨row, hrow, rfl⟩, ?_⟩
    split <;> rfl
  · intro row hrow
    rw [hcredentials]
    exact hrow

/-- A new account leaves every profile as it was. -/
theorem create_keeps {t t' : UserTables lower} {user : User} {passwordHash : JsString}
    (h : DrizzleUserRepository.create t user passwordHash = .ok t') {row row' : UserRow}
    (hrow : row ∈ t.users.rows) (hrow' : row' ∈ t'.users.rows) (hid : row'.id = row.id) :
    row' = row := by
  rcases DrizzleUserRepository.create_spec h with ⟨-, husers, -⟩
  have hkept : row ∈ t'.users.rows := by
    rw [husers]
    exact List.mem_cons_of_mem _ hrow
  exact t'.user_unique hrow' hkept hid

/-- A patch leaves the profile of everyone else as it was. -/
theorem update_keeps {t t' : UserTables lower} {userId : JsString} {changes : ProfileChanges}
    {returned : Option Profile}
    (h : DrizzleProfileRepository.update t userId changes = some (returned, t')) {row row' : UserRow}
    (hrow : row ∈ t.users.rows) (hrow' : row' ∈ t'.users.rows) (hid : row'.id = row.id)
    (hother : row.id ≠ userId) : row' = row := by
  have hkept := ((DrizzleProfileRepository.update_spec h).2 _).mpr ⟨row, hrow, rfl⟩
  rw [if_neg hother] at hkept
  exact t'.user_unique hrow' hkept hid

end UserTables

end XClone.Identity
