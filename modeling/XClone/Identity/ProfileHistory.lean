import XClone.Identity.Executions

/-!
# XClone.Identity.ProfileHistory — what a history made of each profile

The updates a history committed, one list for each account in the order of the commits,
and the row they make of an account: every field as the last of them that has it left
it. `rows_of_run` says that the rows of any run are these, and no others.
-/

namespace XClone.Identity

open Js Interleaving

/-! ## Changes -/

/-- The last value that was given to a field. -/
def lastGiven (field : ProfileChanges → Option JsString) (changes : List ProfileChanges) :
    Option JsString :=
  (changes.filterMap field).getLast?

/-- A row after these changes; only two columns can differ. -/
def applied (changes : List ProfileChanges) (row : UserRow) : UserRow :=
  { row with
    displayName := (lastGiven ProfileChanges.displayName changes).getD row.displayName
    bio := (lastGiven ProfileChanges.bio changes).getD row.bio }

@[simp] theorem applied_nil (row : UserRow) : applied [] row = row := rfl

theorem lastGiven_append (field : ProfileChanges → Option JsString)
    (changes changes' : List ProfileChanges) :
    lastGiven field (changes ++ changes') =
      (lastGiven field changes').or (lastGiven field changes) := by
  unfold lastGiven
  rw [List.filterMap_append, List.getLast?_append]

/-- Later changes are made to what the earlier ones left. -/
theorem applied_append (changes changes' : List ProfileChanges) (row : UserRow) :
    applied (changes ++ changes') row = applied changes' (applied changes row) := by
  unfold applied
  rw [lastGiven_append, lastGiven_append, Option.getD_or, Option.getD_or]

/-- One change is the repository's `SET`. -/
theorem applied_singleton (changes : ProfileChanges) (row : UserRow) :
    applied [changes] row = DrizzleProfileRepository.patched changes row := by
  rcases changes with ⟨displayName, bio⟩
  cases displayName <;> cases bio <;> rfl

/-! ## Commits -/

/-- What an event commits to the profile of an account. -/
def committed (userId : JsString) : IdentityEvent → Option ProfileChanges
  | .returned _ (.updateProfile id changes) (some _) => if id = userId then some changes else none
  | _ => none

/-- The changes committed to the profile of an account, in order. -/
def commits (τ : List IdentityEvent) (userId : JsString) : List ProfileChanges :=
  τ.filterMap (committed userId)

theorem commits_append (τ τ' : List IdentityEvent) (userId : JsString) :
    commits (τ ++ τ') userId = commits τ userId ++ commits τ' userId :=
  List.filterMap_append

/-- Only an update of the account commits to it. -/
theorem committed_eq_none {i : ℕ} {call : PortCall} {answer : Answer call} {userId : JsString}
    (h : ∀ changes, call ≠ .updateProfile userId changes) :
    committed userId (.returned i call answer) = none := by
  cases call with
  | updateProfile id changes =>
    cases answer with
    | none => rfl
    | some profile =>
      have hother : id ≠ userId := by
        rintro rfl
        exact h changes rfl
      exact if_neg hother
  | existsByHandle | createUser | findCredentialsByHandle | createSession | findByTokenHash
  | rotate | revoke | findByHandle | hashPassword | verifyPassword | createRefreshToken | nextId
  | now | issueAccessToken => rfl

/-! ## Rows -/

variable {services : Services} {c c' : IdentityConfig services} {τ : List IdentityEvent}

/-- A step commits to a row what its event says. -/
theorem row_step {e : IdentityEvent} (hstep : Step (machine services) c e c') {row : UserRow}
    (hrow : row ∈ c.store.accounts.users.rows) :
    applied (commits [e] row.id) row ∈ c'.store.accounts.users.rows := by
  cases hstep with
  | start i request hnone => exact hrow
  | threw hthread hthrows => exact hrow
  | @returned i request call next answer s hthread hreturns =>
    show _ ∈ s.accounts.users.rows
    by_cases hcall : ∃ changes, call = .updateProfile row.id changes
    · -- its own update, which finds it
      rcases hcall with ⟨changes, rfl⟩
      have hupdate := hreturns.2
      have hpatched := ((DrizzleProfileRepository.update_spec hupdate).2 _).mpr ⟨row, hrow, rfl⟩
      rw [if_pos rfl] at hpatched
      have hanswer := DrizzleProfileRepository.update_returned hupdate hrow rfl
      have hcommits : commits [.returned i (.updateProfile row.id changes) answer] row.id =
          [changes] := by
        rw [hanswer]
        simp [commits, committed]
      rw [hcommits, applied_singleton]
      exact hpatched
    · -- any other call leaves it alone
      have hcommits : commits [.returned i call answer] row.id = [] := by
        have hnone : committed row.id (.returned i call answer) = none :=
          committed_eq_none fun changes heq => hcall ⟨changes, heq⟩
        simp [commits, hnone]
      rw [hcommits, applied_nil]
      rcases (accounts_later hreturns).user row hrow with ⟨row', hrow', hsame⟩
      have hid : row'.id = row.id := by rw [← hsame]
      by_cases hchanged : row' = row
      · rw [← hchanged]
        exact hrow'
      · exact absurd (profile_changed hreturns hrow hrow' hid hchanged) hcall

/-- Rows come from registrations. -/
theorem row_origin {e : IdentityEvent} (hstep : Step (machine services) c e c') {row' : UserRow}
    (hrow' : row' ∈ c'.store.accounts.users.rows) :
    (∃ row ∈ c.store.accounts.users.rows, row.id = row'.id) ∨
      ∃ i user passwordHash, e = .returned i (.createUser user passwordHash) () ∧
        row' = DrizzleUserRepository.userRow user := by
  cases hstep with
  | start i request hnone => exact Or.inl ⟨row', hrow', rfl⟩
  | threw hthread hthrows => exact Or.inl ⟨row', hrow', rfl⟩
  | @returned i request call next answer s hthread hreturns =>
    change row' ∈ s.accounts.users.rows at hrow'
    cases wroteAccounts hreturns with
    | nothing _ hsame =>
      rw [hsame] at hrow'
      exact Or.inl ⟨row', hrow', rfl⟩
    | created user passwordHash hcreate =>
      rw [(DrizzleUserRepository.create_spec hcreate).2.1] at hrow'
      rcases List.mem_cons.mp hrow' with rfl | hold
      · exact Or.inr ⟨i, user, passwordHash, rfl, rfl⟩
      · exact Or.inl ⟨row', hold, rfl⟩
    | updated userId changes answer hupdate =>
      rcases ((DrizzleProfileRepository.update_spec hupdate).2 row').mp hrow' with
        ⟨row, hrow, rfl⟩
      refine Or.inl ⟨row, hrow, ?_⟩
      split <;> rfl

/-- The rows a run started with are as its commits left them. -/
theorem row_of_run (hrun : Run (machine services) c τ c') {row : UserRow}
    (hrow : row ∈ c.store.accounts.users.rows) :
    applied (commits τ row.id) row ∈ c'.store.accounts.users.rows := by
  induction hrun with
  | nil => exact hrow
  | snoc _ hstep ih =>
    rw [commits_append, applied_append]
    exact row_step hstep ih

/-- And the others were registered in it. -/
theorem origin_of_run (hrun : Run (machine services) c τ c') {row' : UserRow}
    (hrow' : row' ∈ c'.store.accounts.users.rows) :
    (∃ row ∈ c.store.accounts.users.rows, row' = applied (commits τ row.id) row) ∨
      ∃ i user passwordHash, .returned i (.createUser user passwordHash) () ∈ τ ∧
        row'.id = user.id := by
  have horigin : (∃ row ∈ c.store.accounts.users.rows, row.id = row'.id) ∨
      ∃ i user passwordHash, .returned i (.createUser user passwordHash) () ∈ τ ∧
        row'.id = user.id := by
    induction hrun generalizing row' with
    | nil => exact Or.inl ⟨row', hrow', rfl⟩
    | snoc _ hstep ih =>
      rcases row_origin hstep hrow' with ⟨row, hrow, hid⟩ | ⟨i, user, passwordHash, rfl, rfl⟩
      · rcases ih hrow with ⟨first, hfirst, hsame⟩ | ⟨i, user, passwordHash, hmem, hsame⟩
        · exact Or.inl ⟨first, hfirst, hsame.trans hid⟩
        · exact Or.inr ⟨i, user, passwordHash, List.mem_append_left _ hmem, hid.symm.trans hsame⟩
      · exact Or.inr ⟨i, user, passwordHash,
          List.mem_append_right _ (List.mem_singleton_self _), rfl⟩
  rcases horigin with ⟨row, hrow, hid⟩ | hregistered
  · -- the row with that id is the one the commits left
    refine Or.inl ⟨row, hrow, ?_⟩
    exact c'.store.accounts.user_unique hrow' (row_of_run hrun hrow) hid.symm
  · exact Or.inr hregistered

/-- Whoever was updated exists. -/
theorem updated_exists (hrun : Run (machine services) c τ c') {i : ℕ} {userId : JsString}
    {changes : ProfileChanges} {profile : Profile}
    (hmem : .returned i (.updateProfile userId changes) (some profile) ∈ τ) :
    ∃ row ∈ c'.store.accounts.users.rows, row.id = userId := by
  rcases hrun.answered_at hmem with ⟨τ₁, τ₂, c₁, c₂, -, -, hreturns, hafter⟩
  have hanswer := DrizzleProfileRepository.update_answer hreturns.2
  rcases Option.map_eq_some_iff.mp hanswer.symm with ⟨row, hfirst, -⟩
  rcases List.mem_filter.mp (List.mem_of_head? hfirst) with ⟨hrow, hrowid⟩
  rcases (run_later hafter).accounts.user row hrow with ⟨row', hrow', hsame⟩
  refine ⟨row', hrow', ?_⟩
  rw [← hsame]
  exact of_decide_eq_true hrowid

/-- Nothing was committed to an account that does not exist. -/
theorem commits_eq_nil (hrun : Run (machine services) c τ c') {userId : JsString}
    (h : ∀ row ∈ c'.store.accounts.users.rows, row.id ≠ userId) : commits τ userId = [] := by
  refine List.filterMap_eq_nil_iff.mpr fun e he => ?_
  cases e with
  | start i request => rfl
  | threw i call e => rfl
  | returned i call answer =>
    by_cases hcall : ∃ changes, call = .updateProfile userId changes
    · rcases hcall with ⟨changes, rfl⟩
      cases answer with
      | none => rfl
      | some profile =>
        rcases updated_exists hrun he with ⟨row, hrow, hid⟩
        exact absurd hid (h row hrow)
    · exact committed_eq_none fun changes heq => hcall ⟨changes, heq⟩

end XClone.Identity
