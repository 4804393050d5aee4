import XClone.Lib.ReadCommitted
import XClone.Identity.SessionStore

/-!
# XClone.Identity.Transactions — `rotate` and `revoke`, statement by statement

`DrizzleSessionRepository.rotate` and `revoke` as the statements they send, run
interleaved at READ COMMITTED, against the contract of the port: every interleaving
gives the results and the tables of a serial order of whole operations.
-/

namespace XClone.Identity

open Js Interleaving ReadCommitted SessionTables

/-! ## Statements -/

/-- What a statement can lock: a row, or an entry of a unique index. -/
inductive Resource where
  | sessionRow (id : JsString)
  | refreshTokenRow (id : JsString)
  | refreshTokenId (id : JsString)
  | refreshTokenHash (tokenHash : JsString)
deriving DecidableEq

/-- The statements of `rotate` and `revoke`. -/
inductive Statement where
  | selectLiveForShare (sessionId : JsString)
  | updateSpent (spentTokenId sessionId : JsString) (spentAt : Date)
  | insertRefreshToken (next : StoredRefreshToken)
  | updateRevoked (sessionId : JsString) (revokedAt : Date)

/-- The session tables under those statements. An insert also takes `FOR KEY SHARE` on
the session it refers to, which goes with every lock taken here. -/
def postgres : Engine SessionTables Resource Statement where
  locks
    | .selectLiveForShare sessionId => [.sessionRow sessionId]
    | .updateSpent spentTokenId _ _ => [.refreshTokenRow spentTokenId]
    | .insertRefreshToken next => [.refreshTokenId next.id, .refreshTokenHash next.tokenHash]
    | .updateRevoked sessionId _ => [.sessionRow sessionId]
  mode
    | .selectLiveForShare _ => .share
    | _ => .update
  found
    | .selectLiveForShare sessionId, t => !(t.sessions.rows.filter (isLive sessionId)).isEmpty
    | .updateSpent spentTokenId sessionId _, t =>
      !(t.refreshTokens.rows.filter (spends spentTokenId sessionId)).isEmpty
    | .insertRefreshToken next, t => (t.insertToken next).isSome
    | .updateRevoked sessionId _, t => !(t.sessions.rows.filter (isLive sessionId)).isEmpty
  reports
    | .insertRefreshToken _ => false
    | _ => true
  write
    | .selectLiveForShare _, t => t
    | .updateSpent spentTokenId sessionId spentAt, t => t.spend spentTokenId sessionId spentAt
    | .insertRefreshToken next, t => (t.insertToken next).getD t
    | .updateRevoked sessionId revokedAt, t =>
      DrizzleSessionRepository.revoke t sessionId revokedAt

/-- A call of the port. -/
inductive RepositoryCall where
  | rotate (spentTokenId : JsString) (next : StoredRefreshToken) (spentAt : Date)
  | revoke (sessionId : JsString) (revokedAt : Date)

inductive RepositoryAnswer where
  | rotated (answer : Bool)
  | revoked
deriving DecidableEq

namespace DrizzleSessionRepository

open Program

/-- The transaction of `rotate`. -/
def rotateStatements (spentTokenId : JsString) (next : StoredRefreshToken) (spentAt : Date) :
    Transaction Statement Failure Bool := do
  let live ← perform (Statement.selectLiveForShare next.sessionId)
  if !live then return false
  else
    let spent ← perform (Statement.updateSpent spentTokenId next.sessionId spentAt)
    if !spent then return false
    else
      let _ ← perform (Statement.insertRefreshToken next)
      return true

/-- The one statement of `revoke`. -/
def revokeStatements (sessionId : JsString) (revokedAt : Date) :
    Transaction Statement Failure Unit := do
  let _ ← perform (Statement.updateRevoked sessionId revokedAt)
  return ()

/-- The transaction of a call. -/
def statements : RepositoryCall → Transaction Statement Failure RepositoryAnswer
  | .rotate spentTokenId next spentAt =>
    RepositoryAnswer.rotated <$> rotateStatements spentTokenId next spentAt
  | .revoke sessionId revokedAt =>
    (fun _ => RepositoryAnswer.revoked) <$> revokeStatements sessionId revokedAt

end DrizzleSessionRepository

/-! ## The port -/

namespace SessionTables

/-- The token has not been spent and its session has not been revoked. -/
def Spendable (t : SessionTables) (tokenId : JsString) : Prop :=
  ∃ token ∈ t.refreshTokens.rows, token.id = tokenId ∧ token.spentAt = none ∧
    ∃ session ∈ t.sessions.rows, session.id = token.sessionId ∧ session.revokedAt = none

end SessionTables

/-- The contract of the port: `rotate` is atomic and answers false if the token was
already spent or its session revoked; `revoke` keeps the first revocation time. -/
inductive Contract (t : SessionTables) : RepositoryCall → RepositoryAnswer → SessionTables → Prop
    where
  | rotated {spentTokenId : JsString} {next : StoredRefreshToken} {spentAt : Date}
      {t' : SessionTables} :
      t.Spendable spentTokenId → t'.sessions = t.sessions →
      t'.refreshTokens.rows = next :: t.refreshTokens.rows.map (fun token =>
        if token.id = spentTokenId then { token with spentAt := some spentAt } else token) →
      Contract t (.rotate spentTokenId next spentAt) (.rotated true) t'
  | refused {spentTokenId : JsString} {next : StoredRefreshToken} {spentAt : Date} :
      ¬ t.Spendable spentTokenId →
      Contract t (.rotate spentTokenId next spentAt) (.rotated false) t
  | revoked {sessionId : JsString} {revokedAt : Date} {t' : SessionTables} :
      t'.refreshTokens = t.refreshTokens →
      t'.sessions.rows = t.sessions.rows.map (fun session =>
        if session.id = sessionId then
          { session with revokedAt := session.revokedAt.or (some revokedAt) }
        else session) →
      Contract t (.revoke sessionId revokedAt) .revoked t'

/-- The calls of `order`, one whole operation after the other, take `t₀` to a store,
each with its answer. -/
inductive InOrder {ι : Type} (calls : ι → RepositoryCall) (answer : ι → Option RepositoryAnswer)
    (t₀ : SessionTables) : List ι → SessionTables → Prop where
  | nil : InOrder calls answer t₀ [] t₀
  | snoc {order : List ι} {t t' : SessionTables} {i : ι} {a : RepositoryAnswer} :
      InOrder calls answer t₀ order t → answer i = some a → Contract t (calls i) a t' →
      InOrder calls answer t₀ (order ++ [i]) t'

/-! ## What the statements rely on -/

theorem notEmpty_filter {ρ : Type} {rows : List ρ} {matching : ρ → Bool} :
    (!(rows.filter matching).isEmpty) = true ↔ ∃ row ∈ rows, matching row = true := by
  rw [Bool.not_eq_true', List.isEmpty_eq_false_iff_exists_mem]
  simp only [List.mem_filter]

namespace SessionTables

theorem insertToken_isSome {t : SessionTables} {next : StoredRefreshToken} :
    (t.insertToken next).isSome = true ↔
      ¬ t.refreshTokens.Conflicts next ∧
        ∃ session ∈ t.sessions.rows, session.id = next.sessionId := by
  unfold insertToken
  split
  · -- the key is taken
    rename_i hinsert
    constructor
    · intro hno
      cases hno
    · rintro ⟨hfresh, -⟩
      simp [Relational.Table.insert, hfresh] at hinsert
  · rename_i refreshTokens hinsert
    have hfresh := (Relational.Table.insert_eq_some.mp hinsert).1
    split
    · rename_i hsession
      exact ⟨fun _ => ⟨hfresh, hsession⟩, fun _ => rfl⟩
    · rename_i hsession
      constructor
      · intro hno
        cases hno
      · exact fun h => absurd h.2 hsession

/-- An insert, or nothing. -/
theorem insertToken_getD (t : SessionTables) (next : StoredRefreshToken) :
    (t.insertToken next).getD t = t ∨
      (((t.insertToken next).getD t).sessions = t.sessions ∧
        ((t.insertToken next).getD t).refreshTokens.rows = next :: t.refreshTokens.rows) := by
  cases h : t.insertToken next with
  | none => exact Or.inl rfl
  | some t' =>
    rcases insertToken_spec h with ⟨-, hsessions, hrows⟩
    exact Or.inr ⟨hsessions, hrows⟩

/-- A taken key stays taken when tokens are spent, and a free one free. -/
theorem conflicts_spend {t : SessionTables} {spentTokenId sessionId : JsString} {spentAt : Date}
    {next : StoredRefreshToken} :
    (t.spend spentTokenId sessionId spentAt).refreshTokens.Conflicts next ↔
      t.refreshTokens.Conflicts next := by
  have hsame : ∀ column ∈ [StoredRefreshToken.id, StoredRefreshToken.tokenHash],
      (t.spend spentTokenId sessionId spentAt).refreshTokens.rows.map column =
        t.refreshTokens.rows.map column :=
    fun column hcolumn => Relational.Table.map_updateWhere (spentAt_keeps spentAt) hcolumn
  constructor
  · rintro ⟨column, hcolumn, hmem⟩
    exact ⟨column, hcolumn, hsame column hcolumn ▸ hmem⟩
  · rintro ⟨column, hcolumn, hmem⟩
    exact ⟨column, hcolumn, (hsame column hcolumn).symm ▸ hmem⟩

end SessionTables

/-! ### The locks protect what was found -/

/-- A live session stays live until its row is updated. -/
theorem live_write {t : SessionTables} {sessionId : JsString} {d : Statement}
    (hother : ∀ revokedAt, d ≠ .updateRevoked sessionId revokedAt)
    (h : ∃ row ∈ t.sessions.rows, isLive sessionId row = true) :
    ∃ row ∈ (postgres.write d t).sessions.rows, isLive sessionId row = true := by
  cases d with
  | selectLiveForShare | updateSpent => exact h
  | insertRefreshToken next =>
    rcases insertToken_getD t next with hsame | ⟨hsessions, -⟩
    · simpa only [postgres, hsame] using h
    · simpa only [postgres, hsessions] using h
  | updateRevoked revokedId revokedAt =>
    rcases h with ⟨row, hrow, hlive⟩
    have hid := (isLive_iff.mp hlive).1
    have hmiss : isLive revokedId row = false := by
      rw [Bool.eq_false_iff]
      intro hmatch
      apply hother revokedAt
      rw [← hid, (isLive_iff.mp hmatch).1]
    refine ⟨row, DrizzleSessionRepository.mem_revoke.mpr ⟨row, hrow, ?_⟩, hlive⟩
    simp [hmiss]

/-- An unspent token stays unspent until its row is updated. -/
theorem unspent_write {t : SessionTables} {tokenId sessionId : JsString} {d : Statement}
    (hother : ∀ ofSession spentAt, d ≠ .updateSpent tokenId ofSession spentAt)
    (h : ∃ row ∈ t.refreshTokens.rows, spends tokenId sessionId row = true) :
    ∃ row ∈ (postgres.write d t).refreshTokens.rows, spends tokenId sessionId row = true := by
  cases d with
  | selectLiveForShare | updateRevoked => exact h
  | insertRefreshToken next =>
    rcases h with ⟨row, hrow, hmatch⟩
    rcases insertToken_getD t next with hsame | ⟨-, hrows⟩
    · exact ⟨row, by simpa only [postgres, hsame] using hrow, hmatch⟩
    · refine ⟨row, ?_, hmatch⟩
      simp only [postgres, hrows]
      exact List.mem_cons_of_mem _ hrow
  | updateSpent spentId ofSession spentAt =>
    rcases h with ⟨row, hrow, hmatch⟩
    have hid := (spends_iff.mp hmatch).1
    have hmiss : spends spentId ofSession row = false := by
      rw [Bool.eq_false_iff]
      intro hspent
      apply hother ofSession spentAt
      rw [← hid, (spends_iff.mp hspent).1]
    refine ⟨row, mem_spend.mpr ⟨row, hrow, ?_⟩, hmatch⟩
    simp [hmiss]

/-- Spending a token neither takes nor frees an entry. -/
theorem free_spend {t : SessionTables} {spentTokenId sessionId : JsString} {spentAt : Date}
    {next : StoredRefreshToken} :
    ((t.spend spentTokenId sessionId spentAt).insertToken next).isSome =
      (t.insertToken next).isSome := by
  rw [Bool.eq_iff_iff, insertToken_isSome, insertToken_isSome, conflicts_spend]
  rfl

/-- The entries of `next` stay free until a token with one of them is inserted. -/
theorem free_write {t : SessionTables} {next : StoredRefreshToken} {d : Statement}
    (hother : ∀ token, d = .insertRefreshToken token →
      next.id ≠ token.id ∧ next.tokenHash ≠ token.tokenHash)
    (h : (t.insertToken next).isSome = true) :
    ((postgres.write d t).insertToken next).isSome = true := by
  rcases insertToken_isSome.mp h with ⟨hfree, session, hsession, hid⟩
  -- only an insert takes entries of the unique indexes
  cases d with
  | selectLiveForShare => exact h
  | updateSpent spentTokenId sessionId spentAt => exact free_spend.trans h
  | updateRevoked revokedId revokedAt =>
    refine insertToken_isSome.mpr ⟨hfree, _,
      DrizzleSessionRepository.mem_revoke.mpr ⟨session, hsession, rfl⟩, ?_⟩
    split <;> exact hid
  | insertRefreshToken token =>
    rcases hother token rfl with ⟨hidne, hhashne⟩
    rcases insertToken_getD t token with hsame | ⟨hsessions, hrows⟩
    · simpa only [postgres, hsame] using h
    · simp only [postgres, insertToken_isSome, hsessions]
      refine ⟨?_, session, hsession, hid⟩
      rintro ⟨column, hcolumn, hmem⟩
      rw [hrows, List.map_cons] at hmem
      rcases List.mem_cons.mp hmem with heq | hmem
      · -- the new row has neither entry
        simp only [List.mem_cons, List.not_mem_nil, or_false] at hcolumn
        rcases hcolumn with rfl | rfl
        · exact hidne heq
        · exact hhashne heq
      · exact hfree ⟨column, hcolumn, hmem⟩

/-- What a statement found stays there while statements with other locks write. -/
theorem postgres_framed : postgres.Framed := by
  intro c d t hfree hfound
  cases c with
  | selectLiveForShare sessionId =>
    refine notEmpty_filter.mpr (live_write ?_ (notEmpty_filter.mp hfound))
    rintro revokedAt rfl
    exact hfree ⟨⟨_, List.mem_singleton_self _, List.mem_singleton_self _⟩, rfl⟩
  | updateSpent tokenId sessionId spentAt =>
    refine notEmpty_filter.mpr (unspent_write ?_ (notEmpty_filter.mp hfound))
    rintro ofSession spentAt' rfl
    exact hfree ⟨⟨_, List.mem_singleton_self _, List.mem_singleton_self _⟩, rfl⟩
  | insertRefreshToken next =>
    refine free_write ?_ hfound
    rintro token rfl
    constructor
    · intro heq
      refine hfree ⟨⟨.refreshTokenId next.id, List.mem_cons_self, ?_⟩, rfl⟩
      rw [heq]
      exact List.mem_cons_self
    · intro heq
      refine hfree ⟨⟨.refreshTokenHash next.tokenHash, by simp [postgres], ?_⟩, rfl⟩
      rw [heq]
      simp [postgres]
  | updateRevoked sessionId revokedAt =>
    refine notEmpty_filter.mpr (live_write ?_ (notEmpty_filter.mp hfound))
    rintro revokedAt' rfl
    exact hfree ⟨⟨_, List.mem_singleton_self _, List.mem_singleton_self _⟩, rfl⟩

/-! ### The transactions check before they write -/

/-- `rotate` has written nothing when one of its two checks fails, and inserts what its
own `UPDATE` cannot have taken. -/
theorem statements_guarded (call : RepositoryCall) :
    postgres.Guarded [] (DrizzleSessionRepository.statements call) := by
  cases call with
  | rotate spentTokenId next spentAt =>
    refine ⟨fun _ h => (nomatch h), fun _ => ⟨fun _ h => (nomatch h), _, rfl⟩, ?_, ?_, ?_, ?_, trivial⟩
    · -- the UPDATE after the locking read
      intro d hd t
      rw [List.mem_singleton.mp hd]
      rfl
    · intro _
      refine ⟨?_, _, rfl⟩
      intro d hd t
      rw [List.mem_singleton.mp hd]
      rfl
    · -- the INSERT after both
      intro d hd t
      rcases List.mem_cons.mp hd with rfl | hd
      · rfl
      · rw [List.mem_singleton.mp hd]
        exact free_spend
    · intro hno
      cases hno
  | revoke sessionId revokedAt =>
    exact ⟨fun _ h => (nomatch h), fun _ => ⟨fun _ h => (nomatch h), _, rfl⟩, trivial⟩

/-! ### Whole transactions -/

/-- The atomic operation of the repository. -/
def Atomic (t : SessionTables) : RepositoryCall → RepositoryAnswer → SessionTables → Prop
  | .rotate spentTokenId next spentAt, .rotated answer, t' =>
    DrizzleSessionRepository.rotate t spentTokenId next spentAt = some (answer, t')
  | .revoke sessionId revokedAt, .revoked, t' =>
    t' = DrizzleSessionRepository.revoke t sessionId revokedAt
  | _, _, _ => False

/-- Alone, the statements of `rotate` are its two checks and its two writes. -/
theorem alone_rotate (t : SessionTables) (spentTokenId : JsString) (next : StoredRefreshToken)
    (spentAt : Date) :
    postgres.alone (DrizzleSessionRepository.statements (.rotate spentTokenId next spentAt)) t =
      if !(t.sessions.rows.filter (isLive next.sessionId)).isEmpty then
        if !(t.refreshTokens.rows.filter (spends spentTokenId next.sessionId)).isEmpty then
          ((t.spend spentTokenId next.sessionId spentAt).insertToken next).map fun t' =>
            (RepositoryAnswer.rotated true, t')
        else some (RepositoryAnswer.rotated false, t)
      else some (RepositoryAnswer.rotated false, t) := by
  have hunfold : postgres.alone
      (DrizzleSessionRepository.statements (.rotate spentTokenId next spentAt)) t =
      if !(t.sessions.rows.filter (isLive next.sessionId)).isEmpty then
        if !(t.refreshTokens.rows.filter (spends spentTokenId next.sessionId)).isEmpty then
          if ((t.spend spentTokenId next.sessionId spentAt).insertToken next).isSome then
            some (RepositoryAnswer.rotated true,
              ((t.spend spentTokenId next.sessionId spentAt).insertToken next).getD
                (t.spend spentTokenId next.sessionId spentAt))
          else none
        else some (RepositoryAnswer.rotated false, t)
      else some (RepositoryAnswer.rotated false, t) := rfl
  rw [hunfold]
  cases (t.spend spentTokenId next.sessionId spentAt).insertToken next with
  | none => rfl
  | some t' => rfl

/-- Alone, the statements are the atomic operation. -/
theorem alone_atomic {call : RepositoryCall} {answer : RepositoryAnswer} {t t' : SessionTables}
    (h : postgres.alone (DrizzleSessionRepository.statements call) t = some (answer, t')) :
    Atomic t call answer t' := by
  cases call with
  | rotate spentTokenId next spentAt =>
    -- the two checks of the statements are the two of the operation
    rw [alone_rotate] at h
    split at h
    · rename_i hlive
      split at h
      · -- both checks hold
        rename_i hspent
        rcases Option.map_eq_some_iff.mp h with ⟨t'', hinsert, heq⟩
        cases heq
        simp only [Bool.not_eq_true'] at hlive hspent
        simp [Atomic, DrizzleSessionRepository.rotate, hlive, hspent, hinsert]
      · rename_i hspent
        cases h
        simp only [Bool.not_eq_true', Bool.not_eq_false] at hlive hspent
        simp [Atomic, DrizzleSessionRepository.rotate, hlive, hspent]
    · rename_i hlive
      cases h
      simp only [Bool.not_eq_true', Bool.not_eq_false] at hlive
      simp [Atomic, DrizzleSessionRepository.rotate, hlive]
  | revoke sessionId revokedAt =>
    have hunfold : postgres.alone
        (DrizzleSessionRepository.statements (.revoke sessionId revokedAt)) t =
        if !(t.sessions.rows.filter (isLive sessionId)).isEmpty then
          some (RepositoryAnswer.revoked, DrizzleSessionRepository.revoke t sessionId revokedAt)
        else some (RepositoryAnswer.revoked, t) := rfl
    rw [hunfold] at h
    split at h
    · cases h
      rfl
    · -- no live session: revoking changes no row
      rename_i hlive
      cases h
      rw [notEmpty_filter] at hlive
      refine SessionTables.ext ?_ rfl
      refine (congrArg _ (Relational.Table.updateWhere_eq_self (revokedAt_keeps revokedAt) ?_)).symm
      intro row hrow
      rw [Bool.eq_false_iff]
      intro hmatch
      exact hlive ⟨row, hrow, hmatch⟩

/-! ## The port's contract -/

/-- Every token comes from the tables at the start or from a call. -/
def Origin {ι : Type} (calls : ι → RepositoryCall) (t₀ : SessionTables)
    (token : StoredRefreshToken) : Prop :=
  token ∈ t₀.refreshTokens.rows ∨
    ∃ i spentTokenId spentAt, calls i = .rotate spentTokenId token spentAt

/-- Every call that rotates names the session of the token it spends. -/
def SessionsMatch {ι : Type} (calls : ι → RepositoryCall) (t₀ : SessionTables) : Prop :=
  ∀ i spentTokenId next spentAt, calls i = .rotate spentTokenId next spentAt →
    ∀ token, Origin calls t₀ token → token.id = spentTokenId → token.sessionId = next.sessionId

theorem spendable_iff {t : SessionTables} {spentTokenId sessionId : JsString}
    (hsession : ∀ token ∈ t.refreshTokens.rows, token.id = spentTokenId →
      token.sessionId = sessionId) :
    t.Spendable spentTokenId ↔
      (∃ session ∈ t.sessions.rows, session.id = sessionId ∧ session.revokedAt = none) ∧
      (∃ token ∈ t.refreshTokens.rows,
        token.id = spentTokenId ∧ token.sessionId = sessionId ∧ token.spentAt = none) := by
  constructor
  · rintro ⟨token, htoken, hid, hunspent, session, hmem, hof, hlive⟩
    have hsame := hsession token htoken hid
    exact ⟨⟨session, hmem, hof.trans hsame, hlive⟩, token, htoken, hid, hsame, hunspent⟩
  · rintro ⟨⟨session, hmem, hof, hlive⟩, token, htoken, hid, hsame, hunspent⟩
    exact ⟨token, htoken, hid, hunspent, session, hmem, hof.trans hsame.symm, hlive⟩

/-- The atomic operations keep the contract of the port. -/
theorem Atomic.contract {call : RepositoryCall} {answer : RepositoryAnswer} {t t' : SessionTables}
    (h : Atomic t call answer t')
    (hsession : ∀ spentTokenId next spentAt, call = .rotate spentTokenId next spentAt →
      ∀ token ∈ t.refreshTokens.rows, token.id = spentTokenId →
        token.sessionId = next.sessionId) :
    Contract t call answer t' := by
  cases call with
  | rotate spentTokenId next spentAt =>
    have hsame := hsession spentTokenId next spentAt rfl
    cases answer with
    | revoked => exact h.elim
    | rotated answer =>
      rcases DrizzleSessionRepository.rotate_cases h with ⟨rfl, hrotated⟩ | ⟨rfl, rfl, hrefuses⟩
      · -- spent and inserted
        refine .rotated ((spendable_iff hsame).mpr ⟨hrotated.live, hrotated.unspent⟩)
          hrotated.sessions ?_
        -- the update matches the one row with that id
        rw [hrotated.tokens]
        refine congrArg _ (List.map_congr_left fun token htoken => ?_)
        rcases hrotated.unspent with ⟨spent, hspent, hid, hof, hunspent⟩
        by_cases hmatch : token.id = spentTokenId
        · obtain rfl := t.token_unique htoken hspent (hmatch.trans hid.symm)
          rw [if_pos hmatch, if_pos (spends_iff.mpr ⟨hmatch, hof, hunspent⟩)]
        · rw [if_neg hmatch, if_neg fun hspends => hmatch (spends_iff.mp hspends).1]
      · -- refused
        refine .refused ?_
        rw [spendable_iff hsame]
        rintro ⟨⟨session, hmem, hid, hlive⟩, token, htoken, hidt, hof, hunspent⟩
        rcases hrefuses with hrevoked | hspent
        · exact hrevoked session hmem hid hlive
        · exact hspent token htoken hidt hof hunspent
  | revoke sessionId revokedAt =>
    cases answer with
    | rotated answer => exact h.elim
    | revoked =>
      obtain rfl : t' = DrizzleSessionRepository.revoke t sessionId revokedAt := h
      refine .revoked rfl (List.map_congr_left fun session _ => ?_)
      by_cases hid : session.id = sessionId
      · cases hrevoked : session.revokedAt with
        | none =>
          rw [if_pos hid, if_pos (isLive_iff.mpr ⟨hid, hrevoked⟩)]
          rfl
        | some first =>
          -- the first revocation time stays
          have hmiss : ¬ isLive sessionId session = true := by
            intro hlive
            rw [(isLive_iff.mp hlive).2] at hrevoked
            cases hrevoked
          rw [if_pos hid, if_neg hmiss]
          cases session
          cases hrevoked
          rfl
      · rw [if_neg hid, if_neg fun hlive => hid (isLive_iff.mp hlive).1]

theorem Atomic.later {call : RepositoryCall} {answer : RepositoryAnswer} {t t' : SessionTables}
    (h : Atomic t call answer t') : Later t t' := by
  cases call with
  | rotate spentTokenId next spentAt =>
    cases answer with
    | revoked => exact h.elim
    | rotated answer => exact DrizzleSessionRepository.rotate_later h
  | revoke sessionId revokedAt =>
    cases answer with
    | rotated answer => exact h.elim
    | revoked =>
      obtain rfl : t' = DrizzleSessionRepository.revoke t sessionId revokedAt := h
      exact DrizzleSessionRepository.revoke_later t sessionId revokedAt

/-- A token after an operation was there before it, or is the one a rotation of its
session inserted. -/
theorem Atomic.token {call : RepositoryCall} {answer : RepositoryAnswer} {t t' : SessionTables}
    (h : Atomic t call answer t') {token : StoredRefreshToken}
    (htoken : token ∈ t'.refreshTokens.rows) :
    (∃ old ∈ t.refreshTokens.rows, old.id = token.id ∧ old.sessionId = token.sessionId) ∨
    (∃ spentTokenId spentAt, call = .rotate spentTokenId token spentAt ∧
      ¬ t.Revoked token.sessionId) := by
  cases call with
  | rotate spentTokenId next spentAt =>
    cases answer with
    | revoked => exact h.elim
    | rotated answer =>
      rcases DrizzleSessionRepository.rotate_cases h with ⟨-, hrotated⟩ | ⟨-, rfl, -⟩
      · rw [hrotated.tokens] at htoken
        rcases List.mem_cons.mp htoken with rfl | hspent
        · exact Or.inr ⟨spentTokenId, spentAt, rfl, hrotated.not_revoked⟩
        · rcases mem_spend.mp hspent with ⟨old, hold, rfl⟩
          refine Or.inl ⟨old, hold, ?_⟩
          split <;> exact ⟨rfl, rfl⟩
      · exact Or.inl ⟨token, htoken, rfl, rfl⟩
  | revoke sessionId revokedAt =>
    cases answer with
    | rotated answer => exact h.elim
    | revoked =>
      obtain rfl : t' = DrizzleSessionRepository.revoke t sessionId revokedAt := h
      exact Or.inl ⟨token, htoken, rfl, rfl⟩

/-! ## Refinement -/

section Refinement

variable {ι : Type} {calls : ι → RepositoryCall} {answer : ι → Option RepositoryAnswer}
  {t₀ t : SessionTables} {order : List ι}

/-- A serial order of the transactions is one of the port's operations. -/
theorem serial_inOrder (hmatch : SessionsMatch calls t₀)
    (h : Serial postgres (fun i => DrizzleSessionRepository.statements (calls i)) answer
      (fun _ => False) t₀ order t) :
    InOrder calls answer t₀ order t ∧
      ∀ token ∈ t.refreshTokens.rows, ∃ origin, Origin calls t₀ origin ∧
        origin.id = token.id ∧ origin.sessionId = token.sessionId := by
  induction h with
  | nil => exact ⟨.nil, fun token htoken => ⟨token, Or.inl htoken, rfl, rfl⟩⟩
  | @snoc order t t' i a _ hanswer halone _ ih =>
    rcases ih with ⟨hin, horigin⟩
    have hatomic := alone_atomic halone
    constructor
    -- the token it spends has an origin, which fixes its session
    · refine hin.snoc hanswer (hatomic.contract ?_)
      intro spentTokenId next spentAt hcall token htoken hid
      rcases horigin token htoken with ⟨origin, ho, hoid, hof⟩
      rw [← hof]
      exact hmatch i spentTokenId next spentAt hcall origin ho (hoid.trans hid)
    · intro token htoken
      rcases hatomic.token htoken with ⟨old, hold, hid, hof⟩ | ⟨spentTokenId, spentAt, hcall, -⟩
      · rcases horigin old hold with ⟨origin, ho, hoid, hof'⟩
        exact ⟨origin, ho, hoid.trans hid, hof'.trans hof⟩
      · exact ⟨token, Or.inr ⟨i, spentTokenId, spentAt, hcall⟩, rfl, rfl⟩

/-- In a serial order no two rotations that went through spent one token. -/
theorem serial_spends_once
    (h : Serial postgres (fun i => DrizzleSessionRepository.statements (calls i)) answer
      (fun _ => False) t₀ order t) :
    (∀ i ∈ order, ∀ spentTokenId next spentAt, calls i = .rotate spentTokenId next spentAt →
      answer i = some (.rotated true) → t.Spent spentTokenId) ∧
    (∀ i ∈ order, ∀ j ∈ order, ∀ spentTokenId next spentAt next' spentAt',
      calls i = .rotate spentTokenId next spentAt → calls j = .rotate spentTokenId next' spentAt' →
      answer i = some (.rotated true) → answer j = some (.rotated true) → i = j) := by
  induction h with
  | nil => exact ⟨fun _ h => (nomatch h), fun _ h => (nomatch h)⟩
  | @snoc order t t' k a _ hanswer halone _ ih =>
    rcases ih with ⟨hspent, honce⟩
    have hatomic := alone_atomic halone
    -- what the last operation spent was unspent before it
    have hlast : ∀ spentTokenId next spentAt, calls k = .rotate spentTokenId next spentAt →
        answer k = some (.rotated true) → ¬ t.Spent spentTokenId ∧ t'.Spent spentTokenId := by
      intro spentTokenId next spentAt hcall htrue
      rw [hanswer] at htrue
      cases htrue
      rw [hcall] at hatomic
      rcases DrizzleSessionRepository.rotate_cases hatomic with ⟨-, hrotated⟩ | ⟨hno, -⟩
      · exact ⟨hrotated.not_spent, hrotated.spent⟩
      · cases hno
    constructor
    -- a spent token stays spent
    · intro i hi spentTokenId next spentAt hcall htrue
      rcases List.mem_append.mp hi with hi | hi
      · exact hatomic.later.spent (hspent i hi spentTokenId next spentAt hcall htrue)
      · obtain rfl := List.mem_singleton.mp hi
        exact (hlast spentTokenId next spentAt hcall htrue).2
    -- so the last operation spent none of the tokens spent before
    · intro i hi j hj spentTokenId next spentAt next' spentAt' hcall hcall' htrue htrue'
      rcases List.mem_append.mp hi with hold | hlast_i
      · rcases List.mem_append.mp hj with hold' | hlast_j
        · exact honce i hold j hold' spentTokenId next spentAt next' spentAt' hcall hcall' htrue
            htrue'
        · rw [List.mem_singleton.mp hlast_j] at hcall' htrue'
          exact absurd (hspent i hold spentTokenId next spentAt hcall htrue)
            (hlast spentTokenId next' spentAt' hcall' htrue').1
      · rcases List.mem_append.mp hj with hold' | hlast_j
        · rw [List.mem_singleton.mp hlast_i] at hcall htrue
          exact absurd (hspent j hold' spentTokenId next' spentAt' hcall' htrue')
            (hlast spentTokenId next spentAt hcall htrue).1
        · rw [List.mem_singleton.mp hlast_i, List.mem_singleton.mp hlast_j]

variable [DecidableEq ι]

/-- A revoked session gains no token, however the statements interleave. -/
theorem revoked_gains_no_token {c c' : ReadCommitted.Config ι SessionTables Statement Failure RepositoryAnswer}
    {order : List ι}
    (h : Explained postgres (fun i => DrizzleSessionRepository.statements (calls i)) t₀ c order)
    (hsteps : Steps postgres c c') {sessionId : JsString}
    (hrevoked : c.committed.Revoked sessionId) :
    c'.committed.Revoked sessionId ∧
    ∀ token ∈ c'.committed.refreshTokens.rows, token.sessionId = sessionId →
      ∃ old ∈ c.committed.refreshTokens.rows, old.id = token.id := by
  have hguarded := fun i => statements_guarded (calls i)
  induction hsteps with
  | refl => exact ⟨hrevoked, fun token htoken _ => ⟨token, htoken, rfl⟩⟩
  | @tail c₁ c₂ hsteps hstep ih =>
    rcases ih with ⟨hstill, htokens⟩
    rcases h.steps postgres_framed hguarded hsteps with ⟨order₁, h₁⟩
    rcases h₁.step_committed hguarded hstep with hsame | ⟨i, a, halone⟩
    · rw [hsame]
      exact ⟨hstill, htokens⟩
    · have hatomic := alone_atomic halone
      refine ⟨hatomic.later.revoked hstill, ?_⟩
      intro token htoken hof
      rcases hatomic.token htoken with ⟨old, hold, hid, hof'⟩ | ⟨_, _, _, hlive⟩
      · rcases htokens old hold (hof'.trans hof) with ⟨first, hfirst, hid'⟩
        exact ⟨first, hfirst, hid'.trans hid⟩
      · rw [hof] at hlive
        exact absurd hstill hlive

/-- Every interleaving of the statements of any calls gives the answers and the tables
of a serial order of the port's operations. No token is spent by two rotations, and no
token is added to a session once its revocation is committed. -/
theorem statements_refine_the_port (hmatch : SessionsMatch calls t₀)
    {c : ReadCommitted.Config ι SessionTables Statement Failure RepositoryAnswer}
    (hsteps : Steps postgres
      (.initial (fun i => DrizzleSessionRepository.statements (calls i)) t₀) c) :
    (∃ order : List ι, order.Nodup ∧ (∀ i, i ∈ order ↔ c.Returned i) ∧
      InOrder calls c.result t₀ order c.committed) ∧
    (∀ i j spentTokenId next spentAt next' spentAt', c.Returned i → c.Returned j →
      calls i = .rotate spentTokenId next spentAt → calls j = .rotate spentTokenId next' spentAt' →
      c.result i = some (.rotated true) → c.result j = some (.rotated true) → i = j) ∧
    (∀ c', Steps postgres c c' → ∀ sessionId, c.committed.Revoked sessionId →
      ∀ token ∈ c'.committed.refreshTokens.rows, token.sessionId = sessionId →
        ∃ old ∈ c.committed.refreshTokens.rows, old.id = token.id) := by
  have hguarded := fun i => statements_guarded (calls i)
  rcases serializable postgres_framed hguarded hsteps with ⟨order, hnodup, hreturned, hserial⟩
  refine ⟨⟨order, hnodup, hreturned, (serial_inOrder hmatch hserial).1⟩, ?_, ?_⟩
  · intro i j spentTokenId next spentAt next' spentAt' hi hj hcall hcall' htrue htrue'
    exact (serial_spends_once hserial).2 i ((hreturned i).mpr hi) j ((hreturned j).mpr hj)
      spentTokenId next spentAt next' spentAt' hcall hcall' htrue htrue'
  · intro c' hsteps' sessionId hrevoked
    rcases (explained_initial _ t₀).steps postgres_framed hguarded hsteps with ⟨_, hexplained⟩
    exact (revoked_gains_no_token hexplained hsteps' hrevoked).2

end Refinement

/-! ## Two rotations of one token and a revocation -/

/-- Token `id` of session 9. -/
def sampleRefreshRow (id tokenHash : JsString) : StoredRefreshToken :=
  ⟨id, js "9", tokenHash, none, 1767225600123⟩

/-- Session 9 with token 10. -/
def sampleTables : SessionTables :=
  (DrizzleSessionRepository.create .empty
    ⟨js "9", js "7", 1769817600123, none, none, 1767225600123⟩
    (sampleRefreshRow (js "10") (js "hash-10"))).getD .empty

def sampleCalls : Fin 3 → RepositoryCall
  | 0 => .rotate (js "10") (sampleRefreshRow (js "11") (js "hash-11")) 1767225600456
  | 1 => .rotate (js "10") (sampleRefreshRow (js "12") (js "hash-12")) 1767225600457
  | 2 => .revoke (js "9") 1767225600458

def sampleOpen : ReadCommitted.Config (Fin 3) SessionTables Statement Failure RepositoryAnswer :=
  .initial (fun i => DrizzleSessionRepository.statements (sampleCalls i)) sampleTables

/-- Both rotations find the token unspent; the second and the revocation wait for the
first. -/
def sampleOverlap : List (ReadCommitted.Move (Fin 3)) :=
  [.statement 0, .statement 0, .statement 1, .statement 1, .statement 0, .statement 1,
    .statement 0, .statement 2, .statement 0, .commit 0, .statement 1, .commit 1, .statement 2,
    .commit 2]

theorem sampleOverlap_runs : (schedule postgres sampleOpen sampleOverlap).isSome = true := by
  decide +kernel

/-- Where the schedule ends. -/
def sampleClosed : ReadCommitted.Config (Fin 3) SessionTables Statement Failure RepositoryAnswer :=
  (schedule postgres sampleOpen sampleOverlap).get sampleOverlap_runs

theorem sampleCalls_sessions : SessionsMatch sampleCalls sampleTables := by
  have hnext : ∀ i spentTokenId next spentAt,
      sampleCalls i = .rotate spentTokenId next spentAt → next.sessionId = js "9" := by
    intro i spentTokenId next spentAt hcall
    match i with
    | 0 | 1 =>
      cases hcall
      rfl
    | 2 => cases hcall
  intro i spentTokenId next spentAt hcall token horigin _
  rw [hnext i spentTokenId next spentAt hcall]
  rcases horigin with htoken | ⟨j, spentTokenId', spentAt', hcall'⟩
  · have hrows : sampleTables.refreshTokens.rows = [sampleRefreshRow (js "10") (js "hash-10")] := by
      decide +kernel
    rw [hrows] at htoken
    rw [List.mem_singleton.mp htoken]
    rfl
  · exact hnext j spentTokenId' token spentAt' hcall'

/-- The first rotation wins, the second is refused, and the session ends revoked. -/
theorem sample_overlap_is_serial :
    (sampleClosed.result 0 = some (.rotated true) ∧ sampleClosed.result 1 = some (.rotated false) ∧
      sampleClosed.Returned 0 ∧ sampleClosed.Returned 1 ∧ sampleClosed.Returned 2) ∧
    ∃ order : List (Fin 3), order.Nodup ∧ (∀ i, i ∈ order ↔ sampleClosed.Returned i) ∧
      InOrder sampleCalls sampleClosed.result sampleTables order sampleClosed.committed := by
  have hsteps : Steps postgres sampleOpen sampleClosed :=
    schedule_steps (Option.some_get sampleOverlap_runs).symm
  refine ⟨⟨?_, ?_, ?_, ?_, ?_⟩, (statements_refine_the_port sampleCalls_sessions hsteps).1⟩
  · decide +kernel
  · decide +kernel
  · unfold ReadCommitted.Config.Returned
    decide +kernel
  · unfold ReadCommitted.Config.Returned
    decide +kernel
  · unfold ReadCommitted.Config.Returned
    decide +kernel

end XClone.Identity
