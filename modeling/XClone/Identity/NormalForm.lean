import XClone.Identity.Executions
import XClone.Identity.Scheduler

/-!
# XClone.Identity.NormalForm — stored profiles are in normal form

Both normalisers are idempotent: what they accept is trimmed, and trimming trims no
further; a bio they accept has no carriage return, since that is a control character, so
there is nothing to fold. A registration writes the handle as the display name without
normalising it, but a valid handle is in normal form. So every row of every run from an
empty table is (`stored_profiles_in_normal_form`).
-/

namespace XClone.Identity

open Js Interleaving

/-! ## Idempotence -/

theorem normalizeDisplayName_ok {value normal : JsString}
    (h : normalizeDisplayName value = .ok normal) :
    normal = trim value ∧ normal ≠ [] ∧ hasControlCharacters normal false = false ∧
      normal.any isInvisible = false ∧ countCharacters normal ≤ displayNameMax := by
  unfold normalizeDisplayName at h
  dsimp only at h
  split at h
  · cases h
  rename_i hempty
  split at h
  · cases h
  rename_i hcontrol
  split at h
  · cases h
  rename_i hinvisible
  split at h
  · cases h
  rename_i hlong
  cases h
  exact ⟨rfl, hempty, Bool.eq_false_iff.mpr hcontrol, Bool.eq_false_iff.mpr hinvisible,
    Nat.le_of_not_lt hlong⟩

/-- What the display name normaliser accepts it accepts again, unchanged. -/
theorem normalizeDisplayName_idempotent {value normal : JsString}
    (h : normalizeDisplayName value = .ok normal) : normalizeDisplayName normal = .ok normal := by
  obtain ⟨rfl, -⟩ := normalizeDisplayName_ok h
  unfold normalizeDisplayName at h ⊢
  rw [trim_trim]
  exact h

theorem normalizeBio_ok {value normal : JsString} (h : normalizeBio value = .ok normal) :
    normal = trim (foldCrLf value) ∧ hasControlCharacters normal true = false ∧
      countCharacters normal ≤ bioMax := by
  unfold normalizeBio at h
  dsimp only at h
  split at h
  · cases h
  rename_i hcontrol
  split at h
  · cases h
  rename_i hlong
  cases h
  exact ⟨rfl, Bool.eq_false_iff.mpr hcontrol, Nat.le_of_not_lt hlong⟩

/-- A carriage return is a control character. -/
theorem carriage_return_notMem {value : JsString}
    (h : hasControlCharacters value true = false) : 13 ∉ value := by
  intro hmem
  have hcode := mem_codePoints hmem (by decide)
  have hallowed := List.any_eq_false.mp h _ hcode
  exact hallowed (by decide)

/-- So is what the bio normaliser accepts. -/
theorem normalizeBio_idempotent {value normal : JsString} (h : normalizeBio value = .ok normal) :
    normalizeBio normal = .ok normal := by
  rcases normalizeBio_ok h with ⟨rfl, hcontrol, -⟩
  have hfold := foldCrLf_eq_self (carriage_return_notMem hcontrol)
  unfold normalizeBio at h ⊢
  rw [hfold, trim_trim]
  exact h

/-! ## Handles -/

/-- Letters, digits and the underscore are visible ASCII. -/
theorem handle_unit {u : UInt16} (h : (isLetter u || isDigit u || u == 95) = true) :
    0x30 ≤ u.toNat ∧ u.toNat ≤ 0x7A := by
  simp only [isLetter, isDigit, Bool.or_eq_true, Bool.and_eq_true, decide_eq_true_eq, beq_iff_eq,
    UInt16.le_iff_toNat_le] at h
  rcases h with ((h | h) | h) | rfl
  · change 65 ≤ u.toNat ∧ u.toNat ≤ 90 at h
    omega
  · change 97 ≤ u.toNat ∧ u.toNat ≤ 122 at h
    omega
  · change 48 ≤ u.toNat ∧ u.toNat ≤ 57 at h
    omega
  · decide

theorem isWhiteSpace_of_visible {u : UInt16} (h : 0x30 ≤ u.toNat ∧ u.toNat ≤ 0x7A) :
    isWhiteSpace u = false := by
  rw [Bool.eq_false_iff]
  intro hspace
  simp [isWhiteSpace, UInt16.le_iff_toNat_le, ← UInt16.toNat_inj] at hspace
  omega

theorem isInvisible_of_visible {u : UInt16} (h : 0x30 ≤ u.toNat ∧ u.toNat ≤ 0x7A) :
    isInvisible u = false := by
  rw [Bool.eq_false_iff]
  intro hinvisible
  simp [isInvisible, UInt16.le_iff_toNat_le, ← UInt16.toNat_inj] at hinvisible
  omega

theorem handlePattern_spec {handle : JsString} (h : handlePattern handle = true) :
    (∀ u ∈ handle, 0x30 ≤ u.toNat ∧ u.toNat ≤ 0x7A) ∧ 3 ≤ handle.length ∧
      handle.length ≤ 20 := by
  simp only [handlePattern, Bool.and_eq_true, decide_eq_true_eq, List.all_eq_true] at h
  exact ⟨fun u hu => handle_unit (h.1.1 u hu), h.1.2, h.2⟩

theorem handlePattern_of_valid {handle : JsString} (h : assertValidHandle handle = .ok ()) :
    handlePattern handle = true := by
  unfold assertValidHandle at h
  split at h
  · assumption
  · cases h

/-- A valid handle is a display name in normal form. -/
theorem normalizeDisplayName_handle {handle : JsString} (h : handlePattern handle = true) :
    normalizeDisplayName handle = .ok handle := by
  rcases handlePattern_spec h with ⟨hunits, hmin, hmax⟩
  have htrim : trim handle = handle := by
    refine trim_eq_self ?_ ?_
    · intro u hu
      exact isWhiteSpace_of_visible (hunits u (List.mem_of_head? hu))
    · intro u hu
      exact isWhiteSpace_of_visible (hunits u (List.mem_of_getLast? hu))
  have hascii : IsAscii handle := by
    intro u hu
    rw [UInt16.lt_iff_toNat_lt]
    exact Nat.lt_of_le_of_lt (hunits u hu).2 (by decide)
  have hnonempty : handle ≠ [] := by
    rintro rfl
    cases hmin
  have hcontrol : hasControlCharacters handle false = false := by
    unfold hasControlCharacters
    rw [codePoints_of_ascii hascii, List.any_eq_false]
    intro code hcode
    rcases List.mem_map.mp hcode with ⟨u, hu, rfl⟩
    have hrange := hunits u hu
    simp
    omega
  have hvisible : handle.any isInvisible = false :=
    List.any_eq_false.mpr fun u hu => by simp [isInvisible_of_visible (hunits u hu)]
  have hlength : ¬ displayNameMax < countCharacters handle := by
    have hle := length_codePoints_le handle
    unfold displayNameMax countCharacters
    omega
  -- none of the four checks of `normalizeDisplayName` fails
  unfold normalizeDisplayName
  dsimp only
  rw [htrim, if_neg hnonempty, if_neg (by simp [hcontrol]), if_neg (by simp [hvisible]),
    if_neg hlength]

/-! ## Rows -/

/-- A row that the checks accept as it is. -/
structure InNormalForm (row : UserRow) : Prop where
  handle : handlePattern row.handle = true
  displayName : normalizeDisplayName row.displayName = .ok row.displayName
  bio : normalizeBio row.bio = .ok row.bio

/-- A registration makes such a row. -/
theorem inNormalForm_userRow {user : User} (h : assertValidHandle user.handle = .ok ())
    (hname : user.displayName = user.handle) :
    InNormalForm (DrizzleUserRepository.userRow user) := by
  have hhandle := handlePattern_of_valid h
  refine ⟨hhandle, ?_, rfl⟩
  show normalizeDisplayName user.displayName = .ok user.displayName
  rw [hname]
  exact normalizeDisplayName_handle hhandle

/-- A normalised field is in normal form. -/
theorem normalizeField_idempotent {normalize : JsString → Except Failure JsString}
    (hidempotent : ∀ {value normal}, normalize value = .ok normal → normalize normal = .ok normal)
    {value : Option JsString} {normal : JsString}
    (h : normalizeField normalize value = .ok (some normal)) : normalize normal = .ok normal := by
  cases value with
  | none => cases h
  | some given =>
    cases hgiven : normalize given with
    | ok result =>
      simp only [normalizeField, hgiven, Except.map] at h
      cases h
      exact hidempotent hgiven
    | error e => simp [normalizeField, hgiven, Except.map] at h

/-- An update keeps it so. -/
theorem inNormalForm_patched {input : UpdateProfileInput} {changes : ProfileChanges}
    (hchanges : Normalises input changes) {row : UserRow} (h : InNormalForm row) :
    InNormalForm (DrizzleProfileRepository.patched changes row) := by
  rcases changes with ⟨displayName, bio⟩
  refine ⟨h.handle, ?_, ?_⟩
  · cases displayName with
    | none => exact h.displayName
    | some value =>
      exact normalizeField_idempotent normalizeDisplayName_idempotent hchanges.displayName
  · cases bio with
    | none => exact h.bio
    | some value => exact normalizeField_idempotent normalizeBio_idempotent hchanges.bio

/-! ## Runs -/

variable {services : Services} {τ : List IdentityEvent} {c c' : IdentityConfig services}

/-- Every step keeps the rows in normal form. -/
theorem inNormalForm_step (hrun : Run (machine services) (.initial (.blank services.lower)) τ c)
    (h : ∀ row ∈ c.store.accounts.users.rows, InNormalForm row) {e : IdentityEvent}
    (hstep : Step (machine services) c e c') :
    ∀ row ∈ c'.store.accounts.users.rows, InNormalForm row := by
  cases hstep with
  | start i request hnone => exact h
  | threw hthread hthrows => exact h
  | @returned i request call next answer s hthread hreturns =>
    rcases hrun.did hthread with ⟨events, hdid⟩
    have hpath : Path i (execute services.toSettings request) events (.call call next) :=
      hdid.went.calling
    show ∀ row ∈ s.accounts.users.rows, _
    cases wroteAccounts hreturns with
    | nothing _ hsame =>
      rw [hsame]
      exact h
    | created user passwordHash hcreate =>
      -- only a registration creates, and its handle was normalised first
      rcases execute_creates hpath with ⟨input, rfl⟩
      rcases register_creates hpath with ⟨id, createdAt, -, hhandle, rfl⟩
      rw [(DrizzleUserRepository.create_spec hcreate).2.1]
      intro row hrow
      rcases List.mem_cons.mp hrow with rfl | hrow
      · exact inNormalForm_userRow hhandle rfl
      · exact h row hrow
    | updated userId changes answer hupdate =>
      -- only an update writes, and it writes what it normalised
      rcases execute_updates hpath with ⟨input, rfl⟩
      rcases updateProfile_writes hpath with ⟨-, changes', hchanges, heq⟩
      cases heq
      intro row' hrow'
      rcases ((DrizzleProfileRepository.update_spec hupdate).2 row').mp hrow' with ⟨row, hrow, rfl⟩
      split
      · exact inNormalForm_patched hchanges (h row hrow)
      · exact h row hrow

/-- A field that is sent back is kept as it is. -/
theorem normalizeField_sent_back {normalize : JsString → Except Failure JsString}
    {stored : JsString} (hstored : normalize stored = .ok stored) {value : Option JsString}
    (h : value = none ∨ value = some stored) : normalizeField normalize value = .ok value := by
  rcases h with rfl | rfl
  · rfl
  · simp [normalizeField, hstored, Except.map]

/-- Every stored profile is in normal form, in every run from empty tables; the
normalisers accept again what they accepted, unchanged; and an update with fields of a
stored profile is accepted and writes just these. -/
theorem stored_profiles_in_normal_form (services : Services) {τ : List IdentityEvent}
    {c : IdentityConfig services}
    (hrun : Run (machine services) (.initial (.blank services.lower)) τ c) :
    (∀ row ∈ c.store.accounts.users.rows, InNormalForm row) ∧
    (∀ value normal, normalizeDisplayName value = .ok normal →
      normalizeDisplayName normal = .ok normal) ∧
    (∀ value normal, normalizeBio value = .ok normal → normalizeBio normal = .ok normal) ∧
    (∀ row ∈ c.store.accounts.users.rows, ∀ userId displayName bio,
      (displayName = none ∨ displayName = some row.displayName) →
      (bio = none ∨ bio = some row.bio) → ¬ (displayName = none ∧ bio = none) →
      Normalises ⟨userId, displayName, bio⟩ ⟨displayName, bio⟩) := by
  have hrows : ∀ row ∈ c.store.accounts.users.rows, InNormalForm row := by
    refine Run.invariant (P := fun _ c => ∀ row ∈ c.store.accounts.users.rows, InNormalForm row)
      ?_ ?_ hrun
    · intro row hrow
      cases hrow
    · intro τ c e c' hbefore ih hstep
      exact inNormalForm_step hbefore ih hstep
  refine ⟨hrows, ?_, ?_, ?_⟩
  · exact fun value normal => normalizeDisplayName_idempotent
  · exact fun value normal => normalizeBio_idempotent
  · intro row hrow userId displayName bio hname hbio hgiven
    have hnormal := hrows row hrow
    exact ⟨normalizeField_sent_back hnormal.displayName hname,
      normalizeField_sent_back hnormal.bio hbio, hgiven⟩

/-- The sample profile after its update is in normal form. -/
theorem sample_profile_in_normal_form :
    ∃ row ∈ sampleSignedUp.1.store.accounts.users.rows,
      row.displayName = js "Sam" ∧ row.bio = js "hello" ∧ InNormalForm row := by
  have hrow : (⟨⟨js "7", js "sam", js "Sam", js "hello", 1767225000000⟩, none, 0, 0, false⟩ :
      UserRow) ∈ sampleSignedUp.1.store.accounts.users.rows := by
    decide +kernel
  have hnormal := (stored_profiles_in_normal_form sampleServices sampleSignedUp_run).1 _ hrow
  exact ⟨_, hrow, rfl, rfl, hnormal⟩

end XClone.Identity
