import XClone.Js.Json

/-!
# XClone.Identity.PgError — the driver's error code

What a query throws is an `unknown` value: the driver's error, which carries a Postgres
code, or a wrapper that has it on its `cause`. `pgCode` looks for the code along that
chain: it answers with the first code there is, however many wrappers come before it
(`code_is_found_at_any_depth`).
-/

namespace XClone.Identity

open Js

/-- A value of type `unknown`. Of an object, the two members that are read: `none` where
`in` does not find one. -/
inductive Unknown where
  | undefined
  | null
  | boolean (value : Bool)
  | number (value : JsNumber)
  | bigint (value : ℤ)
  | string (value : JsString)
  | symbol (id : ℕ)
  | function
  | object (code cause : Option Unknown)

/-- `UNIQUE_VIOLATION`. -/
def uniqueViolation : JsString := js "23505"

/-- `pgCode(error)`. -/
def pgCode : Unknown → Unknown
  | .object code cause =>
    match code with
    | none | some .undefined =>
      -- a wrapper: the code is further down the chain
      match cause with
      | some error => pgCode error
      | none => .undefined
    | some code => code
  | _ => .undefined

/-- `isUniqueViolation(error)`. -/
def isUniqueViolation (error : Unknown) : Bool :=
  match pgCode error with
  | .string code => code = uniqueViolation
  | _ => false

/-! ## The cause chain -/

/-- `typeof value === 'object' && value !== null`. -/
def Unknown.isObject : Unknown → Bool
  | .object _ _ => true
  | _ => false

/-- An object with a defined code. -/
def Unknown.HasCode (error code : Unknown) : Prop :=
  code ≠ .undefined ∧ ∃ cause, error = .object (some code) cause

/-- A link of the chain: an object whose code is absent or undefined, and its cause. -/
inductive Wraps : Unknown → Unknown → Prop where
  | absent (error : Unknown) : Wraps (.object none (some error)) error
  | undefined (error : Unknown) : Wraps (.object (some .undefined) (some error)) error

/-- The chain, followed through any number of links. -/
abbrev CauseChain : Unknown → Unknown → Prop := Relation.ReflTransGen Wraps

theorem pgCode_wraps {error error' : Unknown} (h : Wraps error error') :
    pgCode error = pgCode error' := by
  cases h with
  | absent => rfl
  | undefined => rfl

/-- A wrapper never changes the code. -/
theorem pgCode_chain {error last : Unknown} (h : CauseChain error last) :
    pgCode error = pgCode last := by
  induction h with
  | refl => rfl
  | tail _ hlink ih => exact ih.trans (pgCode_wraps hlink)

theorem pgCode_hasCode {error code : Unknown} (h : error.HasCode code) : pgCode error = code := by
  rcases h with ⟨hdefined, cause, rfl⟩
  cases code with
  | undefined => exact absurd rfl hdefined
  | _ => rfl

theorem pgCode_notObject {error : Unknown} (h : error.isObject = false) :
    pgCode error = .undefined := by
  cases error with
  | object code cause => cases h
  | _ => rfl

/-- A code that is found is on the chain. -/
theorem hasCode_of_pgCode {error : Unknown} (h : pgCode error ≠ .undefined) :
    ∃ last, CauseChain error last ∧ last.HasCode (pgCode error) := by
  fun_induction pgCode error with
  | case1 error ih =>
    -- a wrapper without a code
    rcases ih h with ⟨last, hchain, hcode⟩
    exact ⟨last, hchain.head (.absent error), hcode⟩
  | case3 error ih =>
    -- a wrapper with an undefined one
    rcases ih h with ⟨last, hchain, hcode⟩
    exact ⟨last, hchain.head (.undefined error), hcode⟩
  | case5 cause code hdefined => exact ⟨_, .refl, hdefined, cause, rfl⟩
  | case2 | case4 | case6 => exact absurd rfl h

/-- `pgCode` answers with the first code of the chain, so there is only one such. -/
theorem first_code_iff {error code : Unknown} :
    (∃ last, CauseChain error last ∧ last.HasCode code) ↔
      code ≠ .undefined ∧ pgCode error = code := by
  constructor
  · rintro ⟨last, hchain, hcode⟩
    exact ⟨hcode.1, (pgCode_chain hchain).trans (pgCode_hasCode hcode)⟩
  · rintro ⟨hdefined, rfl⟩
    exact hasCode_of_pgCode hdefined

theorem isUniqueViolation_iff {error : Unknown} :
    isUniqueViolation error = true ↔ pgCode error = .string uniqueViolation := by
  unfold isUniqueViolation
  cases pgCode error with
  | string code => simp
  | _ => simp

/-! ## The driver's error -/

/-- The driver's error with this code, in any number of wrappers that have none. -/
inductive Reports (code : JsString) : Unknown → Prop where
  | driver (cause : Option Unknown) : Reports code (.object (some (.string code)) cause)
  | wrapped {error : Unknown} : Reports code error → Reports code (.object none (some error))
  | undefined {error : Unknown} :
      Reports code error → Reports code (.object (some .undefined) (some error))

theorem Reports.chain {code : JsString} {error : Unknown} (h : Reports code error) :
    ∃ last, CauseChain error last ∧ last.HasCode (.string code) := by
  induction h with
  | driver cause => exact ⟨_, .refl, nofun, cause, rfl⟩
  | @wrapped error _ ih =>
    rcases ih with ⟨last, hchain, hcode⟩
    exact ⟨last, hchain.head (.absent error), hcode⟩
  | @undefined error _ ih =>
    rcases ih with ⟨last, hchain, hcode⟩
    exact ⟨last, hchain.head (.undefined error), hcode⟩

/-- A reported code is a unique violation if it is that code. -/
theorem isUniqueViolation_reports {code : JsString} {error : Unknown} (h : Reports code error) :
    isUniqueViolation error = true ↔ code = uniqueViolation := by
  rw [isUniqueViolation_iff, (first_code_iff.mp h.chain).2]
  exact ⟨fun hsame => Unknown.string.inj hsame, fun hsame => congrArg Unknown.string hsame⟩

/-! ## Any depth -/

/-- An error is a unique violation exactly when the first object of its cause chain that
has a code has 23505. No wrapper changes the answer, in any number, and a chain that
runs into something that is not an object is no unique violation. -/
theorem code_is_found_at_any_depth (error : Unknown) :
    (isUniqueViolation error = true ↔
      ∃ last, CauseChain error last ∧ last.HasCode (.string uniqueViolation)) ∧
    (∀ wrapped, CauseChain wrapped error → isUniqueViolation wrapped = isUniqueViolation error) ∧
    ∀ last, CauseChain error last → last.isObject = false → isUniqueViolation error = false := by
  refine ⟨?_, ?_, ?_⟩
  · rw [isUniqueViolation_iff, first_code_iff]
    exact (and_iff_right nofun).symm
  · intro wrapped hchain
    unfold isUniqueViolation
    rw [pgCode_chain hchain]
  · intro last hchain hprimitive
    rw [Bool.eq_false_iff, ne_eq, isUniqueViolation_iff, pgCode_chain hchain,
      pgCode_notObject hprimitive]
    exact nofun

/-- The driver's error in two wrappers. -/
theorem wrapped_twice_is_unique_violation :
    isUniqueViolation (.object none (some (.object (some .undefined)
      (some (.object (some (.string (js "23505"))) none))))) = true := by
  have hchain : CauseChain (.object none (some (.object (some .undefined)
      (some (.object (some (.string (js "23505"))) none)))))
      (.object (some (.string (js "23505"))) none) :=
    .head (.absent _) (.single (.undefined _))
  rw [(code_is_found_at_any_depth _).2.1 _ hchain, (code_is_found_at_any_depth _).1]
  exact ⟨_, .refl, nofun, none, rfl⟩

end XClone.Identity
