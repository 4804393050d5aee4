import XClone.Identity.NormalForm

/-!
# XClone.Identity.ProfileText — what an accepted profile text can hold

A display name is meant to stay on one line and to hide nothing. Its three filters, the
trim, the scan for controls and the class of invisible characters, let four characters
through: U+0085, U+061C, and U+2028 and U+2029 where they are not trimmed away
(`display_name_is_plain_iff`). A bio is prose: its line ends are folded before anything
else, so how the browser spells them does not matter (`bio_ignores_line_endings`).
-/

namespace XClone.Identity

open Js

/-! ## Display names -/

/-- LF, VT, FF, CR, NEL, and Unicode's line and paragraph separators. -/
def breaksLine (c : ℕ) : Bool :=
  (0x0A ≤ c && c ≤ 0x0D) || c == 0x85 || c == 0x2028 || c == 0x2029

/-- Unicode's property `Bidi_Control`. -/
def isBidiControl (c : ℕ) : Bool :=
  c == 0x061C || c == 0x200E || c == 0x200F || (0x202A ≤ c && c ≤ 0x202E) ||
    (0x2066 ≤ c && c ≤ 0x2069)

/-- The zero-width space, joiners and non-joiners. -/
def isZeroWidth (c : ℕ) : Bool :=
  (0x200B ≤ c && c ≤ 0x200D) || c == 0x2060 || c == 0xFEFF

/-- One line, in which nothing is reordered or hidden. -/
def IsPlain (name : JsString) : Prop :=
  ∀ c ∈ codePoints name, breaksLine c = false ∧ isBidiControl c = false ∧ isZeroWidth c = false

/-- The characters no filter looks for. -/
def slipsThrough (c : ℕ) : Bool := c == 0x85 || c == 0x061C || c == 0x2028 || c == 0x2029

/-- The class of invisible characters, by code point. -/
theorem isInvisible_iff {u : UInt16} : isInvisible u = true ↔
    (0x200B ≤ u.toNat ∧ u.toNat ≤ 0x200F) ∨ (0x202A ≤ u.toNat ∧ u.toNat ≤ 0x202E) ∨
      (0x2060 ≤ u.toNat ∧ u.toNat ≤ 0x2064) ∨ (0x2066 ≤ u.toNat ∧ u.toNat ≤ 0x2069) ∨
      u.toNat = 0xFEFF := by
  simp [isInvisible, UInt16.le_iff_toNat_le, ← UInt16.toNat_inj, or_assoc]

/-- The filters and these four cover everything a plain text must not hold. -/
theorem filtered_or_slips {c : ℕ}
    (h : ¬ (breaksLine c = false ∧ isBidiControl c = false ∧ isZeroWidth c = false)) :
    c < 0x20 ∨ (c < 0x10000 ∧ ∀ u : UInt16, u.toNat = c → isInvisible u = true) ∨
      slipsThrough c = true := by
  by_cases hlow : c < 0x20
  · exact Or.inl hlow
  by_cases hslip : slipsThrough c = true
  · exact Or.inr (Or.inr hslip)
  refine Or.inr (Or.inl ?_)
  simp only [breaksLine, isBidiControl, isZeroWidth, slipsThrough, Bool.or_eq_true,
    Bool.or_eq_false_iff, Bool.and_eq_false_iff, decide_eq_false_iff_not, beq_eq_false_iff_ne,
    beq_iff_eq, ne_eq] at h hslip
  constructor
  · omega
  · rintro u rfl
    rw [isInvisible_iff]
    omega

/-- A name is refused for another reason, or no such character is left in it. -/
def Filtered (displayName : JsString) : Prop :=
  trim displayName = [] ∨ hasControlCharacters (trim displayName) false = true ∨
    (trim displayName).any isInvisible = true ∨
    displayNameMax < countCharacters (trim displayName) ∨
    ∀ c ∈ codePoints (trim displayName), slipsThrough c = false

/-- Exactly when what is accepted of a name is plain. -/
theorem display_name_is_plain_iff (displayName : JsString) :
    (∀ normal, normalizeDisplayName displayName = .ok normal → IsPlain normal) ↔
      Filtered displayName := by
  constructor
  · intro hplain
    by_cases hempty : trim displayName = []
    · exact Or.inl hempty
    by_cases hcontrol : hasControlCharacters (trim displayName) false = true
    · exact Or.inr (Or.inl hcontrol)
    by_cases hinvisible : (trim displayName).any isInvisible = true
    · exact Or.inr (Or.inr (Or.inl hinvisible))
    by_cases hlong : displayNameMax < countCharacters (trim displayName)
    · exact Or.inr (Or.inr (Or.inr (Or.inl hlong)))
    -- the name is accepted
    have haccepted : normalizeDisplayName displayName = .ok (trim displayName) := by
      unfold normalizeDisplayName
      dsimp only
      rw [if_neg hempty, if_neg hcontrol, if_neg hinvisible, if_neg hlong]
    refine Or.inr (Or.inr (Or.inr (Or.inr ?_)))
    intro c hc
    rcases hplain _ haccepted c hc with ⟨hbreak, hbidi, -⟩
    rw [Bool.eq_false_iff]
    intro hslip
    simp only [slipsThrough, Bool.or_eq_true, beq_iff_eq] at hslip
    rcases hslip with ((rfl | rfl) | rfl) | rfl
    · cases hbreak
    · cases hbidi
    · cases hbreak
    · cases hbreak
  · intro hfiltered normal haccepted
    rcases normalizeDisplayName_ok haccepted with ⟨rfl, hempty, hcontrol, hinvisible, hshort⟩
    rcases hfiltered with h | h | h | h | hslips
    · exact absurd h hempty
    · rw [hcontrol] at h
      cases h
    · rw [hinvisible] at h
      cases h
    · omega
    · intro c hc
      by_contra hnot
      rcases filtered_or_slips hnot with hlow | ⟨hbasic, hhidden⟩ | hslip
      · have hscan := List.any_eq_false.mp hcontrol c hc
        simp [hlow] at hscan
      · rcases unit_of_codePoint hc hbasic with ⟨u, hu, rfl⟩
        exact List.any_eq_false.mp hinvisible u hu (hhidden u rfl)
      · rw [hslips c hc] at hslip
        cases hslip

/-- A name with all four in it. -/
def slippedName : JsString :=
  js "a" ++ [0x85] ++ js "b" ++ [0x061C] ++ js "c" ++ [0x2028] ++ js "d" ++ [0x2029] ++ js "e"

/-- It is accepted as it stands. -/
theorem slipped_name_is_accepted :
    normalizeDisplayName slippedName = .ok slippedName ∧
      ¬ ∀ normal, normalizeDisplayName slippedName = .ok normal → IsPlain normal := by
  have haccepted : normalizeDisplayName slippedName = .ok slippedName := by decide +kernel
  refine ⟨haccepted, ?_⟩
  intro hplain
  have hcode : 0x2028 ∈ codePoints slippedName := by decide +kernel
  cases (hplain _ haccepted _ hcode).1

/-! ## Bios -/

/-- What a browser makes of a text: every LF is sent as CR LF. -/
def crLf (text : JsString) : JsString := text.flatMap fun u => if u = 10 then [13, 10] else [u]

/-- Folding undoes it. -/
theorem foldCrLf_crLf {text : JsString} (h : 13 ∉ text) : foldCrLf (crLf text) = text := by
  induction text with
  | nil => rfl
  | cons u text ih =>
    have hu : u ≠ 13 := fun heq => h (heq ▸ List.mem_cons_self)
    have hrest := ih fun hmem => h (List.mem_cons_of_mem _ hmem)
    by_cases hlf : u = 10
    · subst hlf
      show (if (13 : UInt16) = 13 ∧ (10 : UInt16) = 10 then 10 :: foldCrLf (crLf text) else _) = _
      rw [if_pos ⟨rfl, rfl⟩, hrest]
    · have hcons : crLf (u :: text) = u :: crLf text := by
        simp [crLf, hlf]
      rw [hcons]
      cases hnext : crLf text with
      | nil =>
        rw [hnext] at hrest
        rw [← hrest]
        rfl
      | cons v next =>
        rw [hnext] at hrest
        rw [foldCrLf, if_neg (fun hboth => hu hboth.1), hrest]

/-- C0 controls and DEL: what `hasControlCharacters` scans for. -/
def isControl (c : ℕ) : Bool := c < 0x20 || c == 0x7F

/-- Unicode's general category `Cc`, which has the C1 controls as well. -/
def isUnicodeControl (c : ℕ) : Bool := c < 0x20 || (0x7F ≤ c && c ≤ 0x9F)

/-- A bio with a C1 control in it. -/
def nextLineBio : JsString := js "a" ++ [0x85] ++ js "b"

/-- C1 controls are no business of the scan. -/
theorem next_line_is_accepted :
    normalizeBio nextLineBio = .ok nextLineBio ∧
      ¬ ∀ bio normal, normalizeBio bio = .ok normal →
        ∀ c ∈ codePoints normal, isUnicodeControl c = true → c = 0x0A := by
  have haccepted : normalizeBio nextLineBio = .ok nextLineBio := by decide +kernel
  refine ⟨haccepted, ?_⟩
  intro hnone
  have hcode : 0x85 ∈ codePoints nextLineBio := by decide +kernel
  cases hnone _ _ haccepted _ hcode rfl

/-- The line endings of a browser make no difference to a bio, accepted or not. And a bio
that is accepted has no carriage return, no C0 control or DEL but line feeds, no white
space at either end and at most 160 code points. -/
theorem bio_ignores_line_endings :
    (∀ text, 13 ∉ text → normalizeBio (crLf text) = normalizeBio text) ∧
      ∀ bio normal, normalizeBio bio = .ok normal →
        13 ∉ normal ∧ (∀ c ∈ codePoints normal, isControl c = true → c = 0x0A) ∧
          (∀ u ∈ normal.head?, isWhiteSpace u = false) ∧
          (∀ u ∈ normal.getLast?, isWhiteSpace u = false) ∧
          (codePoints normal).length ≤ 160 := by
  constructor
  · intro text hnoCr
    unfold normalizeBio
    rw [foldCrLf_crLf hnoCr, foldCrLf_eq_self hnoCr]
  · intro bio normal haccepted
    rcases normalizeBio_ok haccepted with ⟨rfl, hcontrol, hshort⟩
    rcases trim_ends (foldCrLf bio) with ⟨hhead, hlast⟩
    refine ⟨carriage_return_notMem hcontrol, ?_, hhead, hlast, hshort⟩
    intro c hc hisControl
    by_contra hnotLf
    have hscan := List.any_eq_false.mp hcontrol c hc
    simp only [isControl, Bool.or_eq_true, decide_eq_true_eq, beq_iff_eq] at hisControl
    simp [hnotLf, hisControl] at hscan

end XClone.Identity
