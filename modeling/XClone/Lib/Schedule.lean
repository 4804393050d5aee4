import Mathlib.Logic.Relation

/-!
# XClone.Lib.Schedule — playing runs

A labelled transition system and a function that makes one move of it. What a schedule
of moves plays is a run whose steps all pass a test.
-/

namespace Schedule

variable {σ μ α : Type}

/-- Plays a list of moves, all of whose steps pass `meets`. -/
def play (attempt : σ → μ → Option (σ × α)) (meets : σ → α → Bool) (s : σ) : List μ → Option σ
  | [] => some s
  | move :: moves =>
    match attempt s move with
    | some (s', action) => if meets s action then play attempt meets s' moves else none
    | none => none

/-- What is played is a run. -/
theorem play_reaches {attempt : σ → μ → Option (σ × α)} {meets : σ → α → Bool}
    {step : σ → α → σ → Prop} {P : σ → α → Prop}
    (hattempt : ∀ {s move s' action}, attempt s move = some (s', action) → step s action s')
    (hmeets : ∀ s action, meets s action = true → P s action) {s s' : σ} {moves : List μ}
    (h : play attempt meets s moves = some s') :
    Relation.ReflTransGen (fun s s' => ∃ action, P s action ∧ step s action s') s s' := by
  induction moves generalizing s with
  | nil =>
    cases h
    exact .refl
  | cons move moves ih =>
    simp only [play] at h
    split at h
    · rename_i s₁ action hmove
      split at h
      · rename_i hpass
        exact .head ⟨action, hmeets s action hpass, hattempt hmove⟩ (ih h)
      · cases h
    · cases h

end Schedule
