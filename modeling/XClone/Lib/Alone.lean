import XClone.Lib.Paths

/-!
# XClone.Lib.Alone — a thread with the store to itself

`Alone` follows one program through a store nobody else touches. Programs compose
(`Alone.bind`, `Alone.tryCatch`), and what a program does alone is a run of the system
(`Alone.run`).
-/

namespace Interleaving

variable {σ Req α β γ ε C : Type} {R : C → Type} {M : Machine σ Req α ε C R}

/-- Thread `i` alone gets from a store and a program to others, through these events. -/
inductive Alone (M : Machine σ Req α ε C R) (i : ℕ) :
    σ → Program C R ε γ → List (Event Req ε C R) → σ → Program C R ε γ → Prop where
  | nil (s : σ) (p : Program C R ε γ) : Alone M i s p [] s p
  | returned {c : C} {next : R c → Program C R ε γ} {r : R c} {s s' s'' : σ}
      {τ : List (Event Req ε C R)} {p : Program C R ε γ} :
      M.returns c s r s' → Alone M i s' (next r) τ s'' p →
      Alone M i s (.call c next) (.returned i c r :: τ) s'' p

namespace Alone

variable {i : ℕ} {s s' s'' : σ} {τ τ' : List (Event Req ε C R)}

/-- One call that is answered. -/
theorem perform {c : C} {r : R c} (h : M.returns c s r s') :
    Alone M i s (Program.perform c : Program C R ε (R c)) [.returned i c r] s' (.done r) :=
  .returned h (.nil _ _)

/-- The first program, then the second. -/
theorem bind {p : Program C R ε β} {f : β → Program C R ε γ} {value : β} {q : Program C R ε γ}
    (h : Alone M i s p τ s' (.done value)) (h' : Alone M i s' (f value) τ' s'' q) :
    Alone M i s (p >>= f) (τ ++ τ') s'' q := by
  generalize hend : Program.done value = last at h
  induction h with
  | nil =>
    subst hend
    exact h'
  | returned hreturns _ ih => exact .returned hreturns (ih h' hend)

/-- A program that ends well needs no handler. -/
theorem tryCatch {p : Program C R ε γ} {handle : ε → Program C R ε γ} {value : γ}
    (h : Alone M i s p τ s' (.done value)) :
    Alone M i s (p.tryCatch handle) τ s' (.done value) := by
  generalize hend : Program.done value = last at h
  induction h with
  | nil =>
    subst hend
    exact .nil _ _
  | returned hreturns _ ih => exact .returned hreturns (ih hend)

/-- What comes last comes after a program that ends well. -/
theorem tryFinally {p : Program C R ε γ} {last : Program C R ε Unit} {value : γ}
    (h : Alone M i s p τ s' (.done value)) (h' : Alone M i s' last τ' s'' (.done ())) :
    Alone M i s (p.tryFinally last) (τ ++ τ') s'' (.done value) := by
  have hlast := h'.bind (f := fun _ => Program.done value) (.nil s'' _)
  rw [List.append_nil] at hlast
  exact h.tryCatch.bind hlast

/-- What a thread does alone, it does in the system. -/
theorem run {p p' : Program C R ε α} (h : Alone M i s p τ s' p') {c : Config σ Req α ε C R}
    {request : Req} (hi : c.threads i = some ⟨request, p⟩) (hs : c.store = s) :
    ∃ c', Run M c τ c' ∧ c'.threads i = some ⟨request, p'⟩ ∧ c'.store = s' := by
  induction h generalizing c with
  | nil => exact ⟨c, .nil c, hi, hs⟩
  | @returned call next r s s₁ s₂ τ p hreturns _ ih =>
    subst hs
    rcases @ih (c.set s₁ i ⟨request, next r⟩) (Config.set_threads_self _ _ _ _) rfl with
      ⟨c', hrun, hi', hs'⟩
    exact ⟨c', ((Run.nil c).snoc (.returned hi hreturns)).append hrun, hi', hs'⟩

/-- Its events are its own. -/
theorem thread {p p' : Program C R ε γ} (h : Alone M i s p τ s' p') {e : Event Req ε C R}
    (he : e ∈ τ) : e.thread = i := by
  induction h with
  | nil => cases he
  | returned _ _ ih =>
    rcases List.mem_cons.mp he with rfl | he
    · rfl
    · exact ih he

end Alone

end Interleaving
