import XClone.Lib.Paths

/-!
# XClone.Lib.Deletion — leaving threads out of a run

A run from which some threads are deleted is again a run, with the same answers for the
others, when what the deleted ones do to the store is invisible to the rest:
`Deletion` lists the obligations, one for each kind of step, and `Run.delete` is the
rule.
-/

namespace Interleaving

variable {σ Req α ε C : Type} {R : C → Type} {M : Machine σ Req α ε C R} {s₀ : σ}

/-- What has to hold of the deleted threads and the stores with and without them, in the
runs that are `observed`. -/
structure Deletion (M : Machine σ Req α ε C R) (s₀ : σ) (deleted : ℕ → Prop)
    (agree : σ → σ → Prop)
    (observed : List (Event Req ε C R) → Config σ Req α ε C R → Prop) : Prop where
  initial : agree s₀ s₀
  before : ∀ {τ c e c'}, observed (τ ++ [e]) c' → Step M c e c' → observed τ c
  hidden : ∀ {τ c i request call next r s s'}, Run M (.initial s₀) τ c → observed τ c →
    deleted i → c.threads i = some ⟨request, .call call next⟩ → M.returns call c.store r s →
    agree c.store s' → agree s s'
  answered : ∀ {τ c i request call next r s s'}, Run M (.initial s₀) τ c → observed τ c →
    ¬ deleted i → c.threads i = some ⟨request, .call call next⟩ → M.returns call c.store r s →
    agree c.store s' → ∃ t, M.returns call s' r t ∧ agree s t
  excepted : ∀ {τ c' i call e} {s s' : σ}, observed (τ ++ [.threw i call e]) c' → ¬ deleted i →
    M.throws call s e → agree s s' → M.throws call s' e

/-- The configuration without the deleted threads. -/
structure Deleted (deleted : ℕ → Prop) (agree : σ → σ → Prop) (c c' : Config σ Req α ε C R) :
    Prop where
  store : agree c.store c'.store
  gone : ∀ i, deleted i → c'.threads i = none
  kept : ∀ i, ¬ deleted i → c'.threads i = c.threads i

variable {deleted : ℕ → Prop} {agree : σ → σ → Prop} {c c' : Config σ Req α ε C R}

/-- A deleted thread moves. -/
theorem Deleted.set_deleted (h : Deleted deleted agree c c') {i : ℕ} (hi : deleted i) {s : σ}
    (hs : agree s c'.store) (t : Thread Req C R ε α) : Deleted deleted agree (c.set s i t) c' := by
  refine ⟨hs, h.gone, ?_⟩
  intro j hj
  have hne : j ≠ i := by
    rintro rfl
    exact hj hi
  rw [Config.set_threads_of_ne _ _ hne]
  exact h.kept j hj

/-- A kept thread moves, with and without the others. -/
theorem Deleted.set_kept (h : Deleted deleted agree c c') {i : ℕ} (hi : ¬ deleted i)
    {s s' : σ} (hs : agree s s') (t : Thread Req C R ε α) :
    Deleted deleted agree (c.set s i t) (c'.set s' i t) := by
  refine ⟨hs, ?_, ?_⟩
  · intro j hj
    have hne : j ≠ i := by
      rintro rfl
      exact hi hj
    rw [Config.set_threads_of_ne _ _ hne]
    exact h.gone j hj
  · intro j hj
    by_cases hji : j = i
    · subst hji
      rw [Config.set_threads_self, Config.set_threads_self]
    · rw [Config.set_threads_of_ne _ _ hji, Config.set_threads_of_ne _ _ hji]
      exact h.kept j hj

variable {observed : List (Event Req ε C R) → Config σ Req α ε C R → Prop}

/-- The run rule: without the events of the deleted threads the run is a run. -/
theorem Run.delete [DecidablePred deleted] (hrule : Deletion M s₀ deleted agree observed)
    {τ : List (Event Req ε C R)} (hrun : Run M (.initial s₀) τ c) (hobserved : observed τ c) :
    ∃ c', Run M (.initial s₀) (τ.filter fun e => ¬ deleted e.thread) c' ∧
      Deleted deleted agree c c' := by
  induction τ using List.reverseRecOn generalizing c with
  | nil =>
    cases hrun.of_nil
    exact ⟨.initial s₀, .nil _, hrule.initial, fun _ _ => rfl, fun _ _ => rfl⟩
  | append_singleton τ e ih =>
    rcases hrun.last with ⟨c₁, hbefore, hstep⟩
    have hobserved₁ := hrule.before hobserved hstep
    rcases ih hbefore hobserved₁ with ⟨c₁', hrun', hdeleted⟩
    have deletes (hi : deleted e.thread) :
        (τ ++ [e]).filter (fun e => ¬ deleted e.thread) = τ.filter fun e => ¬ deleted e.thread := by
      simp [hi]
    have keeps (hi : ¬ deleted e.thread) : (τ ++ [e]).filter (fun e => ¬ deleted e.thread) =
        (τ.filter fun e => ¬ deleted e.thread) ++ [e] := by
      simp [hi]
    cases hstep with
    | start i request hnone =>
      by_cases hi : deleted i
      · -- a deleted thread does nothing in the other run
        rw [deletes hi]
        exact ⟨c₁', hrun', hdeleted.set_deleted hi hdeleted.store _⟩
      · -- it starts here too
        rw [keeps hi]
        have hnone' : c₁'.threads i = none := (hdeleted.kept i hi).trans hnone
        exact ⟨_, hrun'.snoc (.start i request hnone'), hdeleted.set_kept hi hdeleted.store _⟩
    | @returned i request call next r s hthread hreturns =>
      by_cases hi : deleted i
      · -- what it wrote is nothing the others can see
        have hagree := hrule.hidden hbefore hobserved₁ hi hthread hreturns hdeleted.store
        rw [deletes hi]
        exact ⟨c₁', hrun', hdeleted.set_deleted hi hagree _⟩
      · -- its call gets the same answer
        have hthread' := (hdeleted.kept i hi).trans hthread
        rcases hrule.answered hbefore hobserved₁ hi hthread hreturns hdeleted.store with
          ⟨s', hreturns', hagree⟩
        rw [keeps hi]
        exact ⟨_, hrun'.snoc (.returned hthread' hreturns'), hdeleted.set_kept hi hagree _⟩
    | @threw i request call next e hthread hthrows =>
      by_cases hi : deleted i
      · rw [deletes hi]
        exact ⟨c₁', hrun', hdeleted.set_deleted hi hdeleted.store _⟩
      · -- its call throws there too
        have hthread' := (hdeleted.kept i hi).trans hthread
        have hthrows' := hrule.excepted hobserved hi hthrows hdeleted.store
        rw [keeps hi]
        exact ⟨_, hrun'.snoc (.threw hthread' hthrows'), hdeleted.set_kept hi hdeleted.store _⟩

end Interleaving
