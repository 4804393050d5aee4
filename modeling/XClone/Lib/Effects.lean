import XClone.Lib.Paths

/-!
# XClone.Lib.Effects — what a thread contributes to the store

A run with the stores around each of its steps, so that the changes of one thread can be
told from those of the others. `Program.Commits` says that a program changes the store by
at most one call, and that nothing it does after that call can fail; `Effects.commits`
lifts it to every run: a thread has changed nothing, or it has changed the store once.
-/

namespace Interleaving

variable {σ Req α β ε C : Type} {R : C → Type}

/-! ## Effects -/

/-- A step, with the store it found and the store it left. -/
structure Effect (σ Req ε C : Type) (R : C → Type) where
  event : Event Req ε C R
  before : σ
  after : σ

/-- What happened, without the stores. -/
def history (ξ : List (Effect σ Req ε C R)) : List (Event Req ε C R) := ξ.map Effect.event

/-- A run, its steps with their effects. -/
inductive Effects (M : Machine σ Req α ε C R) :
    Config σ Req α ε C R → List (Effect σ Req ε C R) → Config σ Req α ε C R → Prop where
  | nil (c : Config σ Req α ε C R) : Effects M c [] c
  | snoc {c c' c'' : Config σ Req α ε C R} {ξ : List (Effect σ Req ε C R)}
      {e : Event Req ε C R} : Effects M c ξ c' → Step M c' e c'' →
      Effects M c (ξ ++ [⟨e, c'.store, c''.store⟩]) c''

variable {M : Machine σ Req α ε C R} {c c' : Config σ Req α ε C R}
  {ξ ξ' : List (Effect σ Req ε C R)}

theorem Effects.run (h : Effects M c ξ c') : Run M c (history ξ) c' := by
  induction h with
  | nil => exact .nil _
  | snoc _ hstep ih =>
    rw [history, List.map_append]
    exact ih.snoc hstep

/-- Every run has its effects. -/
theorem Run.effects {τ : List (Event Req ε C R)} (h : Run M c τ c') :
    ∃ ξ, history ξ = τ ∧ Effects M c ξ c' := by
  induction h with
  | nil => exact ⟨[], rfl, .nil _⟩
  | snoc _ hstep ih =>
    rcases ih with ⟨ξ, rfl, heffects⟩
    refine ⟨_, ?_, heffects.snoc hstep⟩
    rw [history, List.map_append]
    rfl

/-- An effect is that of a step. -/
theorem Effects.step (h : Effects M c ξ c') {x : Effect σ Req ε C R} (hx : x ∈ ξ) :
    ∃ c₁ c₂, Step M c₁ x.event c₂ ∧ c₁.store = x.before ∧ c₂.store = x.after := by
  induction h with
  | nil => cases hx
  | snoc _ hstep ih =>
    rcases List.mem_append.mp hx with hx | hx
    · exact ih hx
    · obtain rfl := List.mem_singleton.mp hx
      exact ⟨_, _, hstep, rfl, rfl⟩

/-- An answer did to the store what the machine says. -/
theorem Effects.returned (h : Effects M c ξ c') {i : ℕ} {call : C} {r : R call} {s s' : σ}
    (hx : ⟨.returned i call r, s, s'⟩ ∈ ξ) : M.returns call s r s' := by
  rcases h.step hx with ⟨c₁, c₂, hstep, hbefore, hafter⟩
  simp only at hbefore hafter
  subst hbefore hafter
  cases hstep with
  | returned _ hreturns => exact hreturns

/-! ## The changes of one thread -/

/-- No step of thread `i` changed the store. -/
def Silent (i : ℕ) (ξ : List (Effect σ Req ε C R)) : Prop :=
  ∀ x ∈ ξ, x.event.thread = i → x.after = x.before

/-- One step of thread `i` did to the store what `P` says, and its others changed nothing. -/
def Once (i : ℕ) (ξ : List (Effect σ Req ε C R)) (P : σ → σ → Prop) : Prop :=
  ∃ ξ₁ x ξ₂, ξ = ξ₁ ++ x :: ξ₂ ∧ x.event.thread = i ∧ P x.before x.after ∧ Silent i (ξ₁ ++ ξ₂)

/-- The event answers a call that may have changed the store. -/
def Event.writes (writes : (c : C) → R c → Bool) : Event Req ε C R → Bool
  | .returned _ c r => writes c r
  | _ => false

/-- Nothing in the history may have changed the store. -/
def Quiet (writes : (c : C) → R c → Bool) (τ : List (Event Req ε C R)) : Prop :=
  ∀ e ∈ τ, e.writes writes = false

section Quiet

variable {writes : (c : C) → R c → Bool} {τ τ' : List (Event Req ε C R)} {e : Event Req ε C R}

theorem quiet_nil : Quiet writes ([] : List (Event Req ε C R)) := by
  intro e he
  cases he

theorem quiet_cons : Quiet writes (e :: τ) ↔ e.writes writes = false ∧ Quiet writes τ :=
  List.forall_mem_cons

theorem quiet_append : Quiet writes (τ ++ τ') ↔ Quiet writes τ ∧ Quiet writes τ' :=
  List.forall_mem_append

end Quiet

/-- Only the answers `writes` picks change the store. -/
def Machine.Keeps (M : Machine σ Req α ε C R) (writes : (c : C) → R c → Bool) : Prop :=
  ∀ c s r s', M.returns c s r s' → writes c r = false → s' = s

/-- A thread none of whose answers write is silent. -/
theorem Effects.silent {writes : (c : C) → R c → Bool} (hkeeps : M.Keeps writes)
    (h : Effects M c ξ c') (hsub : ξ' ⊆ ξ) {i : ℕ}
    (hquiet : Quiet writes ((history ξ').filter (·.thread = i))) : Silent i ξ' := by
  intro x hx hi
  rcases h.step (hsub hx) with ⟨c₁, c₂, hstep, hbefore, hafter⟩
  rw [← hbefore, ← hafter]
  have hown : x.event ∈ (history ξ').filter (·.thread = i) :=
    List.mem_filter.mpr ⟨List.mem_map_of_mem hx, decide_eq_true hi⟩
  have hwrites := hquiet x.event hown
  generalize x.event = e at hstep hwrites
  cases hstep with
  | start j request hnone => rfl
  | returned hthread hreturns => exact hkeeps _ _ _ _ hreturns hwrites
  | threw hthread hthrows => rfl

/-- Where a thread did something, the run has its effect. -/
theorem history_split {i : ℕ} {e : Event Req ε C R} {τ₁ τ₂ : List (Event Req ε C R)}
    (h : (history ξ).filter (·.thread = i) = τ₁ ++ e :: τ₂) :
    ∃ ξ₁ x ξ₂, ξ = ξ₁ ++ x :: ξ₂ ∧ x.event = e ∧ (history ξ₁).filter (·.thread = i) = τ₁ ∧
      (history ξ₂).filter (·.thread = i) = τ₂ := by
  rcases List.filter_eq_append_iff.mp h with ⟨l₁, l₂, hsplit, hτ₁, hrest⟩
  rcases List.filter_eq_cons_iff.mp hrest with ⟨m, l₃, rfl, hnone, -, hτ₂⟩
  rcases List.map_eq_append_iff.mp hsplit with ⟨ξ₁, ξ', rfl, rfl, hξ'⟩
  rcases List.map_eq_append_iff.mp hξ' with ⟨ξm, ξe, rfl, rfl, hξe⟩
  rcases List.map_eq_cons_iff.mp hξe with ⟨x, ξ₂, rfl, rfl, rfl⟩
  refine ⟨ξ₁ ++ ξm, x, ξ₂, by simp, rfl, ?_, hτ₂⟩
  have hskip : (ξm.map Effect.event).filter (·.thread = i) = [] :=
    List.filter_eq_nil_iff.mpr hnone
  rw [history, List.map_append, List.filter_append, hskip, List.append_nil]
  exact hτ₁

/-! ## Programs that write last -/

namespace Program

variable (writes : (c : C) → R c → Bool) (total : C → Prop)

/-- From here the program changes nothing, makes only calls of `total`, and ends as `Q`
says: `none` where it returns, its error where it fails. -/
def Settles (Q : Option ε → Prop) : Program C R ε α → Prop
  | .done _ => Q none
  | .failed e => Q (some e)
  | .call c next => total c ∧ ∀ r, writes c r = false ∧ (next r).Settles Q

/-- The program fails before it has changed anything, or changes the store by one call
and then settles, as `ends` says for that call. -/
def Commits (ends : C → Option ε → Prop) : Program C R ε α → Prop
  | .done _ => False
  | .failed _ => True
  | .call c next => ∀ r, if writes c r then (next r).Settles writes total (ends c)
      else (next r).Commits ends

variable {writes total} {ends : C → Option ε → Prop} {Q : Option ε → Prop}

theorem settles_map {p : Program C R ε α} (h : p.Settles writes total Q) (f : α → β) :
    (f <$> p).Settles writes total Q := by
  induction p with
  | done value => exact h
  | failed error => exact h
  | call c next ih =>
    refine ⟨h.1, ?_⟩
    intro r
    exact ⟨(h.2 r).1, ih r (h.2 r).2⟩

theorem commits_map {p : Program C R ε α} (h : p.Commits writes total ends) (f : α → β) :
    (f <$> p).Commits writes total ends := by
  induction p with
  | done value => exact h
  | failed error => trivial
  | call c next ih =>
    intro r
    have hr := h r
    by_cases hw : writes c r
    · rw [if_pos hw] at hr ⊢
      exact settles_map hr f
    · rw [if_neg hw] at hr ⊢
      exact ih r hr

theorem commits_ofExcept {value : Except ε α} {f : α → Program C R ε β}
    (h : ∀ a, value = .ok a → (f a).Commits writes total ends) :
    (ofExcept value >>= f : Program C R ε β).Commits writes total ends := by
  cases value with
  | ok value => exact h value rfl
  | error error => trivial

end Program

section Commits

variable {i : ℕ} {p p' : Program C R ε α} {τ : List (Event Req ε C R)}
  {writes : (c : C) → R c → Bool} {total : C → Prop} {ends : C → Option ε → Prop}
  {Q : Option ε → Prop}

theorem Path.settles (h : Path i p τ p') (hp : p.Settles writes total Q) :
    Quiet writes τ ∧ p'.Settles writes total Q := by
  induction h with
  | nil => exact ⟨quiet_nil, hp⟩
  | returned r _ ih =>
    rcases hp.2 r with ⟨hquiet, hnext⟩
    rcases ih hnext with ⟨hrest, hend⟩
    exact ⟨quiet_cons.mpr ⟨hquiet, hrest⟩, hend⟩

theorem Path.commits (h : Path i p τ p') (hp : p.Commits writes total ends) :
    (Quiet writes τ ∧ p'.Commits writes total ends) ∨
      ∃ before c next r after, τ = before ++ .returned i c r :: after ∧
        Path i p before (.call c next) ∧ writes c r = true ∧ Quiet writes before ∧
        Quiet writes after ∧ p'.Settles writes total (ends c) := by
  induction h with
  | nil => exact Or.inl ⟨quiet_nil, hp⟩
  | @returned c next r τ p' hrest ih =>
    have hr := hp r
    by_cases hw : writes c r
    · -- the call that commits
      rw [if_pos hw] at hr
      rcases hrest.settles hr with ⟨hquiet, hend⟩
      exact Or.inr ⟨[], c, next, r, τ, rfl, .nil _, hw, quiet_nil, hquiet, hend⟩
    · rw [if_neg hw] at hr
      have hquiet : (Event.returned i c r : Event Req ε C R).writes writes = false :=
        Bool.eq_false_iff.mpr hw
      rcases ih hr with ⟨hrest, hend⟩ |
        ⟨before, c', next', r', after, rfl, hpath, hwrites, hbefore, hafter, hend⟩
      · exact Or.inl ⟨quiet_cons.mpr ⟨hquiet, hrest⟩, hend⟩
      · exact Or.inr ⟨_ :: before, c', next', r', after, rfl, .returned r hpath, hwrites,
          quiet_cons.mpr ⟨hquiet, hbefore⟩, hafter, hend⟩

/-- A thread whose total calls do not throw has not returned and changed nothing, or has
made the call that commits and ends as that call decides. -/
theorem Went.commits (h : Went i p τ p') (hp : p.Commits writes total ends)
    (htotal : ∀ c e, .threw i c e ∈ τ → ¬ total c) :
    (Quiet writes τ ∧ ∀ value, p' ≠ .done value) ∨
      ∃ before c next r after, τ = before ++ .returned i c r :: after ∧
        Path i p before (.call c next) ∧ writes c r = true ∧ Quiet writes before ∧
        Quiet writes after ∧ p'.Settles writes total (ends c) := by
  cases h with
  | answered hpath =>
    rcases hpath.commits hp with ⟨hquiet, hend⟩ | hcommitted
    · left
      refine ⟨hquiet, ?_⟩
      rintro value rfl
      exact hend
    · exact Or.inr hcommitted
  | @threw τ c next e hpath =>
    rcases hpath.commits hp with ⟨hquiet, -⟩ | ⟨before, c', next', r', after, -, -, -, -, -, hend⟩
    · left
      constructor
      · exact quiet_append.mpr ⟨hquiet, quiet_cons.mpr ⟨rfl, quiet_nil⟩⟩
      · rintro value ⟨⟩
    · -- after the commit only total calls are made
      have hthrown := htotal c e (List.mem_append_right _ (List.mem_singleton_self _))
      exact absurd hend.1 hthrown

/-- The commit rule: a thread of a run has not returned and made no call that writes, so it
is silent; or one call of it changed the store and decides how it ends. -/
theorem Effects.commits {s : σ} (hkeeps : M.Keeps writes)
    (htotal : ∀ c s e, total c → ¬ M.throws c s e) (h : Effects M (.initial s) ξ c)
    {request : Req} (hthread : c.threads i = some ⟨request, p⟩)
    (hp : (M.code request).Commits writes total ends) :
    ((∀ call r, .returned i call r ∈ history ξ → writes call r = false) ∧ Silent i ξ ∧
        ∀ value, p ≠ .done value) ∨
      ∃ before call next r s₁ s₂ ξ₁ ξ₂, Path i (M.code request) before (.call call next) ∧
        before ⊆ history ξ ∧ ξ = ξ₁ ++ ⟨.returned i call r, s₁, s₂⟩ :: ξ₂ ∧
        writes call r = true ∧ M.returns call s₁ r s₂ ∧ Silent i (ξ₁ ++ ξ₂) ∧
        p.Settles writes total (ends call) := by
  rcases h.run.projected.went i _ hthread with ⟨events, hown, hwent⟩
  change (history ξ).filter (·.thread = i) = .start i request :: events at hown
  have hevents : events ⊆ history ξ := by
    intro e he
    have hmem : e ∈ (history ξ).filter (·.thread = i) := by
      rw [hown]
      exact List.mem_cons_of_mem _ he
    exact (List.mem_filter.mp hmem).1
  have hthrow : ∀ c e, .threw i c e ∈ events → ¬ total c := by
    intro call e he hcall
    rcases h.run.thrown (hevents he) with ⟨s₁, hthrows⟩
    exact htotal call s₁ e hcall hthrows
  rcases hwent.commits hp hthrow with
    ⟨hquiet, hend⟩ | ⟨before, call, next, r, after, rfl, hpath, hwrites, hbefore, hafter, hend⟩
  · left
    have hquiet : Quiet writes ((history ξ).filter (·.thread = i)) := by
      rw [hown]
      exact quiet_cons.mpr ⟨rfl, hquiet⟩
    refine ⟨?_, h.silent hkeeps (List.Subset.refl ξ) hquiet, hend⟩
    intro call r hmem
    exact hquiet _ (List.mem_filter.mpr ⟨hmem, decide_eq_true rfl⟩)
  · right
    rw [← List.cons_append] at hown
    rcases history_split hown with ⟨ξ₁, ⟨e, s₁, s₂⟩, ξ₂, rfl, rfl, hξ₁, hξ₂⟩
    have hreturns : M.returns call s₁ r s₂ :=
      h.returned (List.mem_append_right _ List.mem_cons_self)
    refine ⟨before, call, next, r, s₁, s₂, ξ₁, ξ₂, hpath,
      List.Subset.trans (List.subset_append_left _ _) hevents, rfl, hwrites, hreturns, ?_, hend⟩
    refine h.silent hkeeps ?_ ?_
    · intro x hx
      rcases List.mem_append.mp hx with hx | hx
      · exact List.mem_append_left _ hx
      · exact List.mem_append_right _ (List.mem_cons_of_mem _ hx)
    · rw [history, List.map_append, List.filter_append]
      refine quiet_append.mpr ⟨?_, ?_⟩
      · rw [show (ξ₁.map Effect.event).filter (·.thread = i) = .start i request :: before from hξ₁]
        exact quiet_cons.mpr ⟨rfl, hbefore⟩
      · rw [← hξ₂] at hafter
        exact hafter

end Commits

end Interleaving
