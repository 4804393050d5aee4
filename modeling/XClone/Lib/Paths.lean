import Mathlib.Data.List.Induction
import XClone.Lib.Interleaving

/-!
# XClone.Lib.Paths — what one thread of a run did

However the threads of a run interleave, the events of one of them are a path through
its own program, and perhaps an exception at its end: `Run.went` projects a run to a
thread, so that a question about one execution becomes one about its program.
`Path.called` goes from an event to the call that was under way before it.
-/

namespace Interleaving

variable {σ Req α ε C : Type} {R : C → Type}

/-- Thread `i` gets from a program to another through these answers. -/
inductive Path (i : ℕ) : Program C R ε α → List (Event Req ε C R) → Program C R ε α → Prop where
  | nil (p : Program C R ε α) : Path i p [] p
  | returned {c : C} {next : R c → Program C R ε α} (r : R c) {τ : List (Event Req ε C R)}
      {p : Program C R ε α} : Path i (next r) τ p → Path i (.call c next) (.returned i c r :: τ) p

namespace Path

variable {i : ℕ} {p p' p'' : Program C R ε α} {τ τ' : List (Event Req ε C R)}

theorem append (h : Path i p τ p') (h' : Path i p' τ' p'') : Path i p (τ ++ τ') p'' := by
  induction h with
  | nil => exact h'
  | returned r _ ih => exact .returned r (ih h')

/-- An ended program goes nowhere. -/
theorem of_completed (h : Path i p τ p') (hdone : p.Completed) : τ = [] ∧ p' = p := by
  cases h with
  | nil => exact ⟨rfl, rfl⟩
  | returned r _ => exact hdone.elim

/-- An answer on a path is that of a call the path makes. -/
theorem called (h : Path i p τ p') {j : ℕ} {c : C} {r : R c} (hmem : .returned j c r ∈ τ) :
    ∃ τ₁ τ₂ next, τ = τ₁ ++ .returned i c r :: τ₂ ∧ Path i p τ₁ (.call c next) ∧
      Path i (next r) τ₂ p' := by
  induction h with
  | nil => cases hmem
  | @returned call next answer τ p' hrest ih =>
    rcases List.mem_cons.mp hmem with heq | hmem
    · cases heq
      exact ⟨[], τ, next, rfl, .nil _, hrest⟩
    · rcases ih hmem with ⟨τ₁, τ₂, next', rfl, hbefore, hafter⟩
      exact ⟨_ :: τ₁, τ₂, next', rfl, .returned answer hbefore, hafter⟩

/-- The call a path has come to is among those the program can make. -/
theorem only {P : C → Prop} {c : C} {next : R c → Program C R ε α} (h : Path i p τ (.call c next))
    (hp : p.Only P) : P c := by
  generalize hend : Program.call c next = q at h
  induction h with
  | nil =>
    subst hend
    exact hp.1
  | returned r _ ih => exact ih (hp.2 r) hend

/-- A path of a composed program stays in its first part, or goes through it. -/
theorem of_bind {β : Type} {q : Program C R ε β} {f : β → Program C R ε α}
    (h : Path i (q >>= f) τ p') :
    (∃ q', Path i q τ q' ∧ p' = (q' >>= f)) ∨
      ∃ value τ₁ τ₂, τ = τ₁ ++ τ₂ ∧ Path i q τ₁ (.done value) ∧ Path i (f value) τ₂ p' := by
  induction q generalizing τ with
  | done value => exact Or.inr ⟨value, [], τ, rfl, .nil _, h⟩
  | failed error =>
    cases h with
    | nil => exact Or.inl ⟨.failed error, .nil _, rfl⟩
  | call c next ih =>
    cases h with
    | nil => exact Or.inl ⟨.call c next, .nil _, rfl⟩
    | returned r hrest =>
      rcases ih r hrest with ⟨q', hq', hp'⟩ | ⟨value, τ₁, τ₂, rfl, hq, hf⟩
      · exact Or.inl ⟨q', .returned r hq', hp'⟩
      · exact Or.inr ⟨value, _ :: τ₁, τ₂, rfl, .returned r hq, hf⟩

end Path

/-- How far thread `i` got with a program: along a path, or up to a call that threw. -/
inductive Went (i : ℕ) (p : Program C R ε α) :
    List (Event Req ε C R) → Program C R ε α → Prop where
  | answered {τ : List (Event Req ε C R)} {p' : Program C R ε α} : Path i p τ p' → Went i p τ p'
  | threw {τ : List (Event Req ε C R)} {c : C} {next : R c → Program C R ε α} (e : ε) :
      Path i p τ (.call c next) → Went i p (τ ++ [.threw i c e]) (.failed e)

namespace Went

variable {i : ℕ} {p p' : Program C R ε α} {τ : List (Event Req ε C R)}

/-- A thread that returned made no call that threw. -/
theorem done {value : α} (h : Went i p τ (.done value)) : Path i p τ (.done value) := by
  cases h with
  | answered hpath => exact hpath

/-- A thread whose next call is under way made none that threw. -/
theorem calling {c : C} {next : R c → Program C R ε α} (h : Went i p τ (.call c next)) :
    Path i p τ (.call c next) := by
  cases h with
  | answered hpath => exact hpath

/-- A thread none of whose calls threw went along a path. -/
theorem quiet (h : Went i p τ p') (hthrow : ∀ c e, .threw i c e ∉ τ) : Path i p τ p' := by
  cases h with
  | answered hpath => exact hpath
  | threw e hpath => exact absurd (List.mem_append_right _ (List.mem_singleton_self _)) (hthrow _ e)

/-- An ended program goes nowhere. -/
theorem of_completed (h : Went i p τ p') (hdone : p.Completed) : τ = [] ∧ p' = p := by
  cases h with
  | answered hpath => exact hpath.of_completed hdone
  | threw e hpath =>
    rcases hpath.of_completed hdone with ⟨-, rfl⟩
    exact hdone.elim

/-- An answer in what a thread did is that of a call it made; then it went on. -/
theorem split (h : Went i p τ p') {j : ℕ} {c : C} {r : R c} (hmem : .returned j c r ∈ τ) :
    ∃ τ₁ τ₂ next, τ = τ₁ ++ .returned i c r :: τ₂ ∧ Path i p τ₁ (.call c next) ∧
      Went i (next r) τ₂ p' := by
  cases h with
  | answered hpath =>
    rcases hpath.called hmem with ⟨τ₁, τ₂, next, hsplit, hbefore, hafter⟩
    exact ⟨τ₁, τ₂, next, hsplit, hbefore, .answered hafter⟩
  | @threw τ c' next' e hpath =>
    have hmem' : .returned j c r ∈ τ := by simpa using hmem
    rcases hpath.called hmem' with ⟨τ₁, τ₂, next, rfl, hbefore, hafter⟩
    exact ⟨τ₁, τ₂ ++ [.threw i c' e], next, by simp, hbefore, .threw e hafter⟩

theorem called (h : Went i p τ p') {j : ℕ} {c : C} {r : R c} (hmem : .returned j c r ∈ τ) :
    ∃ τ₁ τ₂ next, τ = τ₁ ++ .returned i c r :: τ₂ ∧ Path i p τ₁ (.call c next) := by
  rcases h.split hmem with ⟨τ₁, τ₂, next, hsplit, hbefore, -⟩
  exact ⟨τ₁, τ₂, next, hsplit, hbefore⟩

/-- The answered calls of a thread are among those its program can make. -/
theorem only {P : C → Prop} (h : Went i p τ p') (hp : p.Only P) {j : ℕ} {c : C} {r : R c}
    (hmem : .returned j c r ∈ τ) : P c := by
  rcases h.called hmem with ⟨τ₁, τ₂, next, -, hbefore⟩
  exact hbefore.only hp

end Went

/-! ## Rejections -/

namespace Program

/-- What the program fails with on its own satisfies `P`. -/
def Rejects (P : ε → Prop) : Program C R ε α → Prop
  | .done _ => True
  | .failed e => P e
  | .call _ next => ∀ r, (next r).Rejects P

theorem rejects_bind {β : Type} {P : ε → Prop} {p : Program C R ε α} {f : α → Program C R ε β}
    (hp : p.Rejects P) (hf : ∀ a, (f a).Rejects P) : (p >>= f).Rejects P := by
  induction p with
  | done value => exact hf value
  | failed error => exact hp
  | call c next ih => exact fun r => ih r (hp r)

theorem rejects_map {β : Type} {P : ε → Prop} {p : Program C R ε α} (hp : p.Rejects P)
    (f : α → β) : (f <$> p).Rejects P :=
  rejects_bind hp fun _ => trivial

theorem rejects_perform {P : ε → Prop} (c : C) : (perform c : Program C R ε (R c)).Rejects P :=
  fun _ => trivial

theorem rejects_ofExcept {β : Type} {P : ε → Prop} {value : Except ε α}
    {f : α → Program C R ε β} (herror : ∀ e, value = .error e → P e)
    (hok : ∀ a, value = .ok a → (f a).Rejects P) :
    (ofExcept value >>= f : Program C R ε β).Rejects P := by
  cases value with
  | ok value => exact hok value rfl
  | error error => exact herror error rfl

end Program

/-- A path that ends in a failure ends in one of the program's own. -/
theorem Path.rejects {i : ℕ} {P : ε → Prop} {p : Program C R ε α} {τ : List (Event Req ε C R)}
    {e : ε} (h : Path i p τ (.failed e)) (hp : p.Rejects P) : P e := by
  generalize hend : Program.failed e = q at h
  induction h with
  | nil =>
    subst hend
    exact hp
  | returned r _ ih => exact ih (hp r) hend

/-- What a thread failed with its program rejected, or one of its calls threw. -/
theorem Went.failure {i : ℕ} {P : ε → Prop} {p : Program C R ε α} {τ : List (Event Req ε C R)}
    {e : ε} (h : Went i p τ (.failed e)) (hp : p.Rejects P) :
    P e ∨ ∃ c, .threw i c e ∈ τ := by
  cases h with
  | answered hpath => exact Or.inl (hpath.rejects hp)
  | @threw τ c next _ hpath =>
    exact Or.inr ⟨c, List.mem_append_right _ (List.mem_singleton_self _)⟩

variable {M : Machine σ Req α ε C R}

/-! ## Runs -/

/-- The last step of a run. -/
theorem Run.last {c c' : Config σ Req α ε C R} {τ : List (Event Req ε C R)} {e : Event Req ε C R}
    (h : Run M c (τ ++ [e]) c') : ∃ c₁, Run M c τ c₁ ∧ Step M c₁ e c' := by
  generalize hwhole : τ ++ [e] = whole at h
  cases h with
  | nil => simp at hwhole
  | snoc hrun hstep =>
    rcases List.append_inj' hwhole rfl with ⟨rfl, heq⟩
    cases heq
    exact ⟨_, hrun, hstep⟩

/-- A run without events goes nowhere. -/
theorem Run.of_nil {c c' : Config σ Req α ε C R} (h : Run M c [] c') : c' = c := by
  generalize hwhole : [] = whole at h
  cases h with
  | nil => rfl
  | snoc _ _ => simp at hwhole

/-- A run is one run after another. -/
theorem Run.split {c c' : Config σ Req α ε C R} {τ τ' : List (Event Req ε C R)}
    (h : Run M c (τ ++ τ') c') : ∃ c₁, Run M c τ c₁ ∧ Run M c₁ τ' c' := by
  induction τ' using List.reverseRecOn generalizing c' with
  | nil => exact ⟨c', by rwa [List.append_nil] at h, .nil _⟩
  | append_singleton τ' e ih =>
    rw [← List.append_assoc] at h
    rcases h.last with ⟨c₂, hrun, hstep⟩
    rcases ih hrun with ⟨c₁, hbefore, hafter⟩
    exact ⟨c₁, hbefore, hafter.snoc hstep⟩

/-- The first step of a run. -/
theorem Run.first {c c' : Config σ Req α ε C R} {τ : List (Event Req ε C R)} {e : Event Req ε C R}
    (h : Run M c (e :: τ) c') : ∃ c₁, Step M c e c₁ ∧ Run M c₁ τ c' := by
  have hsplit : Run M c ([] ++ [e] ++ τ) c' := h
  rcases hsplit.split with ⟨c₂, hbefore, hafter⟩
  rcases hbefore.last with ⟨c₁, hnone, hstep⟩
  cases hnone.of_nil
  exact ⟨c₂, hstep, hafter⟩

/-- The run rule with the run so far at hand. -/
theorem Run.invariant {s : σ} {P : List (Event Req ε C R) → Config σ Req α ε C R → Prop}
    (hinit : P [] (.initial s))
    (hstep : ∀ {τ c e c'}, Run M (.initial s) τ c → P τ c → Step M c e c' → P (τ ++ [e]) c')
    {τ : List (Event Req ε C R)} {c : Config σ Req α ε C R} (h : Run M (.initial s) τ c) :
    P τ c := by
  induction τ using List.reverseRecOn generalizing c with
  | nil =>
    cases h.of_nil
    exact hinit
  | append_singleton τ e ih =>
    rcases h.last with ⟨c₁, hbefore, hlast⟩
    exact hstep hbefore (ih hbefore) hlast

/-- The run up to an event, its step, and the run after it. -/
theorem Run.at {c c' : Config σ Req α ε C R} {τ : List (Event Req ε C R)} {e : Event Req ε C R}
    (h : Run M c τ c') (hmem : e ∈ τ) :
    ∃ τ₁ τ₂ c₁ c₂, τ = τ₁ ++ e :: τ₂ ∧ Run M c τ₁ c₁ ∧ Step M c₁ e c₂ ∧ Run M c₂ τ₂ c' := by
  rcases List.append_of_mem hmem with ⟨τ₁, τ₂, rfl⟩
  rw [List.append_cons] at h
  rcases h.split with ⟨c₂, hbefore, hafter⟩
  rcases hbefore.last with ⟨c₁, hbefore, hstep⟩
  exact ⟨τ₁, τ₂, c₁, c₂, rfl, hbefore, hstep, hafter⟩

/-- The run up to an answer, what the answer did to the store, and the run after it. -/
theorem Run.answered_at {c c' : Config σ Req α ε C R} {τ : List (Event Req ε C R)}
    (h : Run M c τ c') {i : ℕ} {call : C} {r : R call} (hmem : .returned i call r ∈ τ) :
    ∃ τ₁ τ₂ c₁ c₂, τ = τ₁ ++ .returned i call r :: τ₂ ∧ Run M c τ₁ c₁ ∧
      M.returns call c₁.store r c₂.store ∧ Run M c₂ τ₂ c' := by
  rcases h.at hmem with ⟨τ₁, τ₂, c₁, c₂, hsplit, hbefore, hstep, hafter⟩
  have hreturns : M.returns call c₁.store r c₂.store := by
    cases hstep with
    | returned _ hreturns => exact hreturns
  exact ⟨τ₁, τ₂, c₁, c₂, hsplit, hbefore, hreturns, hafter⟩

/-- An exception in a history was one the machine throws. -/
theorem Run.thrown {c c' : Config σ Req α ε C R} {τ : List (Event Req ε C R)}
    (h : Run M c τ c') {i : ℕ} {call : C} {e : ε} (hmem : .threw i call e ∈ τ) :
    ∃ s, M.throws call s e := by
  rcases h.at hmem with ⟨-, -, c₁, c₂, -, -, hstep, -⟩
  cases hstep with
  | threw _ hthrows => exact ⟨_, hthrows⟩

/-- The events of a thread are its start and what it did of its program; a thread that
has not started has none. -/
structure Projected (M : Machine σ Req α ε C R) (τ : List (Event Req ε C R))
    (c : Config σ Req α ε C R) : Prop where
  fresh : ∀ i, c.threads i = none → (World.mk τ c.store).own i = []
  went : ∀ i t, c.threads i = some t → ∃ events,
    (World.mk τ c.store).own i = .start i t.request :: events ∧
      Went i (M.code t.request) events t.program

/-- A step of thread `j` leaves the others where they were. -/
theorem Projected.step_thread {τ : List (Event Req ε C R)} {c : Config σ Req α ε C R}
    (h : Projected M τ c) {e : Event Req ε C R} {j : ℕ} (hj : e.thread = j) {s : σ}
    {t : Thread Req C R ε α}
    (hown : ∃ events, (World.mk τ c.store).own j ++ [e] = .start j t.request :: events ∧
      Went j (M.code t.request) events t.program) :
    Projected M (τ ++ [e]) (c.set s j t) := by
  have hothers : ∀ i, i ≠ j →
      (World.mk (τ ++ [e]) (c.set s j t).store).own i = (World.mk τ c.store).own i :=
    fun i hij => World.own_after_of_ne ⟨τ, c.store⟩ (hj ▸ hij.symm) s
  constructor
  · intro i hi
    have hne : i ≠ j := by
      rintro rfl
      rw [Config.set_threads_self] at hi
      cases hi
    rw [Config.set_threads_of_ne _ _ hne] at hi
    exact (hothers i hne).trans (h.fresh i hi)
  · intro i t' ht'
    by_cases hij : i = j
    · -- the thread that stepped
      subst hij
      rw [Config.set_threads_self] at ht'
      cases ht'
      rcases hown with ⟨events, hevents, hwent⟩
      exact ⟨events, (World.own_after ⟨τ, c.store⟩ hj s).trans hevents, hwent⟩
    · rw [Config.set_threads_of_ne _ _ hij] at ht'
      rcases h.went i t' ht' with ⟨events, hevents, hwent⟩
      exact ⟨events, (hothers i hij).trans hevents, hwent⟩

theorem Projected.step {τ : List (Event Req ε C R)} {c c' : Config σ Req α ε C R}
    {e : Event Req ε C R} (h : Projected M τ c) (hstep : Step M c e c') :
    Projected M (τ ++ [e]) c' := by
  cases hstep with
  | start i request hnone =>
    refine h.step_thread (j := i) rfl ⟨[], ?_, .answered (.nil _)⟩
    rw [h.fresh i hnone, List.nil_append]
  | @returned i request call next r s hi hreturns =>
    rcases h.went _ _ hi with ⟨events, hevents, hwent⟩
    have hpath := hwent.calling.append (.returned r (.nil _))
    refine h.step_thread (j := i) rfl ⟨events ++ [_], ?_, .answered hpath⟩
    rw [hevents, List.cons_append]
  | @threw i request call next e hi hthrows =>
    rcases h.went _ _ hi with ⟨events, hevents, hwent⟩
    refine h.step_thread (j := i) rfl ⟨events ++ [_], ?_, .threw e hwent.calling⟩
    rw [hevents, List.cons_append]

/-- The projection rule: what the threads of a run did, each on its own. -/
theorem Run.projected {s : σ} {c : Config σ Req α ε C R} {τ : List (Event Req ε C R)}
    (h : Run M (.initial s) τ c) : Projected M τ c := by
  generalize hstart : Config.initial s = c₀ at h
  induction h with
  | nil =>
    subst hstart
    constructor
    · intro i _
      rfl
    · intro i t ht
      cases ht
  | snoc _ hstep ih => exact ih.step hstep

/-- Thread `i`, started for `request`, did `events` in the run and has come to `p`. -/
structure Did (M : Machine σ Req α ε C R) (τ : List (Event Req ε C R)) (i : ℕ) (request : Req)
    (events : List (Event Req ε C R)) (p : Program C R ε α) : Prop where
  own : ∀ e, (e ∈ τ ∧ e.thread = i) ↔ e = .start i request ∨ e ∈ events
  went : Went i (M.code request) events p

namespace Did

variable {τ events : List (Event Req ε C R)} {i : ℕ} {request : Req} {p : Program C R ε α}

theorem started (h : Did M τ i request events p) : .start i request ∈ τ :=
  ((h.own _).mpr (Or.inl rfl)).1

/-- What a thread did is in the history. -/
theorem subset (h : Did M τ i request events p) : events ⊆ τ :=
  fun e he => ((h.own e).mpr (Or.inr he)).1

/-- The answers of a thread are in what it did. -/
theorem returned (h : Did M τ i request events p) {c : C} {r : R c} :
    .returned i c r ∈ τ ↔ .returned i c r ∈ events := by
  constructor
  · intro hmem
    rcases (h.own _).mp ⟨hmem, rfl⟩ with heq | hmem
    · cases heq
    · exact hmem
  · intro hmem
    exact h.subset hmem

/-- The exceptions of a thread are in what it did. -/
theorem threw (h : Did M τ i request events p) {c : C} {e : ε} :
    .threw i c e ∈ τ ↔ .threw i c e ∈ events := by
  constructor
  · intro hmem
    rcases (h.own _).mp ⟨hmem, rfl⟩ with heq | hmem
    · cases heq
    · exact hmem
  · intro hmem
    exact h.subset hmem

end Did

/-- What one thread of a run did. -/
theorem Run.did {s : σ} {c : Config σ Req α ε C R} {τ : List (Event Req ε C R)}
    (h : Run M (.initial s) τ c) {i : ℕ} {request : Req} {p : Program C R ε α}
    (hi : c.threads i = some ⟨request, p⟩) : ∃ events, Did M τ i request events p := by
  rcases h.projected.went i _ hi with ⟨events, hown, hwent⟩
  refine ⟨events, ?_, hwent⟩
  intro e
  rw [← World.mem_own (w := ⟨τ, c.store⟩), hown, List.mem_cons]

/-- Whatever happened in a run was done by a thread. -/
theorem Run.done_by {s : σ} {c : Config σ Req α ε C R} {τ : List (Event Req ε C R)}
    (h : Run M (.initial s) τ c) {e : Event Req ε C R} (he : e ∈ τ) {i : ℕ} (hi : e.thread = i) :
    ∃ request p events, c.threads i = some ⟨request, p⟩ ∧ Did M τ i request events p := by
  cases ht : c.threads i with
  | none =>
    have hmem : e ∈ (World.mk τ c.store).own i := World.mem_own.mpr ⟨he, hi⟩
    rw [h.projected.fresh _ ht] at hmem
    cases hmem
  | some t =>
    rcases h.did ht with ⟨events, hdid⟩
    exact ⟨t.request, t.program, events, rfl, hdid⟩

end Interleaving
