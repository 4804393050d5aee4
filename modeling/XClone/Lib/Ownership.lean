import XClone.Lib.Paths

/-!
# XClone.Lib.Ownership — threads that own a part of the store

A rule for machines whose calls all answer. Each thread has a local state: what it owns
of the store and what it knows of the rest, computed from the answers it got. Local
states of different threads are `apart`, and a call of one thread leaves what the others
own and know as it is. So a program can be checked on its own, against its local state
only (`Keeps`), and `Owned.run` lifts it to every run of any number of threads.
-/

namespace Interleaving

variable {σ Req α β γ ε C L : Type} {R : C → Type} {M : Machine σ Req α ε C R}

/-- What threads own: the local states, the calls they permit, and an invariant of the
whole store. `step` is the obligation of one call. -/
structure Ownership (M : Machine σ Req α ε C R) (L : Type) where
  inv : σ → Prop
  agrees : L → σ → Prop
  apart : L → L → Prop
  permits : L → C → Prop
  /-- The local state after an answer. -/
  advance : L → (c : C) → R c → L
  /-- The local state of a thread that has done nothing. -/
  fresh : L
  answers : ∀ {c s e}, ¬ M.throws c s e
  apart_symm : ∀ {l m}, apart l m → apart m l
  fresh_agrees : ∀ s, agrees fresh s
  fresh_apart : ∀ l, apart fresh l
  step : ∀ {l c r s s'}, inv s → agrees l s → permits l c → M.returns c s r s' →
    inv s' ∧ agrees (advance l c r) s' ∧
      ∀ m, agrees m s → apart l m → agrees m s' ∧ apart (advance l c r) m

namespace Ownership

variable (O : Ownership M L)

/-- The local state a history leads a thread to. -/
def replay : List (Event Req ε C R) → L :=
  List.foldl (fun l e => match e with
    | .returned _ c r => O.advance l c r
    | _ => l) O.fresh

/-- From local state `l` the program makes only calls it is permitted, and ends in `Q`. -/
def Keeps (Q : L → Except ε γ → Prop) : L → Program C R ε γ → Prop
  | l, .done value => Q l (.ok value)
  | l, .failed e => Q l (.error e)
  | l, .call c next => O.permits l c ∧ ∀ r, Keeps Q (O.advance l c r) (next r)

variable {O}

/-! ## Programs -/

theorem Keeps.mono {Q Q' : L → Except ε γ → Prop} (hQ : ∀ l out, Q l out → Q' l out)
    {p : Program C R ε γ} {l : L} (h : O.Keeps Q l p) : O.Keeps Q' l p := by
  induction p generalizing l with
  | done value => exact hQ _ _ h
  | failed e => exact hQ _ _ h
  | call c next ih => exact ⟨h.1, fun r => ih r (h.2 r)⟩

/-- The first program ends where the second can start. -/
theorem Keeps.bind {Q : L → Except ε β → Prop} {p : Program C R ε γ} {f : γ → Program C R ε β}
    {l : L} (h : O.Keeps (fun l out => match out with
      | .ok value => O.Keeps Q l (f value)
      | .error e => Q l (.error e)) l p) : O.Keeps Q l (p >>= f) := by
  induction p generalizing l with
  | done value => exact h
  | failed e => exact h
  | call c next ih => exact ⟨h.1, fun r => ih r (h.2 r)⟩

/-- The program ends well, or where its handler can start. -/
theorem Keeps.tryCatch {Q : L → Except ε γ → Prop} {p : Program C R ε γ}
    {handle : ε → Program C R ε γ} {l : L} (h : O.Keeps (fun l out => match out with
      | .ok value => Q l (.ok value)
      | .error e => O.Keeps Q l (handle e)) l p) : O.Keeps Q l (p.tryCatch handle) := by
  induction p generalizing l with
  | done value => exact h
  | failed e => exact h
  | call c next ih => exact ⟨h.1, fun r => ih r (h.2 r)⟩

/-- Either way the program ends, what comes last can start. -/
theorem Keeps.tryFinally {Q : L → Except ε γ → Prop} {p : Program C R ε γ}
    {last : Program C R ε Unit} {l : L} (h : O.Keeps (fun l out => O.Keeps (fun l end' =>
      match end' with
      | .ok () => Q l out
      | .error e => Q l (.error e)) l last) l p) : O.Keeps Q l (p.tryFinally last) := by
  refine .bind (.tryCatch (h.mono ?_))
  intro l out hlast
  cases out with
  | ok value => exact .bind (hlast.mono fun l end' hend => by cases end' <;> exact hend)
  | error e => exact .bind (hlast.mono fun l end' hend => by cases end' <;> exact hend)

theorem keeps_perform {Q : L → Except ε (R c) → Prop} {l : L} (hpermits : O.permits l c)
    (hQ : ∀ r, Q (O.advance l c r) (.ok r)) :
    O.Keeps Q l (Program.perform c : Program C R ε (R c)) :=
  ⟨hpermits, hQ⟩

/-! ## Runs -/

/-- The system after `history`: the invariant holds, and each thread is where its own
answers led it, in a local state that agrees with the store and is apart from all
others. -/
structure Owned (O : Ownership M L) (Q : Req → L → Except ε α → Prop)
    (history : List (Event Req ε C R)) (c : Config σ Req α ε C R) : Prop where
  inv : O.inv c.store
  fresh : ∀ i, c.threads i = none → (World.mk history c.store).own i = []
  agrees : ∀ i, O.agrees (O.replay ((World.mk history c.store).own i)) c.store
  apart : ∀ i j, i ≠ j → O.apart (O.replay ((World.mk history c.store).own i))
    (O.replay ((World.mk history c.store).own j))
  keeps : ∀ i t, c.threads i = some t →
    O.Keeps (Q t.request) (O.replay ((World.mk history c.store).own i)) t.program

variable {Q : Req → L → Except ε α → Prop} {history : List (Event Req ε C R)}
  {c c' : Config σ Req α ε C R}

theorem replay_start (τ : List (Event Req ε C R)) (i : ℕ) (request : Req) :
    O.replay (τ ++ [.start i request]) = O.replay τ :=
  List.foldl_append

theorem replay_returned (τ : List (Event Req ε C R)) (i : ℕ) {call : C} (r : R call) :
    O.replay (τ ++ [.returned i call r]) = O.advance (O.replay τ) call r :=
  List.foldl_append

theorem replay_threw (τ : List (Event Req ε C R)) (i : ℕ) (call : C) (e : ε) :
    O.replay (τ ++ [.threw i call e]) = O.replay τ :=
  List.foldl_append

/-- Nobody has started. -/
theorem owned_initial {s : σ} (h : O.inv s) : O.Owned Q [] (Config.initial s) :=
  ⟨h, fun _ _ => rfl, fun _ => O.fresh_agrees s, fun _ _ _ => O.fresh_apart _,
    fun _ _ ht => nomatch ht⟩

/-- A new thread owns nothing yet. -/
theorem Owned.start (hcode : ∀ request, O.Keeps (Q request) O.fresh (M.code request))
    (h : O.Owned Q history c) (i : ℕ) (request : Req) (hnone : c.threads i = none) :
    O.Owned Q (history ++ [.start i request])
      (c.set c.store i ⟨request, M.code request⟩) := by
  have hown : (World.mk history c.store).own i = [] := h.fresh i hnone
  -- nobody's local state changes
  have hlocal : ∀ j, O.replay ((World.mk (history ++ [.start i request]) c.store).own j) =
      O.replay ((World.mk history c.store).own j) := by
    intro j
    by_cases hij : i = j
    · subst hij
      have hafter : (World.mk (history ++ [.start i request]) c.store).own i =
          (World.mk history c.store).own i ++ [.start i request] :=
        World.own_start ⟨history, c.store⟩ i request c.store
      rw [hafter, replay_start]
    · have hafter : (World.mk (history ++ [.start i request]) c.store).own j =
          (World.mk history c.store).own j := by
        refine World.own_after_of_ne ⟨history, c.store⟩ ?_ c.store
        exact hij
      rw [hafter]
  constructor
  · exact h.inv
  · intro j hj
    have hne : j ≠ i := by
      rintro rfl
      rw [Config.set_threads_self] at hj
      cases hj
    rw [Config.set_threads_of_ne _ _ hne] at hj
    exact (World.own_after_of_ne ⟨history, c.store⟩ (Ne.symm hne) c.store).trans (h.fresh j hj)
  · intro j
    rw [Config.set_store, hlocal]
    exact h.agrees j
  · intro j k hjk
    rw [Config.set_store, hlocal, hlocal]
    exact h.apart j k hjk
  · intro j t ht
    rw [Config.set_store, hlocal]
    by_cases hij : j = i
    · subst hij
      rw [Config.set_threads_self] at ht
      cases ht
      rw [hown]
      exact hcode request
    · rw [Config.set_threads_of_ne _ _ hij] at ht
      exact h.keeps j t ht

/-- A call of a thread advances its own local state, and leaves the others theirs. -/
theorem Owned.returned (h : O.Owned Q history c) {i : ℕ} {request : Req} {call : C}
    {next : R call → Program C R ε α} {r : R call} {s : σ}
    (hthread : c.threads i = some ⟨request, .call call next⟩)
    (hreturns : M.returns call c.store r s) :
    O.Owned Q (history ++ [.returned i call r]) (c.set s i ⟨request, next r⟩) := by
  rcases h.keeps i _ hthread with ⟨hpermits, hnext⟩
  rcases O.step h.inv (h.agrees i) hpermits hreturns with ⟨hinv, hagrees, hothers⟩
  have hself : O.replay ((World.mk (history ++ [.returned i call r]) s).own i) =
      O.advance (O.replay ((World.mk history c.store).own i)) call r := by
    have hafter : (World.mk (history ++ [.returned i call r]) s).own i =
        (World.mk history c.store).own i ++ [.returned i call r] :=
      World.own_returned ⟨history, c.store⟩ i call r s
    rw [hafter, replay_returned]
  have hother : ∀ j, j ≠ i → (World.mk (history ++ [.returned i call r]) s).own j =
      (World.mk history c.store).own j :=
    fun j hj => World.own_after_of_ne ⟨history, c.store⟩ (Ne.symm hj) s
  have hapart : ∀ j, j ≠ i → O.apart
      (O.advance (O.replay ((World.mk history c.store).own i)) call r)
      (O.replay ((World.mk history c.store).own j)) :=
    fun j hj => (hothers _ (h.agrees j) (h.apart i j (Ne.symm hj))).2
  constructor
  · exact hinv
  · intro j hj
    have hne : j ≠ i := by
      rintro rfl
      rw [Config.set_threads_self] at hj
      cases hj
    rw [Config.set_threads_of_ne _ _ hne] at hj
    exact (hother j hne).trans (h.fresh j hj)
  · intro j
    rw [Config.set_store]
    by_cases hij : j = i
    · subst hij
      rw [hself]
      exact hagrees
    · rw [hother j hij]
      exact (hothers _ (h.agrees j) (h.apart i j (Ne.symm hij))).1
  · intro j k hjk
    rw [Config.set_store]
    by_cases hji : j = i
    · subst hji
      rw [hself, hother k (Ne.symm hjk)]
      exact hapart k (Ne.symm hjk)
    · rw [hother j hji]
      by_cases hki : k = i
      · subst hki
        rw [hself]
        exact O.apart_symm (hapart j hji)
      · rw [hother k hki]
        exact h.apart j k hjk
  · intro j t ht
    rw [Config.set_store]
    by_cases hij : j = i
    · subst hij
      rw [Config.set_threads_self] at ht
      cases ht
      rw [hself]
      exact hnext r
    · rw [Config.set_threads_of_ne _ _ hij] at ht
      rw [hother j hij]
      exact h.keeps j t ht

theorem Owned.step (hcode : ∀ request, O.Keeps (Q request) O.fresh (M.code request))
    (h : O.Owned Q history c) {e : Event Req ε C R} (hstep : Step M c e c') :
    O.Owned Q (history ++ [e]) c' := by
  cases hstep with
  | start i request hnone => exact h.start hcode i request hnone
  | returned hthread hreturns => exact h.returned hthread hreturns
  | threw _ hthrows => exact absurd hthrows O.answers

/-- The run rule. -/
theorem owned_of_run (hcode : ∀ request, O.Keeps (Q request) O.fresh (M.code request)) {s : σ}
    (hinv : O.inv s) {τ : List (Event Req ε C R)} (hrun : Run M (.initial s) τ c) :
    O.Owned Q τ c := by
  refine Run.invariant (P := fun τ c => O.Owned Q τ c) (owned_initial hinv) ?_ hrun
  intro τ c e c' _ h hstep
  exact h.step hcode hstep

/-- A thread that has ended did so in its postcondition. -/
theorem Owned.done (h : O.Owned Q history c) {i : ℕ} {request : Req} {value : α}
    (hi : c.threads i = some ⟨request, .done value⟩) :
    Q request (O.replay ((World.mk history c.store).own i)) (.ok value) :=
  h.keeps i _ hi

/-- What no answer takes away stays along a history. -/
theorem replay_stays {P : L → Prop} (hstays : ∀ {l c r}, P l → P (O.advance l c r))
    {before : List (Event Req ε C R)} (h : P (O.replay before)) (later : List (Event Req ε C R)) :
    P (O.replay (before ++ later)) := by
  induction later using List.reverseRecOn with
  | nil => rwa [List.append_nil]
  | append_singleton later e ih =>
    rw [← List.append_assoc]
    cases e with
    | start i request =>
      rw [replay_start]
      exact ih
    | returned i call r =>
      rw [replay_returned]
      exact hstays ih
    | threw i call e =>
      rw [replay_threw]
      exact ih

/-- What an answer brings a thread, and no later one takes away, it has for every answer
in its history. -/
theorem recalled {P : (c : C) → R c → L → Prop}
    (hcode : ∀ request, O.Keeps (Q request) O.fresh (M.code request))
    (hbrings : ∀ {l c r}, O.permits l c → P c r (O.advance l c r))
    (hstays : ∀ {l c r c' r'}, P c r l → P c r (O.advance l c' r')) {s : σ} (hinv : O.inv s)
    {τ : List (Event Req ε C R)} (hrun : Run M (.initial s) τ c) {i : ℕ} {call : C}
    {r : R call} (hmem : .returned i call r ∈ τ) :
    P call r (O.replay ((World.mk τ c.store).own i)) := by
  rcases hrun.at hmem with ⟨before, later, c₁, c₂, rfl, hbefore, hstep, -⟩
  cases hstep with
  | returned hthread hreturns =>
    have hpermits := ((owned_of_run hcode hinv hbefore).keeps i _ hthread).1
    have hown : (World.mk (before ++ .returned i call r :: later) c.store).own i =
        (World.mk before c₁.store).own i ++ [.returned i call r] ++
          (World.mk later c.store).own i := by
      simp [World.own, Event.thread]
    rw [hown]
    refine replay_stays hstays ?_ _
    rw [replay_returned]
    exact hbrings hpermits

end Ownership

end Interleaving
