import Mathlib.Logic.Function.Basic
import Mathlib.Data.List.Basic

/-!
# XClone.Lib.Interleaving — programs over a shared store

Any number of programs run against one store. Each talks to it through calls; a
call is one atomic step, and between two calls of a program the others may make
any number of theirs. A call can throw, which ends the program.

`Discipline` is the rely–guarantee rule for such systems: an invariant of the
history and the store, what each program may call, and an order the store only
grows in. `Safe` says that a program keeps to the discipline whatever the others
do and ends in its postcondition; `Run.safe` lifts it to every run.
-/

namespace Interleaving

variable {σ Req α β ε C : Type} {R : C → Type}

/-! ## Programs -/

/-- A program making calls `c : C`, whose results are in `R c`. -/
inductive Program (C : Type) (R : C → Type) (ε α : Type) : Type where
  | done (value : α)
  | failed (error : ε)
  | call (c : C) (next : R c → Program C R ε α)

namespace Program

/-- Sequential composition. -/
def bind : Program C R ε α → (α → Program C R ε β) → Program C R ε β
  | .done value, f => f value
  | .failed error, _ => .failed error
  | .call c next, f => .call c fun r => (next r).bind f

instance : Monad (Program C R ε) where
  pure := .done
  bind := .bind

theorem bind_done (p : Program C R ε α) : p.bind .done = p := by
  induction p with
  | done value => rfl
  | failed error => rfl
  | call c next ih => exact congrArg (call c) (funext ih)

theorem bind_bind {γ : Type} (p : Program C R ε α) (f : α → Program C R ε β)
    (g : β → Program C R ε γ) : (p.bind f).bind g = p.bind fun a => (f a).bind g := by
  induction p with
  | done value => rfl
  | failed error => rfl
  | call c next ih => exact congrArg (call c) (funext ih)

instance : LawfulMonad (Program C R ε) :=
  .mk' (Program C R ε) bind_done (fun _ _ => rfl) bind_bind

/-- One call. -/
def perform (c : C) : Program C R ε (R c) := .call c .done

/-- A value computed without a call, or its exception. -/
def ofExcept : Except ε α → Program C R ε α
  | .ok value => .done value
  | .error error => .failed error

@[simp] theorem pure_eq (value : α) : (pure value : Program C R ε α) = .done value := rfl

@[simp] theorem done_bind (value : α) (f : α → Program C R ε β) :
    (Program.done value >>= f) = f value := rfl

@[simp] theorem failed_bind (error : ε) (f : α → Program C R ε β) :
    (Program.failed error >>= f) = .failed error := rfl

@[simp] theorem perform_bind (c : C) (f : R c → Program C R ε β) :
    (perform c >>= f) = .call c f := rfl

@[simp] theorem call_bind (c : C) (next : R c → Program C R ε α) (f : α → Program C R ε β) :
    (Program.call c next >>= f) = .call c fun r => next r >>= f := rfl

/-- `try … catch (error) …`: `handle` runs on the exception the program ends in. Only for
programs whose calls answer: an exception of a call is not caught. -/
def tryCatch (p : Program C R ε α) (handle : ε → Program C R ε α) : Program C R ε α :=
  match p with
  | .done value => .done value
  | .failed error => handle error
  | .call c next => .call c fun r => (next r).tryCatch handle

/-- `try … finally …`: `last` runs whichever way the program ends. -/
def tryFinally (p : Program C R ε α) (last : Program C R ε Unit) : Program C R ε α := do
  let value ← p.tryCatch fun error => do
    last
    .failed error
  last
  return value

/-- The program has ended. -/
def Completed : Program C R ε α → Prop
  | .call _ _ => False
  | _ => True

/-- Every call the program can make satisfies `P`. -/
def Only (P : C → Prop) : Program C R ε α → Prop
  | .call c next => P c ∧ ∀ r, (next r).Only P
  | _ => True

end Program

namespace Program

theorem Only.mono {P Q : C → Prop} (hPQ : ∀ c, P c → Q c) {p : Program C R ε α} (h : p.Only P) :
    p.Only Q := by
  induction p with
  | done value => trivial
  | failed error => trivial
  | call c next ih => exact ⟨hPQ c h.1, fun r => ih r (h.2 r)⟩

theorem only_bind {P : C → Prop} {p : Program C R ε α} {f : α → Program C R ε β}
    (hp : p.Only P) (hf : ∀ a, (f a).Only P) : (p >>= f).Only P := by
  induction p with
  | done value => exact hf value
  | failed error => trivial
  | call c next ih => exact ⟨hp.1, fun r => ih r (hp.2 r)⟩

theorem only_map {P : C → Prop} {p : Program C R ε α} (hp : p.Only P) (f : α → β) :
    (f <$> p).Only P :=
  only_bind hp fun _ => trivial

theorem only_perform {P : C → Prop} {c : C} (hc : P c) :
    (perform c : Program C R ε (R c)).Only P :=
  ⟨hc, fun _ => trivial⟩

theorem only_ofExcept {P : C → Prop} (value : Except ε α) :
    (ofExcept value : Program C R ε α).Only P := by
  cases value with
  | ok value => trivial
  | error error => trivial

end Program

/-! ## Systems -/

/-- A program for each request, and what calls do to the store. A call that throws
leaves the store as it was. -/
structure Machine (σ Req α ε C : Type) (R : C → Type) where
  code : Req → Program C R ε α
  returns : (c : C) → σ → R c → σ → Prop
  throws : C → σ → ε → Prop

/-- A program started for a request, at the point it has reached. -/
structure Thread (Req C : Type) (R : C → Type) (ε α : Type) where
  request : Req
  program : Program C R ε α

/-- The store and the threads started so far. -/
structure Config (σ Req α ε C : Type) (R : C → Type) where
  store : σ
  threads : ℕ → Option (Thread Req C R ε α)

namespace Config

/-- The store becomes `s` and thread `i` becomes `t`. -/
def set (c : Config σ Req α ε C R) (s : σ) (i : ℕ) (t : Thread Req C R ε α) :
    Config σ Req α ε C R :=
  ⟨s, Function.update c.threads i (some t)⟩

@[simp] theorem set_store (c : Config σ Req α ε C R) (s : σ) (i : ℕ) (t : Thread Req C R ε α) :
    (c.set s i t).store = s := rfl

@[simp] theorem set_threads_self (c : Config σ Req α ε C R) (s : σ) (i : ℕ)
    (t : Thread Req C R ε α) : (c.set s i t).threads i = some t :=
  Function.update_self i _ c.threads

theorem set_threads_of_ne (c : Config σ Req α ε C R) (s : σ) {i j : ℕ} (h : i ≠ j)
    (t : Thread Req C R ε α) : (c.set s j t).threads i = c.threads i :=
  Function.update_of_ne h _ _

/-- No program has started. -/
def initial (s : σ) : Config σ Req α ε C R := ⟨s, fun _ => none⟩

end Config

/-- What a step of thread `i` did. -/
inductive Event (Req ε C : Type) (R : C → Type) where
  | start (i : ℕ) (request : Req)
  | returned (i : ℕ) (c : C) (result : R c)
  | threw (i : ℕ) (c : C) (error : ε)

namespace Event

/-- The thread that made the step. -/
def thread : Event Req ε C R → ℕ
  | .start i _ => i
  | .returned i _ _ => i
  | .threw i _ _ => i

/-- The request a step starts a thread for. -/
def started : Event Req ε C R → Option Req
  | .start _ request => some request
  | _ => none

@[simp] theorem thread_start (i : ℕ) (request : Req) :
    (Event.start i request : Event Req ε C R).thread = i := rfl

@[simp] theorem thread_returned (i : ℕ) (c : C) (result : R c) :
    (Event.returned i c result : Event Req ε C R).thread = i := rfl

@[simp] theorem thread_threw (i : ℕ) (c : C) (error : ε) :
    (Event.threw i c error : Event Req ε C R).thread = i := rfl

end Event

/-- What has happened so far, and the store it led to. -/
structure World (σ Req ε C : Type) (R : C → Type) where
  history : List (Event Req ε C R)
  store : σ

namespace World

/-- One more event, after which the store is `s`. -/
def after (w : World σ Req ε C R) (e : Event Req ε C R) (s : σ) : World σ Req ε C R :=
  ⟨w.history ++ [e], s⟩

/-- The events of thread `i`. -/
def own (w : World σ Req ε C R) (i : ℕ) : List (Event Req ε C R) :=
  w.history.filter (·.thread = i)

@[simp] theorem after_store (w : World σ Req ε C R) (e : Event Req ε C R) (s : σ) :
    (w.after e s).store = s := rfl

@[simp] theorem after_history (w : World σ Req ε C R) (e : Event Req ε C R) (s : σ) :
    (w.after e s).history = w.history ++ [e] := rfl

theorem own_after (w : World σ Req ε C R) {e : Event Req ε C R} {i : ℕ} (h : e.thread = i)
    (s : σ) : (w.after e s).own i = w.own i ++ [e] := by
  simp [own, after, h]

@[simp] theorem own_start (w : World σ Req ε C R) (i : ℕ) (request : Req) (s : σ) :
    (w.after (.start i request) s).own i = w.own i ++ [.start i request] :=
  w.own_after rfl s

@[simp] theorem own_returned (w : World σ Req ε C R) (i : ℕ) (c : C) (r : R c) (s : σ) :
    (w.after (.returned i c r) s).own i = w.own i ++ [.returned i c r] :=
  w.own_after rfl s

@[simp] theorem own_threw (w : World σ Req ε C R) (i : ℕ) (c : C) (e : ε) (s : σ) :
    (w.after (.threw i c e) s).own i = w.own i ++ [.threw i c e] :=
  w.own_after rfl s

theorem own_after_of_ne (w : World σ Req ε C R) {e : Event Req ε C R} {i : ℕ} (h : e.thread ≠ i)
    (s : σ) : (w.after e s).own i = w.own i := by
  simp [own, after, h]

theorem mem_own {w : World σ Req ε C R} {e : Event Req ε C R} {i : ℕ} :
    e ∈ w.own i ↔ e ∈ w.history ∧ e.thread = i := by
  simp [own]

end World

variable (M : Machine σ Req α ε C R)

/-- One step of the system. -/
inductive Step : Config σ Req α ε C R → Event Req ε C R → Config σ Req α ε C R → Prop where
  | start {c : Config σ Req α ε C R} (i : ℕ) (request : Req) :
      c.threads i = none →
      Step c (.start i request) (c.set c.store i ⟨request, M.code request⟩)
  | returned {c : Config σ Req α ε C R} {i : ℕ} {request : Req} {call : C}
      {next : R call → Program C R ε α} {r : R call} {s : σ} :
      c.threads i = some ⟨request, .call call next⟩ →
      M.returns call c.store r s →
      Step c (.returned i call r) (c.set s i ⟨request, next r⟩)
  | threw {c : Config σ Req α ε C R} {i : ℕ} {request : Req} {call : C}
      {next : R call → Program C R ε α} {e : ε} :
      c.threads i = some ⟨request, .call call next⟩ →
      M.throws call c.store e →
      Step c (.threw i call e) (c.set c.store i ⟨request, .failed e⟩)

/-- Any number of steps, with what they did in order. -/
inductive Run : Config σ Req α ε C R → List (Event Req ε C R) → Config σ Req α ε C R → Prop where
  | nil (c : Config σ Req α ε C R) : Run c [] c
  | snoc {c c' c'' : Config σ Req α ε C R} {τ : List (Event Req ε C R)} {e : Event Req ε C R} :
      Run c τ c' → Step M c' e c'' → Run c (τ ++ [e]) c''

variable {M}

theorem Run.append {c c' c'' : Config σ Req α ε C R} {τ τ' : List (Event Req ε C R)}
    (h : Run M c τ c') (h' : Run M c' τ' c'') : Run M c (τ ++ τ') c'' := by
  induction h' with
  | nil => simpa using h
  | snoc _ hstep ih =>
    rw [← List.append_assoc]
    exact ih.snoc hstep

/-- Threads keep the request they were started for. -/
theorem Step.request {c c' : Config σ Req α ε C R} {e : Event Req ε C R} (h : Step M c e c')
    {i : ℕ} {t : Thread Req C R ε α} (ht : c.threads i = some t) :
    ∃ t', c'.threads i = some t' ∧ t'.request = t.request := by
  cases h with
  | start j request hnone =>
    have hne : i ≠ j := by
      rintro rfl
      rw [ht] at hnone
      cases hnone
    exact ⟨t, (Config.set_threads_of_ne _ _ hne _).trans ht, rfl⟩
  | @returned j request call next r s hj hreturns =>
    by_cases hij : i = j
    · subst hij
      rw [ht] at hj
      cases hj
      exact ⟨_, Config.set_threads_self _ _ _ _, rfl⟩
    · exact ⟨t, (Config.set_threads_of_ne _ _ hij _).trans ht, rfl⟩
  | @threw j request call next e hj hthrows =>
    by_cases hij : i = j
    · subst hij
      rw [ht] at hj
      cases hj
      exact ⟨_, Config.set_threads_self _ _ _ _, rfl⟩
    · exact ⟨t, (Config.set_threads_of_ne _ _ hij _).trans ht, rfl⟩

/-- An ended thread stays as it ended. -/
theorem Step.completed {c c' : Config σ Req α ε C R} {e : Event Req ε C R} (h : Step M c e c')
    {i : ℕ} {t : Thread Req C R ε α} (ht : c.threads i = some t) (hdone : t.program.Completed) :
    c'.threads i = some t ∧ e.thread ≠ i := by
  cases h with
  | start j request hnone =>
    have hne : i ≠ j := by
      rintro rfl
      rw [ht] at hnone
      cases hnone
    exact ⟨(Config.set_threads_of_ne _ _ hne _).trans ht, hne.symm⟩
  | @returned j request call next r s hj hreturns =>
    have hne : i ≠ j := by
      rintro rfl
      rw [ht] at hj
      cases hj
      exact hdone
    exact ⟨(Config.set_threads_of_ne _ _ hne _).trans ht, hne.symm⟩
  | @threw j request call next e hj hthrows =>
    have hne : i ≠ j := by
      rintro rfl
      rw [ht] at hj
      cases hj
      exact hdone
    exact ⟨(Config.set_threads_of_ne _ _ hne _).trans ht, hne.symm⟩

/-- A started thread is there, for the request it was started for. -/
theorem Run.started {c c' : Config σ Req α ε C R} {τ : List (Event Req ε C R)}
    (h : Run M c τ c') {i : ℕ} {request : Req} (hstart : .start i request ∈ τ) :
    ∃ t, c'.threads i = some t ∧ t.request = request := by
  induction h with
  | nil => cases hstart
  | snoc _ hstep ih =>
    rcases List.mem_append.mp hstart with hold | hlast
    · rcases ih hold with ⟨t, ht, hrequest⟩
      rcases hstep.request ht with ⟨t', ht', hsame⟩
      exact ⟨t', ht', hsame.trans hrequest⟩
    · cases List.mem_singleton.mp hlast
      cases hstep with
      | start _ _ _ => exact ⟨_, Config.set_threads_self _ _ _ _, rfl⟩

/-- An answer in a history was an answer the machine gives. -/
theorem Run.answered {c c' : Config σ Req α ε C R} {τ : List (Event Req ε C R)}
    (h : Run M c τ c') {i : ℕ} {call : C} {r : R call} (hmem : .returned i call r ∈ τ) :
    ∃ s s', M.returns call s r s' := by
  induction h with
  | nil => cases hmem
  | snoc _ hstep ih =>
    rcases List.mem_append.mp hmem with hold | hlast
    · exact ih hold
    · cases List.mem_singleton.mp hlast
      cases hstep with
      | returned _ hreturns => exact ⟨_, _, hreturns⟩

/-- A thread is started once. -/
theorem Run.start_unique {c c' : Config σ Req α ε C R} {τ : List (Event Req ε C R)}
    (h : Run M c τ c') {i : ℕ} {request request' : Req} (hstart : .start i request ∈ τ)
    (hstart' : .start i request' ∈ τ) : request = request' := by
  rcases h.started hstart with ⟨t, ht, hrequest⟩
  rcases h.started hstart' with ⟨t', ht', hrequest'⟩
  rw [ht] at ht'
  cases ht'
  exact hrequest.symm.trans hrequest'

/-! ## Disciplines -/

/-- What the threads of a system agree on: an invariant, the calls each may make,
and an order the store only moves up in. -/
structure Discipline (M : Machine σ Req α ε C R) where
  inv : World σ Req ε C R → Prop
  allowed : World σ Req ε C R → ℕ → C → Prop
  grows : σ → σ → Prop
  grows_refl : ∀ s, grows s s
  grows_trans : ∀ {s t u}, grows s t → grows t u → grows s u
  returned_grows : ∀ {c s r t}, M.returns c s r t → grows s t
  inv_start : ∀ {w}, inv w → ∀ i request, inv (w.after (.start i request) w.store)
  inv_returned : ∀ {w i c r s}, inv w → allowed w i c → M.returns c w.store r s →
    inv (w.after (.returned i c r) s)
  inv_threw : ∀ {w i c e}, inv w → M.throws c w.store e → inv (w.after (.threw i c e) w.store)

namespace Discipline

variable (D : Discipline M)

/-- What the other threads can do while thread `i` waits. -/
structure Rely (i : ℕ) (w w' : World σ Req ε C R) : Prop where
  own : w'.own i = w.own i
  history : ∃ τ, w'.history = w.history ++ τ
  grows : D.grows w.store w'.store
  inv : D.inv w'

/-- From `w`, thread `i` running this program keeps to the discipline and ends with
`Q`, whatever the others do. -/
def Safe (i : ℕ) (Q : World σ Req ε C R → Except ε α → Prop) :
    Program C R ε α → World σ Req ε C R → Prop
  | .done value, w => ∀ w', D.Rely i w w' → Q w' (.ok value)
  | .failed e, w => ∀ w', D.Rely i w w' → Q w' (.error e)
  | .call c next, w => ∀ w', D.Rely i w w' →
      D.allowed w' i c ∧
      (∀ r s, M.returns c w'.store r s → Safe i Q (next r) (w'.after (.returned i c r) s)) ∧
      (∀ e, M.throws c w'.store e →
        ∀ w'', D.Rely i (w'.after (.threw i c e) w'.store) w'' → Q w'' (.error e))

variable {D}

theorem Rely.refl {i : ℕ} {w : World σ Req ε C R} (h : D.inv w) : D.Rely i w w :=
  ⟨rfl, ⟨[], by simp⟩, D.grows_refl _, h⟩

theorem Rely.trans {i : ℕ} {w w' w'' : World σ Req ε C R} (h : D.Rely i w w')
    (h' : D.Rely i w' w'') : D.Rely i w w'' := by
  rcases h.history with ⟨τ, hτ⟩
  rcases h'.history with ⟨τ', hτ'⟩
  exact ⟨h'.own.trans h.own, ⟨τ ++ τ', by rw [hτ', hτ, List.append_assoc]⟩,
    D.grows_trans h.grows h'.grows, h'.inv⟩

/-- Safety is stable under what the others do. -/
theorem Safe.stable {i : ℕ} {Q : World σ Req ε C R → Except ε α → Prop} {p : Program C R ε α}
    {w w' : World σ Req ε C R} (h : D.Safe i Q p w) (hw : D.Rely i w w') : D.Safe i Q p w' := by
  cases p with
  | done value =>
    intro w'' hw''
    exact h w'' (hw.trans hw'')
  | failed e =>
    intro w'' hw''
    exact h w'' (hw.trans hw'')
  | call c next =>
    intro w'' hw''
    exact h w'' (hw.trans hw'')

/-- A weaker postcondition. -/
theorem Safe.mono {i : ℕ} {Q Q' : World σ Req ε C R → Except ε α → Prop} {p : Program C R ε α}
    {w : World σ Req ε C R} (h : D.Safe i Q p w) (hQ : ∀ w out, Q w out → Q' w out) :
    D.Safe i Q' p w := by
  induction p generalizing w with
  | done value =>
    intro w' hw'
    exact hQ _ _ (h w' hw')
  | failed e =>
    intro w' hw'
    exact hQ _ _ (h w' hw')
  | call c next ih =>
    intro w' hw'
    rcases h w' hw' with ⟨hallowed, hreturn, hthrow⟩
    refine ⟨hallowed, ?_, ?_⟩
    · intro r s hr
      exact ih r (hreturn r s hr)
    · intro e he w'' hw''
      exact hQ _ _ (hthrow e he w'' hw'')

/-- Where everything is allowed, every program is safe for a postcondition that
always holds. -/
theorem safe_of_allowed {i : ℕ} {Q : World σ Req ε C R → Except ε α → Prop}
    (hallowed : ∀ w c, D.allowed w i c) (hQ : ∀ w out, Q w out) (p : Program C R ε α)
    (w : World σ Req ε C R) : D.Safe i Q p w := by
  induction p generalizing w with
  | done value =>
    intro w' _
    exact hQ _ _
  | failed e =>
    intro w' _
    exact hQ _ _
  | call c next ih =>
    intro w' _
    exact ⟨hallowed w' c, fun r s _ => ih r _, fun e _ w'' _ => hQ _ _⟩

/-- A program that makes only calls always allowed is safe. -/
theorem safe_of_only {i : ℕ} {P : C → Prop} (hP : ∀ w c, P c → D.allowed w i c)
    {p : Program C R ε α} (h : p.Only P) (w : World σ Req ε C R) :
    D.Safe i (fun _ _ => True) p w := by
  induction p generalizing w with
  | done value =>
    intro w' _
    trivial
  | failed e =>
    intro w' _
    trivial
  | call c next ih =>
    intro w' _
    refine ⟨hP w' c h.1, ?_, ?_⟩
    · intro r s _
      exact ih r (h.2 r) _
    · intro e _ w'' _
      trivial

/-! ## Runs -/

variable (D) in
/-- The programs of the system keep to the discipline and end in `Q`. -/
def Sound (Q : ℕ → Req → World σ Req ε C R → Except ε α → Prop) : Prop :=
  ∀ i request w, D.inv w → w.own i = [.start i request] →
    D.Safe i (Q i request) (M.code request) w

variable (D) in
/-- The system after `history`: the invariant holds, threads that have not started
have done nothing, and the others are safe. -/
structure Good (Q : ℕ → Req → World σ Req ε C R → Except ε α → Prop)
    (history : List (Event Req ε C R)) (c : Config σ Req α ε C R) : Prop where
  inv : D.inv ⟨history, c.store⟩
  fresh : ∀ i, c.threads i = none → (World.mk history c.store).own i = []
  safe : ∀ i t, c.threads i = some t → D.Safe i (Q i t.request) t.program ⟨history, c.store⟩

variable {Q : ℕ → Req → World σ Req ε C R → Except ε α → Prop}

/-- The other threads see a step as interference. -/
theorem rely_of_step {w : World σ Req ε C R} {e : Event Req ε C R} {s : σ} {i : ℕ}
    (hne : e.thread ≠ i) (hgrows : D.grows w.store s) (hinv : D.inv (w.after e s)) :
    D.Rely i w (w.after e s) :=
  ⟨w.own_after_of_ne hne s, ⟨[e], rfl⟩, hgrows, hinv⟩

/-- A step of thread `j`, after which it is safe and the invariant holds, keeps the
whole system good. -/
theorem Good.step_thread {history : List (Event Req ε C R)} {c : Config σ Req α ε C R}
    (h : D.Good Q history c) {e : Event Req ε C R} {j : ℕ} (hj : e.thread = j) {s : σ}
    (hgrows : D.grows c.store s) {t : Thread Req C R ε α}
    (hinv : D.inv ((World.mk history c.store).after e s))
    (hsafe : D.Safe j (Q j t.request) t.program ((World.mk history c.store).after e s)) :
    D.Good Q (history ++ [e]) (c.set s j t) := by
  refine ⟨hinv, ?_, ?_⟩
  · intro i hi
    have hne : i ≠ j := by
      rintro rfl
      rw [Config.set_threads_self] at hi
      cases hi
    rw [Config.set_threads_of_ne _ _ hne] at hi
    exact (World.own_after_of_ne _ (hj ▸ hne.symm) s).trans (h.fresh i hi)
  · intro i t' ht'
    by_cases hij : i = j
    · subst hij
      rw [Config.set_threads_self] at ht'
      cases ht'
      exact hsafe
    · rw [Config.set_threads_of_ne _ _ hij] at ht'
      exact (h.safe i t' ht').stable (rely_of_step (hj ▸ Ne.symm hij) hgrows hinv)

theorem Good.step (hsound : D.Sound Q) {history : List (Event Req ε C R)}
    {c c' : Config σ Req α ε C R} {e : Event Req ε C R} (h : D.Good Q history c)
    (hstep : Step M c e c') : D.Good Q (history ++ [e]) c' := by
  cases hstep with
  | start i request hnone =>
    have hinv := D.inv_start h.inv i request
    refine h.step_thread rfl (D.grows_refl _) hinv (hsound i request _ hinv ?_)
    rw [World.own_start, h.fresh i hnone, List.nil_append]
  | returned hi hreturns =>
    rcases h.safe _ _ hi _ (Rely.refl h.inv) with ⟨hallowed, hsafe, -⟩
    exact h.step_thread rfl (D.returned_grows hreturns) (D.inv_returned h.inv hallowed hreturns)
      (hsafe _ _ hreturns)
  | threw hi hthrows =>
    rcases h.safe _ _ hi _ (Rely.refl h.inv) with ⟨-, -, hsafe⟩
    exact h.step_thread rfl (D.grows_refl _) (D.inv_threw h.inv hthrows) (hsafe _ hthrows)

/-- The run rule. -/
theorem Good.run (hsound : D.Sound Q) {history τ : List (Event Req ε C R)}
    {c c' : Config σ Req α ε C R} (h : D.Good Q history c) (hrun : Run M c τ c') :
    D.Good Q (history ++ τ) c' := by
  induction hrun with
  | nil => simpa using h
  | snoc _ hstep ih =>
    rw [← List.append_assoc]
    exact ih.step hsound hstep

theorem good_initial {s : σ} (h : D.inv ⟨[], s⟩) : D.Good Q [] (Config.initial s) :=
  ⟨h, fun _ _ => rfl, fun _ _ ht => nomatch ht⟩

/-- Every ended thread of a good system has its postcondition. -/
theorem Good.done {history : List (Event Req ε C R)} {c : Config σ Req α ε C R}
    (h : D.Good Q history c) {i : ℕ} {request : Req} {value : α}
    (hi : c.threads i = some ⟨request, .done value⟩) :
    Q i request ⟨history, c.store⟩ (.ok value) :=
  h.safe _ _ hi _ (Rely.refl h.inv)

theorem Good.failed {history : List (Event Req ε C R)} {c : Config σ Req α ε C R}
    (h : D.Good Q history c) {i : ℕ} {request : Req} {e : ε}
    (hi : c.threads i = some ⟨request, .failed e⟩) :
    Q i request ⟨history, c.store⟩ (.error e) :=
  h.safe _ _ hi _ (Rely.refl h.inv)

end Discipline

end Interleaving
