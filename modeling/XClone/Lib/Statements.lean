import XClone.Lib.ReadCommitted

/-!
# XClone.Lib.Statements — machines whose calls are transactions

A `Machine` makes every call in one atomic step. A `Driver` says how its calls really
reach the database: at once, or as a transaction of statements, during which the other
threads run statements of theirs. `Faithful` lists what the driver has to do for the two
to be the same system:

1. `Server.Explained.step`: every run of statements is one of atomic calls, whatever is
   still open. A transaction takes effect at its commit; one whose check has failed may
   still commit or be rolled back, so the atomic runs are quantified over which of those
   have been told their answer (`Server.shown`).
2. `reaches_of_run`: every run of atomic calls is one of statements, with each
   transaction alone.
-/

namespace ReadCommitted

open Interleaving

variable {σ Req α β γ ε C κ S : Type} {R : C → Type}

/-! ## Transactions with a continuation -/

namespace Engine

variable {E : Engine σ κ S}

/-- A transaction whose result is mapped. -/
theorem alone_map (f : β → γ) (p : Transaction S ε β) (s : σ) :
    E.alone (f <$> p) s = (E.alone p s).map fun done => (f done.1, done.2) := by
  induction p generalizing s with
  | done value => rfl
  | failed error => rfl
  | call c next ih =>
    have hmap : E.alone (f <$> Program.call c next) s =
        if E.found c s then E.alone (f <$> next true) (E.write c s)
        else if E.reports c then E.alone (f <$> next false) s else none := rfl
    rw [hmap, Engine.alone]
    split
    · exact ih true _
    · split
      · exact ih false _
      · rfl

theorem Guarded.map (f : β → γ) {p : Transaction S ε β} {before : List S}
    (h : E.Guarded before p) : E.Guarded before (f <$> p) := by
  induction p generalizing before with
  | done value => trivial
  | failed error => trivial
  | call c next ih =>
    rcases h with ⟨hsame, hmiss, hrest⟩
    refine ⟨hsame, fun hreports => ?_, ih true hrest⟩
    rcases hmiss hreports with ⟨hquiet, value, hvalue⟩
    refine ⟨hquiet, f value, ?_⟩
    show f <$> next false = .done (f value)
    rw [hvalue]
    rfl

end Engine

/-- The transaction cannot throw by itself. -/
def Unfailing : Transaction S ε β → Prop
  | .done _ => True
  | .failed _ => False
  | .call _ next => ∀ found, Unfailing (next found)

theorem Unfailing.map (f : β → γ) {p : Transaction S ε β} (h : Unfailing p) :
    Unfailing (f <$> p) := by
  induction p with
  | done value => trivial
  | failed error => exact h.elim
  | call c next ih => exact fun found => ih found (h found)

/-! ## Statements on a part of the store -/

section Embedding

variable {σ' κ' S' : Type}

/-- The same transaction, its statements among those of a larger engine. -/
def relabel (embed : S' → S) : Transaction S' ε β → Transaction S ε β
  | .done value => .done value
  | .failed error => .failed error
  | .call c next => .call (embed c) fun found => relabel embed (next found)

/-- The statements of `E'` work on `part` of the store of `E`. -/
structure Embeds (E' : Engine σ' κ' S') (E : Engine σ κ S) (embed : S' → S) (part : σ → σ') :
    Prop where
  reports : ∀ a, E.reports (embed a) = E'.reports a
  found : ∀ a s, E.found (embed a) s = E'.found a (part s)
  write : ∀ a s, part (E.write (embed a) s) = E'.write a (part s)
  still : ∀ a, (∀ t, E'.write a t = t) → ∀ s, E.write (embed a) s = s

theorem Unfailing.relabel (embed : S' → S) {p : Transaction S' ε β} (h : Unfailing p) :
    Unfailing (relabel embed p) := by
  induction p with
  | done value => trivial
  | failed error => exact h.elim
  | call c next ih => exact fun found => ih found (h found)

variable {E' : Engine σ' κ' S'} {E : Engine σ κ S} {embed : S' → S} {part : σ → σ'}

/-- On its part of the store the transaction does what it did. -/
theorem Embeds.alone (h : Embeds E' E embed part) (p : Transaction S' ε β) (s : σ) :
    (E.alone (relabel embed p) s).map (fun done => (done.1, part done.2)) =
      E'.alone p (part s) := by
  induction p generalizing s with
  | done value => rfl
  | failed error => rfl
  | call c next ih =>
    rw [relabel, Engine.alone, Engine.alone, h.found, h.reports]
    split
    · rw [ih, h.write]
    · split
      · exact ih false s
      · rfl

/-- The rest of the store stays as it is. -/
theorem alone_relabel_keeps (rest : σ → γ) (hrest : ∀ a s, rest (E.write (embed a) s) = rest s)
    {p : Transaction S' ε β} {s s' : σ} {value : β}
    (h : E.alone (relabel embed p) s = some (value, s')) : rest s' = rest s := by
  induction p generalizing s with
  | done value =>
    cases h
    rfl
  | failed error => cases h
  | call c next ih =>
    rw [relabel, Engine.alone] at h
    split at h
    · exact (ih true h).trans (hrest c s)
    · split at h
      · exact ih false h
      · cases h

theorem Embeds.guarded (h : Embeds E' E embed part) {p : Transaction S' ε β} {before : List S'}
    (hp : E'.Guarded before p) : E.Guarded (before.map embed) (relabel embed p) := by
  induction p generalizing before with
  | done value => trivial
  | failed error => trivial
  | call c next ih =>
    rcases hp with ⟨hsame, hmiss, hrest⟩
    refine ⟨?_, ?_, ?_⟩
    · intro d hd s
      rcases List.mem_map.mp hd with ⟨a, ha, rfl⟩
      rw [h.found, h.found, h.write]
      exact hsame a ha (part s)
    · intro hreports
      rw [h.reports] at hreports
      rcases hmiss hreports with ⟨hquiet, value, hvalue⟩
      refine ⟨?_, value, ?_⟩
      · intro d hd
        rcases List.mem_map.mp hd with ⟨a, ha, rfl⟩
        exact h.still a (hquiet a ha)
      · show relabel embed (next false) = .done value
        rw [hvalue, relabel]
    · have htail := ih true hrest
      rw [List.map_append] at htail
      exact htail

end Embedding

/-! ## Drivers -/

/-- How the calls of a machine reach the database: `code` is the transaction of a call,
or `none` where it is a single step; `violation` is what a violated constraint throws and
`lost` what a deadlock or a lost connection throws. -/
structure Driver (M : Machine σ Req α ε C R) (κ S : Type) where
  engine : Engine σ κ S
  code : (c : C) → Option (Transaction S ε (R c))
  violation : C → ε
  lost : ε

variable {M : Machine σ Req α ε C R}

/-- Alone, the transaction of a call does what the call does, and the other calls leave
what a statement found where it is. -/
structure Driver.Faithful (D : Driver M κ S) : Prop where
  framed : D.engine.Framed
  guarded : ∀ {c code}, D.code c = some code → D.engine.Guarded [] code
  unfailing : ∀ {c code}, D.code c = some code → Unfailing code
  keeps : ∀ {c s r s'}, D.code c = none → M.returns c s r s' →
    ∀ a, D.engine.found a s = true → D.engine.found a s' = true
  returns : ∀ {c code}, D.code c = some code → ∀ s r s',
    M.returns c s r s' ↔ D.engine.alone code s = some (r, s')
  throws : ∀ {c code}, D.code c = some code → ∀ s e,
    M.throws c s e ↔ e = D.lost ∨ (e = D.violation c ∧ D.engine.alone code s = none)

/-! ## The system -/

/-- An open transaction, `missed` once a check has failed. -/
structure Open (S ε β : Type) where
  program : Transaction S ε β
  scanned : Bool
  missed : Bool
  held : List S
  passed : List S

/-- A thread, with the transaction of the call it waits for. -/
structure Worker (Req C : Type) (R : C → Type) (S ε α : Type) where
  request : Req
  program : Program C R ε α
  transaction : Option (Open S ε (Program C R ε α))

namespace Worker

variable (w : Worker Req C R S ε α)

/-- Its transaction is at `x`. -/
def within (x : Open S ε (Program C R ε α)) : Worker Req C R S ε α :=
  { w with transaction := some x }

/-- Its call is over, and it goes on with `p`. -/
def goesOn (p : Program C R ε α) : Worker Req C R S ε α :=
  { w with program := p, transaction := none }

@[simp] theorem within_request (x : Open S ε (Program C R ε α)) :
    (w.within x).request = w.request := rfl

@[simp] theorem within_program (x : Open S ε (Program C R ε α)) :
    (w.within x).program = w.program := rfl

@[simp] theorem within_transaction (x : Open S ε (Program C R ε α)) :
    (w.within x).transaction = some x := rfl

@[simp] theorem goesOn_request (p : Program C R ε α) : (w.goesOn p).request = w.request := rfl

@[simp] theorem goesOn_program (p : Program C R ε α) : (w.goesOn p).program = p := rfl

@[simp] theorem goesOn_transaction (p : Program C R ε α) : (w.goesOn p).transaction = none := rfl

end Worker

/-- The committed store and the threads started so far. -/
structure Server (σ Req α ε C : Type) (R : C → Type) (S : Type) where
  committed : σ
  workers : ℕ → Option (Worker Req C R S ε α)

namespace Server

/-- `s` is committed and worker `i` becomes `w`. -/
def set (k : Server σ Req α ε C R S) (s : σ) (i : ℕ) (w : Worker Req C R S ε α) :
    Server σ Req α ε C R S :=
  ⟨s, Function.update k.workers i (some w)⟩

@[simp] theorem set_committed (k : Server σ Req α ε C R S) (s : σ) (i : ℕ)
    (w : Worker Req C R S ε α) : (k.set s i w).committed = s := rfl

@[simp] theorem set_self (k : Server σ Req α ε C R S) (s : σ) (i : ℕ)
    (w : Worker Req C R S ε α) : (k.set s i w).workers i = some w :=
  Function.update_self i _ k.workers

theorem set_of_ne (k : Server σ Req α ε C R S) (s : σ) {i j : ℕ} (h : i ≠ j)
    (w : Worker Req C R S ε α) : (k.set s j w).workers i = k.workers i :=
  Function.update_of_ne h _ _

/-- The threads of a machine, none of them inside a call. -/
def between (c : Interleaving.Config σ Req α ε C R) : Server σ Req α ε C R S :=
  ⟨c.store, fun i => (c.threads i).map fun t => ⟨t.request, t.program, none⟩⟩

/-- Worker `i` is inside the transaction `x`. -/
def Inside (k : Server σ Req α ε C R S) (i : ℕ) (w : Worker Req C R S ε α)
    (x : Open S ε (Program C R ε α)) : Prop :=
  k.workers i = some w ∧ w.transaction = some x

/-- No worker is inside a transaction. -/
def Quiet (k : Server σ Req α ε C R S) : Prop :=
  ∀ i w, k.workers i = some w → w.transaction = none

variable (D : Driver M κ S)

/-- The store as the transaction `x` sees it. -/
def view (k : Server σ Req α ε C R S) (x : Open S ε (Program C R ε α)) : σ :=
  D.engine.writes x.passed k.committed

/-- No other open transaction holds a lock that conflicts with `statement`. -/
def Unblocked (k : Server σ Req α ε C R S) (i : ℕ) (statement : S) : Prop :=
  ∀ j, j ≠ i → ∀ w x, k.Inside j w x → ∀ a ∈ x.held, ¬ D.engine.Conflicts statement a

/-- A step of worker `i`: of its program, or of the transaction it is inside. -/
inductive Step : Server σ Req α ε C R S → Server σ Req α ε C R S → Prop where
  | start {k : Server σ Req α ε C R S} (i : ℕ) (request : Req) :
      k.workers i = none →
      Step k (k.set k.committed i ⟨request, M.code request, none⟩)
  /-- A call that is a single step returns. -/
  | returned {k : Server σ Req α ε C R S} {i : ℕ} {w : Worker Req C R S ε α} {c : C}
      {next : R c → Program C R ε α} {r : R c} {s : σ} :
      k.workers i = some w → w.transaction = none → w.program = .call c next →
      D.code c = none → M.returns c k.committed r s →
      Step k (k.set s i (w.goesOn (next r)))
  | threw {k : Server σ Req α ε C R S} {i : ℕ} {w : Worker Req C R S ε α} {c : C}
      {next : R c → Program C R ε α} {e : ε} :
      k.workers i = some w → w.transaction = none → w.program = .call c next →
      D.code c = none → M.throws c k.committed e →
      Step k (k.set k.committed i (w.goesOn (.failed e)))
  /-- `BEGIN`. -/
  | opened {k : Server σ Req α ε C R S} {i : ℕ} {w : Worker Req C R S ε α} {c : C}
      {next : R c → Program C R ε α} {code : Transaction S ε (R c)} :
      k.workers i = some w → w.transaction = none → w.program = .call c next →
      D.code c = some code →
      Step k (k.set k.committed i (w.within ⟨next <$> code, false, false, [], []⟩))
  /-- The scan finds the row. -/
  | scan {k : Server σ Req α ε C R S} {i : ℕ} {w : Worker Req C R S ε α}
      {x : Open S ε (Program C R ε α)} {statement : S}
      {next : Bool → Transaction S ε (Program C R ε α)} :
      k.Inside i w x → x.program = .call statement next →
      D.engine.reports statement = true → x.scanned = false →
      D.engine.found statement (k.view D x) = true →
      Step k (k.set k.committed i (w.within { x with scanned := true }))
  /-- The scan finds nothing. -/
  | scanEmpty {k : Server σ Req α ε C R S} {i : ℕ} {w : Worker Req C R S ε α}
      {x : Open S ε (Program C R ε α)} {statement : S}
      {next : Bool → Transaction S ε (Program C R ε α)} :
      k.Inside i w x → x.program = .call statement next →
      D.engine.reports statement = true → x.scanned = false →
      D.engine.found statement (k.view D x) = false →
      Step k (k.set k.committed i (w.within { x with program := next false, missed := true }))
  /-- The lock is free and the row still matches, or the entries of an insert are free. -/
  | lock {k : Server σ Req α ε C R S} {i : ℕ} {w : Worker Req C R S ε α}
      {x : Open S ε (Program C R ε α)} {statement : S}
      {next : Bool → Transaction S ε (Program C R ε α)} :
      k.Inside i w x → x.program = .call statement next →
      x.scanned = D.engine.reports statement → k.Unblocked D i statement →
      D.engine.found statement (k.view D x) = true →
      Step k (k.set k.committed i
        (w.within ⟨next true, false, x.missed, statement :: x.held, x.passed ++ [statement]⟩))
  /-- The lock is free, but the row no longer matches. -/
  | recheck {k : Server σ Req α ε C R S} {i : ℕ} {w : Worker Req C R S ε α}
      {x : Open S ε (Program C R ε α)} {statement : S}
      {next : Bool → Transaction S ε (Program C R ε α)} :
      k.Inside i w x → x.program = .call statement next →
      D.engine.reports statement = true → x.scanned = true → k.Unblocked D i statement →
      D.engine.found statement (k.view D x) = false →
      Step k (k.set k.committed i
        (w.within ⟨next false, false, true, statement :: x.held, x.passed⟩))
  /-- The entries of an insert are free of locks, but taken. -/
  | violated {k : Server σ Req α ε C R S} {i : ℕ} {w : Worker Req C R S ε α}
      {x : Open S ε (Program C R ε α)} {statement : S}
      {next : Bool → Transaction S ε (Program C R ε α)} {c : C} {rest : R c → Program C R ε α} :
      k.Inside i w x → x.program = .call statement next → w.program = .call c rest →
      D.engine.reports statement = false → k.Unblocked D i statement →
      D.engine.found statement (k.view D x) = false →
      Step k (k.set k.committed i (w.goesOn (.failed (D.violation c))))
  | commit {k : Server σ Req α ε C R S} {i : ℕ} {w : Worker Req C R S ε α}
      {x : Open S ε (Program C R ε α)} {p : Program C R ε α} :
      k.Inside i w x → x.program = .done p →
      Step k (k.set (k.view D x) i (w.goesOn p))
  /-- A deadlock, or a lost connection. -/
  | rollback {k : Server σ Req α ε C R S} {i : ℕ} {w : Worker Req C R S ε α}
      {x : Open S ε (Program C R ε α)} :
      k.Inside i w x → Step k (k.set k.committed i (w.goesOn (.failed D.lost)))

/-- What any number of steps leads to from a store nobody has used yet. -/
def Reaches (s : σ) (k : Server σ Req α ε C R S) : Prop :=
  Relation.ReflTransGen (Step D) (between (.initial s)) k

end Server

/-! ## The atomic system -/

/-- The program as seen once the transaction has answered: where a check has failed and
`answered`, what follows the answer. -/
def Worker.told (w : Worker Req C R S ε α) (answered : Bool) : Program C R ε α :=
  match w.transaction with
  | some ⟨.done p, _, true, _, _⟩ => if answered then p else w.program
  | _ => w.program

namespace Server

/-- The configuration of atomic calls, where of the failed checks those of `answered` have
answered. -/
def shown (k : Server σ Req α ε C R S) (answered : ℕ → Bool) :
    Interleaving.Config σ Req α ε C R :=
  ⟨k.committed, fun i => (k.workers i).map fun w => ⟨w.request, w.told (answered i)⟩⟩

/-- Where every thread is, those inside a transaction before their call. -/
def observed (k : Server σ Req α ε C R S) : Interleaving.Config σ Req α ε C R :=
  ⟨k.committed, fun i => (k.workers i).map fun w => ⟨w.request, w.program⟩⟩

end Server

namespace Worker

variable {w : Worker Req C R S ε α} {x : Open S ε (Program C R ε α)}

theorem told_none (h : w.transaction = none) (answered : Bool) : w.told answered = w.program := by
  unfold told
  rw [h]

theorem told_false : w.told false = w.program := by
  unfold told
  split <;> rfl

theorem told_running (h : w.transaction = some x) (hmissed : x.missed = false) (answered : Bool) :
    w.told answered = w.program := by
  unfold told
  split
  · rename_i heq
    rw [h] at heq
    cases heq
    cases hmissed
  · rfl

theorem told_within (hmissed : x.missed = false) (answered : Bool) :
    (w.within x).told answered = w.program :=
  told_running rfl hmissed answered

theorem told_missed (h : w.transaction = some x) (hmissed : x.missed = true)
    {p : Program C R ε α} (hdone : x.program = .done p) : w.told true = p := by
  cases x
  cases hmissed
  cases hdone
  unfold told
  rw [h]
  rfl

end Worker

namespace Server

variable {k : Server σ Req α ε C R S} {i : ℕ} {w w' : Worker Req C R S ε α}
  {x : Open S ε (Program C R ε α)}

theorem shown_set (k : Server σ Req α ε C R S) (s : σ) (i : ℕ) (w : Worker Req C R S ε α)
    (answered : ℕ → Bool) :
    (k.set s i w).shown answered =
      (k.shown answered).set s i ⟨w.request, w.told (answered i)⟩ := by
  simp only [shown, Interleaving.Config.set, set_committed, Interleaving.Config.mk.injEq, true_and]
  funext j
  by_cases hj : j = i
  · subst hj
    rw [set_self, Function.update_self]
    rfl
  · rw [k.set_of_ne s hj, Function.update_of_ne hj]

/-- What a worker does inside its transaction is not seen. -/
theorem shown_within (hi : k.workers i = some w) {answered : ℕ → Bool}
    (htold : (w.within x).told (answered i) = w.told (answered i)) :
    (k.set k.committed i (w.within x)).shown answered = k.shown answered := by
  rw [shown_set, Worker.within_request, htold]
  simp only [shown, Interleaving.Config.set, Interleaving.Config.mk.injEq, true_and]
  funext j
  by_cases hj : j = i
  · subst hj
    rw [Function.update_self, hi]
    rfl
  · rw [Function.update_of_ne hj]

/-- Whether worker `i` has been answered matters for it alone. -/
theorem shown_update (k : Server σ Req α ε C R S) (s : σ) (i : ℕ) (w : Worker Req C R S ε α)
    (hw : w.transaction = none) (answered : ℕ → Bool) (b : Bool) :
    (k.set s i w).shown answered =
      (k.shown (Function.update answered i b)).set s i ⟨w.request, w.program⟩ := by
  rw [shown_set, Worker.told_none hw]
  simp only [shown, Interleaving.Config.set, Interleaving.Config.mk.injEq, true_and]
  funext j
  by_cases hj : j = i
  · subst hj
    rw [Function.update_self, Function.update_self]
  · rw [Function.update_of_ne hj, Function.update_of_ne hj, Function.update_of_ne hj]

theorem shown_threads (hi : k.workers i = some w) (answered : ℕ → Bool) :
    (k.shown answered).threads i = some ⟨w.request, w.told (answered i)⟩ := by
  simp only [shown, hi]
  rfl

theorem shown_observed (k : Server σ Req α ε C R S) : k.shown (fun _ => false) = k.observed := by
  simp only [shown, observed, Worker.told_false]

/-! ## Statements refine atomic calls -/

theorem inside_set_self {s : σ} {w₁ : Worker Req C R S ε α}
    (h : (k.set s i w).Inside i w₁ x) : w₁ = w ∧ w.transaction = some x := by
  rcases h with ⟨hworker, htransaction⟩
  rw [set_self] at hworker
  cases hworker
  exact ⟨rfl, htransaction⟩

theorem inside_set_of_ne {s : σ} {j : ℕ} {w₁ : Worker Req C R S ε α} (hj : j ≠ i)
    (h : (k.set s i w).Inside j w₁ x) : k.Inside j w₁ x := by
  rcases h with ⟨hworker, htransaction⟩
  rw [k.set_of_ne s hj] at hworker
  exact ⟨hworker, htransaction⟩

/-- What is known of a worker inside the transaction `x`, over the committed store `s`:
the checks it passed still hold, and it has come as far as they say, or a check failed
before it had written anything. -/
structure Tracked (D : Driver M κ S) (s : σ) (w : Worker Req C R S ε α)
    (x : Open S ε (Program C R ε α)) : Prop where
  held : ∀ a ∈ x.passed, a ∈ x.held
  found : ∀ a ∈ x.passed, D.engine.found a s = true
  call : ∃ c next code, w.program = .call c next ∧ D.code c = some code ∧
    (x.missed = false → Engine.Follows (next <$> code) x.passed x.program) ∧
    (x.missed = true → (∀ s, D.engine.writes x.passed s = s) ∧ ∃ r, x.program = .done (next r))

/-- Atomic calls explain the server, whichever of its failed checks have answered. -/
structure Explained (D : Driver M κ S) (s₀ : σ) (k : Server σ Req α ε C R S) : Prop where
  atomic : ∀ answered, ∃ τ, Run M (.initial s₀) τ (k.shown answered)
  tracked : ∀ {i w x}, k.Inside i w x → Tracked D k.committed w x
  exclusive : ∀ {i j w x w' x'}, i ≠ j → k.Inside i w x → k.Inside j w' x' →
    ∀ a ∈ x.held, ∀ b ∈ x'.held, ¬ D.engine.Conflicts a b

theorem explained_initial (D : Driver M κ S) (s₀ : σ) :
    Explained D s₀ (between (.initial s₀)) where
  atomic _ := ⟨[], .nil _⟩
  tracked h := nomatch h.1
  exclusive _ h := nomatch h.1

variable {D : Driver M κ S} {s₀ s : σ}

/-- With a call to make, no check has failed yet. -/
theorem Tracked.running (h : Tracked D s w x) {statement : S}
    {rest : Bool → Transaction S ε (Program C R ε α)} (hprogram : x.program = .call statement rest) :
    x.missed = false ∧ ∃ c next code, w.program = .call c next ∧ D.code c = some code ∧
      Engine.Follows (next <$> code) x.passed (.call statement rest) := by
  rcases h.call with ⟨c, next, code, hcall, hcode, hrunning, hmissed⟩
  cases hx : x.missed with
  | true =>
    rcases hmissed hx with ⟨-, r, hdone⟩
    rw [hprogram] at hdone
    cases hdone
  | false => exact ⟨rfl, c, next, code, hcall, hcode, hprogram ▸ hrunning hx⟩

/-- The call returns what its transaction does alone. -/
theorem returns_of_alone (hfaithful : D.Faithful) {c : C} {next : R c → Program C R ε α}
    {code : Transaction S ε (R c)} (hcode : D.code c = some code) {p : Program C R ε α} {s' : σ}
    (h : D.engine.alone (next <$> code) s = some (p, s')) :
    ∃ r, p = next r ∧ M.returns c s r s' := by
  rw [Engine.alone_map] at h
  rcases Option.map_eq_some_iff.mp h with ⟨⟨r, s''⟩, halone, heq⟩
  cases heq
  exact ⟨r, rfl, (hfaithful.returns hcode _ _ _).mpr halone⟩

namespace Explained

/-- One worker changes, and what the others found stays where it is. -/
theorem set (h : Explained D s₀ k)
    (hatomic : ∀ answered, ∃ τ, Run M (.initial s₀) τ ((k.set s i w').shown answered))
    (hfound : ∀ {j w x}, j ≠ i → k.Inside j w x → ∀ a ∈ x.passed, D.engine.found a s = true)
    (hown : ∀ x, w'.transaction = some x → Tracked D s w' x)
    (hheld : ∀ x, w'.transaction = some x → ∀ {j w' x'}, j ≠ i → k.Inside j w' x' →
      ∀ a ∈ x.held, ∀ b ∈ x'.held, ¬ D.engine.Conflicts a b) :
    Explained D s₀ (k.set s i w') := by
  refine ⟨hatomic, ?_, ?_⟩
  · intro j w x hj
    by_cases hji : j = i
    · subst hji
      rcases inside_set_self hj with ⟨rfl, hx⟩
      exact hown x hx
    · have hj' := inside_set_of_ne hji hj
      exact { h.tracked hj' with found := hfound hji hj' }
  · intro j l w x w₁ x₁ hne hj hl a ha b hb
    by_cases hji : j = i
    · subst hji
      rcases inside_set_self hj with ⟨rfl, hx⟩
      exact hheld x hx hne.symm (inside_set_of_ne hne.symm hl) a ha b hb
    · by_cases hli : l = i
      · subst hli
        rcases inside_set_self hl with ⟨rfl, hx⟩
        intro hconflict
        exact hheld x₁ hx hne (inside_set_of_ne hne hj) b hb a ha hconflict.symm
      · exact h.exclusive hne (inside_set_of_ne hji hj) (inside_set_of_ne hli hl) a ha b hb

/-- A worker goes on inside its transaction, and nothing is seen of it. -/
theorem within (h : Explained D s₀ k) (hi : k.workers i = some w)
    (htold : ∀ b, (w.within x).told b = w.told b) (htracked : Tracked D k.committed (w.within x) x)
    (hheld : ∀ {j w' x'}, j ≠ i → k.Inside j w' x' →
      ∀ a ∈ x.held, ∀ b ∈ x'.held, ¬ D.engine.Conflicts a b) :
    Explained D s₀ (k.set k.committed i (w.within x)) := by
  refine h.set ?_ ?_ ?_ ?_
  · intro answered
    rw [shown_within hi (htold _)]
    exact h.atomic answered
  · intro j w₁ x₁ _ hj
    exact (h.tracked hj).found
  · intro x' hx'
    cases hx'
    exact htracked
  · intro x' hx'
    cases hx'
    exact hheld

/-- A worker goes on with its program, by a step of atomic calls from the configuration in
which it has been answered, or in which it has not. -/
theorem goesOn (h : Explained D s₀ k) (hw' : w'.transaction = none) (b : Bool)
    (hstep : ∀ answered : ℕ → Bool, answered i = b → ∀ τ,
      Run M (.initial s₀) τ (k.shown answered) →
      ∃ τ', Run M (.initial s₀) τ' ((k.shown answered).set s i ⟨w'.request, w'.program⟩))
    (hfound : ∀ {j w x}, j ≠ i → k.Inside j w x → ∀ a ∈ x.passed, D.engine.found a s = true) :
    Explained D s₀ (k.set s i w') := by
  refine h.set ?_ hfound ?_ ?_
  · intro answered
    rcases h.atomic (Function.update answered i b) with ⟨τ, hrun⟩
    rw [shown_update k s i w' hw' answered b]
    exact hstep _ (Function.update_self i b answered) τ hrun
  · intro x hx
    rw [hw'] at hx
    cases hx
  · intro x hx
    rw [hw'] at hx
    cases hx

/-- What the others found is still committed. -/
theorem found_committed (h : Explained D s₀ k) {j : ℕ} {w₁ : Worker Req C R S ε α}
    {x₁ : Open S ε (Program C R ε α)} (_ : j ≠ i) (hj : k.Inside j w₁ x₁) :
    ∀ a ∈ x₁.passed, D.engine.found a k.committed = true :=
  (h.tracked hj).found

/-- What the others found is not among what this transaction writes. -/
theorem found_view (h : Explained D s₀ k) (hfaithful : D.Faithful) (hi : k.Inside i w x) {j : ℕ}
    {w₁ : Worker Req C R S ε α} {x₁ : Open S ε (Program C R ε α)} (hji : j ≠ i)
    (hj : k.Inside j w₁ x₁) : ∀ a ∈ x₁.passed, D.engine.found a (k.view D x) = true := by
  intro a ha
  refine hfaithful.framed.writes ?_ ((h.tracked hj).found a ha)
  intro b hb
  exact h.exclusive hji hj hi a ((h.tracked hj).held a ha) b ((h.tracked hi).held b hb)

/-- A check fails: nothing is seen of it until the transaction answers, which it can now. -/
theorem miss (h : Explained D s₀ k) (hfaithful : D.Faithful) (hi : k.Inside i w x) {statement : S}
    {rest : Bool → Transaction S ε (Program C R ε α)} (hprogram : x.program = .call statement rest)
    (hreports : D.engine.reports statement = true)
    (hmiss : D.engine.found statement (k.view D x) = false) {x' : Open S ε (Program C R ε α)}
    (hx' : x'.program = rest false) (hmissed : x'.missed = true) (hpassed : x'.passed = x.passed)
    (hsub : ∀ a ∈ x.held, a ∈ x'.held)
    (hheld : ∀ {j w' x₁}, j ≠ i → k.Inside j w' x₁ →
      ∀ a ∈ x'.held, ∀ b ∈ x₁.held, ¬ D.engine.Conflicts a b) :
    Explained D s₀ (k.set k.committed i (w.within x')) := by
  have htracked := h.tracked hi
  rcases htracked.running hprogram with ⟨hrunning, c, next, code, hcall, hcode, hfollows⟩
  have hguarded := (hfaithful.guarded hcode).map next
  -- what it sees of its check is what is committed, so alone it would miss it too
  have hmiss' : D.engine.found statement k.committed = false :=
    (Engine.found_writes (hfollows.guarded hguarded).1 k.committed).symm.trans hmiss
  rcases hfollows.alone_miss hguarded htracked.found hreports hmiss' with
    ⟨hquiet, value, hvalue, halone⟩
  rcases returns_of_alone hfaithful hcode halone with ⟨r, rfl, hreturns⟩
  have hdone : (w.within x').transaction = some x' := rfl
  refine h.set ?_ h.found_committed ?_ ?_
  · intro answered
    rcases h.atomic answered with ⟨τ, hrun⟩
    cases hanswered : answered i with
    | false =>
      have hsame : (w.within x').told (answered i) = w.told (answered i) := by
        rw [hanswered, Worker.told_false, Worker.told_false]
        rfl
      rw [shown_within hi.1 hsame]
      exact ⟨τ, hrun⟩
    | true =>
      -- the call returns where the check fails
      refine ⟨τ ++ [.returned i c r], ?_⟩
      rw [shown_set, hanswered, Worker.told_missed hdone hmissed (hx'.trans hvalue)]
      refine hrun.snoc (Interleaving.Step.returned ?_ hreturns)
      rw [shown_threads hi.1, Worker.told_running hi.2 hrunning, hcall]
      rfl
  · intro x₁ hx₁
    cases hx₁
    refine ⟨?_, ?_, c, next, code, hcall, hcode, ?_, fun _ => ⟨?_, r, hx'.trans hvalue⟩⟩
    · intro a ha
      exact hsub a (htracked.held a (hpassed ▸ ha))
    · rw [hpassed]
      exact htracked.found
    · intro hno
      rw [hmissed] at hno
      cases hno
    · rw [hpassed]
      exact hquiet
  · intro x₁ hx₁
    cases hx₁
    exact hheld

/-- A call that is a single step returns. -/
theorem returned (h : Explained D s₀ k) (hfaithful : D.Faithful) (hi : k.workers i = some w)
    (hw : w.transaction = none) {c : C} {next : R c → Program C R ε α}
    (hcall : w.program = .call c next) (hcode : D.code c = none) {r : R c}
    (hreturns : M.returns c k.committed r s) : Explained D s₀ (k.set s i (w.goesOn (next r))) := by
  refine h.goesOn rfl false ?_ ?_
  · intro answered _ τ hrun
    have hthread : (k.shown answered).threads i = some ⟨w.request, .call c next⟩ := by
      rw [shown_threads hi, Worker.told_none hw, hcall]
    exact ⟨_, hrun.snoc (Interleaving.Step.returned hthread hreturns)⟩
  · intro j w₁ x₁ _ hj a ha
    exact hfaithful.keeps hcode hreturns a ((h.tracked hj).found a ha)

/-- A call throws, and nothing is written. -/
theorem threw (h : Explained D s₀ k) (hi : k.workers i = some w) {c : C}
    {next : R c → Program C R ε α} (hcall : w.program = .call c next) {e : ε}
    (hthrows : M.throws c k.committed e) :
    Explained D s₀ (k.set k.committed i (w.goesOn (.failed e))) := by
  refine h.goesOn rfl false ?_ h.found_committed
  intro answered hanswered τ hrun
  have hthread : (k.shown answered).threads i = some ⟨w.request, .call c next⟩ := by
    rw [shown_threads hi, hanswered, Worker.told_false, hcall]
  exact ⟨_, hrun.snoc (Interleaving.Step.threw hthread hthrows)⟩

/-- A transaction commits: it takes effect now, or it was refused where its check failed. -/
theorem commit (h : Explained D s₀ k) (hfaithful : D.Faithful) (hi : k.Inside i w x)
    {p : Program C R ε α} (hdone : x.program = .done p) :
    Explained D s₀ (k.set (k.view D x) i (w.goesOn p)) := by
  have htracked := h.tracked hi
  rcases htracked.call with ⟨c, next, code, hcall, hcode, hrunning, hmissed⟩
  cases hx : x.missed with
  | true =>
    have hview : k.view D x = k.committed := (hmissed hx).1 k.committed
    refine h.goesOn rfl true ?_ (h.found_view hfaithful hi)
    intro answered hanswered τ hrun
    refine ⟨τ, ?_⟩
    have hsame : (k.shown answered).set (k.view D x) i ⟨(w.goesOn p).request, (w.goesOn p).program⟩ =
        k.shown answered := by
      rw [hview]
      simp only [shown, Interleaving.Config.set, Interleaving.Config.mk.injEq, true_and]
      funext j
      by_cases hj : j = i
      · subst hj
        rw [Function.update_self, hi.1, Option.map_some, hanswered,
          Worker.told_missed hi.2 hx hdone]
        rfl
      · rw [Function.update_of_ne hj]
    rw [hsame]
    exact hrun
  | false =>
    have hguarded := (hfaithful.guarded hcode).map next
    have hfollows := hrunning hx
    rw [hdone] at hfollows
    have halone := hfollows.alone hguarded htracked.found
    rcases returns_of_alone hfaithful hcode (halone.trans rfl) with ⟨r, rfl, hreturns⟩
    refine h.goesOn rfl false ?_ (h.found_view hfaithful hi)
    intro answered hanswered τ hrun
    have hthread : (k.shown answered).threads i = some ⟨w.request, .call c next⟩ := by
      rw [shown_threads hi.1, hanswered, Worker.told_false, hcall]
    exact ⟨_, hrun.snoc (Interleaving.Step.returned hthread hreturns)⟩

/-- Every step keeps the server explained. -/
theorem step (h : Explained D s₀ k) (hfaithful : D.Faithful) {k' : Server σ Req α ε C R S}
    (hstep : Step D k k') : Explained D s₀ k' := by
  cases hstep with
  | start i request hnone =>
    refine h.set ?_ h.found_committed (fun x hx => nomatch hx) (fun x hx => nomatch hx)
    intro answered
    rcases h.atomic answered with ⟨τ, hrun⟩
    rw [shown_set]
    refine ⟨_, hrun.snoc (Interleaving.Step.start i request ?_)⟩
    simp only [shown, hnone]
    rfl
  | returned hi hw hcall hcode hreturns => exact h.returned hfaithful hi hw hcall hcode hreturns
  | threw hi hw hcall hcode hthrows => exact h.threw hi hcall hthrows
  | @opened i w c next code hi hw hcall hcode =>
    refine h.within hi ?_ ?_ ?_
    · intro b
      rw [Worker.told_none hw]
      exact Worker.told_within rfl b
    · exact ⟨fun a ha => (nomatch ha), fun a ha => (nomatch ha), c, next, code, hcall, hcode,
        fun _ => .nil, fun hno => (nomatch hno)⟩
    · intro j w' x' _ _ a ha
      cases ha
  | @scan i w x statement rest hi hprogram hreports hscanned hfound =>
    -- a scan takes no lock: only the flag changes
    have htracked := h.tracked hi
    rcases htracked.running hprogram with ⟨hrunning, -⟩
    refine h.within hi.1 ?_ ⟨htracked.held, htracked.found, htracked.call⟩ ?_
    · intro b
      rw [Worker.told_running hi.2 hrunning]
      apply Worker.told_within
      exact hrunning
    · intro j w' x' hj hinside a ha
      exact h.exclusive hj.symm hi hinside a ha
  | scanEmpty hi hprogram hreports hscanned hmiss =>
    -- the check failed without a lock
    refine h.miss hfaithful hi hprogram hreports hmiss rfl rfl rfl (fun a ha => ha) ?_
    intro j w' x' hj hinside a ha
    exact h.exclusive hj.symm hi hinside a ha
  | @lock i w x statement rest hi hprogram hscanned hfree hfound =>
    have htracked := h.tracked hi
    rcases htracked.running hprogram with ⟨hrunning, c, next, code, hcall, hcode, hfollows⟩
    have hguarded := (hfaithful.guarded hcode).map next
    have hcommitted : D.engine.found statement k.committed = true :=
      (Engine.found_writes (hfollows.guarded hguarded).1 k.committed).symm.trans hfound
    refine h.within hi.1 ?_ ?_ ?_
    · intro b
      rw [Worker.told_running hi.2 hrunning]
      apply Worker.told_within
      exact hrunning
    · refine ⟨?_, ?_, c, next, code, hcall, hcode, fun _ => .snoc hfollows, ?_⟩
      · intro a ha
        rcases List.mem_append.mp ha with ha | ha
        · exact List.mem_cons_of_mem _ (htracked.held a ha)
        · rw [List.mem_singleton.mp ha]
          exact List.mem_cons_self
      · intro a ha
        rcases List.mem_append.mp ha with ha | ha
        · exact htracked.found a ha
        · rw [List.mem_singleton.mp ha]
          exact hcommitted
      · intro hno
        rw [hrunning] at hno
        cases hno
    · -- the new lock was free, and the old ones exclude the others already
      intro j w' x' hj hinside a ha
      rcases List.mem_cons.mp ha with rfl | ha
      · exact hfree j hj w' x' hinside
      · exact h.exclusive hj.symm hi hinside a ha
  | @recheck i w x statement rest hi hprogram hreports hscanned hfree hmiss =>
    -- the row was gone when its lock came free
    refine h.miss hfaithful hi hprogram hreports hmiss rfl rfl rfl ?_ ?_
    · intro a ha
      exact List.mem_cons_of_mem _ ha
    · intro j w' x₁ hj hinside a ha
      rcases List.mem_cons.mp ha with rfl | ha
      · exact hfree j hj w' x₁ hinside
      · exact h.exclusive hj.symm hi hinside a ha
  | @violated i w x statement rest c next hi hprogram hcall hreports hfree hmiss =>
    -- alone it would fail at the same statement
    have htracked := h.tracked hi
    rcases htracked.running hprogram with ⟨-, c', next', code, hcall', hcode, hfollows⟩
    rw [hcall] at hcall'
    cases hcall'
    have hguarded := (hfaithful.guarded hcode).map next
    have halone := hfollows.alone hguarded htracked.found
    have hnone : D.engine.alone (next <$> code) k.committed = none := by
      rw [halone]
      have hview : D.engine.found statement (D.engine.writes x.passed k.committed) = false := hmiss
      simp [Engine.alone, hview, hreports]
    rw [Engine.alone_map] at hnone
    exact h.threw hi.1 hcall
      ((hfaithful.throws hcode _ _).mpr (Or.inr ⟨rfl, Option.map_eq_none_iff.mp hnone⟩))
  | commit hi hdone => exact h.commit hfaithful hi hdone
  | @rollback i w x hi =>
    -- whatever it found, nothing of it is committed
    rcases (h.tracked hi).call with ⟨c, next, code, hcall, hcode, -⟩
    exact h.threw hi.1 hcall ((hfaithful.throws hcode _ _).mpr (Or.inl rfl))

/-- The run rule. -/
theorem steps (h : Explained D s₀ k) (hfaithful : D.Faithful) {k' : Server σ Req α ε C R S}
    (hsteps : Relation.ReflTransGen (Step D) k k') : Explained D s₀ k' := by
  induction hsteps with
  | refl => exact h
  | tail _ hstep ih => exact ih.step hfaithful hstep

end Explained

/-- Whatever the statements do, atomic calls could have done it: what is committed, and
where every thread is. -/
theorem Reaches.observed (hfaithful : D.Faithful) (h : Reaches D s₀ k) :
    ∃ τ, Run M (.initial s₀) τ k.observed := by
  rcases ((explained_initial D s₀).steps hfaithful h).atomic fun _ => false with ⟨τ, hrun⟩
  rw [shown_observed] at hrun
  exact ⟨τ, hrun⟩

/-! ## Atomic calls are runs of statements -/

@[simp] theorem set_set (k : Server σ Req α ε C R S) (s s' : σ) (i : ℕ)
    (w w' : Worker Req C R S ε α) : (k.set s i w).set s' i w' = k.set s' i w' := by
  simp only [set, Function.update_idem]

theorem between_set (c : Interleaving.Config σ Req α ε C R) (s : σ) (i : ℕ)
    (t : Thread Req C R ε α) :
    (between (c.set s i t) : Server σ Req α ε C R S) =
      (between c).set s i ⟨t.request, t.program, none⟩ := by
  simp only [between, set, Interleaving.Config.set, Server.mk.injEq, true_and]
  funext j
  by_cases hj : j = i
  · subst hj
    rw [Function.update_self, Function.update_self]
    rfl
  · rw [Function.update_of_ne hj, Function.update_of_ne hj]

theorem between_quiet (c : Interleaving.Config σ Req α ε C R) :
    (between c : Server σ Req α ε C R S).Quiet := by
  intro i w hi
  rcases Option.map_eq_some_iff.mp hi with ⟨t, -, rfl⟩
  rfl

/-- Nobody but worker `i` is inside a transaction. -/
def Alone (k : Server σ Req α ε C R S) (i : ℕ) : Prop :=
  ∀ j w x, j ≠ i → ¬ k.Inside j w x

theorem Alone.set (h : k.Alone i) (s : σ) (w : Worker Req C R S ε α) : (k.set s i w).Alone i :=
  fun j w x hj hinside => h j w x hj (inside_set_of_ne hj hinside)

theorem Alone.unblocked (h : k.Alone i) (statement : S) : k.Unblocked D i statement :=
  fun j hj w x hinside => absurd hinside (h j w x hj)

theorem inside_within (k : Server σ Req α ε C R S) (s : σ) (i : ℕ) (w : Worker Req C R S ε α)
    (x : Open S ε (Program C R ε α)) : (k.set s i (w.within x)).Inside i (w.within x) x :=
  ⟨k.set_self s i _, rfl⟩

variable (D) in
/-- Where the call `c` of worker `i` ends when its transaction does this alone. -/
def conclude (k : Server σ Req α ε C R S) (i : ℕ) (w : Worker Req C R S ε α) (c : C) :
    Option (Program C R ε α × σ) → Server σ Req α ε C R S
  | some (p, s) => k.set s i (w.goesOn p)
  | none => k.set k.committed i (w.goesOn (.failed (D.violation c)))

theorem conclude_within (c : C) (out : Option (Program C R ε α × σ)) :
    (k.set k.committed i (w.within x)).conclude D i (w.within x) c out = k.conclude D i w c out := by
  cases out with
  | none => exact set_set k _ _ i _ _
  | some done => exact set_set k _ _ i _ _

/-- With nobody else inside a transaction, a transaction ends as it does alone. -/
theorem alone_steps {c : C} {next : R c → Program C R ε α}
    (hunfailing : Unfailing x.program) (hi : k.Inside i w x) (hcall : w.program = .call c next)
    (halone : k.Alone i) (hscanned : x.scanned = false) :
    Relation.ReflTransGen (Step D) k
      (k.conclude D i w c (D.engine.alone x.program (k.view D x))) := by
  generalize hprogram : x.program = p at hunfailing
  induction p generalizing k w x with
  | done value => exact .single (.commit hi hprogram)
  | failed e => exact hunfailing.elim
  | call statement rest ih =>
    -- after one more statement, the rest of the transaction
    have step_rest (found : Bool) (x' : Open S ε (Program C R ε α)) (hx' : x'.program = rest found)
        (hscanned' : x'.scanned = false) {k' : Server σ Req α ε C R S}
        (hk' : k' = k.set k.committed i (w.within x'))
        (hsteps : Relation.ReflTransGen (Step D) k k') :
        Relation.ReflTransGen (Step D) k
          (k.conclude D i w c (D.engine.alone (rest found) (k.view D x'))) := by
      subst hk'
      have hrest := ih found (k.inside_within k.committed i w x') hcall (halone.set k.committed _)
        hscanned' hx' (hunfailing found)
      rw [conclude_within] at hrest
      exact hsteps.trans hrest
    rw [Engine.alone]
    split
    · -- the statement finds its row
      rename_i hfound
      have hview : D.engine.write statement (k.view D x) =
          k.view D ⟨rest true, false, x.missed, statement :: x.held, x.passed ++ [statement]⟩ :=
        (Engine.writes_snoc x.passed statement k.committed).symm
      rw [hview]
      apply step_rest true _ rfl rfl rfl
      cases hreports : D.engine.reports statement with
      | false =>
        exact .single (.lock hi hprogram (hscanned.trans hreports.symm) (halone.unblocked _) hfound)
      | true =>
        have hscan := Step.scan hi hprogram hreports hscanned hfound
        have hlock := Step.lock (D := D) (k.inside_within k.committed i w { x with scanned := true })
          hprogram hreports.symm ((halone.set _ _).unblocked _) hfound
        rw [set_committed, set_set] at hlock
        exact .tail (.single hscan) hlock
    · rename_i hmiss
      rw [Bool.not_eq_true] at hmiss
      split
      · rename_i hreports
        exact step_rest false { x with program := rest false, missed := true } rfl hscanned rfl
          (.single (.scanEmpty hi hprogram hreports hscanned hmiss))
      · rename_i hreports
        rw [Bool.not_eq_true] at hreports
        exact .single (.violated hi hprogram hcall hreports (halone.unblocked _) hmiss)

/-- So does a call. -/
theorem call_steps (hfaithful : D.Faithful) (hquiet : k.Quiet) (hi : k.workers i = some w) {c : C}
    {next : R c → Program C R ε α} (hcall : w.program = .call c next)
    {code : Transaction S ε (R c)} (hcode : D.code c = some code) :
    Relation.ReflTransGen (Step D) k
      (k.conclude D i w c (D.engine.alone (next <$> code) k.committed)) := by
  have hopened := Step.opened hi (hquiet i w hi) hcall hcode
  have halone : k.Alone i := by
    intro j w' x' _ hinside
    have hnone := hquiet j w' hinside.1
    rw [hinside.2] at hnone
    cases hnone
  have hrest := alone_steps (D := D) ((hfaithful.unfailing hcode).map next)
    (k.inside_within k.committed i w ⟨next <$> code, false, false, [], []⟩) hcall (halone.set _ _) rfl
  rw [conclude_within] at hrest
  exact .head hopened hrest

/-- Whatever atomic calls do, statements can do it. -/
theorem reaches_of_run (hfaithful : D.Faithful) {τ : List (Event Req ε C R)}
    {c : Interleaving.Config σ Req α ε C R} (hrun : Run M (.initial s₀) τ c) :
    Reaches D s₀ (between c) := by
  induction hrun with
  | nil => exact .refl
  | @snoc c c' τ e _ hstep ih =>
    refine ih.trans ?_
    have hquiet := between_quiet (S := S) c
    cases hstep with
    | start i request hnone =>
      rw [between_set]
      refine .single (.start i request ?_)
      simp only [between, hnone]
      rfl
    | @returned i request call next r s hi hreturns =>
      have hworker : (between c : Server σ Req α ε C R S).workers i =
          some ⟨request, .call call next, none⟩ := by
        simp only [between, hi]
        rfl
      rw [between_set]
      cases hcode : D.code call with
      | none => exact .single (.returned hworker rfl rfl hcode hreturns)
      | some code =>
        have hsteps := call_steps hfaithful hquiet hworker rfl hcode
        rw [Engine.alone_map, show D.engine.alone code (between c).committed = _ from
          (hfaithful.returns hcode c.store r s).mp hreturns] at hsteps
        exact hsteps
    | @threw i request call next e hi hthrows =>
      have hworker : (between c : Server σ Req α ε C R S).workers i =
          some ⟨request, .call call next, none⟩ := by
        simp only [between, hi]
        rfl
      rw [between_set]
      cases hcode : D.code call with
      | none => exact .single (.threw hworker rfl rfl hcode hthrows)
      | some code =>
        rcases (hfaithful.throws hcode _ _).mp hthrows with rfl | ⟨rfl, hnone⟩
        · -- the connection is lost as soon as the transaction is open
          have hopened := Step.opened hworker rfl rfl hcode
          have hlost := Step.rollback (D := D) ((between c).inside_within c.store i
            ⟨request, .call call next, none⟩ ⟨next <$> code, false, false, [], []⟩)
          rw [set_committed, set_set] at hlost
          exact .tail (.single hopened) hlost
        · have hsteps := call_steps hfaithful hquiet hworker rfl hcode
          rw [Engine.alone_map, show D.engine.alone code (between c).committed = _ from hnone] at hsteps
          exact hsteps

/-! ## Schedules -/

section Schedules

variable {Draw : Type} {n : ℕ}

/-- A server all of whose workers are below `n`. -/
structure Crew (n : ℕ) (σ Req α ε C : Type) (R : C → Type) (S : Type) extends
    Server σ Req α ε C R S where
  idle : ∀ i, n ≤ i → workers i = none

/-- What the scheduler asks of a worker; `draw` is what the answer of a call leaves open. -/
inductive Move (Req Draw : Type) where
  | start (i : ℕ) (request : Req)
  | answer (i : ℕ) (draw : Draw)
  | opened (i : ℕ)
  | statement (i : ℕ)
  | commit (i : ℕ)
  | rollback (i : ℕ)

namespace Crew

variable (k : Crew n σ Req α ε C R S)

/-- `s` is committed and worker `i` becomes `w`. -/
def set (s : σ) (i : Fin n) (w : Worker Req C R S ε α) : Crew n σ Req α ε C R S where
  toServer := k.toServer.set s i w
  idle := by
    intro j hj
    have hne : j ≠ i := by
      rintro rfl
      exact absurd i.isLt (Nat.not_lt.mpr hj)
    rw [k.toServer.set_of_ne s hne]
    exact k.idle j hj

variable [DecidableEq κ] (D : Driver M κ S)

/-- `Unblocked`, looking at the workers there are. -/
def unblocked (i : Fin n) (statement : S) : Bool :=
  (List.finRange n).all fun j => decide (j = i) ||
    match k.workers j with
    | some ⟨_, _, some x⟩ => x.held.all fun a => !decide (D.engine.Conflicts statement a)
    | _ => true

/-- Worker `i` runs the next statement of its transaction; `none` where it has to wait. -/
def statement (i : Fin n) (w : Worker Req C R S ε α) (x : Open S ε (Program C R ε α)) :
    Option (Crew n σ Req α ε C R S) :=
  match x.program with
  | .call statement next =>
    let found := D.engine.found statement (k.view D x)
    if D.engine.reports statement && !x.scanned then
      if found then some (k.set k.committed i (w.within { x with scanned := true }))
      else some (k.set k.committed i (w.within { x with program := next false, missed := true }))
    else if !k.unblocked D i statement || x.scanned != D.engine.reports statement then none
    else if found then
      some (k.set k.committed i
        (w.within ⟨next true, false, x.missed, statement :: x.held, x.passed ++ [statement]⟩))
    else if D.engine.reports statement then
      some (k.set k.committed i
        (w.within ⟨next false, false, true, statement :: x.held, x.passed⟩))
    else
      match w.program with
      | .call c _ => some (k.set k.committed i (w.goesOn (.failed (D.violation c))))
      | _ => none
  | _ => none

/-- One move; `respond` is the answer of a call of one step. -/
def attempt (respond : (c : C) → Draw → σ → Option (R c × σ)) :
    Move Req Draw → Option (Crew n σ Req α ε C R S)
  | .start i request =>
    if hi : i < n then
      match k.workers i with
      | none => some (k.set k.committed ⟨i, hi⟩ ⟨request, M.code request, none⟩)
      | some _ => none
    else none
  | .answer i draw =>
    if hi : i < n then
      match k.workers i with
      | some ⟨request, .call c next, none⟩ =>
        match D.code c, respond c draw k.committed with
        | none, some (r, s) => some (k.set s ⟨i, hi⟩ ⟨request, next r, none⟩)
        | _, _ => none
      | _ => none
    else none
  | .opened i =>
    if hi : i < n then
      match k.workers i with
      | some ⟨request, .call c next, none⟩ =>
        match D.code c with
        | some code =>
          some (k.set k.committed ⟨i, hi⟩
            ⟨request, .call c next, some ⟨next <$> code, false, false, [], []⟩⟩)
        | none => none
      | _ => none
    else none
  | .statement i =>
    if hi : i < n then
      match k.workers i with
      | some ⟨request, p, some x⟩ => k.statement D ⟨i, hi⟩ ⟨request, p, some x⟩ x
      | _ => none
    else none
  | .commit i =>
    if hi : i < n then
      match k.workers i with
      | some ⟨request, _, some ⟨.done p, scanned, missed, held, passed⟩⟩ =>
        some (k.set (k.view D ⟨.done p, scanned, missed, held, passed⟩) ⟨i, hi⟩ ⟨request, p, none⟩)
      | _ => none
    else none
  | .rollback i =>
    if hi : i < n then
      match k.workers i with
      | some ⟨request, _, some _⟩ =>
        some (k.set k.committed ⟨i, hi⟩ ⟨request, .failed D.lost, none⟩)
      | _ => none
    else none

/-- A schedule of moves. -/
def schedule (respond : (c : C) → Draw → σ → Option (R c × σ)) (k : Crew n σ Req α ε C R S) :
    List (Move Req Draw) → Option (Crew n σ Req α ε C R S)
  | [] => some k
  | move :: moves => (k.attempt D respond move).bind fun k' => schedule respond k' moves

variable {k k' : Crew n σ Req α ε C R S} {D}

theorem unblocked_iff {i : Fin n} {statement : S} (h : k.unblocked D i statement = true) :
    k.toServer.Unblocked D i statement := by
  intro j hj w x hinside a ha
  rcases Nat.lt_or_ge j n with hlt | hge
  · have hfree := List.all_eq_true.mp h ⟨j, hlt⟩ (List.mem_finRange _)
    rcases w with ⟨request, p, transaction⟩
    rcases hinside with ⟨hworker, rfl : transaction = some x⟩
    have hne : (⟨j, hlt⟩ : Fin n) ≠ i := fun heq => hj (congrArg Fin.val heq)
    simp only [hworker, decide_eq_false hne, Bool.false_or, List.all_eq_true,
      Bool.not_eq_true', decide_eq_false_iff_not] at hfree
    exact hfree a ha
  · have hnone := hinside.1
    rw [k.idle j hge] at hnone
    cases hnone

theorem statement_step {i : Fin n} {w : Worker Req C R S ε α} {x : Open S ε (Program C R ε α)}
    (hi : k.toServer.Inside i w x) (h : k.statement D i w x = some k') :
    Step D k.toServer k'.toServer := by
  unfold statement at h
  split at h
  · rename_i statement next hprogram
    simp only at h
    split at h
    · -- the scan
      rename_i hscan
      rw [Bool.and_eq_true, Bool.not_eq_true'] at hscan
      split at h
      · rename_i hfound
        cases h
        exact .scan hi hprogram hscan.1 hscan.2 hfound
      · rename_i hmiss
        cases h
        exact .scanEmpty hi hprogram hscan.1 hscan.2 (Bool.eq_false_iff.mpr hmiss)
    split at h
    · cases h
    rename_i hready
    rw [Bool.or_eq_true, not_or, Bool.not_eq_true', Bool.not_eq_false, bne_iff_ne, not_not] at hready
    rcases hready with ⟨hfree, hscanned⟩
    have hunblocked := unblocked_iff hfree
    split at h
    · rename_i hfound
      cases h
      exact .lock hi hprogram hscanned hunblocked hfound
    rename_i hmiss
    split at h
    · rename_i hreports
      cases h
      exact .recheck hi hprogram hreports (hscanned.trans hreports) hunblocked
        (Bool.eq_false_iff.mpr hmiss)
    · rename_i hreports
      split at h
      · rename_i c rest hcall
        cases h
        exact .violated hi hprogram hcall (Bool.eq_false_iff.mpr hreports) hunblocked
          (Bool.eq_false_iff.mpr hmiss)
      · cases h
  · cases h

theorem attempt_step {respond : (c : C) → Draw → σ → Option (R c × σ)}
    (hrespond : ∀ {c draw s r s'}, respond c draw s = some (r, s') → M.returns c s r s')
    {move : Move Req Draw} (h : k.attempt D respond move = some k') :
    Step D k.toServer k'.toServer := by
  cases move with
  | start i request =>
    simp only [attempt] at h
    split at h
    · split at h
      · rename_i hnone
        cases h
        exact .start i request hnone
      · cases h
    · cases h
  | answer i draw =>
    simp only [attempt] at h
    split at h
    · split at h
      · rename_i request c next hworker
        split at h
        · rename_i r s hcode hanswer
          cases h
          exact .returned hworker rfl rfl hcode (hrespond hanswer)
        · cases h
      · cases h
    · cases h
  | opened i =>
    simp only [attempt] at h
    split at h
    · split at h
      · rename_i request c next hworker
        split at h
        · rename_i code hcode
          cases h
          exact .opened hworker rfl rfl hcode
        · cases h
      · cases h
    · cases h
  | statement i =>
    simp only [attempt] at h
    split at h
    · split at h
      · rename_i request p x hworker
        exact statement_step ⟨hworker, rfl⟩ h
      · cases h
    · cases h
  | commit i =>
    simp only [attempt] at h
    split at h
    · split at h
      · rename_i request p' p scanned missed held passed hworker
        cases h
        exact .commit ⟨hworker, rfl⟩ rfl
      · cases h
    · cases h
  | rollback i =>
    simp only [attempt] at h
    split at h
    · split at h
      · rename_i request p x hworker
        cases h
        exact .rollback ⟨hworker, rfl⟩
      · cases h
    · cases h

/-- What is scheduled is a run. -/
theorem schedule_steps {respond : (c : C) → Draw → σ → Option (R c × σ)}
    (hrespond : ∀ {c draw s r s'}, respond c draw s = some (r, s') → M.returns c s r s')
    {moves : List (Move Req Draw)} (h : k.schedule D respond moves = some k') :
    Relation.ReflTransGen (Step D) k.toServer k'.toServer := by
  induction moves generalizing k with
  | nil =>
    cases h
    exact .refl
  | cons move moves ih =>
    rcases Option.bind_eq_some_iff.mp h with ⟨k₁, hattempt, hrest⟩
    exact .head (attempt_step hrespond hattempt) (ih hrest)

end Crew

end Schedules

end Server

end ReadCommitted
