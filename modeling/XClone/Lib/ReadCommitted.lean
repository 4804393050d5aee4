import Mathlib.Data.Fintype.Basic
import Mathlib.Logic.Relation
import Mathlib.Data.List.Nodup
import XClone.Lib.Interleaving

/-!
# XClone.Lib.ReadCommitted — statements of transactions under row locks

Transactions as a database runs them at READ COMMITTED, one statement at a time:

1. a statement that looks for rows scans the newest committed state together with
   its own transaction's writes; a scan that finds nothing answers at once and
   takes no lock;
2. a statement that found its row waits until no other open transaction holds a
   conflicting lock, takes the lock and re-checks the row as it now is;
3. a statement that inserts waits for its unique entries the same way;
4. locks last to the end of the transaction, writes are seen by others from the
   commit on, and an error at any point rolls everything back.

`Serial` is what the port promises: whole transactions one after the other.
`serializable` derives it for transactions that check first and write later
(`Guarded`), over statements whose locks protect what they found (`Framed`).
-/

namespace ReadCommitted

open Interleaving

/-! ## Statements -/

/-- `FOR SHARE`, or the lock of an `UPDATE` or an `INSERT`. -/
inductive Mode where
  | share
  | update
deriving DecidableEq

/-- Share locks go with share locks only. -/
def Mode.conflicts : Mode → Mode → Bool
  | .share, .share => false
  | _, _ => true

/-- What the statements `c : C` lock, look for and write in a store `σ`. A statement
that does not `report` fails where it finds nothing. -/
structure Engine (σ κ C : Type) where
  locks : C → List κ
  mode : C → Mode
  found : C → σ → Bool
  reports : C → Bool
  write : C → σ → σ

/-- A transaction: statements answering whether they found their row. -/
abbrev Transaction (C ε α : Type) := Program C (fun _ => Bool) ε α

variable {σ κ C ε α ι : Type} (E : Engine σ κ C)

namespace Engine

/-- Two transactions cannot have run both statements. -/
def Conflicts (c d : C) : Prop :=
  (∃ k ∈ E.locks c, k ∈ E.locks d) ∧ (E.mode c).conflicts (E.mode d) = true

/-- The writes of statements, in order. -/
def writes (passed : List C) (s : σ) : σ := passed.foldl (fun s c => E.write c s) s

/-- What a transaction does when nothing else runs. -/
def alone : Transaction C ε α → σ → Option (α × σ)
  | .done value, s => some (value, s)
  | .failed _, _ => none
  | .call c next, s =>
    if E.found c s then alone (next true) (E.write c s)
    else if E.reports c then alone (next false) s
    else none

end Engine

/-! ## Interleaved statements -/

inductive Outcome where
  | active
  | committed
  | rolledBack
deriving DecidableEq

/-- An execution of a transaction: `scanned` when the next statement has found its
row and waits for the lock, `held` the statements whose locks it has, `passed` those
that found their row. -/
structure Execution (C ε α : Type) where
  program : Transaction C ε α
  scanned : Bool
  held : List C
  passed : List C
  outcome : Outcome

/-- The committed store and the executions, one for each transaction. -/
structure Config (ι σ C ε α : Type) where
  committed : σ
  executions : ι → Execution C ε α

namespace Config

/-- No transaction has run a statement. -/
def initial (code : ι → Transaction C ε α) (s : σ) : Config ι σ C ε α :=
  ⟨s, fun i => ⟨code i, false, [], [], .active⟩⟩

/-- Execution `i` becomes `x`. -/
def set [DecidableEq ι] (c : Config ι σ C ε α) (i : ι) (x : Execution C ε α) : Config ι σ C ε α :=
  { c with executions := Function.update c.executions i x }

variable (c : Config ι σ C ε α)

/-- Transaction `i` is open. -/
def Active (i : ι) : Prop := (c.executions i).outcome = .active

/-- Transaction `i` has committed. -/
def Returned (i : ι) : Prop := (c.executions i).outcome = .committed

/-- What transaction `i` returns, once that is settled. -/
def result (i : ι) : Option α :=
  match (c.executions i).program with
  | .done value => some value
  | _ => none

/-- The store as transaction `i` sees it: the committed one and its own writes. -/
def view (i : ι) : σ := E.writes (c.executions i).passed c.committed

/-- No other open transaction holds a lock that conflicts with `statement`. -/
def Unblocked (i : ι) (statement : C) : Prop :=
  ∀ j, j ≠ i → c.Active j → ∀ d ∈ (c.executions j).held, ¬ E.Conflicts statement d

end Config

/-- A step of transaction `i`. -/
inductive Step [DecidableEq ι] : Config ι σ C ε α → Config ι σ C ε α → Prop where
  /-- The scan finds the row. -/
  | scan {c : Config ι σ C ε α} (i : ι) {statement : C} {next : Bool → Transaction C ε α} :
      c.Active i → (c.executions i).program = .call statement next →
      E.reports statement = true → (c.executions i).scanned = false →
      E.found statement (c.view E i) = true →
      Step c (c.set i { c.executions i with scanned := true })
  /-- The scan finds nothing. -/
  | scanEmpty {c : Config ι σ C ε α} (i : ι) {statement : C} {next : Bool → Transaction C ε α} :
      c.Active i → (c.executions i).program = .call statement next →
      E.reports statement = true → (c.executions i).scanned = false →
      E.found statement (c.view E i) = false →
      Step c (c.set i { c.executions i with program := next false })
  /-- The lock is free and the row still matches, or the entries of an insert are free. -/
  | lock {c : Config ι σ C ε α} (i : ι) {statement : C} {next : Bool → Transaction C ε α} :
      c.Active i → (c.executions i).program = .call statement next →
      (c.executions i).scanned = E.reports statement → c.Unblocked E i statement →
      E.found statement (c.view E i) = true →
      Step c (c.set i
        { c.executions i with
          program := next true
          scanned := false
          held := statement :: (c.executions i).held
          passed := (c.executions i).passed ++ [statement] })
  /-- The lock is free, but the row no longer matches. -/
  | recheck {c : Config ι σ C ε α} (i : ι) {statement : C} {next : Bool → Transaction C ε α} :
      c.Active i → (c.executions i).program = .call statement next →
      E.reports statement = true → (c.executions i).scanned = true → c.Unblocked E i statement →
      E.found statement (c.view E i) = false →
      Step c (c.set i
        { c.executions i with
          program := next false
          scanned := false
          held := statement :: (c.executions i).held })
  | commit {c : Config ι σ C ε α} (i : ι) {value : α} :
      c.Active i → (c.executions i).program = .done value →
      Step c ({ c with committed := c.view E i }.set i
        { c.executions i with outcome := .committed })
  /-- A violated constraint, a deadlock, a lost connection. -/
  | rollback {c : Config ι σ C ε α} (i : ι) :
      c.Active i → Step c (c.set i { c.executions i with outcome := .rolledBack })

/-- Any number of steps. -/
abbrev Steps [DecidableEq ι] : Config ι σ C ε α → Config ι σ C ε α → Prop :=
  Relation.ReflTransGen (Step E)

/-- The transactions of `order` one after the other take `s₀` to a store, each with
its result; those of `silent` change nothing. -/
inductive Serial (code : ι → Transaction C ε α) (result : ι → Option α) (silent : ι → Prop)
    (s₀ : σ) : List ι → σ → Prop where
  | nil : Serial code result silent s₀ [] s₀
  | snoc {order : List ι} {s s' : σ} {i : ι} {value : α} :
      Serial code result silent s₀ order s → result i = some value →
      E.alone (code i) s = some (value, s') → (silent i → s' = s) →
      Serial code result silent s₀ (order ++ [i]) s'

/-! ## Conditions on statements and transactions -/

namespace Engine

/-- A statement that found its row keeps it while statements with other locks write. -/
def Framed : Prop :=
  ∀ c d s, ¬ E.Conflicts c d → E.found c s = true → E.found c (E.write d s) = true

/-- After the statements `before`, the transaction checks what its own writes do not
touch, and returns as soon as a check fails, before it has written anything. -/
def Guarded : List C → Transaction C ε α → Prop
  | before, .call c next =>
    (∀ d ∈ before, ∀ s, E.found c (E.write d s) = E.found c s) ∧
    (E.reports c = true → (∀ d ∈ before, ∀ s, E.write d s = s) ∧ ∃ value, next false = .done value) ∧
    Guarded (before ++ [c]) (next true)
  | _, _ => True

variable {E}

@[simp] theorem writes_nil (s : σ) : E.writes [] s = s := rfl

@[simp] theorem writes_snoc (passed : List C) (c : C) (s : σ) :
    E.writes (passed ++ [c]) s = E.write c (E.writes passed s) := by
  simp [writes]

/-- Statements that write nothing leave the store alone. -/
theorem writes_eq_self {passed : List C} (h : ∀ d ∈ passed, ∀ s, E.write d s = s) (s : σ) :
    E.writes passed s = s := by
  induction passed with
  | nil => rfl
  | cons d passed ih =>
    have hd := h d List.mem_cons_self s
    have htail := ih fun d' hd' => h d' (List.mem_cons_of_mem d hd')
    calc E.writes (d :: passed) s = E.writes passed (E.write d s) := rfl
      _ = E.writes passed s := by rw [hd]
      _ = s := htail

/-- Writes a check does not look at. -/
theorem found_writes {c : C} {passed : List C}
    (h : ∀ d ∈ passed, ∀ s, E.found c (E.write d s) = E.found c s) (s : σ) :
    E.found c (E.writes passed s) = E.found c s := by
  induction passed generalizing s with
  | nil => rfl
  | cons d passed ih =>
    have htail := ih (fun d' hd' => h d' (List.mem_cons_of_mem d hd')) (E.write d s)
    calc E.found c (E.writes (d :: passed) s) = E.found c (E.writes passed (E.write d s)) := rfl
      _ = E.found c (E.write d s) := htail
      _ = E.found c s := h d List.mem_cons_self s

/-- What a statement found survives the writes of statements it does not conflict with. -/
theorem Framed.writes (h : E.Framed) {c : C} {passed : List C}
    (hfree : ∀ d ∈ passed, ¬ E.Conflicts c d) {s : σ} (hc : E.found c s = true) :
    E.found c (E.writes passed s) = true := by
  induction passed generalizing s with
  | nil => exact hc
  | cons d passed ih =>
    apply ih
    · intro d' hd'
      exact hfree d' (List.mem_cons_of_mem d hd')
    · exact h c d s (hfree d List.mem_cons_self) hc

/-! ## Following a transaction -/

/-- `p` becomes `q` when the statements `passed` all find their row. -/
inductive Follows (p : Transaction C ε α) : List C → Transaction C ε α → Prop where
  | nil : Follows p [] p
  | snoc {passed : List C} {c : C} {next : Bool → Transaction C ε α} :
      Follows p passed (.call c next) → Follows p (passed ++ [c]) (next true)

theorem Follows.guarded {p q : Transaction C ε α} {passed : List C} (h : Follows p passed q)
    (hp : E.Guarded [] p) : E.Guarded passed q := by
  induction h with
  | nil => exact hp
  | snoc _ ih => exact ih.2.2

/-- Alone, a transaction goes through the statements that find their row. -/
theorem Follows.alone {p q : Transaction C ε α} {passed : List C} (h : Follows p passed q)
    (hp : E.Guarded [] p) {s : σ} (hfound : ∀ c ∈ passed, E.found c s = true) :
    E.alone p s = E.alone q (E.writes passed s) := by
  induction h with
  | nil => rfl
  | @snoc passed c next hfollows ih =>
    have hbefore := ih fun d hd => hfound d (List.mem_append_left _ hd)
    have hc : E.found c (E.writes passed s) = true := by
      rw [found_writes (hfollows.guarded hp).1]
      exact hfound c (by simp)
    rw [hbefore, writes_snoc]
    simp [Engine.alone, hc]

/-- Alone, a transaction ends at the first check that fails. -/
theorem Follows.alone_miss {p : Transaction C ε α} {passed : List C} {c : C}
    {next : Bool → Transaction C ε α} (h : Follows p passed (.call c next)) (hp : E.Guarded [] p)
    {s : σ} (hfound : ∀ d ∈ passed, E.found d s = true) (hreports : E.reports c = true)
    (hmiss : E.found c s = false) :
    (∀ s, E.writes passed s = s) ∧
      ∃ value, next false = .done value ∧ E.alone p s = some (value, s) := by
  rcases (h.guarded hp).2.1 hreports with ⟨hquiet, value, hvalue⟩
  have hself := writes_eq_self hquiet
  refine ⟨hself, value, hvalue, ?_⟩
  rw [h.alone hp hfound, hself]
  simp [Engine.alone, hmiss, hreports, hvalue]

end Engine

/-! ## Serial orders -/

variable {E} {code : ι → Transaction C ε α} {result result' : ι → Option α}
  {silent silent' : ι → Prop} {s₀ s : σ} {order : List ι}

theorem Serial.congr (h : Serial E code result silent s₀ order s)
    (hresult : ∀ i ∈ order, result' i = result i)
    (hsilent : ∀ i ∈ order, silent' i → silent i) :
    Serial E code result' silent' s₀ order s := by
  induction h with
  | nil => exact .nil
  | @snoc order s s' i value _ hvalue halone hquiet ih =>
    have hi : i ∈ order ++ [i] := by simp
    refine .snoc (ih ?_ ?_) ((hresult i hi).trans hvalue) halone fun hs => hquiet (hsilent i hi hs)
    · intro j hj
      exact hresult j (List.mem_append_left _ hj)
    · intro j hj
      exact hsilent j (List.mem_append_left _ hj)

/-- Transactions that change nothing can be left out. -/
theorem Serial.filter (h : Serial E code result silent s₀ order s) (keep : ι → Bool)
    (hdrop : ∀ i, keep i = false → silent i) :
    Serial E code result (fun _ => False) s₀ (order.filter keep) s := by
  induction h with
  | nil => exact .nil
  | @snoc order s s' i value _ hvalue halone hquiet ih =>
    rw [List.filter_append]
    cases hkeep : keep i with
    | true =>
      rw [List.filter_cons_of_pos hkeep, List.filter_nil]
      exact .snoc ih hvalue halone fun hno => hno.elim
    | false =>
      rw [List.filter_cons_of_neg (by simp [hkeep]), List.filter_nil, List.append_nil,
        hquiet (hdrop i hkeep)]
      exact ih

/-! ## Runs -/

section Runs

variable {c c' : Config ι σ C ε α} {i j : ι} {x : Execution C ε α}

theorem Engine.Conflicts.symm {a b : C} (h : E.Conflicts a b) : E.Conflicts b a := by
  rcases h with ⟨⟨k, ha, hb⟩, hmode⟩
  refine ⟨⟨k, hb, ha⟩, ?_⟩
  revert hmode
  cases E.mode a <;> cases E.mode b <;> exact id

/-- What is known of transaction `i`, at execution `x` over the committed store `s`. It
is in the serial order from its failed check on, or from its commit on. -/
structure Placed (E : Engine σ κ C) (code : ι → Transaction C ε α) (order : List ι) (s : σ)
    (i : ι) (x : Execution C ε α) : Prop where
  held : ∀ a ∈ x.passed, a ∈ x.held
  found : x.outcome = .active → ∀ a ∈ x.passed, E.found a s = true
  running : x.outcome = .active → i ∉ order → Engine.Follows (code i) x.passed x.program
  settled : x.outcome = .active → i ∈ order → ∀ s, E.writes x.passed s = s
  done : i ∈ order → ∃ value, x.program = .done value
  returned : x.outcome = .committed → i ∈ order

/-- The transactions of `order`, one after the other, explain the committed store. -/
structure Explained (E : Engine σ κ C) (code : ι → Transaction C ε α) (s₀ : σ)
    (c : Config ι σ C ε α) (order : List ι) : Prop where
  exclusive : ∀ {i j}, i ≠ j → c.Active i → c.Active j →
    ∀ a ∈ (c.executions i).held, ∀ b ∈ (c.executions j).held, ¬ E.Conflicts a b
  placed : ∀ i, Placed E code order c.committed i (c.executions i)
  nodup : order.Nodup
  serial : Serial E code c.result (fun i => ¬ c.Returned i) s₀ order c.committed

theorem explained_initial (code : ι → Transaction C ε α) (s₀ : σ) :
    Explained E code s₀ (.initial code s₀) [] where
  exclusive _ _ _ _ h := nomatch h
  placed _ := ⟨fun _ h => (nomatch h), fun _ _ h => (nomatch h), fun _ _ => .nil,
    fun _ h => (nomatch h), fun h => (nomatch h), fun h => (nomatch h)⟩
  nodup := List.nodup_nil
  serial := .nil

namespace Explained

/-- Transactions still making calls are not in the order. -/
theorem notMem_of_call (h : Explained E code s₀ c order) {statement : C}
    {next : Bool → Transaction C ε α}
    (hprogram : (c.executions i).program = .call statement next) : i ∉ order := by
  intro hmem
  rcases (h.placed i).done hmem with ⟨value, hdone⟩
  rw [hprogram] at hdone
  cases hdone

/-- A transaction sees the committed rows as they are. -/
theorem found_view (h : Explained E code s₀ c order) (hguarded : E.Guarded [] (code i))
    (hi : c.Active i) {statement : C} {next : Bool → Transaction C ε α}
    (hprogram : (c.executions i).program = .call statement next) :
    E.found statement (c.view E i) = E.found statement c.committed := by
  have hfollows := (h.placed i).running hi (h.notMem_of_call hprogram)
  rw [hprogram] at hfollows
  exact Engine.found_writes (hfollows.guarded hguarded).1 c.committed

/-- What a transaction commits is what it does alone, or nothing. -/
theorem commit_alone (h : Explained E code s₀ c order) (hguarded : E.Guarded [] (code i))
    (hi : c.Active i) {value : α} (hprogram : (c.executions i).program = .done value) :
    (i ∈ order ∧ c.view E i = c.committed) ∨
    (i ∉ order ∧ E.alone (code i) c.committed = some (value, c.view E i)) := by
  by_cases hin : i ∈ order
  · exact Or.inl ⟨hin, (h.placed i).settled hi hin c.committed⟩
  · refine Or.inr ⟨hin, ?_⟩
    have hfollows := (h.placed i).running hi hin
    rw [hprogram] at hfollows
    rw [hfollows.alone hguarded ((h.placed i).found hi)]
    rfl

/-- Leaving out what has not committed gives a serial order of what has. -/
theorem serial_returned (h : Explained E code s₀ c order) :
    ∃ order' : List ι, order'.Nodup ∧ (∀ i, i ∈ order' ↔ c.Returned i) ∧
      Serial E code c.result (fun _ => False) s₀ order' c.committed := by
  classical
  refine ⟨order.filter fun i => c.Returned i, h.nodup.filter _, ?_, ?_⟩
  · intro i
    rw [List.mem_filter, decide_eq_true_eq]
    exact ⟨And.right, fun hreturned => ⟨(h.placed i).returned hreturned, hreturned⟩⟩
  · refine h.serial.filter _ ?_
    intro i hdrop
    exact of_decide_eq_false hdrop

end Explained

variable [DecidableEq ι]

namespace Config

@[simp] theorem set_self : (c.set i x).executions i = x := by
  simp [set]

theorem set_of_ne (h : j ≠ i) : (c.set i x).executions j = c.executions j := by
  simp [set, h]

end Config

namespace Explained

/-- A step of transaction `i` that leaves the rest explained. -/
theorem set (h : Explained E code s₀ c order) {order' : List ι} {t : σ}
    (horder : ∀ j, j ≠ i → (j ∈ order' ↔ j ∈ order))
    (hheld : x.outcome = .active → ∀ j, j ≠ i → c.Active j →
      ∀ a ∈ x.held, ∀ b ∈ (c.executions j).held, ¬ E.Conflicts a b)
    (hfound : ∀ j, j ≠ i → c.Active j → ∀ a ∈ (c.executions j).passed, E.found a t = true)
    (hx : Placed E code order' t i x) (hnodup : order'.Nodup)
    (hserial : Serial E code ({ c with committed := t }.set i x).result
      (fun j => ¬ ({ c with committed := t }.set i x).Returned j) s₀ order' t) :
    Explained E code s₀ ({ c with committed := t }.set i x) order' := by
  refine ⟨?_, ?_, hnodup, hserial⟩
  -- of two active transactions at most one is `i`
  · intro j k hjk hj hk a ha b hb
    by_cases hji : j = i
    · subst hji
      rw [Config.Active, Config.set_of_ne (Ne.symm hjk)] at hk
      rw [Config.Active, Config.set_self] at hj
      rw [Config.set_self] at ha
      rw [Config.set_of_ne (Ne.symm hjk)] at hb
      exact hheld hj k (Ne.symm hjk) hk a ha b hb
    by_cases hki : k = i
    · subst hki
      rw [Config.Active, Config.set_of_ne hjk] at hj
      rw [Config.Active, Config.set_self] at hk
      rw [Config.set_of_ne hjk] at ha
      rw [Config.set_self] at hb
      intro hab
      exact hheld hk j hjk hj b hb a ha hab.symm
    · rw [Config.Active, Config.set_of_ne hji] at hj
      rw [Config.Active, Config.set_of_ne hki] at hk
      rw [Config.set_of_ne hji] at ha
      rw [Config.set_of_ne hki] at hb
      exact h.exclusive hjk hj hk a ha b hb
  -- the others keep their places
  · intro j
    by_cases hji : j = i
    · subst hji
      rw [Config.set_self]
      exact hx
    · rw [Config.set_of_ne hji]
      have hj := h.placed j
      exact
        { held := hj.held
          found := fun hactive => hfound j hji hactive
          running := fun hactive hout => hj.running hactive (mt (horder j hji).mpr hout)
          settled := fun hactive hin => hj.settled hactive ((horder j hji).mp hin)
          done := fun hin => hj.done ((horder j hji).mp hin)
          returned := fun hreturned => (horder j hji).mpr (hj.returned hreturned) }

/-- The serial order survives a step that keeps the results already settled. -/
theorem serial_set (h : Explained E code s₀ c order) (hi : c.Active i)
    (hprogram : i ∈ order → x.program = (c.executions i).program) (t : σ) :
    Serial E code ({ c with committed := t }.set i x).result
      (fun j => ¬ ({ c with committed := t }.set i x).Returned j) s₀ order c.committed := by
  refine h.serial.congr ?_ ?_
  · intro j hj
    by_cases hji : j = i
    · subst hji
      rw [Config.result, Config.set_self, hprogram hj, Config.result]
    · rw [Config.result, Config.set_of_ne hji, Config.result]
  · intro j hj hnot hreturned
    by_cases hji : j = i
    · subst hji
      rw [Config.Returned, hi] at hreturned
      cases hreturned
    · apply hnot
      rw [Config.Returned, Config.set_of_ne hji]
      exact hreturned

/-- A check fails: the transaction takes its place in the order. -/
theorem miss (h : Explained E code s₀ c order) (hguarded : E.Guarded [] (code i))
    (hi : c.Active i) {statement : C} {next : Bool → Transaction C ε α}
    (hprogram : (c.executions i).program = .call statement next)
    (hreports : E.reports statement = true) (hmiss : E.found statement (c.view E i) = false)
    (hx : x.program = next false) (hpassed : x.passed = (c.executions i).passed)
    (houtcome : x.outcome = .active) (hsub : ∀ a ∈ (c.executions i).held, a ∈ x.held)
    (hheld : ∀ j, j ≠ i → c.Active j →
      ∀ a ∈ x.held, ∀ b ∈ (c.executions j).held, ¬ E.Conflicts a b) :
    Explained E code s₀ (c.set i x) (order ++ [i]) := by
  -- with a call to make it has no place in the order yet
  have hout := h.notMem_of_call hprogram
  have hfollows := (h.placed i).running hi hout
  rw [hprogram] at hfollows
  -- what it sees of its guard is what is committed
  rw [h.found_view hguarded hi hprogram] at hmiss
  -- alone it would miss the same row, and write nothing
  obtain ⟨hquiet, value, hvalue, halone⟩ :=
    hfollows.alone_miss hguarded ((h.placed i).found hi) hreports hmiss
  have hresult : (c.set i x).result i = some value := by
    rw [Config.result, Config.set_self, hx, hvalue]
  refine h.set (t := c.committed) ?_ (fun _ => hheld) ?_ ?_ ?_ ?_
  · intro j hj
    simp [hj]
  · intro j _ hactive
    exact (h.placed j).found hactive
  · exact
      { held := fun a ha => hsub a ((h.placed i).held a (hpassed ▸ ha))
        found := fun _ => hpassed ▸ (h.placed i).found hi
        running := fun _ hno => absurd (by simp) hno
        settled := fun _ _ => hpassed ▸ hquiet
        done := fun _ => ⟨value, hx.trans hvalue⟩
        returned := fun hcommitted => by
          rw [houtcome] at hcommitted
          cases hcommitted }
  · exact List.concat_eq_append ▸ List.Nodup.concat hout h.nodup
  · exact .snoc (h.serial_set hi (fun hin => absurd hin hout) c.committed) hresult halone fun _ => rfl

/-- The statement found its row and has the lock. -/
theorem lock (h : Explained E code s₀ c order) (hguarded : E.Guarded [] (code i))
    (hi : c.Active i) {statement : C} {next : Bool → Transaction C ε α}
    (hprogram : (c.executions i).program = .call statement next)
    (hfree : c.Unblocked E i statement) (hfound : E.found statement (c.view E i) = true)
    (hx : x.program = next true) (hpassed : x.passed = (c.executions i).passed ++ [statement])
    (houtcome : x.outcome = .active) (hheld : x.held = statement :: (c.executions i).held) :
    Explained E code s₀ (c.set i x) order := by
  have hout := h.notMem_of_call hprogram
  have hfollows := (h.placed i).running hi hout
  rw [hprogram] at hfollows
  rw [h.found_view hguarded hi hprogram] at hfound
  refine h.set (t := c.committed) (fun _ _ => Iff.rfl) ?_ ?_ ?_ h.nodup ?_
  -- the new lock was free, and the old ones exclude the others already
  · intro _ j hj hactive a ha
    rw [hheld] at ha
    rcases List.mem_cons.mp ha with rfl | ha
    · exact hfree j hj hactive
    · exact h.exclusive hj.symm hi hactive a ha
  · intro j _ hactive
    exact (h.placed j).found hactive
  · refine
      { held := ?_
        found := ?_
        running := fun _ _ => ?_
        settled := fun _ hin => absurd hin hout
        done := fun hin => absurd hin hout
        returned := fun hcommitted => ?_ }
    · intro a ha
      rw [hpassed] at ha
      rw [hheld]
      rcases List.mem_append.mp ha with ha | ha
      · exact List.mem_cons_of_mem _ ((h.placed i).held a ha)
      · rw [List.mem_singleton.mp ha]
        exact List.mem_cons_self
    · intro _ a ha
      rw [hpassed] at ha
      rcases List.mem_append.mp ha with ha | ha
      · exact (h.placed i).found hi a ha
      · rw [List.mem_singleton.mp ha]
        exact hfound
    · rw [hpassed, hx]
      exact .snoc hfollows
    · rw [houtcome] at hcommitted
      cases hcommitted
  · exact h.serial_set hi (fun hin => absurd hin hout) c.committed

/-- A transaction commits: with all its checks holding it takes its place in the order. -/
theorem commit (h : Explained E code s₀ c order) (hframed : E.Framed)
    (hguarded : E.Guarded [] (code i)) (hi : c.Active i) {value : α}
    (hprogram : (c.executions i).program = .done value) :
    ∃ order', Explained E code s₀
      ({ c with committed := c.view E i }.set i { c.executions i with outcome := .committed })
      order' := by
  -- the rows the others found are not among those this one writes
  have hothers : ∀ j, j ≠ i → c.Active j → ∀ a ∈ (c.executions j).passed,
      E.found a (c.view E i) = true := by
    intro j hj hactive a ha
    refine hframed.writes ?_ ((h.placed j).found hactive a ha)
    intro b hb
    exact h.exclusive hj hactive hi a ((h.placed j).held a ha) b ((h.placed i).held b hb)
  rcases h.commit_alone hguarded hi hprogram with ⟨hin, hsame⟩ | ⟨hout, halone⟩
  · -- its check failed earlier
    refine ⟨order, h.set (fun _ _ => Iff.rfl) (fun hno => (nomatch hno)) hothers ?_ h.nodup ?_⟩
    · exact ⟨(h.placed i).held, fun hno => (nomatch hno), fun hno => (nomatch hno),
        fun hno => (nomatch hno), (h.placed i).done, fun _ => hin⟩
    · have hserial := h.serial_set (x := { c.executions i with outcome := .committed }) hi
        (fun _ => rfl) (c.view E i)
      rw [hsame] at hserial ⊢
      exact hserial
  · -- all its checks hold now
    refine ⟨order ++ [i], h.set ?_ (fun hno => (nomatch hno)) hothers ?_ ?_ ?_⟩
    · intro j hj
      simp [hj]
    · exact ⟨(h.placed i).held, fun hno => (nomatch hno), fun hno => (nomatch hno),
        fun hno => (nomatch hno), fun _ => ⟨value, hprogram⟩, fun _ => by simp⟩
    · exact List.concat_eq_append ▸ List.Nodup.concat hout h.nodup
    · refine .snoc (h.serial_set hi (fun _ => by rfl) _) ?_ halone ?_
      · rw [Config.result, Config.set_self, hprogram]
      · intro hno
        exact absurd (by rw [Config.Returned, Config.set_self]) hno

/-- Every step keeps the store explained. -/
theorem step (h : Explained E code s₀ c order) (hframed : E.Framed)
    (hguarded : ∀ i, E.Guarded [] (code i)) (hstep : Step E c c') :
    ∃ order', Explained E code s₀ c' order' := by
  cases hstep with
  | @scan i statement next hi hprogram hreports hscanned hfound =>
    -- a scan takes no lock: only the flag changes
    have hout := h.notMem_of_call hprogram
    refine ⟨order, h.set (t := c.committed) (fun _ _ => Iff.rfl) ?_ ?_ ?_ h.nodup ?_⟩
    · intro _ j hj hactive
      exact h.exclusive hj.symm hi hactive
    · intro j _ hactive
      exact (h.placed j).found hactive
    · have hi' := h.placed i
      exact ⟨hi'.held, hi'.found, hi'.running, hi'.settled, hi'.done, hi'.returned⟩
    · exact h.serial_set hi (fun _ => by rfl) c.committed
  | @scanEmpty i statement next hi hprogram hreports hscanned hmiss =>
    -- the check failed without a lock
    refine ⟨_, h.miss (hguarded i) hi hprogram hreports hmiss rfl rfl hi (fun _ ha => ha) ?_⟩
    intro j hj hactive
    exact h.exclusive hj.symm hi hactive
  | @lock i statement next hi hprogram hscanned hfree hfound =>
    exact ⟨order, h.lock (hguarded i) hi hprogram hfree hfound rfl rfl hi rfl⟩
  | @recheck i statement next hi hprogram hreports hscanned hfree hmiss =>
    -- the row was gone when its lock came free
    refine ⟨_, h.miss (hguarded i) hi hprogram hreports hmiss rfl rfl hi ?_ ?_⟩
    · intro a ha
      exact List.mem_cons_of_mem _ ha
    · intro j hj hactive a ha
      rcases List.mem_cons.mp ha with rfl | ha
      · exact hfree j hj hactive
      · exact h.exclusive hj.symm hi hactive a ha
  | @commit i value hi hprogram =>
    exact h.commit hframed (hguarded i) hi hprogram
  | @rollback i hi =>
    -- it wrote nothing that was committed
    refine ⟨order, h.set (t := c.committed) (fun _ _ => Iff.rfl) (fun hno => (nomatch hno)) ?_ ?_
      h.nodup ?_⟩
    · intro j _ hactive
      exact (h.placed j).found hactive
    · exact ⟨(h.placed i).held, fun hno => (nomatch hno), fun hno => (nomatch hno),
        fun hno => (nomatch hno), (h.placed i).done, fun hno => (nomatch hno)⟩
    · exact h.serial_set hi (fun _ => by rfl) c.committed

/-- A step changes the committed store only as some transaction alone would. -/
theorem step_committed (h : Explained E code s₀ c order) (hguarded : ∀ i, E.Guarded [] (code i))
    (hstep : Step E c c') :
    c'.committed = c.committed ∨
      ∃ i value, E.alone (code i) c.committed = some (value, c'.committed) := by
  cases hstep with
  | scan | scanEmpty | lock | recheck | rollback => exact Or.inl rfl
  | @commit i value hi hprogram =>
    rcases h.commit_alone (hguarded i) hi hprogram with ⟨-, hsame⟩ | ⟨-, halone⟩
    · exact Or.inl hsame
    · exact Or.inr ⟨i, value, halone⟩

/-- The run rule. -/
theorem steps (h : Explained E code s₀ c order) (hframed : E.Framed)
    (hguarded : ∀ i, E.Guarded [] (code i)) (hsteps : Steps E c c') :
    ∃ order', Explained E code s₀ c' order' := by
  induction hsteps with
  | refl => exact ⟨order, h⟩
  | tail _ hstep ih =>
    rcases ih with ⟨order', h'⟩
    exact h'.step hframed hguarded hstep

end Explained

/-- Guarded transactions over framed statements are serializable: whatever the
interleaving, the committed ones and their results are those of a serial order. -/
theorem serializable (hframed : E.Framed) (hguarded : ∀ i, E.Guarded [] (code i))
    (hsteps : Steps E (.initial code s₀) c) :
    ∃ order : List ι, order.Nodup ∧ (∀ i, i ∈ order ↔ c.Returned i) ∧
      Serial E code c.result (fun _ => False) s₀ order c.committed := by
  rcases (explained_initial code s₀).steps hframed hguarded hsteps with ⟨order, h⟩
  exact h.serial_returned

end Runs

/-! ## Schedules -/

section Schedules

variable [DecidableEq ι] [Fintype ι] [DecidableEq κ]

/-- What the scheduler asks of a transaction. -/
inductive Move (ι : Type) where
  | statement (i : ι)
  | commit (i : ι)
  | rollback (i : ι)

instance (a b : C) : Decidable (E.Conflicts a b) :=
  inferInstanceAs (Decidable ((∃ k ∈ E.locks a, k ∈ E.locks b) ∧ _ = true))

instance (c : Config ι σ C ε α) (i : ι) : Decidable (c.Active i) :=
  inferInstanceAs (Decidable (_ = _))

instance (c : Config ι σ C ε α) (i : ι) (statement : C) : Decidable (c.Unblocked E i statement) :=
  inferInstanceAs (Decidable (∀ j, j ≠ i → c.Active j → ∀ d ∈ (c.executions j).held,
    ¬ E.Conflicts statement d))

variable (E)

/-- The configuration a move leads to; `none` where the transaction has to wait or
the move does not fit. -/
def attempt (c : Config ι σ C ε α) : Move ι → Option (Config ι σ C ε α)
  | .statement i =>
    let x := c.executions i
    match x.program with
    | .call statement next =>
      if ¬ c.Active i then none
      else if E.reports statement = true ∧ x.scanned = false then
        if E.found statement (c.view E i) then some (c.set i { x with scanned := true })
        else some (c.set i { x with program := next false })
      else if ¬ c.Unblocked E i statement ∨ x.scanned ≠ E.reports statement then none
      else if E.found statement (c.view E i) then
        some (c.set i
          { x with
            program := next true
            scanned := false
            held := statement :: x.held
            passed := x.passed ++ [statement] })
      else if E.reports statement then
        some (c.set i
          { x with program := next false, scanned := false, held := statement :: x.held })
      else none
    | _ => none
  | .commit i =>
    match (c.executions i).program with
    | .done _ =>
      if c.Active i then
        some ({ c with committed := c.view E i }.set i
          { c.executions i with outcome := .committed })
      else none
    | _ => none
  | .rollback i =>
    if c.Active i then some (c.set i { c.executions i with outcome := .rolledBack }) else none

/-- A schedule of moves. -/
def schedule (c : Config ι σ C ε α) : List (Move ι) → Option (Config ι σ C ε α)
  | [] => some c
  | move :: moves => (attempt E c move).bind fun c' => schedule c' moves

variable {E} {c c' : Config ι σ C ε α}

theorem attempt_step {move : Move ι} (h : attempt E c move = some c') : Step E c c' := by
  cases move with
  | statement i =>
    simp only [attempt] at h
    split at h
    · rename_i statement next hprogram
      split at h
      · cases h
      rename_i hactive
      rw [not_not] at hactive
      split at h
      · -- the scan
        rename_i hscan
        split at h
        · rename_i hfound
          cases h
          exact .scan i hactive hprogram hscan.1 hscan.2 hfound
        · rename_i hfound
          cases h
          exact .scanEmpty i hactive hprogram hscan.1 hscan.2 (Bool.eq_false_iff.mpr hfound)
      split at h
      · cases h
      rename_i hscan hready
      push Not at hready
      split at h
      · rename_i hfound
        cases h
        exact .lock i hactive hprogram hready.2 hready.1 hfound
      rename_i hfound
      split at h
      · rename_i hreports
        cases h
        exact .recheck i hactive hprogram hreports (hready.2.trans hreports) hready.1
          (Bool.eq_false_iff.mpr hfound)
      · cases h
    · cases h
  | commit i =>
    simp only [attempt] at h
    split at h
    · rename_i value hprogram
      split at h
      · rename_i hactive
        cases h
        exact .commit i hactive hprogram
      · cases h
    · cases h
  | rollback i =>
    simp only [attempt] at h
    split at h
    · rename_i hactive
      cases h
      exact .rollback i hactive
    · cases h

/-- What is scheduled is a run. -/
theorem schedule_steps {moves : List (Move ι)} (h : schedule E c moves = some c') :
    Steps E c c' := by
  induction moves generalizing c with
  | nil =>
    cases h
    exact .refl
  | cons move moves ih =>
    rcases Option.bind_eq_some_iff.mp h with ⟨c₁, hattempt, hrest⟩
    exact .head (attempt_step hattempt) (ih hrest)

end Schedules

end ReadCommitted
