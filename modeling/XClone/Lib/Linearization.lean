import XClone.Lib.Paths

/-!
# XClone.Lib.Linearization — executions that take effect at a point

Each execution may have points, found from its own events, at which an operation of a
sequential specification happens. The operations of a history are those of its events, in
order: those of one execution depend on its own events only (`operationsOf_operations`),
and an execution that ended before another started comes first (`Run.real_time`). If every
step simulates what its event stands for, the operations are a run of the specification
(`Run.linearizes`).
-/

namespace Interleaving

variable {σ Req α ε C A Op : Type} {R : C → Type}

/-! ## Operations -/

section Operations

variable (point : List (Event Req ε C R) → Event Req ε C R → Option Op)

/-- The operation of an event, from what its execution did before. -/
def operationAt (before : List (Event Req ε C R)) (e : Event Req ε C R) : List (ℕ × Op) :=
  ((point (before.filter (·.thread = e.thread)) e).map fun op => (e.thread, op)).toList

/-- The operations of the events that follow `before`. -/
def operationsFrom (before : List (Event Req ε C R)) : List (Event Req ε C R) → List (ℕ × Op)
  | [] => []
  | e :: τ => operationAt point before e ++ operationsFrom (before ++ [e]) τ

/-- The operations of a history, each with its execution. -/
def operations (τ : List (Event Req ε C R)) : List (ℕ × Op) := operationsFrom point [] τ

/-- Those of one execution alone. -/
def ownFrom (before : List (Event Req ε C R)) : List (Event Req ε C R) → List Op
  | [] => []
  | e :: τ => (point before e).toList ++ ownFrom (before ++ [e]) τ

/-- The operations of execution `i`. -/
def operationsOf (i : ℕ) (ops : List (ℕ × Op)) : List Op :=
  (ops.filter (·.1 = i)).map Prod.snd

variable {point}

theorem operationsFrom_append (before τ τ' : List (Event Req ε C R)) :
    operationsFrom point before (τ ++ τ') =
      operationsFrom point before τ ++ operationsFrom point (before ++ τ) τ' := by
  induction τ generalizing before with
  | nil => simp [operationsFrom]
  | cons e τ ih =>
    rw [List.cons_append, operationsFrom, operationsFrom, ih, List.append_assoc, List.append_assoc,
      List.singleton_append]

theorem operations_append (τ τ' : List (Event Req ε C R)) :
    operations point (τ ++ τ') = operations point τ ++ operationsFrom point τ τ' := by
  rw [operations, operationsFrom_append, List.nil_append]
  rfl

theorem operations_snoc (τ : List (Event Req ε C R)) (e : Event Req ε C R) :
    operations point (τ ++ [e]) = operations point τ ++ operationAt point τ e := by
  rw [operations_append, operationsFrom, operationsFrom, List.append_nil]

theorem ownFrom_append (before τ τ' : List (Event Req ε C R)) :
    ownFrom point before (τ ++ τ') =
      ownFrom point before τ ++ ownFrom point (before ++ τ) τ' := by
  induction τ generalizing before with
  | nil => simp [ownFrom]
  | cons e τ ih =>
    rw [List.cons_append, ownFrom, ownFrom, ih, List.append_assoc, List.append_assoc,
      List.singleton_append]

/-- An operation is that of an event of its execution, after what it did before. -/
theorem event_of_operation {before τ : List (Event Req ε C R)} {i : ℕ} {op : Op}
    (h : (i, op) ∈ operationsFrom point before τ) : ∃ τ₁ e τ₂, τ = τ₁ ++ e :: τ₂ ∧ e.thread = i ∧
      point ((before ++ τ₁).filter (·.thread = i)) e = some op := by
  induction τ generalizing before with
  | nil => cases h
  | cons e τ ih =>
    rcases List.mem_append.mp h with hhead | htail
    · rcases Option.map_eq_some_iff.mp (Option.mem_toList.mp hhead) with ⟨op', hpoint, heq⟩
      cases heq
      refine ⟨[], e, τ, rfl, rfl, ?_⟩
      rw [List.append_nil]
      exact hpoint
    · rcases ih htail with ⟨τ₁, e', τ₂, rfl, hthread, hpoint⟩
      refine ⟨e :: τ₁, e', τ₂, rfl, hthread, ?_⟩
      rw [List.append_assoc, List.singleton_append] at hpoint
      exact hpoint

theorem thread_of_operation {before τ : List (Event Req ε C R)} {i : ℕ} {op : Op}
    (h : (i, op) ∈ operationsFrom point before τ) : ∃ e ∈ τ, e.thread = i := by
  rcases event_of_operation h with ⟨τ₁, e, τ₂, rfl, hthread, -⟩
  exact ⟨e, List.mem_append_right _ List.mem_cons_self, hthread⟩

/-- The operations of an execution are found in its own events. -/
theorem operationsOf_operations (i : ℕ) (τ : List (Event Req ε C R)) :
    operationsOf i (operations point τ) = ownFrom point [] (τ.filter (·.thread = i)) := by
  induction τ using List.reverseRecOn with
  | nil => rfl
  | append_singleton τ e ih =>
    rw [operations_snoc, operationsOf, List.filter_append, List.map_append, List.filter_append]
    change operationsOf i (operations point τ) ++ _ = _
    by_cases hthread : e.thread = i
    · -- its next event
      have hown : [e].filter (fun e => decide (e.thread = i)) = [e] := by simp [hthread]
      rw [hown, ownFrom_append, ih, ownFrom, ownFrom, List.append_nil, List.nil_append, operationAt,
        hthread]
      cases point (τ.filter fun e => decide (e.thread = i)) e <;> simp
    · -- somebody else's
      have hown : [e].filter (fun e => decide (e.thread = i)) = [] := by simp [hthread]
      rw [hown, List.append_nil, ih, operationAt]
      cases point (τ.filter fun e' => decide (e'.thread = e.thread)) e <;> simp [hthread]

end Operations

/-! ## The specification -/

/-- A run of a sequential specification. -/
inductive Replays (step : A → Op → A → Prop) : A → List Op → A → Prop where
  | nil (a : A) : Replays step a [] a
  | snoc {a a' a'' : A} {ops : List Op} {op : Op} :
      Replays step a ops a' → step a' op a'' → Replays step a (ops ++ [op]) a''

/-- One operation, or none. -/
def Moves (step : A → Op → A → Prop) : Option Op → A → A → Prop
  | none, a, a' => a' = a
  | some op, a, a' => step a op a'

theorem Replays.moves {step : A → Op → A → Prop} {a a' a'' : A} {ops : List Op} {op : Option Op}
    (h : Replays step a ops a') (hmove : Moves step op a' a'') :
    Replays step a (ops ++ op.toList) a'' := by
  cases op with
  | none =>
    obtain rfl : a'' = a' := hmove
    rw [Option.toList_none, List.append_nil]
    exact h
  | some op => exact h.snoc hmove

/-! ## Linearization -/

variable {M : Machine σ Req α ε C R}
  {point : List (Event Req ε C R) → Event Req ε C R → Option Op}

/-- The event of a step, and what its execution did before. -/
theorem map_operationAt (τ : List (Event Req ε C R)) (e : Event Req ε C R) (s : σ) :
    (operationAt point τ e).map Prod.snd = (point ((World.mk τ s).own e.thread) e).toList := by
  unfold operationAt World.own
  cases point (τ.filter fun e' => decide (e'.thread = e.thread)) e <;> rfl

/-- Steps that simulate what their events stand for make a run of the specification.
`assumed` may say anything of a history that its beginnings keep. -/
theorem Run.linearizes {step : A → Op → A → Prop} {s : σ} {a : A}
    {assumed : List (Event Req ε C R) → Prop} {represents : List (Event Req ε C R) → σ → A → Prop}
    (hbegins : ∀ {τ e}, assumed (τ ++ [e]) → assumed τ) (hinit : represents [] s a)
    (hstep : ∀ {τ c e c' a'}, assumed (τ ++ [e]) → Run M (.initial s) τ c → Step M c e c' →
      represents τ c.store a' →
      ∃ a'', Moves step (point ((World.mk τ c.store).own e.thread) e) a' a'' ∧
        represents (τ ++ [e]) c'.store a'')
    {τ : List (Event Req ε C R)} {c : Config σ Req α ε C R} (h : Run M (.initial s) τ c)
    (hassumed : assumed τ) :
    ∃ a', Replays step a ((operations point τ).map Prod.snd) a' ∧ represents τ c.store a' := by
  generalize hfrom : Config.initial s = c₀ at h
  induction h with
  | nil =>
    subst hfrom
    exact ⟨a, .nil a, hinit⟩
  | @snoc c₁ c₂ τ e hrun hlast ih =>
    subst hfrom
    rcases ih (hbegins hassumed) with ⟨a', hreplays, hrep⟩
    rcases hstep hassumed hrun hlast hrep with ⟨a'', hmove, hrep'⟩
    refine ⟨a'', ?_, hrep'⟩
    rw [operations_snoc, List.map_append, map_operationAt τ e c₁.store]
    exact hreplays.moves hmove

/-- A completed execution does nothing more. -/
theorem Run.completed {c c' : Config σ Req α ε C R} {τ : List (Event Req ε C R)}
    (h : Run M c τ c') {i : ℕ} {t : Thread Req C R ε α} (ht : c.threads i = some t)
    (hdone : t.program.Completed) : c'.threads i = some t ∧ ∀ e ∈ τ, e.thread ≠ i := by
  induction h with
  | nil => exact ⟨ht, fun e he => absurd he List.not_mem_nil⟩
  | @snoc c₁ c₂ τ e hrun hlast ih =>
    rcases ih with ⟨hkept, hother⟩
    rcases hlast.completed hkept hdone with ⟨hkept', hne⟩
    refine ⟨hkept', ?_⟩
    intro e' he'
    rcases List.mem_append.mp he' with he' | he'
    · exact hother e' he'
    · rw [List.mem_singleton.mp he']
      exact hne

/-- The order of the operations keeps to real time: when an execution starts, it has none,
and those that have ended have all of theirs. -/
theorem Run.real_time {s : σ} {τ τ' : List (Event Req ε C R)} {j : ℕ} {request : Req}
    {c : Config σ Req α ε C R} (h : Run M (.initial s) (τ ++ .start j request :: τ') c) :
    ∃ c₁ later, Run M (.initial s) τ c₁ ∧
      operations point (τ ++ .start j request :: τ') = operations point τ ++ later ∧
      (∀ op ∈ operations point τ, op.1 ≠ j) ∧
      ∀ i t, c₁.threads i = some t → t.program.Completed → ∀ op ∈ later, op.1 ≠ i := by
  rcases h.split with ⟨c₁, hbefore, hafter⟩
  refine ⟨c₁, operationsFrom point τ (.start j request :: τ'), hbefore, operations_append _ _,
    ?_, ?_⟩
  · -- an execution has no events before it starts
    rcases hafter.first with ⟨c₂, hstep, -⟩
    cases hstep with
    | start i request hnone =>
      rintro ⟨k, op⟩ hop rfl
      rcases thread_of_operation hop with ⟨e, he, hthread⟩
      have hown : e ∈ (World.mk τ c₁.store).own k := World.mem_own.mpr ⟨he, hthread⟩
      rw [hbefore.projected.fresh k hnone] at hown
      cases hown
  · rintro i t ht hdone ⟨k, op⟩ hop rfl
    rcases thread_of_operation hop with ⟨e, he, hthread⟩
    exact (hafter.completed ht hdone).2 e he hthread

end Interleaving
