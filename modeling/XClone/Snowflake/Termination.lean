import XClone.Snowflake.Runs

/-!
# XClone.Snowflake.Termination — `next()` returns, and refuses only when it must

The busy-wait has no measure of its own: it ends because the clock passes the
millisecond it is stuck on. Here the clock is what the generator is given, a function
that is read again and again, and a call has its first so many readings to come.

Under a clock that starts after the epoch, never goes back and passes every bound
(`Advancing`):

* the recorded timestamp is never ahead of a reading to come (`Behind`), so no call of
  a run is refused;
* every call returns after finitely many readings (`next_ends`).

Under any clock at all a call is refused exactly when it would go back behind the last
id (`refuses_only_when_it_must`).
-/

namespace XClone.Snowflake

open Js SnowflakeGenerator

/-! ## Clocks -/

/-- The `n` readings of a clock from the `k`-th on. -/
def readings (clock : ℕ → ℤ) (k n : ℕ) : List ℤ := (List.range' k n).map clock

/-- After the epoch, non-decreasing and unbounded. -/
structure Advancing (clock : ℕ → ℤ) : Prop where
  afterEpoch : ∀ k, snowflakeEpochMs ≤ clock k
  monotone : Monotone clock
  unbounded : ∀ bound, ∃ k, bound < clock k

section Clocks

variable {clock : ℕ → ℤ}

theorem readings_succ (clock : ℕ → ℤ) (k n : ℕ) :
    readings clock k (n + 1) = clock k :: readings clock (k + 1) n := by
  unfold readings
  rw [List.range'_succ, List.map_cons]

theorem readings_append (clock : ℕ → ℤ) (k m n : ℕ) :
    readings clock k m ++ readings clock (k + m) n = readings clock k (m + n) := by
  unfold readings
  rw [← List.map_append, List.range'_append_1]

/-- A clock that never goes back is read in order. -/
theorem readings_sorted (h : Monotone clock) (k n : ℕ) :
    (readings clock k n).Pairwise (· ≤ ·) := by
  unfold readings
  rw [List.pairwise_map]
  exact (List.pairwise_le_range' 1).imp fun hle => h hle

/-- Its timestamps pass every bound from any reading on, although they are rounded. -/
theorem Advancing.passes (h : Advancing clock) (k : ℕ) (bound : ℤ) :
    ∃ n, bound < sinceEpoch (clock (k + n)) := by
  rcases h.unbounded (snowflakeEpochMs + 2 ^ bound.toNat) with ⟨m, hm⟩
  have hle : clock m ≤ clock (k + m) := h.monotone (Nat.le_add_left m k)
  have hpow : bound < 2 ^ bound.toNat := by
    have hnat : ((bound.toNat : ℕ) : ℤ) < ((2 ^ bound.toNat : ℕ) : ℤ) :=
      Int.ofNat_lt.mpr Nat.lt_two_pow_self
    push_cast at hnat
    omega
  refine ⟨m, lt_of_lt_of_le hpow ?_⟩
  rw [← JsNumber.nearest_pow]
  exact JsNumber.nearest_mono (by omega)

/-! ## A call returns -/

/-- The wait ends on the first reading past the millisecond it is stuck on. -/
theorem waitLoop_ends {current timestamp : ℤ} (hle : timestamp ≤ current) {n k : ℕ}
    (hpast : current < sinceEpoch (clock (k + n))) :
    ∃ m t, waitLoop current timestamp (readings clock k (m + 1)) = some (t, []) := by
  induction n generalizing k timestamp with
  | zero =>
    rw [Nat.add_zero] at hpast
    refine ⟨0, sinceEpoch (clock k), ?_⟩
    rw [readings_succ, waitLoop, if_pos hle, waitLoop.eq_def, if_neg (by omega)]
    rfl
  | succ n ih =>
    by_cases hstuck : sinceEpoch (clock k) ≤ current
    · -- still stuck: the rest of the clock decides
      have hpast' : current < sinceEpoch (clock (k + 1 + n)) := by
        rw [show k + 1 + n = k + (n + 1) by omega]
        exact hpast
      rcases ih hstuck hpast' with ⟨m, t, hwait⟩
      refine ⟨m + 1, t, ?_⟩
      rw [readings_succ, waitLoop, if_pos hle]
      exact hwait
    · refine ⟨0, sinceEpoch (clock k), ?_⟩
      rw [readings_succ, waitLoop, if_pos hle, waitLoop.eq_def, if_neg hstuck]
      rfl

/-- Whatever a generator has recorded, its next call returns after finitely many
readings, and it reads them all. -/
theorem next_ends (h : Advancing clock) (g : SnowflakeGenerator) (k : ℕ) :
    ∃ m r, g.next (readings clock k (m + 1)) = some r ∧ r.clock = [] := by
  by_cases hwait : sinceEpoch (clock k) = g.lastTimestamp ∧ g.sequence.bump.val = 0
  · -- the millisecond is used up: the call waits for another
    rcases hwait with ⟨hsame, hwrap⟩
    rcases h.passes (k + 1) (sinceEpoch (clock k)) with ⟨n, hn⟩
    rcases waitLoop_ends (le_refl (sinceEpoch (clock k))) hn with ⟨m, t, hends⟩
    refine ⟨m + 1, g.issue t g.sequence.bump [], ?_, rfl⟩
    rw [readings_succ, next]
    simp only [waitForNextMillisecond, if_neg (not_lt.mpr hsame.ge), if_pos hsame, if_pos hwrap,
      hends]
  · -- one reading is enough
    refine ⟨0, ?_⟩
    rw [readings_succ, next]
    by_cases hback : sinceEpoch (clock k) < g.lastTimestamp
    · rw [if_pos hback]
      exact ⟨_, rfl, rfl⟩
    rw [if_neg hback]
    by_cases hsame : sinceEpoch (clock k) = g.lastTimestamp
    · rw [if_pos hsame, if_neg fun hwrap => hwait ⟨hsame, hwrap⟩]
      exact ⟨_, rfl, rfl⟩
    · rw [if_neg hsame]
      exact ⟨_, rfl, rfl⟩

end Clocks

/-! ## No call is refused -/

/-- The readings to come are in order, and none is before the recorded timestamp. -/
structure Behind (g : SnowflakeGenerator) (clock : List ℤ) : Prop where
  sorted : clock.Pairwise (· ≤ ·)
  recorded : ∀ reading ∈ clock, g.lastTimestamp ≤ sinceEpoch reading

section Behind

variable {g g' : SnowflakeGenerator} {clock clock' : List ℤ} {calls : List Call}

/-- A call issues an id, and stays behind the rest of the clock. -/
theorem Behind.next (h : Behind g clock) {r : Returned} (hnext : g.next clock = some r) :
    (∃ s, r.result = .ok s) ∧ Behind r.generator r.clock := by
  rcases next_cases hnext with ⟨reading, hclock, hback, -⟩ |
    ⟨skipped, reading, sequence, hclock, -, -, hr⟩
  · -- a refusal needs a reading before the recorded timestamp
    have hfirst := h.recorded reading (by rw [hclock]; exact List.mem_cons_self)
    omega
  · have hsorted := h.sorted
    rw [hclock, List.pairwise_append, List.pairwise_cons] at hsorted
    rcases hsorted with ⟨-, ⟨hlater, hrest⟩, -⟩
    rw [hr]
    refine ⟨⟨_, rfl⟩, hrest, ?_⟩
    intro later hmem
    exact sinceEpoch_mono (hlater later hmem)

/-- So does every call of a run. -/
theorem Behind.run (h : Behind g clock) (hrun : Calls g clock calls g' clock') :
    (∀ call ∈ calls, ∃ s, call.result = .ok s) ∧ Behind g' clock' := by
  induction hrun with
  | nil =>
    refine ⟨?_, h⟩
    intro call hmem
    cases hmem
  | cons skipped reading r hnext _ _ ih =>
    rcases h.next hnext with ⟨hissued, hbehind⟩
    rcases ih hbehind with ⟨hrest, hend⟩
    refine ⟨?_, hend⟩
    intro call hmem
    rcases List.mem_cons.mp hmem with rfl | hmem
    · exact hissued
    · exact hrest call hmem

/-! ## What is refused -/

/-- A call is refused on its first reading, or not at all. -/
theorem next_refuses_iff {reading : ℤ} :
    (∃ r e, g.next (reading :: clock) = some r ∧ r.result = .error e) ↔
      sinceEpoch reading < g.lastTimestamp := by
  constructor
  · rintro ⟨r, e, hnext, he⟩
    rcases next_cases hnext with ⟨first, hclock, hback, -⟩ | ⟨_, _, _, -, -, -, hr⟩
    · rw [(List.cons.inj hclock).1]
      exact hback
    · rw [hr] at he
      cases he
  · intro hback
    refine ⟨⟨.error ⟨g.lastTimestamp - (sinceEpoch reading)⟩, g, clock⟩, _, ?_, rfl⟩
    rw [SnowflakeGenerator.next, if_pos hback]

/-- A call consumes at least one reading. -/
theorem next_reads {r : Returned} (hnext : g.next clock = some r) :
    ∃ skipped reading, clock = skipped ++ reading :: r.clock := by
  rcases next_cases hnext with ⟨reading, hclock, -, -⟩ | ⟨skipped, reading, _, hclock, -, -, -⟩
  · exact ⟨[], reading, hclock⟩
  · exact ⟨skipped, reading, hclock⟩

/-- Refused calls leave the generator as it was. -/
theorem refused_calls_keep (hrun : Calls g clock calls g' clock')
    (h : ∀ call ∈ calls, ∃ e, call.result = .error e) : g' = g := by
  induction hrun with
  | nil => rfl
  | cons skipped reading r hnext hclock _ ih =>
    rcases h _ List.mem_cons_self with ⟨e, he⟩
    have hrest := ih fun later hmem => h later (List.mem_cons_of_mem _ hmem)
    rcases call_cases hnext hclock with ⟨-, -, hr⟩ | ⟨_, -, -, hr⟩
    · rw [hrest, hr]
    · simp only at he
      rw [hr] at he
      cases he

/-- The timestamp of an issued id is the difference of a reading. -/
theorem issued_timestamp {before after : List Call} {call : Call}
    (hrun : Calls g clock (before ++ call :: after) g' clock') {s : String}
    (hissued : call.result = .ok s) {id : ℤ} (hid : s.toInt? = some id) :
    ∃ reading, id >>> (22 : ℕ) = sinceEpoch reading := by
  rcases calls_issue hrun call (List.mem_append_right _ List.mem_cons_self) with
    ⟨e, he⟩ | ⟨id', hissues, -⟩
  · rw [he] at hissued
    cases hissued
  · have htext : toString id' = s := Except.ok.inj (hissues.result.symm.trans hissued)
    rw [← htext, toInt?_toString] at hid
    refine ⟨call.reading, ?_⟩
    rw [← Option.some.inj hid, hissues.composed, compose_eq_pack]
    exact BitFields.pack_shiftRight (fits_low _ _)

/-- The recorded timestamp is that of the last id issued. -/
theorem timestamp_of_last {before after : List Call} {call : Call}
    (hrun : Calls g clock (before ++ call :: after) g' clock') {s : String}
    (hissued : call.result = .ok s) (hafter : ∀ later ∈ after, ∃ e, later.result = .error e)
    {id : ℤ} (hid : s.toInt? = some id) : id >>> (22 : ℕ) = g'.lastTimestamp := by
  rcases hrun.split with ⟨g₁, clock₁, r, skipped, -, hnext, hclock, hcall, hrest⟩
  have hresult : r.result = .ok s := by
    rw [hcall] at hissued
    exact hissued
  rw [refused_calls_keep hrest hafter]
  rcases call_cases hnext hclock with ⟨-, -, hr⟩ | ⟨sequence, -, -, hr⟩
  · rw [hr] at hresult
    cases hresult
  · -- the id packs the timestamp over the node and the sequence
    rw [hr] at hresult
    have htext : toString (compose (sinceEpoch call.reading) g₁.nodeId sequence) = s :=
      Except.ok.inj hresult
    rw [← htext, toInt?_toString] at hid
    rw [← Option.some.inj hid, compose_eq_pack, hr]
    exact BitFields.pack_shiftRight (fits_low _ _)

end Behind

/-! ## Every run -/

section Runs

variable {clock : ℕ → ℤ}

/-- There are runs of any number of calls. -/
theorem runs_of_any_length (h : Advancing clock) (length : ℕ) (g : SnowflakeGenerator) (k : ℕ) :
    ∃ n calls g', calls.length = length ∧ Calls g (readings clock k n) calls g' [] := by
  induction length generalizing g k with
  | zero => exact ⟨0, [], g, rfl, Calls.nil _ _⟩
  | succ length ih =>
    rcases next_ends h g k with ⟨m, r, hnext, hread⟩
    rcases ih r.generator (k + (m + 1)) with ⟨n, calls, g', hlength, hrest⟩
    rcases next_append hnext with ⟨consumed, hconsumed, htail⟩
    rcases next_reads hnext with ⟨skipped, reading, hclock⟩
    rw [hread, List.append_nil] at hconsumed
    rw [hread] at hclock
    -- the call leaves the rest of the clock to the run that follows
    refine ⟨m + 1 + n, ⟨r.result, reading, r.generator⟩ :: calls, g', by simp [hlength], ?_⟩
    rw [← readings_append, hconsumed]
    refine Calls.cons skipped reading ⟨r.result, r.generator, readings clock (k + (m + 1)) n⟩
      (htail _) ?_ hrest
    rw [← hconsumed, hclock, List.append_assoc]
    rfl

/-- The call whose first reading is the `k`-th of the clock throws. -/
def Refused (g : SnowflakeGenerator) (clock : ℕ → ℤ) (k : ℕ) : Prop :=
  ∃ n r e, g.next (readings clock k n) = some r ∧ r.result = .error e

theorem refused_iff {g : SnowflakeGenerator} {k : ℕ} :
    Refused g clock k ↔ sinceEpoch (clock k) < g.lastTimestamp := by
  have hrefuses (n : ℕ) : (∃ r e, g.next (readings clock k (n + 1)) = some r ∧
      r.result = .error e) ↔ sinceEpoch (clock k) < g.lastTimestamp := by
    rw [readings_succ]
    exact next_refuses_iff
  constructor
  · rintro ⟨n, r, e, hnext, he⟩
    cases n with
    | zero => cases hnext
    | succ n => exact (hrefuses n).mp ⟨r, e, hnext, he⟩
  · intro hback
    exact ⟨1, (hrefuses 0).mpr hback⟩

/-- The generator terminates, and refuses only when it must. Whatever node id is
accepted, under an advancing clock it is constructed, there are runs of any number of
calls, every call of a run issues an id, and the next call does so too, after finitely
many readings. Under any clock a call that follows an issued id is refused if and only
if the difference of its first reading is before the timestamp of the last id issued. So
the reading itself is before that timestamp; and where it is not more than `2 ^ 53` ms
from the epoch, the call is refused if and only if it is. -/
theorem refuses_only_when_it_must {nodeId : JsNumber} {id : NodeId}
    (hnode : assertValidNodeId nodeId "node id" = .ok id) (clock : ℕ → ℤ) :
    (Advancing clock → ∃ g, construct nodeId (readings clock 0 1) = some (.ok g, []) ∧
      (∀ length, ∃ n calls g', calls.length = length ∧
        Calls g (readings clock 1 n) calls g' []) ∧
      ∀ n calls g', Calls g (readings clock 1 n) calls g' [] →
        (∀ call ∈ calls, ∃ s, call.result = .ok s) ∧
        ∃ m r, g'.next (readings clock (1 + n) m) = some r ∧ r.clock = [] ∧
          ∃ s, r.result = .ok s) ∧
    ∀ g, construct nodeId (readings clock 0 1) = some (.ok g, []) →
      ∀ n before call after g', Calls g (readings clock 1 n) (before ++ call :: after) g' [] →
      ∀ (s : String) (issued : ℤ), call.result = .ok s → s.toInt? = some issued →
        (∀ later ∈ after, ∃ e, later.result = .error e) →
      (Refused g' clock (1 + n) ↔ sinceEpoch (clock (1 + n)) < issued >>> (22 : ℕ)) ∧
      (Refused g' clock (1 + n) → clock (1 + n) < snowflakeEpochMs + issued >>> (22 : ℕ)) ∧
      (|clock (1 + n) - snowflakeEpochMs| ≤ 2 ^ 53 →
        (Refused g' clock (1 + n) ↔
          clock (1 + n) < snowflakeEpochMs + issued >>> (22 : ℕ))) := by
  constructor
  · intro hadvancing
    have hfirst : ¬ clock 0 < snowflakeEpochMs := not_lt.mpr (hadvancing.afterEpoch 0)
    refine ⟨⟨id, -1, .zero⟩, ?_, ?_, ?_⟩
    · rw [readings_succ]
      simp only [construct, hnode, if_neg hfirst]
      rfl
    · intro length
      exact runs_of_any_length hadvancing length _ 1
    · intro n calls g' hrun
      -- nothing is recorded yet, and every reading is after the epoch
      have hbehind : ∀ n, Behind ⟨id, -1, .zero⟩ (readings clock 1 n) := by
        intro n
        refine ⟨readings_sorted hadvancing.monotone 1 n, ?_⟩
        intro reading hmem
        rcases List.mem_map.mp hmem with ⟨k, -, rfl⟩
        have hafter := hadvancing.afterEpoch k
        have hepoch := @sinceEpoch_lt_iff (clock k) (-1) (by norm_num)
        show -1 ≤ sinceEpoch (clock k)
        omega
      refine ⟨((hbehind n).run hrun).1, ?_⟩
      rcases next_ends hadvancing g' (1 + n) with ⟨m, r, hnext, hread⟩
      rcases hrun.append with ⟨consumed, hconsumed, htail⟩
      -- the run with the readings of the next call still to come
      have hlonger := htail (readings clock (1 + n) (m + 1))
      rw [← List.append_nil consumed, ← hconsumed, readings_append] at hlonger
      exact ⟨m + 1, r, hnext, hread, (((hbehind _).run hlonger).2.next hnext).1⟩
  · intro g _ n before call after g' hrun s issued hissued hid hafter
    have hlast := timestamp_of_last hrun hissued hafter hid
    have hiff : Refused g' clock (1 + n) ↔ sinceEpoch (clock (1 + n)) < issued >>> (22 : ℕ) := by
      rw [hlast]
      exact refused_iff
    refine ⟨hiff, ?_, ?_⟩
    · intro hrefused
      rcases issued_timestamp hrun hissued hid with ⟨reading, htimestamp⟩
      rw [htimestamp] at hiff ⊢
      have hbefore := lt_of_sinceEpoch_lt (hiff.mp hrefused)
      omega
    · intro hsmall
      rw [hiff, sinceEpoch_of_small hsmall]
      omega

end Runs

/-! ## A slow clock and one that steps back -/

/-- 10,000 readings of every millisecond, so that a busy generator has to wait. -/
def slowClock (k : ℕ) : ℤ := snowflakeEpochMs + (k / 10000 : ℕ)

theorem slowClock_advancing : Advancing slowClock where
  afterEpoch k := by
    unfold slowClock
    omega
  monotone := by
    intro k k' hle
    have hdiv : k / 10000 ≤ k' / 10000 := Nat.div_le_div_right hle
    unfold slowClock
    omega
  unbounded bound := by
    refine ⟨10000 * (bound.toNat + 1), ?_⟩
    unfold slowClock snowflakeEpochMs
    rw [Nat.mul_div_cancel_left _ (by decide)]
    omega

/-- One step back, at the third reading. -/
def steppingClock (k : ℕ) : ℤ := snowflakeEpochMs + if k = 2 then 5 else 10

/-- Node 7 never fails under the slow clock; under the other its second call is
refused. -/
theorem node_seven_is_refused_once :
    (∃ g, construct (.finite 7) (readings slowClock 0 1) = some (.ok g, []) ∧
      ∀ n calls g', Calls g (readings slowClock 1 n) calls g' [] →
        ∃ m r, g'.next (readings slowClock (1 + n) m) = some r ∧ ∃ s, r.result = .ok s) ∧
    Refused (nodeSeven.issue 10 .zero []).generator steppingClock 2 := by
  have hnode : assertValidNodeId (.finite 7) "node id" = .ok ⟨7, by decide⟩ := by decide
  constructor
  · rcases (refuses_only_when_it_must hnode slowClock).1 slowClock_advancing with
      ⟨g, hnew, -, hruns⟩
    refine ⟨g, hnew, ?_⟩
    intro n calls g' hrun
    rcases (hruns n calls g' hrun).2 with ⟨m, r, hnext, -, hissued⟩
    exact ⟨m, r, hnext, hissued⟩
  · have hrun : Calls nodeSeven (readings steppingClock 1 1)
        [⟨(nodeSeven.issue 10 .zero []).result, steppingClock 1,
          (nodeSeven.issue 10 .zero []).generator⟩] (nodeSeven.issue 10 .zero []).generator [] :=
      Calls.cons [] (steppingClock 1) (nodeSeven.issue 10 .zero []) (by decide +kernel) rfl
        (Calls.nil _ _)
    have hid : compose 10 nodeSeven.nodeId .zero >>> (22 : ℕ) = 10 := by
      rw [compose_eq_pack]
      decide
    have hlast := (refuses_only_when_it_must hnode steppingClock).2 nodeSeven (by decide) 1 [] _ [] _
      hrun _ _ rfl (toInt?_toString _) (by simp)
    refine (hlast.2.2 (by decide)).mpr ?_
    rw [hid]
    decide

/-- A step back of 4096 ms that is not refused: the two readings are JavaScript numbers, but
their differences with the epoch are one number. -/
theorem distant_step_back_is_not_refused :
    let late : ℤ := 18446745840935161856
    let early := late - 4096
    let first := nodeSeven.issue (2 ^ 64 + 8192) .zero [early]
    (∀ reading ∈ [early, late], JsNumber.ofRat reading = .finite reading ∧
      JsNumber.ofRat ((reading - snowflakeEpochMs : ℤ) : ℚ) = .finite ((2 ^ 64 + 8192 : ℤ) : ℚ)) ∧
    construct (.finite 7) [snowflakeEpochMs, late, early] = some (.ok nodeSeven, [late, early]) ∧
    Calls nodeSeven [late, early] [⟨first.result, late, first.generator⟩] first.generator [early] ∧
    first.result = .ok (toString (77371252455336301540962304 : ℤ)) ∧
    early < snowflakeEpochMs + (77371252455336301540962304 : ℤ) >>> (22 : ℕ) ∧
    ∃ second s, first.generator.next [early] = some second ∧ second.result = .ok s := by
  intro late early first
  have hearly : sinceEpoch early = 2 ^ 64 + 8192 := by decide +kernel
  have hlate : sinceEpoch late = 2 ^ 64 + 8192 := by decide +kernel
  refine ⟨?_, by decide, Calls.cons [] late first (by decide +kernel) rfl (Calls.nil _ _), ?_,
    by decide +kernel, first.generator.issue (2 ^ 64 + 8192) ⟨1, by decide⟩ [], _,
    by decide +kernel, rfl⟩
  · intro reading hmem
    rcases List.mem_pair.mp hmem with rfl | rfl
    · rw [← hearly]
      exact sinceEpoch_number (by decide +kernel) (by decide +kernel)
    · rw [← hlate]
      exact sinceEpoch_number (by decide +kernel) (by decide +kernel)
  · exact congrArg (fun id : ℤ => Except.ok (toString id))
      (by decide +kernel : compose (2 ^ 64 + 8192) nodeSeven.nodeId .zero = _)

end XClone.Snowflake
