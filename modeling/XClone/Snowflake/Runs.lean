import Mathlib
import XClone.Snowflake.Generator

/-!
# XClone.Snowflake.Runs — runs of `next()` and the order of their ids

A run is any number of successive calls on one generator. Some calls may throw;
a call still spinning is not part of the run. The ids of a run are strictly
increasing (`ids_strictly_increasing`): the id of the recorded slot is a lower
bound (`floor`) that every call either keeps or raises to the id it returns.
-/

namespace XClone.Snowflake

open Js SnowflakeGenerator

/-- One completed call of a run: what it gave, the last reading it consumed (the
one an id is minted at) and the fields it left. -/
structure Call where
  result : Except SnowflakeClockError String
  reading : ℤ
  generator : SnowflakeGenerator
deriving DecidableEq

/-- `Calls g clock calls g' clock'`: successive calls on `g` under `clock` give
`calls` and leave `g'` with the readings `clock'` to come. -/
inductive Calls : SnowflakeGenerator → List ℤ → List Call → SnowflakeGenerator → List ℤ → Prop
  where
  | nil (g : SnowflakeGenerator) (clock : List ℤ) : Calls g clock [] g clock
  | cons {g g' : SnowflakeGenerator} {clock clock' : List ℤ} {calls : List Call}
      (skipped : List ℤ) (reading : ℤ) (r : Returned) :
      g.next clock = some r →
      clock = skipped ++ reading :: r.clock →
      Calls r.generator r.clock calls g' clock' →
      Calls g clock (⟨r.result, reading, r.generator⟩ :: calls) g' clock'

/-- The id a call returned, if it did not throw. -/
def Call.id? (call : Call) : Option String :=
  match call.result with
  | .ok id => some id
  | .error _ => none

/-- The strings a run returned, in call order. -/
def issued (calls : List Call) : List String := calls.filterMap Call.id?

/-! ## One call of a run -/

/-- Two ways to split a list before the same tail agree. -/
theorem split_reading {skipped skipped' tail : List ℤ} {reading reading' : ℤ}
    (h : skipped ++ reading :: tail = skipped' ++ reading' :: tail) : reading = reading' := by
  have hlen := congrArg List.length h
  simp only [List.length_append, List.length_cons] at hlen
  have hsplit := List.append_inj_right h (by omega)
  exact (List.cons.inj hsplit).1

/-- What one call of a run did, with the reading the run records for it. -/
theorem call_cases {g : SnowflakeGenerator} {clock skipped : List ℤ} {reading : ℤ} {r : Returned}
    (h : g.next clock = some r) (hclock : clock = skipped ++ reading :: r.clock) :
    (clock = reading :: r.clock ∧ sinceEpoch reading < g.lastTimestamp ∧
      r = ⟨.error ⟨g.lastTimestamp - (sinceEpoch reading)⟩, g, r.clock⟩) ∨
    (∃ sequence, (∀ first ∈ clock.head?, g.lastTimestamp ≤ sinceEpoch first) ∧
      g.NextSlot (sinceEpoch reading) sequence ∧
      r = g.issue (sinceEpoch reading) sequence r.clock) := by
  rcases next_cases h with ⟨reading', hcons, hlt, hr⟩ |
    ⟨skipped', reading', seq, hsplit, hhead, hslot, hr⟩
  · left
    have heq : reading = reading' := by
      rw [hcons] at hclock
      exact (@split_reading [] _ _ _ _ hclock).symm
    subst heq
    exact ⟨hcons, hlt, hr⟩
  · right
    have heq : reading = reading' := by
      rw [hsplit] at hclock
      exact split_reading hclock.symm
    subst heq
    exact ⟨seq, hhead, hslot, hr⟩

/-- The id of the recorded slot: every id still to come is larger. -/
def SnowflakeGenerator.floor (g : SnowflakeGenerator) : ℤ :=
  compose g.lastTimestamp g.nodeId g.sequence

/-- The low 22 bits: node id over sequence. -/
theorem fits_low (nodeId : NodeId) (sequence : Sequence) :
    BitFields.Fits (nodeIdBits + sequenceBits)
      (BitFields.pack sequenceBits nodeId.val sequence.val) :=
  BitFields.pack_fits nodeId.fits sequence.fits

/-- The next slot's id is above the floor. -/
theorem floor_lt_of_nextSlot {g : SnowflakeGenerator} {timestamp : ℤ} {sequence : Sequence}
    (h : g.NextSlot timestamp sequence) : g.floor < compose timestamp g.nodeId sequence := by
  rw [floor, compose_eq_pack, compose_eq_pack]
  rcases h with ⟨hlater, _⟩ | ⟨hsame, hseq⟩
  · exact BitFields.pack_lt_of_hi_lt hlater (fits_low _ _) (fits_low _ _)
  · rw [hsame]
    apply BitFields.pack_lt_of_lo_lt
    apply BitFields.pack_lt_of_lo_lt
    omega

/-! ## What a whole run keeps -/

/-- The record of a call that issued an id on a generator of this node. -/
structure Issues (nodeId : NodeId) (call : Call) (id : ℤ) : Prop where
  result : call.result = .ok (toString id)
  node : call.generator.nodeId = nodeId
  timestamp : call.generator.lastTimestamp = sinceEpoch call.reading
  composed : id = compose (sinceEpoch call.reading) nodeId call.generator.sequence

/-- Every call of a run throws, or issues an id above the floor it started from. -/
theorem calls_issue {g g' : SnowflakeGenerator} {clock clock' : List ℤ} {calls : List Call}
    (h : Calls g clock calls g' clock') :
    ∀ call ∈ calls, (∃ e, call.result = .error e) ∨
      ∃ id, Issues g.nodeId call id ∧ g.floor < id := by
  induction h with
  | nil => simp
  | cons skipped reading r hnext hclock hrest ih =>
    rename_i g g' clock clock' calls
    rcases call_cases hnext hclock with ⟨_, _, hr⟩ | ⟨seq, _, hslot, hr⟩
    · -- refused: the floor stays
      have hgen : r.generator = g := by rw [hr]
      rw [hgen] at ih ⊢
      intro call hmem
      rcases List.mem_cons.mp hmem with rfl | hmem
      · exact Or.inl ⟨_, by rw [hr]⟩
      · exact ih call hmem
    · -- issued: the floor rises to the new id
      have hgen : r.generator.nodeId = g.nodeId := by
        rw [hr]
        rfl
      have hfloor : r.generator.floor = compose (sinceEpoch reading) g.nodeId seq := by
        rw [hr]
        rfl
      have hlt := floor_lt_of_nextSlot hslot
      intro call hmem
      rcases List.mem_cons.mp hmem with rfl | hmem
      · refine Or.inr ⟨_, ⟨?_, hgen, ?_, ?_⟩, hlt⟩
        · rw [hr]
          rfl
        · rw [hr]
          rfl
        · rw [hr]
          rfl
      · rcases ih call hmem with he | ⟨id, hid, habove⟩
        · exact Or.inl he
        · rw [hgen] at hid
          exact Or.inr ⟨id, hid, by omega⟩

/-- The integer an issued id denotes. -/
theorem toInt?_toString (id : ℤ) : (toString id).toInt? = some id := Int.toInt?_repr id

/-- Later calls of a run issue larger ids. -/
theorem calls_pairwise {g g' : SnowflakeGenerator} {clock clock' : List ℤ} {calls : List Call}
    (h : Calls g clock calls g' clock') :
    calls.Pairwise fun earlier later => ∀ x y : ℤ,
      earlier.result = .ok (toString x) → later.result = .ok (toString y) → x < y := by
  induction h with
  | nil => exact List.Pairwise.nil
  | cons skipped reading r hnext hclock hrest ih =>
    rename_i g g' clock clock' calls
    refine List.Pairwise.cons ?_ ih
    intro later hlater x y hx hy
    rcases call_cases hnext hclock with ⟨_, _, hr⟩ | ⟨seq, _, _, hr⟩
    · rw [hr] at hx
      cases hx
    · -- the head's id is the floor the rest of the run starts from
      have hfloor : r.generator.floor = x := by
        rw [hr] at hx
        have hstr : toString (compose (sinceEpoch reading) g.nodeId seq) = toString x :=
          Except.ok.inj hx
        rw [hr]
        exact Int.repr_injective hstr
      rcases calls_issue hrest later hlater with ⟨e, he⟩ | ⟨id, hid, habove⟩
      · rw [he] at hy
        cases hy
      · have hstr : toString id = toString y := Except.ok.inj (hid.result.symm.trans hy)
        have hid' : id = y := Int.repr_injective hstr
        omega

/-- The ids a run issued, as integers. -/
theorem issued_eq_map {g g' : SnowflakeGenerator} {clock clock' : List ℤ} {calls : List Call}
    (h : Calls g clock calls g' clock') :
    ∃ ids : List ℤ, issued calls = ids.map toString ∧ ids.Pairwise (· < ·) := by
  -- every id is the decimal text of a number
  have hdecimal : ∀ call ∈ calls, ∀ s, call.id? = some s → ∃ id : ℤ, s = toString id := by
    intro call hmem s hs
    rcases calls_issue h call hmem with ⟨e, he⟩ | ⟨id, hid, _⟩
    · simp [Call.id?, he] at hs
    · refine ⟨id, ?_⟩
      simpa [Call.id?, hid.result] using hs.symm
  have hpair := calls_pairwise h
  clear h
  induction calls with
  | nil => exact ⟨[], rfl, List.Pairwise.nil⟩
  | cons call calls ih =>
    rw [List.pairwise_cons] at hpair
    rcases ih (fun c hc => hdecimal c (List.mem_cons_of_mem _ hc)) hpair.2 with ⟨ids, hids, hsorted⟩
    cases hres : call.result with
    | error e => exact ⟨ids, by simpa [issued, Call.id?, hres] using hids, hsorted⟩
    | ok s =>
      rcases hdecimal call List.mem_cons_self s (by simp [Call.id?, hres]) with ⟨id, rfl⟩
      refine ⟨id :: ids, by simpa [issued, Call.id?, hres] using hids, ?_⟩
      refine List.Pairwise.cons ?_ hsorted
      -- a later number belongs to a later call
      intro y hy
      have hmem : toString y ∈ issued calls := by
        rw [hids]
        exact List.mem_map_of_mem hy
      rcases List.mem_filterMap.mp hmem with ⟨later, hlater, hsome⟩
      refine hpair.1 later hlater id y hres ?_
      cases hl : later.result with
      | error e => simp [Call.id?, hl] at hsome
      | ok t => simpa [Call.id?, hl] using hsome

/-! ## Readings that a call does not use -/

theorem waitLoop_append {current timestamp : ℤ} {clock : List ℤ} {t : ℤ} {rest : List ℤ}
    (h : waitLoop current timestamp clock = some (t, rest)) :
    ∃ consumed, clock = consumed ++ rest ∧
      ∀ tail, waitLoop current timestamp (consumed ++ tail) = some (t, tail) := by
  induction clock generalizing timestamp with
  | nil =>
    by_cases hle : timestamp ≤ current
    · simp [waitLoop, hle] at h
    · simp only [waitLoop, if_neg hle, Option.some.injEq, Prod.mk.injEq] at h
      rcases h with ⟨rfl, rfl⟩
      exact ⟨[], rfl, fun tail => by rw [waitLoop.eq_def, if_neg hle]; rfl⟩
  | cons reading clock ih =>
    by_cases hle : timestamp ≤ current
    · rw [waitLoop, if_pos hle] at h
      rcases ih h with ⟨consumed, hclock, htail⟩
      refine ⟨reading :: consumed, by rw [hclock]; rfl, fun tail => ?_⟩
      rw [List.cons_append, waitLoop, if_pos hle]
      exact htail tail
    · rw [waitLoop.eq_def, if_neg hle] at h
      simp only [Option.some.injEq, Prod.mk.injEq] at h
      rcases h with ⟨rfl, rfl⟩
      exact ⟨[], rfl, fun tail => by rw [waitLoop.eq_def, if_neg hle]; rfl⟩

/-- A call reads only the readings it consumes: whatever comes after, it returns
the same. -/
theorem next_append {g : SnowflakeGenerator} {clock : List ℤ} {r : Returned}
    (h : g.next clock = some r) :
    ∃ consumed, clock = consumed ++ r.clock ∧
      ∀ tail, g.next (consumed ++ tail) = some ⟨r.result, r.generator, tail⟩ := by
  cases clock with
  | nil => simp [next] at h
  | cons first clock =>
    simp only [next] at h
    by_cases hback : sinceEpoch first < g.lastTimestamp
    · -- the clock went back: one reading, and the error
      rw [if_pos hback] at h
      obtain rfl := Option.some.inj h
      exact ⟨[first], rfl, fun tail => by simp [next, hback]⟩
    rw [if_neg hback] at h
    by_cases hsame : sinceEpoch first = g.lastTimestamp
    · rw [if_pos hsame] at h
      by_cases hwrap : g.sequence.bump.val = 0
      · -- the sequence is used up: the loop reads until the next millisecond
        rw [if_pos hwrap] at h
        cases hwait : waitForNextMillisecond (sinceEpoch first) clock with
        | none => simp [hwait] at h
        | some waited =>
          rcases waited with ⟨t, rest⟩
          simp only [hwait, Option.some.injEq] at h
          rcases waitLoop_append hwait with ⟨consumed, hclock, htail⟩
          subst h
          refine ⟨first :: consumed, by rw [hclock]; rfl, fun tail => ?_⟩
          simp only [List.cons_append, next, if_neg hback, if_pos hsame, if_pos hwrap,
            waitForNextMillisecond, htail tail]
          rfl
      · rw [if_neg hwrap] at h
        obtain rfl := Option.some.inj h
        exact ⟨[first], rfl, fun tail => by simp [next, hsame, hwrap, issue]⟩
    · rw [if_neg hsame] at h
      obtain rfl := Option.some.inj h
      exact ⟨[first], rfl, fun tail => by simp [next, hback, hsame, issue]⟩

/-- A run reads only the readings its calls consume. -/
theorem Calls.append {g g' : SnowflakeGenerator} {clock clock' : List ℤ} {calls : List Call}
    (h : Calls g clock calls g' clock') :
    ∃ consumed, clock = consumed ++ clock' ∧ ∀ tail, Calls g (consumed ++ tail) calls g' tail := by
  induction h with
  | nil g clock => exact ⟨[], rfl, fun tail => Calls.nil g tail⟩
  | cons skipped reading r hnext hclock hrest ih =>
    rename_i g g' clock clock' calls
    rcases ih with ⟨consumed, hsplit, htail⟩
    rcases next_append hnext with ⟨used, hused, hcall⟩
    have hlast : used = skipped ++ [reading] := by
      rw [hused] at hclock
      exact List.append_cancel_right (by simpa using hclock)
    refine ⟨used ++ consumed, by rw [hused, hsplit, List.append_assoc], fun tail => ?_⟩
    rw [List.append_assoc]
    have hread : used ++ (consumed ++ tail) = skipped ++ reading :: (consumed ++ tail) := by
      rw [hlast]
      simp
    exact Calls.cons skipped reading ⟨r.result, r.generator, consumed ++ tail⟩
      (hcall (consumed ++ tail)) hread (htail tail)

/-- Runs compose. -/
theorem Calls.trans {g g' g'' : SnowflakeGenerator} {clock clock' clock'' : List ℤ}
    {calls calls' : List Call} (h : Calls g clock calls g' clock')
    (h' : Calls g' clock' calls' g'' clock'') : Calls g clock (calls ++ calls') g'' clock'' := by
  induction h with
  | nil => exact h'
  | cons skipped reading r hnext hclock _ ih =>
    exact Calls.cons skipped reading r hnext hclock (ih h')

/-- A run splits at any of its calls. -/
theorem Calls.split {g g'' : SnowflakeGenerator} {clock clock'' : List ℤ} {before after : List Call}
    {call : Call} (h : Calls g clock (before ++ call :: after) g'' clock'') :
    ∃ g' clock' r skipped, Calls g clock before g' clock' ∧ g'.next clock' = some r ∧
      clock' = skipped ++ call.reading :: r.clock ∧ call = ⟨r.result, call.reading, r.generator⟩ ∧
      Calls r.generator r.clock after g'' clock'' := by
  induction before generalizing g clock with
  | nil =>
    cases h with
    | cons skipped reading r hnext hclock hrest =>
      exact ⟨g, clock, r, skipped, Calls.nil g clock, hnext, hclock, rfl, hrest⟩
  | cons first before ih =>
    cases h with
    | cons skipped₀ reading₀ r₀ hnext hclock hrest =>
      rcases ih hrest with ⟨g', clock', r, skipped, hbefore, hrest'⟩
      exact ⟨g', clock', r, skipped, Calls.cons skipped₀ reading₀ r₀ hnext hclock hbefore, hrest'⟩

/-- A call that throws changes nothing: the fields stay, and the run is the run of
the other calls on the clock without the reading that call consumed. -/
theorem throwing_call_is_a_no_op {g g' : SnowflakeGenerator} {clock clock' : List ℤ}
    {before after : List Call} {call : Call} {e : SnowflakeClockError}
    (h : Calls g clock (before ++ call :: after) g' clock') (he : call.result = .error e) :
    ∃ consumed rest, clock = consumed ++ call.reading :: rest ∧
      Calls g clock before call.generator (call.reading :: rest) ∧
      Calls call.generator rest after g' clock' ∧
      Calls g (consumed ++ rest) (before ++ after) g' clock' := by
  rcases h.split with ⟨mid, midClock, r, skipped, hbefore, hnext, hclock, hcall, hafter⟩
  have hres : r.result = .error e := by
    rw [hcall] at he
    exact he
  rcases call_cases hnext hclock with ⟨hread, _, hr⟩ | ⟨seq, _, _, hr⟩
  · have hgen : r.generator = mid := by rw [hr]
    have hcallGen : call.generator = mid := by
      rw [hcall]
      exact hgen
    rcases hbefore.append with ⟨consumed, hsplit, htail⟩
    rw [hgen] at hafter
    rw [hcallGen]
    refine ⟨consumed, r.clock, by rw [hsplit, hread], ?_, hafter, (htail r.clock).trans hafter⟩
    rw [← hread]
    exact hbefore
  · rw [hr] at hres
    cases hres

/-! ## Ids of one generator are strictly increasing -/

/-- For every generator (so for every node id the constructor accepts), every clock
and every run of calls: the returned strings denote strictly increasing integers,
and a call that throws leaves the generator as it was, so that the run is the one
in which it and its reading never happened. -/
theorem ids_strictly_increasing {g g' : SnowflakeGenerator} {clock clock' : List ℤ}
    {calls : List Call} (hrun : Calls g clock calls g' clock') :
    (∃ ids : List ℤ, (issued calls).map String.toInt? = ids.map some ∧ ids.Pairwise (· < ·)) ∧
    (issued calls).Nodup ∧
    ∀ before call after e, calls = before ++ call :: after → call.result = .error e →
      ∃ consumed rest, clock = consumed ++ call.reading :: rest ∧
        Calls g clock before call.generator (call.reading :: rest) ∧
        Calls call.generator rest after g' clock' ∧
        Calls g (consumed ++ rest) (before ++ after) g' clock' := by
  rcases issued_eq_map hrun with ⟨ids, hids, hsorted⟩
  refine ⟨⟨ids, ?_, hsorted⟩, ?_, ?_⟩
  · rw [hids, List.map_map]
    exact List.map_congr_left fun id _ => toInt?_toString id
  · rw [hids]
    apply List.Nodup.map
    · intro x y hxy
      exact Int.repr_injective hxy
    · exact hsorted.imp fun h => ne_of_lt h
  · intro before call after e hcalls he
    rw [hcalls] at hrun
    exact throwing_call_is_a_no_op hrun he

/-- A fresh generator of node 7. -/
def nodeSeven : SnowflakeGenerator := ⟨⟨7, by decide⟩, -1, .zero⟩

/-- Three calls under a clock that steps back 50 ms between the first two. -/
theorem ids_strictly_increasing_over_a_backwards_clock :
    let t := snowflakeEpochMs + 10000
    let first := nodeSeven.issue 10000 .zero [t - 50, t]
    let third := first.generator.issue 10000 ⟨1, by decide⟩ []
    let calls : List Call := [⟨first.result, t, first.generator⟩,
      ⟨.error ⟨50⟩, t - 50, first.generator⟩, ⟨third.result, t, third.generator⟩]
    construct (.finite 7) [t, t, t - 50, t] = some (.ok nodeSeven, [t, t - 50, t]) ∧
      (∃ ids : List ℤ, (issued calls).map String.toInt? = ids.map some ∧
        ids.Pairwise (· < ·)) := by
  intro t first third calls
  have hthird : Calls first.generator [t] [⟨third.result, t, third.generator⟩]
      third.generator [] :=
    Calls.cons [] t third (by decide +kernel) rfl (Calls.nil _ _)
  have hsecond := Calls.cons [] (t - 50) ⟨.error ⟨50⟩, first.generator, [t]⟩
    (by decide +kernel : first.generator.next [t - 50, t] = _) rfl hthird
  have hfirst := Calls.cons [] t first (by decide +kernel : nodeSeven.next [t, t - 50, t] = _) rfl
    hsecond
  exact ⟨by decide, (ids_strictly_increasing hfirst).1⟩

end XClone.Snowflake
