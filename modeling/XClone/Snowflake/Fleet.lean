import XClone.Snowflake.Layout

/-!
# XClone.Snowflake.Fleet — many generators at once

A fleet is a family of generators, each with a clock of its own; a run of the
fleet is any interleaving of `next()` calls on them. With distinct node ids no two
calls of a run return the same id, and an id minted at an earlier millisecond is
the smaller number, whoever minted it (`fleet_ids`). A millisecond is what the code
computes of a reading, `sinceEpoch`: readings far from the epoch can be rounded to
one, and then the node ids decide (`distant_ids_out_of_order`).

Every instance's own calls, in order, are a run of that instance (`project`), so
the one-generator results apply to it; across instances the node field differs.
-/

namespace XClone.Snowflake

open Js SnowflakeGenerator

variable {ι : Type} [DecidableEq ι]

/-- The instances of a fleet: each generator with the readings its clock will give. -/
abbrev Fleet (ι : Type) := ι → SnowflakeGenerator × List ℤ

/-- `FleetCalls fleet calls fleet'`: an interleaving of calls on the fleet. -/
inductive FleetCalls : Fleet ι → List (ι × Call) → Fleet ι → Prop where
  | nil (fleet : Fleet ι) : FleetCalls fleet [] fleet
  | cons {fleet fleet' : Fleet ι} {calls : List (ι × Call)} (i : ι)
      (skipped : List ℤ) (reading : ℤ) (r : Returned) :
      (fleet i).1.next (fleet i).2 = some r →
      (fleet i).2 = skipped ++ reading :: r.clock →
      FleetCalls (Function.update fleet i (r.generator, r.clock)) calls fleet' →
      FleetCalls fleet ((i, ⟨r.result, reading, r.generator⟩) :: calls) fleet'

/-- The calls of a run made on one instance. -/
def callsOf (i : ι) (calls : List (ι × Call)) : List Call :=
  calls.filterMap fun c => if c.1 = i then some c.2 else none

theorem mem_callsOf {i : ι} {call : Call} {calls : List (ι × Call)} (h : (i, call) ∈ calls) :
    call ∈ callsOf i calls :=
  List.mem_filterMap.mpr ⟨(i, call), h, if_pos rfl⟩

/-- One instance's calls are a run of that instance. -/
theorem project {fleet fleet' : Fleet ι} {calls : List (ι × Call)}
    (h : FleetCalls fleet calls fleet') (i : ι) :
    Calls (fleet i).1 (fleet i).2 (callsOf i calls) (fleet' i).1 (fleet' i).2 := by
  induction h with
  | nil fleet => exact Calls.nil _ _
  | cons j skipped reading r hnext hclock hrest ih =>
    by_cases hij : j = i
    · subst hij
      simp only [Function.update_self] at ih
      simp only [callsOf, List.filterMap_cons, if_true]
      exact Calls.cons skipped reading r hnext hclock ih
    · simp only [Function.update_of_ne (Ne.symm hij)] at ih
      simpa only [callsOf, List.filterMap_cons, if_neg hij] using ih

/-- A call of a fleet's run throws, or issues an id of its instance's node. -/
theorem fleet_call_issues {fleet fleet' : Fleet ι} {calls : List (ι × Call)}
    (h : FleetCalls fleet calls fleet') {i : ι} {call : Call} (hmem : (i, call) ∈ calls)
    {s : String} (hs : call.result = .ok s) :
    ∃ id : ℤ, s = toString id ∧ Issues (fleet i).1.nodeId call id ∧ (fleet i).1.floor < id := by
  rcases calls_issue (project h i) call (mem_callsOf hmem) with ⟨e, he⟩ | ⟨id, hid, hfloor⟩
  · rw [he] at hs
    cases hs
  · exact ⟨id, (Except.ok.inj (hid.result.symm.trans hs)).symm, hid, hfloor⟩

/-- Ids minted by different nodes differ. -/
theorem issues_ne_of_node_ne {n m : NodeId} {a b : Call} {x y : ℤ} (ha : Issues n a x)
    (hb : Issues m b y) (hne : n ≠ m) : x ≠ y := by
  intro hxy
  rw [ha.composed, hb.composed, compose_eq_pack, compose_eq_pack] at hxy
  rcases BitFields.pack_injective (fits_low _ _) (fits_low _ _) hxy with ⟨_, hlow⟩
  rcases BitFields.pack_injective (Sequence.fits _) (Sequence.fits _) hlow with ⟨hnode, _⟩
  apply hne
  cases n
  cases m
  simpa using hnode

/-- An id minted at an earlier millisecond is the smaller one. -/
theorem issues_lt_of_lt {n m : NodeId} {a b : Call} {x y : ℤ} (ha : Issues n a x)
    (hb : Issues m b y) (hlt : sinceEpoch a.reading < sinceEpoch b.reading) : x < y := by
  rw [ha.composed, hb.composed, compose_eq_pack, compose_eq_pack]
  exact BitFields.pack_lt_of_hi_lt hlt (fits_low _ _) (fits_low _ _)

/-- No two calls of a run return the same id. -/
theorem fleet_calls_pairwise {fleet fleet' : Fleet ι} {calls : List (ι × Call)}
    (hnodes : ∀ i j, i ≠ j → (fleet i).1.nodeId ≠ (fleet j).1.nodeId)
    (h : FleetCalls fleet calls fleet') :
    calls.Pairwise fun a b => ∀ s, a.2.result = .ok s → b.2.result ≠ .ok s := by
  induction h with
  | nil => exact List.Pairwise.nil
  | cons i skipped reading r hnext hclock hrest ih =>
    rename_i fleet fleet' calls
    have hwhole := FleetCalls.cons i skipped reading r hnext hclock hrest
    -- a call keeps its generator's node, so the nodes stay apart
    have hkeep : r.generator.nodeId = (fleet i).1.nodeId := by
      rcases call_cases hnext hclock with ⟨_, _, hr⟩ | ⟨seq, _, _, hr⟩
      · rw [hr]
      · rw [hr]
        rfl
    have hnode : ∀ j, (Function.update fleet i (r.generator, r.clock) j).1.nodeId =
        (fleet j).1.nodeId := by
      intro j
      by_cases hj : j = i
      · subst hj
        rw [Function.update_self]
        exact hkeep
      · rw [Function.update_of_ne hj]
    have hnodes' : ∀ j k, j ≠ k → (Function.update fleet i (r.generator, r.clock) j).1.nodeId ≠
        (Function.update fleet i (r.generator, r.clock) k).1.nodeId := by
      intro j k hjk
      rw [hnode j, hnode k]
      exact hnodes j k hjk
    refine List.Pairwise.cons ?_ (ih hnodes')
    rintro ⟨j, later⟩ hlater s hs hs'
    by_cases hij : i = j
    · -- the same instance: its run raises its ids
      subst hij
      have hpair := calls_pairwise (project hwhole i)
      simp only [callsOf, List.filterMap_cons, if_true] at hpair
      have hlt := (List.pairwise_cons.mp hpair).1 later (mem_callsOf hlater)
      rcases fleet_call_issues hwhole List.mem_cons_self hs with ⟨x, rfl, _, _⟩
      exact lt_irrefl x (hlt x x hs hs')
    · -- different instances: the node fields differ
      rcases fleet_call_issues hwhole List.mem_cons_self hs with ⟨x, rfl, hx, _⟩
      rcases fleet_call_issues hwhole (List.mem_cons_of_mem _ hlater) hs' with ⟨y, hstr, hy, _⟩
      exact issues_ne_of_node_ne hx hy (hnodes i j hij) (Int.repr_injective hstr)

/-- For generators constructed with pairwise distinct accepted node ids, each under
its own clock, and any interleaving of calls: no two returned ids are the same, and
an id minted at a strictly smaller reading is the numerically smaller one, unless the
two readings are rounded to one millisecond. Then both are `2 ^ 53` ms or more from
the epoch. -/
theorem fleet_ids {nodeIds : ι → JsNumber} {clocks : ι → List ℤ} {fleet fleet' : Fleet ι}
    {calls : List (ι × Call)}
    (hnew : ∀ i, construct (nodeIds i) (clocks i) = some (.ok (fleet i).1, (fleet i).2))
    (hdistinct : ∀ i j, i ≠ j → nodeIds i ≠ nodeIds j)
    (hrun : FleetCalls fleet calls fleet') :
    (issued (calls.map Prod.snd)).Nodup ∧
    ∀ a ∈ calls, ∀ b ∈ calls, ∀ s t, a.2.result = .ok s → b.2.result = .ok t →
      a.2.reading < b.2.reading →
      (sinceEpoch a.2.reading ≠ sinceEpoch b.2.reading →
        ∃ x y : ℤ, s.toInt? = some x ∧ t.toInt? = some y ∧ x < y) ∧
      (sinceEpoch a.2.reading = sinceEpoch b.2.reading →
        2 ^ 53 ≤ |a.2.reading - snowflakeEpochMs| ∧ 2 ^ 53 ≤ |b.2.reading - snowflakeEpochMs|) := by
  have hnodes : ∀ i j, i ≠ j → (fleet i).1.nodeId ≠ (fleet j).1.nodeId := by
    intro i j hij heq
    rcases construct_ok (hnew i) with ⟨hi, _⟩
    rcases construct_ok (hnew j) with ⟨hj, _⟩
    apply hdistinct i j hij
    rw [hi, hj, heq]
  constructor
  · -- no id twice
    have hpair := fleet_calls_pairwise hnodes hrun
    unfold issued
    rw [List.Nodup, List.pairwise_filterMap, List.pairwise_map]
    apply hpair.imp
    intro a b hab s hs t ht hst
    subst hst
    cases ha : a.2.result with
    | error e => simp [Call.id?, ha] at hs
    | ok x =>
      cases hb : b.2.result with
      | error e => simp [Call.id?, hb] at ht
      | ok y =>
        simp only [Call.id?, ha, hb, Option.some.injEq] at hs ht
        rw [hs] at ha
        rw [ht] at hb
        exact hab s ha hb
  · -- an earlier reading gives a smaller id, whatever the nodes
    rintro ⟨i, a⟩ ha ⟨j, b⟩ hb s t hs ht hlt
    rcases fleet_call_issues hrun ha hs with ⟨x, rfl, hx, _⟩
    rcases fleet_call_issues hrun hb ht with ⟨y, rfl, hy, _⟩
    constructor
    · intro hne
      have hlater := lt_of_le_of_ne (sinceEpoch_mono hlt.le) hne
      exact ⟨x, y, toInt?_toString x, toInt?_toString y, issues_lt_of_lt hx hy hlater⟩
    · intro hsame
      constructor
      · by_contra hsmall
        exact absurd hsame (sinceEpoch_lt hlt (Or.inl (not_le.mp hsmall))).ne
      · by_contra hsmall
        exact absurd hsame (sinceEpoch_lt hlt (Or.inr (not_le.mp hsmall))).ne

/-- A fleet issues no id twice, as texts. -/
theorem issued_nodup {fleet fleet' : Fleet ι} {calls : List (ι × Call)}
    (hnodes : ∀ i j, i ≠ j → (fleet i).1.nodeId ≠ (fleet j).1.nodeId)
    (h : FleetCalls fleet calls fleet') : (issued (calls.map Prod.snd)).Nodup := by
  have hid {call : Call} {s : String} (hs : call.id? = some s) : call.result = .ok s := by
    unfold Call.id? at hs
    split at hs
    · rename_i hresult
      rw [hresult, Option.some.inj hs]
    · cases hs
  rw [issued, List.Nodup, List.pairwise_filterMap, List.pairwise_map]
  apply (fleet_calls_pairwise hnodes h).imp
  rintro a b hab s hs t ht rfl
  exact hab s (hid hs) (hid ht)

/-- Node 8 next to `nodeSeven`. -/
def nodeEight : SnowflakeGenerator := ⟨⟨8, by decide⟩, -1, .zero⟩

/-- Node 8 mints first, 4096 ms before node 7, and its id is the larger one: the two
readings are JavaScript numbers, but their differences with the epoch are one number. -/
theorem distant_ids_out_of_order :
    let early : ℤ := 18446745840935157760
    let late := early + 4096
    let a := nodeEight.issue (2 ^ 64 + 8192) .zero []
    let b := nodeSeven.issue (2 ^ 64 + 8192) .zero []
    let fleet : Fleet Bool := fun i => if i then (nodeEight, [early]) else (nodeSeven, [late])
    (∀ reading ∈ [early, late], JsNumber.ofRat reading = .finite reading ∧
      JsNumber.ofRat ((reading - snowflakeEpochMs : ℤ) : ℚ) = .finite ((2 ^ 64 + 8192 : ℤ) : ℚ)) ∧
    construct (.finite 8) [snowflakeEpochMs, early] = some (.ok nodeEight, [early]) ∧
    construct (.finite 7) [snowflakeEpochMs, late] = some (.ok nodeSeven, [late]) ∧
    (∃ fleet', FleetCalls fleet [(true, ⟨a.result, early, a.generator⟩),
      (false, ⟨b.result, late, b.generator⟩)] fleet') ∧
    a.result = .ok (toString (77371252455336301540966400 : ℤ)) ∧
    b.result = .ok (toString (77371252455336301540962304 : ℤ)) ∧ early < late := by
  intro early late a b fleet
  have hearly : sinceEpoch early = 2 ^ 64 + 8192 := by decide +kernel
  have hlate : sinceEpoch late = 2 ^ 64 + 8192 := by decide +kernel
  refine ⟨?_, by decide, by decide, ?_, ?_, ?_, by decide⟩
  · intro reading hmem
    rcases List.mem_pair.mp hmem with rfl | rfl
    · rw [← hearly]
      exact sinceEpoch_number (by decide +kernel) (by decide +kernel)
    · rw [← hlate]
      exact sinceEpoch_number (by decide +kernel) (by decide +kernel)
  · exact ⟨_, FleetCalls.cons true [] early a (by decide +kernel) rfl
      (FleetCalls.cons false [] late b (by decide +kernel) rfl (FleetCalls.nil _))⟩
  · exact congrArg (fun id : ℤ => Except.ok (toString id))
      (by decide +kernel : compose (2 ^ 64 + 8192) nodeEight.nodeId .zero = _)
  · exact congrArg (fun id : ℤ => Except.ok (toString id))
      (by decide +kernel : compose (2 ^ 64 + 8192) nodeSeven.nodeId .zero = _)

/-- Nodes 7 and 8 minting in the same millisecond, then node 8 one later. -/
theorem fleet_ids_of_two_nodes :
    let t := snowflakeEpochMs
    let a := nodeSeven.issue 0 .zero []
    let b := nodeEight.issue 0 .zero [t + 1]
    let c := b.generator.issue 1 .zero []
    (issued [⟨a.result, t, a.generator⟩, ⟨b.result, t, b.generator⟩,
      ⟨c.result, t + 1, c.generator⟩]).Nodup := by
  intro t a b c
  let nodeIds : Bool → JsNumber := fun i => .finite (if i then 7 else 8)
  let clocks : Bool → List ℤ := fun i => if i then [t, t] else [t, t, t + 1]
  let fleet : Fleet Bool := fun i => if i then (nodeSeven, [t]) else (nodeEight, [t, t + 1])
  have hnew : ∀ i, construct (nodeIds i) (clocks i) = some (.ok (fleet i).1, (fleet i).2) := by
    decide
  have hdistinct : ∀ i j, i ≠ j → nodeIds i ≠ nodeIds j := by
    decide
  have hrun : FleetCalls fleet [(true, ⟨a.result, t, a.generator⟩),
      (false, ⟨b.result, t, b.generator⟩), (false, ⟨c.result, t + 1, c.generator⟩)] _ :=
    FleetCalls.cons true [] t a (by decide +kernel) rfl
      (FleetCalls.cons false [] t b (by decide +kernel) rfl
        (FleetCalls.cons false [] (t + 1) c (by decide +kernel) rfl (FleetCalls.nil _)))
  exact (fleet_ids hnew hdistinct hrun).1

end XClone.Snowflake
