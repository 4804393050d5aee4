import XClone.Snowflake.Runs

/-!
# XClone.Snowflake.Layout — the documented 64-bit layout

An id is one unused sign bit, 41 bits of milliseconds since the epoch, 10 bits of
node id and 12 bits of sequence. Once a generator has recorded a timestamp at or
after the epoch, every id it issues has this layout (`run_after_epoch_layout`).

A fresh generator has recorded none: its `#lastTimestamp` is the sentinel `-1n`,
and a first reading one millisecond before the epoch compares *equal* to it, so
the call neither throws nor restarts the sequence and issues a negative id.
`layout_iff` says that this is the only way out: a run has the layout exactly when
the first reading that is not refused is not that millisecond.
-/

namespace XClone.Snowflake

open Js SnowflakeGenerator

/-- What a call of a run issued, if it issued anything, is the decimal form of a
63-bit id whose fields are the call's reading, the node id and the sequence. -/
def HasDocumentedLayout (nodeId : JsNumber) (call : Call) : Prop :=
  ∀ s, call.result = .ok s → ∃ id : ℤ, s = toString id ∧ 0 ≤ id ∧ id < 2 ^ 63 ∧
    id >>> (22 : ℕ) = call.reading - snowflakeEpochMs ∧ 0 ≤ call.reading - snowflakeEpochMs ∧
    JsNumber.finite (Int.land (id >>> (12 : ℕ)) 1023 : ℤ) = nodeId ∧
    Int.land id 4095 = call.generator.sequence.val

/-! ## The constructor -/

/-- The check accepts a number only as the node id it is. -/
theorem assertValidNodeId_ok {nodeId : JsNumber} {source : String} {id : NodeId}
    (h : assertValidNodeId nodeId source = .ok id) : nodeId = .finite (id.val : ℤ) := by
  cases nodeId with
  | nan => simp [assertValidNodeId] at h
  | infinity s => simp [assertValidNodeId] at h
  | finite value =>
    simp only [assertValidNodeId] at h
    split at h
    · rename_i hvalid
      obtain rfl := Except.ok.inj h
      exact congrArg JsNumber.finite ((Rat.den_eq_one_iff value).mp hvalid.1).symm
    · cases h

/-- What an accepted construction leaves: a fresh generator of that node. -/
theorem construct_ok {nodeId : JsNumber} {clock clock₀ : List ℤ} {g : SnowflakeGenerator}
    (h : construct nodeId clock = some (.ok g, clock₀)) :
    nodeId = .finite (g.nodeId.val : ℤ) ∧ g.lastTimestamp = -1 ∧ g.sequence = .zero ∧
      ∃ now, snowflakeEpochMs ≤ now ∧ clock = now :: clock₀ := by
  unfold construct at h
  cases hid : assertValidNodeId nodeId "node id" with
  | error e => simp [hid] at h
  | ok id =>
    cases clock with
    | nil => simp [hid] at h
    | cons now clock =>
      simp only [hid] at h
      by_cases hnow : now < snowflakeEpochMs
      · simp [hnow] at h
      · simp only [if_neg hnow, Option.some.injEq, Prod.mk.injEq, Except.ok.injEq] at h
        rcases h with ⟨rfl, rfl⟩
        exact ⟨assertValidNodeId_ok hid, rfl, rfl, now, by omega, rfl⟩

/-! ## Runs after the epoch -/

/-- The fields of a composed id at or after the epoch. -/
theorem compose_layout {timestamp : ℤ} (nodeId : NodeId) (sequence : Sequence)
    (h0 : 0 ≤ timestamp) (h41 : timestamp < 2 ^ 41) :
    let id := compose timestamp nodeId sequence
    0 ≤ id ∧ id < 2 ^ 63 ∧ id >>> (22 : ℕ) = timestamp ∧ Int.land (id >>> (12 : ℕ)) 1023 = nodeId.val ∧
      Int.land id 4095 = sequence.val := by
  intro id
  have hid : id = BitFields.pack 22 timestamp (BitFields.pack 12 nodeId.val sequence.val) :=
    compose_eq_pack timestamp nodeId sequence
  have hnode : BitFields.Fits 10 nodeId.val := nodeId.fits
  have hseq : BitFields.Fits 12 sequence.val := sequence.fits
  have hlow : BitFields.Fits 22 (BitFields.pack 12 nodeId.val sequence.val) :=
    BitFields.pack_fits hnode hseq
  have hfits : BitFields.Fits (41 + 22) id := by
    rw [hid]
    exact BitFields.pack_fits ⟨h0, h41⟩ hlow
  -- the same id, split at the sequence
  have hsplit : id = BitFields.pack 12 (BitFields.pack 10 timestamp nodeId.val) sequence.val := by
    rw [hid]
    simp only [BitFields.pack]
    ring
  refine ⟨hfits.1, hfits.2, ?_, ?_, ?_⟩
  · rw [hid, BitFields.pack_shiftRight hlow]
  · rw [hsplit, BitFields.pack_shiftRight hseq]
    exact BitFields.pack_land_mask hnode
  · rw [hsplit]
    exact BitFields.pack_land_mask hseq

/-- The readings a run records are readings of its clock. -/
theorem calls_reading_mem {g g' : SnowflakeGenerator} {clock clock' : List ℤ} {calls : List Call}
    (h : Calls g clock calls g' clock') : ∀ call ∈ calls, call.reading ∈ clock := by
  induction h with
  | nil => simp
  | cons skipped reading r hnext hclock hrest ih =>
    intro call hmem
    rw [hclock]
    rcases List.mem_cons.mp hmem with rfl | hmem
    · simp
    · have hlater := ih call hmem
      simp [hlater]

/-- A run never issues an id at a timestamp before the recorded one. -/
theorem issues_timestamp_le {g : SnowflakeGenerator} {call : Call} {id : ℤ}
    (h : Issues g.nodeId call id) (hfloor : g.floor < id) :
    g.lastTimestamp ≤ sinceEpoch call.reading := by
  by_contra hlt
  have hback : sinceEpoch call.reading < g.lastTimestamp := by omega
  have hid : id < g.floor := by
    rw [h.composed, floor, compose_eq_pack, compose_eq_pack]
    exact BitFields.pack_lt_of_hi_lt hback (fits_low _ _) (fits_low _ _)
  omega

/-- An id minted at or after the epoch has the layout. -/
theorem issues_layout {nodeId : NodeId} {call : Call} {id : ℤ} (h : Issues nodeId call id)
    (h0 : 0 ≤ sinceEpoch call.reading) (h41 : call.reading < snowflakeEpochMs + 2 ^ 41) :
    HasDocumentedLayout (.finite (nodeId.val : ℤ)) call := by
  intro s hs
  have hafter := @lt_sinceEpoch_iff call.reading (-1) (by norm_num)
  have hexact : sinceEpoch call.reading = call.reading - snowflakeEpochMs :=
    sinceEpoch_of_small (by rw [abs_le]; omega)
  obtain ⟨hnonneg, hlt, hshift, hnode, hseq⟩ :=
    compose_layout nodeId call.generator.sequence h0 (by omega)
  rw [← h.composed] at hnonneg hlt hshift hnode hseq
  rw [hexact] at hshift h0
  have hstr : toString id = s := Except.ok.inj (h.result.symm.trans hs)
  exact ⟨id, hstr.symm, hnonneg, hlt, hshift, h0, by rw [hnode], hseq⟩

/-- Once a timestamp at or after the epoch is recorded, every id has the layout. -/
theorem run_after_epoch_layout {g g' : SnowflakeGenerator} {clock clock' : List ℤ}
    {calls : List Call} (h0 : 0 ≤ g.lastTimestamp)
    (hbelow : ∀ reading ∈ clock, reading < snowflakeEpochMs + 2 ^ 41)
    (hrun : Calls g clock calls g' clock') :
    ∀ call ∈ calls, HasDocumentedLayout (.finite (g.nodeId.val : ℤ)) call := by
  intro call hmem
  rcases calls_issue hrun call hmem with ⟨e, he⟩ | ⟨id, hid, hfloor⟩
  · intro s hs
    rw [he] at hs
    cases hs
  · have hts := issues_timestamp_le hid hfloor
    exact issues_layout hid (by omega) (hbelow _ (calls_reading_mem hrun call hmem))

/-! ## Runs of a fresh generator -/

/-- The generator a constructor leaves: nothing issued yet. -/
def Fresh (g : SnowflakeGenerator) : Prop := g.lastTimestamp = -1 ∧ g.sequence = .zero

/-- The first reading decides what a call on a fresh generator does: refuse it,
issue at the sentinel itself, or issue at a timestamp after the epoch. -/
theorem fresh_call_cases {g : SnowflakeGenerator} (hg : Fresh g) {first reading : ℤ}
    {clock skipped : List ℤ} {r : Returned} (h : g.next (first :: clock) = some r)
    (hclock : first :: clock = skipped ++ reading :: r.clock) :
    (first < snowflakeEpochMs - 1 ∧ r.generator = g ∧ r.clock = clock ∧ ∃ e, r.result = .error e) ∨
    (first = snowflakeEpochMs - 1 ∧ reading = first ∧ ∃ s, r.result = .ok s) ∨
    (snowflakeEpochMs ≤ first ∧ 0 ≤ r.generator.lastTimestamp ∧ r.generator.nodeId = g.nodeId) := by
  rcases hg with ⟨hlast, hseq⟩
  simp only [next, hlast] at h
  have hbefore := @sinceEpoch_lt_iff first (-1) (by norm_num)
  have hafter := @lt_sinceEpoch_iff first (-1) (by norm_num)
  rcases lt_trichotomy first (snowflakeEpochMs - 1) with hlt | hsentinel | hgt
  · -- refused: before the sentinel
    left
    rw [if_pos (by omega)] at h
    obtain rfl := Option.some.inj h
    exact ⟨hlt, rfl, rfl, _, rfl⟩
  · -- equal to the sentinel: the sequence goes from 0 to 1, so the call does not wait
    right; left
    have hbump : g.sequence.bump.val ≠ 0 := by
      rw [hseq]
      decide
    rw [if_neg (by omega), if_pos (by omega), if_neg hbump] at h
    obtain rfl := Option.some.inj h
    exact ⟨hsentinel, (@split_reading [] skipped clock first reading hclock).symm, _, rfl⟩
  · right; right
    rw [if_neg (by omega), if_neg (by omega)] at h
    obtain rfl := Option.some.inj h
    refine ⟨by omega, ?_, rfl⟩
    show 0 ≤ sinceEpoch first
    omega

/-- The first of the readings a run's calls take that no call refuses (before
anything is issued) is not the millisecond before the epoch. -/
def FirstMintAfterEpoch (readings : List ℤ) : Prop :=
  readings.find? (snowflakeEpochMs - 1 ≤ ·) ≠ some (snowflakeEpochMs - 1)

instance (readings : List ℤ) : Decidable (FirstMintAfterEpoch readings) :=
  inferInstanceAs (Decidable (_ ≠ _))

theorem fresh_run_layout {g g' : SnowflakeGenerator} {clock clock' : List ℤ} {calls : List Call}
    (hg : Fresh g) (hbelow : ∀ reading ∈ clock, reading < snowflakeEpochMs + 2 ^ 41)
    (hrun : Calls g clock calls g' clock') :
    (∀ call ∈ calls, HasDocumentedLayout (.finite (g.nodeId.val : ℤ)) call) ↔
      FirstMintAfterEpoch (clock.take calls.length) := by
  induction hrun with
  | nil => simp [FirstMintAfterEpoch]
  | cons skipped reading r hnext hclock hrest ih =>
    rename_i g g' clock clock' calls
    cases clock with
    | nil => simp at hclock
    | cons first clock =>
      rcases fresh_call_cases hg hnext hclock with ⟨hlt, hgen, hrestClock, e, he⟩ |
        ⟨hsentinel, hreading, s, hs⟩ | ⟨hafter, hts, hnode⟩
      · -- refused: the call issues nothing and the generator is still fresh
        rw [hgen, hrestClock] at ih
        have hfind : FirstMintAfterEpoch ((first :: clock).take (calls.length + 1)) ↔
            FirstMintAfterEpoch (clock.take calls.length) := by
          have hskip : ¬ decide (snowflakeEpochMs - 1 ≤ first) = true := by
            rw [decide_eq_true_eq]
            omega
          have hfind : (first :: clock.take calls.length).find? (snowflakeEpochMs - 1 ≤ ·) =
              (clock.take calls.length).find? (snowflakeEpochMs - 1 ≤ ·) :=
            List.find?_cons_of_neg hskip
          rw [FirstMintAfterEpoch, List.take_succ_cons, hfind]
          rfl
        have hhead : HasDocumentedLayout (.finite (g.nodeId.val : ℤ))
            ⟨r.result, reading, r.generator⟩ := by
          intro s hs
          rw [he] at hs
          cases hs
        rw [List.length_cons, hfind,
          ← ih hg (fun x hx => hbelow x (List.mem_cons_of_mem _ hx)), List.forall_mem_cons]
        exact and_iff_right hhead
      · -- issued one millisecond before the epoch
        constructor
        · intro h
          rcases h _ List.mem_cons_self s hs with ⟨id, _, _, _, _, hnonneg, _⟩
          simp only at hnonneg
          omega
        · intro h
          exfalso
          apply h
          simp [hsentinel]
      · -- issued after the epoch: so is everything that follows
        constructor
        · intro _ h
          have hfirst : snowflakeEpochMs - 1 ≤ first := by omega
          simp only [List.length_cons, List.take_succ_cons, List.find?_cons,
            decide_eq_true hfirst, Option.some.injEq] at h
          omega
        · intro _
          rw [List.forall_mem_cons]
          have hall := Calls.cons skipped reading r hnext hclock hrest
          have hsuffix : ∀ x ∈ r.clock, x < snowflakeEpochMs + 2 ^ 41 := by
            intro x hx
            apply hbelow x
            rw [hclock]
            simp [hx]
          constructor
          · rcases calls_issue hall _ List.mem_cons_self with ⟨e, he⟩ | ⟨id, hid, _⟩
            · intro s hs
              rw [he] at hs
              cases hs
            · have htimestamp := hid.timestamp
              simp only at htimestamp
              exact issues_layout hid (by simp only; omega)
                (hbelow _ (calls_reading_mem hall _ List.mem_cons_self))
          · rw [← hnode]
            exact run_after_epoch_layout hts hsuffix hrest

/-! ## The layout of every id -/

/-- For every accepted node id and every clock below `snowflakeEpochMs + 2 ^ 41`, a
run issues only ids of the documented layout if and only if the first of its
readings that is not refused is not the millisecond before the epoch. -/
theorem layout_iff {nodeId : JsNumber} {clock clock₀ clock' : List ℤ} {g g' : SnowflakeGenerator}
    {calls : List Call} (hnew : construct nodeId clock = some (.ok g, clock₀))
    (hbelow : ∀ reading ∈ clock, reading < snowflakeEpochMs + 2 ^ 41)
    (hrun : Calls g clock₀ calls g' clock') :
    (∀ call ∈ calls, HasDocumentedLayout nodeId call) ↔
      FirstMintAfterEpoch (clock₀.take calls.length) := by
  rcases construct_ok hnew with ⟨hnode, hlast, hseq, now, _, hclock⟩
  rw [hnode]
  apply fresh_run_layout ⟨hlast, hseq⟩ _ hrun
  intro reading hmem
  apply hbelow reading
  rw [hclock]
  exact List.mem_cons_of_mem now hmem

/-- The clock steps back to the millisecond before the epoch between the
constructor's check and the first call: the call issues `-4165631`. -/
theorem layout_fails_before_epoch :
    let back := snowflakeEpochMs - 1
    let first := nodeSeven.issue (-1) ⟨1, by decide⟩ []
    let call : Call := ⟨first.result, back, first.generator⟩
    construct (.finite 7) [snowflakeEpochMs, back] = some (.ok nodeSeven, [back]) ∧
      (∀ reading ∈ [snowflakeEpochMs, back], reading < snowflakeEpochMs + 2 ^ 41) ∧
      Calls nodeSeven [back] [call] first.generator [] ∧
      call.result = .ok (toString (-4165631 : ℤ)) ∧ ¬ HasDocumentedLayout (.finite 7) call := by
  intro back first call
  have hid : compose (-1) nodeSeven.nodeId ⟨1, by decide⟩ = -4165631 := by
    rw [compose_eq_pack]
    decide
  refine ⟨by decide, by decide, Calls.cons [] back first (by decide +kernel) rfl (Calls.nil _ _),
    congrArg (fun id : ℤ => Except.ok (toString id)) hid, ?_⟩
  intro h
  rcases h _ rfl with ⟨id, _, _, _, _, hnonneg, _⟩
  exact absurd hnonneg (by decide)

/-- A run whose first call reads the epoch itself. -/
theorem layout_iff_at_epoch :
    let first := nodeSeven.issue 0 .zero []
    let call : Call := ⟨first.result, snowflakeEpochMs, first.generator⟩
    (∀ c ∈ [call], HasDocumentedLayout (.finite 7) c) ↔ FirstMintAfterEpoch [snowflakeEpochMs] := by
  intro first call
  have hrun : Calls nodeSeven [snowflakeEpochMs] [call] first.generator [] :=
    Calls.cons [] snowflakeEpochMs first (by decide +kernel) rfl (Calls.nil _ _)
  exact layout_iff (by decide : construct (.finite 7) [snowflakeEpochMs, snowflakeEpochMs] =
    some (.ok nodeSeven, [snowflakeEpochMs])) (by decide) hrun

end XClone.Snowflake
