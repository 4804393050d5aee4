import XClone.Lib.BitFields
import XClone.Js.Number

/-!
# XClone.Snowflake.Generator — the id generator of `@x-clone/snowflake`

`SnowflakeGenerator` mints 64-bit ids `timestamp << 22 | nodeId << 12 | sequence`
from the clock it is given. The clock is the list of readings it will return:
each `this.#clock()` takes the head, so standing still, jumping and stepping
backwards between any two reads are just lists. `none` means the readings ran
out inside a call: it is still spinning in the busy-wait.

`next_cases` says everything one call can do; the results about runs of calls
use it and never unfold `next`.
-/

namespace XClone.Snowflake

open Js

/-- Milliseconds since the Unix epoch at 2026-01-01T00:00:00.000Z. -/
def snowflakeEpochMs : ℤ := 1767225600000

/-- Ten bits of node id, so 1,024 instances can mint concurrently. -/
def nodeIdBits : ℕ := 10

/-- 1023 — the largest node id those ten bits can hold. -/
def maxNodeId : ℤ := 1 <<< nodeIdBits - 1

def sequenceBits : ℕ := 12

/-- 4095. `sequence & maxSequence` wraps to 0. -/
def maxSequence : ℤ := 1 <<< sequenceBits - 1

/-! ## Readings -/

/-- `BigInt(this.#clock() - SNOWFLAKE_EPOCH_MS)`. The difference is a JavaScript number, so
it is rounded where the reading is more than `2 ^ 53` ms from the epoch. -/
def sinceEpoch (reading : ℤ) : ℤ := JsNumber.nearest (reading - snowflakeEpochMs)

/-- A reading that is a JavaScript number, and its difference. -/
theorem sinceEpoch_number {reading : ℤ} (hdouble : JsNumber.nearest reading = reading)
    (h : |reading| < 2 ^ 1024) :
    JsNumber.ofRat reading = .finite reading ∧
      JsNumber.ofRat ((reading - snowflakeEpochMs : ℤ) : ℚ) = .finite (sinceEpoch reading) := by
  have hself := @JsNumber.ofRat_int reading (by rwa [hdouble])
  rw [hdouble] at hself
  exact ⟨hself, JsNumber.ofRat_sub hdouble h (by decide +kernel)⟩

theorem sinceEpoch_of_small {reading : ℤ} (h : |reading - snowflakeEpochMs| ≤ 2 ^ 53) :
    sinceEpoch reading = reading - snowflakeEpochMs :=
  JsNumber.nearest_of_small h

/-- It is exact for the readings of `Date.now`. -/
theorem sinceEpoch_date {reading : ℤ} (h : ValidDate reading) :
    sinceEpoch reading = reading - snowflakeEpochMs := by
  apply sinceEpoch_of_small
  have hbounds : -maxTime ≤ reading ∧ reading ≤ maxTime := abs_le.mp h
  unfold maxTime at hbounds
  unfold snowflakeEpochMs
  rw [abs_le]
  omega

theorem sinceEpoch_mono {reading reading' : ℤ} (h : reading ≤ reading') :
    sinceEpoch reading ≤ sinceEpoch reading' :=
  JsNumber.nearest_mono (by omega)

/-- A reading near the epoch is told from every other. -/
theorem sinceEpoch_lt {reading reading' : ℤ} (h : reading < reading')
    (hsmall : |reading - snowflakeEpochMs| < 2 ^ 53 ∨ |reading' - snowflakeEpochMs| < 2 ^ 53) :
    sinceEpoch reading < sinceEpoch reading' :=
  JsNumber.nearest_lt (by omega) hsmall

/-- Next to a timestamp below `2 ^ 53` nothing is rounded to it. -/
theorem sinceEpoch_lt_iff {reading timestamp : ℤ} (h : |timestamp| < 2 ^ 53) :
    sinceEpoch reading < timestamp ↔ reading - snowflakeEpochMs < timestamp := by
  have hexact := JsNumber.nearest_of_small h.le
  constructor
  · intro hlt
    by_contra hge
    have hle := JsNumber.nearest_mono (not_lt.mp hge)
    rw [hexact, ← sinceEpoch] at hle
    omega
  · intro hlt
    have hkept := JsNumber.nearest_lt hlt (Or.inr h)
    rwa [hexact] at hkept

theorem lt_sinceEpoch_iff {reading timestamp : ℤ} (h : |timestamp| < 2 ^ 53) :
    timestamp < sinceEpoch reading ↔ timestamp < reading - snowflakeEpochMs := by
  have hexact := JsNumber.nearest_of_small h.le
  constructor
  · intro hlt
    by_contra hge
    have hle := JsNumber.nearest_mono (not_lt.mp hge)
    rw [hexact, ← sinceEpoch] at hle
    omega
  · intro hlt
    have hkept := JsNumber.nearest_lt hlt (Or.inl h)
    rwa [hexact] at hkept

/-- A difference below a timestamp is of a reading before it. -/
theorem lt_of_sinceEpoch_lt {reading reading' : ℤ} (h : sinceEpoch reading < sinceEpoch reading') :
    reading - snowflakeEpochMs < sinceEpoch reading' := by
  by_contra hge
  have hle := JsNumber.nearest_mono (not_lt.mp hge)
  rw [sinceEpoch, JsNumber.nearest_nearest, ← sinceEpoch, ← sinceEpoch] at hle
  exact absurd h (not_lt.mpr hle)

/-! ## Node ids and sequence numbers -/

/-- A node id the constructor accepts. -/
structure NodeId where
  val : ℤ
  valid : 0 ≤ val ∧ val ≤ maxNodeId
deriving DecidableEq

/-- A value of the `#sequence` field. -/
structure Sequence where
  val : ℤ
  valid : 0 ≤ val ∧ val ≤ maxSequence
deriving DecidableEq

theorem NodeId.fits (nodeId : NodeId) : BitFields.Fits nodeIdBits nodeId.val := by
  rcases nodeId.valid with ⟨h0, h1⟩
  have hmax : maxNodeId = 2 ^ nodeIdBits - 1 := by decide
  exact ⟨h0, by omega⟩

theorem Sequence.fits (sequence : Sequence) : BitFields.Fits sequenceBits sequence.val := by
  rcases sequence.valid with ⟨h0, h1⟩
  have hmax : maxSequence = 2 ^ sequenceBits - 1 := by decide
  exact ⟨h0, by omega⟩

def Sequence.zero : Sequence := ⟨0, by decide⟩

theorem land_maxSequence (n : ℤ) : Int.land n maxSequence = n % 2 ^ sequenceBits := by
  have hmax : maxSequence = 2 ^ sequenceBits - 1 := by decide
  rw [hmax, BitFields.land_mask]

/-- `(this.#sequence + 1n) & MAX_SEQUENCE`. -/
def Sequence.bump (sequence : Sequence) : Sequence :=
  ⟨Int.land (sequence.val + 1) maxSequence, by
    have hmax : maxSequence = 2 ^ sequenceBits - 1 := by decide
    have hpos : (0 : ℤ) < 2 ^ sequenceBits := by decide
    have hlt := Int.emod_lt_of_pos (sequence.val + 1) hpos
    rw [land_maxSequence]
    exact ⟨Int.emod_nonneg _ hpos.ne', by omega⟩⟩

/-- Short of the wrap, bumping the sequence adds one. -/
theorem Sequence.bump_val (sequence : Sequence) (h : sequence.bump.val ≠ 0) :
    sequence.bump.val = sequence.val + 1 := by
  rcases sequence.fits with ⟨h0, h1⟩
  have hval : sequence.bump.val = (sequence.val + 1) % 2 ^ sequenceBits := land_maxSequence _
  rw [hval] at h ⊢
  apply Int.emod_eq_of_lt (by omega)
  by_contra hge
  have htop : sequence.val + 1 = 2 ^ sequenceBits := by omega
  rw [htop, Int.emod_self] at h
  exact h rfl

/-! ## Errors -/

/-- `Clock moved backwards by ${driftMs} ms; refusing to issue an id that may
already exist.` -/
structure SnowflakeClockError where
  driftMs : ℤ
deriving DecidableEq

/-- What the constructor refuses: a node id that is not an integer between 0 and
`maxNodeId` (with the source the message names), or a clock before the epoch. -/
inductive SnowflakeConfigurationError where
  | nodeId (source : String) (nodeId : JsNumber)
  | clockBeforeEpoch (now : ℤ)
deriving DecidableEq

/-- Throws unless `nodeId` is an integer this generator can encode; the accepted
number is returned as the `BigInt` the constructor stores. -/
def assertValidNodeId (nodeId : JsNumber) (source : String) :
    Except SnowflakeConfigurationError NodeId :=
  match nodeId with
  | .finite value =>
    if h : value.den = 1 ∧ 0 ≤ value.num ∧ value.num ≤ maxNodeId then .ok ⟨value.num, h.2⟩
    else .error (.nodeId source nodeId)
  | nodeId => .error (.nodeId source nodeId)

/-! ## The generator -/

/-- The private fields of a `SnowflakeGenerator`, its clock aside. -/
structure SnowflakeGenerator where
  nodeId : NodeId
  lastTimestamp : ℤ
  sequence : Sequence
deriving DecidableEq

/-- A call that has returned: what it gave, the fields it left and the readings
the clock has still to give. -/
structure Returned where
  result : Except SnowflakeClockError String
  generator : SnowflakeGenerator
  clock : List ℤ
deriving DecidableEq

namespace SnowflakeGenerator

/-- The constructor. It reads the clock once, after checking the node id. -/
def construct (nodeId : JsNumber) (clock : List ℤ) :
    Option (Except SnowflakeConfigurationError SnowflakeGenerator × List ℤ) :=
  match assertValidNodeId nodeId "node id" with
  | .error e => some (.error e, clock)
  | .ok id =>
    match clock with
    | [] => none
    | now :: clock =>
      if now < snowflakeEpochMs then some (.error (.clockBeforeEpoch now), clock)
      else some (.ok ⟨id, -1, .zero⟩, clock)

/-- `(timestamp << 22) | (nodeId << 12) | sequence`. -/
def compose (timestamp : ℤ) (nodeId : NodeId) (sequence : Sequence) : ℤ :=
  Int.lor (Int.lor (timestamp <<< (nodeIdBits + sequenceBits)) (nodeId.val <<< sequenceBits))
    sequence.val

/-- The loop of `#waitForNextMillisecond`. -/
def waitLoop (current timestamp : ℤ) (clock : List ℤ) : Option (ℤ × List ℤ) :=
  if timestamp ≤ current then
    match clock with
    | [] => none
    | reading :: clock => waitLoop current (sinceEpoch reading) clock
  else some (timestamp, clock)

def waitForNextMillisecond (current : ℤ) (clock : List ℤ) : Option (ℤ × List ℤ) :=
  waitLoop current current clock

/-- The tail of `next`: record the timestamp and return the id in decimal. -/
def issue (g : SnowflakeGenerator) (timestamp : ℤ) (sequence : Sequence) (clock : List ℤ) :
    Returned where
  result := .ok (toString (compose timestamp g.nodeId sequence))
  generator := { g with lastTimestamp := timestamp, sequence := sequence }
  clock := clock

def next (g : SnowflakeGenerator) (clock : List ℤ) : Option Returned :=
  match clock with
  | [] => none
  | reading :: clock =>
    let timestamp := sinceEpoch reading
    if timestamp < g.lastTimestamp then
      some ⟨.error ⟨g.lastTimestamp - timestamp⟩, g, clock⟩
    else if timestamp = g.lastTimestamp then
      if g.sequence.bump.val = 0 then
        -- all 4096 slots for this millisecond are spent
        match waitForNextMillisecond timestamp clock with
        | none => none
        | some (timestamp, clock) => some (g.issue timestamp g.sequence.bump clock)
      else some (g.issue timestamp g.sequence.bump clock)
    else some (g.issue timestamp .zero clock)

example : ((construct (.finite 7) [snowflakeEpochMs]).map Prod.fst) =
    some (.ok ⟨⟨7, by decide⟩, -1, .zero⟩) := by decide

/-! ## What one call does -/

/-- The wait ends on a reading later than the millisecond it was stuck on. -/
theorem waitLoop_spec {current timestamp : ℤ} {clock : List ℤ} {t : ℤ} {rest : List ℤ}
    (h : waitLoop current timestamp clock = some (t, rest)) (hle : timestamp ≤ current) :
    ∃ skipped reading, clock = skipped ++ reading :: rest ∧ t = sinceEpoch reading ∧
      current < t := by
  induction clock generalizing timestamp with
  | nil => simp [waitLoop, hle] at h
  | cons reading clock ih =>
    rw [waitLoop, if_pos hle] at h
    by_cases hstuck : sinceEpoch reading ≤ current
    · rcases ih h hstuck with ⟨skipped, r, hclock, ht, hlt⟩
      exact ⟨reading :: skipped, r, by rw [hclock]; rfl, ht, hlt⟩
    · rw [waitLoop.eq_def, if_neg hstuck] at h
      simp only [Option.some.injEq, Prod.mk.injEq] at h
      rcases h with ⟨ht, hrest⟩
      exact ⟨[], reading, by rw [hrest]; rfl, ht.symm, by omega⟩

/-- The next slot after the one recorded in `g`: a later millisecond at sequence
zero, or the same millisecond at the next sequence number. -/
def NextSlot (g : SnowflakeGenerator) (timestamp : ℤ) (sequence : Sequence) : Prop :=
  (g.lastTimestamp < timestamp ∧ sequence.val = 0) ∨
    (timestamp = g.lastTimestamp ∧ sequence.val = g.sequence.val + 1)

/-- Everything a completed call can have done: refuse a reading before the last
timestamp and leave the fields alone, or issue the id of the next slot, minted at
the last reading it consumed. -/
theorem next_cases {g : SnowflakeGenerator} {clock : List ℤ} {r : Returned}
    (h : g.next clock = some r) :
    (∃ reading, clock = reading :: r.clock ∧ sinceEpoch reading < g.lastTimestamp ∧
      r = ⟨.error ⟨g.lastTimestamp - (sinceEpoch reading)⟩, g, r.clock⟩) ∨
    (∃ skipped reading sequence, clock = skipped ++ reading :: r.clock ∧
      (∀ first ∈ clock.head?, g.lastTimestamp ≤ sinceEpoch first) ∧
      g.NextSlot (sinceEpoch reading) sequence ∧
      r = g.issue (sinceEpoch reading) sequence r.clock) := by
  cases clock with
  | nil => simp [next] at h
  | cons first clock =>
    simp only [next] at h
    by_cases hback : sinceEpoch first < g.lastTimestamp
    · -- the clock moved backwards
      rw [if_pos hback] at h
      obtain rfl := Option.some.inj h
      exact Or.inl ⟨first, rfl, hback, rfl⟩
    · right
      rw [if_neg hback] at h
      have hhead : ∀ r ∈ (first :: clock).head?, g.lastTimestamp ≤ sinceEpoch r := by
        intro r hr
        obtain rfl : first = r := by simpa using hr
        omega
      by_cases hsame : sinceEpoch first = g.lastTimestamp
      · rw [if_pos hsame] at h
        by_cases hwrap : g.sequence.bump.val = 0
        · -- the sequence wrapped: wait for a later millisecond
          rw [if_pos hwrap] at h
          cases hwait : waitForNextMillisecond (sinceEpoch first) clock with
          | none => simp [hwait] at h
          | some waited =>
            rcases waited with ⟨t, rest⟩
            simp only [hwait, Option.some.injEq] at h
            rcases waitLoop_spec hwait le_rfl with ⟨skipped, reading, hclock, ht, hlt⟩
            subst h ht
            refine ⟨first :: skipped, reading, g.sequence.bump, ?_, hhead, ?_, rfl⟩
            · rw [hclock]
              rfl
            · exact Or.inl ⟨by omega, hwrap⟩
        · rw [if_neg hwrap] at h
          obtain rfl := Option.some.inj h
          exact ⟨[], first, g.sequence.bump, rfl, hhead,
            Or.inr ⟨hsame, g.sequence.bump_val hwrap⟩, rfl⟩
      · -- a later millisecond: the sequence restarts
        rw [if_neg hsame] at h
        obtain rfl := Option.some.inj h
        exact ⟨[], first, .zero, rfl, hhead, Or.inl ⟨by omega, rfl⟩, rfl⟩

/-! ## Ids as packed fields -/

/-- Or-ing the shifted fields packs them. -/
theorem compose_eq_pack (timestamp : ℤ) (nodeId : NodeId) (sequence : Sequence) :
    compose timestamp nodeId sequence = BitFields.pack (nodeIdBits + sequenceBits) timestamp
      (BitFields.pack sequenceBits nodeId.val sequence.val) := by
  have hlow : BitFields.Fits (nodeIdBits + sequenceBits) (nodeId.val <<< sequenceBits) := by
    rcases nodeId.fits with ⟨h0, h1⟩
    rw [Int.shiftLeft_eq]
    simp only [nodeIdBits, sequenceBits] at h1 ⊢
    exact ⟨by omega, by omega⟩
  have hsplit : Int.lor (timestamp <<< (nodeIdBits + sequenceBits)) (nodeId.val <<< sequenceBits) =
      (timestamp * 2 ^ nodeIdBits + nodeId.val) <<< sequenceBits := by
    rw [BitFields.lor_shiftLeft _ _ _ hlow]
    simp only [BitFields.pack, Int.shiftLeft_eq, pow_add]
    ring
  rw [compose, hsplit, BitFields.lor_shiftLeft _ _ _ sequence.fits]
  simp only [BitFields.pack, pow_add]
  ring

end SnowflakeGenerator

end XClone.Snowflake
