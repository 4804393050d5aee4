import XClone.Js.Text
import XClone.Lib.Table
import XClone.Snowflake.Fleet

/-!
# XClone.Snowflake.Instances — processes that share a node id

A node id is to be unique per running instance, and `nodeIdFromEnv` refuses everything but
an integer that fits. Nothing at runtime can see that two processes were given one number:
two replicas, or one service before and after its restart. What such processes may do
together is exactly told by their clocks: ids repeat if and only if two instances with one
node id mint in the same millisecond (`ids_unique_iff`). The readings of `Date.now` are
those a `Date` can hold, and of them the difference with the epoch is exact.
-/

namespace XClone.Snowflake

open Js Relational SnowflakeGenerator

/-! ## The node id of a process -/

/-- `NODE_ID_ENV_VAR`. -/
def nodeIdEnvVar : String := "SNOWFLAKE_NODE_ID"

/-- The environment of a process. -/
abbrev Environment := JsString → Option JsString

/-- Why a process does not start. -/
inductive BootError where
  | notSet (variableName : String)
  | notDecimal (variableName : String) (raw : JsString)
  | generator (e : SnowflakeConfigurationError)
deriving DecidableEq

def isDecimalDigit (u : UInt16) : Bool := 48 ≤ u && u ≤ 57

/-- `/^-?\d+$/.test(text)`. -/
def isDecimalInteger (text : JsString) : Bool :=
  let digits := if text.head? = some 45 then text.tail else text
  !digits.isEmpty && digits.all isDecimalDigit

/-- The number that decimal digits write. -/
def digitsValue (digits : JsString) : ℤ :=
  digits.foldl (fun value u => value * 10 + (u.toNat - 48 : ℤ)) 0

/-- The integer that such a text writes. -/
def integerValue (text : JsString) : ℤ :=
  if text.head? = some 45 then -digitsValue text.tail else digitsValue text

/-- `nodeIdFromEnv(env, variable)`. `Number` of such a text is its integer, rounded. -/
def nodeIdFromEnv (env : Environment) (variableName : String) : Except BootError NodeId :=
  match env (js variableName) with
  | none => .error (.notSet variableName)
  | some raw =>
    if trim raw = [] then .error (.notSet variableName)
    else if isDecimalInteger (trim raw) then
      (assertValidNodeId (JsNumber.ofRat (integerValue (trim raw))) variableName).mapError .generator
    else .error (.notDecimal variableName raw)

/-- The generator of a process: its node id is read, and then the clock. `none` is a clock
that has not answered yet. -/
def boot (env : Environment) (clock : List ℤ) :
    Option (Except BootError SnowflakeGenerator × List ℤ) :=
  match nodeIdFromEnv env nodeIdEnvVar with
  | .error e => some (.error e, clock)
  | .ok nodeId =>
    (construct (.finite nodeId.val) clock).map fun (built, clock) => (built.mapError .generator, clock)

/-- A double below `2 ^ 53` that an integer was rounded to is that integer. -/
theorem eq_of_ofRat_intCast {n : ℤ} {r : ℚ} (h : JsNumber.ofRat (n : ℚ) = .finite r)
    (hr : |r| < 2 ^ 53) : r = n := by
  by_cases hsmall : |n| < 2 ^ 53
  · rw [JsNumber.ofRat_intCast hsmall] at h
    exact (JsNumber.finite.inj h).symm
  · -- a larger one keeps a last bit above one
    exfalso
    have hexponent := JsNumber.lastBitExponent_nonpos h hr
    have hbig : ((2 : ℕ) : ℚ) ^ (53 : ℤ) ≤ |(n : ℚ)| := by
      have hcast : ((2 ^ 53 : ℤ) : ℚ) ≤ ((|n| : ℤ) : ℚ) := Int.cast_le.mpr (not_lt.mp hsmall)
      rw [Int.cast_abs] at hcast
      calc ((2 : ℕ) : ℚ) ^ (53 : ℤ) = ((2 ^ 53 : ℤ) : ℚ) := by norm_num
        _ ≤ |(n : ℚ)| := hcast
    have hpos : (0 : ℚ) < |(n : ℚ)| := lt_of_lt_of_le (by norm_num) hbig
    have hlog : (53 : ℤ) ≤ Int.log 2 |(n : ℚ)| := (Int.zpow_le_iff_le_log (by norm_num) hpos).mp hbig
    unfold JsNumber.lastBitExponent at hexponent
    omega

theorem assertValidNodeId_integer {n : ℤ} {source : String} {id : NodeId}
    (h : assertValidNodeId (JsNumber.ofRat n) source = .ok id) : n = id.val := by
  have hfinite := assertValidNodeId_ok h
  have hmax : maxNodeId = 1023 := by decide
  rcases id.valid with ⟨h0, h1⟩
  have hsmall : |((id.val : ℤ) : ℚ)| < 2 ^ 53 := by
    have habs : |id.val| < 2 ^ 53 := by
      rw [abs_of_nonneg h0]
      omega
    rw [← Int.cast_abs]
    exact_mod_cast habs
  have hsame := eq_of_ofRat_intCast hfinite hsmall
  exact_mod_cast hsame.symm

/-- A process that started runs with the node id of its environment. -/
theorem boot_ok {env : Environment} {clock rest : List ℤ} {g : SnowflakeGenerator}
    (h : boot env clock = some (.ok g, rest)) :
    nodeIdFromEnv env nodeIdEnvVar = .ok g.nodeId ∧ Fresh g := by
  unfold boot at h
  split at h
  · cases h
  · rename_i nodeId hnode
    rcases Option.map_eq_some_iff.mp h with ⟨⟨built, rest'⟩, hconstruct, heq⟩
    have hbuilt : built = .ok g := by
      cases built with
      | error e => cases heq
      | ok g' =>
        cases heq
        rfl
    rw [hbuilt] at hconstruct
    rcases construct_ok hconstruct with ⟨hsame, hlast, hsequence, -⟩
    have hval := JsNumber.finite.inj hsame
    have hid : nodeId = g.nodeId := by
      cases nodeId
      cases hg : g.nodeId
      rw [hg] at hval
      simpa using hval
    exact ⟨hid ▸ hnode, hlast, hsequence⟩

/-- It has read its clock once. -/
theorem boot_clock {env : Environment} {clock rest : List ℤ} {g : SnowflakeGenerator}
    (h : boot env clock = some (.ok g, rest)) : ∃ now, clock = now :: rest := by
  unfold boot at h
  split at h
  · cases h
  · rcases Option.map_eq_some_iff.mp h with ⟨⟨built, rest'⟩, hconstruct, heq⟩
    cases built with
    | error e => cases heq
    | ok g' =>
      cases heq
      rcases construct_ok hconstruct with ⟨-, -, -, now, -, hclock⟩
      exact ⟨now, hclock⟩

/-- A node id is the integer that the environment writes. -/
theorem nodeIdFromEnv_ok {env : Environment} {variableName : String} {nodeId : NodeId}
    (h : nodeIdFromEnv env variableName = .ok nodeId) :
    ∃ raw, env (js variableName) = some raw ∧ isDecimalInteger (trim raw) = true ∧
      integerValue (trim raw) = nodeId.val := by
  unfold nodeIdFromEnv at h
  split at h
  · cases h
  · rename_i raw hraw
    split at h
    · cases h
    · split at h
      · rename_i hdecimal
        refine ⟨raw, hraw, hdecimal, ?_⟩
        cases hvalid : assertValidNodeId (JsNumber.ofRat (integerValue (trim raw))) variableName with
        | error e =>
          rw [hvalid] at h
          cases h
        | ok id =>
          rw [hvalid] at h
          cases h
          exact assertValidNodeId_integer hvalid
      · cases h

/-! ## The first id of a millisecond -/

/-- The sequence number of an instance's first id in a millisecond: 0, but for the
millisecond before the epoch, where `#lastTimestamp` starts. -/
def firstSequence (timestamp : ℤ) : ℤ := if timestamp = -1 then 1 else 0

/-- Nothing was minted at `timestamp` yet. -/
def Unminted (g : SnowflakeGenerator) (timestamp : ℤ) : Prop :=
  -1 ≤ g.lastTimestamp ∧ (g.lastTimestamp < timestamp ∨
    (g.lastTimestamp = timestamp ∧ timestamp = -1 ∧ g.sequence.val = 0))

/-- A run that mints at a millisecond mints its first id. -/
theorem Calls.first_of_millisecond {g g' : SnowflakeGenerator} {clock clock' : List ℤ}
    {calls : List Call} (h : Calls g clock calls g' clock') {timestamp : ℤ}
    (hunminted : Unminted g timestamp) {call : Call} {id : ℤ} (hcall : call ∈ calls)
    (hissues : Issues g.nodeId call id) (hreading : sinceEpoch call.reading = timestamp) :
    ∃ first ∈ calls, sinceEpoch first.reading = timestamp ∧
      first.generator.sequence.val = firstSequence timestamp ∧
      first.result = .ok (toString (compose timestamp g.nodeId first.generator.sequence)) := by
  induction h with
  | nil => cases hcall
  | @cons g g' clock clock' calls skipped reading r hnext hclock hrest ih =>
    have later (hnode : r.generator.nodeId = g.nodeId) (hstill : Unminted r.generator timestamp)
        (htail : call ∈ calls) :
        ∃ first ∈ (⟨r.result, reading, r.generator⟩ : Call) :: calls,
          sinceEpoch first.reading = timestamp ∧
          first.generator.sequence.val = firstSequence timestamp ∧
          first.result = .ok (toString (compose timestamp g.nodeId first.generator.sequence)) := by
      rw [← hnode] at hissues ⊢
      rcases ih hstill htail hissues with ⟨first, hfirst, hrest⟩
      exact ⟨first, List.mem_cons_of_mem _ hfirst, hrest⟩
    rcases call_cases hnext hclock with ⟨-, -, hr⟩ | ⟨sequence, -, hslot, hr⟩
    · -- refused: it minted nothing
      have hsame : r.generator = g := by rw [hr]
      rcases List.mem_cons.mp hcall with rfl | htail
      · have hresult := hissues.result
        rw [hr] at hresult
        cases hresult
      · apply later
        · rw [hsame]
        · rw [hsame]
          exact hunminted
        · exact htail
    · have hnode : r.generator.nodeId = g.nodeId := by
        rw [hr]
        rfl
      have hlast : r.generator.lastTimestamp = sinceEpoch reading := by
        rw [hr]
        rfl
      have hsequence : r.generator.sequence = sequence := by
        rw [hr]
        rfl
      have hresult : r.result = .ok (toString (compose (sinceEpoch reading) g.nodeId sequence)) := by
        rw [hr]
        rfl
      rcases hunminted with ⟨hstart, hbefore⟩
      by_cases hnow : sinceEpoch reading = timestamp
      · -- this is the first
        refine ⟨_, List.mem_cons_self, hnow, ?_, ?_⟩
        · show r.generator.sequence.val = _
          rw [hsequence]
          unfold firstSequence
          rcases hslot with ⟨hlt, hzero⟩ | ⟨heq, hbump⟩
          · rw [if_neg (by omega)]
            exact hzero
          · rcases hbefore with hlt | ⟨-, hepoch, hzero⟩
            · omega
            · rw [if_pos hepoch, hbump, hzero]
              rfl
        · show r.result = .ok (toString (compose timestamp g.nodeId r.generator.sequence))
          rw [hresult, hsequence, hnow]
      · have htail : call ∈ calls := by
          rcases List.mem_cons.mp hcall with rfl | htail
          · exact absurd hreading hnow
          · exact htail
        apply later hnode _ htail
        -- it has not come to that millisecond yet, since a later call mints there
        rcases calls_issue hrest call htail with ⟨e, herror⟩ | ⟨id', hissues', hfloor⟩
        · have hok := hissues.result
          rw [herror] at hok
          cases hok
        · have hle := issues_timestamp_le hissues' hfloor
          refine ⟨?_, Or.inl ?_⟩
          · rcases hslot with ⟨hlt, -⟩ | ⟨heq, -⟩ <;> omega
          · omega

/-! ## Many instances -/

variable {ι : Type} [DecidableEq ι]

/-- What holds between the calls of each instance, and between those of any two, holds
between the calls of a run. -/
theorem pairwise_of_instances {R : Call → Call → Prop} {calls : List (ι × Call)}
    (hown : ∀ i, (callsOf i calls).Pairwise R)
    (hacross : ∀ a ∈ calls, ∀ b ∈ calls, a.1 ≠ b.1 → R a.2 b.2) :
    calls.Pairwise fun a b => R a.2 b.2 := by
  induction calls with
  | nil => exact List.Pairwise.nil
  | cons a calls ih =>
    refine List.Pairwise.cons ?_ (ih ?_ ?_)
    · intro b hb
      by_cases hsame : a.1 = b.1
      · have hpair := hown a.1
        simp only [callsOf, List.filterMap_cons, if_true] at hpair
        refine (List.pairwise_cons.mp hpair).1 b.2 (mem_callsOf ?_)
        rw [hsame]
        exact hb
      · exact hacross a List.mem_cons_self b (List.mem_cons_of_mem _ hb) hsame
    · intro i
      have hpair := hown i
      by_cases hi : a.1 = i
      · simp only [callsOf, List.filterMap_cons, hi, if_true] at hpair
        exact (List.pairwise_cons.mp hpair).2
      · simpa only [callsOf, List.filterMap_cons, hi, if_false] using hpair
    · intro b hb b' hb' hne
      exact hacross b (List.mem_cons_of_mem _ hb) b' (List.mem_cons_of_mem _ hb') hne

theorem result_of_id {call : Call} {s : String} : call.id? = some s ↔ call.result = .ok s := by
  unfold Call.id?
  cases call.result <;> simp

/-- The first id an instance mints in a millisecond in which it mints. -/
theorem first_issued {fleet fleet' : Fleet ι} {calls : List (ι × Call)}
    (hrun : FleetCalls fleet calls fleet') {a : ι × Call} (ha : a ∈ calls)
    (hfresh : Fresh (fleet a.1).1) {s : String} (hs : a.2.result = .ok s) :
    ∃ first, (a.1, first) ∈ calls ∧ ∃ sequence : Sequence,
      sequence.val = firstSequence (sinceEpoch a.2.reading) ∧
      first.id? = some (toString (compose (sinceEpoch a.2.reading) (fleet a.1).1.nodeId sequence)) := by
  rcases fleet_call_issues hrun ha hs with ⟨id, -, hissues, hfloor⟩
  have hlast := issues_timestamp_le hissues hfloor
  have hunminted : Unminted (fleet a.1).1 (sinceEpoch a.2.reading) := by
    rcases hfresh with ⟨hstart, hzero⟩
    have hval : (fleet a.1).1.sequence.val = 0 := by rw [hzero]; rfl
    refine ⟨by omega, ?_⟩
    rcases lt_or_eq_of_le hlast with hlt | heq
    · exact Or.inl hlt
    · exact Or.inr ⟨heq, by omega, hval⟩
  rcases (project hrun a.1).first_of_millisecond hunminted (mem_callsOf ha) hissues rfl with
    ⟨first, hfirst, -, hsequence, hresult⟩
  refine ⟨first, ?_, first.generator.sequence, hsequence, result_of_id.mpr hresult⟩
  rcases List.mem_filterMap.mp hfirst with ⟨⟨i, call⟩, hmem, hcall⟩
  split at hcall
  · rename_i hi
    cases hcall
    cases hi
    exact hmem
  · cases hcall

/-- No id is issued twice if and only if no two instances of one node mint at one
timestamp. -/
theorem nodup_iff {environments : ι → Environment} {clocks : ι → List ℤ}
    {fleet fleet' : Fleet ι} {calls : List (ι × Call)}
    (hboot : ∀ i, boot (environments i) (clocks i) = some (.ok (fleet i).1, (fleet i).2))
    (hrun : FleetCalls fleet calls fleet') :
    (issued (calls.map Prod.snd)).Nodup ↔
      ∀ a ∈ calls, ∀ b ∈ calls, a.1 ≠ b.1 →
        nodeIdFromEnv (environments a.1) nodeIdEnvVar = nodeIdFromEnv (environments b.1) nodeIdEnvVar →
        a.2.id? ≠ none → b.2.id? ≠ none →
          sinceEpoch a.2.reading ≠ sinceEpoch b.2.reading := by
  have hnode (i j : ι) : nodeIdFromEnv (environments i) nodeIdEnvVar =
      nodeIdFromEnv (environments j) nodeIdEnvVar ↔ (fleet i).1.nodeId = (fleet j).1.nodeId := by
    rw [(boot_ok (hboot i)).1, (boot_ok (hboot j)).1, Except.ok.injEq]
  have hissued : issued (calls.map Prod.snd) = calls.filterMap fun c => c.2.id? := by
    rw [issued, List.filterMap_map]
    rfl
  constructor
  · -- both mint the first id of that millisecond
    intro hnodup a ha b hb hne hsame hida hidb hreading
    rw [hissued] at hnodup
    rcases Option.ne_none_iff_exists'.mp hida with ⟨s, hs⟩
    rcases Option.ne_none_iff_exists'.mp hidb with ⟨t, ht⟩
    rcases first_issued hrun ha (boot_ok (hboot a.1)).2 (result_of_id.mp hs) with
      ⟨first, hfirst, sequence, hsequence, hid⟩
    rcases first_issued hrun hb (boot_ok (hboot b.1)).2 (result_of_id.mp ht) with
      ⟨first', hfirst', sequence', hsequence', hid'⟩
    have hseq : sequence = sequence' := by
      cases sequence
      cases sequence'
      rw [hreading] at hsequence
      simpa using hsequence.trans hsequence'.symm
    rw [hseq, hreading, (hnode a.1 b.1).mp hsame] at hid
    have heq := eq_of_filterMap_nodup hnodup hfirst hfirst' hid hid'
    exact hne (Prod.mk.inj heq).1
  · intro hapart
    rw [hissued, List.Nodup, List.pairwise_filterMap]
    have hpairwise : calls.Pairwise fun a b => ∀ s, a.2.result = .ok s → b.2.result ≠ .ok s := by
      apply pairwise_of_instances (R := fun a b => ∀ s, a.result = .ok s → b.result ≠ .ok s)
      · intro i
        have hproject := project hrun i
        apply (calls_pairwise hproject).imp_of_mem
        intro a b ha hb hlt s hs hs'
        rcases calls_issue hproject a ha with ⟨e, herror⟩ | ⟨x, hx, -⟩
        · rw [hs] at herror
          cases herror
        · have hstring := hx.result
          rw [hs] at hstring
          cases hstring
          exact lt_irrefl x (hlt x x hs hs')
      · intro a ha b hb hne s hs hs'
        rcases fleet_call_issues hrun ha hs with ⟨x, rfl, hx, -⟩
        rcases fleet_call_issues hrun hb hs' with ⟨y, hstring, hy, -⟩
        have hsame : x = y := Int.repr_injective hstring
        by_cases hnodes : (fleet a.1).1.nodeId = (fleet b.1).1.nodeId
        · -- the earlier timestamp would give the smaller id
          have hreadings := hapart a ha b hb hne ((hnode a.1 b.1).mpr hnodes)
            (by rw [result_of_id.mpr hs]; exact Option.some_ne_none _)
            (by rw [result_of_id.mpr hs']; exact Option.some_ne_none _)
          rcases lt_or_gt_of_ne hreadings with hlt | hgt
          · have hids := issues_lt_of_lt hx hy hlt
            omega
          · have hids := issues_lt_of_lt hy hx hgt
            omega
        · exact issues_ne_of_node_ne hx hy hnodes hsame
    apply hpairwise.imp
    rintro a b hab s hs t ht rfl
    exact hab s (result_of_id.mp hs) (result_of_id.mp ht)

/-- A run reads the clocks of its instances. -/
theorem fleet_reading_mem {fleet fleet' : Fleet ι} {calls : List (ι × Call)}
    (hrun : FleetCalls fleet calls fleet') {a : ι × Call} (ha : a ∈ calls) :
    a.2.reading ∈ (fleet a.1).2 :=
  calls_reading_mem (project hrun a.1) a.2 (mem_callsOf ha)

/-- Processes started from their environments, each with its own clock, and any
interleaving of their calls: no id is issued twice if and only if no two of those that
were given the same node id mint in the same millisecond. Where the clocks give what
`Date.now` can give, that is the same reading. -/
theorem ids_unique_iff {environments : ι → Environment} {clocks : ι → List ℤ}
    {fleet fleet' : Fleet ι} {calls : List (ι × Call)}
    (hboot : ∀ i, boot (environments i) (clocks i) = some (.ok (fleet i).1, (fleet i).2))
    (hrun : FleetCalls fleet calls fleet') :
    ((issued (calls.map Prod.snd)).Nodup ↔
      ∀ a ∈ calls, ∀ b ∈ calls, a.1 ≠ b.1 →
        nodeIdFromEnv (environments a.1) nodeIdEnvVar = nodeIdFromEnv (environments b.1) nodeIdEnvVar →
        a.2.id? ≠ none → b.2.id? ≠ none →
          sinceEpoch a.2.reading ≠ sinceEpoch b.2.reading) ∧
    ((∀ i, ∀ reading ∈ clocks i, ValidDate reading) →
      ((issued (calls.map Prod.snd)).Nodup ↔
        ∀ a ∈ calls, ∀ b ∈ calls, a.1 ≠ b.1 →
          nodeIdFromEnv (environments a.1) nodeIdEnvVar =
            nodeIdFromEnv (environments b.1) nodeIdEnvVar →
          a.2.id? ≠ none → b.2.id? ≠ none → a.2.reading ≠ b.2.reading)) := by
  refine ⟨nodup_iff hboot hrun, ?_⟩
  intro hdates
  have hexact : ∀ a ∈ calls, sinceEpoch a.2.reading = a.2.reading - snowflakeEpochMs := by
    intro a ha
    apply sinceEpoch_date
    apply hdates a.1
    rcases boot_clock (hboot a.1) with ⟨now, hclock⟩
    rw [hclock]
    exact List.mem_cons_of_mem _ (fleet_reading_mem hrun ha)
  rw [nodup_iff hboot hrun]
  constructor
  · intro hapart a ha b hb hne hsame hida hidb heq
    apply hapart a ha b hb hne hsame hida hidb
    rw [heq]
  · intro hapart a ha b hb hne hsame hida hidb heq
    apply hapart a ha b hb hne hsame hida hidb
    rw [hexact a ha, hexact b hb] at heq
    omega

/-- Node 7 next to `07`: two replicas that were given one number. Minting one millisecond
apart they issue two ids. -/
theorem replicas_of_node_seven :
    let t := snowflakeEpochMs
    let a := nodeSeven.issue 0 .zero []
    let b := nodeSeven.issue 1 .zero []
    (issued [⟨a.result, t, a.generator⟩, ⟨b.result, t + 1, b.generator⟩]).Nodup := by
  intro t a b
  let environments : Bool → Environment := fun i name =>
    if name = js nodeIdEnvVar then some (if i then [55] else [48, 55]) else none
  let clocks : Bool → List ℤ := fun i => if i then [t, t] else [t, t + 1]
  let fleet : Fleet Bool := fun i => if i then (nodeSeven, [t]) else (nodeSeven, [t + 1])
  have hboot : ∀ i, boot (environments i) (clocks i) = some (.ok (fleet i).1, (fleet i).2) := by
    decide +kernel
  have hrun : FleetCalls fleet [(true, ⟨a.result, t, a.generator⟩),
      (false, ⟨b.result, t + 1, b.generator⟩)] _ :=
    FleetCalls.cons true [] t a (by decide +kernel) rfl
      (FleetCalls.cons false [] (t + 1) b (by decide +kernel) rfl (FleetCalls.nil _))
  have hdates : ∀ i, ∀ reading ∈ clocks i, ValidDate reading := by
    decide
  apply ((ids_unique_iff hboot hrun).2 hdates).mpr
  simp [t]

end XClone.Snowflake
