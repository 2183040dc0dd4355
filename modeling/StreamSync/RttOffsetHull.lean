import Mathlib.Data.List.DropRight
import StreamSync.Lib.MovingAverage
import StreamSync.Lib.Run
import StreamSync.RttOffset

namespace StreamSync

open Hull KeyedTable MovingAverage Run Saturating

theorem emaNext_between (previous latest : Int) :
    min previous latest ≤ emaNext previous latest ∧ emaNext previous latest ≤ max previous latest :=
  step_between (show (0 : Int) < 4 by omega) previous latest

/-- The cut to the range of `u64` never cuts: the average lies between two values of that range. -/
theorem emaU64_exact (previous latest : UInt64) :
    0 ≤ emaNext previous.toNat latest.toNat ∧
      emaNext previous.toNat latest.toNat ≤ 18446744073709551615 ∧
      ((emaU64 previous latest).toNat : Int) = emaNext previous.toNat latest.toNat := by
  obtain ⟨hlow, hhigh⟩ := emaNext_between previous.toNat latest.toNat
  have hprevious := previous.toNat_lt
  have hlatest := latest.toNat_lt
  have hnonneg : 0 ≤ emaNext previous.toNat latest.toNat := by omega
  have hmax : emaNext previous.toNat latest.toNat ≤ 18446744073709551615 := by omega
  refine ⟨hnonneg, hmax, ?_⟩
  unfold emaU64
  by_cases hzero : emaNext previous.toNat latest.toNat ≤ 0
  · rw [if_pos hzero]
    have heq : emaNext previous.toNat latest.toNat = 0 := by omega
    rw [heq]
    rfl
  · rw [if_neg hzero, if_pos hmax, UInt64.toNat_ofNat']
    omega

theorem emaI64_exact (previous latest : Int64) :
    -9223372036854775808 ≤ emaNext previous.toInt latest.toInt ∧
      emaNext previous.toInt latest.toInt ≤ 9223372036854775807 ∧
      (emaI64 previous latest).toInt = emaNext previous.toInt latest.toInt := by
  obtain ⟨hlow, hhigh⟩ := emaNext_between previous.toInt latest.toInt
  have hprevious := previous.le_toInt
  have hprevious' := previous.toInt_lt
  have hlatest := latest.le_toInt
  have hlatest' := latest.toInt_lt
  have hmin : -9223372036854775808 ≤ emaNext previous.toInt latest.toInt := by omega
  have hmax : emaNext previous.toInt latest.toInt ≤ 9223372036854775807 := by omega
  refine ⟨hmin, hmax, ?_⟩
  have htry : tryI64 (emaNext previous.toInt latest.toInt) =
      some (Int64.ofInt (emaNext previous.toInt latest.toInt)) := if_pos ⟨hmin, hmax⟩
  simp only [emaI64, htry]
  exact Int64.toInt_ofInt_of_le hmin (by omega)

/-- The estimate after smoothing the samples one by one. -/
def smoothed (samples : List HeartbeatRttOffsetEstimate) : Option HeartbeatRttOffsetSmoothedEstimate :=
  samples.foldl (fun previous latest => some (smooth previous latest)) none

theorem smoothed_concat (samples : List HeartbeatRttOffsetEstimate) (latest : HeartbeatRttOffsetEstimate) :
    smoothed (samples ++ [latest]) = some (smooth (smoothed samples) latest) := by
  simp [smoothed]

theorem smoothed_eq_none_iff (samples : List HeartbeatRttOffsetEstimate) :
    smoothed samples = none ↔ samples = [] := by
  rcases samples.eq_nil_or_concat with rfl | ⟨earlier, latest, rfl⟩
  · simp [smoothed]
  · simp [smoothed_concat]

/-- A smoothed estimate lies in the hull of the samples it was made of, and counts them. -/
structure Smooths (samples : List HeartbeatRttOffsetEstimate)
    (estimate : HeartbeatRttOffsetSmoothedEstimate) : Prop where
  rtt : InHull (·.rttMicros.toNat) samples estimate.rttMicros.toNat
  clockOffset : InHull (·.clockOffsetMicros.toInt) samples estimate.clockOffsetMicros.toInt
  count : estimate.samplesApplied.toNat = min samples.length 18446744073709551615

theorem smooths_singleton (latest : HeartbeatRttOffsetEstimate) : Smooths [latest] (smooth none latest) where
  rtt := inHull_singleton _ latest
  clockOffset := inHull_singleton _ latest
  count := rfl

theorem Smooths.concat {samples : List HeartbeatRttOffsetEstimate}
    {previous : HeartbeatRttOffsetSmoothedEstimate} (h : Smooths samples previous)
    (latest : HeartbeatRttOffsetEstimate) : Smooths (samples ++ [latest]) (smooth (some previous) latest) where
  rtt := by
    obtain ⟨-, -, hexact⟩ := emaU64_exact previous.rttMicros latest.rttMicros
    have hbetween := emaNext_between previous.rttMicros.toNat latest.rttMicros.toNat
    refine h.rtt.concat ?_ ?_
    · change min _ _ ≤ (emaU64 previous.rttMicros latest.rttMicros).toNat
      omega
    · change (emaU64 previous.rttMicros latest.rttMicros).toNat ≤ max _ _
      omega
  clockOffset := by
    obtain ⟨-, -, hexact⟩ := emaI64_exact previous.clockOffsetMicros latest.clockOffsetMicros
    obtain ⟨hlow, hhigh⟩ := emaNext_between previous.clockOffsetMicros.toInt latest.clockOffsetMicros.toInt
    refine h.clockOffset.concat ?_ ?_
    · change min _ _ ≤ (emaI64 previous.clockOffsetMicros latest.clockOffsetMicros).toInt
      rw [hexact]
      exact hlow
    · change (emaI64 previous.clockOffsetMicros latest.clockOffsetMicros).toInt ≤ max _ _
      rw [hexact]
      exact hhigh
  count := by
    have hcount := h.count
    change (saturatingAdd previous.samplesApplied 1).toNat = _
    rw [toNat_saturatingAdd, List.length_append]
    simp only [UInt64.toNat_one, List.length_singleton]
    omega

theorem smooths_of_smoothed (samples : List HeartbeatRttOffsetEstimate) :
    ∀ estimate, smoothed samples = some estimate → Smooths samples estimate := by
  induction samples using List.reverseRecOn with
  | nil =>
    intro estimate h
    cases h
  | append_singleton samples latest ih =>
    intro estimate h
    rw [smoothed_concat] at h
    cases Option.some.inj h
    cases hprevious : smoothed samples with
    | none =>
      rw [(smoothed_eq_none_iff samples).mp hprevious]
      exact smooths_singleton latest
    | some previous => exact (ih previous hprevious).concat latest

/-- One call of `evaluate_and_commit`. -/
structure RttOffsetCall where
  calculation : ServerHeartbeatRttOffsetCalculation
  policy : ServerHeartbeatRttOffsetOutlierPolicy
  committedAt : Option TimestampMicros

/-- The call's effect, with its candidate when that was committed. -/
def rttOffsetStep (state : ServerHeartbeatRttOffsetState) (call : RttOffsetCall) :
    ServerHeartbeatRttOffsetState × Option ServerHeartbeatRttOffsetCalculation :=
  let result := evaluateAndCommit state call.calculation call.policy call.committedAt
  (result.1, if result.2 = none then some call.calculation else none)

def runRttOffset (calls : List RttOffsetCall) :
    ServerHeartbeatRttOffsetState × List (Option ServerHeartbeatRttOffsetCalculation) :=
  run rttOffsetStep .empty calls

/-- What was committed for the client, oldest first. -/
def committedFor (clientId : ClientId) (outcomes : List (Option ServerHeartbeatRttOffsetCalculation)) :
    List ServerHeartbeatRttOffsetCalculation :=
  outcomes.filterMap (·.filter fun calculation => calculation.clientId = clientId)

theorem committedFor_concat (clientId : ClientId)
    (outcomes : List (Option ServerHeartbeatRttOffsetCalculation))
    (calculation : ServerHeartbeatRttOffsetCalculation) :
    committedFor clientId (outcomes ++ [some calculation]) =
      if calculation.clientId = clientId then committedFor clientId outcomes ++ [calculation]
      else committedFor clientId outcomes := by
  unfold committedFor
  rw [List.filterMap_append]
  by_cases hclient : calculation.clientId = clientId
  · simp [Option.filter, hclient]
  · simp [Option.filter, hclient]

/-- The samples committed for the run since no other run of the client was. -/
def samplesOfRun (commits : List ServerHeartbeatRttOffsetCalculation) (runId : RunId) :
    List HeartbeatRttOffsetEstimate :=
  (commits.rtakeWhile (·.runId = runId)).map (·.estimate)

/-- The entry of a client sums up the commits of its current run. -/
structure SumsUp (commits : List ServerHeartbeatRttOffsetCalculation)
    (entry : ServerHeartbeatRttOffsetStateEntry) : Prop where
  lastRun : commits.getLast?.map (·.runId) = some entry.runId
  latest : commits.getLast?.map (·.estimate) = some entry.latestEstimate
  smoothed : smoothed (samplesOfRun commits entry.runId) = some entry.smoothedEstimate
  count : entry.committedSamples.toNat =
    min (samplesOfRun commits entry.runId).length 18446744073709551615

/-- Nothing was committed for a client without an entry. -/
def EntrySumsUp (commits : List ServerHeartbeatRttOffsetCalculation) :
    Option ServerHeartbeatRttOffsetStateEntry → Prop
  | none => commits = []
  | some entry => SumsUp commits entry

theorem samplesOfRun_concat (commits : List ServerHeartbeatRttOffsetCalculation)
    (calculation : ServerHeartbeatRttOffsetCalculation) :
    samplesOfRun (commits ++ [calculation]) calculation.runId =
      samplesOfRun commits calculation.runId ++ [calculation.estimate] := by
  simp [samplesOfRun]

/-- A run that was not the last one committed starts over. -/
theorem samplesOfRun_eq_nil {commits : List ServerHeartbeatRttOffsetCalculation} {runId : RunId}
    (h : commits.getLast?.map (·.runId) ≠ some runId) : samplesOfRun commits runId = [] := by
  rcases commits.eq_nil_or_concat with rfl | ⟨earlier, last, rfl⟩
  · rfl
  · have hrun : last.runId ≠ runId := by simpa using h
    simp [samplesOfRun, hrun]

/-- What a commit writes for its client. -/
theorem get_commitRttOffset (state : ServerHeartbeatRttOffsetState)
    (calculation : ServerHeartbeatRttOffsetCalculation) (committedAt : Option TimestampMicros)
    (clientId : ClientId) :
    (commitRttOffset state calculation committedAt).get clientId =
      if calculation.clientId = clientId then
        some {
          clientId := calculation.clientId
          runId := calculation.runId
          latestEstimate := calculation.estimate
          smoothedEstimate :=
            smooth ((sameRunEntry state calculation).map (·.smoothedEstimate)) calculation.estimate
          committedSamples :=
            match sameRunEntry state calculation with
            | some entry => saturatingAdd entry.committedSamples 1
            | none => 1
          lastCommittedAt := committedAt }
      else state.get clientId :=
  getElem?_insert_eq ..

theorem evaluateAndCommit_cases (state : ServerHeartbeatRttOffsetState)
    (calculation : ServerHeartbeatRttOffsetCalculation) (policy : ServerHeartbeatRttOffsetOutlierPolicy)
    (committedAt : Option TimestampMicros) :
    (∃ reason, evaluateAndCommit state calculation policy committedAt = (state, some reason)) ∨
      evaluateAndCommit state calculation policy committedAt =
        (commitRttOffset state calculation committedAt, none) := by
  unfold evaluateAndCommit
  cases evaluateCandidate state calculation policy with
  | some reason => exact Or.inl ⟨reason, rfl⟩
  | none => exact Or.inr rfl

theorem evaluateAndCommit_rejected {state : ServerHeartbeatRttOffsetState}
    {calculation : ServerHeartbeatRttOffsetCalculation} {policy : ServerHeartbeatRttOffsetOutlierPolicy}
    {committedAt : Option TimestampMicros}
    (h : (evaluateAndCommit state calculation policy committedAt).2 ≠ none) :
    (evaluateAndCommit state calculation policy committedAt).1 = state := by
  rcases evaluateAndCommit_cases state calculation policy committedAt with ⟨reason, hresult⟩ | hresult
  · rw [hresult]
  · rw [hresult] at h
    exact absurd rfl h

theorem get_evaluateAndCommit_of_ne {state : ServerHeartbeatRttOffsetState}
    {calculation : ServerHeartbeatRttOffsetCalculation} {policy : ServerHeartbeatRttOffsetOutlierPolicy}
    {committedAt : Option TimestampMicros} {clientId : ClientId} (h : clientId ≠ calculation.clientId) :
    (evaluateAndCommit state calculation policy committedAt).1.get clientId = state.get clientId := by
  rcases evaluateAndCommit_cases state calculation policy committedAt with ⟨reason, hresult⟩ | hresult
  · rw [hresult]
  · rw [hresult, get_commitRttOffset, if_neg (Ne.symm h)]

theorem rttOffsetStep_cases (state : ServerHeartbeatRttOffsetState) (call : RttOffsetCall) :
    rttOffsetStep state call = (state, none) ∨
      rttOffsetStep state call =
        (commitRttOffset state call.calculation call.committedAt, some call.calculation) := by
  unfold rttOffsetStep
  rcases evaluateAndCommit_cases state call.calculation call.policy call.committedAt with
    ⟨reason, hresult⟩ | hresult
  · rw [hresult]
    exact Or.inl rfl
  · rw [hresult]
    exact Or.inr rfl

theorem sumsUp_commit {commits : List ServerHeartbeatRttOffsetCalculation}
    {state : ServerHeartbeatRttOffsetState} {calculation : ServerHeartbeatRttOffsetCalculation}
    (committedAt : Option TimestampMicros) (h : EntrySumsUp commits (state.get calculation.clientId)) :
    EntrySumsUp (commits ++ [calculation])
      ((commitRttOffset state calculation committedAt).get calculation.clientId) := by
  rw [get_commitRttOffset, if_pos rfl]
  have hlast : (commits ++ [calculation]).getLast?.map (·.runId) = some calculation.runId := by simp
  have hlatest : (commits ++ [calculation]).getLast?.map (·.estimate) = some calculation.estimate := by simp
  have hsame : ∀ entry, sameRunEntry state calculation = some entry →
      SumsUp commits entry ∧ entry.runId = calculation.runId := by
    intro entry hentry
    obtain ⟨hget, hrun⟩ := Option.filter_eq_some_iff.mp hentry
    rw [hget] at h
    exact ⟨h, by simpa using hrun⟩
  have hother : sameRunEntry state calculation = none →
      samplesOfRun commits calculation.runId = [] := by
    intro hentry
    apply samplesOfRun_eq_nil
    cases hget : state.get calculation.clientId with
    | none =>
      rw [hget] at h
      change commits = [] at h
      simp [h]
    | some entry =>
      rw [hget] at h
      have hrun : entry.runId ≠ calculation.runId := by simpa [sameRunEntry, hget] using hentry
      rw [h.lastRun]
      simpa using hrun
  cases hentry : sameRunEntry state calculation with
  | some entry =>
    obtain ⟨hsums, hrun⟩ := hsame entry hentry
    have hsmoothed := hsums.smoothed
    have hcount := hsums.count
    rw [hrun] at hsmoothed hcount
    refine ⟨hlast, hlatest, ?_, ?_⟩
    · rw [samplesOfRun_concat, smoothed_concat, hsmoothed]
      rfl
    · rw [samplesOfRun_concat, List.length_append]
      simp only [toNat_saturatingAdd, UInt64.toNat_one, List.length_singleton]
      omega
  | none =>
    refine ⟨hlast, hlatest, ?_, ?_⟩
    · rw [samplesOfRun_concat, smoothed_concat, hother hentry]
      rfl
    · rw [samplesOfRun_concat, hother hentry]
      rfl

/-- A candidate lies within the limits of the policy around the estimate before it. -/
structure ServerHeartbeatRttOffsetOutlierPolicy.Admits (policy : ServerHeartbeatRttOffsetOutlierPolicy)
    (previous candidate : HeartbeatRttOffsetEstimate) : Prop where
  rtt : ∀ limit ∈ policy.maxRttDeltaMicros,
    ((previous.rttMicros.toNat : Int) - candidate.rttMicros.toNat).natAbs ≤ limit.toNat
  clockOffset : ∀ limit ∈ policy.maxClockOffsetDeltaMicros,
    (previous.clockOffsetMicros.toInt - candidate.clockOffsetMicros.toInt).natAbs ≤ limit.toNat

theorem toNat_absDiff {a b : Int} (h : (a - b).natAbs < 18446744073709551616) :
    (absDiff a b).toNat = (a - b).natAbs := by
  unfold absDiff
  exact UInt64.toNat_ofNat_of_lt' h

theorem evaluateOutlier_eq_none_iff {previous candidate : HeartbeatRttOffsetEstimate}
    {policy : ServerHeartbeatRttOffsetOutlierPolicy} :
    evaluateOutlier previous candidate policy = none ↔ policy.Admits previous candidate := by
  have hrtt := @toNat_absDiff previous.rttMicros.toNat candidate.rttMicros.toNat (by
    have hprevious := previous.rttMicros.toNat_lt
    have hcandidate := candidate.rttMicros.toNat_lt
    omega)
  have hoffset := @toNat_absDiff previous.clockOffsetMicros.toInt candidate.clockOffsetMicros.toInt (by
    have hprevious := previous.clockOffsetMicros.toInt_lt
    have hprevious' := previous.clockOffsetMicros.le_toInt
    have hcandidate := candidate.clockOffsetMicros.toInt_lt
    have hcandidate' := candidate.clockOffsetMicros.le_toInt
    omega)
  unfold evaluateOutlier
  dsimp only
  rw [Option.or_eq_none_iff, Option.bind_eq_none_iff, Option.bind_eq_none_iff]
  constructor
  · rintro ⟨hrttNone, hoffsetNone⟩
    refine ⟨fun limit hlimit => ?_, fun limit hlimit => ?_⟩
    · have hnone := hrttNone limit hlimit
      rw [ite_eq_right_iff, UInt64.lt_iff_toNat_lt, hrtt] at hnone
      exact Nat.le_of_not_lt fun hless => by cases hnone hless
    · have hnone := hoffsetNone limit hlimit
      rw [ite_eq_right_iff, UInt64.lt_iff_toNat_lt, hoffset] at hnone
      exact Nat.le_of_not_lt fun hless => by cases hnone hless
  · rintro ⟨hrttNear, hoffsetNear⟩
    refine ⟨fun limit hlimit => if_neg ?_, fun limit hlimit => if_neg ?_⟩
    · rw [UInt64.lt_iff_toNat_lt, hrtt]
      exact Nat.not_lt_of_le (hrttNear limit hlimit)
    · rw [UInt64.lt_iff_toNat_lt, hoffset]
      exact Nat.not_lt_of_le (hoffsetNear limit hlimit)

/-- What was committed last for the client, in the same run, decides about a candidate. -/
theorem evaluateCandidate_eq_none_iff {state : ServerHeartbeatRttOffsetState}
    {calculation : ServerHeartbeatRttOffsetCalculation} {policy : ServerHeartbeatRttOffsetOutlierPolicy}
    {commits : List ServerHeartbeatRttOffsetCalculation}
    (h : EntrySumsUp commits (state.get calculation.clientId)) :
    evaluateCandidate state calculation policy = none ↔
      ∀ last, commits.getLast? = some last → last.runId = calculation.runId →
        policy.Admits last.estimate calculation.estimate := by
  unfold evaluateCandidate sameRunEntry
  cases hget : state.get calculation.clientId with
  | none =>
    rw [hget] at h
    cases h
    exact iff_of_true rfl nofun
  | some entry =>
    rw [hget] at h
    obtain ⟨last, hlast, hrun⟩ := Option.map_eq_some_iff.mp h.lastRun
    have hlatest : last.estimate = entry.latestEstimate := by simpa [hlast] using h.latest
    simp only [hlast, Option.some_inj, forall_eq', hrun, hlatest]
    by_cases hsame : entry.runId = calculation.runId
    · simp [Option.filter, hsame, evaluateOutlier_eq_none_iff]
    · simp [Option.filter, hsame]

theorem runRttOffset_sumsUp (calls : List RttOffsetCall) (clientId : ClientId) :
    EntrySumsUp (committedFor clientId (runRttOffset calls).2) ((runRttOffset calls).1.get clientId) := by
  refine run_invariant (P := fun _ => True)
    (fun _ (state : ServerHeartbeatRttOffsetState) outcomes =>
      EntrySumsUp (committedFor clientId outcomes) (state.get clientId))
    ?_ ?_ calls fun _ _ => trivial
  · have hempty : ServerHeartbeatRttOffsetState.empty.get clientId = none := getElem?_empty_eq clientId
    rw [hempty]
    rfl
  · intro _ state outcomes call _ h
    rcases rttOffsetStep_cases state call with hstep | hstep
    · rw [hstep]
      simpa [committedFor] using h
    · rw [hstep]
      by_cases hclient : call.calculation.clientId = clientId
      · subst hclient
        rw [committedFor_concat, if_pos rfl]
        exact sumsUp_commit call.committedAt h
      · rw [committedFor_concat, if_neg hclient, get_commitRttOffset, if_neg hclient]
        exact h

/-- After any history of calls, a client has an entry exactly when something was committed for it. The entry
is of the run committed last, its smoothed round trip and offset are what smoothing makes of the samples
committed for that run and lie in their hull, and its counters count them. The smoothing arithmetic never
leaves the range of its type, a candidate is rejected exactly when it is too far from the sample committed
last, if that was of its run, which changes nothing, and a call changes no other client. -/
theorem runRttOffset_hull (calls : List RttOffsetCall) :
    let outcomes := (runRttOffset calls).2
    let state := (runRttOffset calls).1
    (∀ clientId, EntrySumsUp (committedFor clientId outcomes) (state.get clientId)) ∧
    (∀ clientId entry, state.get clientId = some entry →
      let samples := samplesOfRun (committedFor clientId outcomes) entry.runId
      Smooths samples entry.smoothedEstimate ∧
        entry.committedSamples.toNat = min samples.length 18446744073709551615) ∧
    ∀ call : RttOffsetCall,
      let result := evaluateAndCommit state call.calculation call.policy call.committedAt
      (result.2 = none ↔
        ∀ last, (committedFor call.calculation.clientId outcomes).getLast? = some last →
          last.runId = call.calculation.runId → call.policy.Admits last.estimate call.calculation.estimate) ∧
      (∀ entry, sameRunEntry state call.calculation = some entry →
        let previous := entry.smoothedEstimate
        let latest := call.calculation.estimate
        (0 ≤ emaNext previous.rttMicros.toNat latest.rttMicros.toNat ∧
          emaNext previous.rttMicros.toNat latest.rttMicros.toNat ≤ 18446744073709551615) ∧
        -9223372036854775808 ≤ emaNext previous.clockOffsetMicros.toInt latest.clockOffsetMicros.toInt ∧
          emaNext previous.clockOffsetMicros.toInt latest.clockOffsetMicros.toInt ≤ 9223372036854775807) ∧
      (result.2 ≠ none → result.1 = state) ∧
      ∀ clientId, clientId ≠ call.calculation.clientId → result.1.get clientId = state.get clientId := by
  intro outcomes state
  refine ⟨runRttOffset_sumsUp calls, ?_, ?_⟩
  · intro clientId entry hentry samples
    have hsums := runRttOffset_sumsUp calls clientId
    rw [show (runRttOffset calls).1.get clientId = some entry from hentry] at hsums
    exact ⟨smooths_of_smoothed samples _ hsums.smoothed, hsums.count⟩
  · intro call result
    refine ⟨?_, ?_, ?_, ?_⟩
    · rw [← evaluateCandidate_eq_none_iff (runRttOffset_sumsUp calls call.calculation.clientId)]
      change (evaluateAndCommit state call.calculation call.policy call.committedAt).2 = none ↔ _
      unfold evaluateAndCommit
      cases evaluateCandidate state call.calculation call.policy with
      | none => exact iff_of_true rfl rfl
      | some reason => exact iff_of_false (Option.some_ne_none reason) (Option.some_ne_none reason)
    · intro entry _ previous latest
      obtain ⟨hlow, hhigh, -⟩ := emaU64_exact previous.rttMicros latest.rttMicros
      obtain ⟨hlow', hhigh', -⟩ := emaI64_exact previous.clockOffsetMicros latest.clockOffsetMicros
      exact ⟨⟨hlow, hhigh⟩, hlow', hhigh'⟩
    · intro hrejected
      exact evaluateAndCommit_rejected hrejected
    · intro clientId hclient
      exact get_evaluateAndCommit_of_ne hclient

def rttOffsetCall (runId : RunId) (rttMicros : UInt64) (clockOffsetMicros : Int64) : RttOffsetCall where
  calculation := ⟨"cam", runId, ⟨rttMicros, 0, clockOffsetMicros⟩⟩
  policy := ⟨some 100, none⟩
  committedAt := none

/-- A commit of one run, then two of another with an outlier behind the first of them. -/
def runChangeCalls : List RttOffsetCall :=
  [rttOffsetCall "r1" 900 70, rttOffsetCall "r2" 100 (-20), rttOffsetCall "r2" 5000 0, rttOffsetCall "r2" 180 20]

theorem runRttOffset_hull_runChange :
    (runRttOffset runChangeCalls).2.map Option.isSome = [true, true, false, true] ∧
    ∃ entry, (runRttOffset runChangeCalls).1.get "cam" = some entry ∧ entry.runId = "r2" ∧
      Smooths [⟨100, 0, -20⟩, ⟨180, 0, 20⟩] entry.smoothedEstimate ∧ entry.smoothedEstimate.rttMicros = 120 ∧
      entry.committedSamples.toNat = 2 := by
  obtain ⟨hsums, hhull, -⟩ := runRttOffset_hull runChangeCalls
  have hcommitted : committedFor "cam" (runRttOffset runChangeCalls).2 =
      [⟨"cam", "r1", ⟨900, 0, 70⟩⟩, ⟨"cam", "r2", ⟨100, 0, -20⟩⟩, ⟨"cam", "r2", ⟨180, 0, 20⟩⟩] := by
    decide +kernel
  have hcam := hsums "cam"
  rw [hcommitted] at hcam
  cases hentry : (runRttOffset runChangeCalls).1.get "cam" with
  | none =>
    rw [hentry] at hcam
    cases hcam
  | some entry =>
    rw [hentry] at hcam
    have hrun : entry.runId = "r2" := (Option.some.inj hcam.lastRun).symm
    obtain ⟨hsmooths, hcount⟩ := hhull "cam" entry hentry
    have hsamples : samplesOfRun (committedFor "cam" (runRttOffset runChangeCalls).2) entry.runId =
        [⟨100, 0, -20⟩, ⟨180, 0, 20⟩] := by
      rw [hcommitted, hrun]
      decide
    have hsmoothed := hcam.smoothed
    rw [← hcommitted, hsamples] at hsmoothed
    rw [hsamples] at hsmooths hcount
    refine ⟨by decide +kernel, entry, rfl, hrun, hsmooths, ?_, hcount⟩
    rw [← Option.some.inj hsmoothed]
    decide

theorem emaU64_approaches : Approaches 4 (fun value : UInt64 => (value.toNat : Int)) emaU64 :=
  approaches_of_step (show (0 : Int) < 4 by omega) fun previous latest => (emaU64_exact previous latest).2.2

theorem emaI64_approaches : Approaches 4 Int64.toInt emaI64 :=
  approaches_of_step (show (0 : Int) < 4 by omega) fun previous latest => (emaI64_exact previous latest).2.2

/-- Both averages approach their samples without going past them, over the whole range of their types:
the next value lies between, grows with both arguments, is nearer to a sample that is 4 or more away, and
the repeated sample is 3 away at most after as many repetitions as the distance was, and from then on. -/
theorem smoothing_approaches :
    Approaches 4 (fun value : UInt64 => (value.toNat : Int)) emaU64 ∧ Approaches 4 Int64.toInt emaI64 :=
  ⟨emaU64_approaches, emaI64_approaches⟩

theorem iterate_smooth (latest : HeartbeatRttOffsetEstimate) (n : Nat)
    (previous : HeartbeatRttOffsetSmoothedEstimate) :
    ((fun previous => smooth (some previous) latest)^[n] previous).rttMicros =
        (emaU64 · latest.rttMicros)^[n] previous.rttMicros ∧
      ((fun previous => smooth (some previous) latest)^[n] previous).clockOffsetMicros =
        (emaI64 · latest.clockOffsetMicros)^[n] previous.clockOffsetMicros := by
  induction n with
  | zero => exact ⟨rfl, rfl⟩
  | succ n ih =>
    obtain ⟨hrtt, hoffset⟩ := ih
    simp only [Function.iterate_succ_apply']
    exact ⟨congrArg (emaU64 · latest.rttMicros) hrtt, congrArg (emaI64 · latest.clockOffsetMicros) hoffset⟩

/-- An estimate that is committed again and again is what the smoothed estimate becomes, up to 3 µs. -/
theorem smooth_settles (previous : HeartbeatRttOffsetSmoothedEstimate) (latest : HeartbeatRttOffsetEstimate)
    {n : Nat}
    (hrtt : ((latest.rttMicros.toNat : Int) - previous.rttMicros.toNat).natAbs ≤ n)
    (hoffset : (latest.clockOffsetMicros.toInt - previous.clockOffsetMicros.toInt).natAbs ≤ n) :
    let estimate := (fun previous => smooth (some previous) latest)^[n] previous
    ((latest.rttMicros.toNat : Int) - estimate.rttMicros.toNat).natAbs ≤ 3 ∧
      (latest.clockOffsetMicros.toInt - estimate.clockOffsetMicros.toInt).natAbs ≤ 3 := by
  obtain ⟨hrttEq, hoffsetEq⟩ := iterate_smooth latest n previous
  have hrttNear := emaU64_approaches.settles previous.rttMicros latest.rttMicros n hrtt
  have hoffsetNear := emaI64_approaches.settles previous.clockOffsetMicros latest.clockOffsetMicros n hoffset
  dsimp only at hrttNear ⊢
  rw [hrttEq, hoffsetEq]
  omega

end StreamSync
