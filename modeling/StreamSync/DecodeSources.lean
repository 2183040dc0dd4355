import StreamSync.DecodeCalls

namespace StreamSync

/-- The cache has the picture under a key of the client and the run. -/
def DecodedCache.HasFrom (cache : DecodedCache) (clientId : ClientId) (runId : RunId)
    (decoded : SwitcherDecodedFrame) : Prop :=
  ∃ (key : TwoRealPreviewLoopDecodeCacheKey) (source : SwitcherH264DecodeSourceIdentity),
    cache.lookup key = some decoded ∧ key.sourceIdentity = some source ∧ source.clientId = clientId ∧
      source.runId = runId

theorem nearestDecoded_source {input : SwitcherH264DecodeInput} {requested : SwitcherH264DecodeSourceIdentity}
    {keys : List TwoRealPreviewLoopDecodeCacheKey} {seen seen' : Bool}
    {key : TwoRealPreviewLoopDecodeCacheKey} {frameId : UInt64}
    (h : TwoRealContinuousDecodeRuntime.nearestDecoded input requested keys seen =
      (some (key, frameId), seen')) :
    ∃ source, key.sourceIdentity = some source ∧ source.clientId = requested.clientId ∧
      source.runId = requested.runId := by
  induction keys generalizing seen with
  | nil => cases congrArg Prod.fst h
  | cons first keys ih =>
    unfold TwoRealContinuousDecodeRuntime.nearestDecoded at h
    split at h
    next => exact ih h
    next =>
      split at h
      next => exact ih h
      next candidate hcandidate =>
        split at h
        next => exact ih h
        next hsame =>
          rw [not_or, not_not, not_not] at hsame
          split at h
          next => exact ih h
          next =>
            obtain ⟨rfl, -⟩ := Prod.mk.inj (Option.some.inj (congrArg Prod.fst h))
            exact ⟨candidate, hcandidate, hsame⟩

namespace TwoRealContinuousDecodeRuntime

theorem boundedLagLookupCandidate_source {runtime : TwoRealContinuousDecodeRuntime}
    {input : SwitcherH264DecodeInput} {requested : SwitcherH264DecodeSourceIdentity}
    (hinput : input.sourceIdentity = some requested) {key : TwoRealPreviewLoopDecodeCacheKey}
    {usedFrameId requestedFrameId lagFrames : UInt64}
    (h : runtime.boundedLagLookupCandidate input = .hit key usedFrameId requestedFrameId lagFrames) :
    ∃ source, key.sourceIdentity = some source ∧ source.clientId = requested.clientId ∧
      source.runId = requested.runId := by
  unfold boundedLagLookupCandidate at h
  split at h
  next => cases h
  next =>
    rw [hinput] at h
    dsimp only at h
    split at h
    next => split at h <;> cases h
    next key' usedFrameId' _ hnearest =>
      split at h
      next => cases h
      next =>
        cases h
        exact nearestDecoded_source hnearest

end TwoRealContinuousDecodeRuntime

namespace TimedSwitcherH264DecodeRuntime

variable {δ : Type} {pictures : DecoderPictures} {decode : H264DecodeRuntime δ}
  {timed : TimedSwitcherH264DecodeRuntime δ} {input : SwitcherH264DecodeInput}
  {source : SwitcherH264DecodeSourceIdentity}

/-- The picture of the bounded-lag look-up, which asks the given runtime and cache. -/
def LaggedPicture (timed : TimedSwitcherH264DecodeRuntime δ) (input : SwitcherH264DecodeInput)
    (decoded : SwitcherDecodedFrame) : Prop :=
  ∃ runtime key usedFrameId requestedFrameId lagFrames, timed.continuousSlot0 = some runtime ∧
    runtime.boundedLagLookupCandidate (timed.overridden input) =
      .hit key usedFrameId requestedFrameId lagFrames ∧ timed.decodedCache.lookup key = some decoded

theorem continuousAnswer_picture {runtime : TwoRealContinuousDecodeRuntime}
    {purpose : TwoRealPreviewLoopDecodePurpose} {turn : ContinuousTurn} {decoded : SwitcherDecodedFrame}
    (h : (timed.continuousAnswer pictures runtime input purpose turn).1 = some (.decoded decoded)) :
    let after := (timed.continuousAnswer pictures runtime input purpose turn).2
    after.decodedCache.lookup (after.cacheKey input) = some decoded ∨ after.LaggedPicture input decoded := by
  intro after
  have hafter : after = (timed.enqueueAndDrain pictures runtime input turn).1 := continuousAnswer_snd _ _ _ _ _ _
  rw [hafter]
  unfold continuousAnswer at h
  dsimp only at h
  split at h
  next found hfound =>
    cases h
    exact .inl hfound
  next =>
    split at h
    next => cases h
    next runtime' hruntime' =>
      split at h
      next found hlagged =>
        cases h
        split at hlagged
        next key usedFrameId requestedFrameId lagFrames hhit =>
          exact .inr ⟨runtime', key, usedFrameId, requestedFrameId, lagFrames, hruntime', hhit, hlagged⟩
        next => cases hlagged
      next => split at h <;> cases h

/-- A picture that a decode call returns is in the cache behind it: under the input's own key, or the
bounded-lag look-up found it under another one. -/
theorem decodeForPurpose_picture {purpose : TwoRealPreviewLoopDecodePurpose} {turn : ContinuousTurn}
    {decoded : SwitcherDecodedFrame}
    (h : (timed.decodeForPurpose pictures decode input purpose turn).1 = .decoded decoded) :
    let after := (timed.decodeForPurpose pictures decode input purpose turn).2
    after.decodedCache.lookup (after.cacheKey input) = some decoded ∨ after.LaggedPicture input decoded := by
  have houtcome := beforeOneShot_outcome pictures timed input purpose turn
  rw [decodeForPurpose_eq] at h ⊢
  generalize timed.beforeOneShot pictures input purpose turn = outcome at houtcome h ⊢
  cases houtcome with
  | cached found hfound =>
    cases h
    left
    show (timed.drainTargeted input).decodedCache.lookup ((timed.drainTargeted input).cacheKey input) = _
    rw [cacheKey, overridden, outputOverride_drainTargeted]
    exact hfound
  | answered hmiss result hanswer =>
    cases h
    unfold answerTargeted at hanswer ⊢
    split at hanswer
    next => exact continuousAnswer_picture hanswer
    next => cases hanswer
  | suppressed => cases h
  | oneShot =>
    left
    dsimp only at h ⊢
    rw [h]
    exact AList.lookup_insert _

/-- Either way the picture is of the input's client and run. -/
theorem hasFrom_of_decodeForPurpose (hinput : input.sourceIdentity = some source)
    {purpose : TwoRealPreviewLoopDecodePurpose} {turn : ContinuousTurn} {decoded : SwitcherDecodedFrame}
    (h : (timed.decodeForPurpose pictures decode input purpose turn).1 = .decoded decoded) :
    (timed.decodeForPurpose pictures decode input purpose turn).2.decodedCache.HasFrom source.clientId
      source.runId decoded := by
  rcases decodeForPurpose_picture h with hown | ⟨runtime, key, _, _, _, -, hhit, hlagged⟩
  · exact ⟨_, source, hown, hinput, rfl, rfl⟩
  · obtain ⟨candidate, hkey, hclient, hrun⟩ :=
      TwoRealContinuousDecodeRuntime.boundedLagLookupCandidate_source
        (show (TimedSwitcherH264DecodeRuntime.overridden _ input).sourceIdentity = some source from hinput) hhit
    exact ⟨key, candidate, hlagged, hkey, hclient, hrun⟩

theorem hasFrom_of_latestContinuousProgramFrame {clientId : ClientId} {runId : RunId}
    {decoded : SwitcherDecodedFrame} {frameId : UInt64}
    (h : (timed.latestContinuousProgramFrame clientId (some runId)).1 = some (decoded, frameId)) :
    (timed.latestContinuousProgramFrame clientId (some runId)).2.decodedCache.HasFrom clientId runId
      decoded := by
  unfold latestContinuousProgramFrame at h ⊢
  cases hslot : timed.continuousSlot0 with
  | none =>
    rw [hslot] at h
    cases h
  | some runtime =>
    rw [hslot] at h
    dsimp only at h ⊢
    obtain ⟨after, -, h⟩ := Option.bind_eq_some_iff.mp h
    obtain ⟨key, hkey, h⟩ := Option.bind_eq_some_iff.mp h
    obtain ⟨found, hsource, h⟩ := Option.bind_eq_some_iff.mp h
    obtain ⟨picture, hpicture, h⟩ := Option.bind_eq_some_iff.mp h
    obtain ⟨rfl, -⟩ := Prod.mk.inj (Option.some.inj h)
    have hmatches := List.find?_some hkey
    rw [hsource] at hmatches
    simp only [Option.any_some, Bool.and_eq_true, decide_eq_true_eq] at hmatches
    exact ⟨key, found, hpicture, hsource, hmatches.1, hmatches.2⟩

end TimedSwitcherH264DecodeRuntime

end StreamSync
