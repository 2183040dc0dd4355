import StreamSync.ContinuousEnqueue
import StreamSync.PersistentBootstrap
import StreamSync.TimedDecode

namespace StreamSync

/-- The cache key of a frame of the source. -/
def sourceKey (outputOverride : TwoRealPreviewLoopDecodeOutputOverride) (source : TwoRealContinuousDecodeSource)
    (frameId : UInt64) : TwoRealPreviewLoopDecodeCacheKey where
  width := outputOverride.width
  height := outputOverride.height
  sourceIdentity := some ⟨source.clientId, source.runId, frameId, "selected"⟩
  encodedPayload := []

/-- What the decoder does not take a frame for, apart from a full queue: it got it before, it is not
running and cannot start with it, its size is not the one of the session, or the writer has stopped. -/
def RefusesFrame (outputOverride : TwoRealPreviewLoopDecodeOutputOverride)
    (runtime : TwoRealContinuousDecodeRuntime) (frame : SwitcherSingleViewSelectedEncodedFrame)
    (spawn : SpawnResult) : Prop :=
  let input := runtime.continuousInput outputOverride (TimedSwitcherH264DecodeRuntime.feedInput frame)
  sourceKey outputOverride runtime.source frame.frameId ∈ runtime.enqueuedKeys ∨
    match runtime.session with
    | none => bootstrapPayload frame.encodedPayload = false ∨ spawn ≠ .spawned
    | some session =>
      (runtime.config.usesDynamicSourceSizeOutput = true ∧
          (runtime.outputWidth ≠ input.width ∨ runtime.outputHeight ≠ input.height)) ∨
        session.writer = .stopped

/-- An enabled decoder with room in its input, that does not refuse the frame. -/
structure TakesFrame (outputOverride : TwoRealPreviewLoopDecodeOutputOverride)
    (runtime : TwoRealContinuousDecodeRuntime) (frame : SwitcherSingleViewSelectedEncodedFrame)
    (spawn : SpawnResult) : Prop where
  enabled : runtime.runtimeDisabled = false
  room : ∀ session ∈ runtime.session, session.inputQueue.length < continuousDecodeQueueBound
  accepts : ¬RefusesFrame outputOverride runtime frame spawn

/-- A frame of the source that is newer than all that were enqueued. -/
def NewerThanEnqueued (outputOverride : TwoRealPreviewLoopDecodeOutputOverride)
    (source : TwoRealContinuousDecodeSource) (runtime : TwoRealContinuousDecodeRuntime) (frameId : UInt64) : Prop :=
  ∀ enqueued, sourceKey outputOverride source enqueued ∈ runtime.enqueuedKeys → enqueued < frameId

section

variable (outputOverride : TwoRealPreviewLoopDecodeOutputOverride) (source : TwoRealContinuousDecodeSource)
  (runtime : TwoRealContinuousDecodeRuntime) (frame : SwitcherSingleViewSelectedEncodedFrame) (spawn : SpawnResult)

instance : Decidable (RefusesFrame outputOverride runtime frame spawn) :=
  let input := runtime.continuousInput outputOverride (TimedSwitcherH264DecodeRuntime.feedInput frame)
  let key := sourceKey outputOverride runtime.source frame.frameId
  match hsession : runtime.session with
  | none =>
    decidable_of_iff (key ∈ runtime.enqueuedKeys ∨ bootstrapPayload frame.encodedPayload = false ∨ spawn ≠ .spawned)
      (by rw [RefusesFrame, hsession])
  | some session =>
    decidable_of_iff (key ∈ runtime.enqueuedKeys ∨
        (runtime.config.usesDynamicSourceSizeOutput = true ∧
            (runtime.outputWidth ≠ input.width ∨ runtime.outputHeight ≠ input.height)) ∨
          session.writer = .stopped)
      (by rw [RefusesFrame, hsession])

instance : Decidable (TakesFrame outputOverride runtime frame spawn) :=
  decidable_of_iff (runtime.runtimeDisabled = false ∧
      (∀ session ∈ runtime.session, session.inputQueue.length < continuousDecodeQueueBound) ∧
        ¬RefusesFrame outputOverride runtime frame spawn)
    ⟨fun ⟨henabled, hroom, haccepts⟩ => ⟨henabled, hroom, haccepts⟩,
      fun h => ⟨h.enabled, h.room, h.accepts⟩⟩

/-- Only the ids in the enqueued keys have to be looked at. -/
instance (frameId : UInt64) : Decidable (NewerThanEnqueued outputOverride source runtime frameId) :=
  decidable_of_iff (∀ key ∈ runtime.enqueuedKeys, ∀ identity ∈ key.sourceIdentity,
      key = sourceKey outputOverride source identity.frameId → identity.frameId < frameId) <| by
    constructor
    · intro h enqueued hkey
      exact h _ hkey _ rfl rfl
    · intro h key hkey identity _ hsource
      rw [hsource] at hkey
      exact h identity.frameId hkey

end

section

variable {outputOverride : TwoRealPreviewLoopDecodeOutputOverride} {source : TwoRealContinuousDecodeSource}
  {runtime : TwoRealContinuousDecodeRuntime}

theorem sourceKey_inj {frameId frameId' : UInt64}
    (h : sourceKey outputOverride source frameId = sourceKey outputOverride source frameId') :
    frameId = frameId' := by
  have hidentity := congrArg TwoRealPreviewLoopDecodeCacheKey.sourceIdentity h
  exact congrArg SwitcherH264DecodeSourceIdentity.frameId (Option.some.inj hidentity)

theorem decodeCacheKey_feedInput {frame : SwitcherSingleViewSelectedEncodedFrame}
    (hclient : frame.clientId = source.clientId) (hrun : frame.runId = source.runId) :
    decodeCacheKey (applyOutputOverride outputOverride (TimedSwitcherH264DecodeRuntime.feedInput frame)) =
      sourceKey outputOverride source frame.frameId := by
  unfold sourceKey
  rw [← hclient, ← hrun]
  rfl

theorem trySend_of_room {session : TwoRealContinuousDecodeSession} (hwriter : session.writer ≠ .stopped)
    (hroom : session.inputQueue.length < continuousDecodeQueueBound) (input : TwoRealContinuousDecodeInput) :
    ∃ session', session.trySend input = .sent session' := by
  unfold TwoRealContinuousDecodeSession.trySend
  rw [if_neg hwriter, if_neg (Nat.not_le.mpr hroom)]
  exact ⟨_, rfl⟩

theorem trySend_of_stopped {session : TwoRealContinuousDecodeSession} (hwriter : session.writer = .stopped)
    (input : TwoRealContinuousDecodeInput) : session.trySend input = .disconnected := by
  unfold TwoRealContinuousDecodeSession.trySend
  rw [if_pos hwriter]

theorem enqueue_started {input : SwitcherH264DecodeInput} {key : TwoRealPreviewLoopDecodeCacheKey}
    {identity : SwitcherH264DecodeSourceIdentity} {spawn : SpawnResult}
    {started : TwoRealContinuousDecodeRuntime} {session : TwoRealContinuousDecodeSession}
    (hdisabled : runtime.runtimeDisabled = false) (hfresh : key ∉ runtime.enqueuedKeys)
    (hidentity : input.sourceIdentity = some identity)
    (hready : runtime.ensureStarted input spawn = (started, .ok ())) (hsession : started.session = some session)
    (hroom : session.inputQueue.length < continuousDecodeQueueBound) :
    (runtime.enqueue input key spawn).2 = .enqueued ↔ session.writer ≠ .stopped := by
  unfold TwoRealContinuousDecodeRuntime.enqueue
  rw [if_neg (Bool.eq_false_iff.mp hdisabled), if_neg hfresh, hidentity, hready]
  dsimp only
  rw [hsession]
  dsimp only
  by_cases hwriter : session.writer = .stopped
  · rw [trySend_of_stopped hwriter]
    simp [hwriter]
  · obtain ⟨session', hsend⟩ := trySend_of_room hwriter hroom ⟨⟨key, identity.frameId⟩, input.encodedPayload⟩
    rw [hsend]
    simp [hwriter]

theorem enqueue_notStarted {input : SwitcherH264DecodeInput} (key : TwoRealPreviewLoopDecodeCacheKey)
    {spawn : SpawnResult} {error : String} (h : (runtime.ensureStarted input spawn).2 = .error error) :
    (runtime.enqueue input key spawn).2 ≠ .enqueued := by
  unfold TwoRealContinuousDecodeRuntime.enqueue
  generalize runtime.ensureStarted input spawn = ensured at h ⊢
  obtain ⟨started, result⟩ := ensured
  obtain rfl : result = .error error := h
  split
  next => exact nofun
  next =>
    split
    next => exact nofun
    next => split <;> exact nofun

theorem startsWith_iff (payload : List UInt8) :
    ((inspectPayload payload).hasSps && (inspectPayload payload).hasPps && (inspectPayload payload).hasIdr) =
      bootstrapPayload payload := by
  rw [bootstrapPayload, Bool.and_assoc, Bool.and_assoc, Bool.and_comm (inspectPayload payload).hasIdr,
    Bool.and_assoc]

/-- A decoder that is not running starts with a payload that brings its parameter sets, if its process
does. -/
theorem ensureStarted_notRunning (hdisabled : runtime.runtimeDisabled = false)
    (hsession : runtime.session = none) (input : SwitcherH264DecodeInput) (spawn : SpawnResult) :
    if bootstrapPayload input.encodedPayload = true ∧ spawn = .spawned then
      runtime.ensureStarted input spawn = ((runtime.ensureOutputShape input).startSession input, .ok ())
    else ∃ error, (runtime.ensureStarted input spawn).2 = .error error := by
  have hrunning : ¬runtime.session.isSome = true := by
    rw [hsession]
    decide
  unfold TwoRealContinuousDecodeRuntime.ensureStarted
  rw [if_neg (Bool.eq_false_iff.mp hdisabled), if_neg hrunning]
  dsimp only
  rw [startsWith_iff]
  by_cases hpayload : bootstrapPayload input.encodedPayload = true
  · rw [if_neg (not_not_intro hpayload)]
    by_cases hspawn : spawn = .spawned
    · rw [if_pos ⟨hpayload, hspawn⟩, hspawn]
    · rw [if_neg (fun h => hspawn h.2)]
      cases spawn with
      | spawned => exact absurd rfl hspawn
      | notFound => exact ⟨_, rfl⟩
      | failed error => exact ⟨_, rfl⟩
  · rw [if_pos hpayload, if_neg (fun h => hpayload h.1)]
    exact ⟨_, rfl⟩

/-- An enabled decoder with room takes every input but the ones named here. -/
theorem enqueue_iff {input : SwitcherH264DecodeInput} {key : TwoRealPreviewLoopDecodeCacheKey}
    {identity : SwitcherH264DecodeSourceIdentity} {spawn : SpawnResult}
    (hdisabled : runtime.runtimeDisabled = false) (hidentity : input.sourceIdentity = some identity)
    (hroom : ∀ session ∈ runtime.session, session.inputQueue.length < continuousDecodeQueueBound) :
    (runtime.enqueue input key spawn).2 = .enqueued ↔
      ¬(key ∈ runtime.enqueuedKeys ∨
        match runtime.session with
        | none => bootstrapPayload input.encodedPayload = false ∨ spawn ≠ .spawned
        | some session =>
          (runtime.config.usesDynamicSourceSizeOutput = true ∧
              (runtime.outputWidth ≠ input.width ∨ runtime.outputHeight ≠ input.height)) ∨
            session.writer = .stopped) := by
  by_cases hkey : key ∈ runtime.enqueuedKeys
  · have hduplicate : (runtime.enqueue input key spawn).2 = .skippedDuplicate := by
      unfold TwoRealContinuousDecodeRuntime.enqueue
      rw [if_neg (Bool.eq_false_iff.mp hdisabled), if_pos hkey]
    rw [hduplicate]
    simp [hkey]
  · cases hsession : runtime.session with
    | some session =>
      by_cases hsize : runtime.config.usesDynamicSourceSizeOutput = true ∧
          (runtime.outputWidth ≠ input.width ∨ runtime.outputHeight ≠ input.height)
      · have hnot : (runtime.ensureStarted input spawn).2 =
            .error "continuous_no_scale_source_size_changed" := by
          unfold TwoRealContinuousDecodeRuntime.ensureStarted
          rw [if_neg (Bool.eq_false_iff.mp hdisabled), if_pos (by rw [hsession]; rfl), if_pos hsize]
        have hskipped := enqueue_notStarted key hnot
        exact ⟨fun h => absurd h hskipped, fun h => absurd (.inr (.inl hsize)) h⟩
      · have hready : runtime.ensureStarted input spawn = (runtime, .ok ()) := by
          unfold TwoRealContinuousDecodeRuntime.ensureStarted
          rw [if_neg (Bool.eq_false_iff.mp hdisabled), if_pos (by rw [hsession]; rfl), if_neg hsize]
        rw [enqueue_started hdisabled hkey hidentity hready hsession (hroom session hsession)]
        simp only [hkey, hsize, false_or, ne_eq]
    | none =>
      have hstart := ensureStarted_notRunning hdisabled hsession input spawn
      split at hstart
      next hstarts =>
        obtain ⟨hpayload, hspawn⟩ := hstarts
        have htaken := enqueue_started hdisabled hkey hidentity hstart rfl (Nat.zero_lt_succ 29)
        rw [htaken]
        simp [hkey, hpayload, hspawn, spawnContinuousDecodeSession]
      next hnot =>
        obtain ⟨error, herror⟩ := hstart
        refine ⟨fun h => absurd h (enqueue_notStarted key herror), fun h => absurd (.inr ?_) h⟩
        by_cases hpayload : bootstrapPayload input.encodedPayload = true
        · exact .inr fun hspawn => hnot ⟨hpayload, hspawn⟩
        · exact .inl (Bool.eq_false_iff.mpr hpayload)

theorem enabled_of_enqueued {input : SwitcherH264DecodeInput} {key : TwoRealPreviewLoopDecodeCacheKey}
    {spawn : SpawnResult} (h : (runtime.enqueue input key spawn).2 = .enqueued) :
    runtime.runtimeDisabled = false := by
  by_contra hdisabled
  unfold TwoRealContinuousDecodeRuntime.enqueue at h
  rw [if_pos (Bool.not_eq_false _ ▸ hdisabled)] at h
  cases h

/-- A decoder that runs stays as it is until the frame is sent. -/
theorem ensureStarted_running {session : TwoRealContinuousDecodeSession} (hsession : runtime.session = some session)
    (input : SwitcherH264DecodeInput) (spawn : SpawnResult) :
    (runtime.ensureStarted input spawn).1 = runtime := by
  unfold TwoRealContinuousDecodeRuntime.ensureStarted
  rw [if_pos (c := runtime.session.isSome = true) (by rw [hsession]; rfl)]
  split
  next => rfl
  next => split <;> rfl

theorem room_of_enqueued {input : SwitcherH264DecodeInput} {key : TwoRealPreviewLoopDecodeCacheKey}
    {spawn : SpawnResult} (h : (runtime.enqueue input key spawn).2 = .enqueued) :
    ∀ session ∈ runtime.session, session.inputQueue.length < continuousDecodeQueueBound := by
  intro session hsession
  have hensured := ensureStarted_running hsession input spawn
  have houtcome := runtime.enqueue_outcome input key spawn
  generalize runtime.enqueue input key spawn = next at houtcome h
  cases houtcome with
  | enqueued _ source _ session' session'' hsession' hsend =>
    rw [hensured, hsession] at hsession'
    obtain rfl := Option.some.inj hsession'
    by_contra hfull
    unfold TwoRealContinuousDecodeSession.trySend at hsend
    rw [if_pos (Nat.not_lt.mp hfull)] at hsend
    split at hsend <;> cases hsend
  | _ => cases h

/-- The same of what the feeder hands over. -/
theorem enqueueInput_feed_iff {frame : SwitcherSingleViewSelectedEncodedFrame} {spawn : SpawnResult}
    (hdisabled : runtime.runtimeDisabled = false)
    (hroom : ∀ session ∈ runtime.session, session.inputQueue.length < continuousDecodeQueueBound)
    (hclient : frame.clientId = runtime.source.clientId) (hrun : frame.runId = runtime.source.runId) :
    (runtime.enqueueInput outputOverride (TimedSwitcherH264DecodeRuntime.feedInput frame) spawn).2 = .enqueued ↔
      ¬RefusesFrame outputOverride runtime frame spawn := by
  have hmatches : runtime.matchesSource (TimedSwitcherH264DecodeRuntime.feedInput frame) = true := by
    show (decide (frame.clientId = runtime.source.clientId) && decide (frame.runId = runtime.source.runId)) = true
    rw [hclient, hrun]
    simp
  have hinput : (runtime.continuousInput outputOverride
        (TimedSwitcherH264DecodeRuntime.feedInput frame)).sourceIdentity =
          some ⟨frame.clientId, frame.runId, frame.frameId, "selected"⟩ ∧
      (runtime.continuousInput outputOverride
        (TimedSwitcherH264DecodeRuntime.feedInput frame)).encodedPayload = frame.encodedPayload := by
    unfold TwoRealContinuousDecodeRuntime.continuousInput
    split <;> exact ⟨rfl, rfl⟩
  obtain ⟨hidentity, hpayload⟩ := hinput
  unfold TwoRealContinuousDecodeRuntime.enqueueInput RefusesFrame
  rw [if_pos hmatches, decodeCacheKey_feedInput hclient hrun, enqueue_iff hdisabled hidentity hroom, hpayload]

/-- What the feeder hands over is enqueued exactly when the decoder takes it. -/
theorem enqueueInput_takes_iff {frame : SwitcherSingleViewSelectedEncodedFrame} {spawn : SpawnResult}
    (hclient : frame.clientId = runtime.source.clientId) (hrun : frame.runId = runtime.source.runId) :
    (runtime.enqueueInput outputOverride (TimedSwitcherH264DecodeRuntime.feedInput frame) spawn).2 = .enqueued ↔
      TakesFrame outputOverride runtime frame spawn := by
  constructor
  · intro h
    have hcall := h
    unfold TwoRealContinuousDecodeRuntime.enqueueInput at hcall
    split at hcall
    next =>
      have henabled := enabled_of_enqueued hcall
      have hroom := room_of_enqueued hcall
      exact ⟨henabled, hroom, (enqueueInput_feed_iff henabled hroom hclient hrun).mp h⟩
    next => cases hcall
  · intro h
    exact (enqueueInput_feed_iff h.enabled h.room hclient hrun).mpr h.accepts

end

end StreamSync
