import StreamSync.ContinuousCache

namespace StreamSync

def inputKey (input : TwoRealContinuousDecodeInput) : TwoRealPreviewLoopDecodeCacheKey := input.metadata.key

namespace TwoRealContinuousDecodeRuntime

/-- The output size a runtime has until it starts its session. -/
structure Unshaped (outputOverride : TwoRealPreviewLoopDecodeOutputOverride)
    (runtime : TwoRealContinuousDecodeRuntime) : Prop where
  width : runtime.outputWidth =
    if runtime.config.usesDynamicSourceSizeOutput then 0 else outputOverride.width
  height : runtime.outputHeight =
    if runtime.config.usesDynamicSourceSizeOutput then 0 else outputOverride.height
  expectedLen : runtime.outputExpectedLen =
    runtime.config.outputFrameBytes runtime.outputWidth runtime.outputHeight

/-- What holds of a runtime between two actions of the main loop. -/
structure Sound (pictures : DecoderPictures) (outputOverride : TwoRealPreviewLoopDecodeOutputOverride)
    (runtime : TwoRealContinuousDecodeRuntime) : Prop where
  session : ∀ session ∈ runtime.startedSession, session.Sound pictures
  distinct : ∀ session ∈ runtime.startedSession, (session.accepted.map inputKey).Nodup
  enqueued : ∀ session ∈ runtime.startedSession, ∀ input ∈ session.accepted,
    inputKey input ∈ runtime.enqueuedKeys
  reported : ∀ session ∈ runtime.session, session.HaltReported
  disabled : runtime.runtimeDisabled = true → runtime.session = none
  stopped : runtime.runtimeDisabled = false → runtime.stoppedSession = none
  unshaped : runtime.runtimeDisabled = false → runtime.session = none → runtime.Unshaped outputOverride

section Sound

variable {pictures : DecoderPictures} {outputOverride : TwoRealPreviewLoopDecodeOutputOverride}
  {runtime : TwoRealContinuousDecodeRuntime}

theorem sound_new (pictures : DecoderPictures) (source : TwoRealContinuousDecodeSource)
    (outputOverride : TwoRealPreviewLoopDecodeOutputOverride) (config : TwoRealContinuousDecodeConfig) :
    (new source outputOverride config).Sound pictures outputOverride := by
  have hnone : ∀ session, session ∉ (new source outputOverride config).startedSession :=
    fun session => Option.not_mem_none session
  refine ⟨fun session h => absurd h (hnone session), fun session h => absurd h (hnone session),
    fun session h => absurd h (hnone session), fun session h => absurd h (hnone session), ?_, ?_, ?_⟩
  · exact fun _ => rfl
  · exact fun _ => rfl
  · exact fun _ _ => ⟨rfl, rfl, rfl⟩

theorem startedSession_of_session {session : TwoRealContinuousDecodeSession}
    (h : runtime.session = some session) : runtime.startedSession = some session := by
  rw [startedSession, h, Option.some_or]

theorem startedSession_disable (runtime : TwoRealContinuousDecodeRuntime) (reason : String) :
    (runtime.disable reason).startedSession = runtime.startedSession := Option.none_or

/-- A disabled runtime is as sound as the session it leaves behind. -/
theorem Sound.of_disabled (h : runtime.Sound pictures outputOverride)
    {disabled : TwoRealContinuousDecodeRuntime} (hstarted : disabled.startedSession = runtime.startedSession)
    (hkeys : disabled.enqueuedKeys = runtime.enqueuedKeys) (hdisabled : disabled.runtimeDisabled = true)
    (hsession : disabled.session = none) : disabled.Sound pictures outputOverride := by
  have hnot : ¬disabled.runtimeDisabled = false := by
    rw [hdisabled]
    decide
  refine ⟨?_, ?_, ?_, fun session hmem => ?_, fun _ => hsession, fun hrunning => absurd hrunning hnot,
    fun hrunning => absurd hrunning hnot⟩
  · rw [hstarted]
    exact h.session
  · rw [hstarted]
    exact h.distinct
  · rw [hstarted, hkeys]
    exact h.enqueued
  · rw [hsession] at hmem
    exact absurd hmem (Option.not_mem_none session)

theorem Sound.disable (h : runtime.Sound pictures outputOverride) (reason : String) :
    (runtime.disable reason).Sound pictures outputOverride :=
  h.of_disabled (startedSession_disable runtime reason) rfl rfl rfl

/-- A session in the place of the one that runs. -/
theorem Sound.withSession (h : runtime.Sound pictures outputOverride) {session : TwoRealContinuousDecodeSession}
    (hrunning : runtime.runtimeDisabled = false) (hsession : session.Sound pictures)
    (hdistinct : (session.accepted.map inputKey).Nodup)
    {enqueuedKeys : Finset TwoRealPreviewLoopDecodeCacheKey}
    (henqueued : ∀ input ∈ session.accepted, inputKey input ∈ enqueuedKeys)
    (hreported : session.HaltReported) :
    Sound pictures outputOverride { runtime with session := some session, enqueuedKeys } := by
  refine ⟨?_, ?_, ?_, ?_, fun hdisabled => ?_, fun hrunning => h.stopped hrunning, nofun⟩
  · intro session' hsession'
    cases hsession'
    exact hsession
  · intro session' hsession'
    cases hsession'
    exact hdistinct
  · intro session' hsession'
    cases hsession'
    exact henqueued
  · intro session' hsession'
    cases hsession'
    exact hreported
  · exact absurd (hdisabled.symm.trans hrunning) (by decide)

theorem Sound.running (h : runtime.Sound pictures outputOverride) {session : TwoRealContinuousDecodeSession}
    (hsession : runtime.session = some session) : runtime.runtimeDisabled = false := by
  cases hdisabled : runtime.runtimeDisabled with
  | false => rfl
  | true => cases hsession.symm.trans (h.disabled hdisabled)

theorem Sound.advance (h : runtime.Sound pictures outputOverride) (steps : List ThreadStep) :
    (runtime.advance pictures steps).Sound pictures outputOverride := by
  unfold TwoRealContinuousDecodeRuntime.advance
  cases hsession : runtime.session with
  | none =>
    have hsame : { runtime with session := none } = runtime := by rw [← hsession]
    rw [Option.map_none, hsame]
    exact h
  | some session =>
    have hstarted := startedSession_of_session hsession
    have hsub := session.accepted_advance pictures steps
    exact h.withSession (h.running hsession) ((h.session session hstarted).advance steps)
      ((h.distinct session hstarted).sublist (hsub.map _))
      (fun input hinput => h.enqueued session hstarted input (hsub.subset hinput))
      ((h.reported session hsession).advance pictures steps)

theorem ensureOutputShape_sized (h : runtime.Unshaped outputOverride) (input : SwitcherH264DecodeInput) :
    (runtime.ensureOutputShape (runtime.continuousInput outputOverride input)).outputExpectedLen =
      runtime.config.outputPipelineExperimentMode.outputFrameBytes
        (runtime.continuousInput outputOverride input).width
        (runtime.continuousInput outputOverride input).height := by
  unfold ensureOutputShape
  split
  next => rfl
  next hshape =>
    have hstatic : runtime.config.usesDynamicSourceSizeOutput = false := by
      by_contra hdynamic
      rw [Bool.not_eq_false] at hdynamic
      exact hshape ⟨hdynamic, .inl (by rw [h.width, if_pos hdynamic])⟩
    have hinput : runtime.continuousInput outputOverride input = applyOutputOverride outputOverride input := by
      rw [continuousInput, hstatic]
      rfl
    rw [h.expectedLen, h.width, h.height, hstatic, hinput]
    rfl

theorem Sound.ensureOutputShape_disable (h : runtime.Sound pictures outputOverride)
    (input : SwitcherH264DecodeInput) (reason : String) :
    ((runtime.ensureOutputShape input).disable reason).Sound pictures outputOverride := by
  unfold ensureOutputShape
  split
  next => exact h.of_disabled (startedSession_disable runtime reason) rfl rfl rfl
  next => exact h.disable reason

theorem ensureOutputShape_session (runtime : TwoRealContinuousDecodeRuntime) (input : SwitcherH264DecodeInput) :
    (runtime.ensureOutputShape input).session = runtime.session ∧
      (runtime.ensureOutputShape input).stoppedSession = runtime.stoppedSession ∧
      (runtime.ensureOutputShape input).runtimeDisabled = runtime.runtimeDisabled ∧
      (runtime.ensureOutputShape input).enqueuedKeys = runtime.enqueuedKeys ∧
      (runtime.ensureOutputShape input).config = runtime.config := by
  unfold ensureOutputShape
  split <;> exact ⟨rfl, rfl, rfl, rfl, rfl⟩

end Sound

/-- What `ensure_started` can come to. -/
inductive StartOutcome (runtime : TwoRealContinuousDecodeRuntime) (input : SwitcherH264DecodeInput) :
    TwoRealContinuousDecodeRuntime × Except String Unit → Prop where
  | refused (reason) : StartOutcome runtime input (runtime, .error reason)
  | running (h : runtime.session.isSome = true) : StartOutcome runtime input (runtime, .ok ())
  | started (hdisabled : runtime.runtimeDisabled = false) (hsession : runtime.session = none) :
    StartOutcome runtime input ((runtime.ensureOutputShape input).startSession input, .ok ())
  | spawnFailed (reason) :
    StartOutcome runtime input ((runtime.ensureOutputShape input).disable reason, .error reason)

theorem ensureStarted_outcome (runtime : TwoRealContinuousDecodeRuntime) (input : SwitcherH264DecodeInput)
    (spawn : SpawnResult) : StartOutcome runtime input (runtime.ensureStarted input spawn) := by
  unfold ensureStarted
  split
  next => exact .refused _
  next hdisabled =>
    split
    next hsession =>
      split
      next => exact .refused _
      next => exact .running hsession
    next hsession =>
      dsimp only
      split
      next => exact .refused _
      next =>
        cases spawn with
        | spawned => exact .started (Bool.eq_false_iff.mpr hdisabled) (by simpa using hsession)
        | notFound => exact .spawnFailed _
        | failed error => exact .spawnFailed _

section Enqueue

variable {pictures : DecoderPictures} {outputOverride : TwoRealPreviewLoopDecodeOutputOverride}
  {runtime : TwoRealContinuousDecodeRuntime}

theorem Sound.started (h : runtime.Sound pictures outputOverride) (hdisabled : runtime.runtimeDisabled = false)
    (hsession : runtime.session = none) (input : SwitcherH264DecodeInput) :
    let resized := runtime.continuousInput outputOverride input
    ((runtime.ensureOutputShape resized).startSession resized).Sound pictures outputOverride := by
  intro resized
  have hsized := ensureOutputShape_sized (h.unshaped hdisabled hsession) input
  obtain ⟨-, hstopped, hrunning, -, hconfig⟩ := ensureOutputShape_session runtime resized
  refine ⟨?_, ?_, ?_, ?_, fun hdisabled' => ?_, fun _ => ?_, nofun⟩
  · intro session hstarted
    cases hstarted
    rw [hconfig]
    exact TwoRealContinuousDecodeSession.sound_spawn pictures hsized
  · intro session hstarted
    cases hstarted
    exact List.nodup_nil
  · intro session hstarted input hinput
    cases hstarted
    cases hinput
  · intro session hstarted
    cases hstarted
    rintro (hwriter | hreader)
    · cases hwriter
    · cases hreader
  · exact absurd (hdisabled'.symm.trans (hrunning.trans hdisabled)) (by decide)
  · exact hstopped.trans (h.stopped hdisabled)

theorem Sound.ensureStarted (h : runtime.Sound pictures outputOverride) (input : SwitcherH264DecodeInput)
    (spawn : SpawnResult) :
    (runtime.ensureStarted (runtime.continuousInput outputOverride input) spawn).1.Sound pictures
      outputOverride := by
  have houtcome := runtime.ensureStarted_outcome (runtime.continuousInput outputOverride input) spawn
  generalize runtime.ensureStarted (runtime.continuousInput outputOverride input) spawn = result at houtcome ⊢
  cases houtcome with
  | refused reason => exact h
  | running _ => exact h
  | started hdisabled hsession => exact h.started hdisabled hsession input
  | spawnFailed reason => exact h.ensureOutputShape_disable _ reason

theorem ensureStarted_enqueuedKeys (input : SwitcherH264DecodeInput) (spawn : SpawnResult) :
    (runtime.ensureStarted input spawn).1.enqueuedKeys = runtime.enqueuedKeys := by
  have houtcome := runtime.ensureStarted_outcome input spawn
  generalize runtime.ensureStarted input spawn = result at houtcome ⊢
  cases houtcome with
  | refused reason => rfl
  | running _ => rfl
  | started _ _ => exact (ensureOutputShape_session _ input).2.2.2.1
  | spawnFailed reason => exact (ensureOutputShape_session _ input).2.2.2.1

end Enqueue

/-- What `enqueue` can come to. -/
inductive EnqueueOutcome (runtime : TwoRealContinuousDecodeRuntime) (input : SwitcherH264DecodeInput)
    (key : TwoRealPreviewLoopDecodeCacheKey) (spawn : SpawnResult) :
    TwoRealContinuousDecodeRuntime × TwoRealContinuousDecodeEnqueueResult → Prop where
  | disabled (h : runtime.runtimeDisabled = true) :
    EnqueueOutcome runtime input key spawn (runtime, .skippedRuntimeDisabled)
  | duplicate (h : key ∈ runtime.enqueuedKeys) :
    EnqueueOutcome runtime input key spawn (runtime, .skippedDuplicate)
  | mismatch (h : input.sourceIdentity = none) :
    EnqueueOutcome runtime input key spawn (runtime, .skippedSourceMismatch)
  | notReady (error) (h : (runtime.ensureStarted input spawn).2 = .error error) :
    EnqueueOutcome runtime input key spawn
      ((runtime.ensureStarted input spawn).1, .skippedStartupNotReady)
  | noSession (hready : (runtime.ensureStarted input spawn).2 = .ok ())
      (h : (runtime.ensureStarted input spawn).1.session = none) :
    EnqueueOutcome runtime input key spawn
      ((runtime.ensureStarted input spawn).1, .skippedRuntimeDisabled)
  | enqueued (hfresh : key ∉ runtime.enqueuedKeys) (source) (hsource : input.sourceIdentity = some source)
      (session session') (hsession : (runtime.ensureStarted input spawn).1.session = some session)
      (hsend : session.trySend ⟨⟨key, source.frameId⟩, input.encodedPayload⟩ = .sent session') :
    EnqueueOutcome runtime input key spawn
      ({ (runtime.ensureStarted input spawn).1 with
          session := some session'
          enqueuedKeys := insert key (runtime.ensureStarted input spawn).1.enqueuedKeys }, .enqueued)
  | full (session) (hsession : (runtime.ensureStarted input spawn).1.session = some session)
      (hfull : continuousDecodeQueueBound ≤ session.inputQueue.length) :
    EnqueueOutcome runtime input key spawn
      ((runtime.ensureStarted input spawn).1, .droppedInputQueueFull)
  | disconnected (session) (hsession : (runtime.ensureStarted input spawn).1.session = some session)
      (hwriter : session.writer = .stopped) :
    EnqueueOutcome runtime input key spawn
      ((runtime.ensureStarted input spawn).1.disable "continuous_input_writer_disconnected", .disconnected)

theorem enqueue_outcome (runtime : TwoRealContinuousDecodeRuntime) (input : SwitcherH264DecodeInput)
    (key : TwoRealPreviewLoopDecodeCacheKey) (spawn : SpawnResult) :
    EnqueueOutcome runtime input key spawn (runtime.enqueue input key spawn) := by
  unfold enqueue
  split
  next hdisabled => exact .disabled hdisabled
  next =>
    split
    next hkey => exact .duplicate hkey
    next hfresh =>
      split
      next hsource => exact .mismatch hsource
      next source hsource =>
        split
        next ensured error hensured =>
          obtain rfl : (runtime.ensureStarted input spawn).1 = ensured := congrArg Prod.fst hensured
          exact .notReady error (congrArg Prod.snd hensured)
        next ensured hensured =>
          obtain rfl : (runtime.ensureStarted input spawn).1 = ensured := congrArg Prod.fst hensured
          have hready : (runtime.ensureStarted input spawn).2 = .ok () := congrArg Prod.snd hensured
          split
          next hsession => exact .noSession hready hsession
          next session hsession =>
            split
            next session' hsend =>
              exact .enqueued hfresh source hsource session session' hsession hsend
            next hsend => exact .full session hsession (TwoRealContinuousDecodeSession.le_of_trySend_full hsend)
            next hsend =>
              exact .disconnected session hsession
                (TwoRealContinuousDecodeSession.stopped_of_trySend_disconnected hsend)

theorem Sound.enqueue {pictures : DecoderPictures} {outputOverride : TwoRealPreviewLoopDecodeOutputOverride}
    {runtime : TwoRealContinuousDecodeRuntime} (h : runtime.Sound pictures outputOverride)
    (input : SwitcherH264DecodeInput) (key : TwoRealPreviewLoopDecodeCacheKey) (spawn : SpawnResult) :
    (runtime.enqueue (runtime.continuousInput outputOverride input) key spawn).1.Sound pictures
      outputOverride := by
  have hensured := h.ensureStarted input spawn
  have hkeys := runtime.ensureStarted_enqueuedKeys (runtime.continuousInput outputOverride input) spawn
  have houtcome := runtime.enqueue_outcome (runtime.continuousInput outputOverride input) key spawn
  generalize runtime.enqueue (runtime.continuousInput outputOverride input) key spawn = result at houtcome ⊢
  cases houtcome with
  | disabled _ => exact h
  | duplicate _ => exact h
  | mismatch _ => exact h
  | notReady _ _ => exact hensured
  | noSession _ _ => exact hensured
  | full _ _ _ => exact hensured
  | disconnected _ _ _ => exact hensured.disable _
  | enqueued hfresh source hsource session session' hsession hsend =>
    have hstarted := startedSession_of_session hsession
    have haccepted := TwoRealContinuousDecodeSession.accepted_trySend hsend
    have hold := hensured.enqueued session hstarted
    refine hensured.withSession (hensured.running hsession) ((hensured.session session hstarted).trySend hsend)
      ?_ ?_ ((hensured.reported session hsession).trySend hsend)
    · rw [haccepted, List.map_append, List.nodup_append]
      refine ⟨hensured.distinct session hstarted, by simp, ?_⟩
      rintro _ hmem _ hnew rfl
      obtain ⟨input, hinput, heq⟩ := List.mem_map.mp hmem
      rw [List.map_singleton, List.mem_singleton] at hnew
      have henqueued := hold input hinput
      rw [heq, hnew, hkeys] at henqueued
      exact hfresh henqueued
    · intro input hinput
      rw [haccepted, List.mem_append, List.mem_singleton] at hinput
      rcases hinput with hinput | rfl
      · exact Finset.mem_insert_of_mem (hold input hinput)
      · exact Finset.mem_insert_self _ _

/-- Every output that the main loop has taken so far. -/
def drainedOutputs (runtime : TwoRealContinuousDecodeRuntime) : List TwoRealContinuousDecodeOutput :=
  (runtime.startedSession.map TwoRealContinuousDecodeSession.drained).getD []

section Drain

variable {pictures : DecoderPictures} {outputOverride : TwoRealPreviewLoopDecodeOutputOverride}
  {runtime : TwoRealContinuousDecodeRuntime} {cache : DecodedCache}
  {stored : Finset TwoRealPreviewLoopDecodeCacheKey}

theorem applyEvents_started (runtime : TwoRealContinuousDecodeRuntime) (cache : DecodedCache)
    (events : List TwoRealContinuousDecodeEvent) :
    (runtime.applyEvents cache events).1.startedSession = runtime.startedSession ∧
      (runtime.applyEvents cache events).1.enqueuedKeys = runtime.enqueuedKeys := by
  induction events generalizing runtime cache with
  | nil => exact ⟨rfl, rfl⟩
  | cons event events ih =>
    obtain ⟨hstarted, hkeys⟩ := ih (runtime.applyEvent cache event).1 (runtime.applyEvent cache event).2
    cases event with
    | decoded output => exact ⟨hstarted, hkeys⟩
    | runtimeError reason => exact ⟨hstarted.trans (startedSession_disable runtime reason), hkeys⟩

/-- Events after the runtime was disabled do not start it again. -/
theorem applyEvents_disabled (runtime : TwoRealContinuousDecodeRuntime) (cache : DecodedCache)
    (events : List TwoRealContinuousDecodeEvent) (hdisabled : runtime.runtimeDisabled = true)
    (hsession : runtime.session = none) :
    (runtime.applyEvents cache events).1.runtimeDisabled = true ∧
      (runtime.applyEvents cache events).1.session = none := by
  induction events generalizing runtime cache with
  | nil => exact ⟨hdisabled, hsession⟩
  | cons event events ih =>
    cases event with
    | decoded output =>
      exact ih (runtime.applyEvent cache (.decoded output)).1 (runtime.applyEvent cache (.decoded output)).2
        hdisabled hsession
    | runtimeError reason => exact ih (runtime.disable reason) cache rfl rfl

theorem applyEvents_error (runtime : TwoRealContinuousDecodeRuntime) (cache : DecodedCache)
    {events : List TwoRealContinuousDecodeEvent} {reason : String} (h : .runtimeError reason ∈ events) :
    (runtime.applyEvents cache events).1.runtimeDisabled = true ∧
      (runtime.applyEvents cache events).1.session = none := by
  obtain ⟨before, after, rfl⟩ := List.append_of_mem h
  unfold applyEvents
  rw [List.foldl_append, List.foldl_cons]
  exact applyEvents_disabled (TwoRealContinuousDecodeRuntime.disable _ reason) _ after rfl rfl

theorem applyEvents_decoded (runtime : TwoRealContinuousDecodeRuntime) (cache : DecodedCache)
    {events : List TwoRealContinuousDecodeEvent} (h : ∀ reason, .runtimeError reason ∉ events) :
    (runtime.applyEvents cache events).1.runtimeDisabled = runtime.runtimeDisabled ∧
      (runtime.applyEvents cache events).1.session = runtime.session ∧
      (runtime.applyEvents cache events).1.stoppedSession = runtime.stoppedSession := by
  induction events generalizing runtime cache with
  | nil => exact ⟨rfl, rfl, rfl⟩
  | cons event events ih =>
    cases event with
    | decoded output =>
      exact ih (runtime.applyEvent cache (.decoded output)).1 (runtime.applyEvent cache (.decoded output)).2
        fun reason hreason => h reason (List.mem_cons_of_mem _ hreason)
    | runtimeError reason => exact absurd List.mem_cons_self (h reason)

theorem Sound.applyEvents_decoded (h : runtime.Sound pictures outputOverride)
    {events : List TwoRealContinuousDecodeEvent} (hdecoded : ∀ reason, .runtimeError reason ∉ events) :
    (runtime.applyEvents cache events).1.Sound pictures outputOverride := by
  induction events generalizing runtime cache with
  | nil => exact h
  | cons event events ih =>
    have hlater : ∀ reason, .runtimeError reason ∉ events :=
      fun reason hreason => hdecoded reason (List.mem_cons_of_mem _ hreason)
    cases event with
    | decoded output =>
      have hnext : (runtime.applyEvent cache (.decoded output)).1.Sound pictures outputOverride :=
        ⟨h.session, h.distinct, h.enqueued, h.reported, h.disabled, h.stopped,
          fun hrunning hsession =>
            ⟨(h.unshaped hrunning hsession).width, (h.unshaped hrunning hsession).height,
              (h.unshaped hrunning hsession).expectedLen⟩⟩
      exact ih hnext hlater
    | runtimeError reason => exact absurd List.mem_cons_self (hdecoded reason)

/-- A session whose threads have not halted is drained and goes on; one whose thread has halted is
stopped by the error event that the drain finds. -/
theorem Sound.drainOutputs (h : runtime.Sound pictures outputOverride) :
    (runtime.drainOutputs cache).1.Sound pictures outputOverride := by
  unfold TwoRealContinuousDecodeRuntime.drainOutputs
  cases hsession : runtime.session with
  | none => exact h
  | some session =>
    dsimp only
    have hstarted := startedSession_of_session hsession
    have hsound := (h.session session hstarted).takeEvents
    by_cases herror : ∃ reason, .runtimeError reason ∈ session.outputQueue
    · obtain ⟨reason, hreason⟩ := herror
      obtain ⟨hdrained, hkeys⟩ := applyEvents_started { runtime with session := some session.takeEvents.2 }
        cache session.outputQueue
      obtain ⟨hdisabled, hstopped⟩ := applyEvents_error { runtime with session := some session.takeEvents.2 }
        cache hreason
      refine ⟨?_, ?_, ?_, ?_, fun _ => hstopped, ?_, ?_⟩
      · intro drained hmem
        cases hdrained.symm.trans hmem
        exact hsound
      · intro drained hmem
        cases hdrained.symm.trans hmem
        exact h.distinct session hstarted
      · intro drained hmem
        cases hdrained.symm.trans hmem
        intro input hinput
        have henqueued := h.enqueued session hstarted input hinput
        rw [← hkeys] at henqueued
        exact henqueued
      · intro drained hmem
        cases hstopped.symm.trans hmem
      · intro hrunning
        exact absurd (hdisabled.symm.trans hrunning) (by decide)
      · intro hrunning
        exact absurd (hdisabled.symm.trans hrunning) (by decide)
    · have hreported : session.takeEvents.2.HaltReported :=
        fun hhalted => absurd (h.reported session hsession hhalted) herror
      have hnext := h.withSession (h.running hsession) hsound (h.distinct session hstarted)
        (h.enqueued session hstarted) hreported
      exact hnext.applyEvents_decoded fun reason hreason => herror ⟨reason, hreason⟩

/-- A drain finds what was sent and not yet drained. -/
theorem drainedOutputs_drainOutputs :
    (runtime.drainOutputs cache).1.drainedOutputs =
      match runtime.session with
      | some session => session.sent
      | none => runtime.drainedOutputs := by
  unfold TwoRealContinuousDecodeRuntime.drainOutputs
  cases hsession : runtime.session with
  | none => rfl
  | some session =>
    dsimp only
    unfold drainedOutputs
    rw [(applyEvents_started { runtime with session := some session.takeEvents.2 } cache
      session.takeEvents.1).1]
    rfl

/-- The outputs of a session have the keys of its access units, in order. -/
theorem Sound.sublist_sent (h : runtime.Sound pictures outputOverride) {session : TwoRealContinuousDecodeSession}
    (hstarted : runtime.startedSession = some session) :
    (session.sent.map outputKey).Sublist (session.accepted.map inputKey) := by
  have hpaired := (h.session session hstarted).paired
  have hkeys : (session.completed.map outputKey).Sublist (session.accepted.map inputKey) := by
    have hmap := congrArg (List.map TwoRealContinuousDecodeMetadata.key) hpaired
    rw [List.map_append, List.map_map, List.map_map] at hmap
    have hprefix : session.completed.map outputKey <+: session.handed.map inputKey := ⟨_, hmap.symm⟩
    refine hprefix.sublist.trans (List.Sublist.map _ ?_)
    unfold TwoRealContinuousDecodeSession.accepted
    rw [List.append_assoc]
    exact List.sublist_append_left _ _
  refine List.Sublist.trans (List.Sublist.map _ ?_) hkeys
  exact List.sublist_append_left _ _

theorem Sound.nodup_sent (h : runtime.Sound pictures outputOverride) {session : TwoRealContinuousDecodeSession}
    (hstarted : runtime.startedSession = some session) : (session.sent.map outputKey).Nodup :=
  (h.distinct session hstarted).sublist (h.sublist_sent hstarted)

theorem cacheInStep_drainOutputs (h : runtime.Sound pictures outputOverride)
    (hcache : CacheInStep runtime.drainedOutputs stored runtime cache) :
    CacheInStep (runtime.drainOutputs cache).1.drainedOutputs stored (runtime.drainOutputs cache).1
      (runtime.drainOutputs cache).2 := by
  rw [drainedOutputs_drainOutputs]
  unfold TwoRealContinuousDecodeRuntime.drainOutputs
  cases hsession : runtime.session with
  | none => exact hcache
  | some session =>
    dsimp only
    have hstarted := startedSession_of_session hsession
    have hdrained : runtime.drainedOutputs = session.drained := by
      rw [drainedOutputs, hstarted]
      rfl
    rw [hdrained] at hcache
    exact CacheInStep.applyEvents ⟨hcache.order, hcache.decodedKeys, hcache.present, hcache.only⟩
      (h.nodup_sent hstarted)

end Drain

section Frame

variable {outputOverride : TwoRealPreviewLoopDecodeOutputOverride} {runtime : TwoRealContinuousDecodeRuntime}

/-- What the key order, the key set and the drained outputs are is not touched. -/
structure SameDrained (runtime runtime' : TwoRealContinuousDecodeRuntime) : Prop where
  order : runtime'.continuousKeyOrder = runtime.continuousKeyOrder
  decodedKeys : runtime'.continuousDecodedKeys = runtime.continuousDecodedKeys
  drained : runtime'.drainedOutputs = runtime.drainedOutputs

theorem SameDrained.cacheInStep {runtime' : TwoRealContinuousDecodeRuntime}
    (h : SameDrained runtime runtime') {stored : Finset TwoRealPreviewLoopDecodeCacheKey}
    {cache : DecodedCache} (hcache : CacheInStep runtime.drainedOutputs stored runtime cache) :
    CacheInStep runtime'.drainedOutputs stored runtime' cache := by
  rw [h.drained]
  refine ⟨h.order.trans hcache.order, ?_, hcache.present, ?_⟩
  · rw [h.decodedKeys, h.order]
    exact hcache.decodedKeys
  · rw [h.order]
    exact hcache.only

theorem sameDrained_disable (runtime : TwoRealContinuousDecodeRuntime) (reason : String) :
    SameDrained runtime (runtime.disable reason) :=
  ⟨rfl, rfl, by rw [drainedOutputs, startedSession_disable, drainedOutputs]⟩

theorem drained_advance (pictures : DecoderPictures) (session : TwoRealContinuousDecodeSession)
    (steps : List ThreadStep) : (session.advance pictures steps).drained = session.drained :=
  TwoRealContinuousDecodeSession.advance_keeps (P := fun later => later.drained = session.drained)
    (fun _ _ hmove hlater => by cases hmove <;> exact hlater) rfl steps

theorem sameDrained_advance (pictures : DecoderPictures) (steps : List ThreadStep) :
    SameDrained runtime (runtime.advance pictures steps) := by
  refine ⟨rfl, rfl, ?_⟩
  unfold drainedOutputs startedSession TwoRealContinuousDecodeRuntime.advance
  cases runtime.session with
  | none => rfl
  | some session => exact drained_advance pictures session steps

theorem sameDrained_ensureStarted (hstopped : runtime.runtimeDisabled = false → runtime.stoppedSession = none)
    (input : SwitcherH264DecodeInput) (spawn : SpawnResult) :
    SameDrained runtime (runtime.ensureStarted input spawn).1 := by
  have houtcome := runtime.ensureStarted_outcome input spawn
  generalize runtime.ensureStarted input spawn = result at houtcome ⊢
  have hshape : SameDrained runtime (runtime.ensureOutputShape input) := by
    unfold ensureOutputShape
    split <;> exact ⟨rfl, rfl, rfl⟩
  cases houtcome with
  | refused reason => exact ⟨rfl, rfl, rfl⟩
  | running _ => exact ⟨rfl, rfl, rfl⟩
  | started hdisabled hsession =>
    refine ⟨hshape.order, hshape.decodedKeys, ?_⟩
    have hnone : runtime.drainedOutputs = [] := by
      rw [drainedOutputs, startedSession, hsession, hstopped hdisabled]
      rfl
    rw [hnone]
    rfl
  | spawnFailed reason =>
    have hdisable := sameDrained_disable (runtime.ensureOutputShape input) reason
    exact ⟨hdisable.order.trans hshape.order, hdisable.decodedKeys.trans hshape.decodedKeys,
      hdisable.drained.trans hshape.drained⟩

theorem sameDrained_enqueue (hstopped : runtime.runtimeDisabled = false → runtime.stoppedSession = none)
    (input : SwitcherH264DecodeInput) (key : TwoRealPreviewLoopDecodeCacheKey) (spawn : SpawnResult) :
    SameDrained runtime (runtime.enqueue input key spawn).1 := by
  have hensured := sameDrained_ensureStarted hstopped input spawn
  have houtcome := runtime.enqueue_outcome input key spawn
  generalize runtime.enqueue input key spawn = result at houtcome ⊢
  cases houtcome with
  | disabled _ => exact ⟨rfl, rfl, rfl⟩
  | duplicate _ => exact ⟨rfl, rfl, rfl⟩
  | mismatch _ => exact ⟨rfl, rfl, rfl⟩
  | notReady _ _ => exact hensured
  | noSession _ _ => exact hensured
  | full _ _ _ => exact hensured
  | disconnected _ _ _ =>
    have hdisable := sameDrained_disable (runtime.ensureStarted input spawn).1
      "continuous_input_writer_disconnected"
    exact ⟨hdisable.order.trans hensured.order, hdisable.decodedKeys.trans hensured.decodedKeys,
      hdisable.drained.trans hensured.drained⟩
  | enqueued _ source _ session session' hsession hsend =>
    refine ⟨hensured.order, hensured.decodedKeys, ?_⟩
    rw [← hensured.drained, drainedOutputs, drainedOutputs, startedSession_of_session hsession,
      startedSession_of_session rfl, (TwoRealContinuousDecodeSession.trySend_sent hsend).2]
    rfl

theorem sameDrained_enqueueInput (hstopped : runtime.runtimeDisabled = false → runtime.stoppedSession = none)
    (input : SwitcherH264DecodeInput) (spawn : SpawnResult) :
    SameDrained runtime (runtime.enqueueInput outputOverride input spawn).1 := by
  unfold enqueueInput
  split
  next => exact sameDrained_enqueue hstopped _ _ _
  next => exact ⟨rfl, rfl, rfl⟩

theorem Sound.enqueueInput {pictures : DecoderPictures} (h : runtime.Sound pictures outputOverride)
    (input : SwitcherH264DecodeInput) (spawn : SpawnResult) :
    (runtime.enqueueInput outputOverride input spawn).1.Sound pictures outputOverride := by
  unfold TwoRealContinuousDecodeRuntime.enqueueInput
  split
  next => exact h.enqueue input _ spawn
  next => exact h

end Frame

end TwoRealContinuousDecodeRuntime

end StreamSync
