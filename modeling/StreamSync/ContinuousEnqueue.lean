import StreamSync.ContinuousDecoding

namespace StreamSync

namespace TwoRealContinuousDecodeRuntime

/-- The access units that were put into the decoder's input, but for those a stopped writer dropped. -/
def accepted (runtime : TwoRealContinuousDecodeRuntime) : List TwoRealContinuousDecodeInput :=
  (runtime.startedSession.map TwoRealContinuousDecodeSession.accepted).getD []

theorem accepted_of_session {runtime : TwoRealContinuousDecodeRuntime} {session : TwoRealContinuousDecodeSession}
    (h : runtime.session = some session) : runtime.accepted = session.accepted := by
  rw [accepted, startedSession_of_session h]
  rfl

/-- Nothing is put into the decoder's input. -/
structure NothingEnqueued (runtime runtime' : TwoRealContinuousDecodeRuntime) : Prop where
  source : runtime'.source = runtime.source
  enqueuedKeys : runtime'.enqueuedKeys = runtime.enqueuedKeys
  accepted : runtime'.accepted.Sublist runtime.accepted

section NothingEnqueued

variable {runtime runtime' runtime'' : TwoRealContinuousDecodeRuntime}

theorem NothingEnqueued.refl (runtime : TwoRealContinuousDecodeRuntime) : NothingEnqueued runtime runtime :=
  ⟨rfl, rfl, List.Sublist.refl _⟩

theorem NothingEnqueued.trans (h : NothingEnqueued runtime runtime') (h' : NothingEnqueued runtime' runtime'') :
    NothingEnqueued runtime runtime'' :=
  ⟨h'.source.trans h.source, h'.enqueuedKeys.trans h.enqueuedKeys, h'.accepted.trans h.accepted⟩

theorem nothingEnqueued_of_started (hsource : runtime'.source = runtime.source)
    (hkeys : runtime'.enqueuedKeys = runtime.enqueuedKeys)
    (hstarted : runtime'.startedSession = runtime.startedSession) : NothingEnqueued runtime runtime' := by
  refine ⟨hsource, hkeys, ?_⟩
  rw [TwoRealContinuousDecodeRuntime.accepted, hstarted]
  exact List.Sublist.refl _

theorem nothingEnqueued_advance (pictures : DecoderPictures) (runtime : TwoRealContinuousDecodeRuntime)
    (steps : List ThreadStep) : NothingEnqueued runtime (runtime.advance pictures steps) := by
  refine ⟨rfl, rfl, ?_⟩
  unfold TwoRealContinuousDecodeRuntime.accepted startedSession advance
  cases runtime.session with
  | none => exact List.Sublist.refl _
  | some session => exact session.accepted_advance pictures steps

theorem nothingEnqueued_disable (runtime : TwoRealContinuousDecodeRuntime) (reason : String) :
    NothingEnqueued runtime (runtime.disable reason) :=
  nothingEnqueued_of_started rfl rfl (startedSession_disable runtime reason)

theorem nothingEnqueued_ensureOutputShape (runtime : TwoRealContinuousDecodeRuntime)
    (input : SwitcherH264DecodeInput) : NothingEnqueued runtime (runtime.ensureOutputShape input) := by
  unfold ensureOutputShape
  split
  next => exact nothingEnqueued_of_started rfl rfl rfl
  next => exact .refl runtime

/-- A session that starts has nothing in its input yet. -/
theorem nothingEnqueued_ensureStarted (runtime : TwoRealContinuousDecodeRuntime)
    (input : SwitcherH264DecodeInput) (spawn : SpawnResult) :
    NothingEnqueued runtime (runtime.ensureStarted input spawn).1 := by
  have hshape := nothingEnqueued_ensureOutputShape runtime input
  have houtcome := runtime.ensureStarted_outcome input spawn
  generalize runtime.ensureStarted input spawn = result at houtcome ⊢
  cases houtcome with
  | refused reason => exact .refl runtime
  | running _ => exact .refl runtime
  | started hdisabled hsession =>
    refine ⟨hshape.source, hshape.enqueuedKeys, ?_⟩
    exact List.nil_sublist _
  | spawnFailed reason => exact hshape.trans (nothingEnqueued_disable _ reason)

theorem nothingEnqueued_applyEvents (runtime : TwoRealContinuousDecodeRuntime) (cache : DecodedCache)
    (events : List TwoRealContinuousDecodeEvent) :
    NothingEnqueued runtime (runtime.applyEvents cache events).1 := by
  induction events generalizing runtime cache with
  | nil => exact .refl runtime
  | cons event events ih =>
    have hlater := ih (runtime.applyEvent cache event).1 (runtime.applyEvent cache event).2
    have hevent : NothingEnqueued runtime (runtime.applyEvent cache event).1 := by
      cases event with
      | decoded output => exact nothingEnqueued_of_started rfl rfl rfl
      | runtimeError reason => exact nothingEnqueued_disable runtime reason
    exact hevent.trans hlater

theorem nothingEnqueued_drainOutputs (runtime : TwoRealContinuousDecodeRuntime) (cache : DecodedCache) :
    NothingEnqueued runtime (runtime.drainOutputs cache).1 := by
  unfold drainOutputs
  cases hsession : runtime.session with
  | none => exact .refl runtime
  | some session =>
    have htaken : NothingEnqueued runtime { runtime with session := some session.takeEvents.2 } := by
      refine ⟨rfl, rfl, ?_⟩
      rw [accepted_of_session hsession]
      exact List.Sublist.refl _
    exact htaken.trans (nothingEnqueued_applyEvents _ cache session.takeEvents.1)

end NothingEnqueued

/-- One access unit of the runtime's source is put into the decoder's input, under a key that was not
there. -/
structure Enqueues (runtime : TwoRealContinuousDecodeRuntime) (input : SwitcherH264DecodeInput)
    (key : TwoRealPreviewLoopDecodeCacheKey) (runtime' : TwoRealContinuousDecodeRuntime) : Prop where
  source : runtime'.source = runtime.source
  fresh : key ∉ runtime.enqueuedKeys
  enqueuedKeys : runtime'.enqueuedKeys = insert key runtime.enqueuedKeys
  accepted : ∃ identity, input.sourceIdentity = some identity ∧
    runtime'.accepted.Sublist (runtime.accepted ++ [⟨⟨key, identity.frameId⟩, input.encodedPayload⟩])

theorem enqueue_effect (runtime : TwoRealContinuousDecodeRuntime) (input : SwitcherH264DecodeInput)
    (key : TwoRealPreviewLoopDecodeCacheKey) (spawn : SpawnResult) :
    let next := runtime.enqueue input key spawn
    (next.2 ≠ .enqueued ∧ NothingEnqueued runtime next.1) ∨
      (next.2 = .enqueued ∧ Enqueues runtime input key next.1) := by
  have hensured := nothingEnqueued_ensureStarted runtime input spawn
  have houtcome := runtime.enqueue_outcome input key spawn
  generalize runtime.enqueue input key spawn = next at houtcome ⊢
  dsimp only
  cases houtcome with
  | disabled _ => exact .inl ⟨nofun, .refl runtime⟩
  | duplicate _ => exact .inl ⟨nofun, .refl runtime⟩
  | mismatch _ => exact .inl ⟨nofun, .refl runtime⟩
  | notReady error _ => exact .inl ⟨nofun, hensured⟩
  | noSession _ _ => exact .inl ⟨nofun, hensured⟩
  | full _ _ _ => exact .inl ⟨nofun, hensured⟩
  | disconnected _ _ _ => exact .inl ⟨nofun, hensured.trans (nothingEnqueued_disable _ _)⟩
  | enqueued hfresh source hsource session session' hsession hsend =>
    refine .inr ⟨rfl, hensured.source, hfresh, ?_, source, hsource, ?_⟩
    · rw [← hensured.enqueuedKeys]
    · have haccepted := TwoRealContinuousDecodeSession.accepted_trySend hsend
      have hbefore := hensured.accepted
      rw [accepted_of_session hsession] at hbefore
      rw [accepted_of_session rfl, haccepted]
      exact hbefore.append_right _

theorem enqueueInput_effect (runtime : TwoRealContinuousDecodeRuntime)
    (outputOverride : TwoRealPreviewLoopDecodeOutputOverride) (input : SwitcherH264DecodeInput)
    (spawn : SpawnResult) :
    let next := runtime.enqueueInput outputOverride input spawn
    (next.2 ≠ .enqueued ∧ NothingEnqueued runtime next.1) ∨
      (next.2 = .enqueued ∧ runtime.matchesSource input = true ∧
        Enqueues runtime input (decodeCacheKey (applyOutputOverride outputOverride input)) next.1) := by
  intro next
  have hnext : next = runtime.enqueueInput outputOverride input spawn := rfl
  unfold enqueueInput at hnext
  split at hnext
  next hmatches =>
    have hidentity : (runtime.continuousInput outputOverride input).sourceIdentity = input.sourceIdentity ∧
        (runtime.continuousInput outputOverride input).encodedPayload = input.encodedPayload := by
      unfold continuousInput
      split <;> exact ⟨rfl, rfl⟩
    have heffect := enqueue_effect runtime (runtime.continuousInput outputOverride input)
      (decodeCacheKey (applyOutputOverride outputOverride input)) spawn
    rw [← hnext] at heffect
    rcases heffect with hnothing | ⟨hresult, henqueues⟩
    · exact .inl hnothing
    · obtain ⟨identity, hsource, haccepted⟩ := henqueues.accepted
      rw [hidentity.1] at hsource
      rw [hidentity.2] at haccepted
      exact .inr ⟨hresult, hmatches, henqueues.source, henqueues.fresh, henqueues.enqueuedKeys, identity,
        hsource, haccepted⟩
  next =>
    rw [hnext]
    exact .inl ⟨nofun, .refl runtime⟩

end TwoRealContinuousDecodeRuntime

end StreamSync
