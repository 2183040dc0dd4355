import StreamSync.ContinuousDecoding
import StreamSync.Lib.Run

namespace StreamSync

open Run

/-- The continuous decoder and the cache it fills. -/
structure ContinuousDecodeState where
  runtime : TwoRealContinuousDecodeRuntime
  cache : DecodedCache

/-- What the main loop, the threads and the decoder process do, in any order. -/
inductive ContinuousDecodeAction where
  | thread (step : ThreadStep)
  | enqueue (input : SwitcherH264DecodeInput) (spawn : SpawnResult)
  | drainOutputs

def continuousDecodeStep (pictures : DecoderPictures) (outputOverride : TwoRealPreviewLoopDecodeOutputOverride)
    (state : ContinuousDecodeState) :
    ContinuousDecodeAction → ContinuousDecodeState × Option TwoRealContinuousDecodeEnqueueResult
  | .thread step => ({ state with runtime := state.runtime.advance pictures [step] }, none)
  | .enqueue input spawn =>
    let (runtime, result) := state.runtime.enqueueInput outputOverride input spawn
    ({ state with runtime }, some result)
  | .drainOutputs =>
    let (runtime, cache) := state.runtime.drainOutputs state.cache
    (⟨runtime, cache⟩, none)

/-- Pictures keep the identity of their access units. -/
structure PicturesKeepIdentity (pictures : DecoderPictures) (state : ContinuousDecodeState) : Prop where
  distinct : ∀ session ∈ state.runtime.startedSession, (session.handed.map inputKey).Nodup
  events : ∀ session ∈ state.runtime.startedSession, ∀ (i : Nat) (output : TwoRealContinuousDecodeOutput),
    session.sent[i]? = some output → ∃ input, session.handed[i]? = some input ∧
      output = ⟨input.metadata, session.pictureFrame (pictures session.expectedLen i).toList⟩
  received : ∀ session ∈ state.runtime.startedSession, 0 < session.expectedLen →
    session.sent.length ≤ session.process.received.length ∧
      session.process.received <+: session.handed.map TwoRealContinuousDecodeInput.encodedPayload
  stored : ∀ key frame, state.cache.lookup key = some frame →
    ∃ session ∈ state.runtime.startedSession, ∃ (i : Nat) (input : TwoRealContinuousDecodeInput),
      session.handed[i]? = some input ∧
      inputKey input = key ∧ frame = session.pictureFrame (pictures session.expectedLen i).toList
  drained : ∀ session ∈ state.runtime.session, ∀ (i : Nat) (input : TwoRealContinuousDecodeInput),
    i < session.sent.length →
    session.sent.length ≤ i + continuousDecodeQueueBound → session.handed[i]? = some input →
      (state.runtime.drainOutputs state.cache).2.lookup (inputKey input) =
        some (session.pictureFrame (pictures session.expectedLen i).toList)
  disables : ∀ session ∈ state.runtime.session,
    session.writer.halted = true ∨ session.reader = .stopped ∨
        (∃ reason, .runtimeError reason ∈ session.outputQueue) →
      (state.runtime.drainOutputs state.cache).1.runtimeDisabled = true

section Run

variable {pictures : DecoderPictures} {outputOverride : TwoRealPreviewLoopDecodeOutputOverride}

/-- The runtime and the cache as the main loop finds them. -/
def ContinuousDecodeSound (pictures : DecoderPictures)
    (outputOverride : TwoRealPreviewLoopDecodeOutputOverride) (state : ContinuousDecodeState) : Prop :=
  state.runtime.Sound pictures outputOverride ∧
    CacheInStep state.runtime.drainedOutputs ∅ state.runtime state.cache

theorem continuousDecodeStep_sound {state : ContinuousDecodeState}
    (h : ContinuousDecodeSound pictures outputOverride state) (action : ContinuousDecodeAction) :
    ContinuousDecodeSound pictures outputOverride (continuousDecodeStep pictures outputOverride state action).1 := by
  obtain ⟨hsound, hcache⟩ := h
  cases action with
  | thread step =>
    exact ⟨hsound.advance [step],
      (TwoRealContinuousDecodeRuntime.sameDrained_advance pictures [step]).cacheInStep hcache⟩
  | enqueue input spawn =>
    exact ⟨hsound.enqueueInput input spawn,
      (TwoRealContinuousDecodeRuntime.sameDrained_enqueueInput hsound.stopped input spawn).cacheInStep hcache⟩
  | drainOutputs =>
    exact ⟨hsound.drainOutputs, TwoRealContinuousDecodeRuntime.cacheInStep_drainOutputs hsound hcache⟩

theorem cacheInStep_new (source : TwoRealContinuousDecodeSource)
    (outputOverride : TwoRealPreviewLoopDecodeOutputOverride) (config : TwoRealContinuousDecodeConfig) :
    let runtime := TwoRealContinuousDecodeRuntime.new source outputOverride config
    CacheInStep runtime.drainedOutputs ∅ runtime ∅ := by
  refine ⟨rfl, rfl, nofun, fun key hkey => ?_⟩
  exact absurd hkey (AList.notMem_empty key)

theorem continuousDecodeRun_sound (source : TwoRealContinuousDecodeSource)
    (config : TwoRealContinuousDecodeConfig) (actions : List ContinuousDecodeAction) :
    ContinuousDecodeSound pictures outputOverride
      (run (continuousDecodeStep pictures outputOverride) ⟨.new source outputOverride config, ∅⟩ actions).1 := by
  have hstart : ContinuousDecodeSound pictures outputOverride ⟨.new source outputOverride config, ∅⟩ :=
    ⟨TwoRealContinuousDecodeRuntime.sound_new pictures source outputOverride config,
      cacheInStep_new source outputOverride config⟩
  exact run_invariant (P := fun _ => True)
    (fun _ state _ => ContinuousDecodeSound pictures outputOverride state) hstart
    (fun _ _ _ action _ h => continuousDecodeStep_sound h action) actions fun _ _ => trivial

/-- The outputs that were drained are the first ones that were sent. -/
theorem mem_drainedOutputs {runtime : TwoRealContinuousDecodeRuntime} {output : TwoRealContinuousDecodeOutput}
    (h : output ∈ runtime.drainedOutputs) :
    ∃ session ∈ runtime.startedSession, ∃ i : Nat, session.sent[i]? = some output := by
  unfold TwoRealContinuousDecodeRuntime.drainedOutputs at h
  cases hstarted : runtime.startedSession with
  | none =>
    rw [hstarted] at h
    cases h
  | some session =>
    rw [hstarted] at h
    have hsent : output ∈ session.sent := List.mem_append_left _ h
    obtain ⟨i, hi⟩ := List.mem_iff_getElem?.mp hsent
    exact ⟨session, rfl, i, hi⟩

theorem lookup_drainOutputs {state : ContinuousDecodeState}
    (h : ContinuousDecodeSound pictures outputOverride state) {session : TwoRealContinuousDecodeSession}
    (hsession : state.runtime.session = some session) {i : Nat} {output : TwoRealContinuousDecodeOutput}
    (hout : session.sent[i]? = some output)
    (hrecent : session.sent.length ≤ i + continuousDecodeQueueBound) :
    (state.runtime.drainOutputs state.cache).2.lookup (outputKey output) = some output.frame := by
  have hcache := TwoRealContinuousDecodeRuntime.cacheInStep_drainOutputs h.1 h.2
  rw [TwoRealContinuousDecodeRuntime.drainedOutputs_drainOutputs, hsession] at hcache
  dsimp only at hcache
  refine hcache.present output ?_
  rw [keptOutputs, List.mem_iff_getElem?]
  refine ⟨i - (session.sent.length - continuousDecodeQueueBound), ?_⟩
  rw [List.getElem?_drop, ← hout]
  congr 1
  omega

theorem ContinuousDecodeSound.disables {state : ContinuousDecodeState}
    (h : ContinuousDecodeSound pictures outputOverride state) {session : TwoRealContinuousDecodeSession}
    (hsession : state.runtime.session = some session)
    (hhalted : session.writer.halted = true ∨ session.reader = .stopped ∨
      (∃ reason, .runtimeError reason ∈ session.outputQueue)) :
    (state.runtime.drainOutputs state.cache).1.runtimeDisabled = true := by
  have herror : ∃ reason, .runtimeError reason ∈ session.outputQueue := by
    rcases hhalted with hwriter | hreader | herror
    · exact h.1.reported session hsession (.inl hwriter)
    · exact h.1.reported session hsession (.inr hreader)
    · exact herror
  obtain ⟨reason, hreason⟩ := herror
  unfold TwoRealContinuousDecodeRuntime.drainOutputs
  rw [hsession]
  exact (TwoRealContinuousDecodeRuntime.applyEvents_error _ _ hreason).1

theorem ContinuousDecodeSound.keepsIdentity {state : ContinuousDecodeState}
    (h : ContinuousDecodeSound pictures outputOverride state) : PicturesKeepIdentity pictures state := by
  have hhanded : ∀ session ∈ state.runtime.startedSession, (session.handed.map inputKey).Nodup := by
    intro session hstarted
    refine (h.1.distinct session hstarted).sublist (List.Sublist.map _ ?_)
    unfold TwoRealContinuousDecodeSession.accepted
    rw [List.append_assoc]
    exact List.sublist_append_left _ _
  refine ⟨hhanded, ?_, ?_, ?_, ?_, fun session hsession => h.disables hsession⟩
  · intro session hstarted i output hout
    exact (h.1.session session hstarted).output_eq hout
  · intro session hstarted hpos
    have hsound := h.1.session session hstarted
    exact ⟨hsound.sent_le_received hpos, (List.prefix_append _ _).trans hsound.written⟩
  · intro key frame hlookup
    have hkey : key ∈ state.runtime.continuousKeyOrder := by
      rcases h.2.only key (AList.lookup_isSome.mp (by rw [hlookup]; rfl)) with horder | hstored
      · exact horder
      · exact absurd hstored (Finset.notMem_empty key)
    rw [h.2.order] at hkey
    obtain ⟨output, hkept, rfl⟩ := List.mem_map.mp hkey
    have hframe := (h.2.present output hkept).symm.trans hlookup
    obtain ⟨session, hstarted, i, hout⟩ := mem_drainedOutputs (List.mem_of_mem_drop hkept)
    obtain ⟨input, hinput, rfl⟩ := (h.1.session session hstarted).output_eq hout
    exact ⟨session, hstarted, i, input, hinput, rfl, (Option.some.inj hframe).symm⟩
  · intro session hsession i input hi hrecent hinput
    have hstarted := TwoRealContinuousDecodeRuntime.startedSession_of_session hsession
    obtain ⟨output, hout⟩ : ∃ output, session.sent[i]? = some output := ⟨_, List.getElem?_eq_getElem hi⟩
    have hlookup := lookup_drainOutputs h hsession hout hrecent
    obtain ⟨input', hinput', rfl⟩ := (h.1.session session hstarted).output_eq hout
    cases hinput.symm.trans hinput'
    exact hlookup

/-- For every order of the steps of the main loop, the threads and the process. -/
theorem continuousDecode_keepsIdentity (pictures : DecoderPictures) (source : TwoRealContinuousDecodeSource)
    (outputOverride : TwoRealPreviewLoopDecodeOutputOverride) (config : TwoRealContinuousDecodeConfig)
    (actions : List ContinuousDecodeAction) :
    PicturesKeepIdentity pictures
      (run (continuousDecodeStep pictures outputOverride) ⟨.new source outputOverride config, ∅⟩ actions).1 :=
  (continuousDecodeRun_sound source config actions).keepsIdentity

end Run

end StreamSync
