import StreamSync.ServerHandoff
import StreamSync.TargetTimeSource
import StreamSync.VideoQueueScope

namespace StreamSync

open Effect ServerVideoFrameQueueState

/-- The queue of the server and the counter of the named-pipe handoff that asks it. -/
structure CodecHandoffState where
  queue : ServerVideoFrameQueueState
  nextRequestId : UInt64

inductive CodecHandoffFailure where
  | encodeRequest (error : ServerSwitcherQueuedFrameHandoffCodecError)
  | decodeRequest (error : ServerSwitcherQueuedFrameHandoffCodecError)
  | handler (panic : HandoffLengthPanic)
  | encodeResponse (error : ServerSwitcherQueuedFrameHandoffCodecError)
deriving DecidableEq

/-- One request through the codec, to the server and back. -/
def codecHandoff : QueuedFrameHandoff CodecHandoffState CodecHandoffFailure := fun input state => do
  let requestFrame ← (encodeRequestFrame (buildRequest state.nextRequestId input)).mapError
    CodecHandoffFailure.encodeRequest
  let request ← (decodeRequestFrame requestFrame).mapError CodecHandoffFailure.decodeRequest
  let (response, queue) ← (handleRequest request state.queue).mapError CodecHandoffFailure.handler
  let responseFrame ← (encodeResponseFrame response).mapError CodecHandoffFailure.encodeResponse
  let result :=
    match decodeResponseFrame responseFrame with
    | .ok response => mapResponse input response
    | .error _ => .handoffError input.clientId input.runId input.mode .malformedResponse
  return (result, { queue, nextRequestId := state.nextRequestId + 1 })

/-- An encoding did not succeed, or there was nothing to encode because a length did not fit. -/
def CodecHandoffFailure.NotEncoded : CodecHandoffFailure → Prop
  | .encodeRequest _ => True
  | .decodeRequest _ => False
  | .handler _ => True
  | .encodeResponse _ => True

/-- The handoff result has the content of the source result; an oldest frame is of the client and run
that were asked for. -/
structure ReadAgrees (clientId : ClientId) (runId : RunId) (mode : SwitcherSingleClientQueueSourceMode)
    (sourceResult : SwitcherSingleClientQueueSourceResult) (result : SwitcherQueuedFrameHandoffResult) :
    Prop where
  content : result = .ofSource sourceResult
  scope : mode = .previewOldest → ∀ frame sourceMode len,
    sourceResult = .frameAvailable frame sourceMode len → frame.clientId = clientId ∧ frame.runId = runId

theorem readQueueSource_wellFormed {state : ServerVideoFrameQueueState} (hs : state.WellFormed)
    (input : SwitcherSingleClientQueueSourceInput) : (readQueueSource state input).1.WellFormed := by
  have hread := applyQueueOp_wellFormed hs (.read ⟨input.clientId, input.runId, input.mode.queueReadMode⟩)
  unfold readQueueSource
  change (state.read _).1.WellFormed at hread
  split
  next h =>
    rw [h] at hread
    exact hread
  next h =>
    rw [h] at hread
    exact hread

theorem readQueueSource_scope {state : ServerVideoFrameQueueState} (hs : state.WellFormed)
    {clientId : ClientId} {runId : RunId} {frame : SwitcherSingleViewSelectedEncodedFrame}
    {mode : SwitcherSingleClientQueueSourceMode} {len : Nat}
    (h : (readQueueSource state ⟨clientId, runId, .previewOldest⟩).2 = .frameAvailable frame mode len) :
    frame.clientId = clientId ∧ frame.runId = runId := by
  unfold readQueueSource at h
  split at h
  next state' queued _ _ _ _ _ hread =>
    cases h
    have hframe : (state.read ⟨clientId, runId, .inspectOldest⟩).2.frame? = some queued := by
      change (state.read ⟨clientId, runId, .inspectOldest⟩) = _ at hread
      rw [hread]
      rfl
    have hscope := scope_of_mem_run hs (selectFrame_mem_run (fun h => by cases h) hframe)
    exact Prod.mk.inj hscope
  next => cases h

theorem readAgrees_ofSource {state : ServerVideoFrameQueueState} (hs : state.WellFormed)
    (clientId : ClientId) (runId : RunId) (mode : SwitcherSingleClientQueueSourceMode) :
    let read := readQueueSource state ⟨clientId, runId, mode⟩
    ReadAgrees clientId runId mode read.2 (.ofSource read.2) where
  content := rfl
  scope := by
    rintro rfl frame sourceMode len h
    exact readQueueSource_scope hs h

section Reads

variable {ε δ : Type} {clientId : ClientId} {runId : RunId}

theorem inProcessHandoff_simulates (hclient : isBlank clientId = false) (hrun : isBlank runId = false)
    (mode : SwitcherSingleClientQueueSourceMode) :
    Simulates id WellFormed (fun _ : ε => False) (ReadAgrees clientId runId mode)
      (inProcessHandoff ⟨clientId, runId, mode⟩)
      (inProcessSource (ε := δ) ⟨clientId, runId, mode⟩) := by
  intro state hs
  left
  refine ⟨_, _, _, ?_, rfl, readQueueSource_wellFormed hs _, readAgrees_ofSource hs clientId runId mode⟩
  simp only [inProcessHandoff, hclient, hrun, Bool.or_self, Bool.false_eq_true, if_false]
  rw [bind_of_ok (show inProcessSource ⟨clientId, runId, mode⟩ state = .ok _ from rfl), id_eq]
  generalize (readQueueSource state ⟨clientId, runId, mode⟩).1 = state'
  generalize (readQueueSource state ⟨clientId, runId, mode⟩).2 = result
  cases result <;> rfl

theorem codecHandoff_of_error {input : SwitcherQueuedFrameHandoffInput} {state : CodecHandoffState}
    {requestFrame : List UInt8} {panic : HandoffLengthPanic}
    (hrequest : encodeRequestFrame (buildRequest state.nextRequestId input) = .ok requestFrame)
    (hpanic : handleRequest (buildRequest state.nextRequestId input) state.queue = .error panic) :
    codecHandoff input state = .error (.handler panic) := by
  unfold codecHandoff
  rw [hrequest]
  change ((decodeRequestFrame requestFrame).mapError CodecHandoffFailure.decodeRequest >>= _) = _
  rw [decodeRequestFrame_eq_ok_iff.mpr hrequest]
  change ((handleRequest _ state.queue).mapError CodecHandoffFailure.handler >>= _) = _
  rw [hpanic]
  rfl

theorem codecHandoff_of_handled {input : SwitcherQueuedFrameHandoffInput} {state : CodecHandoffState}
    {requestFrame : List UInt8} {response : ServerSwitcherQueuedFrameHandoffResponse}
    {queue : ServerVideoFrameQueueState}
    (hrequest : encodeRequestFrame (buildRequest state.nextRequestId input) = .ok requestFrame)
    (hhandled : handleRequest (buildRequest state.nextRequestId input) state.queue =
      .ok (response, queue)) (hagrees : response.RetainedAgrees) :
    codecHandoff input state =
      (encodeResponseFrame response).mapError CodecHandoffFailure.encodeResponse >>= fun _ =>
        .ok (mapResponse input response, { queue, nextRequestId := state.nextRequestId + 1 }) := by
  unfold codecHandoff
  rw [hrequest]
  change ((decodeRequestFrame requestFrame).mapError CodecHandoffFailure.decodeRequest >>= _) = _
  rw [decodeRequestFrame_eq_ok_iff.mpr hrequest]
  change ((handleRequest _ state.queue).mapError CodecHandoffFailure.handler >>= _) = _
  rw [hhandled]
  cases hresponse : encodeResponseFrame response with
  | error error =>
    change ((encodeResponseFrame response).mapError CodecHandoffFailure.encodeResponse >>= _) = _
    rw [hresponse]
    rfl
  | ok responseFrame =>
    change ((encodeResponseFrame response).mapError CodecHandoffFailure.encodeResponse >>= _) = _
    rw [hresponse]
    change Except.ok (match decodeResponseFrame responseFrame with
      | .ok response => mapResponse input response
      | .error _ => .handoffError input.clientId input.runId input.mode .malformedResponse, _) = _
    rw [decodeResponseFrame_of_encode hagrees hresponse]
    rfl

theorem codecHandoff_simulates (hclient : isBlank clientId = false) (hrun : isBlank runId = false)
    (mode : SwitcherSingleClientQueueSourceMode) :
    Simulates CodecHandoffState.queue WellFormed CodecHandoffFailure.NotEncoded
      (ReadAgrees clientId runId mode) (codecHandoff ⟨clientId, runId, mode⟩)
      (inProcessSource (ε := δ) ⟨clientId, runId, mode⟩) := by
  intro state hs
  cases hrequest : encodeRequestFrame (buildRequest state.nextRequestId ⟨clientId, runId, mode⟩) with
  | error error =>
    refine .inr ⟨.encodeRequest error, ?_, trivial⟩
    unfold codecHandoff
    rw [hrequest]
    rfl
  | ok requestFrame =>
    rcases handleRequest_buildRequest state.nextRequestId ⟨clientId, runId, mode⟩ state.queue hclient hrun with
      ⟨response, hhandled, hmapped, hagrees⟩ | ⟨panic, hpanic⟩
    · rw [codecHandoff_of_handled hrequest hhandled hagrees]
      cases hresponse : encodeResponseFrame response with
      | error error => exact .inr ⟨.encodeResponse error, rfl, trivial⟩
      | ok responseFrame =>
        left
        refine ⟨_, _, _, rfl, rfl, readQueueSource_wellFormed hs _, ?_⟩
        rw [hmapped]
        exact readAgrees_ofSource hs clientId runId mode
    · exact .inr ⟨.handler panic, codecHandoff_of_error hrequest hpanic, trivial⟩

end Reads

section Select

variable {σ τ ε δ : Type} {π : τ → σ} {I : σ → Prop} {E : ε → Prop}
  {handoff : QueuedFrameHandoff τ ε} {source : QueuedFrameSource σ δ}

/-- Judged against the target, agreeing reads give the same selection. -/
theorem handoffConsumerResultForCandidate_consumerResult (sourceResult : SwitcherSingleClientQueueSourceResult)
    (targetTimestamp : TimestampMicros) (mode : SwitcherSingleClientTargetTimeSourceMode) (consumed : Bool)
    (clockOffsetMicros : Option Int64) :
    handoffConsumerResultForCandidate (consumerResult (.ofSource sourceResult)) targetTimestamp mode
        consumed clockOffsetMicros =
      targetTimeHandoffResultFromSourceResult
        (resultForCandidate sourceResult targetTimestamp mode consumed clockOffsetMicros) := by
  cases sourceResult <;> rfl

theorem readAtOrBefore_bind {α : Type} (sourceMode : SwitcherSingleClientQueueSourceMode) (consumed : Bool)
    (input : SwitcherSingleClientTargetTimeSourceInput) (clockOffsetMicros : Option Int64)
    (k : SwitcherSingleClientTargetTimeHandoffSourceResult → Eff τ ε α) :
    SwitcherSingleClientTargetTimeHandoffSourceBoundary.readAtOrBefore sourceMode consumed handoff input
        clockOffsetMicros >>= k =
      handoff ⟨input.clientId, input.runId, sourceMode⟩ >>= fun result =>
        k (handoffConsumerResultForCandidate (consumerResult result) input.targetTimestamp input.mode
          consumed clockOffsetMicros) := by
  unfold SwitcherSingleClientTargetTimeHandoffSourceBoundary.readAtOrBefore readSourceResult
  simp only [bind_assoc, pure_bind]

theorem readAtOrBefore_simulates {sourceMode : SwitcherSingleClientQueueSourceMode} (consumed : Bool)
    {input : SwitcherSingleClientTargetTimeSourceInput} (clockOffsetMicros : Option Int64)
    (h : Simulates π I E (ReadAgrees input.clientId input.runId sourceMode)
      (handoff ⟨input.clientId, input.runId, sourceMode⟩)
      (source ⟨input.clientId, input.runId, sourceMode⟩)) :
    Simulates π I E (fun result result' => result' = targetTimeHandoffResultFromSourceResult result)
      (SwitcherSingleClientTargetTimeHandoffSourceBoundary.readAtOrBefore sourceMode consumed handoff
        input clockOffsetMicros)
      (source ⟨input.clientId, input.runId, sourceMode⟩ >>= fun sourceResult =>
        pure (resultForCandidate sourceResult input.targetTimestamp input.mode consumed
          clockOffsetMicros)) := by
  have hread : Simulates π I E
      (fun sourceResult result => result = consumerResult (.ofSource sourceResult))
      (readSourceResult handoff ⟨input.clientId, input.runId, sourceMode⟩)
      (source ⟨input.clientId, input.runId, sourceMode⟩ >>= pure) :=
    h.bind fun sourceResult result hagrees => simulates_pure (by rw [hagrees.content])
  rw [bind_pure] at hread
  refine hread.bind fun sourceResult result hresult => simulates_pure ?_
  rw [hresult]
  exact handoffConsumerResultForCandidate_consumerResult ..

theorem consumeOldestAtOrBefore_simulates {input : SwitcherSingleClientTargetTimeSourceInput}
    (clockOffsetMicros : Option Int64)
    (h : ∀ mode, Simulates π I E (ReadAgrees input.clientId input.runId mode)
      (handoff ⟨input.clientId, input.runId, mode⟩) (source ⟨input.clientId, input.runId, mode⟩)) :
    Simulates π I E (fun result result' => result' = targetTimeHandoffResultFromSourceResult result)
      (SwitcherSingleClientTargetTimeHandoffSourceBoundary.consumeOldestAtOrBefore handoff input
        clockOffsetMicros)
      (SwitcherSingleClientTargetTimeSourceBoundary.consumeOldestAtOrBefore source input
        clockOffsetMicros) := by
  unfold SwitcherSingleClientTargetTimeHandoffSourceBoundary.consumeOldestAtOrBefore
  rw [readAtOrBefore_bind]
  refine (h .previewOldest).bind fun sourceResult result hagrees => ?_
  rw [hagrees.content]
  cases sourceResult with
  | noFrameAvailable clientId runId mode clientQueueLen => exact simulates_pure rfl
  | frameAvailable frame mode remainingClientQueueLen =>
    obtain ⟨hclient, hrun⟩ := hagrees.scope rfl frame mode remainingClientQueueLen rfl
    simp only [handoffConsumerResultForCandidate_consumerResult, resultForCandidate]
    -- the source compares from the other side
    by_cases hle : applyOffsetMicros frame.captureTimestamp clockOffsetMicros ≤ input.targetTimestamp
    · have hlt : ¬ input.targetTimestamp < applyOffsetMicros frame.captureTimestamp clockOffsetMicros :=
        UInt64.not_lt.mpr hle
      rw [if_pos hle, if_neg hlt]
      exact readAtOrBefore_simulates true clockOffsetMicros (h .consumeOldest)
    · have hlt : input.targetTimestamp < applyOffsetMicros frame.captureTimestamp clockOffsetMicros :=
        UInt64.not_le.mp hle
      rw [if_neg hle, if_pos hlt]
      refine simulates_pure ?_
      simp only [targetTimeHandoffResultFromSourceResult, hclient, hrun]

/-- Whatever the mode, the two selectors select alike when their reads agree. -/
theorem selectFromHandoff_simulates (input : SwitcherSingleClientTargetTimeSourceInput)
    (clockOffsetMicros : Option Int64)
    (h : ∀ mode, Simulates π I E (ReadAgrees input.clientId input.runId mode)
      (handoff ⟨input.clientId, input.runId, mode⟩) (source ⟨input.clientId, input.runId, mode⟩)) :
    Simulates π I E (fun result result' => result' = targetTimeHandoffResultFromSourceResult result)
      (SwitcherSingleClientTargetTimeHandoffSourceBoundary.selectFromHandoffWithClockOffset handoff input
        clockOffsetMicros)
      (SwitcherSingleClientTargetTimeSourceBoundary.selectFromSourceWithClockOffset source input
        clockOffsetMicros) := by
  unfold SwitcherSingleClientTargetTimeHandoffSourceBoundary.selectFromHandoffWithClockOffset
    SwitcherSingleClientTargetTimeSourceBoundary.selectFromSourceWithClockOffset
  cases input.mode with
  | previewOldestIfAtOrBefore => exact readAtOrBefore_simulates false clockOffsetMicros (h _)
  | previewLatestIfAtOrBefore => exact readAtOrBefore_simulates false clockOffsetMicros (h _)
  | previewLatestDecodableIfAtOrBefore => exact readAtOrBefore_simulates false clockOffsetMicros (h _)
  | consumeOldestAtOrBefore => exact consumeOldestAtOrBefore_simulates clockOffsetMicros h

end Select

/-- The in-process source, the in-process handoff and the codec path make the same selection and leave
the same queue; only a request or response that does not encode keeps the codec path from answering. -/
def PathsAgree (state : ServerVideoFrameQueueState) (nextRequestId : UInt64)
    (input : SwitcherSingleClientTargetTimeSourceInput) (clockOffsetMicros : Option Int64) : Prop :=
  let codecPath :=
    SwitcherSingleClientTargetTimeHandoffSourceBoundary.selectFromHandoffWithClockOffset codecHandoff input
      clockOffsetMicros ⟨state, nextRequestId⟩
  ∃ result state',
    SwitcherSingleClientTargetTimeSourceBoundary.selectWithClockOffset (ε := Empty) input clockOffsetMicros
      state = .ok (result, state') ∧
    SwitcherSingleClientTargetTimeHandoffSourceBoundary.selectFromHandoffWithClockOffset
      (inProcessHandoff (ε := Empty)) input clockOffsetMicros state =
        .ok (targetTimeHandoffResultFromSourceResult result, state') ∧
    ((∃ nextRequestId', codecPath =
        .ok (targetTimeHandoffResultFromSourceResult result, ⟨state', nextRequestId'⟩)) ∨
      ∃ failure, codecPath = .error failure ∧ failure.NotEncoded)

theorem targetTimeSelection_agrees (ops : List QueueOp) (nextRequestId : UInt64)
    (input : SwitcherSingleClientTargetTimeSourceInput) (clockOffsetMicros : Option Int64)
    (hclient : isBlank input.clientId = false) (hrun : isBlank input.runId = false) :
    PathsAgree (runQueue ops).1 nextRequestId input clockOffsetMicros := by
  have hs := (runQueue_ledger ops).1
  have hin := selectFromHandoff_simulates (π := id) input clockOffsetMicros
    (inProcessHandoff_simulates (ε := Empty) (δ := Empty) hclient hrun)
  have hcodec := selectFromHandoff_simulates input clockOffsetMicros
    (codecHandoff_simulates (δ := Empty) hclient hrun)
  rcases hin (runQueue ops).1 hs with ⟨result, _, state', hhandoff, hsource, _, rfl⟩ | ⟨e, _, he⟩
  · refine ⟨result, state', hsource, hhandoff, ?_⟩
    rcases hcodec ⟨(runQueue ops).1, nextRequestId⟩ hs with
      ⟨result', _, ⟨queue, next⟩, hpath, hsource', _, rfl⟩ | ⟨failure, hpath, hfailure⟩
    · left
      have heq := hsource.symm.trans hsource'
      cases heq
      exact ⟨next, hpath⟩
    · exact .inr ⟨failure, hpath, hfailure⟩
  · exact he.elim

theorem targetTimeSelection_agrees_consume : isBlank "c" = false ∧ isBlank "r1" = false ∧
    PathsAgree (runQueue mixedRunOps).1 7 ⟨"c", "r1", 150, .consumeOldestAtOrBefore⟩ (some 20) :=
  ⟨by decide, by decide, targetTimeSelection_agrees mixedRunOps 7 _ (some 20) (by decide) (by decide)⟩

end StreamSync
