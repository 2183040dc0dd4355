import StreamSync.AuthVideoReceiveRuns
import StreamSync.ConcurrentHandoff

namespace StreamSync

open ByteCursor Effect KeyedTable Lanes Run

/-- A queued frame as a response carries it. -/
def ServerQueuedVideoFrame.handoffFrame (queued : ServerQueuedVideoFrame) :
    ServerSwitcherQueuedFrameHandoffFrame where
  clientId := queued.frame.clientId
  runId := queued.frame.runId
  frameId := queued.frame.frameId
  captureTimestamp := queued.frame.captureTimestamp
  sendTimestamp := queued.frame.sendTimestamp
  queuedAt := queued.queuedAt
  width := queued.frame.width
  height := queued.frame.height
  fpsNominal := queued.frame.fpsNominal
  isKeyframe := queued.frame.isKeyframe
  codec := queued.frame.codec
  encodedPayloadLen := UInt32.ofNat queued.payloadLen
  encodedPayload := queued.frame.payload

/-- The frame comes from a handler input that fits into the fields of a response. -/
def ServerQueuedVideoFrame.Fits (queued : ServerQueuedVideoFrame) : Prop :=
  ∃ input : ServerVideoFrameHandlerInput, input.Fits ∧
    queued.frame = input.registeredPacket.frame ∧ queued.payloadLen = input.payloadLen

/-- What a step of the runtime does to the queue. -/
inductive QueueTurn (state : ServerVideoFrameQueueState) :
    List (Move Departure ServerQueuedVideoFrame) → ServerVideoFrameQueueState → Prop
  | keep : QueueTurn state [] state
  | store (input : ServerVideoFrameHandlerInput) (queuedAt : TimestampMicros) (hfits : input.Fits) :
    QueueTurn state (applyQueueOp state (.storeFrame input queuedAt .default)).2.moves
      (applyQueueOp state (.storeFrame input queuedAt .default)).1
  | read (input : ServerVideoFrameQueueReadInput) :
    QueueTurn state (applyQueueOp state (.read input)).2.moves (applyQueueOp state (.read input)).1

/-- The queue at any time of a run, beside the log of the frames that came and went. -/
structure QueueInvariant (log : List (Move Departure ServerQueuedVideoFrame))
    (state : ServerVideoFrameQueueState) : Prop where
  wellFormed : state.WellFormed
  bounded : ∀ clientId, state.clientQueueLen clientId ≤ ServerVideoFrameQueuePolicy.default.maxFramesPerClient
  ledger : Ledger scope log fun k => state.framesForClientRun k.1 k.2
  retained : ∀ (key : String) (queued : ServerQueuedVideoFrame),
    state.retainedKeyframeByClientRun[key]? = some queued → queued ∈ entered log
  fits : ∀ queued ∈ entered log, queued.Fits

namespace QueueInvariant

variable {log : List (Move Departure ServerQueuedVideoFrame)} {state : ServerVideoFrameQueueState}

theorem empty : QueueInvariant [] .empty := by
  refine ⟨ServerVideoFrameQueueState.empty_wellFormed, fun clientId => ?_, ledger_nil fun k => ?_,
    fun key queued h => ?_, fun queued h => ?_⟩
  · simp [ServerVideoFrameQueueState.clientQueueLen, ServerVideoFrameQueueState.framesForClient,
      ServerVideoFrameQueueState.empty]
  · simp [ServerVideoFrameQueueState.framesForClientRun, ServerVideoFrameQueueState.framesForClient,
      ServerVideoFrameQueueState.empty]
  · simp [ServerVideoFrameQueueState.empty] at h
  · cases h

theorem entered_store (state : ServerVideoFrameQueueState) (input : ServerVideoFrameHandlerInput)
    (queuedAt : TimestampMicros) :
    entered (applyQueueOp state (.storeFrame input queuedAt .default)).2.moves =
      [queuedFrame input queuedAt] :=
  entered_applyQueueOp state (.storeFrame input queuedAt .default)

theorem retained_store (state : ServerVideoFrameQueueState) (input : ServerVideoFrameHandlerInput)
    (queuedAt : TimestampMicros) {key : String} {queued : ServerQueuedVideoFrame}
    (h : (storeFrame state input queuedAt .default).1.retainedKeyframeByClientRun[key]? = some queued) :
    state.retainedKeyframeByClientRun[key]? = some queued ∨ queued = queuedFrame input queuedAt := by
  change (if (queuedFrame input queuedAt).frame.isKeyframe then
      state.retainedKeyframeByClientRun.insert
        (clientRunScopeKey (queuedFrame input queuedAt).frame.clientId
          (queuedFrame input queuedAt).frame.runId) (queuedFrame input queuedAt)
      else state.retainedKeyframeByClientRun)[key]? = some queued at h
  split at h
  next =>
    rw [getElem?_insert_eq] at h
    split at h
    next => exact .inr (Option.some.inj h).symm
    next => exact .inl h
  next => exact .inl h

theorem retained_read (state : ServerVideoFrameQueueState) (input : ServerVideoFrameQueueReadInput) :
    (state.read input).1.retainedKeyframeByClientRun = state.retainedKeyframeByClientRun := by
  by_cases hm : input.mode = .dequeueOldest
  · obtain ⟨clientId, runId, mode⟩ := input
    cases hm
    rw [(ServerVideoFrameQueueState.read_dequeue state clientId runId).1,
      ServerVideoFrameQueueState.popFrontForClientRun_eq]
    split <;> simp
  · rw [ServerVideoFrameQueueState.read_inspect state hm]

theorem op (h : QueueInvariant log state) (op : QueueOp) (huses : op.UsesPolicy .default)
    (hfits : ∀ queued ∈ entered (applyQueueOp state op).2.moves, queued.Fits)
    (hretained : ∀ (key : String) (queued : ServerQueuedVideoFrame),
      (applyQueueOp state op).1.retainedKeyframeByClientRun[key]? = some queued →
        state.retainedKeyframeByClientRun[key]? = some queued ∨
          queued ∈ entered (applyQueueOp state op).2.moves) :
    QueueInvariant (log ++ (applyQueueOp state op).2.moves) (applyQueueOp state op).1 where
  wellFormed := applyQueueOp_wellFormed h.wellFormed op
  bounded := applyQueueOp_bounded (by decide) h.bounded huses
  ledger := h.ledger.step (applyQueueOp_balances h.wellFormed op)
  retained key queued hkey := by
    rw [entered_append, List.mem_append]
    rcases hretained key queued hkey with hold | hnew
    · exact .inl (h.retained key queued hold)
    · exact .inr hnew
  fits queued hq := by
    rw [entered_append, List.mem_append] at hq
    rcases hq with hold | hnew
    · exact h.fits queued hold
    · exact hfits queued hnew

theorem turn (h : QueueInvariant log state) {moves : List (Move Departure ServerQueuedVideoFrame)}
    {state' : ServerVideoFrameQueueState} (hturn : QueueTurn state moves state') :
    QueueInvariant (log ++ moves) state' := by
  cases hturn with
  | keep =>
    rw [List.append_nil]
    exact h
  | store input queuedAt hfits =>
    refine h.op (.storeFrame input queuedAt .default) rfl (fun queued hq => ?_) fun key queued hkey => ?_
    · rw [entered_store, List.mem_singleton] at hq
      exact ⟨input, hfits, congrArg ServerQueuedVideoFrame.frame hq,
        congrArg ServerQueuedVideoFrame.payloadLen hq⟩
    · rw [entered_store, List.mem_singleton]
      exact retained_store state input queuedAt hkey
  | read input =>
    refine h.op (.read input) trivial (fun queued hq => ?_) fun key queued hkey => .inl ?_
    · rw [entered_applyQueueOp] at hq
      cases hq
    · rw [← retained_read state input]
      exact hkey

theorem mem_entered (h : QueueInvariant log state) {clientId : ClientId} {queued : ServerQueuedVideoFrame}
    (hq : queued ∈ state.framesForClient clientId) : queued ∈ entered log := by
  have hlane : queued ∈ state.framesForClientRun clientId queued.frame.runId := by
    unfold ServerVideoFrameQueueState.framesForClientRun
    exact mem_lane runOf |>.mpr ⟨hq, rfl⟩
  have hin : queued ∈ lane scope (clientId, queued.frame.runId) (entered log) := by
    rw [h.ledger (clientId, queued.frame.runId)]
    exact List.mem_append_right _ hlane
  exact (mem_lane scope |>.mp hin).1

/-- Every frame that a read finds came into the queue. -/
theorem read_mem (h : QueueInvariant log state) (input : ServerVideoFrameQueueReadInput)
    {queued : ServerQueuedVideoFrame} (hread : (state.read input).2.frame? = some queued) :
    queued ∈ entered log := by
  rw [ServerVideoFrameQueueState.read_frame?] at hread
  have hrun {queued : ServerQueuedVideoFrame}
      (hq : queued ∈ state.framesForClientRun input.clientId input.runId) : queued ∈ entered log :=
    h.mem_entered (mem_lane runOf |>.mp hq).1
  unfold selectFrame at hread
  split at hread
  next => exact hrun (List.mem_of_head? hread)
  next => exact hrun (List.mem_of_getLast? hread)
  next =>
    split at hread
    next frame hlast =>
      cases hread
      exact hrun (List.mem_of_mem_filter (List.mem_of_getLast? hlast))
    next =>
      split at hread
      next frame hretained =>
        cases hread
        exact h.retained _ _ hretained
      next => cases hread
  next =>
    dsimp only at hread
    rw [ServerVideoFrameQueueState.popFrontForClientRun_eq] at hread
    split at hread
    next => cases hread
    next frame hfind =>
      cases hread
      exact h.mem_entered (List.mem_of_find?_eq_some hfind)

end QueueInvariant

end StreamSync
