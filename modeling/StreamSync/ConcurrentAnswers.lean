import StreamSync.ConcurrentQueue

namespace StreamSync

open ByteCursor Effect KeyedTable Lanes Run

abbrev HandoffRequest := ServerSwitcherQueuedFrameHandoffRequest
abbrev HandoffResponse := ServerSwitcherQueuedFrameHandoffResponse

def requestInput (request : HandoffRequest) : ServerVideoFrameQueueReadInput :=
  ⟨request.clientId, request.runId, queueReadModeFromHandoff request.readMode⟩

def hasInvalidScope (request : HandoffRequest) : Bool := isBlank request.clientId || isBlank request.runId

/-- What a request does to the queue. -/
def requestTurn (state : ServerVideoFrameQueueState) (request : HandoffRequest) :
    ServerVideoFrameQueueState × List (Move Departure ServerQueuedVideoFrame) :=
  if hasInvalidScope request then (state, [])
  else
    let result := applyQueueOp state (.read (requestInput request))
    (result.1, result.2.moves)

/-- What a response to a request tells of the queue. -/
inductive AnswerTo (state : ServerVideoFrameQueueState) (request : HandoffRequest) : HandoffResponse → Prop
  | invalidScope (hscope : hasInvalidScope request = true) :
    AnswerTo state request (.handoffError request.requestId .invalidScope)
  | frameRead (queued : ServerQueuedVideoFrame) (remaining source available frameId)
    (hscope : hasInvalidScope request = false)
    (hread : (state.read (requestInput request)).2 =
      .frameAvailable queued (queueReadModeFromHandoff request.readMode) remaining source available frameId) :
    AnswerTo state request (.frameRead request.requestId (UInt32.ofNat remaining) source available frameId
      queued.handoffFrame)
  | noFrame (len reason source available frameId) (hscope : hasInvalidScope request = false)
    (hread : (state.read (requestInput request)).2 =
      .noFrameAvailable request.clientId request.runId len reason source available frameId) :
    AnswerTo state request (.noFrame request.requestId request.clientId request.runId request.readMode
      (UInt32.ofNat len) reason source available frameId)

def ServerSwitcherQueuedFrameHandoffResponse.frame? :
    HandoffResponse → Option ServerSwitcherQueuedFrameHandoffFrame
  | .frameRead _ _ _ _ _ frame => some frame
  | _ => none

/-- The frame that a response takes out of the queue. -/
def dequeuedFrame? (answer : HandoffRequest × HandoffResponse) :
    Option ServerSwitcherQueuedFrameHandoffFrame :=
  if answer.1.readMode = .dequeueOldest then answer.2.frame? else none

theorem requestTurn_turn (state : ServerVideoFrameQueueState) (request : HandoffRequest) :
    QueueTurn state (requestTurn state request).2 (requestTurn state request).1 := by
  unfold requestTurn
  split
  next => exact .keep
  next => exact .read (requestInput request)

theorem lenToU32_of_lt (panic : Nat → HandoffLengthPanic) {len : Nat} (h : len < 2 ^ 32) :
    lenToU32 panic len = .ok (UInt32.ofNat len) := if_pos h

/-- What a read can find. -/
inductive ReadFinds (state : ServerVideoFrameQueueState) (input : ServerVideoFrameQueueReadInput) :
    ServerVideoFrameQueueState × ServerVideoFrameQueueReadResult → Prop
  | frameAvailable (after : ServerVideoFrameQueueState) (frame source available frameId) :
    ReadFinds state input (after,
      .frameAvailable frame input.mode (after.clientQueueLen input.clientId) source available frameId)
  | noFrameAvailable (after : ServerVideoFrameQueueState) (reason source available frameId) :
    ReadFinds state input (after,
      .noFrameAvailable input.clientId input.runId (state.clientQueueLen input.clientId) reason source
        available frameId)

theorem read_finds (state : ServerVideoFrameQueueState) (input : ServerVideoFrameQueueReadInput) :
    ReadFinds state input (state.read input) := by
  unfold ServerVideoFrameQueueState.read
  dsimp only
  rcases selectFrame state input with ⟨after, _ | frame, source⟩
  · exact .noFrameAvailable _ _ _ _ _
  · exact .frameAvailable _ _ _ _ _

/-- The server answers every request: no length is too long for its field. -/
theorem handleRequest_answers {log : List (Move Departure ServerQueuedVideoFrame)}
    {state : ServerVideoFrameQueueState} (h : QueueInvariant log state) (request : HandoffRequest) :
    ∃ response, handleRequest request state = .ok (response, (requestTurn state request).1) ∧
      AnswerTo state request response := by
  have hfew {state : ServerVideoFrameQueueState} {log} (h : QueueInvariant log state) (clientId : ClientId) :
      state.clientQueueLen clientId < 2 ^ 32 := (h.bounded clientId).trans_lt (by decide)
  unfold handleRequest requestTurn
  cases hscope : hasInvalidScope request with
  | true =>
    rw [if_pos rfl]
    unfold hasInvalidScope at hscope
    rw [if_pos hscope]
    exact ⟨_, rfl, .invalidScope hscope⟩
  | false =>
    have hafter := hfew (h.turn (.read (requestInput request))) request.clientId
    have hmem := @QueueInvariant.read_mem _ _ h (requestInput request)
    have hfinds := read_finds state (requestInput request)
    rw [if_neg (by simpa [hasInvalidScope] using hscope), if_neg (by simp)]
    rw [show (⟨request.clientId, request.runId, queueReadModeFromHandoff request.readMode⟩ :
      ServerVideoFrameQueueReadInput) = requestInput request from rfl]
    simp only [applyQueueOp] at hafter ⊢
    generalize hread : state.read (requestInput request) = result at hafter hmem hfinds ⊢
    cases hfinds with
    | noFrameAvailable after reason source available frameId =>
      refine ⟨_, ?_, .noFrame _ _ _ _ _ hscope (congrArg Prod.snd hread)⟩
      simp only [queueLenToU32, lenToU32_of_lt _ (hfew h (requestInput request).clientId)]
      rfl
    | frameAvailable after frame source available frameId =>
      obtain ⟨input, hfits, hframe, hlen⟩ := h.fits _ (hmem rfl)
      have hpayload : frame.payloadLen < 2 ^ 32 := by
        rw [hlen, hfits.payloadLen]
        exact hfits.payload
      have hremaining : after.clientQueueLen (requestInput request).clientId < 2 ^ 32 := hafter
      refine ⟨_, ?_, .frameRead frame _ _ _ _ hscope (congrArg Prod.snd hread)⟩
      simp only [queueLenToU32, payloadLenToU32, lenToU32_of_lt _ hremaining, lenToU32_of_lt _ hpayload]
      rfl

/-- A request takes out of the queue the frame that its response carries away, and nothing else comes or
goes. -/
theorem AnswerTo.moves {state : ServerVideoFrameQueueState} {request : HandoffRequest}
    {response : HandoffResponse} (h : AnswerTo state request response) :
    (leftFor .dequeued (requestTurn state request).2).map ServerQueuedVideoFrame.handoffFrame =
        (dequeuedFrame? (request, response)).toList ∧
      entered (requestTurn state request).2 = [] ∧
      leftFor .droppedOldest (requestTurn state request).2 = [] ∧
      leftFor .popped (requestTurn state request).2 = [] := by
  unfold requestTurn dequeuedFrame?
  cases h with
  | invalidScope hscope =>
    rw [if_pos hscope]
    dsimp only
    cases request.readMode <;> exact ⟨rfl, rfl, rfl, rfl⟩
  | frameRead queued remaining source available frameId hscope hread =>
    rw [if_neg (by simp [hscope])]
    dsimp only [applyQueueOp]
    rw [hread]
    cases request.readMode <;> exact ⟨rfl, rfl, rfl, rfl⟩
  | noFrame len reason source available frameId hscope hread =>
    rw [if_neg (by simp [hscope])]
    dsimp only [applyQueueOp]
    rw [hread]
    cases request.readMode <;> exact ⟨rfl, rfl, rfl, rfl⟩

/-- Every frame of a response came into the queue. -/
theorem AnswerTo.origin {log : List (Move Departure ServerQueuedVideoFrame)}
    {state : ServerVideoFrameQueueState} (hqueue : QueueInvariant log state) {request : HandoffRequest}
    {response : HandoffResponse} (h : AnswerTo state request response) :
    ∀ frame ∈ response.frame?, ∃ queued ∈ entered log, frame = queued.handoffFrame := by
  intro frame hframe
  cases h with
  | frameRead queued remaining source available frameId hscope hread =>
    cases Option.mem_some.mp hframe
    exact ⟨queued, hqueue.read_mem (requestInput request) (by rw [hread]; rfl), rfl⟩
  | _ => cases hframe

end StreamSync
