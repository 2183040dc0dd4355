import StreamSync.ServerHandoff
import StreamSync.TargetTimeSource
import StreamSync.VideoQueueScope

namespace StreamSync

open Effect Lanes ServerVideoFrameQueueState

/-- One call of `store_frame` on the server. -/
structure StoreCall where
  input : ServerVideoFrameHandlerInput
  queuedAt : TimestampMicros
  policy : ServerVideoFrameQueuePolicy
deriving DecidableEq

def storeAll (state : ServerVideoFrameQueueState) (calls : List StoreCall) : ServerVideoFrameQueueState :=
  calls.foldl (fun state call => (storeFrame state call.input call.queuedAt call.policy).1) state

/-- What becomes of a request: it is answered, it does not reach the server, or its answer does not
reach the switcher. -/
inductive HandoffFate where
  | served
  | requestLost (error : SwitcherQueuedFrameHandoffError)
  | responseLost (error : SwitcherQueuedFrameHandoffError)
deriving DecidableEq, Repr

/-- What the server stores before the next request, and what becomes of that request. -/
structure HandoffTurn where
  stores : List StoreCall
  fate : HandoffFate
deriving DecidableEq

/-- The server's queue, the requests to come, the switcher's request counter, and every frame that a
request took out of the queue. -/
structure HandoffWorld where
  queue : ServerVideoFrameQueueState
  turns : List HandoffTurn
  nextRequestId : UInt64
  removed : List ServerQueuedVideoFrame

def HandoffWorld.start (queue : ServerVideoFrameQueueState) (turns : List HandoffTurn)
    (nextRequestId : UInt64) : HandoffWorld := ⟨queue, turns, nextRequestId, []⟩

/-- After the last turn the server stores nothing more and answers. -/
def nextTurn (turns : List HandoffTurn) : HandoffTurn := turns.headD ⟨[], .served⟩

def HandoffWorld.turn (world : HandoffWorld) : HandoffTurn := nextTurn world.turns

/-- The queue that the next request finds. -/
def HandoffWorld.queueAtRequest (world : HandoffWorld) : ServerVideoFrameQueueState :=
  storeAll world.queue world.turn.stores

namespace SwitcherQueuedFrameHandoffInput

def queueRead (input : SwitcherQueuedFrameHandoffInput) : ServerVideoFrameQueueReadInput :=
  ⟨input.clientId, input.runId, input.mode.queueReadMode⟩

def hasBlankScope (input : SwitcherQueuedFrameHandoffInput) : Bool :=
  isBlank input.clientId || isBlank input.runId

/-- The frames that a request takes out of the queue it finds. -/
def takenFrom (input : SwitcherQueuedFrameHandoffInput) (queue : ServerVideoFrameQueueState) :
    List ServerQueuedVideoFrame :=
  if input.hasBlankScope then []
  else leftFor .dequeued (QueueOutput.read (queue.read input.queueRead).2).moves

end SwitcherQueuedFrameHandoffInput

/-- One request of the switcher, with what happens on the server before it. -/
def worldHandoff : QueuedFrameHandoff HandoffWorld HandoffLengthPanic := fun input world =>
  let queue := world.queueAtRequest
  let turns := world.turns.tail
  let nextRequestId := world.nextRequestId + 1
  match world.turn.fate with
  | .requestLost error =>
    .ok (.handoffError input.clientId input.runId input.mode error,
      ⟨queue, turns, nextRequestId, world.removed⟩)
  | .served => do
    let (result, queue') ← serverHandoff world.nextRequestId input queue
    return (result, ⟨queue', turns, nextRequestId, world.removed ++ input.takenFrom queue⟩)
  | .responseLost error => do
    let (_, queue') ← serverHandoff world.nextRequestId input queue
    return (.handoffError input.clientId input.runId input.mode error,
      ⟨queue', turns, nextRequestId, world.removed ++ input.takenFrom queue⟩)

/-- A request to a server that goes on storing. Where the server panics on a length, its answer is
lost. -/
def HandoffWorld.request (world : HandoffWorld) (input : SwitcherQueuedFrameHandoffInput) :
    SwitcherQueuedFrameHandoffResult × HandoffWorld :=
  let queue := world.queueAtRequest
  let unread : HandoffWorld := ⟨queue, world.turns.tail, world.nextRequestId + 1, world.removed⟩
  let read := readQueueSource queue ⟨input.clientId, input.runId, input.mode⟩
  let afterRead := { unread with queue := read.1, removed := world.removed ++ input.takenFrom queue }
  let failed error := SwitcherQueuedFrameHandoffResult.handoffError input.clientId input.runId input.mode error
  match world.turn.fate with
  | .requestLost error => (failed error, unread)
  | .served =>
    if input.hasBlankScope then (failed (.invalidScope input.clientId input.runId), unread)
    else (.ofSource read.2, afterRead)
  | .responseLost error =>
    if input.hasBlankScope then (failed error, unread) else (failed error, afterRead)

/-- The oldest frame of a client and run. -/
def oldestFrame (queue : ServerVideoFrameQueueState) (clientId : ClientId) (runId : RunId) :
    Option ServerQueuedVideoFrame := (queue.framesForClientRun clientId runId).head?

theorem popFrontForClientRun_frame (state : ServerVideoFrameQueueState) (clientId : ClientId)
    (runId : RunId) : (state.popFrontForClientRun clientId runId).2 = oldestFrame state clientId runId := by
  unfold oldestFrame framesForClientRun
  rw [popFrontForClientRun_eq, List.head?_filter]
  cases (state.framesForClient clientId).find? fun q => q.frame.runId = runId <;> rfl

theorem readQueueSource_previewOldest (state : ServerVideoFrameQueueState) (clientId : ClientId)
    (runId : RunId) :
    readQueueSource state ⟨clientId, runId, .previewOldest⟩ =
      (state, match oldestFrame state clientId runId with
        | some queued => .frameAvailable (.ofQueued queued) .previewOldest (state.clientQueueLen clientId)
        | none => .noFrameAvailable clientId runId .previewOldest (state.clientQueueLen clientId)) := by
  have hselect : selectFrame state ⟨clientId, runId, .inspectOldest⟩ =
      (state, oldestFrame state clientId runId, .none) := rfl
  unfold readQueueSource ServerVideoFrameQueueState.read
  simp only [SwitcherSingleClientQueueSourceMode.queueReadMode, hselect]
  cases oldestFrame state clientId runId <;> rfl

theorem readQueueSource_consumeOldest (state : ServerVideoFrameQueueState) (clientId : ClientId)
    (runId : RunId) :
    let popped := (state.popFrontForClientRun clientId runId).1
    readQueueSource state ⟨clientId, runId, .consumeOldest⟩ =
      (popped, match oldestFrame state clientId runId with
        | some queued => .frameAvailable (.ofQueued queued) .consumeOldest (popped.clientQueueLen clientId)
        | none => .noFrameAvailable clientId runId .consumeOldest (state.clientQueueLen clientId)) := by
  intro popped
  have hselect : selectFrame state ⟨clientId, runId, .dequeueOldest⟩ =
      (popped, oldestFrame state clientId runId, .none) := by
    rw [← popFrontForClientRun_frame]
    rfl
  unfold readQueueSource ServerVideoFrameQueueState.read
  simp only [SwitcherSingleClientQueueSourceMode.queueReadMode, hselect]
  cases oldestFrame state clientId runId <;> rfl

section Taken

variable {queue : ServerVideoFrameQueueState} {clientId : ClientId} {runId : RunId}

theorem takenFrom_previewOldest :
    SwitcherQueuedFrameHandoffInput.takenFrom ⟨clientId, runId, .previewOldest⟩ queue = [] := by
  unfold SwitcherQueuedFrameHandoffInput.takenFrom SwitcherQueuedFrameHandoffInput.queueRead
  rw [moves_read_inspect queue (by simp [SwitcherSingleClientQueueSourceMode.queueReadMode])]
  split <;> rfl

theorem takenFrom_consumeOldest (h : (isBlank clientId || isBlank runId) = false) :
    SwitcherQueuedFrameHandoffInput.takenFrom ⟨clientId, runId, .consumeOldest⟩ queue =
      (oldestFrame queue clientId runId).toList := by
  unfold SwitcherQueuedFrameHandoffInput.takenFrom SwitcherQueuedFrameHandoffInput.hasBlankScope
    SwitcherQueuedFrameHandoffInput.queueRead
  simp only [h, Bool.false_eq_true, if_false, SwitcherSingleClientQueueSourceMode.queueReadMode]
  rw [(read_dequeue queue clientId runId).2, popFrontForClientRun_frame]
  cases oldestFrame queue clientId runId <;> rfl

end Taken

/-- How a request may fare: what it found in the queue, what it answers, the queue it leaves and the
frames it took. -/
inductive HandoffExchange (input : SwitcherQueuedFrameHandoffInput) (queue : ServerVideoFrameQueueState) :
    HandoffFate → SwitcherQueuedFrameHandoffResult → ServerVideoFrameQueueState →
      List ServerQueuedVideoFrame → Prop where
  | notReceived (error) : HandoffExchange input queue (.requestLost error)
    (.handoffError input.clientId input.runId input.mode error) queue []
  | blankScope (hblank : input.hasBlankScope = true) {fate} (error) :
    HandoffExchange input queue fate (.handoffError input.clientId input.runId input.mode error) queue []
  | answered (hscope : input.hasBlankScope = false) :
    HandoffExchange input queue .served
      (.ofSource (readQueueSource queue ⟨input.clientId, input.runId, input.mode⟩).2)
      (readQueueSource queue ⟨input.clientId, input.runId, input.mode⟩).1 (input.takenFrom queue)
  | notAnswered (hscope : input.hasBlankScope = false) (error) :
    HandoffExchange input queue (.responseLost error)
      (.handoffError input.clientId input.runId input.mode error)
      (readQueueSource queue ⟨input.clientId, input.runId, input.mode⟩).1 (input.takenFrom queue)

theorem serverHandoff_of_blank {requestId : UInt64} {input : SwitcherQueuedFrameHandoffInput}
    (queue : ServerVideoFrameQueueState) (h : input.hasBlankScope = true) :
    serverHandoff requestId input queue =
      .ok (.handoffError input.clientId input.runId input.mode
        (.invalidScope input.clientId input.runId), queue) := by
  have hhandled : handleRequest (buildRequest requestId input) queue =
      .ok (.handoffError requestId .invalidScope, queue) := if_pos h
  unfold serverHandoff
  rw [bind_of_ok hhandled]
  rfl

/-- A request that the server serves either names no client and run, or is answered with what the queue
source reads. -/
theorem serverHandoff_eq_ok {requestId : UInt64} {input : SwitcherQueuedFrameHandoffInput}
    {queue queue' : ServerVideoFrameQueueState} {result : SwitcherQueuedFrameHandoffResult}
    (h : serverHandoff requestId input queue = .ok (result, queue')) :
    let read := readQueueSource queue ⟨input.clientId, input.runId, input.mode⟩
    (input.hasBlankScope = true ∧ queue' = queue ∧ input.takenFrom queue = [] ∧
      result = .handoffError input.clientId input.runId input.mode
        (.invalidScope input.clientId input.runId)) ∨
    (input.hasBlankScope = false ∧ queue' = read.1 ∧ result = .ofSource read.2) := by
  intro read
  cases hscope : input.hasBlankScope with
  | true =>
    left
    rw [serverHandoff_of_blank _ hscope] at h
    cases Except.ok.inj h
    exact ⟨rfl, rfl, by simp [SwitcherQueuedFrameHandoffInput.takenFrom, hscope], rfl⟩
  | false =>
    right
    obtain ⟨hclient, hrun⟩ := Bool.or_eq_false_iff.mp hscope
    obtain ⟨response, state, hhandled, hresult⟩ := bind_eq_ok_iff.mp h
    cases Except.ok.inj hresult
    rcases handleRequest_buildRequest requestId input queue hclient hrun with
      ⟨response', hhandled', hmapped, _⟩ | ⟨panic, hpanic⟩
    · rw [hhandled] at hhandled'
      cases hhandled'
      exact ⟨rfl, rfl, hmapped⟩
    · rw [hhandled] at hpanic
      cases hpanic

/-- Whatever the server does not panic on is answered as the switcher sees it here. -/
theorem worldHandoff_eq_request {input : SwitcherQueuedFrameHandoffInput} {world : HandoffWorld}
    {answer : SwitcherQueuedFrameHandoffResult × HandoffWorld}
    (h : worldHandoff input world = .ok answer) : world.request input = answer := by
  unfold worldHandoff at h
  unfold HandoffWorld.request
  cases hfate : world.turn.fate with
  | requestLost error =>
    rw [hfate] at h
    exact Except.ok.inj h
  | served =>
    rw [hfate] at h
    obtain ⟨⟨served, queue'⟩, hserved, h⟩ := Fallible.bind_eq_ok_iff.mp h
    cases Except.ok.inj h
    rcases serverHandoff_eq_ok hserved with ⟨hblank, hqueue, htaken, hresult⟩ | ⟨hscope, hqueue, hresult⟩
    · rw [hqueue, htaken, hresult, List.append_nil]
      exact if_pos hblank
    · rw [hqueue, hresult]
      exact if_neg (by rw [hscope]; decide)
  | responseLost error =>
    rw [hfate] at h
    obtain ⟨⟨served, queue'⟩, hserved, h⟩ := Fallible.bind_eq_ok_iff.mp h
    cases Except.ok.inj h
    rcases serverHandoff_eq_ok hserved with ⟨hblank, hqueue, htaken, _⟩ | ⟨hscope, hqueue, _⟩
    · rw [hqueue, htaken, List.append_nil]
      exact if_pos hblank
    · rw [hqueue]
      exact if_neg (by rw [hscope]; decide)

theorem request_exchange (world : HandoffWorld) (input : SwitcherQueuedFrameHandoffInput) :
    ∃ taken, (world.request input).2 = ⟨(world.request input).2.queue, world.turns.tail,
        world.nextRequestId + 1, world.removed ++ taken⟩ ∧
      HandoffExchange input world.queueAtRequest world.turn.fate (world.request input).1
        (world.request input).2.queue taken := by
  unfold HandoffWorld.request
  cases hfate : world.turn.fate with
  | requestLost error => exact ⟨[], by rw [List.append_nil], .notReceived error⟩
  | served =>
    dsimp only
    split
    next hblank => exact ⟨[], by rw [List.append_nil], .blankScope hblank _⟩
    next hscope => exact ⟨_, rfl, .answered (Bool.eq_false_iff.mpr hscope)⟩
  | responseLost error =>
    dsimp only
    split
    next hblank => exact ⟨[], by rw [List.append_nil], .blankScope hblank error⟩
    next hscope => exact ⟨_, rfl, .notAnswered (Bool.eq_false_iff.mpr hscope) error⟩

/-- Everything a request can do. -/
theorem worldHandoff_eq_ok {input : SwitcherQueuedFrameHandoffInput} {world world' : HandoffWorld}
    {result : SwitcherQueuedFrameHandoffResult} (h : worldHandoff input world = .ok (result, world')) :
    ∃ queue' taken,
      world' = ⟨queue', world.turns.tail, world.nextRequestId + 1, world.removed ++ taken⟩ ∧
        HandoffExchange input world.queueAtRequest world.turn.fate result queue' taken := by
  obtain ⟨taken, hworld, hexchange⟩ := request_exchange world input
  rw [worldHandoff_eq_request h] at hworld hexchange
  exact ⟨world'.queue, taken, hworld, hexchange⟩

end StreamSync
