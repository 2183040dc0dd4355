import StreamSync.AuthVideoReceiveStops
import StreamSync.ConcurrentAnswers

namespace StreamSync

open KeyedTable Lanes Run Tally

/-- The frames that a datagram moves in the queue. -/
def VideoPacketNote.moves (note : VideoPacketNote) : List (Move Departure ServerQueuedVideoFrame) :=
  match note.queueResult? with
  | some result => (QueueOutput.stored result).moves
  | none => []

namespace RuntimeEvent

def note? (config : ServerRuntimeConfig) : RuntimeEvent → Option VideoPacketNote
  | received source bytes queuedAt before => some (videoPacketNote config before source bytes queuedAt)
  | _ => none

def answer? : RuntimeEvent → Option (HandoffRequest × HandoffResponse)
  | answered request response _ => some (request, response)
  | _ => none

def delivery? : RuntimeEvent → Option (HandoffRequest × HandoffResponse)
  | delivered request response => some (request, response)
  | _ => none

def moves (config : ServerRuntimeConfig) : RuntimeEvent → List (Move Departure ServerQueuedVideoFrame)
  | received source bytes queuedAt before => (videoPacketNote config before source bytes queuedAt).moves
  | answered request _ before => (requestTurn before request).2
  | _ => []

/-- The step moved no frame and answered no one. -/
def IsQuiet (event : RuntimeEvent) : Prop := event = idle ∨ event = internal

end RuntimeEvent

/-- What the datagrams of a run were, in order. -/
def runtimeNotes (config : ServerRuntimeConfig) (events : List RuntimeEvent) : List VideoPacketNote :=
  events.filterMap (RuntimeEvent.note? config)

/-- The requests that were answered, with their responses, in order. -/
def runtimeAnswers (events : List RuntimeEvent) : List (HandoffRequest × HandoffResponse) :=
  events.filterMap RuntimeEvent.answer?

/-- The responses that went out whole. -/
def runtimeDeliveries (events : List RuntimeEvent) : List (HandoffRequest × HandoffResponse) :=
  events.filterMap RuntimeEvent.delivery?

/-- Which frames came into the queue and left it. -/
def runtimeLog (config : ServerRuntimeConfig) (events : List RuntimeEvent) :
    List (Move Departure ServerQueuedVideoFrame) :=
  events.flatMap (RuntimeEvent.moves config)

section Concat

variable (config : ServerRuntimeConfig) (events : List RuntimeEvent)

theorem runtimeNotes_concat (event : RuntimeEvent) :
    runtimeNotes config (events ++ [event]) = runtimeNotes config events ++ (event.note? config).toList :=
  VideoReceiveCounts.filterMap_concat _ _ _

theorem runtimeAnswers_concat (event : RuntimeEvent) :
    runtimeAnswers (events ++ [event]) = runtimeAnswers events ++ event.answer?.toList :=
  VideoReceiveCounts.filterMap_concat _ _ _

theorem runtimeDeliveries_concat (event : RuntimeEvent) :
    runtimeDeliveries (events ++ [event]) = runtimeDeliveries events ++ event.delivery?.toList :=
  VideoReceiveCounts.filterMap_concat _ _ _

theorem runtimeLog_concat (event : RuntimeEvent) :
    runtimeLog config (events ++ [event]) = runtimeLog config events ++ event.moves config := by
  simp [runtimeLog]

end Concat

/-- What a step of the receive thread changes for the rest: nothing, or what one datagram does. -/
inductive ReceiveChange (config : ServerRuntimeConfig) (runtime runtime' : ConcurrentRuntime) :
    RuntimeEvent → Prop
  | quiet (event) (hevent : event.IsQuiet) (hserver : runtime'.shared.server = runtime.shared.server)
    (hcounters : runtime'.shared.receiveSummary.counters = runtime.shared.receiveSummary.counters) :
    ReceiveChange config runtime runtime' event
  | received (io : ServerIo) (source bytes queuedAt)
    (hserver : runtime'.shared.server =
      (processReceivedPacketForVideoQueue config io runtime.shared.server source bytes queuedAt).1)
    (hcounters : runtime'.shared.receiveSummary.counters = (runtime.shared.receiveSummary.record
      (videoPacketNote config runtime.shared.server source bytes queuedAt)).counters) :
    ReceiveChange config runtime runtime' (.received source bytes queuedAt runtime.shared.server)

/-- The receive thread leaves what belongs to the handoff thread alone. -/
structure KeepsHandoff (runtime runtime' : ConcurrentRuntime) : Prop where
  handoffSummary : runtime'.shared.handoffSummary = runtime.shared.handoffSummary
  handoff : runtime'.handoff = runtime.handoff
  requestsServed : runtime'.requestsServed = runtime.requestsServed

section ReceiveStep

variable (config : ServerRuntimeConfig) (policy : ConcurrentRuntimePolicy) (runtime : ConcurrentRuntime)
  (input : ReceiveInput)

theorem receiveTurn_change :
    ReceiveChange config runtime (runtime.receiveTurn config policy input).1
        (runtime.receiveTurn config policy input).2 ∧
      KeepsHandoff runtime (runtime.receiveTurn config policy input).1 := by
  unfold ConcurrentRuntime.receiveTurn
  cases input.setReadTimeout (policy.effectiveReceiveTimeout input.elapsed) with
  | error kind => exact ⟨.quiet _ (.inr rfl) rfl rfl, rfl, rfl, rfl⟩
  | ok =>
    cases input.turn.received with
    | error kind =>
      dsimp only
      split
      next =>
        split
        next => exact ⟨.quiet _ (.inr rfl) rfl rfl, rfl, rfl, rfl⟩
        next => exact ⟨.quiet _ (.inr rfl) rfl rfl, rfl, rfl, rfl⟩
      next => exact ⟨.quiet _ (.inr rfl) rfl rfl, rfl, rfl, rfl⟩
    | ok datagram =>
      obtain ⟨source, bytes⟩ := datagram
      dsimp only
      rw [processReceivedPacketWithSummary_eq]
      cases (processReceivedPacketForVideoQueue config input.turn.io runtime.shared.server source bytes
        input.turn.queuedAt).2 with
      | error error => exact ⟨.received input.turn.io source bytes _ rfl rfl, rfl, rfl, rfl⟩
      | ok queue =>
        dsimp only
        split
        next => exact ⟨.received input.turn.io source bytes _ rfl rfl, rfl, rfl, rfl⟩
        next =>
          split
          next => exact ⟨.received input.turn.io source bytes _ rfl rfl, rfl, rfl, rfl⟩
          next => exact ⟨.received input.turn.io source bytes _ rfl rfl, rfl, rfl, rfl⟩

theorem receiveStep_change :
    ReceiveChange config runtime (runtime.receiveStep config policy input).1
        (runtime.receiveStep config policy input).2 ∧
      KeepsHandoff runtime (runtime.receiveStep config policy input).1 := by
  unfold ConcurrentRuntime.receiveStep
  cases hreceive : runtime.receive with
  | top =>
    dsimp only
    split
    next => exact ⟨.quiet _ (.inr rfl) rfl rfl, rfl, rfl, rfl⟩
    next =>
      split
      next => exact ⟨.quiet _ (.inr rfl) rfl rfl, rfl, rfl, rfl⟩
      next => exact ⟨.quiet _ (.inr rfl) rfl rfl, rfl, rfl, rfl⟩
  | finalizing reason => exact ⟨.quiet _ (.inr rfl) rfl rfl, rfl, rfl, rfl⟩
  | receiving => exact receiveTurn_change config policy runtime input
  | shuttingDown result => exact ⟨.quiet _ (.inr rfl) rfl rfl, rfl, rfl, rfl⟩
  | done result => exact ⟨.quiet _ (.inl rfl) rfl rfl, rfl, rfl, rfl⟩

end ReceiveStep

/-- The reasons after which the last answer is not known to have reached the switcher. -/
def ServerSwitcherNamedPipeManyRequestStopReason.afterAnswer : HandoffStopReason → Bool
  | .encodeResponse => true
  | .writeResponse => true
  | .flushResponse => true
  | _ => false

def ServerSwitcherNamedPipeManyRequestStopReason.isIoError : HandoffStopReason → Bool
  | .createPipe => true
  | .connect => true
  | .readRequest => true
  | .writeResponse => true
  | .flushResponse => true
  | _ => false

namespace HandoffThread

/-- The answer that the thread has given and not delivered. -/
def Holds : HandoffThread → Option (HandoffRequest × HandoffResponse) → Prop
  | writing request response, held => held = some (request, response)
  | failing error, held => held.isSome = (summarizeNamedPipeManyStopReason 0 0 error).1.afterAnswer
  | stopping reason, held => held.isSome = reason.afterAnswer
  | done reason, held => held.isSome = reason.afterAnswer
  | _, held => held = none

/-- The I/O errors that the thread has counted. -/
def ioErrors : HandoffThread → Nat
  | stopping reason => reason.isIoError.toNat
  | done reason => reason.isIoError.toNat
  | _ => 0

/-- The thread has passed the check of the number of requests, for one that is not served yet. -/
def isInRequest : HandoffThread → Bool
  | accepting => true
  | connected => true
  | reading => true
  | serving _ => true
  | writing .. => true
  | _ => false

end HandoffThread

section Counts

/-- The summary after these responses. -/
def handoffCounts (responses : List HandoffResponse) (ioErrors : Nat) : ConcurrentHandoffSummary where
  handoffRequests := responses.length
  frameReadCount := responses.countP fun
    | .frameRead .. => true
    | _ => false
  noFrameCount := responses.countP fun
    | .noFrame .. => true
    | _ => false
  decodableSourceNoneCount := responses.countP fun
    | .frameRead _ _ source _ _ _ => source = .none
    | .noFrame _ _ _ _ _ _ source _ _ => source = .none
    | _ => false
  decodableSourceQueueCount := responses.countP fun
    | .frameRead _ _ source _ _ _ => source = .queue
    | .noFrame _ _ _ _ _ _ source _ _ => source = .queue
    | _ => false
  decodableSourceRetainedKeyframeCount := responses.countP fun
    | .frameRead _ _ source _ _ _ => source = .retainedKeyframe
    | .noFrame _ _ _ _ _ _ source _ _ => source = .retainedKeyframe
    | _ => false
  ioErrorCount := ioErrors

theorem usizeSaturatingAdd_of_lt {n : Nat} (h : n < usizeMax) : usizeSaturatingAdd n 1 = n + 1 :=
  Nat.min_eq_left h

/-- As long as the numbers fit, the summary counts every response once. -/
theorem recordResponseProgress_counts {responses : List HandoffResponse} {ioErrors : Nat}
    (hfew : responses.length < usizeMax) (response : HandoffResponse) :
    (handoffCounts responses ioErrors).recordResponseProgress response =
      handoffCounts (responses ++ [response]) ioErrors := by
  have hcount (p : HandoffResponse → Bool) : responses.countP p < usizeMax :=
    List.countP_le_length.trans_lt hfew
  unfold ServerReceiveAuthVideoQueueHandoffContinuousHandoffSummary.recordResponseProgress
  cases response with
  | frameRead requestId remaining source available frameId frame =>
    cases source <;>
      simp [ServerReceiveAuthVideoQueueHandoffContinuousHandoffSummary.recordDecodableSource, handoffCounts,
        usizeSaturatingAdd_of_lt hfew, usizeSaturatingAdd_of_lt (hcount _)]
  | noFrame requestId clientId runId mode len reason source available frameId =>
    cases source <;>
      simp [ServerReceiveAuthVideoQueueHandoffContinuousHandoffSummary.recordDecodableSource, handoffCounts,
        usizeSaturatingAdd_of_lt hfew, usizeSaturatingAdd_of_lt (hcount _)]
  | handoffError requestId error => simp [handoffCounts, usizeSaturatingAdd_of_lt hfew]

end Counts

/-- The state at any time of a run, beside what its events were. -/
structure RuntimeInvariant (config : ServerRuntimeConfig) (policy : ConcurrentRuntimePolicy)
    (events : List RuntimeEvent) (runtime : ConcurrentRuntime) : Prop where
  queue : QueueInvariant (runtimeLog config events) runtime.shared.server.videoQueue
  queued : (entered (runtimeLog config events)).map ServerQueuedVideoFrame.frame =
    (runtimeNotes config events).filterMap VideoPacketNote.frame?
  evicted : leftFor .droppedOldest (runtimeLog config events) =
    (runtimeNotes config events).filterMap VideoPacketNote.evicted?
  popped : leftFor .popped (runtimeLog config events) = []
  dequeued : (leftFor .dequeued (runtimeLog config events)).map ServerQueuedVideoFrame.handoffFrame =
    (runtimeAnswers events).filterMap dequeuedFrame?
  origin : ∀ answer ∈ runtimeAnswers events, ∀ frame ∈ answer.2.frame?,
    ∃ queued ∈ entered (runtimeLog config events), frame = queued.handoffFrame
  received : runtime.shared.receiveSummary.counters =
    (VideoReceiveCounts.ofNotes (runtimeNotes config events)).summary
  answered : runtime.shared.handoffSummary =
    handoffCounts ((runtimeAnswers events).map Prod.snd) runtime.handoff.ioErrors
  held : ∃ held : Option (HandoffRequest × HandoffResponse),
    runtimeAnswers events = runtimeDeliveries events ++ held.toList ∧ runtime.handoff.Holds held
  served : runtime.requestsServed = (runtimeDeliveries events).length
  room : runtime.requestsServed ≤ policy.effectiveMaxHandoffRequests
  roomLeft : runtime.handoff.isInRequest = true → runtime.requestsServed < policy.effectiveMaxHandoffRequests
  running : ∀ panic, runtime.handoff ≠ .panicked panic

theorem RuntimeEvent.IsQuiet.observed {event : RuntimeEvent} (h : event.IsQuiet)
    (config : ServerRuntimeConfig) : event.note? config = none ∧ event.answer? = none ∧ event.delivery? = none ∧
      event.moves config = [] := by
  rcases h with rfl | rfl <;> exact ⟨rfl, rfl, rfl, rfl⟩

/-- A datagram moves the frame that it completes, and the one that makes room for it. -/
theorem packet_turn (config : ServerRuntimeConfig) (io : ServerIo) (state : ServerState)
    (source : PacketSource) (bytes : List UInt8) (queuedAt : TimestampMicros) :
    let note := videoPacketNote config state source bytes queuedAt
    let after := (processReceivedPacketForVideoQueue config io state source bytes queuedAt).1
    QueueTurn state.videoQueue note.moves after.videoQueue ∧
      (entered note.moves).map ServerQueuedVideoFrame.frame = note.frame?.toList ∧
      leftFor .droppedOldest note.moves = note.evicted?.toList ∧
      leftFor .popped note.moves = [] ∧ leftFor .dequeued note.moves = [] := by
  intro note after
  rcases videoQueue_packet config io state source bytes queuedAt with
    ⟨hnone, hsame⟩ | ⟨input, result, hfits, hframe, hresult, hstored⟩
  · have hframe : note.frame? = none := by
      have hsome := isSome_frame? note
      rw [show note.queueResult? = none from hnone] at hsome
      exact Option.not_isSome_iff_eq_none.mp (by rw [hsome]; exact Bool.false_ne_true)
    simp only [VideoPacketNote.moves, VideoPacketNote.evicted?, show note.queueResult? = none from hnone,
      hframe, show after.videoQueue = state.videoQueue from hsame]
    exact ⟨.keep, rfl, rfl, rfl, rfl⟩
  · have hmoves : note.moves = (applyQueueOp state.videoQueue (.storeFrame input queuedAt .default)).2.moves := by
      simp only [VideoPacketNote.moves, show note.queueResult? = some result from hresult, applyQueueOp, hstored]
    have hentered := QueueInvariant.entered_store state.videoQueue input queuedAt
    have hafter : after.videoQueue =
        (applyQueueOp state.videoQueue (.storeFrame input queuedAt .default)).1 := by
      simp only [applyQueueOp, hstored]
      rfl
    refine ⟨?_, ?_, ?_⟩
    · rw [hmoves, hafter]
      exact .store input queuedAt hfits
    · rw [hmoves, hentered, show note.frame? = some input.registeredPacket.frame from hframe]
      rfl
    · simp only [VideoPacketNote.moves, VideoPacketNote.evicted?,
        show note.queueResult? = some result from hresult]
      cases result with
      | stored queued previous current droppedOldest => cases droppedOldest <;> exact ⟨rfl, rfl, rfl⟩
      | dropped => exact ⟨rfl, rfl, rfl⟩

theorem leftFor_append (reason : Departure) (log log' : List (Move Departure ServerQueuedVideoFrame)) :
    leftFor reason (log ++ log') = leftFor reason log ++ leftFor reason log' := by
  simp [leftFor]

namespace RuntimeInvariant

variable {config : ServerRuntimeConfig} {policy : ConcurrentRuntimePolicy} {events : List RuntimeEvent}
  {runtime runtime' : ConcurrentRuntime}

theorem start : RuntimeInvariant config policy [] .start where
  queue := QueueInvariant.empty
  queued := rfl
  evicted := rfl
  popped := rfl
  dequeued := rfl
  origin answer hanswer := by cases hanswer
  received := rfl
  answered := rfl
  held := ⟨none, rfl, rfl⟩
  served := rfl
  room := Nat.zero_le _
  roomLeft h := by cases h
  running panic h := by cases h

/-- A step that nothing but one thread's own place shows. -/
theorem quiet (h : RuntimeInvariant config policy events runtime) {event : RuntimeEvent}
    (hevent : event.IsQuiet) (hserver : runtime'.shared.server = runtime.shared.server)
    (hcounters : runtime'.shared.receiveSummary.counters = runtime.shared.receiveSummary.counters)
    (hserved : runtime'.requestsServed = runtime.requestsServed)
    (hanswered : ∀ responses, runtime.shared.handoffSummary = handoffCounts responses runtime.handoff.ioErrors →
      runtime'.shared.handoffSummary = handoffCounts responses runtime'.handoff.ioErrors)
    (hholds : ∀ held, runtime.handoff.Holds held → runtime'.handoff.Holds held)
    (hroom : runtime'.handoff.isInRequest = true →
      runtime.requestsServed < policy.effectiveMaxHandoffRequests)
    (hrunning : ∀ panic, runtime'.handoff ≠ .panicked panic) :
    RuntimeInvariant config policy (events ++ [event]) runtime' := by
  obtain ⟨hnote, hanswer, hdelivery, hmoves⟩ := hevent.observed config
  have hlog : runtimeLog config (events ++ [event]) = runtimeLog config events := by
    rw [runtimeLog_concat, hmoves, List.append_nil]
  have hnotes : runtimeNotes config (events ++ [event]) = runtimeNotes config events := by
    rw [runtimeNotes_concat, hnote]
    exact List.append_nil _
  have hanswers : runtimeAnswers (events ++ [event]) = runtimeAnswers events := by
    rw [runtimeAnswers_concat, hanswer]
    exact List.append_nil _
  have hdeliveries : runtimeDeliveries (events ++ [event]) = runtimeDeliveries events := by
    rw [runtimeDeliveries_concat, hdelivery]
    exact List.append_nil _
  obtain ⟨held, hsplit, hheld⟩ := h.held
  refine ⟨?_, ?_, ?_, ?_, ?_, ?_, ?_, ?_, ?_, ?_, ?_, ?_, hrunning⟩
  · rw [hlog, hserver]
    exact h.queue
  · rw [hlog, hnotes]
    exact h.queued
  · rw [hlog, hnotes]
    exact h.evicted
  · rw [hlog]
    exact h.popped
  · rw [hlog, hanswers]
    exact h.dequeued
  · rw [hlog, hanswers]
    exact h.origin
  · rw [hcounters, hnotes]
    exact h.received
  · rw [hanswers]
    exact hanswered _ h.answered
  · rw [hanswers, hdeliveries]
    exact ⟨held, hsplit, hholds held hheld⟩
  · rw [hserved, hdeliveries]
    exact h.served
  · rw [hserved]
    exact h.room
  · rw [hserved]
    exact hroom

theorem received_step (h : RuntimeInvariant config policy events runtime) {io : ServerIo}
    {source : PacketSource} {bytes : List UInt8} {queuedAt : TimestampMicros}
    (hserver : runtime'.shared.server =
      (processReceivedPacketForVideoQueue config io runtime.shared.server source bytes queuedAt).1)
    (hcounters : runtime'.shared.receiveSummary.counters = (runtime.shared.receiveSummary.record
      (videoPacketNote config runtime.shared.server source bytes queuedAt)).counters)
    (hkeeps : KeepsHandoff runtime runtime') :
    RuntimeInvariant config policy
      (events ++ [.received source bytes queuedAt runtime.shared.server]) runtime' := by
  obtain ⟨hturn, hentered, hevicted, hpopped, hdequeued⟩ :=
    packet_turn config io runtime.shared.server source bytes queuedAt
  have hnotes := runtimeNotes_concat config events (.received source bytes queuedAt runtime.shared.server)
  have hlog := runtimeLog_concat config events (.received source bytes queuedAt runtime.shared.server)
  have hanswers : runtimeAnswers (events ++ [.received source bytes queuedAt runtime.shared.server]) =
      runtimeAnswers events := (runtimeAnswers_concat _ _).trans (List.append_nil _)
  have hdeliveries : runtimeDeliveries (events ++ [.received source bytes queuedAt runtime.shared.server]) =
      runtimeDeliveries events := (runtimeDeliveries_concat _ _).trans (List.append_nil _)
  simp only [RuntimeEvent.note?, Option.toList_some] at hnotes
  simp only [RuntimeEvent.moves] at hlog
  generalize videoPacketNote config runtime.shared.server source bytes queuedAt = note at *
  refine ⟨?_, ?_, ?_, ?_, ?_, ?_, ?_, ?_, ?_, ?_, ?_, ?_, ?_⟩
  · rw [hlog, hserver]
    exact h.queue.turn hturn
  · rw [hlog, hnotes, entered_append, List.map_append, h.queued, hentered,
      VideoReceiveCounts.filterMap_concat]
  · rw [hlog, hnotes, leftFor_append, h.evicted, hevicted, VideoReceiveCounts.filterMap_concat]
  · rw [hlog, leftFor_append, h.popped, hpopped, List.append_nil]
  · rw [hlog, hanswers, leftFor_append, hdequeued, List.append_nil]
    exact h.dequeued
  · rw [hlog, hanswers, entered_append]
    intro answer hanswer frame hframe
    obtain ⟨queued, hq, heq⟩ := h.origin answer hanswer frame hframe
    exact ⟨queued, List.mem_append_left _ hq, heq⟩
  · rw [hcounters, hnotes, VideoReceiveCounts.ofNotes_concat, ← VideoReceiveCounts.record_summary,
      ← h.received]
    exact ServerReceiveAuthVideoQueueOnceVideoSummary.counters_record runtime.shared.receiveSummary note
  · rw [hanswers, hkeeps.handoffSummary, hkeeps.handoff]
    exact h.answered
  · rw [hanswers, hdeliveries, hkeeps.handoff]
    exact h.held
  · rw [hkeeps.requestsServed, hdeliveries]
    exact h.served
  · rw [hkeeps.requestsServed]
    exact h.room
  · rw [hkeeps.handoff, hkeeps.requestsServed]
    exact h.roomLeft
  · rw [hkeeps.handoff]
    exact h.running

theorem receive (h : RuntimeInvariant config policy events runtime) (input : ReceiveInput) :
    RuntimeInvariant config policy (events ++ [(runtime.receiveStep config policy input).2])
      (runtime.receiveStep config policy input).1 := by
  obtain ⟨hchange, hkeeps⟩ := receiveStep_change config policy runtime input
  generalize runtime.receiveStep config policy input = result at hchange hkeeps
  obtain ⟨runtime', event⟩ := result
  cases hchange with
  | received io source bytes queuedAt hserver hcounters => exact h.received_step hserver hcounters hkeeps
  | quiet event hevent hserver hcounters =>
    refine h.quiet hevent hserver hcounters hkeeps.requestsServed ?_ ?_ ?_ ?_
    · rw [hkeeps.handoffSummary, hkeeps.handoff]
      exact fun _ hsummary => hsummary
    · rw [hkeeps.handoff]
      exact fun _ hheld => hheld
    · rw [hkeeps.handoff]
      exact h.roomLeft
    · rw [hkeeps.handoff]
      exact h.running

theorem answered_step (h : RuntimeInvariant config policy events runtime) {request : HandoffRequest}
    {response : HandoffResponse} (hserving : runtime.handoff = .serving request)
    (hanswer : AnswerTo runtime.shared.server.videoQueue request response)
    (hqueue : runtime'.shared.server.videoQueue = (requestTurn runtime.shared.server.videoQueue request).1)
    (hreceive : runtime'.shared.receiveSummary = runtime.shared.receiveSummary)
    (hsummary : runtime'.shared.handoffSummary = runtime.shared.handoffSummary.recordResponseProgress response)
    (hhandoff : runtime'.handoff = .writing request response)
    (hserved : runtime'.requestsServed = runtime.requestsServed) :
    RuntimeInvariant config policy
      (events ++ [.answered request response runtime.shared.server.videoQueue]) runtime' := by
  obtain ⟨hdequeued, hentered, hevicted, hpopped⟩ := hanswer.moves
  have horigin := hanswer.origin h.queue
  have hroom : runtime.requestsServed < policy.effectiveMaxHandoffRequests :=
    h.roomLeft (by rw [hserving]; rfl)
  have hmax : policy.effectiveMaxHandoffRequests ≤ usizeMax := policy.maxHandoffRequests_le
  -- the thread holds no answer yet, so every answer so far is delivered
  have hall : runtimeAnswers events = runtimeDeliveries events := by
    obtain ⟨held, hsplit, hheld⟩ := h.held
    rw [hserving] at hheld
    rw [hsplit, show held = none from hheld]
    exact List.append_nil _
  let event : RuntimeEvent := .answered request response runtime.shared.server.videoQueue
  have hlog : runtimeLog config (events ++ [event]) =
      runtimeLog config events ++ (requestTurn runtime.shared.server.videoQueue request).2 :=
    runtimeLog_concat config events event
  have hnotes : runtimeNotes config (events ++ [event]) = runtimeNotes config events :=
    (runtimeNotes_concat _ _ _).trans (List.append_nil _)
  have hanswers : runtimeAnswers (events ++ [event]) = runtimeAnswers events ++ [(request, response)] :=
    runtimeAnswers_concat events event
  have hdeliveries : runtimeDeliveries (events ++ [event]) = runtimeDeliveries events :=
    (runtimeDeliveries_concat _ _).trans (List.append_nil _)
  have hfew : ((runtimeAnswers events).map Prod.snd).length < usizeMax := by
    rw [List.length_map, hall, ← h.served]
    omega
  refine ⟨?_, ?_, ?_, ?_, ?_, ?_, ?_, ?_, ?_, ?_, ?_, ?_, ?_⟩
  · rw [hlog, hqueue]
    exact h.queue.turn (requestTurn_turn _ _)
  · rw [hlog, hnotes, entered_append, hentered, List.append_nil]
    exact h.queued
  · rw [hlog, hnotes, leftFor_append, hevicted, List.append_nil]
    exact h.evicted
  · rw [hlog, leftFor_append, h.popped, hpopped, List.append_nil]
  · rw [hlog, hanswers, leftFor_append, List.map_append, h.dequeued, hdequeued, List.filterMap_append]
    cases hframe : dequeuedFrame? (request, response) <;> simp [hframe]
  · rw [hlog, hanswers, entered_append, hentered, List.append_nil]
    intro answer hmem frame hframe
    rcases List.mem_append.mp hmem with hold | hnew
    · exact h.origin answer hold frame hframe
    · rw [List.mem_singleton.mp hnew] at hframe
      exact horigin frame hframe
  · rw [hreceive, hnotes]
    exact h.received
  · rw [hsummary, h.answered, hanswers, hhandoff, hserving, List.map_append]
    exact recordResponseProgress_counts hfew response
  · rw [hanswers, hdeliveries, hhandoff, hall]
    exact ⟨some (request, response), rfl, rfl⟩
  · rw [hserved, hdeliveries]
    exact h.served
  · rw [hserved]
    exact h.room
  · rw [hserved]
    exact fun _ => hroom
  · rw [hhandoff]
    exact fun _ => nofun

theorem delivered_step (h : RuntimeInvariant config policy events runtime) {request : HandoffRequest}
    {response : HandoffResponse} (hwriting : runtime.handoff = .writing request response)
    (hshared : runtime'.shared = runtime.shared) (hhandoff : runtime'.handoff = .top)
    (hserved : runtime'.requestsServed = usizeSaturatingAdd runtime.requestsServed 1) :
    RuntimeInvariant config policy (events ++ [.delivered request response]) runtime' := by
  have hroom : runtime.requestsServed < policy.effectiveMaxHandoffRequests :=
    h.roomLeft (by rw [hwriting]; rfl)
  have hmax : policy.effectiveMaxHandoffRequests ≤ usizeMax := policy.maxHandoffRequests_le
  rw [usizeSaturatingAdd_of_lt (hroom.trans_le hmax)] at hserved
  have hlast : runtimeAnswers events = runtimeDeliveries events ++ [(request, response)] := by
    obtain ⟨held, hsplit, hheld⟩ := h.held
    rw [hwriting] at hheld
    rw [hsplit, show held = some (request, response) from hheld]
    rfl
  let event : RuntimeEvent := .delivered request response
  have hlog : runtimeLog config (events ++ [event]) = runtimeLog config events :=
    (runtimeLog_concat config events event).trans (List.append_nil _)
  have hnotes : runtimeNotes config (events ++ [event]) = runtimeNotes config events :=
    (runtimeNotes_concat _ _ _).trans (List.append_nil _)
  have hanswers : runtimeAnswers (events ++ [event]) = runtimeAnswers events :=
    (runtimeAnswers_concat _ _).trans (List.append_nil _)
  have hdeliveries : runtimeDeliveries (events ++ [event]) =
      runtimeDeliveries events ++ [(request, response)] := runtimeDeliveries_concat events event
  refine ⟨?_, ?_, ?_, ?_, ?_, ?_, ?_, ?_, ?_, ?_, ?_, ?_, ?_⟩
  · rw [hlog, hshared]
    exact h.queue
  · rw [hlog, hnotes]
    exact h.queued
  · rw [hlog, hnotes]
    exact h.evicted
  · rw [hlog]
    exact h.popped
  · rw [hlog, hanswers]
    exact h.dequeued
  · rw [hlog, hanswers]
    exact h.origin
  · rw [hshared, hnotes]
    exact h.received
  · have hanswered := h.answered
    rw [hwriting] at hanswered
    rw [hshared, hanswers, hhandoff]
    exact hanswered
  · rw [hanswers, hdeliveries, hhandoff]
    exact ⟨none, by rw [hlast]; exact (List.append_nil _).symm, rfl⟩
  · rw [hserved, hdeliveries, h.served, List.length_append, List.length_singleton]
  · rw [hserved]
    exact hroom
  · rw [hhandoff]
    nofun
  · rw [hhandoff]
    exact fun _ => nofun

/-- A step of the handoff thread that only brings it to another place. -/
theorem moves_to (h : RuntimeInvariant config policy events runtime) (stopRequested : Bool)
    (handoff : HandoffThread) (hio : handoff.ioErrors = runtime.handoff.ioErrors)
    (hholds : ∀ held, runtime.handoff.Holds held → handoff.Holds held)
    (hroom : handoff.isInRequest = true → runtime.requestsServed < policy.effectiveMaxHandoffRequests)
    (hrunning : ∀ panic, handoff ≠ .panicked panic) :
    RuntimeInvariant config policy (events ++ [.internal]) { runtime with stopRequested, handoff } :=
  h.quiet (.inr rfl) rfl rfl rfl
    (fun responses hsummary => by
      rw [hsummary]
      exact congrArg _ hio.symm)
    hholds hroom hrunning

theorem handoff (h : RuntimeInvariant config policy events runtime) (input : HandoffInput) :
    RuntimeInvariant config policy (events ++ [(runtime.handoffStep policy input).2])
      (runtime.handoffStep policy input).1 := by
  have hroom := h.roomLeft
  unfold ConcurrentRuntime.handoffStep
  cases hhandoff : runtime.handoff with
  | top =>
    dsimp only
    split
    next => exact h.moves_to _ _ (by rw [hhandoff]; rfl) (by rw [hhandoff]; rintro _ rfl; rfl) nofun nofun
    next =>
      split
      next => exact h.moves_to _ _ (by rw [hhandoff]; rfl) (by rw [hhandoff]; rintro _ rfl; rfl) nofun nofun
      next hless =>
        exact h.moves_to _ _ (by rw [hhandoff]; rfl) (by rw [hhandoff]; exact fun _ hheld => hheld)
          (fun _ => Nat.lt_of_not_le hless) nofun
  | accepting =>
    rw [hhandoff] at hroom
    dsimp only
    cases input.create with
    | error kind =>
      exact h.moves_to _ _ (by rw [hhandoff]; rfl) (by rw [hhandoff]; rintro _ rfl; rfl) nofun nofun
    | ok =>
      cases input.connect with
      | error kind =>
        exact h.moves_to _ _ (by rw [hhandoff]; rfl) (by rw [hhandoff]; rintro _ rfl; rfl) nofun nofun
      | ok =>
        exact h.moves_to _ _ (by rw [hhandoff]; rfl) (by rw [hhandoff]; exact fun _ hheld => hheld) hroom
          nofun
  | connected =>
    rw [hhandoff] at hroom
    dsimp only
    split
    next => exact h.moves_to _ _ (by rw [hhandoff]; rfl) (by rw [hhandoff]; rintro _ rfl; rfl) nofun nofun
    next =>
      exact h.moves_to _ _ (by rw [hhandoff]; rfl) (by rw [hhandoff]; exact fun _ hheld => hheld) hroom nofun
  | reading =>
    rw [hhandoff] at hroom
    dsimp only
    cases input.request with
    | error kind =>
      exact h.moves_to _ _ (by rw [hhandoff]; rfl) (by rw [hhandoff]; rintro _ rfl; rfl) nofun nofun
    | ok frame =>
      dsimp only
      cases decodeRequestFrame frame with
      | error error =>
        exact h.moves_to _ _ (by rw [hhandoff]; rfl) (by rw [hhandoff]; rintro _ rfl; rfl) nofun nofun
      | ok request =>
        exact h.moves_to _ _ (by rw [hhandoff]; rfl) (by rw [hhandoff]; exact fun _ hheld => hheld) hroom
          nofun
  | serving request =>
    obtain ⟨response, hhandle, hanswer⟩ := handleRequest_answers h.queue request
    dsimp only
    rw [hhandle]
    exact h.answered_step hhandoff hanswer rfl rfl rfl rfl rfl
  | writing request response =>
    have hfails (error : ServerSwitcherNamedPipeOneRequestRuntimeError)
        (herror : (summarizeNamedPipeManyStopReason 0 0 error).1.afterAnswer = true) :
        RuntimeInvariant config policy (events ++ [.internal]) { runtime with handoff := .failing error } := by
      refine h.moves_to _ _ (by rw [hhandoff]; rfl) ?_ nofun nofun
      rw [hhandoff]
      rintro _ rfl
      exact herror.symm
    dsimp only
    cases encodeResponseFrame response with
    | error error => exact hfails _ rfl
    | ok frame =>
      cases input.write with
      | error kind => exact hfails _ rfl
      | ok =>
        cases input.flush with
        | error kind => exact hfails _ rfl
        | ok => exact h.delivered_step hhandoff rfl rfl rfl
  | failing error =>
    dsimp only
    refine h.quiet (.inr rfl) rfl rfl rfl ?_ ?_ nofun nofun
    · rw [hhandoff]
      intro responses hsummary
      rw [hsummary]
      cases error <;> rfl
    · rw [hhandoff]
      exact fun _ hheld => hheld
  | stopping reason =>
    exact h.moves_to _ _ (by rw [hhandoff]; rfl) (by rw [hhandoff]; exact fun _ hheld => hheld) nofun nofun
  | done reason =>
    refine h.quiet (.inl rfl) rfl rfl rfl (fun _ hsummary => hsummary) (fun _ hheld => hheld) hroom ?_
    exact h.running
  | panicked panic => exact absurd hhandoff (h.running panic)

end RuntimeInvariant

section Run

variable (config : ServerRuntimeConfig) (policy : ConcurrentRuntimePolicy)

/-- The runtime after the threads took those steps, in that order, and what the steps were. -/
def ConcurrentRuntime.goOn (runtime : ConcurrentRuntime) (actions : List RuntimeAction) :
    ConcurrentRuntime × List RuntimeEvent :=
  run (fun runtime action => runtime.step config policy action) runtime actions

def runConcurrent (actions : List RuntimeAction) : ConcurrentRuntime × List RuntimeEvent :=
  ConcurrentRuntime.start.goOn config policy actions

theorem runConcurrent_invariant (actions : List RuntimeAction) :
    RuntimeInvariant config policy (runConcurrent config policy actions).2
      (runConcurrent config policy actions).1 := by
  refine run_invariant (P := fun _ => True) (fun _ runtime events =>
    RuntimeInvariant config policy events runtime) .start ?_ actions fun _ _ => trivial
  intro ins runtime events action _ h
  cases action with
  | receive input => exact h.receive input
  | handoff input => exact h.handoff input

end Run

end StreamSync
