import StreamSync.Lib.Run
import StreamSync.Lib.Lanes
import StreamSync.VideoQueue

namespace StreamSync

open KeyedTable Lanes Run

/-- What callers do with a queue state. -/
inductive QueueOp where
  | storeFrame (input : ServerVideoFrameHandlerInput) (queuedAt : TimestampMicros)
      (policy : ServerVideoFrameQueuePolicy)
  | read (input : ServerVideoFrameQueueReadInput)
  | popFront (clientId : ClientId)
deriving DecidableEq

inductive QueueOutput where
  | stored (result : ServerVideoFrameQueueStorageResult)
  | read (result : ServerVideoFrameQueueReadResult)
  | popped (frame : Option ServerQueuedVideoFrame)
deriving DecidableEq

def QueueOp.clientId : QueueOp → ClientId
  | .storeFrame input _ _ => input.registeredPacket.frame.clientId
  | .read input => input.clientId
  | .popFront clientId => clientId

/-- The frames that a call asks the queue to take in. A policy without room takes none. -/
def QueueOp.storedFrames : QueueOp → List ServerQueuedVideoFrame
  | .storeFrame input queuedAt policy =>
    if policy.maxFramesPerClient = 0 then [] else [queuedFrame input queuedAt]
  | .read _ => []
  | .popFront _ => []

/-- The frames that a run of calls stored, in order. -/
def storedFrames (ops : List QueueOp) : List ServerQueuedVideoFrame := ops.flatMap QueueOp.storedFrames

def applyQueueOp (state : ServerVideoFrameQueueState) : QueueOp → ServerVideoFrameQueueState × QueueOutput
  | .storeFrame input queuedAt policy =>
    let result := storeFrame state input queuedAt policy
    (result.1, .stored result.2)
  | .read input =>
    let result := state.read input
    (result.1, .read result.2)
  | .popFront clientId =>
    let result := state.popFront clientId
    (result.1, .popped result.2)

def runQueue (ops : List QueueOp) : ServerVideoFrameQueueState × List QueueOutput :=
  run applyQueueOp .empty ops

/-- How a frame left its queue. -/
inductive Departure where
  | dequeued | droppedOldest | popped
deriving DecidableEq

/-- The frames that an output reports as stored or gone. -/
def QueueOutput.moves : QueueOutput → List (Move Departure ServerQueuedVideoFrame)
  | .stored (.stored queued _ _ droppedOldest) =>
    droppedOldest.toList.map (.leave .droppedOldest) ++ [.enter queued]
  | .stored (.dropped _ _) => []
  | .read (.frameAvailable frame .dequeueOldest _ _ _ _) => [.leave .dequeued frame]
  | .read _ => []
  | .popped frame => frame.toList.map (.leave .popped)

def queueLog (outs : List QueueOutput) : List (Move Departure ServerQueuedVideoFrame) :=
  outs.flatMap QueueOutput.moves

def runOf (queued : ServerQueuedVideoFrame) : RunId := queued.frame.runId

/-- The client and run of a queued frame. -/
def scope (queued : ServerQueuedVideoFrame) : ClientId × RunId :=
  (queued.frame.clientId, queued.frame.runId)

theorem lane_scope_of_client {clientId : ClientId} {frames : List ServerQueuedVideoFrame}
    (h : ∀ q ∈ frames, q.frame.clientId = clientId) (runId : RunId) :
    lane scope (clientId, runId) frames = lane runOf runId frames := by
  refine List.filter_congr fun q hq => decide_eq_decide.mpr ?_
  simp [scope, runOf, h q hq]

theorem lane_scope_of_ne {clientId : ClientId} {frames : List ServerQueuedVideoFrame}
    (h : ∀ q ∈ frames, q.frame.clientId ≠ clientId) (runId : RunId) :
    lane scope (clientId, runId) frames = [] := by
  refine List.filter_eq_nil_iff.mpr fun q hq => ?_
  simp [scope, h q hq]

/-- What one operation can do to the queue of the client it is for. -/
inductive QueueChange (clientId : ClientId) : List ServerQueuedVideoFrame →
    List (Move Departure ServerQueuedVideoFrame) → List ServerQueuedVideoFrame → Prop where
  | keep {queue} : QueueChange clientId queue [] queue
  | push {queue} (queued) (hc : queued.frame.clientId = clientId) :
    QueueChange clientId queue [.enter queued] (queue ++ [queued])
  | shift {queue} (oldest queued) (hc : queued.frame.clientId = clientId) :
    QueueChange clientId (oldest :: queue) [.leave .droppedOldest oldest, .enter queued] (queue ++ [queued])
  | take {queue} (why : Departure) (runId : RunId) {frame}
      (h : queue.find? (fun q => runOf q = runId) = some frame) :
    QueueChange clientId queue [.leave why frame] (queue.eraseP fun q => runOf q = runId)

section QueueChange

variable {clientId : ClientId} {queue queue' : List ServerQueuedVideoFrame}
  {moves : List (Move Departure ServerQueuedVideoFrame)}

theorem QueueChange.balances (h : QueueChange clientId queue moves queue') (r : RunId) :
    lane runOf r queue ++ lane runOf r (entered moves) =
      lane runOf r (left moves) ++ lane runOf r queue' := by
  cases h with
  | keep => exact List.append_nil _
  | push queued => exact (lane_append runOf r queue [queued]).symm
  | @shift queue oldest queued =>
    show lane runOf r (oldest :: queue) ++ lane runOf r [queued] =
      lane runOf r [oldest] ++ lane runOf r (queue ++ [queued])
    rw [lane_cons, lane_append, List.append_assoc]
  | take why runId h =>
    show lane runOf r queue ++ [] = lane runOf r [_] ++ _
    rw [List.append_nil]
    exact lane_eraseP runOf h r

theorem QueueChange.entered_client (h : QueueChange clientId queue moves queue') :
    ∀ q ∈ entered moves, q.frame.clientId = clientId := by
  intro q hq
  cases h with
  | keep => cases hq
  | push queued hc => cases List.mem_singleton.mp hq; exact hc
  | shift oldest queued hc => cases List.mem_singleton.mp hq; exact hc
  | take why runId h => cases hq

theorem QueueChange.left_mem (h : QueueChange clientId queue moves queue') :
    ∀ q ∈ left moves, q ∈ queue := by
  intro q hq
  cases h with
  | keep => cases hq
  | push queued hc => cases hq
  | shift oldest queued hc => cases List.mem_singleton.mp hq; exact List.mem_cons_self
  | take why runId h => cases List.mem_singleton.mp hq; exact List.mem_of_find?_eq_some h

theorem QueueChange.mem (h : QueueChange clientId queue moves queue') {q : ServerQueuedVideoFrame}
    (hq : q ∈ queue') : q ∈ queue ∨ q ∈ entered moves := by
  cases h with
  | keep => exact .inl hq
  | push queued hc => exact (List.mem_append.mp hq)
  | shift oldest queued hc =>
    rcases List.mem_append.mp hq with hq | hq
    · exact .inl (List.mem_cons_of_mem _ hq)
    · exact .inr hq
  | take why runId h => exact .inl (List.mem_of_mem_eraseP hq)

end QueueChange

namespace ServerVideoFrameQueueState

/-- No client keeps an empty queue, and every queue holds frames of its client only. -/
structure WellFormed (state : ServerVideoFrameQueueState) : Prop where
  nonempty : ∀ (clientId : ClientId) (queue : List ServerQueuedVideoFrame),
    state.framesByClientId[clientId]? = some queue → queue ≠ []
  keyed : ∀ clientId : ClientId, ∀ q ∈ state.framesForClient clientId, q.frame.clientId = clientId

theorem empty_wellFormed : empty.WellFormed :=
  ⟨fun _ _ h => by simp [empty] at h, fun _ _ h => by simp [empty, framesForClient] at h⟩

theorem framesByClientId_putQueue (state : ServerVideoFrameQueueState) (clientId d : ClientId)
    (queue : List ServerQueuedVideoFrame) :
    (state.putQueue clientId queue).framesByClientId[d]? =
      if clientId = d then (if queue = [] then none else some queue) else state.framesByClientId[d]? := by
  unfold putQueue
  cases queue with
  | nil => simp [getElem?_erase_eq]
  | cons q queue => simp [getElem?_insert_eq]

theorem framesForClient_putQueue (state : ServerVideoFrameQueueState) (clientId d : ClientId)
    (queue : List ServerQueuedVideoFrame) :
    (state.putQueue clientId queue).framesForClient d =
      if clientId = d then queue else state.framesForClient d := by
  unfold framesForClient
  rw [framesByClientId_putQueue]
  split
  next => cases queue <;> rfl
  next => rfl

@[simp] theorem retained_putQueue (state : ServerVideoFrameQueueState) (clientId : ClientId)
    (queue : List ServerQueuedVideoFrame) :
    (state.putQueue clientId queue).retainedKeyframeByClientRun = state.retainedKeyframeByClientRun := by
  unfold putQueue
  split <;> rfl

/-- The index arithmetic of the source takes out the first frame of the run. -/
theorem popFrontForClientRun_eq (state : ServerVideoFrameQueueState) (clientId : ClientId)
    (runId : RunId) :
    state.popFrontForClientRun clientId runId =
      match (state.framesForClient clientId).find? fun q => q.frame.runId = runId with
      | none => (state, none)
      | some frame =>
        (state.putQueue clientId ((state.framesForClient clientId).eraseP fun q => q.frame.runId = runId),
          some frame) := by
  unfold popFrontForClientRun framesForClient
  cases state.framesByClientId[clientId]? with
  | none => rfl
  | some queue =>
    simp only [Option.getD_some, List.eraseP_eq_eraseIdx, List.find?_eq_bind_findIdx?_getElem?]
    cases h : queue.findIdx? fun q => q.frame.runId = runId with
    | none => rfl
    | some i =>
      have hi : i < queue.length := (List.findIdx?_eq_some_iff_findIdx_eq.mp h).1
      simp [List.getElem?_eq_getElem hi]

theorem read_state (state : ServerVideoFrameQueueState) (input : ServerVideoFrameQueueReadInput) :
    (state.read input).1 = (selectFrame state input).1 := by
  unfold read
  dsimp only
  split
  next h => rw [h]
  next h => rw [h]

theorem read_frame? (state : ServerVideoFrameQueueState) (input : ServerVideoFrameQueueReadInput) :
    (state.read input).2.frame? = (selectFrame state input).2.1 := by
  unfold read
  dsimp only
  split
  next h => rw [h]; rfl
  next h => rw [h]; rfl

theorem read_inspect (state : ServerVideoFrameQueueState) {input : ServerVideoFrameQueueReadInput}
    (h : input.mode ≠ .dequeueOldest) : (state.read input).1 = state := by
  rw [read_state]
  obtain ⟨clientId, runId, mode⟩ := input
  cases mode with
  | inspectOldest => rfl
  | inspectLatest => rfl
  | inspectLatestDecodable =>
    unfold selectFrame
    dsimp only
    split
    next => rfl
    next => split <;> rfl
  | dequeueOldest => exact absurd rfl h

theorem read_dequeue (state : ServerVideoFrameQueueState) (clientId : ClientId) (runId : RunId) :
    (state.read ⟨clientId, runId, .dequeueOldest⟩).1 = (state.popFrontForClientRun clientId runId).1 ∧
      (QueueOutput.read (state.read ⟨clientId, runId, .dequeueOldest⟩).2).moves =
        (state.popFrontForClientRun clientId runId).2.toList.map (.leave .dequeued) := by
  refine ⟨read_state _ _, ?_⟩
  unfold read selectFrame
  dsimp only
  cases h : (state.popFrontForClientRun clientId runId).2 with
  | none => rfl
  | some frame => rfl

theorem moves_read_inspect (state : ServerVideoFrameQueueState) {input : ServerVideoFrameQueueReadInput}
    (h : input.mode ≠ .dequeueOldest) : (QueueOutput.read (state.read input).2).moves = [] := by
  obtain ⟨clientId, runId, mode⟩ := input
  unfold read
  dsimp only
  split
  next => cases mode <;> first | rfl | exact absurd rfl h
  next => rfl

theorem popFrontForClientRun_change (state : ServerVideoFrameQueueState) (clientId : ClientId)
    (runId : RunId) :
    QueueChange clientId (state.framesForClient clientId)
      ((state.popFrontForClientRun clientId runId).2.toList.map (.leave .dequeued))
      ((state.popFrontForClientRun clientId runId).1.framesForClient clientId) := by
  rw [popFrontForClientRun_eq]
  split
  next => exact .keep
  next frame h =>
    rw [framesForClient_putQueue, if_pos rfl]
    exact .take .dequeued runId h

theorem popFront_change (state : ServerVideoFrameQueueState) (clientId : ClientId) :
    QueueChange clientId (state.framesForClient clientId)
      ((state.popFront clientId).2.toList.map (.leave .popped))
      ((state.popFront clientId).1.framesForClient clientId) := by
  unfold popFront
  split
  next => exact .keep
  next queue h =>
    have hq : state.framesForClient clientId = queue := by
      rw [framesForClient, h]
      rfl
    rw [framesForClient_putQueue, if_pos rfl, hq]
    cases queue with
    | nil => exact .keep
    | cons frame queue =>
      have hfind : (frame :: queue).find? (fun q => runOf q = runOf frame) = some frame := by simp
      have hrest : (frame :: queue).eraseP (fun q => runOf q = runOf frame) = queue := by simp
      have hc : QueueChange clientId (frame :: queue) [.leave .popped frame] _ :=
        .take .popped (runOf frame) hfind
      rw [hrest] at hc
      exact hc

theorem entered_popped (frame : Option ServerQueuedVideoFrame) :
    entered (QueueOutput.popped frame).moves = [] := by
  cases frame <;> rfl

theorem entered_read (result : ServerVideoFrameQueueReadResult) :
    entered (QueueOutput.read result).moves = [] := by
  cases result with
  | frameAvailable frame mode => cases mode <;> rfl
  | noFrameAvailable => rfl

theorem entered_storeFrame (state : ServerVideoFrameQueueState) (input : ServerVideoFrameHandlerInput)
    (queuedAt : TimestampMicros) (policy : ServerVideoFrameQueuePolicy) :
    entered (QueueOutput.stored (storeFrame state input queuedAt policy).2).moves =
      (QueueOp.storeFrame input queuedAt policy).storedFrames := by
  rw [QueueOp.storedFrames]
  unfold storeFrame
  by_cases hmax : policy.maxFramesPerClient = 0
  · rw [if_pos hmax, if_pos hmax]
    rfl
  · rw [if_neg hmax, if_neg hmax]
    dsimp only [QueueOutput.moves]
    rw [entered_append]
    cases (evictOldest policy _).1 <;> rfl

theorem framesForClient_storeFrame (state : ServerVideoFrameQueueState)
    (input : ServerVideoFrameHandlerInput) (queuedAt : TimestampMicros)
    {policy : ServerVideoFrameQueuePolicy} (hmax : policy.maxFramesPerClient ≠ 0) :
    (storeFrame state input queuedAt policy).1.framesForClient input.registeredPacket.frame.clientId =
      (evictOldest policy (state.framesForClient input.registeredPacket.frame.clientId)).2 ++
        [queuedFrame input queuedAt] := by
  unfold storeFrame
  rw [if_neg hmax]
  simp [framesForClient]

theorem storeFrame_change (state : ServerVideoFrameQueueState) (input : ServerVideoFrameHandlerInput)
    (queuedAt : TimestampMicros) (policy : ServerVideoFrameQueuePolicy) :
    QueueChange input.registeredPacket.frame.clientId
      (state.framesForClient input.registeredPacket.frame.clientId)
      (QueueOutput.stored (storeFrame state input queuedAt policy).2).moves
      ((storeFrame state input queuedAt policy).1.framesForClient
        input.registeredPacket.frame.clientId) := by
  by_cases hmax : policy.maxFramesPerClient = 0
  · unfold storeFrame
    rw [if_pos hmax]
    exact .keep
  · rw [framesForClient_storeFrame state input queuedAt hmax]
    unfold storeFrame
    rw [if_neg hmax]
    dsimp only
    generalize state.framesForClient input.registeredPacket.frame.clientId = queue
    unfold evictOldest
    split
    next hfull =>
      cases queue with
      | nil => exact absurd (Nat.le_zero.mp hfull) hmax
      | cons oldest queue => exact .shift oldest (queuedFrame input queuedAt) rfl
    next => exact .push (queuedFrame input queuedAt) rfl

theorem framesByClientId_storeFrame (state : ServerVideoFrameQueueState)
    (input : ServerVideoFrameHandlerInput) (queuedAt : TimestampMicros)
    (policy : ServerVideoFrameQueuePolicy) {d : ClientId}
    (hd : d ≠ input.registeredPacket.frame.clientId) :
    (storeFrame state input queuedAt policy).1.framesByClientId[d]? = state.framesByClientId[d]? := by
  unfold storeFrame
  split
  next => rfl
  next => simp [getElem?_insert_eq, Ne.symm hd]

theorem framesByClientId_popFrontForClientRun (state : ServerVideoFrameQueueState)
    (clientId : ClientId) (runId : RunId) {d : ClientId} (hd : d ≠ clientId) :
    (state.popFrontForClientRun clientId runId).1.framesByClientId[d]? = state.framesByClientId[d]? := by
  rw [popFrontForClientRun_eq]
  split
  next => rfl
  next => rw [framesByClientId_putQueue, if_neg (Ne.symm hd)]

theorem framesByClientId_popFront (state : ServerVideoFrameQueueState) (clientId : ClientId)
    {d : ClientId} (hd : d ≠ clientId) :
    (state.popFront clientId).1.framesByClientId[d]? = state.framesByClientId[d]? := by
  unfold popFront
  split
  next => rfl
  next => rw [framesByClientId_putQueue, if_neg (Ne.symm hd)]

end ServerVideoFrameQueueState

open ServerVideoFrameQueueState

/-- What the outputs report as stored is what the calls asked to store. -/
theorem entered_applyQueueOp (state : ServerVideoFrameQueueState) (op : QueueOp) :
    entered (applyQueueOp state op).2.moves = op.storedFrames := by
  cases op with
  | storeFrame input queuedAt policy => exact entered_storeFrame state input queuedAt policy
  | read input => exact entered_read _
  | popFront clientId => exact entered_popped _

theorem entered_queueLog (ops : List QueueOp) :
    entered (queueLog (runQueue ops).2) = storedFrames ops := by
  refine run_invariant (P := fun _ => True) (fun ins (_ : ServerVideoFrameQueueState) outs =>
    entered (queueLog outs) = storedFrames ins) rfl ?_ ops fun _ _ => trivial
  intro ins state outs op _ h
  have hlog : queueLog (outs ++ [(applyQueueOp state op).2]) =
      queueLog outs ++ (applyQueueOp state op).2.moves := by
    simp [queueLog]
  have hstored : storedFrames (ins ++ [op]) = storedFrames ins ++ op.storedFrames := by
    simp [storedFrames]
  rw [hlog, entered_append, h, hstored, entered_applyQueueOp]

/-- One step on the client it is for. -/
theorem applyQueueOp_change (state : ServerVideoFrameQueueState) (op : QueueOp) :
    QueueChange op.clientId (state.framesForClient op.clientId) (applyQueueOp state op).2.moves
      ((applyQueueOp state op).1.framesForClient op.clientId) := by
  cases op with
  | storeFrame input queuedAt policy => exact storeFrame_change state input queuedAt policy
  | popFront clientId =>
    have h := popFront_change state clientId
    exact h
  | read input =>
    by_cases hm : input.mode = .dequeueOldest
    · obtain ⟨clientId, runId, mode⟩ := input
      cases hm
      obtain ⟨hs, hmoves⟩ := read_dequeue state clientId runId
      show QueueChange clientId (state.framesForClient clientId)
        (QueueOutput.read (state.read ⟨clientId, runId, .dequeueOldest⟩).2).moves
        ((state.read ⟨clientId, runId, .dequeueOldest⟩).1.framesForClient clientId)
      rw [hs, hmoves]
      exact popFrontForClientRun_change state clientId runId
    · show QueueChange input.clientId (state.framesForClient input.clientId)
        (QueueOutput.read (state.read input).2).moves ((state.read input).1.framesForClient input.clientId)
      rw [read_inspect state hm, moves_read_inspect state hm]
      exact .keep

/-- One step leaves the queues of all other clients as they are. -/
theorem applyQueueOp_other (state : ServerVideoFrameQueueState) (op : QueueOp) {d : ClientId}
    (hd : d ≠ op.clientId) :
    (applyQueueOp state op).1.framesByClientId[d]? = state.framesByClientId[d]? := by
  cases op with
  | storeFrame input queuedAt policy => exact framesByClientId_storeFrame state input queuedAt policy hd
  | popFront clientId => exact framesByClientId_popFront state clientId hd
  | read input =>
    by_cases hm : input.mode = .dequeueOldest
    · obtain ⟨clientId, runId, mode⟩ := input
      cases hm
      show (state.read ⟨clientId, runId, .dequeueOldest⟩).1.framesByClientId[d]? = _
      rw [(read_dequeue state clientId runId).1]
      exact framesByClientId_popFrontForClientRun state clientId runId hd
    · show (state.read input).1.framesByClientId[d]? = _
      rw [read_inspect state hm]

theorem framesForClient_other (state : ServerVideoFrameQueueState) (op : QueueOp) {d : ClientId}
    (hd : d ≠ op.clientId) :
    (applyQueueOp state op).1.framesForClient d = state.framesForClient d := by
  unfold framesForClient
  rw [applyQueueOp_other state op hd]

end StreamSync
