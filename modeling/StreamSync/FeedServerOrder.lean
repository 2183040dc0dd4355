import StreamSync.ContinuousFeed

namespace StreamSync

open KeyedTable ServerVideoFrameQueueState

theorem QueueChange.sublist {clientId : ClientId} {queue queue' : List ServerQueuedVideoFrame}
    {moves : List (Lanes.Move Departure ServerQueuedVideoFrame)} (h : QueueChange clientId queue moves queue') :
    queue'.Sublist (queue ++ Lanes.entered moves) := by
  cases h with
  | keep => exact List.sublist_append_left _ _
  | push queued _ => exact List.Sublist.refl _
  | shift oldest queued _ => exact List.sublist_cons_self oldest _
  | take why runId _ => exact List.eraseP_sublist.trans (List.sublist_append_left _ _)

/-- The frame that a store call brings. -/
def StoreCall.queued (call : StoreCall) : ServerQueuedVideoFrame := queuedFrame call.input call.queuedAt

def TwoRealContinuousDecodeSource.scope (source : TwoRealContinuousDecodeSource) : ClientId × RunId :=
  (source.clientId, source.runId)

/-- The frame ids that store calls bring of one source. -/
def storedIds (source : TwoRealContinuousDecodeSource) (calls : List StoreCall) : List UInt64 :=
  ((calls.map StoreCall.queued).filter fun queued => scope queued = source.scope).map
    fun queued => queued.frame.frameId

/-- The frames of a source in the server's queue. -/
def sourceQueue (source : TwoRealContinuousDecodeSource) (queue : ServerVideoFrameQueueState) :
    List ServerQueuedVideoFrame := queue.framesForClientRun source.clientId source.runId

section

variable {source : TwoRealContinuousDecodeSource} {queue queue' : ServerVideoFrameQueueState}
  {seen seen' : List UInt64}

theorem storedIds_append (source : TwoRealContinuousDecodeSource) (calls calls' : List StoreCall) :
    storedIds source (calls ++ calls') = storedIds source calls ++ storedIds source calls' := by
  simp [storedIds]

/-- Every queue holds frames of its client only. -/
def Keyed (queue : ServerVideoFrameQueueState) : Prop :=
  ∀ clientId : ClientId, ∀ q ∈ queue.framesForClient clientId, q.frame.clientId = clientId

/-- Everything that the server keeps of a source was stored, and its queue is in order of the frame
ids. -/
structure QueueInOrder (source : TwoRealContinuousDecodeSource) (seen : List UInt64)
    (queue : ServerVideoFrameQueueState) : Prop where
  sorted : (sourceQueue source queue).Pairwise fun q q' => q.frame.frameId < q'.frame.frameId
  keyed : Keyed queue
  queued : ∀ q ∈ sourceQueue source queue, q.frame.frameId ∈ seen
  retained : ∀ (key : String) (q : ServerQueuedVideoFrame), queue.retainedKeyframeByClientRun[key]? = some q →
    scope q = source.scope → q.frame.frameId ∈ seen

theorem queueInOrder_empty (source : TwoRealContinuousDecodeSource) : QueueInOrder source [] .empty := by
  refine ⟨List.Pairwise.nil, fun _ _ hq => ?_, fun _ hq => ?_, fun key q hq => ?_⟩
  · simp [framesForClient, ServerVideoFrameQueueState.empty] at hq
  · simp [sourceQueue, framesForClientRun, framesForClient, ServerVideoFrameQueueState.empty] at hq
  · simp [ServerVideoFrameQueueState.empty] at hq

theorem QueueInOrder.mono (h : QueueInOrder source seen queue) (hsub : seen ⊆ seen') :
    QueueInOrder source seen' queue :=
  ⟨h.sorted, h.keyed, fun q hq => hsub (h.queued q hq), fun key q hq hscope => hsub (h.retained key q hq hscope)⟩

/-- Frames leave the queues, and nothing else happens. -/
structure Trims (queue queue' : ServerVideoFrameQueueState) : Prop where
  frames : ∀ clientId, (queue'.framesForClient clientId).Sublist (queue.framesForClient clientId)
  retained : queue'.retainedKeyframeByClientRun = queue.retainedKeyframeByClientRun

theorem Trims.refl (queue : ServerVideoFrameQueueState) : Trims queue queue :=
  ⟨fun _ => List.Sublist.refl _, rfl⟩

theorem trims_popFrontForClientRun (queue : ServerVideoFrameQueueState) (clientId : ClientId) (runId : RunId) :
    Trims queue (queue.popFrontForClientRun clientId runId).1 := by
  refine ⟨fun d => ?_, retained_popFrontForClientRun queue clientId runId⟩
  by_cases hd : d = clientId
  · subst hd
    rw [popFrontForClientRun_eq]
    split
    next => exact List.Sublist.refl _
    next =>
      rw [framesForClient_putQueue, if_pos rfl]
      exact List.eraseP_sublist
  · rw [framesForClient, framesByClientId_popFrontForClientRun queue clientId runId hd]
    exact List.Sublist.refl _

theorem Trims.sourceQueue (h : Trims queue queue') (source : TwoRealContinuousDecodeSource) :
    (sourceQueue source queue').Sublist (sourceQueue source queue) :=
  (h.frames source.clientId).filter _

theorem Keyed.trims (h : Keyed queue) (htrims : Trims queue queue') : Keyed queue' :=
  fun clientId q hq => h clientId q ((htrims.frames clientId).subset hq)

theorem QueueInOrder.trims (h : QueueInOrder source seen queue) (htrims : Trims queue queue') :
    QueueInOrder source seen queue' := by
  have hsub := htrims.sourceQueue source
  refine ⟨h.sorted.sublist hsub, h.keyed.trims htrims, fun q hq => h.queued q (hsub.subset hq), ?_⟩
  rw [htrims.retained]
  exact h.retained

/-- A request of any mode lets the server store what comes before it, and may take frames out. -/
theorem request_trims (world : HandoffWorld) (input : SwitcherQueuedFrameHandoffInput) :
    Trims world.queueAtRequest (world.request input).2.queue ∧
      (world.request input).2.turns = world.turns.tail := by
  obtain ⟨taken, hworld, hexchange⟩ := request_exchange world input
  refine ⟨?_, congrArg HandoffWorld.turns hworld⟩
  have hread : Trims world.queueAtRequest
      (readQueueSource world.queueAtRequest ⟨input.clientId, input.runId, input.mode⟩).1 := by
    have hstate : (readQueueSource world.queueAtRequest ⟨input.clientId, input.runId, input.mode⟩).1 =
        (world.queueAtRequest.read ⟨input.clientId, input.runId, input.mode.queueReadMode⟩).1 := by
      unfold readQueueSource
      split
      next state frame _ remaining _ _ _ hread => rw [hread]
      next state _ _ clientQueueLen _ _ _ _ hread => rw [hread]
    rw [hstate]
    by_cases hmode : input.mode.queueReadMode = .dequeueOldest
    · rw [hmode, (read_dequeue world.queueAtRequest input.clientId input.runId).1]
      exact trims_popFrontForClientRun _ _ _
    · rw [read_inspect world.queueAtRequest hmode]
      exact .refl _
  generalize (world.request input).2.queue = queue', (world.request input).1 = answer at hexchange ⊢
  generalize world.turn.fate = fate at hexchange
  cases hexchange with
  | notReceived error => exact .refl _
  | blankScope _ error => exact .refl _
  | answered _ => exact hread
  | notAnswered _ error => exact hread

theorem sourceQueue_storeFrame (queue : ServerVideoFrameQueueState) (call : StoreCall)
    (source : TwoRealContinuousDecodeSource) :
    (sourceQueue source (storeFrame queue call.input call.queuedAt call.policy).1).Sublist
      (sourceQueue source queue ++ [call.queued].filter fun queued => scope queued = source.scope) := by
  by_cases hclient : source.clientId = call.queued.frame.clientId
  · have hchange := (storeFrame_change queue call.input call.queuedAt call.policy).sublist
    have hentered : (Lanes.entered (QueueOutput.stored
        (storeFrame queue call.input call.queuedAt call.policy).2).moves).Sublist [call.queued] := by
      rw [ServerVideoFrameQueueState.entered_storeFrame, QueueOp.storedFrames]
      split
      next => exact List.nil_sublist _
      next => exact List.Sublist.refl _
    have hframes := (hchange.trans (hentered.append_left _)).filter
      fun queued => queued.frame.runId = source.runId
    rw [List.filter_append] at hframes
    have hown : [call.queued].filter (fun queued => queued.frame.runId = source.runId) =
        [call.queued].filter fun queued => scope queued = source.scope := by
      refine List.filter_congr fun q hq => decide_eq_decide.mpr ?_
      rw [List.mem_singleton.mp hq, scope, TwoRealContinuousDecodeSource.scope, ← hclient]
      simp
    rw [hown] at hframes
    unfold sourceQueue framesForClientRun
    rw [hclient]
    exact hframes
  · have hsame : sourceQueue source (storeFrame queue call.input call.queuedAt call.policy).1 =
        sourceQueue source queue := by
      unfold sourceQueue framesForClientRun framesForClient
      rw [framesByClientId_storeFrame queue call.input call.queuedAt call.policy hclient]
    rw [hsame]
    exact List.sublist_append_left _ _

theorem Keyed.storeFrame (h : Keyed queue) (call : StoreCall) :
    Keyed (storeFrame queue call.input call.queuedAt call.policy).1 := by
  intro clientId q hq
  by_cases hclient : clientId = call.input.registeredPacket.frame.clientId
  · subst hclient
    have hchange := storeFrame_change queue call.input call.queuedAt call.policy
    rcases hchange.mem hq with hold | hnew
    · exact h _ q hold
    · exact hchange.entered_client q hnew
  · rw [framesForClient, framesByClientId_storeFrame queue call.input call.queuedAt call.policy hclient] at hq
    exact h clientId q hq

theorem Keyed.storeAll (h : Keyed queue) (calls : List StoreCall) : Keyed (storeAll queue calls) := by
  induction calls generalizing queue with
  | nil => exact h
  | cons call calls ih => exact ih (h.storeFrame call)

theorem retained_storeCall (h : QueueInOrder source seen queue) (call : StoreCall) {key : String}
    {q : ServerQueuedVideoFrame}
    (hq : (storeFrame queue call.input call.queuedAt call.policy).1.retainedKeyframeByClientRun[key]? = some q)
    (hscope : scope q = source.scope) : q.frame.frameId ∈ seen ++ storedIds source [call] := by
  have hcases : queue.retainedKeyframeByClientRun[key]? = some q ∨ q = call.queued := by
    unfold storeFrame at hq
    split at hq
    next => exact .inl hq
    next =>
      dsimp only at hq
      split at hq
      next =>
        rw [getElem?_insert_eq] at hq
        split at hq
        next => exact .inr (Option.some.inj hq).symm
        next => exact .inl hq
      next => exact .inl hq
  rcases hcases with hold | rfl
  · exact List.mem_append_left _ (h.retained key q hold hscope)
  · refine List.mem_append_right _ (List.mem_map_of_mem ?_)
    simpa using hscope

/-- A frame that is newer than all before it goes to the end of the queue. -/
theorem QueueInOrder.store (h : QueueInOrder source seen queue) (call : StoreCall)
    (hnew : ∀ id ∈ storedIds source [call], ∀ id' ∈ seen, id' < id) :
    QueueInOrder source (seen ++ storedIds source [call])
      (storeFrame queue call.input call.queuedAt call.policy).1 := by
  have hsub := sourceQueue_storeFrame queue call source
  refine ⟨List.Pairwise.sublist hsub ?_, h.keyed.storeFrame call, fun q hq => ?_,
    fun key q hq hscope => retained_storeCall h call hq hscope⟩
  · rw [List.pairwise_append]
    refine ⟨h.sorted, (List.pairwise_singleton _ _).sublist List.filter_sublist, ?_⟩
    intro q hq q' hq'
    exact hnew _ (List.mem_map_of_mem hq') _ (h.queued q hq)
  · rcases List.mem_append.mp (hsub.subset hq) with hold | hown
    · exact List.mem_append_left _ (h.queued q hold)
    · exact List.mem_append_right _ (List.mem_map_of_mem hown)

theorem QueueInOrder.storeAll (h : QueueInOrder source seen queue) (calls : List StoreCall)
    (hincreasing : (seen ++ storedIds source calls).Pairwise (· < ·)) :
    QueueInOrder source (seen ++ storedIds source calls) (storeAll queue calls) ∧
      ∀ q ∈ sourceQueue source (storeAll queue calls),
        q ∈ sourceQueue source queue ∨ ∀ id ∈ seen, id < q.frame.frameId := by
  induction calls generalizing queue seen with
  | nil =>
    have hnil : seen ++ storedIds source [] = seen := List.append_nil seen
    rw [hnil]
    exact ⟨h, fun q hq => .inl hq⟩
  | cons call calls ih =>
    have hsplit : seen ++ storedIds source (call :: calls) =
        (seen ++ storedIds source [call]) ++ storedIds source calls := by
      rw [List.append_assoc, ← storedIds_append, List.singleton_append]
    rw [hsplit] at hincreasing ⊢
    have hfirst := (List.pairwise_append.mp hincreasing).1
    have hnew : ∀ id ∈ storedIds source [call], ∀ id' ∈ seen, id' < id :=
      fun id hid id' hid' => (List.pairwise_append.mp hfirst).2.2 id' hid' id hid
    obtain ⟨hafter, hfresh⟩ := ih (h.store call hnew) hincreasing
    refine ⟨hafter, fun q hq => ?_⟩
    rcases hfresh q hq with hstored | hlater
    · rcases List.mem_append.mp ((sourceQueue_storeFrame queue call source).subset hstored) with hold | hown
      · exact .inl hold
      · exact .inr (hnew _ (List.mem_map_of_mem hown))
    · exact .inr fun id hid => hlater id (List.mem_append_left _ hid)

/-- The server's side while requests are made: `total` are all ids that it has or will have stored, `seen`
those it has by now. -/
structure ServerInOrder (source : TwoRealContinuousDecodeSource) (total seen : List UInt64)
    (world : HandoffWorld) : Prop where
  pending : seen ++ storedIds source (world.turns.flatMap HandoffTurn.stores) = total
  queue : QueueInOrder source seen world.queue

theorem flatMap_turns (world : HandoffWorld) :
    world.turns.flatMap HandoffTurn.stores = world.turn.stores ++ world.turns.tail.flatMap HandoffTurn.stores := by
  unfold HandoffWorld.turn nextTurn
  cases world.turns with
  | nil => rfl
  | cons turn turns => exact List.flatMap_cons

/-- What the next request finds. -/
theorem ServerInOrder.turn {total : List UInt64} {world : HandoffWorld}
    (h : ServerInOrder source total seen world) (hincreasing : total.Pairwise (· < ·)) :
    (seen ++ storedIds source world.turn.stores) ++
        storedIds source (world.turns.tail.flatMap HandoffTurn.stores) = total ∧
      QueueInOrder source (seen ++ storedIds source world.turn.stores) world.queueAtRequest ∧
      ∀ q ∈ sourceQueue source world.queueAtRequest,
        q ∈ sourceQueue source world.queue ∨ ∀ id ∈ seen, id < q.frame.frameId := by
  have hpending := h.pending
  rw [flatMap_turns, storedIds_append, ← List.append_assoc] at hpending
  refine ⟨hpending, h.queue.storeAll world.turn.stores ?_⟩
  rw [← hpending] at hincreasing
  exact (List.pairwise_append.mp hincreasing).1

end

end StreamSync
