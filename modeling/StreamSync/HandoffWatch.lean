import StreamSync.ConcurrentAnswers
import StreamSync.HandoffWorld
import StreamSync.Lib.Effect

namespace StreamSync

open Effect Lanes

/-- What the server stores is what it may store, and came into a queue that the server answers from. -/
structure Watchable (allowed : ServerQueuedVideoFrame → Prop) (world : HandoffWorld) : Prop where
  queue : ∃ log, QueueInvariant log world.queue ∧ ∀ queued ∈ entered log, allowed queued
  turns : ∀ turn ∈ world.turns, ∀ call ∈ turn.stores, call.policy = .default ∧ call.input.Fits ∧
    allowed (queuedFrame call.input call.queuedAt)

/-- All that happened to the queue is what the server stored meanwhile. -/
def Watched (before after : HandoffWorld) : Prop :=
  ∃ requests, after.turns = before.turns.drop requests ∧
    after.queue = storeAll before.queue ((before.turns.take requests).flatMap (·.stores)) ∧
    after.removed = before.removed

theorem Watched.refl (world : HandoffWorld) : Watched world world := ⟨0, rfl, rfl, rfl⟩

theorem Watched.trans {first second third : HandoffWorld} (h : Watched first second)
    (h' : Watched second third) : Watched first third := by
  obtain ⟨n, hturns, hqueue, hremoved⟩ := h
  obtain ⟨m, hturns', hqueue', hremoved'⟩ := h'
  refine ⟨n + m, ?_, ?_, hremoved'.trans hremoved⟩
  · rw [hturns', hturns, List.drop_drop]
  · rw [hqueue', hqueue, hturns, List.take_add, List.flatMap_append]
    exact (List.foldl_append).symm

section Requests

variable {allowed : ServerQueuedVideoFrame → Prop}

theorem queueInvariant_storeAll {log : List (Move Departure ServerQueuedVideoFrame)}
    {queue : ServerVideoFrameQueueState} {calls : List StoreCall} (h : QueueInvariant log queue)
    (hallowed : ∀ queued ∈ entered log, allowed queued)
    (hcalls : ∀ call ∈ calls, call.policy = .default ∧ call.input.Fits ∧
      allowed (queuedFrame call.input call.queuedAt)) :
    ∃ log', QueueInvariant log' (storeAll queue calls) ∧ ∀ queued ∈ entered log', allowed queued := by
  induction calls generalizing log queue with
  | nil => exact ⟨log, h, hallowed⟩
  | cons call calls ih =>
    obtain ⟨⟨hpolicy, hfits, hstored⟩, hcalls⟩ := List.forall_mem_cons.mp hcalls
    have hstore := h.turn (.store call.input call.queuedAt hfits)
    rw [← hpolicy] at hstore
    refine ih hstore (fun queued hqueued => ?_) hcalls
    rw [entered_append, List.mem_append, hpolicy, QueueInvariant.entered_store, List.mem_singleton] at hqueued
    rcases hqueued with hold | rfl
    · exact hallowed queued hold
    · exact hstored

/-- The frame was let into the queue, and is of the client and the run that were asked for. -/
def Asked (allowed : ServerQueuedVideoFrame → Prop) (clientId : ClientId) (runId : RunId)
    (frame : SwitcherSingleViewSelectedEncodedFrame) : Prop :=
  ∃ queued, allowed queued ∧ queued.frame.clientId = clientId ∧ queued.frame.runId = runId ∧
    frame = .ofQueued queued

theorem readQueueSource_inspect {queue : ServerVideoFrameQueueState} {input : SwitcherSingleClientQueueSourceInput}
    (hmode : input.mode ≠ .consumeOldest) : (readQueueSource queue input).1 = queue := by
  have hread : (queue.read ⟨input.clientId, input.runId, input.mode.queueReadMode⟩).1 = queue := by
    refine ServerVideoFrameQueueState.read_inspect queue fun h => hmode ?_
    cases hm : input.mode <;> rw [hm] at h <;> first | rfl | cases h
  unfold readQueueSource
  split
  next h => rwa [h] at hread
  next h => rwa [h] at hread

theorem readQueueSource_asked {log : List (Move Departure ServerQueuedVideoFrame)}
    {queue : ServerVideoFrameQueueState} (h : QueueInvariant log queue)
    (hallowed : ∀ queued ∈ entered log, allowed queued) {input : SwitcherSingleClientQueueSourceInput}
    (hmode : input.mode ≠ .previewLatestDecodable) {frame : SwitcherSingleViewSelectedEncodedFrame}
    {mode : SwitcherSingleClientQueueSourceMode} {len : Nat}
    (hread : (readQueueSource queue input).2 = .frameAvailable frame mode len) :
    Asked allowed input.clientId input.runId frame := by
  unfold readQueueSource at hread
  split at hread
  next state' queued _ _ _ _ _ hfound =>
    cases hread
    have hframe : (queue.read ⟨input.clientId, input.runId, input.mode.queueReadMode⟩).2.frame? =
        some queued := by
      rw [hfound]
      rfl
    have hdecodable : input.mode.queueReadMode ≠ .inspectLatestDecodable := by
      intro hm
      cases hi : input.mode <;> rw [hi] at hm <;> first | exact hmode hi | cases hm
    have hscope := scope_of_mem_run h.wellFormed
      (selectFrame_mem_run hdecodable hframe)
    obtain ⟨hclient, hrun⟩ := Prod.mk.inj hscope
    exact ⟨queued, hallowed queued (h.read_mem _ hframe), hclient, hrun, rfl⟩
  next => cases hread

/-- What a request that only looks is answered with. -/
theorem serverHandoff_inspects {log : List (Move Departure ServerQueuedVideoFrame)}
    {queue : ServerVideoFrameQueueState} (h : QueueInvariant log queue)
    (hallowed : ∀ queued ∈ entered log, allowed queued) (requestId : UInt64)
    {input : SwitcherQueuedFrameHandoffInput} (hmode : input.mode ≠ .consumeOldest) :
    ∃ result, serverHandoff requestId input queue = .ok (result, queue) ∧
      (input.mode ≠ .previewLatestDecodable → ∀ frame mode len, result = .frameRead frame mode len →
        Asked allowed input.clientId input.runId frame) := by
  obtain ⟨response, hhandled, -⟩ := handleRequest_answers h (buildRequest requestId input)
  have hserved : serverHandoff requestId input queue =
      .ok (mapResponse input response, (requestTurn queue (buildRequest requestId input)).1) :=
    bind_of_ok hhandled
  rcases serverHandoff_eq_ok hserved with ⟨-, hqueue, -, hresult⟩ | ⟨-, hqueue, hresult⟩
  · rw [hqueue] at hserved
    refine ⟨_, hserved, fun _ frame mode len hframe => ?_⟩
    rw [hresult] at hframe
    cases hframe
  · rw [readQueueSource_inspect hmode] at hqueue
    rw [hqueue] at hserved
    refine ⟨_, hserved, fun hscope frame mode len hframe => ?_⟩
    rw [hresult] at hframe
    cases hread : (readQueueSource queue ⟨input.clientId, input.runId, input.mode⟩).2 with
    | noFrameAvailable clientId runId mode' len' =>
      rw [hread] at hframe
      cases hframe
    | frameAvailable frame' mode' len' =>
      rw [hread] at hframe
      cases hframe
      exact readQueueSource_asked h hallowed hscope hread

theorem worldHandoff_inspects {world : HandoffWorld} (h : Watchable allowed world)
    {input : SwitcherQueuedFrameHandoffInput} (hmode : input.mode ≠ .consumeOldest) :
    Succeeds (worldHandoff input) world fun result world' =>
      Watchable allowed world' ∧ Watched world world' ∧
        (input.mode ≠ .previewLatestDecodable → ∀ frame mode len, result = .frameRead frame mode len →
          Asked allowed input.clientId input.runId frame) := by
  obtain ⟨⟨log, hqueue, hallowed⟩, hturns⟩ := h
  have hturn : ∀ call ∈ world.turn.stores, call.policy = .default ∧ call.input.Fits ∧
      allowed (queuedFrame call.input call.queuedAt) := by
    unfold HandoffWorld.turn nextTurn
    cases hlist : world.turns with
    | nil => exact fun _ hcall => by cases hcall
    | cons turn turns => exact hturns turn (by rw [hlist]; exact List.mem_cons_self)
  obtain ⟨log', hqueue', hallowed'⟩ := queueInvariant_storeAll hqueue hallowed hturn
  have hafter (requestId : UInt64) : Watchable allowed
      ⟨world.queueAtRequest, world.turns.tail, requestId, world.removed⟩ :=
    ⟨⟨log', hqueue', hallowed'⟩, fun turn hmem => hturns turn (List.mem_of_mem_tail hmem)⟩
  have hwatched (requestId : UInt64) : Watched world
      ⟨world.queueAtRequest, world.turns.tail, requestId, world.removed⟩ := by
    refine ⟨1, List.drop_one.symm, ?_, rfl⟩
    unfold HandoffWorld.queueAtRequest HandoffWorld.turn nextTurn
    cases world.turns <;> simp
  have htaken : input.takenFrom world.queueAtRequest = [] := by
    unfold SwitcherQueuedFrameHandoffInput.takenFrom SwitcherQueuedFrameHandoffInput.queueRead
    rw [ServerVideoFrameQueueState.moves_read_inspect world.queueAtRequest
      fun hm => hmode (by cases hi : input.mode <;> rw [hi] at hm <;> first | rfl | cases hm)]
    split <;> rfl
  obtain ⟨result, hserved, hresult⟩ := serverHandoff_inspects hqueue' hallowed' world.nextRequestId hmode
  have hserved : serverHandoff world.nextRequestId input world.queueAtRequest =
      .ok (result, world.queueAtRequest) := hserved
  unfold Succeeds worldHandoff
  dsimp only
  rw [htaken, List.append_nil, hserved]
  cases hfate : world.turn.fate with
  | requestLost error => exact ⟨_, _, rfl, hafter _, hwatched _, fun _ _ _ _ hframe => by cases hframe⟩
  | served => exact ⟨_, _, rfl, hafter _, hwatched _, hresult⟩
  | responseLost error => exact ⟨_, _, rfl, hafter _, hwatched _, fun _ _ _ _ hframe => by cases hframe⟩

end Requests

end StreamSync
