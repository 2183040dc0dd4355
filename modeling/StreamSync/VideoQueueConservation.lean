import StreamSync.VideoQueueRuns

namespace StreamSync

open KeyedTable Lanes Run ServerVideoFrameQueueState

theorem putQueue_nonempty {state : ServerVideoFrameQueueState} (hs : state.WellFormed)
    {clientId d : ClientId} {queue queue' : List ServerQueuedVideoFrame}
    (h : (state.putQueue clientId queue).framesByClientId[d]? = some queue') : queue' ≠ [] := by
  rw [framesByClientId_putQueue] at h
  split at h
  next =>
    split at h
    next => cases h
    next hq => cases Option.some.inj h; exact hq
  next => exact hs.nonempty d queue' h

theorem applyQueueOp_nonempty {state : ServerVideoFrameQueueState} (hs : state.WellFormed)
    (op : QueueOp) {d : ClientId} {queue : List ServerQueuedVideoFrame}
    (h : (applyQueueOp state op).1.framesByClientId[d]? = some queue) : queue ≠ [] := by
  cases op with
  | storeFrame input queuedAt policy =>
    by_cases hd : d = input.registeredPacket.frame.clientId
    · by_cases hmax : policy.maxFramesPerClient = 0
      · have hstay : (storeFrame state input queuedAt policy).1 = state := by
          unfold storeFrame
          rw [if_pos hmax]
        exact hs.nonempty d queue (hstay ▸ h)
      · have hq := framesForClient_storeFrame state input queuedAt hmax
        have hf : (storeFrame state input queuedAt policy).1.framesForClient d = queue := by
          rw [framesForClient]
          exact congrArg (·.getD []) h
        rw [← hd, hf] at hq
        rw [hq]
        exact List.append_ne_nil_of_right_ne_nil _ (by simp)
    · rw [applyQueueOp_other state (.storeFrame input queuedAt policy) hd] at h
      exact hs.nonempty d queue h
  | popFront clientId =>
    simp only [applyQueueOp, popFront] at h
    split at h
    next => exact hs.nonempty d queue h
    next => exact putQueue_nonempty hs h
  | read input =>
    by_cases hm : input.mode = .dequeueOldest
    · obtain ⟨clientId, runId, mode⟩ := input
      cases hm
      simp only [applyQueueOp, (read_dequeue state clientId runId).1, popFrontForClientRun_eq] at h
      split at h
      next => exact hs.nonempty d queue h
      next => exact putQueue_nonempty hs h
    · simp only [applyQueueOp, read_inspect state hm] at h
      exact hs.nonempty d queue h

theorem applyQueueOp_wellFormed {state : ServerVideoFrameQueueState} (hs : state.WellFormed)
    (op : QueueOp) : (applyQueueOp state op).1.WellFormed := by
  refine ⟨fun d queue h => applyQueueOp_nonempty hs op h, fun d q hq => ?_⟩
  by_cases hd : d = op.clientId
  · subst hd
    have hc := applyQueueOp_change state op
    rcases hc.mem hq with h | h
    · exact hs.keyed _ q h
    · exact hc.entered_client q h
  · rw [framesForClient_other state op hd] at hq
    exact hs.keyed d q hq

/-- A step balances the frames of every scope. -/
theorem applyQueueOp_balances {state : ServerVideoFrameQueueState} (hs : state.WellFormed)
    (op : QueueOp) (k : ClientId × RunId) :
    state.framesForClientRun k.1 k.2 ++ lane scope k (entered (applyQueueOp state op).2.moves) =
      lane scope k (left (applyQueueOp state op).2.moves) ++
        (applyQueueOp state op).1.framesForClientRun k.1 k.2 := by
  obtain ⟨c, r⟩ := k
  have hc := applyQueueOp_change state op
  have hin := hc.entered_client
  have hout : ∀ q ∈ left (applyQueueOp state op).2.moves, q.frame.clientId = op.clientId :=
    fun q hq => hs.keyed _ q (hc.left_mem q hq)
  by_cases hd : c = op.clientId
  · subst hd
    rw [lane_scope_of_client hin, lane_scope_of_client hout]
    exact hc.balances r
  · have hne : ∀ {q : ServerQueuedVideoFrame}, q.frame.clientId = op.clientId → q.frame.clientId ≠ c :=
      fun h he => hd (he.symm.trans h)
    rw [lane_scope_of_ne fun q hq => hne (hin q hq), lane_scope_of_ne fun q hq => hne (hout q hq)]
    simp only [List.append_nil, List.nil_append, framesForClientRun, framesForClient_other state op hd]

theorem QueueChange.length_eq {clientId : ClientId} {queue queue' : List ServerQueuedVideoFrame}
    {moves : List (Move Departure ServerQueuedVideoFrame)} (h : QueueChange clientId queue moves queue') :
    queue'.length + (left moves).length = queue.length + (entered moves).length := by
  cases h with
  | keep => rfl
  | push queued => simp [left, entered, departures]
  | shift oldest queued => simp [left, entered, departures]
  | @take _ why runId frame h =>
    have hm := List.mem_of_find?_eq_some h
    have hp := List.find?_some h
    have hl := List.length_eraseP_of_mem (p := fun q => decide (runOf q = runId)) hm hp
    have hpos := List.length_pos_of_mem hm
    simp only [hl, left, entered, departures, List.filterMap_cons, List.filterMap_nil, List.map_cons,
      List.map_nil, List.length_cons, List.length_nil]
    omega

def QueueOp.UsesPolicy (policy : ServerVideoFrameQueuePolicy) : QueueOp → Prop
  | .storeFrame _ _ p => p = policy
  | _ => True

theorem applyQueueOp_bounded {policy : ServerVideoFrameQueuePolicy} (hmax : 1 ≤ policy.maxFramesPerClient)
    {state : ServerVideoFrameQueueState}
    (hb : ∀ clientId, state.clientQueueLen clientId ≤ policy.maxFramesPerClient) {op : QueueOp}
    (hp : op.UsesPolicy policy) (clientId : ClientId) :
    (applyQueueOp state op).1.clientQueueLen clientId ≤ policy.maxFramesPerClient := by
  by_cases hd : clientId = op.clientId
  · subst hd
    have hlen := (applyQueueOp_change state op).length_eq
    have hold := hb op.clientId
    unfold clientQueueLen at hold ⊢
    cases op with
    | storeFrame input queuedAt p =>
      cases hp
      have hzero : policy.maxFramesPerClient ≠ 0 := by omega
      have hq := framesForClient_storeFrame state input queuedAt hzero
      show ((storeFrame state input queuedAt policy).1.framesForClient
        input.registeredPacket.frame.clientId).length ≤ _
      change (state.framesForClient input.registeredPacket.frame.clientId).length ≤ _ at hold
      rw [hq, List.length_append, List.length_singleton]
      unfold evictOldest
      split
      next hfull =>
        rw [List.length_tail]
        omega
      next hfull =>
        show (state.framesForClient _).length + 1 ≤ _
        omega
    | read input =>
      simp only [entered_applyQueueOp, QueueOp.storedFrames, List.length_nil] at hlen
      omega
    | popFront clientId =>
      simp only [entered_applyQueueOp, QueueOp.storedFrames, List.length_nil] at hlen
      omega
  · unfold clientQueueLen
    rw [framesForClient_other state op hd]
    exact hb clientId

theorem left_perm (log : List (Move Departure ServerQueuedVideoFrame)) :
    (left log).Perm (leftFor .dequeued log ++ (leftFor .droppedOldest log ++ leftFor .popped log)) := by
  unfold left leftFor
  induction departures log with
  | nil => exact .refl _
  | cons d ds ih =>
    obtain ⟨why, frame⟩ := d
    cases why with
    | dequeued => simpa using ih
    | droppedOldest =>
      refine (ih.cons frame).trans ?_
      simpa using List.perm_middle.symm
    | popped =>
      refine (ih.cons frame).trans ?_
      simpa [← List.append_assoc] using List.perm_middle.symm

/-- The ledger of every scope, and the shape of the state, after any run. -/
theorem runQueue_ledger (ops : List QueueOp) :
    (runQueue ops).1.WellFormed ∧
      Ledger scope (queueLog (runQueue ops).2) fun k => (runQueue ops).1.framesForClientRun k.1 k.2 := by
  refine run_invariant (P := fun _ => True) (fun _ (state : ServerVideoFrameQueueState) outs =>
    state.WellFormed ∧
    Ledger scope (queueLog outs) fun k => state.framesForClientRun k.1 k.2) ?_ ?_ ops fun _ _ => trivial
  · refine ⟨empty_wellFormed, ledger_nil fun k => ?_⟩
    simp [framesForClientRun, framesForClient, ServerVideoFrameQueueState.empty]
  · intro ins state outs op _ h
    obtain ⟨hs, hl⟩ := h
    refine ⟨applyQueueOp_wellFormed hs op, ?_⟩
    have hlog : queueLog (outs ++ [(applyQueueOp state op).2]) =
        queueLog outs ++ (applyQueueOp state op).2.moves := by
      simp [queueLog]
    rw [hlog]
    exact hl.step (applyQueueOp_balances hs op)

theorem runQueue_bounded {policy : ServerVideoFrameQueuePolicy} (hmax : 1 ≤ policy.maxFramesPerClient)
    (ops : List QueueOp) (hp : ∀ op ∈ ops, op.UsesPolicy policy) (clientId : ClientId) :
    (runQueue ops).1.clientQueueLen clientId ≤ policy.maxFramesPerClient := by
  refine run_invariant (P := QueueOp.UsesPolicy policy) (fun _
    (state : ServerVideoFrameQueueState) _ => ∀ clientId : ClientId,
      state.clientQueueLen clientId ≤ policy.maxFramesPerClient) ?_ ?_ ops hp clientId
  · intro clientId
    simp [clientQueueLen, framesForClient, ServerVideoFrameQueueState.empty]
  · intro ins state outs op hop hb clientId
    exact applyQueueOp_bounded hmax hb hop clientId

/-- A store gives up the oldest frame of a full queue, and only then, and keeps the new one. -/
theorem storeFrame_stored {policy : ServerVideoFrameQueuePolicy} (hmax : policy.maxFramesPerClient ≠ 0)
    {state : ServerVideoFrameQueueState} {input : ServerVideoFrameHandlerInput} {clientId : ClientId}
    (hclient : input.registeredPacket.frame.clientId = clientId)
    (hb : state.clientQueueLen clientId ≤ policy.maxFramesPerClient) (queuedAt : TimestampMicros) :
    ∃ droppedOldest,
      (storeFrame state input queuedAt policy).2 =
        .stored (queuedFrame input queuedAt) (state.clientQueueLen clientId)
          ((storeFrame state input queuedAt policy).1.clientQueueLen clientId) droppedOldest ∧
      droppedOldest.toList ++ (storeFrame state input queuedAt policy).1.framesForClient clientId =
        state.framesForClient clientId ++ [queuedFrame input queuedAt] ∧
      (droppedOldest.isSome ↔ state.clientQueueLen clientId = policy.maxFramesPerClient) := by
  subst hclient
  have hqueue := framesForClient_storeFrame state input queuedAt hmax
  refine ⟨(evictOldest policy (state.framesForClient input.registeredPacket.frame.clientId)).1, ?_, ?_, ?_⟩
  · unfold clientQueueLen
    rw [hqueue]
    unfold storeFrame
    rw [if_neg hmax]
  · rw [hqueue]
    unfold evictOldest
    split
    next => cases state.framesForClient input.registeredPacket.frame.clientId <;> rfl
    next => rfl
  · unfold clientQueueLen at hb ⊢
    unfold evictOldest
    split
    next hfull =>
      cases hq : state.framesForClient input.registeredPacket.frame.clientId with
      | nil =>
        rw [hq] at hfull
        exact absurd (Nat.le_zero.mp hfull) hmax
      | cons oldest queue =>
        rw [hq] at hfull hb
        have hlen : (oldest :: queue).length = policy.maxFramesPerClient := by omega
        simp [hlen]
    next hfull =>
      have hlen : (state.framesForClient input.registeredPacket.frame.clientId).length ≠
        policy.maxFramesPerClient := by omega
      simp [hlen]

/-- Where the frames are that a run of calls stored. -/
structure QueueConserved (policy : ServerVideoFrameQueuePolicy) (ops : List QueueOp) : Prop where
  bounded : ∀ clientId, (runQueue ops).1.clientQueueLen clientId ≤ policy.maxFramesPerClient
  noEmptyEntry : ∀ (clientId : ClientId) (queue : List ServerQueuedVideoFrame),
    (runQueue ops).1.framesByClientId[clientId]? = some queue → queue ≠ []
  accounted : ∀ clientId runId,
    (lane scope (clientId, runId) (storedFrames ops)).Perm
      ((runQueue ops).1.framesForClientRun clientId runId ++
        lane scope (clientId, runId) (leftFor .dequeued (queueLog (runQueue ops).2) ++
          (leftFor .droppedOldest (queueLog (runQueue ops).2) ++
            leftFor .popped (queueLog (runQueue ops).2))))
  dequeuedInOrder : ∀ clientId runId,
    List.Sublist (lane scope (clientId, runId) (leftFor .dequeued (queueLog (runQueue ops).2)) ++
        (runQueue ops).1.framesForClientRun clientId runId)
      (lane scope (clientId, runId) (storedFrames ops))
  storesNewest : ∀ (input : ServerVideoFrameHandlerInput) (queuedAt : TimestampMicros) (clientId : ClientId),
    input.registeredPacket.frame.clientId = clientId →
      ∃ droppedOldest,
        (applyQueueOp (runQueue ops).1 (.storeFrame input queuedAt policy)).2 =
          .stored (.stored (queuedFrame input queuedAt) ((runQueue ops).1.clientQueueLen clientId)
            ((applyQueueOp (runQueue ops).1 (.storeFrame input queuedAt policy)).1.clientQueueLen clientId)
            droppedOldest) ∧
        droppedOldest.toList ++
            (applyQueueOp (runQueue ops).1 (.storeFrame input queuedAt policy)).1.framesForClient clientId =
          (runQueue ops).1.framesForClient clientId ++ [queuedFrame input queuedAt] ∧
        (droppedOldest.isSome ↔ (runQueue ops).1.clientQueueLen clientId = policy.maxFramesPerClient)
  inspectKeeps : ∀ input : ServerVideoFrameQueueReadInput, input.mode ≠ .dequeueOldest →
    (applyQueueOp (runQueue ops).1 (.read input)).1 = (runQueue ops).1
  othersKept : ∀ (op : QueueOp) (clientId : ClientId), clientId ≠ op.clientId →
    (applyQueueOp (runQueue ops).1 op).1.framesByClientId[clientId]? =
      (runQueue ops).1.framesByClientId[clientId]?

theorem runQueue_conserved {policy : ServerVideoFrameQueuePolicy} (hmax : 1 ≤ policy.maxFramesPerClient)
    {ops : List QueueOp} (hp : ∀ op ∈ ops, op.UsesPolicy policy) : QueueConserved policy ops := by
  obtain ⟨hs, hl⟩ := runQueue_ledger ops
  have hbounded := runQueue_bounded hmax ops hp
  constructor
  · exact hbounded
  · exact hs.nonempty
  · intro clientId runId
    rw [← entered_queueLog]
    refine (hl.perm (clientId, runId)).trans (List.Perm.append_left _ ?_)
    exact (left_perm _).filter _
  · intro clientId runId
    rw [← entered_queueLog]
    exact hl.inOrder .dequeued (clientId, runId)
  · intro input queuedAt clientId hclient
    have hzero : policy.maxFramesPerClient ≠ 0 := by omega
    obtain ⟨droppedOldest, hresult, hqueue, hfull⟩ :=
      storeFrame_stored hzero hclient (hbounded clientId) queuedAt
    exact ⟨droppedOldest, congrArg QueueOutput.stored hresult, hqueue, hfull⟩
  · exact fun input hm => read_inspect _ hm
  · exact fun op clientId hd => applyQueueOp_other _ op hd

def sampleFrame (clientId : ClientId) (runId : RunId) (frameId : UInt64) (isKeyframe : Bool) :
    ServerVideoFrameHandlerInput :=
  let source : PacketSource := ⟨.v4 0x7F000001 5000⟩
  { registeredPacket := {
      source
      authenticatedSender := ⟨clientId, source, runId, 1, none⟩
      frame := {
        messageType := .videoFrame, protocolVersion := 1, clientId, runId, frameId
        captureTimestamp := 100, sendTimestamp := 100, isKeyframe
        metadataReserved := Vector.replicate 3 0, width := 640, height := 360, fpsNominal := 30
        codec := .h264, payloadSize := 1, payload := [1] } }
    payloadLen := 1 }

/-- Two runs of one client in a queue of two: a drop, then a dequeue from the middle. -/
def mixedRunOps : List QueueOp :=
  [.storeFrame (sampleFrame "c" "r1" 1 true) 10 ⟨2⟩, .storeFrame (sampleFrame "c" "r1" 2 false) 11 ⟨2⟩,
    .storeFrame (sampleFrame "c" "r2" 1 true) 12 ⟨2⟩, .read ⟨"c", "r2", .dequeueOldest⟩]

theorem runQueue_conserved_mixedRun : 1 ≤ 2 ∧ QueueConserved ⟨2⟩ mixedRunOps := by
  have hp : ∀ op ∈ mixedRunOps, op.UsesPolicy ⟨2⟩ := by
    intro op hop
    simp only [mixedRunOps, List.mem_cons, List.not_mem_nil, or_false] at hop
    rcases hop with rfl | rfl | rfl | rfl <;> trivial
  exact ⟨by decide, runQueue_conserved (by decide) hp⟩

end StreamSync
