import StreamSync.VideoQueueConservation

namespace StreamSync

open KeyedTable Lanes Run ServerVideoFrameQueueState

def scopeKey (queued : ServerQueuedVideoFrame) : String :=
  clientRunScopeKey queued.frame.clientId queued.frame.runId

/-- The last keyframe among `frames` whose scope key is `key`. -/
def lastKeyframeUnder (key : String) (frames : List ServerQueuedVideoFrame) :
    Option ServerQueuedVideoFrame :=
  (frames.filter fun q => q.frame.isKeyframe && decide (scopeKey q = key)).getLast?

/-- The last keyframe among `frames` of one client and run. -/
def lastKeyframeOf (clientId : ClientId) (runId : RunId) (frames : List ServerQueuedVideoFrame) :
    Option ServerQueuedVideoFrame :=
  ((lane scope (clientId, runId) frames).filter fun q => q.frame.isKeyframe).getLast?

theorem lastKeyframeUnder_concat (key : String) (frames : List ServerQueuedVideoFrame)
    (queued : ServerQueuedVideoFrame) :
    lastKeyframeUnder key (frames ++ [queued]) =
      if queued.frame.isKeyframe ∧ scopeKey queued = key then some queued
      else lastKeyframeUnder key frames := by
  unfold lastKeyframeUnder
  rw [List.filter_append]
  split
  next h => simp [h.1, h.2]
  next h => simp [h]

theorem retained_storeFrame (state : ServerVideoFrameQueueState) (input : ServerVideoFrameHandlerInput)
    (queuedAt : TimestampMicros) (policy : ServerVideoFrameQueuePolicy) (key : String)
    (frames : List ServerQueuedVideoFrame)
    (h : state.retainedKeyframeByClientRun[key]? = lastKeyframeUnder key frames) :
    (storeFrame state input queuedAt policy).1.retainedKeyframeByClientRun[key]? =
      lastKeyframeUnder key (frames ++ (QueueOp.storeFrame input queuedAt policy).storedFrames) := by
  rw [QueueOp.storedFrames]
  unfold storeFrame
  by_cases hmax : policy.maxFramesPerClient = 0
  · rw [if_pos hmax, if_pos hmax, List.append_nil]
    exact h
  · rw [if_neg hmax, if_neg hmax, lastKeyframeUnder_concat]
    dsimp only
    by_cases hk : (queuedFrame input queuedAt).frame.isKeyframe
    · rw [if_pos hk, getElem?_insert_eq]
      simp only [hk, true_and, h]
      rfl
    · rw [if_neg hk, if_neg fun hh => hk hh.1, h]

theorem retained_popFrontForClientRun (state : ServerVideoFrameQueueState) (clientId : ClientId)
    (runId : RunId) :
    (state.popFrontForClientRun clientId runId).1.retainedKeyframeByClientRun =
      state.retainedKeyframeByClientRun := by
  rw [popFrontForClientRun_eq]
  split
  next => rfl
  next => exact retained_putQueue _ _ _

theorem retained_read (state : ServerVideoFrameQueueState) (input : ServerVideoFrameQueueReadInput) :
    (state.read input).1.retainedKeyframeByClientRun = state.retainedKeyframeByClientRun := by
  by_cases hm : input.mode = .dequeueOldest
  · obtain ⟨clientId, runId, mode⟩ := input
    cases hm
    rw [(read_dequeue state clientId runId).1, retained_popFrontForClientRun]
  · rw [read_inspect state hm]

theorem retained_popFront (state : ServerVideoFrameQueueState) (clientId : ClientId) :
    (state.popFront clientId).1.retainedKeyframeByClientRun = state.retainedKeyframeByClientRun := by
  unfold popFront
  split
  next => rfl
  next => exact retained_putQueue _ _ _

/-- The retained map holds the last keyframe stored under each scope key. -/
theorem retained_eq_lastKeyframeUnder (ops : List QueueOp) (key : String) :
    (runQueue ops).1.retainedKeyframeByClientRun[key]? = lastKeyframeUnder key (storedFrames ops) := by
  refine run_invariant (P := fun _ => True) (fun ins (state : ServerVideoFrameQueueState) _ =>
    state.retainedKeyframeByClientRun[key]? = lastKeyframeUnder key (storedFrames ins))
    ?_ ?_ ops fun _ _ => trivial
  · simp [ServerVideoFrameQueueState.empty, storedFrames, lastKeyframeUnder]
  · intro ins state outs op _ h
    have hstored : storedFrames (ins ++ [op]) = storedFrames ins ++ op.storedFrames := by
      simp [storedFrames]
    rw [hstored]
    cases op with
    | storeFrame input queuedAt policy => exact retained_storeFrame state input queuedAt policy key _ h
    | read input =>
      rw [QueueOp.storedFrames, List.append_nil, ← h]
      exact congrArg (·[key]?) (retained_read state input)
    | popFront clientId =>
      rw [QueueOp.storedFrames, List.append_nil, ← h]
      exact congrArg (·[key]?) (retained_popFront state clientId)

/-- The keyframes of a scope that are still in the queue. -/
def residentKeyframes (state : ServerVideoFrameQueueState) (clientId : ClientId) (runId : RunId) :
    List ServerQueuedVideoFrame :=
  (state.framesForClientRun clientId runId).filter fun q => q.frame.isKeyframe

/-- A resident keyframe of the scope is the last one stored for it. -/
theorem lastKeyframeOf_resident (ops : List QueueOp) (clientId : ClientId) (runId : RunId)
    (h : residentKeyframes (runQueue ops).1 clientId runId ≠ []) :
    lastKeyframeOf clientId runId (storedFrames ops) =
      (residentKeyframes (runQueue ops).1 clientId runId).getLast? := by
  have hl := (runQueue_ledger ops).2 (clientId, runId)
  rw [entered_queueLog] at hl
  unfold lastKeyframeOf
  rw [hl, List.filter_append]
  exact List.getLast?_append_of_ne_nil _ h

theorem read_decodable (state : ServerVideoFrameQueueState) (clientId : ClientId) (runId : RunId) :
    (state.read ⟨clientId, runId, .inspectLatestDecodable⟩).2.frame? =
        (match (residentKeyframes state clientId runId).getLast? with
          | some frame => some frame
          | none => state.retainedKeyframeForClientRun clientId runId) ∧
      (state.read ⟨clientId, runId, .inspectLatestDecodable⟩).2.decodableSource =
        (match (residentKeyframes state clientId runId).getLast? with
          | some _ => .queue
          | none =>
            if (state.retainedKeyframeForClientRun clientId runId).isSome then .retainedKeyframe
            else .none) := by
  have hsel : selectFrame state ⟨clientId, runId, .inspectLatestDecodable⟩ =
      match (residentKeyframes state clientId runId).getLast? with
      | some frame => (state, some frame, .queue)
      | none =>
        match state.retainedKeyframeForClientRun clientId runId with
        | some frame => (state, some frame, .retainedKeyframe)
        | none => (state, none, .none) := rfl
  unfold ServerVideoFrameQueueState.read
  rw [hsel]
  cases (residentKeyframes state clientId runId).getLast? with
  | some frame => exact ⟨rfl, rfl⟩
  | none =>
    cases state.retainedKeyframeForClientRun clientId runId with
    | some frame => simp [ServerVideoFrameQueueReadResult.frame?, ServerVideoFrameQueueReadResult.decodableSource]
    | none => simp [ServerVideoFrameQueueReadResult.frame?, ServerVideoFrameQueueReadResult.decodableSource]

theorem mem_lastKeyframeOf {clientId : ClientId} {runId : RunId} {frames : List ServerQueuedVideoFrame}
    {frame : ServerQueuedVideoFrame} (h : lastKeyframeOf clientId runId frames = some frame) :
    scope frame = (clientId, runId) ∧ frame.frame.isKeyframe := by
  have hm := List.mem_filter.mp (List.mem_of_getLast? h)
  exact ⟨((mem_lane scope).mp hm.1).2, hm.2⟩

theorem lastKeyframeUnder_eq_of_key {frames : List ServerQueuedVideoFrame} {clientId : ClientId}
    {runId : RunId} (h : ∀ q ∈ frames, scopeKey q = clientRunScopeKey clientId runId →
      scope q = (clientId, runId)) :
    lastKeyframeUnder (clientRunScopeKey clientId runId) frames = lastKeyframeOf clientId runId frames := by
  unfold lastKeyframeUnder lastKeyframeOf lane
  rw [List.filter_filter]
  refine congrArg List.getLast? (List.filter_congr fun q hq => ?_)
  by_cases hs : scope q = (clientId, runId)
  · have hk : scopeKey q = clientRunScopeKey clientId runId := by
      obtain ⟨hc, hr⟩ := Prod.mk.inj hs
      rw [scopeKey, hc, hr]
    simp [hs, hk]
  · have hk : scopeKey q ≠ clientRunScopeKey clientId runId := fun hk => hs (h q hq hk)
    simp [hs, hk]

/-- A frame found by the decodable read is in the client's queue exactly when it came from there. -/
theorem decodable_source_iff (ops : List QueueOp) {clientId : ClientId} {runId : RunId}
    (hlast : ((runQueue ops).1.read ⟨clientId, runId, .inspectLatestDecodable⟩).2.frame? =
      lastKeyframeOf clientId runId (storedFrames ops)) {frame : ServerQueuedVideoFrame}
    (hf : ((runQueue ops).1.read ⟨clientId, runId, .inspectLatestDecodable⟩).2.frame? = some frame) :
    ((runQueue ops).1.read ⟨clientId, runId, .inspectLatestDecodable⟩).2.decodableSource =
      if frame ∈ (runQueue ops).1.framesForClient clientId then .queue else .retainedKeyframe := by
  obtain ⟨hframe, hsource⟩ := read_decodable (runQueue ops).1 clientId runId
  obtain ⟨hscope, hkey⟩ := mem_lastKeyframeOf (hlast.symm.trans hf)
  rw [hframe] at hf
  rw [hsource]
  cases hres : (residentKeyframes (runQueue ops).1 clientId runId).getLast? with
  | some resident =>
    rw [hres] at hf
    cases Option.some.inj hf
    have hm : frame ∈ residentKeyframes (runQueue ops).1 clientId runId := List.mem_of_getLast? hres
    rw [if_pos (List.mem_filter.mp (List.mem_filter.mp hm).1).1]
  | none =>
    rw [hres] at hf
    have hnone : residentKeyframes (runQueue ops).1 clientId runId = [] :=
      List.getLast?_eq_none_iff.mp hres
    have hgone : frame ∉ (runQueue ops).1.framesForClient clientId := by
      intro hm
      have hr : frame.frame.runId = runId := (Prod.mk.inj hscope).2
      have hmem : frame ∈ residentKeyframes (runQueue ops).1 clientId runId :=
        List.mem_filter.mpr ⟨List.mem_filter.mpr ⟨hm, by simpa using hr⟩, hkey⟩
      rw [hnone] at hmem
      cases hmem
    have hret : (runQueue ops).1.retainedKeyframeForClientRun clientId runId = some frame := hf
    simp [hret, hgone]

/-- The scope key tells the given pairs apart. -/
def ScopeKeyInjective (pairs : List (ClientId × RunId)) : Prop :=
  ∀ p ∈ pairs, ∀ p' ∈ pairs, clientRunScopeKey p.1 p.2 = clientRunScopeKey p'.1 p'.2 → p = p'

instance (pairs : List (ClientId × RunId)) : Decidable (ScopeKeyInjective pairs) :=
  inferInstanceAs (Decidable (∀ p ∈ pairs, ∀ p' ∈ pairs, _ → p = p'))

/-- The decodable read of a scope whose key is its own returns the last keyframe stored for it,
tells where that frame is, and changes nothing. -/
theorem read_latestDecodable {ops : List QueueOp} {clientId : ClientId} {runId : RunId}
    (hinj : ScopeKeyInjective ((clientId, runId) :: (storedFrames ops).map scope)) :
    ((runQueue ops).1.read ⟨clientId, runId, .inspectLatestDecodable⟩).1 = (runQueue ops).1 ∧
      ((runQueue ops).1.read ⟨clientId, runId, .inspectLatestDecodable⟩).2.frame? =
        lastKeyframeOf clientId runId (storedFrames ops) ∧
      (((runQueue ops).1.read ⟨clientId, runId, .inspectLatestDecodable⟩).2.frame? = none ↔
        ∀ q ∈ storedFrames ops, scope q = (clientId, runId) → q.frame.isKeyframe = false) ∧
      ∀ frame, ((runQueue ops).1.read ⟨clientId, runId, .inspectLatestDecodable⟩).2.frame? = some frame →
        ((runQueue ops).1.read ⟨clientId, runId, .inspectLatestDecodable⟩).2.decodableSource =
          if frame ∈ (runQueue ops).1.framesForClient clientId then .queue else .retainedKeyframe := by
  have hkey : ∀ q ∈ storedFrames ops, scopeKey q = clientRunScopeKey clientId runId →
      scope q = (clientId, runId) := fun q hq hk =>
    hinj _ (List.mem_cons_of_mem _ (List.mem_map_of_mem hq)) _ List.mem_cons_self hk
  have hlast : ((runQueue ops).1.read ⟨clientId, runId, .inspectLatestDecodable⟩).2.frame? =
      lastKeyframeOf clientId runId (storedFrames ops) := by
    rw [(read_decodable (runQueue ops).1 clientId runId).1]
    by_cases hres : residentKeyframes (runQueue ops).1 clientId runId = []
    · rw [hres, ← lastKeyframeUnder_eq_of_key hkey]
      exact retained_eq_lastKeyframeUnder ops _
    · rw [lastKeyframeOf_resident ops clientId runId hres]
      cases hl : (residentKeyframes (runQueue ops).1 clientId runId).getLast? with
      | none => exact absurd (List.getLast?_eq_none_iff.mp hl) hres
      | some frame => rfl
  refine ⟨read_inspect _ (by simp), hlast, ?_, fun frame hf => decodable_source_iff ops hlast hf⟩
  rw [hlast, lastKeyframeOf, List.getLast?_eq_none_iff, List.filter_eq_nil_iff]
  simp only [mem_lane, and_imp, Bool.not_eq_true]

theorem read_latestDecodable_mixedRun :
    ((runQueue mixedRunOps).1.read ⟨"c", "r1", .inspectLatestDecodable⟩).2.decodableSource =
      .retainedKeyframe := by
  have hinj : ScopeKeyInjective (("c", "r1") :: (storedFrames mixedRunOps).map scope) := by
    decide +kernel
  have h := (read_latestDecodable hinj).2.2.2
  have hf : ((runQueue mixedRunOps).1.read ⟨"c", "r1", .inspectLatestDecodable⟩).2.frame? =
      some (queuedFrame (sampleFrame "c" "r1" 1 true) 10) := by decide +kernel
  rw [h _ hf]
  decide +kernel

theorem scope_of_mem_run {state : ServerVideoFrameQueueState} (hs : state.WellFormed)
    {clientId : ClientId} {runId : RunId} {q : ServerQueuedVideoFrame}
    (hq : q ∈ state.framesForClientRun clientId runId) : scope q = (clientId, runId) := by
  obtain ⟨hm, hr⟩ := List.mem_filter.mp hq
  rw [scope, hs.keyed clientId q hm, of_decide_eq_true hr]

theorem selectFrame_mem_run {state : ServerVideoFrameQueueState} {input : ServerVideoFrameQueueReadInput}
    (hm : input.mode ≠ .inspectLatestDecodable) {frame : ServerQueuedVideoFrame}
    (h : (state.read input).2.frame? = some frame) :
    frame ∈ state.framesForClientRun input.clientId input.runId := by
  rw [read_frame?] at h
  obtain ⟨clientId, runId, mode⟩ := input
  cases mode with
  | inspectOldest => exact List.mem_of_mem_head? h
  | inspectLatest => exact List.mem_of_getLast? h
  | inspectLatestDecodable => exact absurd rfl hm
  | dequeueOldest =>
    change (state.popFrontForClientRun clientId runId).2 = some frame at h
    rw [popFrontForClientRun_eq] at h
    split at h
    next => cases h
    next f hf =>
      cases Option.some.inj h
      exact List.mem_filter.mpr ⟨List.mem_of_find?_eq_some hf, by simpa using List.find?_some hf⟩

/-- A read after `ops` returns frames of the requested client and run only. -/
def ReadInScope (ops : List QueueOp) (input : ServerVideoFrameQueueReadInput) : Prop :=
  ∀ frame, ((runQueue ops).1.read input).2.frame? = some frame →
    scope frame = (input.clientId, input.runId)

/-- The read leaves its scope exactly when it falls back to a keyframe that another client and run
stored last under the same scope key. -/
theorem readInScope_iff (ops : List QueueOp) (input : ServerVideoFrameQueueReadInput) :
    ReadInScope ops input ↔
      input.mode ≠ .inspectLatestDecodable ∨
        (∃ q ∈ (runQueue ops).1.framesForClientRun input.clientId input.runId, q.frame.isKeyframe) ∨
        ∀ q, lastKeyframeUnder (clientRunScopeKey input.clientId input.runId) (storedFrames ops) = some q →
          scope q = (input.clientId, input.runId) := by
  have hs := (runQueue_ledger ops).1
  by_cases hm : input.mode = .inspectLatestDecodable
  · obtain ⟨clientId, runId, mode⟩ := input
    cases hm
    unfold ReadInScope
    rw [(read_decodable (runQueue ops).1 clientId runId).1]
    cases hres : (residentKeyframes (runQueue ops).1 clientId runId).getLast? with
    | some resident =>
      obtain ⟨hq, hk⟩ := List.mem_filter.mp (List.mem_of_getLast? hres)
      refine iff_of_true (fun frame hf => ?_) (.inr (.inl ⟨resident, hq, hk⟩))
      cases Option.some.inj hf
      exact scope_of_mem_run hs hq
    | none =>
      have hnone := List.filter_eq_nil_iff.mp (List.getLast?_eq_none_iff.mp hres)
      have hret : (runQueue ops).1.retainedKeyframeForClientRun clientId runId =
          lastKeyframeUnder (clientRunScopeKey clientId runId) (storedFrames ops) :=
        retained_eq_lastKeyframeUnder ops _
      rw [← hret]
      refine ⟨fun h => .inr (.inr h), fun h => ?_⟩
      rcases h with h | ⟨q, hq, hk⟩ | h
      · exact absurd rfl h
      · exact absurd hk (hnone q hq)
      · exact h
  · refine iff_of_true (fun frame hf => ?_) (.inl hm)
    exact scope_of_mem_run hs (selectFrame_mem_run hm hf)

/-- The keyframe of run `c` of client `a/b` answers for run `b/c` of client `a`. -/
theorem read_foreign_scope :
    ¬ReadInScope [.storeFrame (sampleFrame "a/b" "c" 1 true) 10 ⟨8⟩]
      ⟨"a", "b/c", .inspectLatestDecodable⟩ := by
  intro h
  have hf := h (queuedFrame (sampleFrame "a/b" "c" 1 true) 10) (by decide +kernel)
  exact absurd hf (by decide +kernel)

end StreamSync
