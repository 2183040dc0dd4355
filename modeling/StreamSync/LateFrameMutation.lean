import StreamSync.TwoViewAllOrNothing

namespace StreamSync

open Effect Saturating ServerVideoFrameQueueState

structure SwitcherLateFrameQueueMutationPolicy where
  maxLateMicros : UInt64
deriving DecidableEq, Repr

structure SwitcherSingleClientLateFrameQueueMutationInput where
  clientId : ClientId
  runId : RunId
  targetTimestamp : TimestampMicros
  clockOffsetMicros : Option Int64
  policy : SwitcherLateFrameQueueMutationPolicy
deriving DecidableEq

structure SwitcherLateFrameDropRecord where
  frame : SwitcherSingleViewSelectedEncodedFrame
  adjustedCaptureTimestamp : TimestampMicros
  lateByMicros : UInt64
deriving DecidableEq

inductive SwitcherLateFrameQueueHeadStatus where
  | retained (frameId : UInt64) (captureTimestamp adjustedCaptureTimestamp : TimestampMicros)
      (remainingClientQueueLen : Nat)
  | noFrameAvailable (clientQueueLen : Nat)
deriving DecidableEq

structure SwitcherSingleClientLateFrameQueueMutationSummary where
  clientId : ClientId
  runId : RunId
  targetTimestamp : TimestampMicros
  lateThresholdTimestamp : TimestampMicros
  clockOffsetMicros : Option Int64
  droppedLateFrames : List SwitcherLateFrameDropRecord
  head : SwitcherLateFrameQueueHeadStatus
deriving DecidableEq

/-- How one turn of the loop ends. -/
inductive LateFrameTurn where
  | dropped (record : SwitcherLateFrameDropRecord)
  | finished (head : SwitcherLateFrameQueueHeadStatus)
deriving DecidableEq

namespace SwitcherSingleClientLateFrameQueueMutationInput

def lateThresholdTimestamp (input : SwitcherSingleClientLateFrameQueueMutationInput) : TimestampMicros :=
  saturatingSub input.targetTimestamp input.policy.maxLateMicros

def dropRecord (input : SwitcherSingleClientLateFrameQueueMutationInput)
    (frame : SwitcherSingleViewSelectedEncodedFrame) : SwitcherLateFrameDropRecord :=
  let adjustedCaptureTimestamp := applyOffsetMicros frame.captureTimestamp input.clockOffsetMicros
  { lateByMicros := saturatingSub input.targetTimestamp adjustedCaptureTimestamp
    frame
    adjustedCaptureTimestamp }

section Loop

variable {σ ε : Type}

/-- A peek at the oldest frame, and a pop if it is late. What was popped is recorded, whatever the peek has
shown. -/
def turn (input : SwitcherSingleClientLateFrameQueueMutationInput) (source : QueuedFrameSource σ ε) :
    Eff σ ε LateFrameTurn := do
  let oldest ← source ⟨input.clientId, input.runId, .previewOldest⟩
  match oldest with
  | .frameAvailable frame _ remainingClientQueueLen =>
    let adjustedCaptureTimestamp := applyOffsetMicros frame.captureTimestamp input.clockOffsetMicros
    if adjustedCaptureTimestamp < input.lateThresholdTimestamp then do
      let dropped ← source ⟨input.clientId, input.runId, .consumeOldest⟩
      match dropped with
      | .frameAvailable frame _ _ => pure (.dropped (input.dropRecord frame))
      | .noFrameAvailable _ _ _ clientQueueLen => pure (.finished (.noFrameAvailable clientQueueLen))
    else
      pure (.finished (.retained frame.frameId frame.captureTimestamp adjustedCaptureTimestamp
        remainingClientQueueLen))
  | .noFrameAvailable _ _ _ clientQueueLen => pure (.finished (.noFrameAvailable clientQueueLen))

/-- The loop of `mutate_from_source`, for as many turns as the fuel allows. -/
def turns (input : SwitcherSingleClientLateFrameQueueMutationInput) (source : QueuedFrameSource σ ε) :
    Nat → List SwitcherLateFrameDropRecord →
      Eff σ ε (Option SwitcherSingleClientLateFrameQueueMutationSummary)
  | 0, _ => pure none
  | fuel + 1, droppedLateFrames => do
    let outcome ← input.turn source
    match outcome with
    | .dropped record => input.turns source fuel (droppedLateFrames ++ [record])
    | .finished head =>
      pure (some {
        clientId := input.clientId
        runId := input.runId
        targetTimestamp := input.targetTimestamp
        lateThresholdTimestamp := input.lateThresholdTimestamp
        clockOffsetMicros := input.clockOffsetMicros
        droppedLateFrames
        head })

def mutateFromSource (input : SwitcherSingleClientLateFrameQueueMutationInput)
    (source : QueuedFrameSource σ ε) (fuel : Nat) :
    Eff σ ε (Option SwitcherSingleClientLateFrameQueueMutationSummary) :=
  input.turns source fuel []

def mutateQueueState (input : SwitcherSingleClientLateFrameQueueMutationInput) (fuel : Nat) :
    Eff ServerVideoFrameQueueState ε (Option SwitcherSingleClientLateFrameQueueMutationSummary) :=
  input.mutateFromSource inProcessSource fuel

end Loop

/-- The frame is further before the target than the policy allows. -/
def late (input : SwitcherSingleClientLateFrameQueueMutationInput) (queued : ServerQueuedVideoFrame) : Bool :=
  applyOffsetMicros queued.frame.captureTimestamp input.clockOffsetMicros < input.lateThresholdTimestamp

def summary (input : SwitcherSingleClientLateFrameQueueMutationInput)
    (droppedLateFrames : List SwitcherLateFrameDropRecord) (head : SwitcherLateFrameQueueHeadStatus) :
    SwitcherSingleClientLateFrameQueueMutationSummary :=
  ⟨input.clientId, input.runId, input.targetTimestamp, input.lateThresholdTimestamp,
    input.clockOffsetMicros, droppedLateFrames, head⟩

/-- The oldest frame that the state holds for the client and run. -/
def headOf (input : SwitcherSingleClientLateFrameQueueMutationInput) (state : ServerVideoFrameQueueState) :
    SwitcherLateFrameQueueHeadStatus :=
  match oldestFrame state input.clientId input.runId with
  | some queued =>
    .retained queued.frame.frameId queued.frame.captureTimestamp
      (applyOffsetMicros queued.frame.captureTimestamp input.clockOffsetMicros)
      (state.clientQueueLen input.clientId)
  | none => .noFrameAvailable (state.clientQueueLen input.clientId)

end SwitcherSingleClientLateFrameQueueMutationInput

/-- The frames `removed` were taken from the front of one client's run. Every other frame is left where it
was, in its client's queue and among the retained keyframes. -/
structure RunPrefixRemoved (clientId : ClientId) (runId : RunId) (state : ServerVideoFrameQueueState)
    (removed : List ServerQueuedVideoFrame) (state' : ServerVideoFrameQueueState) : Prop where
  client : ∃ front back, state.framesForClient clientId = front ++ back ∧
    state'.framesForClient clientId = front.filter (fun q => ¬q.frame.runId = runId) ++ back ∧
    front.filter (fun q => q.frame.runId = runId) = removed
  otherClients : ∀ otherClient, otherClient ≠ clientId →
    state'.framesForClient otherClient = state.framesForClient otherClient
  keyframes : state'.retainedKeyframeByClientRun = state.retainedKeyframeByClientRun

section Removed

variable {clientId : ClientId} {runId : RunId} {state state' state'' : ServerVideoFrameQueueState}
  {removed removed' : List ServerQueuedVideoFrame}

theorem runPrefixRemoved_nil (clientId : ClientId) (runId : RunId) (state : ServerVideoFrameQueueState) :
    RunPrefixRemoved clientId runId state [] state :=
  ⟨⟨[], state.framesForClient clientId, rfl, rfl, rfl⟩, fun _ _ => rfl, rfl⟩

theorem RunPrefixRemoved.run (h : RunPrefixRemoved clientId runId state removed state') :
    state.framesForClientRun clientId runId = removed ++ state'.framesForClientRun clientId runId := by
  obtain ⟨front, back, hstate, hstate', rfl⟩ := h.client
  have hnone : (front.filter (fun q => ¬q.frame.runId = runId)).filter
      (fun q => q.frame.runId = runId) = [] := by
    simp [List.filter_filter]
  unfold framesForClientRun
  rw [hstate, hstate', List.filter_append, List.filter_append, hnone, List.nil_append]

theorem RunPrefixRemoved.otherRuns (h : RunPrefixRemoved clientId runId state removed state')
    {otherRun : RunId} (hne : otherRun ≠ runId) :
    state'.framesForClientRun clientId otherRun = state.framesForClientRun clientId otherRun := by
  obtain ⟨front, back, hstate, hstate', -⟩ := h.client
  have hall : (front.filter (fun q => ¬q.frame.runId = runId)).filter
      (fun q => q.frame.runId = otherRun) = front.filter fun q => q.frame.runId = otherRun := by
    rw [List.filter_filter]
    refine List.filter_congr fun q _ => ?_
    by_cases hq : q.frame.runId = otherRun
    · simp [hq, hne]
    · simp [hq]
  unfold framesForClientRun
  rw [hstate, hstate', List.filter_append, List.filter_append, hall]

theorem RunPrefixRemoved.trans (h : RunPrefixRemoved clientId runId state removed state')
    (h' : RunPrefixRemoved clientId runId state' removed' state'') :
    RunPrefixRemoved clientId runId state (removed ++ removed') state'' := by
  obtain ⟨front, back, hstate, hfront, rfl⟩ := h.client
  obtain ⟨front', back', hback, hstate'', rfl⟩ := h'.client
  refine ⟨?_, fun other hne => (h'.otherClients other hne).trans (h.otherClients other hne),
    h'.keyframes.trans h.keyframes⟩
  rw [hfront] at hback
  rcases List.append_eq_append_iff.mp hback with ⟨more, rfl, rfl⟩ | ⟨more, hmore, rfl⟩
  -- The second removal reaches past the first.
  · refine ⟨front ++ more, back', ?_, ?_, ?_⟩
    · rw [hstate, List.append_assoc]
    · rw [hstate'', List.filter_append, List.filter_append, List.filter_filter]
      simp
    · rw [List.filter_append, List.filter_append, List.filter_filter]
      simp
  -- It ends before the first one has: there was nothing left of the run to remove.
  · have hkeep : ∀ q ∈ front', ¬q.frame.runId = runId := fun q hq => by
      have hmem : q ∈ front.filter (fun q => ¬q.frame.runId = runId) := by
        rw [hmore]
        exact List.mem_append_left _ hq
      simpa using (List.mem_filter.mp hmem).2
    have hself : front'.filter (fun q => ¬q.frame.runId = runId) = front' :=
      List.filter_eq_self.mpr (by simpa using hkeep)
    have hnone : front'.filter (fun q => q.frame.runId = runId) = [] :=
      List.filter_eq_nil_iff.mpr (by simpa using hkeep)
    refine ⟨front, back, hstate, ?_, ?_⟩
    · rw [hstate'', hmore, hself, List.append_assoc]
    · rw [hnone, List.append_nil]

/-- Popping the oldest frame of a run removes it, and nothing else. -/
theorem runPrefixRemoved_popFront {queued : ServerQueuedVideoFrame}
    (h : oldestFrame state clientId runId = some queued) :
    RunPrefixRemoved clientId runId state [queued] (state.popFrontForClientRun clientId runId).1 := by
  have hfind : (state.framesForClient clientId).find? (fun q => q.frame.runId = runId) = some queued := by
    rw [← List.head?_filter]
    exact h
  have hpop : (state.popFrontForClientRun clientId runId).1 = state.putQueue clientId
      ((state.framesForClient clientId).eraseP fun q => q.frame.runId = runId) := by
    rw [popFrontForClientRun_eq, hfind]
  obtain ⟨hqueued, before, after, hlist, hbefore⟩ := List.find?_eq_some_iff_append.mp hfind
  have hkept : ∀ q ∈ before, ¬q.frame.runId = runId := by simpa using hbefore
  have hrun : queued.frame.runId = runId := of_decide_eq_true hqueued
  rw [hpop]
  refine ⟨⟨before ++ [queued], after, ?_, ?_, ?_⟩, fun other hne => ?_, retained_putQueue _ _ _⟩
  · rw [hlist, List.append_assoc]
    rfl
  · have herase : (before ++ queued :: after).eraseP (fun q => q.frame.runId = runId) = before ++ after := by
      rw [List.eraseP_append_right _ (by simpa using hkept), List.eraseP_cons_of_pos (by simpa using hrun)]
    have hself : before.filter (fun q => ¬q.frame.runId = runId) = before :=
      List.filter_eq_self.mpr (by simpa using hkept)
    rw [framesForClient_putQueue, if_pos rfl, hlist, herase, List.filter_append, hself]
    simp [hrun]
  · have hnone : before.filter (fun q => q.frame.runId = runId) = [] :=
      List.filter_eq_nil_iff.mpr (by simpa using hkept)
    rw [List.filter_append, hnone]
    simp [hrun]
  · rw [framesForClient_putQueue, if_neg (Ne.symm hne)]

end Removed

namespace SwitcherSingleClientLateFrameQueueMutationInput

variable {ε : Type} {input : SwitcherSingleClientLateFrameQueueMutationInput}
  {state : ServerVideoFrameQueueState}

theorem late_iff {queued : ServerQueuedVideoFrame} :
    input.late queued = true ↔
      (applyOffsetMicros queued.frame.captureTimestamp input.clockOffsetMicros).toNat +
        input.policy.maxLateMicros.toNat < input.targetTimestamp.toNat := by
  unfold late lateThresholdTimestamp
  rw [decide_eq_true_iff, UInt64.lt_iff_toNat_lt, toNat_saturatingSub]
  omega

/-- The frame that the peek has found late is the one that the pop takes. -/
theorem turn_late {queued : ServerQueuedVideoFrame}
    (holdest : oldestFrame state input.clientId input.runId = some queued) (hlate : input.late queued = true) :
    input.turn (inProcessSource (ε := ε)) state =
      .ok (.dropped (input.dropRecord (.ofQueued queued)),
        (state.popFrontForClientRun input.clientId input.runId).1) := by
  have hpeek := inProcessSource_of_read (ε := ε)
    (readQueueSource_previewOldest state input.clientId input.runId)
  have hpop := inProcessSource_of_read (ε := ε)
    (readQueueSource_consumeOldest state input.clientId input.runId)
  rw [holdest] at hpeek hpop
  have hlt : applyOffsetMicros (SwitcherSingleViewSelectedEncodedFrame.ofQueued queued).captureTimestamp
      input.clockOffsetMicros < input.lateThresholdTimestamp := of_decide_eq_true hlate
  unfold turn
  rw [bind_of_ok hpeek]
  dsimp only
  rw [if_pos hlt, bind_of_ok hpop]
  rfl

theorem turn_finished
    (hhead : ∀ queued, oldestFrame state input.clientId input.runId = some queued →
      input.late queued = false) :
    input.turn (inProcessSource (ε := ε)) state = .ok (.finished (input.headOf state), state) := by
  have hpeek := inProcessSource_of_read (ε := ε)
    (readQueueSource_previewOldest state input.clientId input.runId)
  unfold turn headOf
  rw [bind_of_ok hpeek]
  cases holdest : oldestFrame state input.clientId input.runId with
  | none => rfl
  | some queued =>
    have hnot : ¬ applyOffsetMicros (SwitcherSingleViewSelectedEncodedFrame.ofQueued queued).captureTimestamp
        input.clockOffsetMicros < input.lateThresholdTimestamp := of_decide_eq_false (hhead queued holdest)
    dsimp only
    rw [if_neg hnot]
    rfl

theorem turns_finished {droppedLateFrames : List SwitcherLateFrameDropRecord} (fuel : Nat)
    (hhead : ∀ queued, oldestFrame state input.clientId input.runId = some queued →
      input.late queued = false) :
    input.turns (inProcessSource (ε := ε)) (fuel + 1) droppedLateFrames state =
      .ok (some (input.summary droppedLateFrames (input.headOf state)), state) := by
  unfold turns
  rw [bind_of_ok (turn_finished hhead)]
  rfl

/-- The loop from any state: by induction on the frames that the run still holds. -/
theorem turns_run (frames : List ServerQueuedVideoFrame) :
    ∀ (state : ServerVideoFrameQueueState) (droppedLateFrames : List SwitcherLateFrameDropRecord),
      state.framesForClientRun input.clientId input.runId = frames →
      ∃ state',
        (∀ more, input.turns (inProcessSource (ε := ε)) (frames.length + 1 + more) droppedLateFrames state =
          .ok (some (input.summary (droppedLateFrames ++
            (frames.takeWhile input.late).map fun queued => input.dropRecord (.ofQueued queued))
              (input.headOf state')), state')) ∧
        RunPrefixRemoved input.clientId input.runId state (frames.takeWhile input.late) state' ∧
        state'.framesForClientRun input.clientId input.runId = frames.dropWhile input.late := by
  induction frames with
  | nil =>
    intro state droppedLateFrames hframes
    have hnone : oldestFrame state input.clientId input.runId = none := by
      unfold oldestFrame
      rw [hframes]
      rfl
    refine ⟨state, fun more => ?_, runPrefixRemoved_nil .., hframes⟩
    rw [List.length_nil, Nat.add_right_comm, turns_finished _ (by simp [hnone])]
    simp
  | cons queued rest ih =>
    intro state droppedLateFrames hframes
    have holdest : oldestFrame state input.clientId input.runId = some queued := by
      unfold oldestFrame
      rw [hframes]
      rfl
    by_cases hlate : input.late queued = true
    · have hremoved := runPrefixRemoved_popFront holdest
      have hrest : (state.popFrontForClientRun input.clientId input.runId).1.framesForClientRun
          input.clientId input.runId = rest := by
        have hrun := hremoved.run
        rw [hframes] at hrun
        exact (List.cons.inj hrun).2.symm
      obtain ⟨state', hturns, hthen, hleft⟩ := ih _
        (droppedLateFrames ++ [input.dropRecord (.ofQueued queued)]) hrest
      rw [List.takeWhile_cons_of_pos hlate, List.dropWhile_cons_of_pos hlate]
      refine ⟨state', fun more => ?_, hremoved.trans hthen, hleft⟩
      have hfuel : (queued :: rest).length + 1 + more = rest.length + 1 + more + 1 := by
        rw [List.length_cons]
        omega
      rw [hfuel, turns, bind_of_ok (turn_late holdest hlate)]
      dsimp only
      rw [hturns more, List.append_assoc]
      rfl
    · have hnot : input.late queued = false := Bool.eq_false_iff.mpr hlate
      rw [List.takeWhile_cons_of_neg hlate, List.dropWhile_cons_of_neg hlate]
      refine ⟨state, fun more => ?_, runPrefixRemoved_nil .., hframes⟩
      rw [Nat.add_right_comm, turns_finished]
      · simp
      · intro other hother
        rw [holdest] at hother
        cases hother
        exact hnot

end SwitcherSingleClientLateFrameQueueMutationInput

open SwitcherSingleClientLateFrameQueueMutationInput in
/-- The mutation takes out the longest late prefix of the run, in whatever state it finds the queue, and
records it. A second pass takes nothing. -/
theorem mutateQueueState_removes_late_prefix {ε : Type}
    (input : SwitcherSingleClientLateFrameQueueMutationInput) (state : ServerVideoFrameQueueState) :
    let run := state.framesForClientRun input.clientId input.runId
    let lateFrames := run.takeWhile input.late
    ∃ state',
      (∀ more, input.mutateQueueState (ε := ε) (run.length + 1 + more) state =
        .ok (some (input.summary (lateFrames.map fun queued => input.dropRecord (.ofQueued queued))
          (input.headOf state')), state')) ∧
      (∀ queued ∈ lateFrames,
        (applyOffsetMicros queued.frame.captureTimestamp input.clockOffsetMicros).toNat +
            input.policy.maxLateMicros.toNat < input.targetTimestamp.toNat ∧
          (input.dropRecord (.ofQueued queued)).lateByMicros.toNat = input.targetTimestamp.toNat -
            (applyOffsetMicros queued.frame.captureTimestamp input.clockOffsetMicros).toNat) ∧
      RunPrefixRemoved input.clientId input.runId state lateFrames state' ∧
      state'.framesForClientRun input.clientId input.runId = run.dropWhile input.late ∧
      (∀ otherRun, otherRun ≠ input.runId → state'.framesForClientRun input.clientId otherRun =
        state.framesForClientRun input.clientId otherRun) ∧
      (∀ queued, oldestFrame state' input.clientId input.runId = some queued →
        input.targetTimestamp.toNat ≤
          (applyOffsetMicros queued.frame.captureTimestamp input.clockOffsetMicros).toNat +
            input.policy.maxLateMicros.toNat) ∧
      (∀ more, input.mutateQueueState (ε := ε) (more + 1) state' =
        .ok (some (input.summary [] (input.headOf state')), state')) := by
  intro run lateFrames
  obtain ⟨state', hturns, hremoved, hleft⟩ := @turns_run ε input run state [] rfl
  have hhead : ∀ queued, oldestFrame state' input.clientId input.runId = some queued →
      input.late queued = false := by
    intro queued holdest
    unfold oldestFrame at holdest
    rw [hleft] at holdest
    have hnot := List.head?_dropWhile_not input.late run
    rw [holdest] at hnot
    exact hnot
  refine ⟨state', hturns, fun queued hqueued => ?_, hremoved, hleft, fun _ hne => hremoved.otherRuns hne,
    fun queued holdest => ?_, fun more => turns_finished more hhead⟩
  · have hlate := List.all_eq_true.mp List.all_takeWhile queued hqueued
    exact ⟨late_iff.mp hlate, toNat_saturatingSub ..⟩
  · have hnot := hhead queued holdest
    rw [← Bool.not_eq_true, late_iff] at hnot
    omega

end StreamSync
