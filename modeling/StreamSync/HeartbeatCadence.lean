import StreamSync.HeartbeatTick
import StreamSync.Lib.Fallible
import StreamSync.Lib.Run

namespace StreamSync

open ClientHeartbeatLoopOneTickRuntimeBoundary Run Saturating

/-- What the loop owns for all its turns. -/
structure ClientHeartbeatLoopRepeatedRuntimeHandoff where
  clientId : ClientId
  runId : RunId
  protocolVersion : ProtocolVersion
  cadence : ClientHeartbeatLoopCadenceInput
  stopCondition : ClientHeartbeatLoopStopCondition
  maxAckSocketWaitMicros : UInt64
  maxSleepMicros : UInt64
  retryPolicy : ClientHeartbeatLoopRetryPolicy
  localTimeEnabled : Bool
  shortStatus : Option String
deriving DecidableEq, Repr

def ClientHeartbeatLoopCountersState.asPolicySnapshot (counters : ClientHeartbeatLoopCountersState)
    (stopRequested : Bool) : ClientHeartbeatLoopStateSnapshot where
  sentHeartbeats := counters.sentHeartbeats
  receivedAcks := counters.receivedAcks
  missedAcks := counters.missedAcks
  lastHeartbeatSentAt := counters.lastHeartbeatSentAt
  stopRequested := stopRequested

def ClientHeartbeatLoopRepeatedRuntimeHandoff.buildOneTickInput
    (handoff : ClientHeartbeatLoopRepeatedRuntimeHandoff) (now : TimestampMicros)
    (state : ClientHeartbeatLoopStateSnapshot) (retryAttemptsUsed : UInt32) :
    ClientHeartbeatLoopOneTickRuntimeInput where
  body := {
    ownership := {
      clientId := handoff.clientId, runId := handoff.runId, protocolVersion := handoff.protocolVersion,
      authAccepted := true, socketBound := true }
    policy := {
      clientId := handoff.clientId, runId := handoff.runId, now, cadence := handoff.cadence,
      stopCondition := handoff.stopCondition, state }
    maxAckSocketWaitMicros := handoff.maxAckSocketWaitMicros }
  localTime := if handoff.localTimeEnabled then some now else none
  shortStatus := handoff.shortStatus
  controllerNow := now
  maxSleepMicros := handoff.maxSleepMicros
  retryPolicy := handoff.retryPolicy
  retryAttemptsUsed := retryAttemptsUsed

/-- What comes from outside in one turn: the clock, the stop request, and what the socket does. -/
structure HeartbeatTurn where
  now : TimestampMicros
  stopRequested : Bool
  retryAttemptsUsed : UInt32
  socket : TickSocket

structure HeartbeatRunState where
  queue : List AckDatagram
  counters : ClientHeartbeatLoopCountersState

def HeartbeatRunState.start : HeartbeatRunState := ⟨[], .zero⟩

/-- The input of a turn: the counters as they are, and the clock. -/
def oneTickInput (handoff : ClientHeartbeatLoopRepeatedRuntimeHandoff)
    (counters : ClientHeartbeatLoopCountersState) (turn : HeartbeatTurn) :
    ClientHeartbeatLoopOneTickRuntimeInput :=
  handoff.buildOneTickInput turn.now (counters.asPolicySnapshot turn.stopRequested) turn.retryAttemptsUsed

/-- `ClientHeartbeatLoopRepeatedRuntimeBodyBoundary::run_one`. -/
def runRepeatedBody (handoff : ClientHeartbeatLoopRepeatedRuntimeHandoff) (state : HeartbeatRunState)
    (turn : HeartbeatTurn) : HeartbeatRunState × ClientHeartbeatLoopOneTickRuntimeResult :=
  let ran := runOne turn.socket state.queue state.counters (oneTickInput handoff state.counters turn)
  (⟨ran.2, ran.1.finalCounters⟩, ran.1)

namespace ClientHeartbeatLoopOneTickRuntimeResult

/-- When the heartbeat of the turn was sent, if one was. -/
def sentAt (result : ClientHeartbeatLoopOneTickRuntimeResult) : Option TimestampMicros :=
  result.heartbeatSend.map fun send => send.handoff.heartbeat.sentAt

/-- The receive of the ack failed, and not because none came in time. -/
def ackFailedOtherwise (result : ClientHeartbeatLoopOneTickRuntimeResult) : Bool :=
  match result.failure with
  | some (.ackReceive error) => !error.isTimeout
  | _ => false

end ClientHeartbeatLoopOneTickRuntimeResult

/-- How a heartbeat that was sent is answered: in the counters, and as a failure that is not counted there
alone. -/
inductive HeartbeatAnswer (before after : ClientHeartbeatLoopCountersState) : Bool → Prop where
  | received (hr : after.receivedAcks = saturatingAdd before.receivedAcks 1)
      (hm : after.missedAcks = before.missedAcks) : HeartbeatAnswer before after false
  | missed (hr : after.receivedAcks = before.receivedAcks)
      (hm : after.missedAcks = saturatingAdd before.missedAcks 1) : HeartbeatAnswer before after false
  | failed (hr : after.receivedAcks = before.receivedAcks)
      (hm : after.missedAcks = before.missedAcks) : HeartbeatAnswer before after true

/-- All that a turn does to what the cadence and the counters of the acks are about. -/
inductive TurnEffect (before : ClientHeartbeatLoopCountersState)
    (input : ClientHeartbeatLoopOneTickRuntimeInput) (result : ClientHeartbeatLoopOneTickRuntimeResult) :
    Prop where
  | quiet (notSent : result.sentAt = none)
      (sent : result.finalCounters.sentHeartbeats = before.sentHeartbeats)
      (last : result.finalCounters.lastHeartbeatSentAt = before.lastHeartbeatSentAt)
      (received : result.finalCounters.receivedAcks = before.receivedAcks)
      (missed : result.finalCounters.missedAcks = before.missedAcks)
      (answered : result.ackFailedOtherwise = false)
  | sent (handoff : ClientHeartbeatLoopBodySendHandoff) (log : ClientHeartbeatLoopLogHandoff)
      (planned : planController (runBody input.body) input.controllerNow input.maxSleepMicros =
        .sendHeartbeat handoff log)
      (wasSent : result.sentAt = some handoff.sendAt)
      (sent : result.finalCounters.sentHeartbeats = saturatingAdd before.sentHeartbeats 1)
      (last : result.finalCounters.lastHeartbeatSentAt = some handoff.sendAt)
      (answered : HeartbeatAnswer before result.finalCounters result.ackFailedOtherwise)

section Turn

variable {socket : TickSocket} {queue : List AckDatagram} {counters : ClientHeartbeatLoopCountersState}
  {input : ClientHeartbeatLoopOneTickRuntimeInput} {result : ClientHeartbeatLoopOneTickRuntimeResult}

/-- The stats return leaves alone what was counted of heartbeats and acks. -/
theorem runStats_keeps (hfailure : result.failure = none)
    (stats : Option ClientHeartbeatLoopClientStatsReturnHandoff) :
    (runStats socket input result stats).heartbeatSend = result.heartbeatSend ∧
    (runStats socket input result stats).finalCounters.sentHeartbeats =
      result.finalCounters.sentHeartbeats ∧
    (runStats socket input result stats).finalCounters.lastHeartbeatSentAt =
      result.finalCounters.lastHeartbeatSentAt ∧
    (runStats socket input result stats).finalCounters.receivedAcks = result.finalCounters.receivedAcks ∧
    (runStats socket input result stats).finalCounters.missedAcks = result.finalCounters.missedAcks ∧
    (runStats socket input result stats).ackFailedOtherwise = false := by
  cases stats with
  | none =>
    refine ⟨rfl, rfl, rfl, rfl, rfl, ?_⟩
    simp only [runStats, ClientHeartbeatLoopOneTickRuntimeResult.ackFailedOtherwise, hfailure]
  | some handoff =>
    unfold runStats
    cases socket.statsSend with
    | ok bytesSent =>
      refine ⟨rfl, rfl, rfl, rfl, rfl, ?_⟩
      simp only [ClientHeartbeatLoopOneTickRuntimeResult.ackFailedOtherwise, commitIteration, hfailure]
    | error kind => exact ⟨rfl, rfl, rfl, rfl, rfl, rfl⟩

/-- What the receive does after a heartbeat was sent. -/
theorem runAck_effect {handoff : ClientHeartbeatLoopBodySendHandoff} {log : ClientHeartbeatLoopLogHandoff}
    (hplanned : planController (runBody input.body) input.controllerNow input.maxSleepMicros =
      .sendHeartbeat handoff log)
    (hsent : result.sentAt = some handoff.sendAt) (hfailure : result.failure = none)
    (hcount : result.finalCounters.sentHeartbeats = saturatingAdd counters.sentHeartbeats 1)
    (hlast : result.finalCounters.lastHeartbeatSentAt = some handoff.sendAt)
    (hreceived : result.finalCounters.receivedAcks = counters.receivedAcks)
    (hmissed : result.finalCounters.missedAcks = counters.missedAcks)
    (received : Except ClientHeartbeatLoopAckObservationReturnError
      ClientHeartbeatLoopAckObservationReturnRuntimeResult) :
    TurnEffect counters input (runAck socket input result received) := by
  cases received with
  | error error =>
    cases htimeout : error.isTimeout with
    | true =>
      simp only [runAck, htimeout, if_true]
      refine .sent handoff log hplanned hsent hcount hlast ?_
      have hother : (applyFailure input (commitIteration result (.ackMissed input.controllerNow))
          (.ackReceive error) (retryReasonForAckError error) .ackReceive).ackFailedOtherwise = false := by
        show (!error.isTimeout) = false
        rw [htimeout]
        rfl
      rw [hother]
      exact .missed hreceived (congrArg (saturatingAdd · 1) hmissed)
    | false =>
      simp only [runAck, htimeout, Bool.false_eq_true, if_false]
      refine .sent handoff log hplanned hsent hcount hlast ?_
      have hother : (applyFailure input result (.ackReceive error) (retryReasonForAckError error)
          .ackReceive).ackFailedOtherwise = true := by
        show (!error.isTimeout) = true
        rw [htimeout]
        rfl
      rw [hother]
      exact .failed hreceived hmissed
  | ok ack =>
    have hkeeps := @runStats_keeps socket input
      { commitIteration result
        (.ackReceived ack.observation.clientReceivedAt ack.clientStatsReturn.isSome) with
          ackReturn := some ack } hfailure ack.clientStatsReturn
    obtain ⟨hsend, hs, hl, hr, hm, hother⟩ := hkeeps
    simp only [runAck]
    refine .sent handoff log hplanned ?_ (hs.trans hcount) (hl.trans hlast) ?_
    · rw [ClientHeartbeatLoopOneTickRuntimeResult.sentAt, hsend]
      exact hsent
    · rw [hother]
      exact .received (hr.trans (congrArg (saturatingAdd · 1) hreceived)) (hm.trans hmissed)

theorem runSendAckStats_effect {handoff : ClientHeartbeatLoopBodySendHandoff}
    {log : ClientHeartbeatLoopLogHandoff}
    (hplanned : planController (runBody input.body) input.controllerNow input.maxSleepMicros =
      .sendHeartbeat handoff log)
    (hnone : result.heartbeatSend = none) (hfailure : result.failure = none)
    (hcounters : result.finalCounters = counters) :
    TurnEffect counters input (runSendAckStats socket queue input handoff result).1 := by
  subst hcounters
  unfold runSendAckStats
  cases hsend : sendHeartbeat socket handoff input.localTime input.shortStatus with
  | error error =>
    refine .quiet ?_ rfl rfl rfl rfl rfl
    show result.sentAt = none
    rw [ClientHeartbeatLoopOneTickRuntimeResult.sentAt, hnone]
    rfl
  | ok send =>
    have hat : send.handoff.heartbeat.sentAt = handoff.sendAt := by
      obtain ⟨encoded, hencoded, hrest⟩ := Fallible.bind_eq_ok_iff.mp hsend
      obtain ⟨bytesSent, -, hsent⟩ := Fallible.bind_eq_ok_iff.mp hrest
      obtain ⟨bytes, -, hhandoff⟩ := Fallible.bind_eq_ok_iff.mp hencoded
      cases hsent
      cases hhandoff
      rfl
    -- the state behind the send, whatever becomes of its ack
    have heffect : ∀ received, TurnEffect result.finalCounters input (runAck socket input
        { commitIteration result (.heartbeatSent send.handoff.heartbeat.sentAt) with
          heartbeatSend := some send } received) :=
      runAck_effect hplanned (congrArg some hat) hfailure rfl (congrArg some hat) rfl rfl
    dsimp only
    split
    next =>
      refine .sent handoff log hplanned (congrArg some hat) rfl (congrArg some hat) ?_
      have hother : (commitIteration { commitIteration result (.heartbeatSent send.handoff.heartbeat.sentAt)
          with heartbeatSend := some send } (.ackMissed input.controllerNow)).ackFailedOtherwise = false := by
        simp only [ClientHeartbeatLoopOneTickRuntimeResult.ackFailedOtherwise, commitIteration, hfailure]
      rw [hother]
      exact .missed rfl rfl
    next =>
      split
      next => exact heffect (ClientHeartbeatLoopAckObservationReturnBoundary.receiveOne socket
          (.error socket.emptyReceive) send.handoff)
      next datagram rest => exact heffect (ClientHeartbeatLoopAckObservationReturnBoundary.receiveOne socket
          (.ok datagram) send.handoff)

theorem runOne_effect : TurnEffect counters input (runOne socket queue counters input).1 := by
  unfold runOne
  dsimp only
  split
  next => exact .quiet rfl rfl rfl rfl rfl rfl
  next reason log iterationResult hplan =>
    have hstopped : iterationResult = .stopped reason := by
      unfold planController at hplan
      split at hplan <;> cases hplan
      rfl
    subst hstopped
    exact .quiet rfl rfl rfl rfl rfl rfl
  next sleep log iterationResult hplan =>
    have hwaited : ∃ dueAt, iterationResult = .waited dueAt := by
      unfold planController at hplan
      split at hplan <;> cases hplan
      exact ⟨_, rfl⟩
    obtain ⟨dueAt, rfl⟩ := hwaited
    exact .quiet rfl rfl rfl rfl rfl rfl
  next handoff log hplan => exact runSendAckStats_effect hplan rfl rfl rfl

end Turn

namespace ClientHeartbeatLoopPolicyBoundary

variable {input : ClientHeartbeatLoopPolicyInput}

/-- When the next heartbeat is due: an interval after the last one, or at once. -/
def nextDueAt (input : ClientHeartbeatLoopPolicyInput) : TimestampMicros :=
  match input.state.lastHeartbeatSentAt with
  | some timestamp => saturatingAdd timestamp input.cadence.heartbeatIntervalMicros
  | none => input.now

theorem evaluate_of_stopReason (h : stopReason input = none) :
    evaluate input =
      if input.now < nextDueAt input then
        .wait (nextDueAt input) (clientHeartbeatLoopLog input .waitingForCadence)
      else
        .sendHeartbeat input.now (saturatingAdd input.now input.cadence.ackReceiveTimeoutMicros)
          input.cadence.ackObservationReturn (clientHeartbeatLoopLog input .heartbeatDue) := by
  rw [evaluate, h]
  rfl

theorem evaluate_of_stopReason_some {reason : ClientHeartbeatLoopPolicyReason}
    (h : stopReason input = some reason) :
    evaluate input = .stop reason (clientHeartbeatLoopLog input reason) := by
  rw [evaluate, h]

theorem evaluate_send {sendAt ackDeadlineAt : TimestampMicros}
    {ackObservationReturn : ClientHeartbeatAckObservationReturnMode} {log : ClientHeartbeatLoopLogHandoff}
    (h : evaluate input = .sendHeartbeat sendAt ackDeadlineAt ackObservationReturn log) :
    stopReason input = none ∧ sendAt = input.now ∧ nextDueAt input ≤ input.now := by
  cases hreason : stopReason input with
  | some reason => rw [evaluate_of_stopReason_some hreason] at h; cases h
  | none =>
    rw [evaluate_of_stopReason hreason] at h
    by_cases hdue : input.now < nextDueAt input
    · rw [if_pos hdue] at h
      cases h
    · rw [if_neg hdue] at h
      cases h
      exact ⟨rfl, rfl, UInt64.not_lt.mp hdue⟩

/-- The policy waits only for a time that is still to come. -/
theorem evaluate_wait {nextHeartbeatDueAt : TimestampMicros} {log : ClientHeartbeatLoopLogHandoff}
    (h : evaluate input = .wait nextHeartbeatDueAt log) : input.now < nextHeartbeatDueAt := by
  cases hreason : stopReason input with
  | some reason => rw [evaluate_of_stopReason_some hreason] at h; cases h
  | none =>
    rw [evaluate_of_stopReason hreason] at h
    by_cases hdue : input.now < nextDueAt input
    · rw [if_pos hdue] at h
      cases h
      exact hdue
    · rw [if_neg hdue] at h
      cases h

end ClientHeartbeatLoopPolicyBoundary

/-- What the policy asks for before it lets a heartbeat go. -/
structure SendAllowed (handoff : ClientHeartbeatLoopRepeatedRuntimeHandoff)
    (counters : ClientHeartbeatLoopCountersState) (turn : HeartbeatTurn) : Prop where
  notStopped : turn.stopRequested = false
  belowMax : ∀ maxSentHeartbeats, handoff.stopCondition = .maxHeartbeats maxSentHeartbeats →
    counters.sentHeartbeats < maxSentHeartbeats
  missedBelowMax : ∀ maxMissedAcks, handoff.stopCondition = .maxMissedAcks maxMissedAcks →
    counters.missedAcks < maxMissedAcks
  due : ∀ last, counters.lastHeartbeatSentAt = some last →
    saturatingAdd last handoff.cadence.heartbeatIntervalMicros ≤ turn.now

section Policy

variable {handoff : ClientHeartbeatLoopRepeatedRuntimeHandoff} {counters : ClientHeartbeatLoopCountersState}
  {turn : HeartbeatTurn}

/-- The policy that the body of a turn asks. -/
def turnPolicy (handoff : ClientHeartbeatLoopRepeatedRuntimeHandoff)
    (counters : ClientHeartbeatLoopCountersState) (turn : HeartbeatTurn) : ClientHeartbeatLoopPolicyInput :=
  (oneTickInput handoff counters turn).body.policy

/-- The loop owns its socket and its auth, so the body does what the policy says. -/
theorem runBody_oneTickInput :
    runBody (oneTickInput handoff counters turn).body =
      match ClientHeartbeatLoopPolicyBoundary.evaluate (turnPolicy handoff counters turn) with
      | .stop reason log => .stop reason log
      | .wait nextHeartbeatDueAt log => .wait nextHeartbeatDueAt log
      | .sendHeartbeat sendAt ackDeadlineAt ackObservationReturn log =>
        .sendHeartbeat {
          clientId := handoff.clientId
          runId := handoff.runId
          protocolVersion := handoff.protocolVersion
          sendAt
          ackDeadlineAt
          ackWait := planAckWait sendAt ackDeadlineAt handoff.maxAckSocketWaitMicros
          ackObservationReturn } log := rfl

theorem sendAllowed_of_stopReason (h : ClientHeartbeatLoopPolicyBoundary.stopReason
      (turnPolicy handoff counters turn) = none) :
    turn.stopRequested = false ∧
      (∀ maxSentHeartbeats, handoff.stopCondition = .maxHeartbeats maxSentHeartbeats →
        counters.sentHeartbeats < maxSentHeartbeats) ∧
      ∀ maxMissedAcks, handoff.stopCondition = .maxMissedAcks maxMissedAcks →
        counters.missedAcks < maxMissedAcks := by
  have hcondition : (turnPolicy handoff counters turn).stopCondition = handoff.stopCondition := rfl
  unfold ClientHeartbeatLoopPolicyBoundary.stopReason at h
  rw [hcondition] at h
  split at h
  next => cases h
  next hrequest =>
    refine ⟨Bool.eq_false_iff.mpr hrequest, fun maxSent hmax => ?_, fun maxMissed hmax => ?_⟩
    · rw [hmax] at h
      dsimp only at h
      split at h
      next => cases h
      next hbelow => exact UInt64.not_le.mp hbelow
    · rw [hmax] at h
      dsimp only at h
      split at h
      next => cases h
      next hbelow => exact UInt64.not_le.mp hbelow

theorem sendAllowed_of_planned {maxSleepMicros : UInt64} {sent : ClientHeartbeatLoopBodySendHandoff}
    {log : ClientHeartbeatLoopLogHandoff}
    (h : planController (runBody (oneTickInput handoff counters turn).body) turn.now maxSleepMicros =
      .sendHeartbeat sent log) : SendAllowed handoff counters turn ∧ sent.sendAt = turn.now := by
  rw [runBody_oneTickInput] at h
  cases hpolicy : ClientHeartbeatLoopPolicyBoundary.evaluate (turnPolicy handoff counters turn) with
  | stop reason log => rw [hpolicy] at h; cases h
  | wait nextHeartbeatDueAt log => rw [hpolicy] at h; cases h
  | sendHeartbeat sendAt ackDeadlineAt ackObservationReturn log =>
    rw [hpolicy] at h
    cases h
    obtain ⟨hreason, hnow, hdue⟩ := ClientHeartbeatLoopPolicyBoundary.evaluate_send hpolicy
    obtain ⟨hrequest, hmax, hmissed⟩ := sendAllowed_of_stopReason hreason
    refine ⟨⟨hrequest, hmax, hmissed, fun last hlast => ?_⟩, hnow⟩
    have hnext : ClientHeartbeatLoopPolicyBoundary.nextDueAt (turnPolicy handoff counters turn) =
        saturatingAdd last handoff.cadence.heartbeatIntervalMicros := by
      rw [ClientHeartbeatLoopPolicyBoundary.nextDueAt,
        show (turnPolicy handoff counters turn).state.lastHeartbeatSentAt = some last from hlast]
      rfl
    exact hnext ▸ hdue

end Policy

/-- One turn sends nothing, or sends a heartbeat that the policy allows, stamped with the clock. -/
theorem runRepeatedBody_effect (handoff : ClientHeartbeatLoopRepeatedRuntimeHandoff)
    (state : HeartbeatRunState) (turn : HeartbeatTurn) :
    TurnEffect state.counters (oneTickInput handoff state.counters turn)
      (runRepeatedBody handoff state turn).2 := runOne_effect

/-- When the heartbeats of a run were sent, in order. -/
def sentTimes (results : List ClientHeartbeatLoopOneTickRuntimeResult) : List TimestampMicros :=
  results.filterMap ClientHeartbeatLoopOneTickRuntimeResult.sentAt

def ackFailuresOtherwise (results : List ClientHeartbeatLoopOneTickRuntimeResult) : Nat :=
  (results.filter ClientHeartbeatLoopOneTickRuntimeResult.ackFailedOtherwise).length

def runHeartbeatTurns (handoff : ClientHeartbeatLoopRepeatedRuntimeHandoff) (turns : List HeartbeatTurn) :
    HeartbeatRunState × List ClientHeartbeatLoopOneTickRuntimeResult :=
  run (runRepeatedBody handoff) .start turns

/-- Consecutive times are an interval apart, as far as the clock goes. -/
def SpacedBy (interval : UInt64) (times : List TimestampMicros) : Prop :=
  ∀ k earlier later, times[k]? = some earlier → times[k + 1]? = some later →
    saturatingAdd earlier interval ≤ later

theorem SpacedBy.concat {interval : UInt64} {times : List TimestampMicros} (h : SpacedBy interval times)
    {time : TimestampMicros} (hlast : ∀ last, times.getLast? = some last → saturatingAdd last interval ≤ time) :
    SpacedBy interval (times ++ [time]) := by
  intro k earlier later hk hk'
  obtain ⟨hlt, -⟩ := List.getElem?_eq_some_iff.mp hk'
  rw [List.length_append, List.length_singleton] at hlt
  rw [List.getElem?_append_left (by omega)] at hk
  by_cases hin : k + 1 < times.length
  · rw [List.getElem?_append_left hin] at hk'
    exact h k earlier later hk hk'
  · have hend : k + 1 = times.length := by omega
    rw [hend, List.getElem?_concat_length] at hk'
    cases hk'
    apply hlast
    rw [List.getLast?_eq_getElem?, ← hend]
    exact hk

/-- What the counters say of the heartbeats of a run, each counter up to its width. -/
structure CountsRun (handoff : ClientHeartbeatLoopRepeatedRuntimeHandoff)
    (counters : ClientHeartbeatLoopCountersState)
    (results : List ClientHeartbeatLoopOneTickRuntimeResult) : Prop where
  last : counters.lastHeartbeatSentAt = (sentTimes results).getLast?
  spaced : SpacedBy handoff.cadence.heartbeatIntervalMicros (sentTimes results)
  sent : counters.sentHeartbeats.toNat = min (sentTimes results).length 18446744073709551615
  answered : ∃ received missed, (sentTimes results).length = received + missed + ackFailuresOtherwise results ∧
    counters.receivedAcks.toNat = min received 18446744073709551615 ∧
    counters.missedAcks.toNat = min missed 18446744073709551615

theorem toNat_saturatingAdd_one {value : UInt64} {count : Nat}
    (h : value.toNat = min count 18446744073709551615) :
    (saturatingAdd value 1).toNat = min (count + 1) 18446744073709551615 := by
  rw [toNat_saturatingAdd, h]
  show min (min count 18446744073709551615 + 1) 18446744073709551615 = _
  omega

theorem sentTimes_concat (results : List ClientHeartbeatLoopOneTickRuntimeResult)
    (result : ClientHeartbeatLoopOneTickRuntimeResult) :
    sentTimes (results ++ [result]) = sentTimes results ++ result.sentAt.toList := by
  rw [sentTimes, List.filterMap_append]
  cases h : result.sentAt <;> simp [sentTimes, h]

theorem ackFailuresOtherwise_concat (results : List ClientHeartbeatLoopOneTickRuntimeResult)
    (result : ClientHeartbeatLoopOneTickRuntimeResult) :
    ackFailuresOtherwise (results ++ [result]) =
      ackFailuresOtherwise results + result.ackFailedOtherwise.toNat := by
  rw [ackFailuresOtherwise, List.filter_append, List.length_append]
  cases h : result.ackFailedOtherwise <;> simp [ackFailuresOtherwise, h]

theorem CountsRun.turn {handoff : ClientHeartbeatLoopRepeatedRuntimeHandoff} {state : HeartbeatRunState}
    {results : List ClientHeartbeatLoopOneTickRuntimeResult} (h : CountsRun handoff state.counters results)
    (turn : HeartbeatTurn) :
    CountsRun handoff (runRepeatedBody handoff state turn).1.counters
      (results ++ [(runRepeatedBody handoff state turn).2]) := by
  have heffect := runRepeatedBody_effect handoff state turn
  have hfinal : (runRepeatedBody handoff state turn).1.counters =
      (runRepeatedBody handoff state turn).2.finalCounters := rfl
  rw [hfinal]
  generalize (runRepeatedBody handoff state turn).2 = result at heffect ⊢
  obtain ⟨received, missed, htotal, hreceived, hmissed⟩ := h.answered
  cases heffect with
  | quiet notSent sent last receivedSame missedSame answered =>
    have htimes : sentTimes (results ++ [result]) = sentTimes results := by
      rw [sentTimes_concat, notSent]
      exact List.append_nil _
    have hothers : ackFailuresOtherwise (results ++ [result]) = ackFailuresOtherwise results := by
      rw [ackFailuresOtherwise_concat, answered]
      rfl
    refine ⟨?_, ?_, ?_, received, missed, ?_, ?_, ?_⟩
    · rw [last, htimes, h.last]
    · rw [htimes]
      exact h.spaced
    · rw [sent, htimes, h.sent]
    · rw [htimes, hothers, htotal]
    · rw [receivedSame, hreceived]
    · rw [missedSame, hmissed]
  | sent sendHandoff log planned wasSent sent last answered =>
    obtain ⟨hallowed, hnow⟩ := sendAllowed_of_planned planned
    have htimes : sentTimes (results ++ [result]) = sentTimes results ++ [turn.now] := by
      rw [sentTimes_concat, wasSent, hnow]
      rfl
    have hothers := ackFailuresOtherwise_concat results result
    refine ⟨?_, ?_, ?_, ?_⟩
    · rw [last, htimes, hnow, List.getLast?_concat]
    · rw [htimes]
      exact h.spaced.concat fun earlier he => hallowed.due earlier (h.last.trans he)
    · rw [sent, htimes, List.length_append, List.length_singleton]
      exact toNat_saturatingAdd_one h.sent
    · rw [htimes, List.length_append, List.length_singleton]
      generalize result.ackFailedOtherwise = other at answered hothers
      cases answered with
      | received hr hm =>
        refine ⟨received + 1, missed, ?_, ?_, ?_⟩
        · rw [hothers, Bool.toNat_false]
          omega
        · rw [hr]
          exact toNat_saturatingAdd_one hreceived
        · rw [hm, hmissed]
      | missed hr hm =>
        refine ⟨received, missed + 1, ?_, ?_, ?_⟩
        · rw [hothers, Bool.toNat_false]
          omega
        · rw [hr, hreceived]
        · rw [hm]
          exact toNat_saturatingAdd_one hmissed
      | failed hr hm =>
        refine ⟨received, missed, ?_, ?_, ?_⟩
        · rw [hothers, Bool.toNat_true]
          omega
        · rw [hr, hreceived]
        · rw [hm, hmissed]

section Runs

variable {handoff : ClientHeartbeatLoopRepeatedRuntimeHandoff} {state : HeartbeatRunState}

theorem runHeartbeatTurns_counts (handoff : ClientHeartbeatLoopRepeatedRuntimeHandoff)
    (turns : List HeartbeatTurn) :
    CountsRun handoff (runHeartbeatTurns handoff turns).1.counters (runHeartbeatTurns handoff turns).2 := by
  unfold runHeartbeatTurns
  induction turns using List.reverseRecOn with
  | nil =>
    refine ⟨rfl, fun k earlier later hk => ?_, rfl, 0, 0, rfl, rfl, rfl⟩
    cases hk
  | append_singleton turns turn ih =>
    rw [run_concat]
    exact ih.turn turn

theorem sentTimes_of_not_allowed {turn : HeartbeatTurn} (h : ¬SendAllowed handoff state.counters turn) :
    (runRepeatedBody handoff state turn).2.sentAt = none ∧
      (runRepeatedBody handoff state turn).1.counters.missedAcks = state.counters.missedAcks := by
  have heffect := runRepeatedBody_effect handoff state turn
  have hfinal : (runRepeatedBody handoff state turn).1.counters =
      (runRepeatedBody handoff state turn).2.finalCounters := rfl
  rw [hfinal]
  generalize (runRepeatedBody handoff state turn).2 = result at heffect ⊢
  cases heffect with
  | quiet notSent sent last received missed answered => exact ⟨notSent, missed⟩
  | sent sendHandoff log planned wasSent sent last answered =>
    exact absurd (sendAllowed_of_planned planned).1 h

/-- Once the missed acks have reached their maximum nothing is sent any more. -/
theorem sentTimes_of_missed {maxMissedAcks : UInt64}
    (hcondition : handoff.stopCondition = .maxMissedAcks maxMissedAcks)
    (hreached : maxMissedAcks ≤ state.counters.missedAcks) (later : List HeartbeatTurn) :
    sentTimes (run (runRepeatedBody handoff) state later).2 = [] := by
  induction later generalizing state with
  | nil => rfl
  | cons turn later ih =>
    have hnot : ¬SendAllowed handoff state.counters turn :=
      fun h => UInt64.not_lt.mpr hreached (h.missedBelowMax maxMissedAcks hcondition)
    obtain ⟨hsent, hmissed⟩ := sentTimes_of_not_allowed hnot
    rw [run_cons, sentTimes, List.filterMap_cons, hsent]
    exact ih (hmissed ▸ hreached)

theorem length_sentTimes_le {maxSentHeartbeats : UInt64}
    (hcondition : handoff.stopCondition = .maxHeartbeats maxSentHeartbeats) (turns : List HeartbeatTurn) :
    (sentTimes (runHeartbeatTurns handoff turns).2).length ≤ maxSentHeartbeats.toNat := by
  induction turns using List.reverseRecOn with
  | nil => exact Nat.zero_le _
  | append_singleton turns turn ih =>
    have hcount := (runHeartbeatTurns_counts handoff turns).sent
    unfold runHeartbeatTurns at ih hcount ⊢
    rw [run_concat, sentTimes_concat]
    by_cases hallowed :
        SendAllowed handoff (run (runRepeatedBody handoff) .start turns).1.counters turn
    · have hbelow := UInt64.lt_iff_toNat_lt.mp (hallowed.belowMax maxSentHeartbeats hcondition)
      have hmax := maxSentHeartbeats.toNat_lt
      have hlen : ∀ time : Option TimestampMicros, time.toList.length ≤ 1 := by
        intro time
        cases time <;> simp
      have hone := hlen (runRepeatedBody handoff (run (runRepeatedBody handoff) .start turns).1 turn).2.sentAt
      rw [List.length_append]
      omega
    · rw [(sentTimes_of_not_allowed hallowed).1]
      simpa using ih

end Runs

/-- `ClientHeartbeatLoopShutdownDecisionBoundary::decide`, as the outer controller sees it. -/
def ClientHeartbeatLoopControllerPlan.stopsLoop : ClientHeartbeatLoopControllerPlan → Bool
  | .stop _ _ _ => true
  | _ => false

/-- The turns that the outer loop takes: it ends with the first that stops. -/
def turnsTaken (handoff : ClientHeartbeatLoopRepeatedRuntimeHandoff) (state : HeartbeatRunState) :
    List HeartbeatTurn → List HeartbeatTurn
  | [] => []
  | turn :: turns =>
    let ran := runRepeatedBody handoff state turn
    if ran.2.controller.stopsLoop then [turn] else turn :: turnsTaken handoff ran.1 turns

theorem turnsTaken_initial (handoff : ClientHeartbeatLoopRepeatedRuntimeHandoff) (state : HeartbeatRunState)
    (turns : List HeartbeatTurn) : turnsTaken handoff state turns <+: turns := by
  induction turns generalizing state with
  | nil => exact List.prefix_rfl
  | cons turn turns ih =>
    rw [turnsTaken]
    split
    next => exact ⟨turns, rfl⟩
    next => exact (List.prefix_cons_inj turn).mpr (ih _)

/-- A turn with a stop request stops the loop. -/
theorem stopsLoop_of_stopRequested {handoff : ClientHeartbeatLoopRepeatedRuntimeHandoff}
    {state : HeartbeatRunState} {turn : HeartbeatTurn} (h : turn.stopRequested = true) :
    (runRepeatedBody handoff state turn).2.controller.stopsLoop = true := by
  have hreason : ClientHeartbeatLoopPolicyBoundary.stopReason (turnPolicy handoff state.counters turn) =
      some .stopRequested := if_pos h
  have hbody := @runBody_oneTickInput handoff state.counters turn
  rw [ClientHeartbeatLoopPolicyBoundary.evaluate_of_stopReason_some hreason] at hbody
  have hran : (runOne turn.socket state.queue state.counters
      (oneTickInput handoff state.counters turn)).1.controller =
        .stop .stopRequested (clientHeartbeatLoopLog (turnPolicy handoff state.counters turn) .stopRequested)
          (.stopped .stopRequested) := by
    unfold runOne
    rw [hbody]
    rfl
  show ClientHeartbeatLoopControllerPlan.stopsLoop _ = true
  rw [runRepeatedBody]
  dsimp only
  rw [hran]
  rfl

theorem turnsTaken_ends (handoff : ClientHeartbeatLoopRepeatedRuntimeHandoff) {turns : List HeartbeatTurn} :
    ∀ (state : HeartbeatRunState) (done : List HeartbeatTurn) (turn : HeartbeatTurn)
      (later : List HeartbeatTurn), turnsTaken handoff state turns = done ++ turn :: later →
        turn.stopRequested = true → later = [] := by
  induction turns with
  | nil =>
    intro state done turn later h
    cases done <;> cases h
  | cons first turns ih =>
    intro state done turn later h hrequest
    rw [turnsTaken] at h
    split at h
    next =>
      have hlength := congrArg List.length h
      simp only [List.length_append, List.length_cons, List.length_nil] at hlength
      exact List.eq_nil_of_length_eq_zero (by omega)
    next hgoing =>
      cases done with
      | nil =>
        obtain ⟨rfl, -⟩ := List.cons.inj h
        exact absurd (stopsLoop_of_stopRequested hrequest) hgoing
      | cons head done => exact ih _ done turn later (List.cons.inj h).2 hrequest

/-- The cadence over every sequence of turns: sends an interval apart, none beyond the maximum of
heartbeats, of missed acks or behind a stop request, waits that are still to come, and counters of sends
and of what became of them that agree. -/
theorem heartbeat_cadence (handoff : ClientHeartbeatLoopRepeatedRuntimeHandoff)
    (turns : List HeartbeatTurn) :
    SpacedBy handoff.cadence.heartbeatIntervalMicros (sentTimes (runHeartbeatTurns handoff turns).2) ∧
    (∀ maxSentHeartbeats, handoff.stopCondition = .maxHeartbeats maxSentHeartbeats →
      (sentTimes (runHeartbeatTurns handoff turns).2).length ≤ maxSentHeartbeats.toNat) ∧
    (∀ maxMissedAcks done later, handoff.stopCondition = .maxMissedAcks maxMissedAcks →
      turns = done ++ later → maxMissedAcks ≤ (runHeartbeatTurns handoff done).1.counters.missedAcks →
        sentTimes (runHeartbeatTurns handoff turns).2 = sentTimes (runHeartbeatTurns handoff done).2) ∧
    (∀ done turn later, turns = done ++ turn :: later → turn.stopRequested = true →
      sentTimes (runHeartbeatTurns handoff (done ++ [turn])).2 =
        sentTimes (runHeartbeatTurns handoff done).2) ∧
    (turnsTaken handoff .start turns <+: turns ∧
      ∀ done turn later, turnsTaken handoff .start turns = done ++ turn :: later →
        turn.stopRequested = true → later = []) ∧
    (∀ done turn later nextHeartbeatDueAt log, turns = done ++ turn :: later →
      runBody (oneTickInput handoff (runHeartbeatTurns handoff done).1.counters turn).body =
          .wait nextHeartbeatDueAt log → turn.now < nextHeartbeatDueAt) ∧
    (runHeartbeatTurns handoff turns).1.counters.sentHeartbeats.toNat =
      min ((runHeartbeatTurns handoff turns).1.counters.receivedAcks.toNat +
        (runHeartbeatTurns handoff turns).1.counters.missedAcks.toNat +
          ackFailuresOtherwise (runHeartbeatTurns handoff turns).2) 18446744073709551615 := by
  have hcounts := runHeartbeatTurns_counts handoff turns
  refine ⟨hcounts.spaced, fun _ hcondition => length_sentTimes_le hcondition turns, ?_, ?_,
    ⟨turnsTaken_initial handoff .start turns, turnsTaken_ends handoff .start⟩, ?_, ?_⟩
  · rintro maxMissedAcks done later hcondition rfl hreached
    unfold runHeartbeatTurns at hreached ⊢
    rw [run_append, sentTimes, List.filterMap_append]
    have hlater := sentTimes_of_missed hcondition hreached later
    rw [sentTimes] at hlater
    rw [hlater, List.append_nil]
    rfl
  · rintro done turn later - hrequest
    have hnot : ¬SendAllowed handoff (runHeartbeatTurns handoff done).1.counters turn := by
      intro h
      rw [h.notStopped] at hrequest
      cases hrequest
    unfold runHeartbeatTurns at hnot ⊢
    rw [run_concat, sentTimes_concat, (sentTimes_of_not_allowed hnot).1]
    exact List.append_nil _
  · intro done turn later nextHeartbeatDueAt log _ hwait
    rw [runBody_oneTickInput] at hwait
    cases hpolicy : ClientHeartbeatLoopPolicyBoundary.evaluate
        (turnPolicy handoff (runHeartbeatTurns handoff done).1.counters turn) with
    | stop reason log' => rw [hpolicy] at hwait; cases hwait
    | sendHeartbeat sendAt ackDeadlineAt mode log' => rw [hpolicy] at hwait; cases hwait
    | wait dueAt log' =>
      rw [hpolicy] at hwait
      cases hwait
      exact ClientHeartbeatLoopPolicyBoundary.evaluate_wait hpolicy
  · obtain ⟨received, missed, htotal, hreceived, hmissed⟩ := hcounts.answered
    have hsent := hcounts.sent
    omega

end StreamSync
