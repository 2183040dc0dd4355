import StreamSync.HeartbeatTimeout
import StreamSync.RttOffsetHull

namespace StreamSync

open Fallible KeyedTable Run

/-- What identifies a heartbeat and the ack it was answered with. -/
structure HeartbeatExchange where
  clientId : ClientId
  runId : RunId
  sentAt : TimestampMicros
  serverReceivedAt : TimestampMicros
  serverSentAt : TimestampMicros
deriving DecidableEq, Repr

namespace HeartbeatExchange

def key (exchange : HeartbeatExchange) : ClientRunKey := ⟨exchange.clientId, exchange.runId⟩

def ofHandoff (handoff : ServerHeartbeatAckHandoff) : HeartbeatExchange :=
  let plan := handoff.processingInputs.timebasePlan
  ⟨plan.clientId, plan.runId, plan.sample.clientSentAtMicros, plan.sample.serverReceivedAtMicros,
    plan.sample.serverSentAtMicros⟩

/-- The five values that an observation has to repeat. -/
structure EchoedBy (exchange : HeartbeatExchange) (observation : HeartbeatAckObservation) : Prop where
  clientId : observation.clientId = exchange.clientId
  runId : observation.runId = exchange.runId
  sentAt : observation.echoedSentAt = exchange.sentAt
  serverReceivedAt : observation.serverReceivedAt = exchange.serverReceivedAt
  serverSentAt : observation.serverSentAt = exchange.serverSentAt

/-- The estimate that the exchange gives once it is known when the client received the ack. -/
def estimate (exchange : HeartbeatExchange) (clientReceivedAt : TimestampMicros) :
    Except HeartbeatRttOffsetCalculationError HeartbeatRttOffsetEstimate :=
  calculateEstimate ⟨exchange.sentAt, exchange.serverReceivedAt, exchange.serverSentAt, clientReceivedAt⟩

end HeartbeatExchange

theorem calculateRttOffset_eq_ok {plan : ServerHeartbeatTimebasePlan} {observation : HeartbeatAckObservation}
    {calculation : ServerHeartbeatRttOffsetCalculation}
    (h : calculateRttOffset plan observation = .ok calculation) :
    plan.clientId = observation.clientId ∧ plan.runId = observation.runId ∧
      plan.sample.clientSentAtMicros = observation.echoedSentAt ∧
      plan.sample.serverReceivedAtMicros = observation.serverReceivedAt ∧
      plan.sample.serverSentAtMicros = observation.serverSentAt ∧
      ∃ estimate, calculateEstimate ⟨plan.sample.clientSentAtMicros, plan.sample.serverReceivedAtMicros,
          plan.sample.serverSentAtMicros, observation.clientReceivedAt⟩ = .ok estimate ∧
        calculation = ⟨plan.clientId, plan.runId, estimate⟩ := by
  simp only [calculateRttOffset, ne_eq, ite_not] at h
  split at h
  next hclient =>
    split at h
    next hrun =>
      split at h
      next hsent =>
        split at h
        next hreceived =>
          split at h
          next hserverSent =>
            obtain ⟨estimate, hestimate, hcalculation⟩ := bind_eq_ok_iff.mp h
            exact ⟨hclient, hrun, hsent, hreceived, hserverSent, estimate,
              mapError_eq_ok_iff.mp hestimate, (Except.ok.inj hcalculation).symm⟩
          next => cases h
        next => cases h
      next => cases h
    next => cases h
  next => cases h

/-- A calculation comes from an observation of the ack of the heartbeat it is matched with. -/
theorem calculateFromClientStats_eq_ok {handoff : ServerHeartbeatAckHandoff}
    {input : ServerClientStatsHandlerInput} {calculation : ServerHeartbeatRttOffsetCalculation}
    (h : calculateFromClientStats handoff input = .ok calculation) :
    let exchange := HeartbeatExchange.ofHandoff handoff
    ∃ observation estimate, input.heartbeatObservation = some observation ∧
      exchange.EchoedBy observation ∧ exchange.estimate observation.clientReceivedAt = .ok estimate ∧
      calculation = ⟨exchange.clientId, exchange.runId, estimate⟩ := by
  intro exchange
  unfold calculateFromClientStats at h
  cases hobservation : input.heartbeatObservation with
  | none =>
    rw [hobservation] at h
    cases h
  | some observation =>
    rw [hobservation] at h
    obtain ⟨hclient, hrun, hsent, hreceived, hserverSent, estimate, hestimate, hcalculation⟩ :=
      calculateRttOffset_eq_ok h
    exact ⟨observation, estimate, rfl,
      ⟨hclient.symm, hrun.symm, hsent.symm, hreceived.symm, hserverSent.symm⟩, hestimate, hcalculation⟩

namespace ServerEvent

/-- The side effect that the continuous loop observes at the event, once its outputs have gone out. -/
def observed (config : ServerRuntimeConfig) (state : ServerState) : ServerEvent → Option SideEffect
  | .continuousPacket io source bytes timestamp =>
    match io.receiveLog with
    | .error _ => none
    | .ok _ =>
      let plan :=
        match handleReceivedPacketWithGate config.expectedProtocolVersion state.registry source bytes with
        | .ok route => prepareHandlerHandoff state.registry route
        | .error _ => .rejectedOutcome
      let sideEffect := dispatchPlan config ⟨timestamp, timestamp⟩ plan
      match (runOutputs config io state.outboundQueue sideEffect).2 with
      | .error _ => none
      | .ok _ => some sideEffect
  | _ => none

/-- The exchange of the heartbeat that is handled at the event. -/
def handledExchange (config : ServerRuntimeConfig) (state : ServerState) (event : ServerEvent) :
    Option HeartbeatExchange :=
  match event.observed config state with
  | some (.heartbeatAck handoff) => some (.ofHandoff handoff)
  | _ => none

end ServerEvent

/-- The exchange on record for a client and run. -/
def ServerState.exchange (state : ServerState) (key : ClientRunKey) : Option HeartbeatExchange :=
  state.heartbeatHandoffs[key]?.map HeartbeatExchange.ofHandoff

section Step

variable {config : ServerRuntimeConfig} {state : ServerState} {event : ServerEvent}

/-- The exchanges and estimates on record change only by what is observed at the event. -/
theorem serverStep_observed (config : ServerRuntimeConfig) (state : ServerState) (event : ServerEvent) :
    (event.observed config state = none ∧
      (serverStep config state event).1.heartbeatHandoffs = state.heartbeatHandoffs ∧
      (serverStep config state event).1.rttOffset = state.rttOffset) ∨
    ∃ sideEffect before, event.observed config state = some sideEffect ∧
      (serverStep config state event).1 =
        observeContinuousIteration config before event.time sideEffect ∧
      before.heartbeatHandoffs = state.heartbeatHandoffs ∧ before.rttOffset = state.rttOffset := by
  cases event with
  | videoQueuePacket io source bytes queuedAt =>
    left
    refine ⟨rfl, ?_⟩
    simp only [serverStep, processReceivedPacketForVideoQueue]
    split
    next => exact ⟨rfl, rfl⟩
    next => exact ⟨rfl, rfl⟩
    next => split <;> exact ⟨rfl, rfl⟩
    next => split <;> exact ⟨rfl, rfl⟩
    next => exact ⟨rfl, rfl⟩
  | timeoutPass write input => exact .inl ⟨rfl, rfl, rfl⟩
  | continuousPacket io source bytes timestamp =>
    simp only [serverStep, continuousIteration, ServerEvent.observed]
    cases io.receiveLog with
    | error errorKind => exact .inl ⟨rfl, rfl, rfl⟩
    | ok _ =>
      dsimp only
      generalize dispatchPlan config ⟨timestamp, timestamp⟩ _ = sideEffect
      unfold finishIteration
      cases houtputs : (runOutputs config io state.outboundQueue sideEffect).2 with
      | error error =>
        left
        simp only [houtputs, and_self]
      | ok _ =>
        simp only [houtputs]
        exact .inr ⟨sideEffect, _, rfl, rfl, rfl, rfl⟩

/-- The decoded packet behind an observed side effect. -/
def ObservedFrom (config : ServerRuntimeConfig) (event : ServerEvent) : SideEffect → Prop
  | .heartbeatAck handoff => ∃ source sender heartbeat,
    event.Decodes config (.heartbeat source heartbeat) ∧
      handoff = handoffAck ⟨source, sender, heartbeat⟩ ⟨event.time, event.time⟩
  | .clientStats input => ∃ source sender stats, event.Decodes config (.clientStats source stats) ∧
      input = prepareClientStatsInput ⟨source, sender, stats⟩
  | _ => True

theorem observedFrom_of_observed {sideEffect : SideEffect}
    (h : event.observed config state = some sideEffect) : ObservedFrom config event sideEffect := by
  cases event with
  | videoQueuePacket io source bytes queuedAt => cases h
  | timeoutPass write input => cases h
  | continuousPacket io source bytes timestamp =>
    simp only [ServerEvent.observed] at h
    split at h
    next => cases h
    next =>
      split at h
      next => cases h
      next =>
        rw [← Option.some.inj h]
        have hgated := gated config state.registry source bytes
        generalize handleReceivedPacketWithGate config.expectedProtocolVersion state.registry source bytes =
          outcome at hgated ⊢
        generalize authEntry config source bytes = auth at hgated
        cases hgated with
        | rejected rejection => trivial
        | auth request => trivial
        | unsupported messageType message => trivial
        | client route clientId runId decoded scope accepted =>
          obtain ⟨sender, packet, -, -, hpacket, hprepared⟩ := prepareForHandler_of_accepted scope accepted
          have hevent : ServerEvent.Decodes config (.continuousPacket io source bytes timestamp) route :=
            ⟨source, bytes, rfl, decoded⟩
          cases route with
          | authRequest source request => cases scope
          | unsupportedForServer source messageType message => cases scope
          | heartbeat source heartbeat =>
            cases Option.some.inj hpacket
            simp only [prepareHandlerHandoff, hprepared]
            exact ⟨source, sender, heartbeat, hevent, rfl⟩
          | videoFrame source frame =>
            cases Option.some.inj hpacket
            simp only [prepareHandlerHandoff, hprepared]
            trivial
          | videoFrameFragment source fragment =>
            cases Option.some.inj hpacket
            simp only [prepareHandlerHandoff, hprepared]
            trivial
          | clientStats source stats =>
            cases Option.some.inj hpacket
            simp only [prepareHandlerHandoff, hprepared]
            exact ⟨source, sender, stats, hevent, rfl⟩

/-- What an observed side effect leaves on record for a client and run. -/
theorem exchange_observeContinuousIteration (config : ServerRuntimeConfig) (state : ServerState)
    (timestamp : TimestampMicros) (sideEffect : SideEffect) (key : ClientRunKey) :
    (observeContinuousIteration config state timestamp sideEffect).exchange key =
      match sideEffect with
      | .heartbeatAck handoff =>
        let heartbeat := handoff.registeredPacket.heartbeat
        if ⟨heartbeat.clientId, heartbeat.runId⟩ = key then some (.ofHandoff handoff)
        else state.exchange key
      | _ => state.exchange key := by
  cases sideEffect with
  | heartbeatAck handoff =>
    simp only [ServerState.exchange, observeContinuousIteration, getElem?_insert_eq]
    split
    next => rfl
    next => rfl
  | clientStats input =>
    simp only [ServerState.exchange, observeContinuousIteration]
    split
    next => rfl
    next => split <;> rfl
  | _ => rfl

/-- A step puts an exchange on record only by handling its heartbeat. -/
theorem serverStep_exchange {key : ClientRunKey} {exchange : HeartbeatExchange}
    (h : (serverStep config state event).1.exchange key = some exchange) :
    written (ServerEvent.handledExchange config state) (·.key) event key (state.exchange key) =
      some exchange := by
  rw [written_eq_some_iff]
  rcases serverStep_observed config state event with
    ⟨hobserved, hhandoffs, -⟩ | ⟨sideEffect, before, hobserved, hstep, hhandoffs, -⟩
  · right
    have hold : state.exchange key = some exchange := by
      rw [← h, ServerState.exchange, ServerState.exchange, hhandoffs]
    refine ⟨hold, ?_⟩
    intro other hother
    simp only [ServerEvent.handledExchange, hobserved] at hother
    cases hother
  · rw [hstep, exchange_observeContinuousIteration] at h
    have hbefore : before.exchange key = state.exchange key := by
      rw [ServerState.exchange, ServerState.exchange, hhandoffs]
    cases sideEffect with
    | heartbeatAck handoff =>
      obtain ⟨source, sender, heartbeat, -, hhandoff⟩ := observedFrom_of_observed hobserved
      have hkey : (HeartbeatExchange.ofHandoff handoff).key =
          ⟨handoff.registeredPacket.heartbeat.clientId, handoff.registeredPacket.heartbeat.runId⟩ := by
        rw [hhandoff]
        rfl
      simp only [← hkey] at h
      split at h
      next hsame =>
        left
        cases Option.some.inj h
        simp only [ServerEvent.handledExchange, hobserved]
        exact ⟨trivial, hsame⟩
      next hother =>
        right
        refine ⟨hbefore ▸ h, ?_⟩
        intro other hhandled
        simp only [ServerEvent.handledExchange, hobserved, Option.some.injEq] at hhandled
        rw [← hhandled]
        exact hother
    | _ =>
      right
      refine ⟨hbefore ▸ h, ?_⟩
      intro other hhandled
      simp only [ServerEvent.handledExchange, hobserved] at hhandled
      cases hhandled

theorem runServer_exchange (events : List ServerEvent) {key : ClientRunKey} {exchange : HeartbeatExchange}
    (h : (runServer config events).1.exchange key = some exchange) :
    exchange.key = key ∧
      LatestWriteAt (serverStep config) .empty (ServerEvent.handledExchange config) (·.key) events
        exchange := by
  refine latestWriteAt_run ServerState.exchange ?_ (fun _ _ _ _ => serverStep_exchange) events key exchange h
  intro key
  have hempty : ServerState.empty.heartbeatHandoffs[key]? = none := getElem?_empty_eq key
  rw [ServerState.exchange, hempty]
  rfl

/-- A step leaves the estimates as they were, or commits the one that observed client stats complete
the exchange on record with. -/
theorem serverStep_rttOffset (config : ServerRuntimeConfig) (state : ServerState) (event : ServerEvent) :
    (serverStep config state event).1.rttOffset = state.rttOffset ∨
      ∃ source stats observation exchange estimate,
        event.Decodes config (.clientStats source stats) ∧
        stats.heartbeatObservation = some observation ∧
        state.exchange ⟨stats.clientId, stats.runId⟩ = some exchange ∧ exchange.EchoedBy observation ∧
        exchange.estimate observation.clientReceivedAt = .ok estimate ∧
        (serverStep config state event).1.rttOffset =
          commitRttOffset state.rttOffset ⟨exchange.clientId, exchange.runId, estimate⟩
            (some event.time) := by
  rcases serverStep_observed config state event with
    ⟨-, -, hsame⟩ | ⟨sideEffect, before, hobserved, hstep, hhandoffs, hrtt⟩
  · exact .inl hsame
  · rw [hstep]
    cases sideEffect with
    | clientStats input =>
      obtain ⟨source, sender, stats, hdecodes, rfl⟩ := observedFrom_of_observed hobserved
      simp only [observeContinuousIteration, hhandoffs]
      split
      next => exact .inl hrtt
      next handoff hhandoff =>
        split
        next => exact .inl hrtt
        next calculation hcalculation =>
          obtain ⟨observation, estimate, hobservation, hechoed, hestimate, rfl⟩ :=
            calculateFromClientStats_eq_ok hcalculation
          dsimp only
          rw [hrtt]
          rcases evaluateAndCommit_cases state.rttOffset _ config.outlierPolicy (some event.time) with
            ⟨reason, hresult⟩ | hresult
          · left
            rw [hresult]
          · right
            have hexchange : state.exchange ⟨stats.clientId, stats.runId⟩ =
                some (.ofHandoff handoff) := by
              rw [ServerState.exchange]
              exact congrArg (Option.map HeartbeatExchange.ofHandoff) hhandoff
            exact ⟨source, stats, observation, _, estimate, hdecodes, hobservation, hexchange, hechoed,
              hestimate, by rw [hresult]⟩
    | _ => exact .inl hrtt

/-- After any run, a step commits an estimate only when it observes client stats whose observation
repeats the heartbeat of that client and run that was handled last. -/
theorem runServer_rttOffset_commit (config : ServerRuntimeConfig) (events : List ServerEvent)
    (event : ServerEvent) :
    let state := (runServer config events).1
    let next := (serverStep config state event).1
    next.rttOffset = state.rttOffset ∨
      ∃ source stats observation exchange estimate,
        event.Decodes config (.clientStats source stats) ∧
        stats.heartbeatObservation = some observation ∧
        exchange.clientId = stats.clientId ∧ exchange.runId = stats.runId ∧
        LatestWriteAt (serverStep config) .empty (ServerEvent.handledExchange config) (·.key) events exchange ∧
        exchange.EchoedBy observation ∧
        exchange.estimate observation.clientReceivedAt = .ok estimate ∧
        next.rttOffset = commitRttOffset state.rttOffset ⟨exchange.clientId, exchange.runId, estimate⟩
          (some event.time) := by
  intro state next
  rcases serverStep_rttOffset config state event with hsame |
    ⟨source, stats, observation, exchange, estimate, hdecodes, hobservation, hexchange, hrest⟩
  · exact .inl hsame
  · right
    obtain ⟨hkey, hlatest⟩ := runServer_exchange events hexchange
    obtain ⟨hclient, hrun⟩ := ClientRunKey.mk.inj hkey
    exact ⟨source, stats, observation, exchange, estimate, hdecodes, hobservation, hclient, hrun, hlatest,
      hrest⟩

end Step

def cameraStats (port : UInt16) (runId : RunId) (observation : HeartbeatAckObservation) :
    TimestampMicros → ServerEvent :=
  cameraPacket port (.clientStats ⟨.clientStats, 1, "cam", runId, 0, 30, 0, 1000, some observation⟩)

/-- A camera beats under two runs and then comes back under the first. -/
def rejoinedCamera : List ServerEvent :=
  [cameraAuth 5000 "run-a" 1, cameraHeartbeat 5000 "run-a" 2, cameraAuth 5000 "run-b" 3,
    cameraHeartbeat 5000 "run-b" 4, cameraAuth 5000 "run-a" 5]

/-- Two copies of the same stats datagram both commit the exchange of the first run, although the last
heartbeat of the camera is of the second. -/
theorem runServer_commits_exchange_twice :
    let stats := cameraStats 5000 "run-a" ⟨"cam", "run-a", 0, 2, 2, 9⟩ 10
    let samples (events : List ServerEvent) :=
      ((runServer oneCameraConfig events).1.rttOffset.get "cam").map (·.committedSamples)
    LatestWriteAt (serverStep oneCameraConfig) .empty (ServerEvent.handledExchange oneCameraConfig)
      (·.clientId) rejoinedCamera ⟨"cam", "run-b", 0, 4, 4⟩ ∧
    samples rejoinedCamera = none ∧ samples (rejoinedCamera ++ [stats]) = some 1 ∧
      samples (rejoinedCamera ++ [stats, stats]) = some 2 := by
  intro stats samples
  refine ⟨⟨rejoinedCamera.take 3, cameraHeartbeat 5000 "run-b" 4, [cameraAuth 5000 "run-a" 5], rfl,
    by decide +kernel, ?_⟩, by decide +kernel, by decide +kernel, by decide +kernel⟩
  intro mid event rest exchange hsplit hhandled
  obtain ⟨rfl, hlast⟩ : mid = [] ∧ [cameraAuth 5000 "run-a" 5] = event :: rest := by
    cases mid with
    | nil => exact ⟨rfl, hsplit⟩
    | cons first mid => simp at hsplit
  obtain ⟨rfl, -⟩ := List.cons.inj hlast
  have hnone : ServerEvent.handledExchange oneCameraConfig
      (run (serverStep oneCameraConfig) .empty (rejoinedCamera.take 4)).1
      (cameraAuth 5000 "run-a" 5) = none := by
    decide +kernel
  cases hnone.symm.trans hhandled

end StreamSync
