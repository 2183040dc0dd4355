import StreamSync.ServerAuthentication

namespace StreamSync

open Run Saturating ServerHeartbeatTimeoutMultiClientLoopBoundary

namespace ServerEvent

/-- The clock of the server at the event. -/
def time : ServerEvent → TimestampMicros
  | .videoQueuePacket _ _ _ queuedAt => queuedAt
  | .continuousPacket _ _ _ timestamp => timestamp
  | .timeoutPass _ input => input.evaluatedAt

/-- The continuous loop receives a heartbeat of the client, run and endpoint of the entry. -/
def BeatsFor (config : ServerRuntimeConfig) (entry : AuthenticatedSenderEntry) : ServerEvent → Prop
  | .continuousPacket _ source bytes _ => source = entry.source ∧ ∃ beat,
    decodePacket ⟨config.expectedProtocolVersion⟩ bytes = .ok (.heartbeat beat) ∧
      beat.clientId = entry.clientId ∧ beat.runId = entry.runId
  | _ => False

end ServerEvent

/-- The time is within the timeout interval before the evaluation. -/
def WithinInterval (input : ServerHeartbeatTimeoutMultiClientLoopInput) (time : TimestampMicros) : Prop :=
  input.evaluatedAt.toNat - time.toNat < input.policy.timeoutAfterMicros.toNat

theorem WithinInterval.mono {input : ServerHeartbeatTimeoutMultiClientLoopInput}
    {time time' : TimestampMicros} (h : WithinInterval input time) (hle : time ≤ time') :
    WithinInterval input time' := by
  have htime : time.toNat ≤ time'.toNat := UInt64.le_iff_toNat_le.mp hle
  unfold WithinInterval at h ⊢
  omega

section Liveness

variable {config : ServerRuntimeConfig} {state : ServerState} {event : ServerEvent}

theorem processReceivedPacketForVideoQueue_liveness (config : ServerRuntimeConfig) (io : ServerIo)
    (state : ServerState) (source : PacketSource) (bytes : List UInt8) (queuedAt : TimestampMicros) :
    (processReceivedPacketForVideoQueue config io state source bytes queuedAt).1.liveness =
      state.liveness := by
  unfold processReceivedPacketForVideoQueue
  split
  next => rfl
  next => rfl
  next => split <;> rfl
  next => split <;> rfl
  next => rfl

theorem dispatchPlan_heartbeatAck {timestamp : TimestampMicros} {plan : HandlerHandoffPlan}
    {handoff : ServerHeartbeatAckHandoff}
    (h : dispatchPlan config ⟨timestamp, timestamp⟩ plan = .heartbeatAck handoff) :
    handoff.processingInputs.state.serverReceivedAt = timestamp := by
  unfold dispatchPlan at h
  split at h
  next => cases h
  next => cases h; rfl
  next => cases h
  next => cases h
  next => cases h
  next => cases h

theorem finishIteration_liveness (config : ServerRuntimeConfig) (io : ServerIo) (state : ServerState)
    (timestamp : TimestampMicros) (sideEffect : SideEffect) :
    (finishIteration config io state timestamp sideEffect).1.liveness = state.liveness ∨
      ∃ handoff, sideEffect = .heartbeatAck handoff ∧
        (finishIteration config io state timestamp sideEffect).1.liveness =
          commitLiveness state.liveness handoff.processingInputs.state := by
  unfold finishIteration
  dsimp only
  split
  next => exact .inl rfl
  next =>
    cases sideEffect with
    | heartbeatAck handoff => exact .inr ⟨handoff, rfl, rfl⟩
    | clientStats input =>
      simp only [observeContinuousIteration]
      split
      next => exact .inl rfl
      next => split <;> exact .inl rfl
    | _ => exact .inl rfl

theorem finishIteration_committed {io : ServerIo} {timestamp : TimestampMicros}
    {handoff : ServerHeartbeatAckHandoff}
    (h : (finishIteration config io state timestamp (.heartbeatAck handoff)).2.mapError
      ServerStepError.receive = .ok ()) :
    (finishIteration config io state timestamp (.heartbeatAck handoff)).1.liveness =
      commitLiveness state.liveness handoff.processingInputs.state := by
  unfold finishIteration at h ⊢
  dsimp only at h ⊢
  split at h
  next => cases h
  next => rfl

/-- A step leaves the liveness entry of a client as it was, or writes one that was received at the
time of the event. -/
theorem serverStep_liveness (config : ServerRuntimeConfig) (state : ServerState) (event : ServerEvent)
    (clientId : ClientId) :
    (serverStep config state event).1.liveness.get clientId = state.liveness.get clientId ∨
      ∃ entry, (serverStep config state event).1.liveness.get clientId = some entry ∧
        entry.clientId = clientId ∧ entry.lastServerReceivedAt = event.time := by
  cases event with
  | videoQueuePacket io source bytes queuedAt =>
    left
    exact congrArg (·.get clientId)
      (processReceivedPacketForVideoQueue_liveness config io state source bytes queuedAt)
  | timeoutPass write input => exact .inl rfl
  | continuousPacket io source bytes timestamp =>
    simp only [serverStep, continuousIteration]
    split
    next => exact .inl rfl
    next =>
      rcases finishIteration_liveness config io state timestamp _ with hsame | ⟨handoff, hside, hcommit⟩
      · exact .inl (by rw [hsame])
      · rw [hcommit, get_commitLiveness]
        split
        next hclient => exact .inr ⟨_, rfl, hclient, dispatchPlan_heartbeatAck hside⟩
        next => exact .inl rfl

/-- A heartbeat of the registered sender that is handled without an error leaves an entry of the time
it was received. -/
theorem serverStep_heartbeat {entry : AuthenticatedSenderEntry} (hb : event.BeatsFor config entry)
    (hg : state.registry.get entry.clientId = some entry)
    (hok : (serverStep config state event).2 = .ok ()) :
    ∃ beat, (serverStep config state event).1.liveness.get entry.clientId = some beat ∧
      beat.lastServerReceivedAt = event.time := by
  cases event with
  | videoQueuePacket io source bytes queuedAt => exact hb.elim
  | timeoutPass write input => exact hb.elim
  | continuousPacket io source bytes timestamp =>
    obtain ⟨rfl, beat, hdecoded, hclient, hrun⟩ := hb
    have hroute : decodeAndRoute config.expectedProtocolVersion entry.source bytes =
        .ok (.heartbeat entry.source beat) := by
      simp only [decodeAndRoute, hdecoded, routeInbound]
    have haccepted : evaluateRoute state.registry (.heartbeat entry.source beat) = .accepted :=
      (evaluateRoute_eq_accepted_iff rfl).mpr ⟨entry, hclient ▸ hg, rfl, hrun.symm⟩
    obtain ⟨sender, packet, -, -, hpacket, hprepared⟩ := prepareForHandler_of_accepted rfl haccepted
    cases Option.some.inj hpacket
    cases hlog : io.receiveLog with
    | error errorKind =>
      simp only [serverStep, continuousIteration, hlog] at hok
      cases hok
    | ok _ =>
      have hstep : continuousIteration config io state entry.source bytes timestamp =
          finishIteration config io state timestamp
            (.heartbeatAck (handoffAck ⟨entry.source, sender, beat⟩ ⟨timestamp, timestamp⟩)) := by
        simp only [continuousIteration, hlog, handleReceivedPacketWithGate, hroute, haccepted,
          prepareHandlerHandoff, hprepared]
        rfl
      simp only [serverStep, hstep] at hok ⊢
      rw [finishIteration_committed hok, get_commitLiveness]
      exact ⟨_, if_pos hclient, rfl⟩

end Liveness

theorem liveness_keyed {config : ServerRuntimeConfig} (events : List ServerEvent) {clientId : ClientId}
    {beat : ServerHeartbeatLivenessEntry}
    (h : (runServer config events).1.liveness.get clientId = some beat) : beat.clientId = clientId := by
  refine run_invariant (P := fun _ => True) (fun _ (state : ServerState) _ => ∀ clientId beat,
    state.liveness.get clientId = some beat → beat.clientId = clientId) ?_ ?_ events
    (fun _ _ => trivial) clientId beat h
  · intro clientId beat hbeat
    cases hbeat
  · intro _ state _ event _ ih clientId beat hbeat
    rcases serverStep_liveness config state event clientId with hsame | ⟨entry, hentry, hclient, -⟩
    · exact ih clientId beat (hsame ▸ hbeat)
    · cases Option.some.inj (hentry.symm.trans hbeat)
      exact hclient

/-- A liveness entry stays, and is not set back by later events. -/
theorem liveness_kept {config : ServerRuntimeConfig} {state : ServerState} {clientId : ClientId}
    {time : TimestampMicros} {events : List ServerEvent} (hlater : ∀ event ∈ events, time ≤ event.time)
    (h : ∃ beat, state.liveness.get clientId = some beat ∧ time ≤ beat.lastServerReceivedAt) :
    ∃ beat, (run (serverStep config) state events).1.liveness.get clientId = some beat ∧
      time ≤ beat.lastServerReceivedAt := by
  refine run_invariant (P := fun event : ServerEvent => time ≤ event.time)
    (fun _ (state : ServerState) _ => ∃ beat, state.liveness.get clientId = some beat ∧
      time ≤ beat.lastServerReceivedAt) h ?_ events hlater
  intro _ state _ event htime ih
  rcases serverStep_liveness config state event clientId with hsame | ⟨entry, hentry, -, hreceived⟩
  · rw [hsame]
    exact ih
  · exact ⟨entry, hentry, hreceived ▸ htime⟩

/-- A heartbeat of the sender was handled without an error within the interval. -/
def HeartbeatWithin (config : ServerRuntimeConfig) (events : List ServerEvent)
    (entry : AuthenticatedSenderEntry) (input : ServerHeartbeatTimeoutMultiClientLoopInput) : Prop :=
  ∃ earlier event later, events = earlier ++ event :: later ∧ event.BeatsFor config entry ∧
    (serverStep config (runServer config earlier).1 event).2 = .ok () ∧ WithinInterval input event.time

/-- An auth request of the client was accepted within the interval. -/
def AuthWithin (config : ServerRuntimeConfig) (events : List ServerEvent) (clientId : ClientId)
    (input : ServerHeartbeatTimeoutMultiClientLoopInput) : Prop :=
  ∃ event ∈ events, ∃ entry, event.acceptedAuth config = some entry ∧ entry.clientId = clientId ∧
    WithinInterval input event.time

/-- The pass takes away only registrations without a recent heartbeat and without a recent auth. -/
def EvictsOnlyStale (config : ServerRuntimeConfig) (events : List ServerEvent) (write : TimeoutLogWriter)
    (input : ServerHeartbeatTimeoutMultiClientLoopInput) : Prop :=
  let state := (runServer config events).1
  ∀ clientId entry, state.registry.get clientId = some entry →
    (serverStep config state (.timeoutPass write input)).1.registry.get clientId = none →
      ¬HeartbeatWithin config events entry input ∧ ¬AuthWithin config events clientId input

/-- No registered client with a recent auth has an old heartbeat left in the liveness state. -/
def RecentAuthsBeatOrNever (config : ServerRuntimeConfig) (events : List ServerEvent)
    (input : ServerHeartbeatTimeoutMultiClientLoopInput) : Prop :=
  let state := (runServer config events).1
  ∀ clientId entry beat, state.registry.get clientId = some entry →
    state.liveness.get clientId = some beat → AuthWithin config events clientId input →
      WithinInterval input beat.lastServerReceivedAt

theorem expiredEntry_eq_some_iff {liveness : ServerHeartbeatLivenessState} {clientId : ClientId}
    {input : ServerHeartbeatTimeoutMultiClientLoopInput} {beat : ServerHeartbeatLivenessEntry} :
    expiredEntry liveness clientId input = some beat ↔
      liveness.get clientId = some beat ∧ ¬WithinInterval input beat.lastServerReceivedAt := by
  unfold expiredEntry WithinInterval
  rw [Option.filter_eq_some_iff, decide_eq_true_iff, UInt64.le_iff_toNat_le, toNat_saturatingSub, not_lt]

/-- A registration that a pass takes away has a liveness entry that is not recent. -/
theorem timeoutPass_evicts {config : ServerRuntimeConfig} {events : List ServerEvent}
    {write : TimeoutLogWriter} {input : ServerHeartbeatTimeoutMultiClientLoopInput} {clientId : ClientId}
    {entry : AuthenticatedSenderEntry}
    (hget : (runServer config events).1.registry.get clientId = some entry)
    (hnone : (serverStep config (runServer config events).1
      (.timeoutPass write input)).1.registry.get clientId = none) :
    ∃ beat, (runServer config events).1.liveness.get clientId = some beat ∧
      ¬WithinInterval input beat.lastServerReceivedAt := by
  rcases get_runAllRegistered write (runServer config events).1.liveness
    (runServer config events).1.registry (runServer config events).1.noticeQueue input clientId with
    hkept | ⟨-, found, beat, hexpired, hclient⟩
  · cases hnone.symm.trans (hkept.trans hget)
  · obtain ⟨hbeat, hold⟩ := expiredEntry_eq_some_iff.mp hexpired
    have hfound : found = clientId := (liveness_keyed events hbeat).symm.trans hclient
    exact ⟨beat, hfound ▸ hbeat, hold⟩

/-- A sender that beats within the interval has a recent liveness entry, unless it was registered
within the interval. -/
theorem liveness_of_heartbeatWithin {config : ServerRuntimeConfig} {events : List ServerEvent}
    (hclock : events.Pairwise fun a b => a.time ≤ b.time)
    {input : ServerHeartbeatTimeoutMultiClientLoopInput} {entry : AuthenticatedSenderEntry}
    (hget : (runServer config events).1.registry.get entry.clientId = some entry)
    (hbeats : HeartbeatWithin config events entry input)
    (hauth : ¬AuthWithin config events entry.clientId input) :
    ∃ beat, (runServer config events).1.liveness.get entry.clientId = some beat ∧
      WithinInterval input beat.lastServerReceivedAt := by
  obtain ⟨earlier, event, later, rfl, hbeat, hok, hwithin⟩ := hbeats
  have hlater : ∀ next ∈ later, event.time ≤ next.time := by
    have htail := (List.pairwise_append.mp hclock).2.1
    exact (List.pairwise_cons.mp htail).1
  -- nothing was registered for the client since the heartbeat came, so it came from the sender
  have hthen : (runServer config earlier).1.registry.get entry.clientId = some entry := by
    rw [runServer, run_append] at hget
    refine unwritten_run (fun (state : ServerState) clientId => state.registry.get clientId)
      (fun _ _ _ _ => serverStep_registry) ?_ hget
    intro next hnext other hother hclient
    refine hauth ⟨next, List.mem_append_right earlier hnext, other, hother, hclient, ?_⟩
    rcases List.mem_cons.mp hnext with rfl | hnext
    · exact hwithin
    · exact hwithin.mono (hlater next hnext)
  obtain ⟨beat, hentry, htime⟩ := serverStep_heartbeat hbeat hthen hok
  obtain ⟨last, hlast, hle⟩ := liveness_kept hlater ⟨beat, hentry, UInt64.le_of_eq htime.symm⟩
  refine ⟨last, ?_, hwithin.mono hle⟩
  rw [runServer, run_append]
  exact hlast

/-- After any run with a clock that does not go back, a pass takes away only registrations without a
recent heartbeat and without a recent auth, if no recently authenticated client has an old heartbeat
left; and only if, when the timeout records can be written. -/
theorem timeoutPass_evictsOnlyStale {config : ServerRuntimeConfig} {events : List ServerEvent}
    (hclock : events.Pairwise fun a b => a.time ≤ b.time) (write : TimeoutLogWriter)
    (input : ServerHeartbeatTimeoutMultiClientLoopInput) :
    (RecentAuthsBeatOrNever config events input → EvictsOnlyStale config events write input) ∧
      ((∀ record, write record = .ok ()) → EvictsOnlyStale config events write input →
        RecentAuthsBeatOrNever config events input) := by
  constructor
  · intro hrecent clientId entry hget hnone
    obtain ⟨beat, hbeat, hold⟩ := timeoutPass_evicts hget hnone
    have hauth : ¬AuthWithin config events clientId input := fun hauth =>
      hold (hrecent clientId entry beat hget hbeat hauth)
    refine ⟨fun hbeats => ?_, hauth⟩
    obtain ⟨rfl, -⟩ := registry_latest events hget
    obtain ⟨last, hlast, hwithin⟩ := liveness_of_heartbeatWithin hclock hget hbeats hauth
    cases Option.some.inj (hbeat.symm.trans hlast)
    exact hold hwithin
  · intro hwrite hstale clientId entry beat hget hbeat hauth
    by_contra hold
    have hnone := get_runAllRegistered_of_expired hwrite (runServer config events).1.noticeQueue hget
      (registry_latest events hget).1 (expiredEntry_eq_some_iff.mpr ⟨hbeat, hold⟩) (liveness_keyed events hbeat)
    exact (hstale clientId entry hget hnone).2 hauth

/-- A pass at the time, with a timeout of five seconds. -/
def fiveSecondPass (evaluatedAt : TimestampMicros) : ServerHeartbeatTimeoutMultiClientLoopInput :=
  ⟨evaluatedAt, ⟨5000000⟩⟩

theorem timeoutPass_evictsOnlyStale_silentCamera :
    let events := [cameraAuth 5000 "run" 0, cameraHeartbeat 5000 "run" 1000000]
    let state := (runServer oneCameraConfig events).1
    EvictsOnlyStale oneCameraConfig events (fun _ => .ok ()) (fiveSecondPass 10000000) ∧
      (state.registry.get "cam").isSome ∧
      (serverStep oneCameraConfig state
        (.timeoutPass (fun _ => .ok ()) (fiveSecondPass 10000000))).1.registry.get "cam" = none := by
  intro events state
  have hclock : events.Pairwise fun a b => a.time ≤ b.time := by
    simp [events, cameraAuth, cameraHeartbeat, cameraPacket, ServerEvent.time]
  have hrecent : RecentAuthsBeatOrNever oneCameraConfig events (fiveSecondPass 10000000) := by
    rintro _ _ _ _ _ ⟨event, hmem, _, _, _, hwithin⟩
    have htime : event.time ≤ 1000000 := by
      rcases List.mem_pair.mp hmem with rfl | rfl
      · decide
      · decide
    exact absurd (hwithin.mono htime) (by unfold WithinInterval; decide)
  exact ⟨(timeoutPass_evictsOnlyStale hclock _ _).1 hrecent, by decide +kernel, by decide +kernel⟩

/-- A client that timed out comes back as a new run from another endpoint, and is taken away by the
next pass before its first heartbeat. -/
theorem timeoutPass_evicts_reauthenticated :
    let events := [cameraAuth 5000 "run" 0, cameraHeartbeat 5000 "run" 1000000,
      .timeoutPass (fun _ => .ok ()) (fiveSecondPass 10000000), cameraAuth 6000 "again" 60000000]
    events.Pairwise (fun a b => a.time ≤ b.time) ∧
      ¬EvictsOnlyStale oneCameraConfig events (fun _ => .ok ()) (fiveSecondPass 60100000) := by
  intro events
  refine ⟨by decide, fun h => ?_⟩
  have hauth : (cameraAuth 6000 "again" 60000000).acceptedAuth oneCameraConfig =
    some ⟨"cam", cameraSource 6000, "again", 1, none⟩ := by decide +kernel
  refine (h "cam" ⟨"cam", cameraSource 6000, "again", 1, none⟩ (by decide +kernel) (by decide +kernel)).2
    ⟨cameraAuth 6000 "again" 60000000, by simp [events], _, hauth, rfl, ?_⟩
  unfold WithinInterval
  decide

end StreamSync
