import StreamSync.HeartbeatTick
import StreamSync.Lib.Fallible
import StreamSync.ProtocolRoundTrip

namespace StreamSync

open ByteCursor ClientHeartbeatLoopAckObservationReturnBoundary ClientHeartbeatLoopOneTickRuntimeBoundary

/-- The ids of an ack that could be encoded can be encoded in the stats that return it. -/
theorem encode_clientStats_of_ack {v : ProtocolVersion} {ack : HeartbeatAck} {bytes : List UInt8}
    (h : encodeMessage ⟨v⟩ (.heartbeatAck ack) [] = .ok bytes) (v' : ProtocolVersion) (stats : ClientStats)
    (hclient : stats.clientId = ack.clientId) (hrun : stats.runId = ack.runId) :
    ∃ packet, encodeMessage ⟨v'⟩ (.clientStats stats) [] = .ok packet := by
  obtain ⟨payload, hcat, _, _⟩ := encodeMessage_eq_ok_iff.mp h
  obtain ⟨a, rest, ha, hrest, _⟩ := Layout.cat_cons_eq_some.mp hcat
  obtain ⟨b, _, hb, _, _⟩ := Layout.cat_cons_eq_some.mp hrest
  have hla := length_of_stringLayout ha
  have hlb := length_of_stringLayout hb
  obtain ⟨observed, hobserved, hlen⟩ : ∃ observed : List UInt8,
      optionalLayout observationFieldsLayout stats.heartbeatObservation = some observed ∧
        observed.length ≤ 33 := by
    cases stats.heartbeatObservation with
    | none => exact ⟨[0], rfl, by decide⟩
    | some observation => exact ⟨_, rfl, by simp⟩
  have hlayout : Layout.cat (ProtocolMessage.clientStats stats).layout =
      some (a ++ (b ++ (u64ToLe stats.sentAt ++ (u32ToLe stats.captureFps ++ (u64ToLe stats.droppedFrames ++
        (u32ToLe stats.bitrateKbps ++ (observed ++ []))))))) := by
    simp only [ProtocolMessage.layout, ClientStats.layout, Layout.cat_cons, Layout.cat_nil, hclient, hrun,
      ha, hb, hobserved, u64Layout, u32Layout, Option.bind_some, Option.map_some]
  refine ⟨_, encodeMessage_eq_ok_iff.mpr ⟨_, hlayout, ?_, rfl⟩⟩
  simp only [List.length_append, length_u64ToLe, length_u32ToLe, List.length_nil]
  omega

/-- The datagram is a `HeartbeatAck` for the heartbeat, as the server encodes it. -/
def AckDatagram.Acknowledges (datagram : AckDatagram) (heartbeat : Heartbeat) : Prop :=
  ∃ ack : HeartbeatAck, ack.clientId = heartbeat.clientId ∧ ack.runId = heartbeat.runId ∧
    ack.echoedSentAt = heartbeat.sentAt ∧
    encodeMessage ⟨heartbeat.protocolVersion⟩ (.heartbeatAck ack) [] = .ok datagram.bytes ∧
    datagram.bytes.length ≤ udpPacketBufferLen

/-- What an ack can tell two heartbeats apart by. -/
structure Heartbeat.SameExchange (acked sent : Heartbeat) : Prop where
  protocolVersion : acked.protocolVersion = sent.protocolVersion
  clientId : acked.clientId = sent.clientId
  runId : acked.runId = sent.runId
  sentAt : acked.sentAt = sent.sentAt

theorem decodePacket_version {v v' : ProtocolVersion} {packet : List UInt8} {m m' : ProtocolMessage}
    (h : decodePacket ⟨v⟩ packet = .ok m) (h' : decodePacket ⟨v'⟩ packet = .ok m') : v = v' := by
  obtain ⟨view, hview, hversion, _⟩ := decodePacket_eq_ok_iff.mp h
  obtain ⟨view', hview', hversion', _⟩ := decodePacket_eq_ok_iff.mp h'
  rw [hview] at hview'
  cases hview'
  rw [validateProtocolVersion_eq_ok_iff] at hversion hversion'
  exact hversion.symm.trans hversion'

section Receive

variable {socket : TickSocket} {sent : ClientHeartbeatLoopEncodedSendHandoff} {datagram : AckDatagram}
  {acked : Heartbeat}

theorem receiveHeartbeatAck_of_decode {v : ProtocolVersion} {ack : HeartbeatAck}
    (h : decodePacket ⟨v⟩ (datagram.bytes.take udpPacketBufferLen) = .ok (.heartbeatAck ack)) :
    receiveHeartbeatAck (.ok datagram) v =
      .ok (datagram.source, datagram.bytes.take udpPacketBufferLen, ack) := by
  have hmessage : receiveProtocolMessage (.ok datagram) v =
      .ok (datagram.source, datagram.bytes.take udpPacketBufferLen, .heartbeatAck ack) := by
    change ((decodePacket ⟨v⟩ _).mapError ClientResponseReceiveError.decode >>= _) = _
    rw [h]
    rfl
  unfold receiveHeartbeatAck
  rw [hmessage]
  rfl

theorem buildClientStatsReturn_of_ack {ack : HeartbeatAck} {v : ProtocolVersion} {bytes : List UInt8}
    (h : encodeMessage ⟨v⟩ (.heartbeatAck ack) [] = .ok bytes) (v' : ProtocolVersion)
    (sentAt clientReceivedAt : TimestampMicros) :
    ∃ handoff, buildClientStatsReturn v' (observeAck (ack.normalize v') clientReceivedAt) sentAt =
      .ok handoff := by
  obtain ⟨packet, hpacket⟩ := encode_clientStats_of_ack h v' {
    messageType := .clientStats
    protocolVersion := v'
    clientId := ack.clientId
    runId := ack.runId
    sentAt
    captureFps := 0
    droppedFrames := 0
    bitrateKbps := 0
    heartbeatObservation := some (observeAck (ack.normalize v') clientReceivedAt) } rfl rfl
  exact ⟨_, Fallible.bind_eq_ok_iff.mpr ⟨packet, Fallible.mapError_eq_ok_iff.mpr hpacket, rfl⟩⟩

theorem receiveOne_eq_ok {received : Except IoErrorKind AckDatagram}
    {ack : ClientHeartbeatLoopAckObservationReturnRuntimeResult}
    (h : receiveOne socket received sent = .ok ack) :
    ∃ datagram, received = .ok datagram ∧
      decodePacket ⟨sent.heartbeat.protocolVersion⟩ (datagram.bytes.take udpPacketBufferLen) =
        .ok (.heartbeatAck ack.ack) ∧
      validateAckCorrelation sent.heartbeat ack.ack = .ok () := by
  unfold receiveOne at h
  obtain ⟨⟨source, bytes, heartbeatAck⟩, hreceive, h⟩ := Fallible.bind_eq_ok_iff.mp h
  obtain ⟨⟨⟩, hvalidate, h⟩ := Fallible.bind_eq_ok_iff.mp h
  have hack : ack.ack = heartbeatAck := by
    dsimp only at h
    split at h
    next =>
      cases Except.ok.inj h
      rfl
    next =>
      obtain ⟨stats, _, h⟩ := Fallible.bind_eq_ok_iff.mp h
      cases Except.ok.inj h
      rfl
  subst hack
  have hreceive := Fallible.mapError_eq_ok_iff.mp hreceive
  obtain ⟨⟨source', bytes', message⟩, hmessage, hack⟩ := Fallible.bind_eq_ok_iff.mp hreceive
  obtain ⟨datagram, hdatagram, hmessage⟩ := Fallible.bind_eq_ok_iff.mp hmessage
  obtain ⟨message', hdecode, hmessage⟩ := Fallible.bind_eq_ok_iff.mp hmessage
  cases Except.ok.inj hmessage
  refine ⟨datagram, Fallible.mapError_eq_ok_iff.mp hdatagram, ?_, hvalidate⟩
  have hdecode := Fallible.mapError_eq_ok_iff.mp hdecode
  cases message with
  | heartbeatAck ack' =>
    cases Except.ok.inj hack
    exact hdecode
  | authRequest => cases hack
  | authResponse => cases hack
  | heartbeat => cases hack
  | videoFrame => cases hack
  | videoFrameFragment => cases hack
  | clientStats => cases hack
  | serverNotice => cases hack

theorem validateAckCorrelation_eq_ok_iff {heartbeat : Heartbeat} {ack : HeartbeatAck} :
    validateAckCorrelation heartbeat ack = .ok () ↔
      heartbeat.clientId = ack.clientId ∧ heartbeat.runId = ack.runId ∧
        heartbeat.sentAt = ack.echoedSentAt := by
  unfold validateAckCorrelation
  split
  next h =>
    refine iff_of_false (fun h => by cases h) ?_
    rintro ⟨hclient, hrun, hsent⟩
    rcases h with h | h | h
    · exact h hclient
    · exact h hrun
    · exact h hsent
  next h =>
    simp only [not_or, not_not] at h
    exact iff_of_true rfl h

/-- The receive takes an ack for its own exactly when the acknowledged heartbeat looks the same. -/
theorem receiveOne_eq_ok_iff (h : datagram.Acknowledges acked) :
    (∃ ack, receiveOne socket (.ok datagram) sent = .ok ack) ↔ acked.SameExchange sent.heartbeat := by
  obtain ⟨ack, hclient, hrun, hecho, hencode, hlen⟩ := h
  have htake : datagram.bytes.take udpPacketBufferLen = datagram.bytes := List.take_of_length_le hlen
  have hdecode : decodePacket ⟨acked.protocolVersion⟩ (datagram.bytes.take udpPacketBufferLen) =
      .ok (.heartbeatAck (ack.normalize acked.protocolVersion)) := by
    rw [htake]
    exact decodePacket_of_encodeMessage hencode
  constructor
  · rintro ⟨received, hreceived⟩
    obtain ⟨_, hsame, hdecode', hvalidate⟩ := receiveOne_eq_ok hreceived
    cases hsame
    have hversion := decodePacket_version hdecode hdecode'
    rw [← hversion, hdecode] at hdecode'
    have hack : ack.normalize acked.protocolVersion = received.ack :=
      ProtocolMessage.heartbeatAck.inj (Except.ok.inj hdecode')
    rw [validateAckCorrelation_eq_ok_iff, ← hack] at hvalidate
    exact ⟨hversion, hclient.symm.trans hvalidate.1.symm, hrun.symm.trans hvalidate.2.1.symm,
      hecho.symm.trans hvalidate.2.2.symm⟩
  · rintro ⟨hversion, hclient', hrun', hsent'⟩
    rw [hversion] at hdecode
    have hvalidate : validateAckCorrelation sent.heartbeat (ack.normalize sent.heartbeat.protocolVersion) =
        .ok () :=
      validateAckCorrelation_eq_ok_iff.mpr ⟨hclient'.symm.trans hclient.symm, hrun'.symm.trans hrun.symm,
        hsent'.symm.trans hecho.symm⟩
    unfold receiveOne
    rw [receiveHeartbeatAck_of_decode hdecode]
    change ∃ received, (validateAckCorrelation sent.heartbeat _ >>= _) = .ok received
    rw [hvalidate]
    cases hmode : sent.ackObservationReturn with
    | disabled => exact ⟨_, rfl⟩
    | clientStatsOncePerAck =>
      obtain ⟨handoff, hhandoff⟩ := buildClientStatsReturn_of_ack hencode
        sent.heartbeat.protocolVersion socket.clientStatsSentAt socket.clientReceivedAt
      change ∃ received, (some <$> buildClientStatsReturn _ _ _ >>= _) = .ok received
      rw [hhandoff]
      exact ⟨_, rfl⟩

end Receive

/-- The loop, the queue of its socket, and what the network has carried: the heartbeats that left and the
acks that came back. -/
structure LoopState where
  queue : List AckDatagram
  counters : ClientHeartbeatLoopCountersState
  sent : List Heartbeat
  delivered : List AckDatagram

def LoopState.start : LoopState := ⟨[], .zero, [], []⟩

/-- At most one ack for each heartbeat, in the order of the heartbeats. -/
structure DeliveredInOrder (sent : List Heartbeat) (delivered : List AckDatagram) : Prop where
  ordered : delivered.Pairwise fun earlier later => earlier.answers < later.answers
  acknowledges : ∀ datagram ∈ delivered, ∃ acked, sent[datagram.answers]? = some acked ∧
    datagram.Acknowledges acked

def LoopState.deliver (s : LoopState) (arrivals : List AckDatagram) : LoopState :=
  { s with queue := s.queue ++ arrivals, delivered := s.delivered ++ arrivals }

/-- One turn of the loop on its socket. -/
def LoopState.turn (s : LoopState) (socket : TickSocket) (input : ClientHeartbeatLoopOneTickRuntimeInput) :
    ClientHeartbeatLoopOneTickRuntimeResult × LoopState :=
  let (result, remaining) := runOne socket s.queue s.counters input
  (result, {
    queue := remaining
    counters := result.finalCounters
    sent := s.sent ++ (result.heartbeatSend.map fun send => send.handoff.heartbeat).toList
    delivered := s.delivered ++ socket.arrivals })

/-- The states that turns and deliveries lead to. -/
inductive LoopReachable : LoopState → Prop where
  | start : LoopReachable .start
  | deliver {s : LoopState} {arrivals : List AckDatagram} (hs : LoopReachable s)
      (h : DeliveredInOrder s.sent (s.deliver arrivals).delivered) : LoopReachable (s.deliver arrivals)
  | turn {s : LoopState} {socket : TickSocket} {input : ClientHeartbeatLoopOneTickRuntimeInput}
      (hs : LoopReachable s)
      (h : DeliveredInOrder (s.turn socket input).2.sent (s.turn socket input).2.delivered) :
      LoopReachable (s.turn socket input).2

section Turn

variable {s : LoopState} {socket : TickSocket} {queue : List AckDatagram}
  {counters : ClientHeartbeatLoopCountersState} {input : ClientHeartbeatLoopOneTickRuntimeInput}
  {result : ClientHeartbeatLoopOneTickRuntimeResult}

@[simp] theorem heartbeatSend_commitIteration (r : ClientHeartbeatLoopIterationRuntimeResult) :
    (commitIteration result r).heartbeatSend = result.heartbeatSend := rfl

@[simp] theorem heartbeatSend_applyFailure (failure : ClientHeartbeatLoopOneTickRuntimeFailure)
    (reason : ClientHeartbeatLoopRetryReason) (kind : ClientHeartbeatLoopIterationFailureKind) :
    (applyFailure input result failure reason kind).heartbeatSend = result.heartbeatSend := rfl

@[simp] theorem heartbeatSend_runStats (handoff : Option ClientHeartbeatLoopClientStatsReturnHandoff) :
    (runStats socket input result handoff).heartbeatSend = result.heartbeatSend := by
  unfold runStats
  split
  · rfl
  · split <;> rfl

@[simp] theorem heartbeatSend_runAck (received : Except ClientHeartbeatLoopAckObservationReturnError
    ClientHeartbeatLoopAckObservationReturnRuntimeResult) :
    (runAck socket input result received).heartbeatSend = result.heartbeatSend := by
  cases received with
  | error error =>
    simp only [runAck, heartbeatSend_applyFailure]
    split <;> rfl
  | ok ack => simp only [runAck, heartbeatSend_runStats, heartbeatSend_commitIteration]

theorem suffix_runSendAckStats (handoff : ClientHeartbeatLoopBodySendHandoff) :
    (runSendAckStats socket queue input handoff result).2 <:+ queue := by
  unfold runSendAckStats
  split
  next => exact List.suffix_rfl
  next send hsend =>
    dsimp only
    split
    next => exact List.suffix_rfl
    next =>
      split
      next => exact List.suffix_rfl
      next datagram rest => exact List.suffix_cons datagram rest

/-- A turn takes at most one datagram, from the front of the queue. -/
theorem suffix_runOne : (runOne socket queue counters input).2 <:+ queue ++ socket.arrivals := by
  unfold runOne
  dsimp only
  split
  next => exact List.suffix_rfl
  next => exact List.suffix_rfl
  next => exact List.suffix_rfl
  next => exact suffix_runSendAckStats _

theorem runSendAckStats_receives {handoff : ClientHeartbeatLoopBodySendHandoff}
    {front : AckDatagram} {rest : List AckDatagram} {send : ClientHeartbeatLoopEncodeSendRuntimeResult}
    (hresult : result.heartbeatSend = none) (hnone : result.ackReturn = none)
    (hsend : (runSendAckStats socket (front :: rest) input handoff result).1.heartbeatSend = some send)
    (hwait : send.handoff.ackWait ≠ .deadlineElapsed) :
    (runSendAckStats socket (front :: rest) input handoff result).2 = rest ∧
      ∃ before : ClientHeartbeatLoopOneTickRuntimeResult, before.ackReturn = none ∧
        (runSendAckStats socket (front :: rest) input handoff result).1 =
          runAck socket input before (receiveOne socket (.ok front) send.handoff) := by
  unfold runSendAckStats at hsend ⊢
  split at hsend
  next =>
    rw [heartbeatSend_applyFailure, hresult] at hsend
    cases hsend
  next sent hsent =>
    dsimp only at hsend ⊢
    split at hsend
    next helapsed =>
      cases hsend
      exact absurd helapsed hwait
    next timeout deadline hwaits =>
      have hsame : sent = send := by
        rw [heartbeatSend_runAck] at hsend
        exact Option.some.inj hsend
      subst hsame
      refine ⟨rfl, _, ?_, rfl⟩
      exact hnone

/-- The turn that sent a heartbeat and waits for its ack receives the oldest datagram. -/
theorem runOne_receives {front : AckDatagram} {rest : List AckDatagram}
    {send : ClientHeartbeatLoopEncodeSendRuntimeResult}
    (hqueue : queue ++ socket.arrivals = front :: rest)
    (hsend : (runOne socket queue counters input).1.heartbeatSend = some send)
    (hwait : send.handoff.ackWait ≠ .deadlineElapsed) :
    (runOne socket queue counters input).2 = rest ∧
      ∃ before : ClientHeartbeatLoopOneTickRuntimeResult, before.ackReturn = none ∧
        (runOne socket queue counters input).1 =
          runAck socket input before (receiveOne socket (.ok front) send.handoff) := by
  unfold runOne at hsend ⊢
  rw [hqueue] at hsend ⊢
  dsimp only at hsend ⊢
  split at hsend
  next => cases hsend
  next => cases hsend
  next => cases hsend
  next handoff log hplan =>
    exact runSendAckStats_receives rfl rfl hsend hwait

end Turn

/-- The turn took an ack for its own and committed `AckReceived` for it. -/
def RecordsAckReceived (result : ClientHeartbeatLoopOneTickRuntimeResult) : Prop :=
  ∃ ack, result.ackReturn = some ack ∧ ∃ update ∈ result.countersUpdates,
    update.current = commitCounters update.previous
      (.ackReceived ack.observation.clientReceivedAt ack.clientStatsReturn.isSome)

section Records

variable {socket : TickSocket} {input : ClientHeartbeatLoopOneTickRuntimeInput}
  {result : ClientHeartbeatLoopOneTickRuntimeResult}

theorem ackReturn_runStats (handoff : Option ClientHeartbeatLoopClientStatsReturnHandoff) :
    (runStats socket input result handoff).ackReturn = result.ackReturn := by
  unfold runStats
  split
  · rfl
  · split <;> rfl

theorem countersUpdates_runStats (handoff : Option ClientHeartbeatLoopClientStatsReturnHandoff) :
    result.countersUpdates <+: (runStats socket input result handoff).countersUpdates := by
  unfold runStats
  split
  · exact List.prefix_rfl
  · split <;> exact List.prefix_append _ _

theorem recordsAckReceived_runAck (ack : ClientHeartbeatLoopAckObservationReturnRuntimeResult) :
    RecordsAckReceived (runAck socket input result (.ok ack)) := by
  let received : ClientHeartbeatLoopIterationRuntimeResult :=
    .ackReceived ack.observation.clientReceivedAt ack.clientStatsReturn.isSome
  refine ⟨ack, ackReturn_runStats _, ⟨result.finalCounters, commitCounters result.finalCounters received⟩,
    (countersUpdates_runStats _).subset ?_, rfl⟩
  exact List.mem_append_right _ (List.mem_singleton_self _)

theorem ackReturn_runAck_error (error : ClientHeartbeatLoopAckObservationReturnError) :
    (runAck socket input result (.error error)).ackReturn = result.ackReturn := by
  simp only [runAck, applyFailure]
  split <;> rfl

theorem failure_runAck_error (error : ClientHeartbeatLoopAckObservationReturnError) :
    (runAck socket input result (.error error)).failure = some (.ackReceive error) := rfl

theorem recordsAckReceived_runAck_iff
    {received : Except ClientHeartbeatLoopAckObservationReturnError
      ClientHeartbeatLoopAckObservationReturnRuntimeResult} (h : result.ackReturn = none) :
    RecordsAckReceived (runAck socket input result received) ↔ ∃ ack, received = .ok ack := by
  cases received with
  | ok ack => exact iff_of_true (recordsAckReceived_runAck ack) ⟨ack, rfl⟩
  | error error =>
    refine iff_of_false ?_ fun ⟨_, hok⟩ => by cases hok
    rintro ⟨ack, hack, _⟩
    rw [ackReturn_runAck_error, h] at hack
    cases hack

end Records

/-- What the socket still holds is the newest part of what the network delivered. -/
structure LoopInvariant (s : LoopState) : Prop where
  inOrder : DeliveredInOrder s.sent s.delivered
  queued : s.queue <:+ s.delivered

theorem LoopReachable.invariant {s : LoopState} (hs : LoopReachable s) : LoopInvariant s := by
  induction hs with
  | start => exact ⟨⟨List.Pairwise.nil, by simp [LoopState.start]⟩, List.suffix_rfl⟩
  | @deliver s arrivals _ h ih =>
    obtain ⟨earlier, hearlier⟩ := ih.queued
    refine ⟨h, earlier, ?_⟩
    change earlier ++ (s.queue ++ arrivals) = s.delivered ++ arrivals
    rw [← List.append_assoc, hearlier]
  | @turn s socket input _ h ih =>
    obtain ⟨earlier, hearlier⟩ := ih.queued
    have htaken : (runOne socket s.queue s.counters input).2 <:+ s.queue ++ socket.arrivals := suffix_runOne
    have hqueued : s.queue ++ socket.arrivals <:+ s.delivered ++ socket.arrivals :=
      ⟨earlier, by rw [← List.append_assoc, hearlier]⟩
    exact ⟨h, htaken.trans hqueued⟩

/-- A turn that waits for the ack of its heartbeat and finds it in the queue takes the oldest ack there. It
records `AckReceived` exactly when that ack could be its own, and leaves its own in the queue otherwise. -/
theorem runOne_recordsAckReceived_iff {s : LoopState} (hs : LoopReachable s) (socket : TickSocket)
    (input : ClientHeartbeatLoopOneTickRuntimeInput) :
    let (result, next) := s.turn socket input
    ∀ send, result.heartbeatSend = some send → send.handoff.ackWait ≠ .deadlineElapsed →
      DeliveredInOrder next.sent next.delivered →
      ∀ own ∈ s.queue ++ socket.arrivals, own.answers = s.sent.length →
        ∃ front acked, s.queue ++ socket.arrivals = front :: next.queue ∧
          next.sent[front.answers]? = some acked ∧ front.answers ≤ own.answers ∧
          (RecordsAckReceived result ↔ acked.SameExchange send.handoff.heartbeat) ∧
          (front.answers = own.answers → RecordsAckReceived result) ∧
          (¬RecordsAckReceived result →
            own ∈ next.queue ∧ ∃ error, result.failure = some (.ackReceive error)) := by
  dsimp only [LoopState.turn]
  intro send hsend hwait hdelivered own hown hanswers
  obtain ⟨front, rest, hqueue⟩ : ∃ front rest, s.queue ++ socket.arrivals = front :: rest :=
    List.exists_cons_of_ne_nil (List.ne_nil_of_mem hown)
  obtain ⟨hrest, before, hbefore, hresult⟩ := runOne_receives hqueue hsend hwait
  have hqueued : s.queue ++ socket.arrivals <:+ s.delivered ++ socket.arrivals := by
    obtain ⟨earlier, hearlier⟩ := hs.invariant.queued
    exact ⟨earlier, by rw [← List.append_assoc, hearlier]⟩
  have hordered := hdelivered.ordered.sublist hqueued.sublist
  rw [hqueue] at hordered hqueued
  have hfront : front = own ∨ front.answers < own.answers ∧ own ∈ rest := by
    rw [hqueue] at hown
    rcases List.mem_cons.mp hown with hown | hown
    · exact .inl hown.symm
    · exact .inr ⟨(List.pairwise_cons.mp hordered).1 own hown, hown⟩
  obtain ⟨acked, hacked, hacknowledges⟩ :=
    hdelivered.acknowledges front (hqueued.subset List.mem_cons_self)
  have hrecords : RecordsAckReceived (runOne socket s.queue s.counters input).1 ↔
      acked.SameExchange send.handoff.heartbeat := by
    rw [hresult, recordsAckReceived_runAck_iff hbefore]
    exact receiveOne_eq_ok_iff hacknowledges
  have hnewest : front.answers = own.answers →
      RecordsAckReceived (runOne socket s.queue s.counters input).1 := by
    intro hsame
    rw [hsame, hanswers, hsend] at hacked
    have hown : acked = send.handoff.heartbeat := by simpa using hacked.symm
    rw [hrecords, hown]
    exact ⟨rfl, rfl, rfl, rfl⟩
  refine ⟨front, acked, by rw [hqueue, hrest], hacked, ?_, hrecords, hnewest, ?_⟩
  · rcases hfront with rfl | ⟨hlt, _⟩ <;> omega
  · intro hnot
    rcases hfront with rfl | ⟨_, hqueued⟩
    · exact absurd (hnewest rfl) hnot
    · rw [hresult, recordsAckReceived_runAck_iff hbefore] at hnot
      refine ⟨hrest ▸ hqueued, ?_⟩
      rw [hresult]
      cases hreceived : receiveOne socket (.ok front) send.handoff with
      | ok ack => exact absurd ⟨ack, hreceived⟩ hnot
      | error error => exact ⟨error, failure_runAck_error error⟩

/-- Acks of earlier heartbeats would not keep a turn from its own. -/
def RecoversFromLateAcks : Prop :=
  ∀ s, LoopReachable s → ∀ (socket : TickSocket) (input : ClientHeartbeatLoopOneTickRuntimeInput),
    let (result, next) := s.turn socket input
    ∀ send, result.heartbeatSend = some send → send.handoff.ackWait ≠ .deadlineElapsed →
      DeliveredInOrder next.sent next.delivered →
      (∃ own ∈ s.queue ++ socket.arrivals, own.answers = s.sent.length) → RecordsAckReceived result

section Sample

def exchangeAckBytes (sentAt : TimestampMicros) : List UInt8 :=
  (encodeMessage ⟨⟨1⟩⟩ (.heartbeatAck ⟨.heartbeatAck, ⟨1⟩, "client", "run", sentAt, sentAt, sentAt⟩)
    []).toOption.getD []

def exchangeAck (answers : Nat) (sentAt : TimestampMicros) : AckDatagram :=
  ⟨⟨.v4 0x7F000001 5000⟩, exchangeAckBytes sentAt, answers⟩

def exchangeHeartbeat (sentAt : TimestampMicros) : Heartbeat :=
  ⟨.heartbeat, ⟨1⟩, "client", "run", sentAt, none, none⟩

theorem exchangeAck_acknowledges (answers : Nat) (sentAt : TimestampMicros) :
    (exchangeAck answers sentAt).Acknowledges (exchangeHeartbeat sentAt) := by
  refine ⟨⟨.heartbeatAck, ⟨1⟩, "client", "run", sentAt, sentAt, sentAt⟩, rfl, rfl, rfl, rfl, ?_⟩
  show 53 ≤ 65507
  omega

/-- A turn whose heartbeat is due at `now` and waits five microseconds for its ack. -/
def exchangeTurn (now : TimestampMicros) : ClientHeartbeatLoopOneTickRuntimeInput where
  body := {
    ownership := ⟨"client", "run", ⟨1⟩, true, true⟩
    policy := ⟨"client", "run", now, ⟨10, 5, .disabled⟩, .runUntilStopped, ⟨0, 0, 0, none, false⟩⟩
    maxAckSocketWaitMicros := 5 }
  localTime := none
  shortStatus := none
  controllerNow := now
  maxSleepMicros := 5
  retryPolicy := ⟨3, 5⟩
  retryAttemptsUsed := 0

def exchangeSocket (arrivals : List AckDatagram) : TickSocket :=
  ⟨.ok 40, arrivals, .timedOut, 3, 4, .ok 40⟩

/-- The loop when the first ack came after its turn timed out. -/
def lateAck : LoopState :=
  (LoopState.start.turn (exchangeSocket []) (exchangeTurn 0)).2.deliver [exchangeAck 0 0]

theorem lateAck_reachable : LoopReachable lateAck := by
  have hfirst : LoopReachable (LoopState.start.turn (exchangeSocket []) (exchangeTurn 0)).2 :=
    .turn .start ⟨List.Pairwise.nil, fun datagram h => by cases h⟩
  refine .deliver hfirst ⟨List.pairwise_singleton _ _, fun datagram h => ?_⟩
  rw [List.mem_singleton.mp h]
  exact ⟨_, rfl, exchangeAck_acknowledges 0 0⟩

theorem twoAcks_deliveredInOrder :
    DeliveredInOrder [exchangeHeartbeat 0, exchangeHeartbeat 10] [exchangeAck 0 0, exchangeAck 1 10] := by
  refine ⟨by decide +kernel, fun datagram h => ?_⟩
  rcases List.mem_cons.mp h with rfl | h
  · exact ⟨_, rfl, exchangeAck_acknowledges 0 0⟩
  · rw [List.mem_singleton.mp h]
    exact ⟨_, rfl, exchangeAck_acknowledges 1 10⟩

/-- The second turn takes the late ack and leaves its own. -/
theorem runOne_recordsAckReceived_iff_late :
    let second := lateAck.turn (exchangeSocket [exchangeAck 1 10]) (exchangeTurn 10)
    ¬RecordsAckReceived second.1 ∧ exchangeAck 1 10 ∈ second.2.queue ∧
      ∃ error, second.1.failure = some (.ackReceive error) := by
  intro second
  obtain ⟨front, acked, hqueue, hacked, -, hrecords, -, hleft⟩ := runOne_recordsAckReceived_iff lateAck_reachable
    (exchangeSocket [exchangeAck 1 10]) (exchangeTurn 10) _ rfl (fun h => by cases h) twoAcks_deliveredInOrder
    (exchangeAck 1 10) (List.mem_append_right _ (List.mem_singleton_self _)) rfl
  have hfront : exchangeAck 0 0 = front := (List.cons.inj hqueue).1
  subst hfront
  obtain rfl : exchangeHeartbeat 0 = acked := Option.some.inj hacked
  have hnot : ¬RecordsAckReceived second.1 := fun h => absurd (hrecords.mp h).sentAt (by decide +kernel)
  exact ⟨hnot, hleft hnot⟩

theorem not_recoversFromLateAcks : ¬RecoversFromLateAcks := by
  intro hrecovers
  have hnone : (lateAck.turn (exchangeSocket [exchangeAck 1 10]) (exchangeTurn 10)).1.ackReturn = none := by
    decide +kernel
  have hrecords : RecordsAckReceived (lateAck.turn (exchangeSocket [exchangeAck 1 10]) (exchangeTurn 10)).1 :=
    hrecovers lateAck lateAck_reachable (exchangeSocket [exchangeAck 1 10]) (exchangeTurn 10) _ rfl
      (fun h => by cases h) twoAcks_deliveredInOrder
      ⟨exchangeAck 1 10, List.mem_append_right _ (List.mem_singleton_self _), rfl⟩
  obtain ⟨ack, hack, _⟩ := hrecords
  rw [hnone] at hack
  cases hack

end Sample

end StreamSync
