import StreamSync.Heartbeat
import StreamSync.RustStd

namespace StreamSync

open KeyedTable Saturating

structure HeartbeatTimebaseSample where
  clientSentAtMicros : UInt64
  clientLocalTimeMicros : Option UInt64
  serverReceivedAtMicros : UInt64
  serverSentAtMicros : UInt64
deriving DecidableEq, Repr

structure ServerHeartbeatTimebasePlan where
  clientId : ClientId
  runId : RunId
  sample : HeartbeatTimebaseSample
deriving DecidableEq, Repr

structure ServerHeartbeatProcessingInputs where
  state : ServerHeartbeatStateInput
  timebasePlan : ServerHeartbeatTimebasePlan
  ackTiming : ServerHeartbeatAckTiming
deriving DecidableEq, Repr

/-- `ServerHeartbeatInputBoundary::prepare_inputs`. -/
def prepareHeartbeatInputs (packet : ServerRegisteredHeartbeatPacket) (timing : ServerHeartbeatAckTiming) :
    ServerHeartbeatProcessingInputs where
  state := {
    source := packet.source
    authenticatedSender := packet.authenticatedSender
    clientId := packet.heartbeat.clientId
    runId := packet.heartbeat.runId
    protocolVersion := packet.heartbeat.protocolVersion
    heartbeatSentAt := packet.heartbeat.sentAt
    serverReceivedAt := timing.serverReceivedAt
    shortStatus := packet.heartbeat.shortStatus }
  timebasePlan := {
    clientId := packet.heartbeat.clientId
    runId := packet.heartbeat.runId
    sample := {
      clientSentAtMicros := packet.heartbeat.sentAt
      clientLocalTimeMicros := packet.heartbeat.localTime
      serverReceivedAtMicros := timing.serverReceivedAt
      serverSentAtMicros := timing.serverSentAt } }
  ackTiming := timing

structure ServerHeartbeatAckHandoff where
  registeredPacket : ServerRegisteredHeartbeatPacket
  processingInputs : ServerHeartbeatProcessingInputs
  queueItem : OutboundPacket
deriving DecidableEq

/-- `ServerHeartbeatHandlerBoundary::handoff_ack`. -/
def handoffAck (packet : ServerRegisteredHeartbeatPacket) (timing : ServerHeartbeatAckTiming) :
    ServerHeartbeatAckHandoff where
  registeredPacket := packet
  processingInputs := prepareHeartbeatInputs packet timing
  queueItem := {
    destination := packet.source
    message := .heartbeatAck {
      messageType := .heartbeatAck
      protocolVersion := packet.heartbeat.protocolVersion
      clientId := packet.heartbeat.clientId
      runId := packet.heartbeat.runId
      echoedSentAt := packet.heartbeat.sentAt
      serverReceivedAt := timing.serverReceivedAt
      serverSentAt := timing.serverSentAt } }

structure ServerClientStatsStateInput where
  source : PacketSource
  authenticatedSender : AuthenticatedSenderEntry
  clientId : ClientId
  runId : RunId
  protocolVersion : ProtocolVersion
  sentAt : TimestampMicros
  captureFps : UInt32
  droppedFrames : UInt64
  bitrateKbps : UInt32
deriving DecidableEq, Repr

structure ServerClientStatsHandlerInput where
  state : ServerClientStatsStateInput
  heartbeatObservation : Option HeartbeatAckObservation
deriving DecidableEq, Repr

/-- `ServerClientStatsHandlerBoundary::prepare_input`. -/
def prepareClientStatsInput (packet : ServerRegisteredClientStatsPacket) :
    ServerClientStatsHandlerInput where
  state := {
    source := packet.source
    authenticatedSender := packet.authenticatedSender
    clientId := packet.stats.clientId
    runId := packet.stats.runId
    protocolVersion := packet.stats.protocolVersion
    sentAt := packet.stats.sentAt
    captureFps := packet.stats.captureFps
    droppedFrames := packet.stats.droppedFrames
    bitrateKbps := packet.stats.bitrateKbps }
  heartbeatObservation := packet.stats.heartbeatObservation

structure HeartbeatExchangeObservation where
  clientSentAtMicros : UInt64
  serverReceivedAtMicros : UInt64
  serverSentAtMicros : UInt64
  clientReceivedAtMicros : UInt64
deriving DecidableEq, Repr

/-- The offset is server clock minus client clock. -/
structure HeartbeatRttOffsetEstimate where
  rttMicros : UInt64
  serverProcessingMicros : UInt64
  clockOffsetMicros : Int64
deriving DecidableEq, Repr

inductive HeartbeatRttOffsetCalculationError where
  | clientReceiveBeforeSend
  | serverSendBeforeReceive
  | roundTripShorterThanServerProcessing
  | clockOffsetOutOfRange
deriving DecidableEq, Repr

/-- `HeartbeatRttOffsetCalculator::calculate`. -/
def calculateEstimate (observation : HeartbeatExchangeObservation) :
    Except HeartbeatRttOffsetCalculationError HeartbeatRttOffsetEstimate := do
  let totalClientElapsed ← checkedSub observation.clientReceivedAtMicros observation.clientSentAtMicros
    .clientReceiveBeforeSend
  let serverProcessing ← checkedSub observation.serverSentAtMicros observation.serverReceivedAtMicros
    .serverSendBeforeReceive
  let rttMicros ← checkedSub totalClientElapsed serverProcessing .roundTripShorterThanServerProcessing
  let clientToServer : Int :=
    observation.serverReceivedAtMicros.toNat - observation.clientSentAtMicros.toNat
  let serverToClient : Int :=
    observation.serverSentAtMicros.toNat - observation.clientReceivedAtMicros.toNat
  match tryI64 ((clientToServer + serverToClient).tdiv 2) with
  | some clockOffsetMicros => .ok ⟨rttMicros, serverProcessing, clockOffsetMicros⟩
  | none => .error .clockOffsetOutOfRange

structure HeartbeatRttOffsetSmoothedEstimate where
  rttMicros : UInt64
  clockOffsetMicros : Int64
  samplesApplied : UInt64
deriving DecidableEq, Repr

/-- One step of the moving average with weight a quarter, before it is cut to its range. -/
def emaNext (previous latest : Int) : Int := previous + (latest - previous).tdiv 4

def emaU64 (previous latest : UInt64) : UInt64 :=
  let next := emaNext previous.toNat latest.toNat
  if next ≤ 0 then 0
  else if next ≤ 18446744073709551615 then UInt64.ofNat next.toNat
  else 18446744073709551615

def emaI64 (previous latest : Int64) : Int64 :=
  let next := emaNext previous.toInt latest.toInt
  match tryI64 next with
  | some value => value
  | none => if next < 0 then Int64.minValue else Int64.maxValue

/-- `HeartbeatRttOffsetSmoothingBoundary::smooth`. -/
def smooth (previous : Option HeartbeatRttOffsetSmoothedEstimate) (latest : HeartbeatRttOffsetEstimate) :
    HeartbeatRttOffsetSmoothedEstimate :=
  match previous with
  | some previous => {
      rttMicros := emaU64 previous.rttMicros latest.rttMicros
      clockOffsetMicros := emaI64 previous.clockOffsetMicros latest.clockOffsetMicros
      samplesApplied := saturatingAdd previous.samplesApplied 1 }
  | none => ⟨latest.rttMicros, latest.clockOffsetMicros, 1⟩

inductive ServerHeartbeatRttOffsetCalculationError where
  | clientIdMismatch
  | runIdMismatch
  | echoedSentAtMismatch (expected actual : TimestampMicros)
  | serverReceivedAtMismatch (expected actual : TimestampMicros)
  | serverSentAtMismatch (expected actual : TimestampMicros)
  | calculation (error : HeartbeatRttOffsetCalculationError)
  | missingHeartbeatObservation
deriving DecidableEq, Repr

structure ServerHeartbeatRttOffsetCalculation where
  clientId : ClientId
  runId : RunId
  estimate : HeartbeatRttOffsetEstimate
deriving DecidableEq, Repr

/-- `ServerHeartbeatRttOffsetCalculationBoundary::calculate`. -/
def calculateRttOffset (plan : ServerHeartbeatTimebasePlan) (observation : HeartbeatAckObservation) :
    Except ServerHeartbeatRttOffsetCalculationError ServerHeartbeatRttOffsetCalculation :=
  let sample := plan.sample
  if plan.clientId ≠ observation.clientId then .error .clientIdMismatch
  else if plan.runId ≠ observation.runId then .error .runIdMismatch
  else if sample.clientSentAtMicros ≠ observation.echoedSentAt then
    .error (.echoedSentAtMismatch sample.clientSentAtMicros observation.echoedSentAt)
  else if sample.serverReceivedAtMicros ≠ observation.serverReceivedAt then
    .error (.serverReceivedAtMismatch sample.serverReceivedAtMicros observation.serverReceivedAt)
  else if sample.serverSentAtMicros ≠ observation.serverSentAt then
    .error (.serverSentAtMismatch sample.serverSentAtMicros observation.serverSentAt)
  else do
    let estimate ← (calculateEstimate {
      clientSentAtMicros := sample.clientSentAtMicros
      serverReceivedAtMicros := sample.serverReceivedAtMicros
      serverSentAtMicros := sample.serverSentAtMicros
      clientReceivedAtMicros := observation.clientReceivedAt }).mapError .calculation
    return ⟨plan.clientId, plan.runId, estimate⟩

/-- `ServerHeartbeatObservationReturnBoundary::calculate_from_client_stats`. -/
def calculateFromClientStats (handoff : ServerHeartbeatAckHandoff)
    (clientStats : ServerClientStatsHandlerInput) :
    Except ServerHeartbeatRttOffsetCalculationError ServerHeartbeatRttOffsetCalculation :=
  match clientStats.heartbeatObservation with
  | none => .error .missingHeartbeatObservation
  | some observation => calculateRttOffset handoff.processingInputs.timebasePlan observation

structure ServerHeartbeatRttOffsetStateEntry where
  clientId : ClientId
  runId : RunId
  latestEstimate : HeartbeatRttOffsetEstimate
  smoothedEstimate : HeartbeatRttOffsetSmoothedEstimate
  committedSamples : UInt64
  lastCommittedAt : Option TimestampMicros
deriving DecidableEq, Repr

structure ServerHeartbeatRttOffsetState where
  entriesByClientId : Table ClientId ServerHeartbeatRttOffsetStateEntry
deriving DecidableEq

def ServerHeartbeatRttOffsetState.empty : ServerHeartbeatRttOffsetState := ⟨∅⟩

def ServerHeartbeatRttOffsetState.get (state : ServerHeartbeatRttOffsetState) (clientId : ClientId) :
    Option ServerHeartbeatRttOffsetStateEntry := state.entriesByClientId[clientId]?

structure ServerHeartbeatRttOffsetOutlierPolicy where
  maxRttDeltaMicros : Option UInt64
  maxClockOffsetDeltaMicros : Option UInt64
deriving DecidableEq, Repr

inductive ServerHeartbeatRttOffsetOutlierReason where
  | rttDeltaExceeded (previousMicros candidateMicros deltaMicros maxDeltaMicros : UInt64)
  | clockOffsetDeltaExceeded (previousMicros candidateMicros : Int64)
      (deltaMicros maxDeltaMicros : UInt64)
deriving DecidableEq, Repr

/-- The distance of two values, which fits a `u64` for both kinds of values compared here. -/
def absDiff (a b : Int) : UInt64 := UInt64.ofNat (a - b).natAbs

def evaluateOutlier (previous candidate : HeartbeatRttOffsetEstimate)
    (policy : ServerHeartbeatRttOffsetOutlierPolicy) : Option ServerHeartbeatRttOffsetOutlierReason :=
  let rttOutlier := policy.maxRttDeltaMicros.bind fun maxDeltaMicros =>
    let deltaMicros := absDiff previous.rttMicros.toNat candidate.rttMicros.toNat
    if maxDeltaMicros < deltaMicros then
      some (.rttDeltaExceeded previous.rttMicros candidate.rttMicros deltaMicros maxDeltaMicros)
    else none
  let offsetOutlier := policy.maxClockOffsetDeltaMicros.bind fun maxDeltaMicros =>
    let deltaMicros := absDiff previous.clockOffsetMicros.toInt candidate.clockOffsetMicros.toInt
    if maxDeltaMicros < deltaMicros then
      some (.clockOffsetDeltaExceeded previous.clockOffsetMicros candidate.clockOffsetMicros deltaMicros
        maxDeltaMicros)
    else none
  rttOutlier.or offsetOutlier

/-- The entry of the client, when it belongs to the run of the candidate. -/
def sameRunEntry (state : ServerHeartbeatRttOffsetState)
    (calculation : ServerHeartbeatRttOffsetCalculation) : Option ServerHeartbeatRttOffsetStateEntry :=
  (state.get calculation.clientId).filter fun entry => entry.runId = calculation.runId

/-- `ServerHeartbeatRttOffsetCandidatePolicyBoundary::evaluate`, down to the reason of a rejection. -/
def evaluateCandidate (state : ServerHeartbeatRttOffsetState)
    (calculation : ServerHeartbeatRttOffsetCalculation) (policy : ServerHeartbeatRttOffsetOutlierPolicy) :
    Option ServerHeartbeatRttOffsetOutlierReason :=
  (sameRunEntry state calculation).bind fun entry =>
    evaluateOutlier entry.latestEstimate calculation.estimate policy

/-- `ServerHeartbeatRttOffsetCommitBoundary::commit`. -/
def commitRttOffset (state : ServerHeartbeatRttOffsetState)
    (calculation : ServerHeartbeatRttOffsetCalculation) (committedAt : Option TimestampMicros) :
    ServerHeartbeatRttOffsetState :=
  let previous := sameRunEntry state calculation
  ⟨state.entriesByClientId.insert calculation.clientId {
    clientId := calculation.clientId
    runId := calculation.runId
    latestEstimate := calculation.estimate
    smoothedEstimate := smooth (previous.map (·.smoothedEstimate)) calculation.estimate
    committedSamples :=
      match previous with
      | some entry => saturatingAdd entry.committedSamples 1
      | none => 1
    lastCommittedAt := committedAt }⟩

/-- `ServerHeartbeatRttOffsetPolicyCommitBoundary::evaluate_and_commit`. -/
def evaluateAndCommit (state : ServerHeartbeatRttOffsetState)
    (calculation : ServerHeartbeatRttOffsetCalculation) (policy : ServerHeartbeatRttOffsetOutlierPolicy)
    (committedAt : Option TimestampMicros) :
    ServerHeartbeatRttOffsetState × Option ServerHeartbeatRttOffsetOutlierReason :=
  match evaluateCandidate state calculation policy with
  | none => (commitRttOffset state calculation committedAt, none)
  | some reason => (state, some reason)

end StreamSync
