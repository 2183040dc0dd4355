import StreamSync.ProtocolTypes

namespace StreamSync

inductive SocketAddr where
  | v4 (ip : UInt32) (port : UInt16)
  | v6 (ip : BitVec 128) (port : UInt16) (flowinfo scopeId : UInt32)
deriving DecidableEq, Repr

structure PacketSource where
  address : SocketAddr
deriving DecidableEq, Repr

/-- The endpoint and run an accepted auth request bound a client to. -/
structure AuthenticatedSenderEntry where
  clientId : ClientId
  source : PacketSource
  runId : RunId
  protocolVersion : ProtocolVersion
  registeredAt : Option TimestampMicros
deriving DecidableEq, Repr

structure ServerRegisteredHeartbeatPacket where
  source : PacketSource
  authenticatedSender : AuthenticatedSenderEntry
  heartbeat : Heartbeat
deriving DecidableEq, Repr

structure ServerRegisteredVideoFramePacket where
  source : PacketSource
  authenticatedSender : AuthenticatedSenderEntry
  frame : VideoFrame
deriving DecidableEq, Repr

structure ServerRegisteredVideoFrameFragmentPacket where
  source : PacketSource
  authenticatedSender : AuthenticatedSenderEntry
  fragment : VideoFrameFragment
deriving DecidableEq, Repr

structure ServerRegisteredClientStatsPacket where
  source : PacketSource
  authenticatedSender : AuthenticatedSenderEntry
  stats : ClientStats
deriving DecidableEq, Repr

structure ServerVideoFrameHandlerInput where
  registeredPacket : ServerRegisteredVideoFramePacket
  payloadLen : Nat
deriving DecidableEq, Repr

/-- `ServerVideoFrameHandlerBoundary::prepare_input`. -/
def prepareVideoFrameInput (packet : ServerRegisteredVideoFramePacket) : ServerVideoFrameHandlerInput :=
  { registeredPacket := packet, payloadLen := packet.frame.payload.length }

end StreamSync
