import StreamSync.Lib.LittleEndian
import StreamSync.Lib.ByteCursor
import StreamSync.ProtocolTypes
import StreamSync.RustStd

namespace StreamSync

open LittleEndian ByteCursor

def u16ToLe (value : UInt16) : List UInt8 := leBytes 2 value.toNat
def u32ToLe (value : UInt32) : List UInt8 := leBytes 4 value.toNat
def u64ToLe (value : UInt64) : List UInt8 := leBytes 8 value.toNat

def u16FromLe (bytes : List UInt8) : UInt16 := UInt16.ofNat (leNat bytes)
def u32FromLe (bytes : List UInt8) : UInt32 := UInt32.ofNat (leNat bytes)
def u64FromLe (bytes : List UInt8) : UInt64 := UInt64.ofNat (leNat bytes)

@[simp] theorem length_u16ToLe (value : UInt16) : (u16ToLe value).length = 2 := length_leBytes _ _
@[simp] theorem length_u32ToLe (value : UInt32) : (u32ToLe value).length = 4 := length_leBytes _ _
@[simp] theorem length_u64ToLe (value : UInt64) : (u64ToLe value).length = 8 := length_leBytes _ _

theorem u16FromLe_eq_iff {bytes : List UInt8} (hl : bytes.length = 2) {value : UInt16} :
    u16FromLe bytes = value ↔ u16ToLe value = bytes := by
  have hb := leNat_lt bytes
  rw [hl] at hb
  rw [u16ToLe, leBytes_eq_iff value.toNat_lt, u16FromLe, ← UInt16.toNat_inj, UInt16.toNat_ofNat']
  omega

theorem u32FromLe_eq_iff {bytes : List UInt8} (hl : bytes.length = 4) {value : UInt32} :
    u32FromLe bytes = value ↔ u32ToLe value = bytes := by
  have hb := leNat_lt bytes
  rw [hl] at hb
  rw [u32ToLe, leBytes_eq_iff value.toNat_lt, u32FromLe, ← UInt32.toNat_inj, UInt32.toNat_ofNat']
  omega

theorem u64FromLe_eq_iff {bytes : List UInt8} (hl : bytes.length = 8) {value : UInt64} :
    u64FromLe bytes = value ↔ u64ToLe value = bytes := by
  have hb := leNat_lt bytes
  rw [hl] at hb
  rw [u64ToLe, leBytes_eq_iff value.toNat_lt, u64FromLe, ← UInt64.toNat_inj, UInt64.toNat_ofNat']
  omega

@[simp] theorem u16FromLe_u16ToLe (value : UInt16) : u16FromLe (u16ToLe value) = value :=
  (u16FromLe_eq_iff (length_u16ToLe value)).mpr rfl

@[simp] theorem u32FromLe_u32ToLe (value : UInt32) : u32FromLe (u32ToLe value) = value :=
  (u32FromLe_eq_iff (length_u32ToLe value)).mpr rfl

/-- `String::from_utf8`. -/
def fromUtf8 (bytes : List UInt8) : Except ProtocolError String :=
  match String.fromUTF8? ⟨bytes.toArray⟩ with
  | some value => .ok value
  | none => .error .invalidUtf8String

theorem fromUtf8_eq_ok_iff {bytes : List UInt8} {value : String} :
    fromUtf8 bytes = .ok value ↔ asBytes value = bytes := by
  unfold fromUtf8 String.fromUTF8?
  split
  next v h =>
    split at h
    next hv =>
      cases Option.some.inj h
      constructor
      · intro h
        cases h
        simp [asBytes, String.fromUTF8]
      · rintro rfl
        simp [asBytes, String.fromUTF8]
    next => cases h
  next h =>
    split at h
    next => cases h
    next hv =>
      constructor
      · intro h
        cases h
      · rintro rfl
        exact absurd value.isValidUTF8 hv

abbrev PayloadReader (α : Type) := ByteReader ProtocolError α

namespace PayloadReader

def payloadLengthError (expected actual : Nat) : ProtocolError :=
  .invalidPayloadLength (UInt32.ofNat expected) actual

/-- `ensure_available` followed by the slice it makes safe. -/
def takeAvailable (len : Nat) : PayloadReader {bytes : List UInt8 // bytes.length = len} :=
  take payloadLengthError len

def finish : PayloadReader Unit := atEnd payloadLengthError

def readU8 : PayloadReader UInt8 := do
  let bytes ← takeAvailable 1
  pure (bytes.1.head (List.ne_nil_of_length_pos (by rw [bytes.2]; exact Nat.one_pos)))

def readU16 : PayloadReader UInt16 := do
  let bytes ← takeAvailable 2
  pure (u16FromLe bytes.1)

def readU32 : PayloadReader UInt32 := do
  let bytes ← takeAvailable 4
  pure (u32FromLe bytes.1)

def readU64 : PayloadReader UInt64 := do
  let bytes ← takeAvailable 8
  pure (u64FromLe bytes.1)

def boolOfByte (value : UInt8) : Except ProtocolError Bool :=
  match value with
  | 0 => .ok false
  | 1 => .ok true
  | actual => .error (.invalidBoolValue actual)

def readBool : PayloadReader Bool := do
  let value ← readU8
  boolOfByte value

def readArray3 : PayloadReader (Vector UInt8 3) := do
  let bytes ← takeAvailable 3
  pure ⟨bytes.1.toArray, bytes.2⟩

def readExactBytes (len : Nat) : PayloadReader (List UInt8) := do
  let bytes ← takeAvailable len
  pure bytes.1

def readString : PayloadReader String := do
  let bytes ← (do
    let byteLen ← readU16
    readExactBytes byteLen.toNat)
  fromUtf8 bytes

/-- The presence tag that the three `read_optional_*` readers share, then the value behind it. -/
def readOptional {α : Type} (readValue : PayloadReader α) : PayloadReader (Option α) := do
  let present ← readU8
  match present with
  | 0 => pure none
  | 1 => do
    let value ← readValue
    pure (some value)
  | actual => throw (.invalidOptionalTag actual)

def readOptionalString : PayloadReader (Option String) := readOptional readString
def readOptionalU64 : PayloadReader (Option UInt64) := readOptional readU64
def readOptionalU32 : PayloadReader (Option UInt32) := readOptional readU32

def readHeartbeatObservation (clientId : ClientId) (runId : RunId) :
    PayloadReader HeartbeatAckObservation := do
  let echoedSentAt ← readU64
  let serverReceivedAt ← readU64
  let serverSentAt ← readU64
  let clientReceivedAt ← readU64
  pure { clientId, runId, echoedSentAt, serverReceivedAt, serverSentAt, clientReceivedAt }

def readOptionalHeartbeatObservation (clientId : ClientId) (runId : RunId) :
    PayloadReader (Option HeartbeatAckObservation) :=
  readOptional (readHeartbeatObservation clientId runId)

/-- A `u32` byte count and that many bytes, as the two video payloads end. -/
def readSizedPayload : PayloadReader (Nat × List UInt8) := do
  let size ← readU32
  let payload ← readExactBytes size.toNat
  pure (size.toNat, payload)

/-- `read_array_3` and the check that the reserved bytes are zero. -/
def readMetadataReserved : PayloadReader (Vector UInt8 3) := do
  let metadataReserved ← readArray3
  (if metadataReserved = Vector.replicate 3 0 then .ok metadataReserved
   else .error (.invalidMetadataReserved metadataReserved) : Except ProtocolError (Vector UInt8 3))

end PayloadReader

end StreamSync
