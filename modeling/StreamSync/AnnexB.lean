import StreamSync.Lib.Framing
import StreamSync.Lib.Saturating

namespace StreamSync

open Framing Saturating

/-- The start code at the head of the bytes, by its length. -/
def startCodeLen (bytes : List UInt8) : Option Nat :=
  if [0, 0, 0, 1].isPrefixOf bytes then some 4
  else if [0, 0, 1].isPrefixOf bytes then some 3
  else none

theorem startCodeLen_append {bytes : List UInt8} {n : Nat} (more : List UInt8)
    (h : startCodeLen bytes = some n) : startCodeLen (bytes ++ more) = some n := by
  unfold startCodeLen at h ⊢
  split at h
  next hlong =>
    cases h
    obtain ⟨rest, rfl⟩ := List.isPrefixOf_iff_prefix.mp hlong
    rfl
  next =>
    split at h
    next hshort =>
      cases h
      obtain ⟨rest, rfl⟩ := List.isPrefixOf_iff_prefix.mp hshort
      rfl
    next => cases h

theorem startCodeLen_pos {bytes : List UInt8} {n : Nat} (h : startCodeLen bytes = some n) : 0 < n := by
  unfold startCodeLen at h
  split at h
  next => cases h; decide
  next =>
    split at h
    next => cases h; decide
    next => cases h

def startCode : Marker UInt8 where
  mark := startCodeLen
  mark_pos := startCodeLen_pos
  mark_append := startCodeLen_append

def findAnnexBStartCode (bytes : List UInt8) (start : Nat) : Option (Nat × Nat) :=
  scan startCode start (bytes.drop start)

inductive ClientAnnexBNalUnitKind where
  | nonIdrSlice | idrSlice | sei | sps | pps | aud | other (nalUnitType : UInt8)
deriving DecidableEq, Repr

namespace ClientAnnexBNalUnitKind

def fromNalUnitType (nalUnitType : UInt8) : ClientAnnexBNalUnitKind :=
  if 1 ≤ nalUnitType ∧ nalUnitType ≤ 4 then .nonIdrSlice
  else if nalUnitType = 5 then .idrSlice
  else if nalUnitType = 6 then .sei
  else if nalUnitType = 7 then .sps
  else if nalUnitType = 8 then .pps
  else if nalUnitType = 9 then .aud
  else .other nalUnitType

def isVcl : ClientAnnexBNalUnitKind → Bool
  | .nonIdrSlice => true
  | .idrSlice => true
  | _ => false

end ClientAnnexBNalUnitKind

structure ClientAnnexBNalUnit where
  bytes : List UInt8
  startCodeLen : Nat
  kind : ClientAnnexBNalUnitKind
  nalUnitType : UInt8
  firstMbInSlice : Option UInt64
deriving DecidableEq, Repr

structure ClientAnnexBAccessUnit where
  bytes : List UInt8
  nalUnits : List ClientAnnexBNalUnit
  containsIdr : Bool
  containsSps : Bool
  containsPps : Bool
deriving DecidableEq, Repr

inductive ClientAnnexBAccessUnitReaderMalformedReason where
  | missingStartCode | zeroLengthNalUnit | invalidNalHeader | invalidSliceHeader
deriving DecidableEq, Repr

inductive ClientAnnexBAccessUnitReaderIncompleteReason where
  | noCompleteAccessUnitYet | trailingStartCodeWithoutNalHeader | accessUnitMissingVcl
deriving DecidableEq, Repr

structure ClientAnnexBAccessUnitReaderState where
  bufferedBytes : List UInt8
deriving DecidableEq, Repr

namespace ClientAnnexBAccessUnitReaderState

def empty : ClientAnnexBAccessUnitReaderState := ⟨[]⟩

def appendBytes (state : ClientAnnexBAccessUnitReaderState) (bytes : List UInt8) :
    ClientAnnexBAccessUnitReaderState := ⟨state.bufferedBytes ++ bytes⟩

end ClientAnnexBAccessUnitReaderState

/-- Drops the third byte of every `00 00 03` behind the zeros that were kept. -/
def removeEmulationPreventionFrom (zeroRun : Nat) : List UInt8 → List UInt8
  | [] => []
  | byte :: bytes =>
    if 2 ≤ zeroRun ∧ byte = 3 then removeEmulationPreventionFrom 0 bytes
    else byte :: removeEmulationPreventionFrom (if byte = 0 then zeroRun + 1 else 0) bytes

def removeH264EmulationPreventionBytes (payload : List UInt8) : List UInt8 :=
  removeEmulationPreventionFrom 0 payload

/-- The bits of the bytes in the order `read_bit` numbers them, the highest of a byte first. -/
def bitsOf (bytes : List UInt8) : List Bool :=
  bytes.flatMap fun byte => (List.range 8).map fun i => byte.toNat.testBit (7 - i)

def parseUnsignedExpGolomb (bytes : List UInt8) :
    Except ClientAnnexBAccessUnitReaderMalformedReason UInt64 :=
  let bits := bitsOf bytes
  let leadingZeroBits := (bits.takeWhile (· = false)).length
  match bits.drop leadingZeroBits with
  | [] => .error .invalidSliceHeader
  | _ :: rest =>
    if rest.length < leadingZeroBits then .error .invalidSliceHeader
    else
      let suffix := (rest.take leadingZeroBits).foldl
        (fun (value : UInt64) bit => (value <<< 1) ||| (if bit then 1 else 0)) 0
      .ok (saturatingAdd ((1 <<< UInt64.ofNat leadingZeroBits) - 1) suffix)

def parseH264FirstMbInSlice (payload : List UInt8) :
    Except ClientAnnexBAccessUnitReaderMalformedReason UInt64 :=
  parseUnsignedExpGolomb (removeH264EmulationPreventionBytes payload)

/-- A NAL unit from its bytes, the start code included. -/
def parseNalUnit (startCodeLen : Nat) (bytes : List UInt8) :
    Except ClientAnnexBAccessUnitReaderMalformedReason ClientAnnexBNalUnit :=
  match bytes.drop startCodeLen with
  | [] => .error .zeroLengthNalUnit
  | nalHeader :: payload =>
    if nalHeader &&& 0x80 ≠ 0 ∨ nalHeader &&& 0x1f = 0 then .error .invalidNalHeader
    else
      let nalUnitType := nalHeader &&& 0x1f
      let kind := ClientAnnexBNalUnitKind.fromNalUnitType nalUnitType
      if kind.isVcl then
        match parseH264FirstMbInSlice payload with
        | .ok value => .ok ⟨bytes, startCodeLen, kind, nalUnitType, some value⟩
        | .error _ => .error .invalidSliceHeader
      else .ok ⟨bytes, startCodeLen, kind, nalUnitType, none⟩

structure ClientAnnexBNalDescriptor where
  start : Nat
  stop : Nat
  nalUnit : ClientAnnexBNalUnit
deriving DecidableEq, Repr

def parseAnnexBNalDescriptor (buffer : List UInt8) (start startCodeLen stop : Nat) :
    Except ClientAnnexBAccessUnitReaderMalformedReason ClientAnnexBNalDescriptor :=
  (parseNalUnit startCodeLen ((buffer.drop start).take (stop - start))).map fun nalUnit =>
    ⟨start, stop, nalUnit⟩

/-- The loop of `parse_annex_b_nal_descriptors` from a start code on. A start code takes at least
three bytes of the buffer, so the fuel of a byte a start code does not run out. -/
def nalDescriptorsFrom (buffer : List UInt8) (eof : Bool) :
    Nat → Nat → Nat → Except ClientAnnexBAccessUnitReaderMalformedReason (List ClientAnnexBNalDescriptor)
  | 0, _, _ => .ok []
  | fuel + 1, currentStart, currentStartCodeLen =>
    match findAnnexBStartCode buffer (currentStart + currentStartCodeLen) with
    | some (nextStart, nextStartCodeLen) => do
      let descriptor ← parseAnnexBNalDescriptor buffer currentStart currentStartCodeLen nextStart
      let rest ← nalDescriptorsFrom buffer eof fuel nextStart nextStartCodeLen
      return descriptor :: rest
    | none =>
      if eof && currentStart + currentStartCodeLen < buffer.length then do
        let descriptor ← parseAnnexBNalDescriptor buffer currentStart currentStartCodeLen buffer.length
        return [descriptor]
      else .ok []

def parseAnnexBNalDescriptors (buffer : List UInt8) (eof : Bool) :
    Except ClientAnnexBAccessUnitReaderMalformedReason (List ClientAnnexBNalDescriptor) :=
  if buffer.isEmpty then .ok []
  else
    match findAnnexBStartCode buffer 0 with
    | none => .error .missingStartCode
    | some (firstStart, firstStartCodeLen) =>
      if firstStart ≠ 0 then .error .missingStartCode
      else nalDescriptorsFrom buffer eof (buffer.length + 1) firstStart firstStartCodeLen

def annexBNalBeginsNewAccessUnit (nalUnit : ClientAnnexBNalUnit) : Bool :=
  match nalUnit.kind with
  | .aud => true
  | .sei => true
  | .sps => true
  | .pps => true
  | .nonIdrSlice => nalUnit.firstMbInSlice = some 0
  | .idrSlice => nalUnit.firstMbInSlice = some 0
  | .other _ => false

/-- The index of the first unit that begins a new access unit behind a slice. There is no slice
before the first unit, so it is never the first. -/
def newAccessUnitIndex (currentHasVcl : Bool) : List ClientAnnexBNalUnit → Option Nat
  | [] => none
  | nalUnit :: nalUnits =>
    if currentHasVcl && annexBNalBeginsNewAccessUnit nalUnit then some 0
    else (newAccessUnitIndex (currentHasVcl || nalUnit.kind.isVcl) nalUnits).map (· + 1)

def consumeAccessUnitFromState (state : ClientAnnexBAccessUnitReaderState)
    (descriptors : List ClientAnnexBNalDescriptor) (consumedEnd : Nat) :
    ClientAnnexBAccessUnit × ClientAnnexBAccessUnitReaderState :=
  let nalUnits := descriptors.map (·.nalUnit)
  ({ bytes := state.bufferedBytes.take consumedEnd
     nalUnits
     containsIdr := nalUnits.any fun nalUnit => nalUnit.kind = .idrSlice
     containsSps := nalUnits.any fun nalUnit => nalUnit.kind = .sps
     containsPps := nalUnits.any fun nalUnit => nalUnit.kind = .pps },
    ⟨state.bufferedBytes.drop consumedEnd⟩)

/-- `try_extract_annex_b_access_unit`, with the state after it. -/
def tryExtractAnnexBAccessUnit (state : ClientAnnexBAccessUnitReaderState) (eof : Bool) :
    Except ClientAnnexBAccessUnitReaderMalformedReason
      (Option (ClientAnnexBAccessUnit × ClientAnnexBAccessUnitReaderState)) := do
  let descriptors ← parseAnnexBNalDescriptors state.bufferedBytes eof
  let nalUnits := descriptors.map (·.nalUnit)
  match newAccessUnitIndex false nalUnits with
  | some index =>
    let consumedEnd := (descriptors[index]?.map (·.start)).getD 0
    return some (consumeAccessUnitFromState state (descriptors.take index) consumedEnd)
  | none =>
    if eof && nalUnits.any fun nalUnit => nalUnit.kind.isVcl then
      let consumedEnd := (descriptors.getLast?.map (·.stop)).getD 0
      return some (consumeAccessUnitFromState state descriptors consumedEnd)
    else return none

def detectAnnexBIncompleteReason (buffer : List UInt8) : ClientAnnexBAccessUnitReaderIncompleteReason :=
  match findAnnexBStartCode buffer 0 with
  | none => .noCompleteAccessUnitYet
  | some (start, startCodeLen) =>
    if start ≠ 0 then .noCompleteAccessUnitYet
    else if buffer.length ≤ start + startCodeLen then .trailingStartCodeWithoutNalHeader
    else .accessUnitMissingVcl

inductive ClientAnnexBAccessUnitReaderPollResult where
  | accessUnit (accessUnit : ClientAnnexBAccessUnit)
  | noCompleteAccessUnitYet (bufferedBytes : Nat)
  | malformedStream (reason : ClientAnnexBAccessUnitReaderMalformedReason) (bufferedBytes : Nat)
deriving DecidableEq, Repr

def ClientAnnexBAccessUnitReaderBoundary.pollAccessUnit (state : ClientAnnexBAccessUnitReaderState) :
    ClientAnnexBAccessUnitReaderPollResult × ClientAnnexBAccessUnitReaderState :=
  match tryExtractAnnexBAccessUnit state false with
  | .ok (some (accessUnit, state)) => (.accessUnit accessUnit, state)
  | .ok none => (.noCompleteAccessUnitYet state.bufferedBytes.length, state)
  | .error reason => (.malformedStream reason state.bufferedBytes.length, state)

inductive ClientAnnexBAccessUnitReaderFinishResult where
  | accessUnit (accessUnit : ClientAnnexBAccessUnit)
  | eofNoBufferedData
  | eofWithIncompleteData (reason : ClientAnnexBAccessUnitReaderIncompleteReason)
      (remainingBytes : List UInt8)
  | malformedStream (reason : ClientAnnexBAccessUnitReaderMalformedReason)
      (remainingBytes : List UInt8)
deriving DecidableEq, Repr

def ClientAnnexBAccessUnitReaderBoundary.finish (state : ClientAnnexBAccessUnitReaderState) :
    ClientAnnexBAccessUnitReaderFinishResult × ClientAnnexBAccessUnitReaderState :=
  match tryExtractAnnexBAccessUnit state false with
  | .ok (some (accessUnit, state)) => (.accessUnit accessUnit, state)
  | .error reason => (.malformedStream reason state.bufferedBytes, .empty)
  | .ok none =>
    if state.bufferedBytes.isEmpty then (.eofNoBufferedData, state)
    else
      match tryExtractAnnexBAccessUnit state true with
      | .ok (some (accessUnit, state)) => (.accessUnit accessUnit, state)
      | .ok none =>
        (.eofWithIncompleteData (detectAnnexBIncompleteReason state.bufferedBytes) state.bufferedBytes,
          .empty)
      | .error reason => (.malformedStream reason state.bufferedBytes, .empty)

end StreamSync
