import StreamSync.HandoffRoundTrip

namespace StreamSync

open LittleEndian ByteCursor Fallible

/-- The flag byte and the id field of a retained keyframe, as the bytes of a response spell them. -/
structure RetainedKeyframeWire where
  flag : UInt8
  frameId : UInt64

namespace RetainedKeyframeWire

def available (w : RetainedKeyframeWire) : Bool := w.flag != 0

def retainedFrameId (w : RetainedKeyframeWire) : Option UInt64 := if w.available then some w.frameId else none

/-- The flag is zero or one, and no id stands behind a flag of zero. -/
def Canonical (w : RetainedKeyframeWire) : Prop := (w.flag = 0 ∨ w.flag = 1) ∧ (w.flag = 0 → w.frameId = 0)

def canonical (w : RetainedKeyframeWire) : RetainedKeyframeWire :=
  ⟨boolByte w.available, w.retainedFrameId.getD 0⟩

theorem available_eq_isSome (w : RetainedKeyframeWire) : w.available = w.retainedFrameId.isSome := by
  unfold retainedFrameId
  cases w.available <;> rfl

end RetainedKeyframeWire

theorem boolByte_ne_zero_eq_iff {byte : UInt8} : boolByte (byte != 0) = byte ↔ byte = 0 ∨ byte = 1 := by
  unfold boolByte
  by_cases h : byte = 0
  · simp [h]
  · simpa [h] using eq_comm

theorem RetainedKeyframeWire.canonical_eq_iff {w : RetainedKeyframeWire} : w.canonical = w ↔ w.Canonical := by
  obtain ⟨flag, frameId⟩ := w
  simp only [canonical, Canonical, available, retainedFrameId, RetainedKeyframeWire.mk.injEq,
    boolByte_ne_zero_eq_iff]
  refine and_congr_right fun _ => ?_
  by_cases h : flag = 0
  · simp [h, eq_comm]
  · simp [h]

/-- The bytes of a frame-read response behind its request id and kind. -/
structure FrameReadWire where
  remainingClientQueueLen : UInt32
  decodableSource : ServerSwitcherQueuedFrameDecodableSource
  retained : RetainedKeyframeWire
  keyframeFlag : UInt8
  frame : ServerSwitcherQueuedFrameHandoffFrame
  isKeyframe_eq : frame.isKeyframe = (keyframeFlag != 0)

namespace FrameReadWire

def response (requestId : UInt64) (w : FrameReadWire) : ServerSwitcherQueuedFrameHandoffResponse :=
  .frameRead requestId w.remainingClientQueueLen w.decodableSource w.retained.available
    w.retained.retainedFrameId w.frame

def layout (w : FrameReadWire) : List Layout :=
  [u32Layout w.remainingClientQueueLen, byteLayout w.decodableSource.wireCode, byteLayout w.retained.flag,
    u64Layout w.retained.frameId, stringLayout w.frame.clientId, stringLayout w.frame.runId,
    u64Layout w.frame.frameId, u64Layout w.frame.captureTimestamp, u64Layout w.frame.sendTimestamp,
    u64Layout w.frame.queuedAt, u32Layout w.frame.width, u32Layout w.frame.height,
    u32Layout w.frame.fpsNominal, byteLayout w.keyframeFlag, u16Layout w.frame.codec.wireCode,
    u32Layout w.frame.encodedPayloadLen,
    if w.frame.encodedPayload.length = w.frame.encodedPayloadLen.toNat then some w.frame.encodedPayload
    else none]

def Canonical (w : FrameReadWire) : Prop :=
  w.retained.Canonical ∧ (w.keyframeFlag = 0 ∨ w.keyframeFlag = 1)

def canonical (w : FrameReadWire) : FrameReadWire where
  remainingClientQueueLen := w.remainingClientQueueLen
  decodableSource := w.decodableSource
  retained := w.retained.canonical
  keyframeFlag := boolByte (w.keyframeFlag != 0)
  frame := w.frame
  isKeyframe_eq := by
    rw [w.isKeyframe_eq]
    cases w.keyframeFlag != 0 <;> rfl

theorem canonical_eq_iff {w : FrameReadWire} : w.canonical = w ↔ w.Canonical := by
  cases w
  simp [canonical, Canonical, RetainedKeyframeWire.canonical_eq_iff, boolByte_ne_zero_eq_iff]

end FrameReadWire

/-- The bytes of a no-frame response behind its request id and kind. -/
structure NoFrameWire where
  clientQueueLen : UInt32
  noFrameReason : ServerSwitcherQueuedFrameNoFrameReason
  decodableSource : ServerSwitcherQueuedFrameDecodableSource
  retained : RetainedKeyframeWire
  clientId : ClientId
  runId : RunId
  readMode : ServerSwitcherQueuedFrameReadMode

namespace NoFrameWire

def response (requestId : UInt64) (w : NoFrameWire) : ServerSwitcherQueuedFrameHandoffResponse :=
  .noFrame requestId w.clientId w.runId w.readMode w.clientQueueLen w.noFrameReason w.decodableSource
    w.retained.available w.retained.retainedFrameId

def layout (w : NoFrameWire) : List Layout :=
  [u32Layout w.clientQueueLen, byteLayout w.noFrameReason.wireCode, byteLayout w.decodableSource.wireCode,
    byteLayout w.retained.flag, u64Layout w.retained.frameId, stringLayout w.clientId,
    stringLayout w.runId, byteLayout w.readMode.wireCode]

def Canonical (w : NoFrameWire) : Prop := w.retained.Canonical

def canonical (w : NoFrameWire) : NoFrameWire := { w with retained := w.retained.canonical }

theorem canonical_eq_iff {w : NoFrameWire} : w.canonical = w ↔ w.Canonical := by
  cases w
  simp [canonical, Canonical, RetainedKeyframeWire.canonical_eq_iff]

end NoFrameWire

/-- A response as its bytes spell it; the flags and ids of the decoded response are read off. -/
inductive HandoffResponseWire where
  | frameRead (requestId : UInt64) (fields : FrameReadWire)
  | noFrame (requestId : UInt64) (fields : NoFrameWire)
  | handoffError (requestId : UInt64) (error : ServerSwitcherQueuedFrameHandoffErrorCode)

namespace HandoffResponseWire

def response : HandoffResponseWire → ServerSwitcherQueuedFrameHandoffResponse
  | .frameRead requestId fields => fields.response requestId
  | .noFrame requestId fields => fields.response requestId
  | .handoffError requestId error => .handoffError requestId error

def requestId : HandoffResponseWire → UInt64
  | .frameRead requestId _ => requestId
  | .noFrame requestId _ => requestId
  | .handoffError requestId _ => requestId

def kind : HandoffResponseWire → UInt8
  | .frameRead _ _ => responseKindFrameRead
  | .noFrame _ _ => responseKindNoFrame
  | .handoffError _ _ => responseKindError

def fieldsLayout : HandoffResponseWire → List Layout
  | .frameRead _ fields => fields.layout
  | .noFrame _ fields => fields.layout
  | .handoffError _ error => [byteLayout error.wireCode]

def layout (w : HandoffResponseWire) : List Layout :=
  u64Layout w.requestId :: byteLayout w.kind :: w.fieldsLayout

def Canonical : HandoffResponseWire → Prop
  | .frameRead _ fields => fields.Canonical
  | .noFrame _ fields => fields.Canonical
  | .handoffError _ _ => True

/-- What the encoder writes for the response that is read off. -/
def canonical : HandoffResponseWire → HandoffResponseWire
  | .frameRead requestId fields => .frameRead requestId fields.canonical
  | .noFrame requestId fields => .noFrame requestId fields.canonical
  | .handoffError requestId error => .handoffError requestId error

/-- The frame holds the fields of `w` and nothing else. -/
def SpellsFrame (w : HandoffResponseWire) (frame : List UInt8) : Prop :=
  ∃ body, Layout.cat w.layout = some body ∧ frameBody body = .ok frame

theorem canonical_eq_iff {w : HandoffResponseWire} : w.canonical = w ↔ w.Canonical := by
  cases w <;> simp [canonical, Canonical, FrameReadWire.canonical_eq_iff, NoFrameWire.canonical_eq_iff]

theorem response_layout (w : HandoffResponseWire) : w.response.layout = w.canonical.layout := by
  cases w with
  | frameRead requestId fields =>
    have hflag : boolLayout fields.frame.isKeyframe = byteLayout (boolByte (fields.keyframeFlag != 0)) := by
      rw [fields.isKeyframe_eq]
      rfl
    simp only [response, FrameReadWire.response, ServerSwitcherQueuedFrameHandoffResponse.layout,
      ServerSwitcherQueuedFrameHandoffFrame.layout, hflag]
    rfl
  | noFrame requestId fields => rfl
  | handoffError requestId error => rfl

theorem response_retainedAgrees (w : HandoffResponseWire) : w.response.RetainedAgrees := by
  cases w with
  | frameRead requestId fields => exact fields.retained.available_eq_isSome
  | noFrame requestId fields => exact fields.retained.available_eq_isSome
  | handoffError requestId error => trivial

theorem byte_sameLength (byte value : UInt8) : (byteLayout byte).SameLength (byteLayout value) := by
  intro xs h
  cases Option.some.inj h
  exact ⟨[value], rfl, rfl⟩

theorem u64_sameLength (value value' : UInt64) : (u64Layout value).SameLength (u64Layout value') := by
  intro xs h
  cases Option.some.inj h
  exact ⟨u64ToLe value', rfl, by rw [length_u64ToLe, length_u64ToLe]⟩

theorem canonical_sameLength (w : HandoffResponseWire) :
    (Layout.cat w.layout).SameLength (Layout.cat w.canonical.layout) := by
  refine Layout.SameLength.cat ?_
  cases w with
  | frameRead requestId fields =>
    simp only [layout, canonical, fieldsLayout, FrameReadWire.layout, FrameReadWire.canonical, kind,
      HandoffResponseWire.requestId, List.forall₂_cons, byte_sameLength, u64_sameLength,
      Layout.SameLength.refl, true_and]
    exact .nil
  | noFrame requestId fields =>
    simp only [layout, canonical, fieldsLayout, NoFrameWire.layout, NoFrameWire.canonical, kind,
      HandoffResponseWire.requestId, List.forall₂_cons, byte_sameLength, u64_sameLength,
      Layout.SameLength.refl, true_and]
    exact .nil
  | handoffError requestId error =>
    exact .cons (.refl _) (.cons (.refl _) (.cons (.refl _) .nil))

end HandoffResponseWire

namespace HandoffReader

def readFrameReadWire : HandoffReader FrameReadWire := do
  let remainingClientQueueLen ← readU32
  let decodableSource ← readDecodableSource
  let retainedFlag ← readU8
  let retainedFrameId ← readU64
  let clientId ← readString
  let runId ← readString
  let frameId ← readU64
  let captureTimestamp ← readU64
  let sendTimestamp ← readU64
  let queuedAt ← readU64
  let width ← readU32
  let height ← readU32
  let fpsNominal ← readU32
  let keyframeFlag ← readU8
  let codec ← readCodec
  let encodedPayloadLen ← readU32
  let encodedPayload ← readBytes encodedPayloadLen.toNat
  pure ⟨remainingClientQueueLen, decodableSource, ⟨retainedFlag, retainedFrameId⟩, keyframeFlag,
    ⟨clientId, runId, frameId, captureTimestamp, sendTimestamp, queuedAt, width, height, fpsNominal,
      keyframeFlag != 0, codec, encodedPayloadLen, encodedPayload⟩, rfl⟩

def readNoFrameWire : HandoffReader NoFrameWire := do
  let clientQueueLen ← readU32
  let noFrameReason ← readNoFrameReason
  let decodableSource ← readDecodableSource
  let retainedFlag ← readU8
  let retainedFrameId ← readU64
  let clientId ← readString
  let runId ← readString
  let readMode ← readReadMode
  pure ⟨clientQueueLen, noFrameReason, decodableSource, ⟨retainedFlag, retainedFrameId⟩, clientId,
    runId, readMode⟩

theorem readFrameRead_eq (requestId : UInt64) :
    readFrameRead requestId =
      readFrameReadWire >>= fun fields => pure (fields.response requestId) := by
  simp only [readFrameRead, readFrameReadWire, readFlag, bind_assoc, pure_bind]
  rfl

theorem readNoFrame_eq (requestId : UInt64) :
    readNoFrame requestId =
      readNoFrameWire >>= fun fields => pure (fields.response requestId) := by
  simp only [readNoFrame, readNoFrameWire, readFlag, bind_assoc, pure_bind]
  rfl

theorem readFrameReadWire_inverts : Inverts readFrameReadWire fun fields => Layout.cat fields.layout := by
  have h : Reads readFrameReadWire (fun _ => True) FrameReadWire.layout fun _ => True := by
    refine Inverts.reads_bind FrameReadWire.remainingClientQueueLen readU32_inverts fun _ => ?_
    refine Inverts.reads_bind FrameReadWire.decodableSource readDecodableSource_inverts fun _ => ?_
    refine Inverts.reads_bind (fun w : FrameReadWire => w.retained.flag) readU8_inverts fun _ => ?_
    refine Inverts.reads_bind (fun w : FrameReadWire => w.retained.frameId) readU64_inverts fun _ => ?_
    refine Inverts.reads_bind (fun w : FrameReadWire => w.frame.clientId) readString_inverts fun _ => ?_
    refine Inverts.reads_bind (fun w : FrameReadWire => w.frame.runId) readString_inverts fun _ => ?_
    refine Inverts.reads_bind (fun w : FrameReadWire => w.frame.frameId) readU64_inverts fun _ => ?_
    refine Inverts.reads_bind (fun w : FrameReadWire => w.frame.captureTimestamp) readU64_inverts fun _ => ?_
    refine Inverts.reads_bind (fun w : FrameReadWire => w.frame.sendTimestamp) readU64_inverts fun _ => ?_
    refine Inverts.reads_bind (fun w : FrameReadWire => w.frame.queuedAt) readU64_inverts fun _ => ?_
    refine Inverts.reads_bind (fun w : FrameReadWire => w.frame.width) readU32_inverts fun _ => ?_
    refine Inverts.reads_bind (fun w : FrameReadWire => w.frame.height) readU32_inverts fun _ => ?_
    refine Inverts.reads_bind (fun w : FrameReadWire => w.frame.fpsNominal) readU32_inverts fun _ => ?_
    refine Inverts.reads_bind FrameReadWire.keyframeFlag readU8_inverts fun _ => ?_
    refine Inverts.reads_bind (fun w : FrameReadWire => w.frame.codec) readCodec_inverts fun _ => ?_
    refine Inverts.reads_bind (fun w : FrameReadWire => w.frame.encodedPayloadLen) readU32_inverts fun len => ?_
    refine Reads.congr (?_ : Reads _ _ (fun w : FrameReadWire =>
      [if w.frame.encodedPayload.length = len.toNat then some w.frame.encodedPayload else none]) _) ?_
    · refine Inverts.reads_bind (fun w : FrameReadWire => w.frame.encodedPayload) (readBytes_inverts _) fun _ => ?_
      exact reads_pure fun w => by
        obtain ⟨_, _, ⟨_, _⟩, _, ⟨_, _, _, _, _, _, _, _, _, _, _, _, _⟩, hkeyframe⟩ := w
        cases hkeyframe
        constructor
        · intro h
          simp only [and_assoc] at h
          obtain ⟨-, rfl, rfl, rfl, rfl, rfl, rfl, rfl, rfl, rfl, rfl, rfl, rfl, rfl, rfl, -, rfl, rfl⟩ := h
          rfl
        · intro h
          cases h
          simp
    · rintro w ⟨_, rfl⟩
      rfl
  exact h.inverts fun _ _ => (and_iff_right trivial).symm

theorem readNoFrameWire_inverts : Inverts readNoFrameWire fun fields => Layout.cat fields.layout := by
  have h : Reads readNoFrameWire (fun _ => True) NoFrameWire.layout fun _ => True := by
    refine Inverts.reads_bind NoFrameWire.clientQueueLen readU32_inverts fun _ => ?_
    refine Inverts.reads_bind NoFrameWire.noFrameReason readNoFrameReason_inverts fun _ => ?_
    refine Inverts.reads_bind NoFrameWire.decodableSource readDecodableSource_inverts fun _ => ?_
    refine Inverts.reads_bind (fun w : NoFrameWire => w.retained.flag) readU8_inverts fun _ => ?_
    refine Inverts.reads_bind (fun w : NoFrameWire => w.retained.frameId) readU64_inverts fun _ => ?_
    refine Inverts.reads_bind NoFrameWire.clientId readString_inverts fun _ => ?_
    refine Inverts.reads_bind NoFrameWire.runId readString_inverts fun _ => ?_
    refine Inverts.reads_bind NoFrameWire.readMode readReadMode_inverts fun _ => ?_
    exact reads_pure fun w => by
      obtain ⟨_, _, _, ⟨_, _⟩, _, _, _⟩ := w
      simp
      tauto
  exact h.inverts fun _ _ => (and_iff_right trivial).symm

def readResponseWire : HandoffReader HandoffResponseWire := do
  let requestId ← readU64
  let kind ← readU8
  if kind = responseKindFrameRead then do
    let fields ← readFrameReadWire
    pure (.frameRead requestId fields)
  else if kind = responseKindNoFrame then do
    let fields ← readNoFrameWire
    pure (.noFrame requestId fields)
  else if kind = responseKindError then do
    let error ← readErrorCode
    pure (.handoffError requestId error)
  else throw (.unknownResponseKind kind)

theorem readResponse_eq :
    readResponse = readResponseWire >>= fun wire => pure wire.response := by
  simp only [readResponse, readResponseWire, bind_assoc]
  refine bind_congr fun requestId => bind_congr fun kind => ?_
  rw [readFrameRead_eq, readNoFrame_eq]
  split
  next => simp only [bind_assoc, pure_bind, HandoffResponseWire.response]
  next =>
    split
    next => simp only [bind_assoc, pure_bind, HandoffResponseWire.response]
    next =>
      split
      next => simp only [bind_assoc, pure_bind, HandoffResponseWire.response]
      next => rfl

/-- A reader of the fields of one kind reads the responses of that kind. -/
theorem reads_kind {β : Type} {p : HandoffReader β} {ls : β → List Layout}
    (hp : Inverts p fun fields => Layout.cat (ls fields)) {requestId : UInt64} {kind : UInt8}
    {make : β → HandoffResponseWire} (hls : ∀ fields, (make fields).fieldsLayout = ls fields)
    (hmake : ∀ wire : HandoffResponseWire,
      (wire.requestId = requestId ∧ wire.kind = kind) ↔ ∃ fields, make fields = wire) :
    Reads (p >>= fun fields => pure (make fields))
      (fun wire => (True ∧ wire.requestId = requestId) ∧ wire.kind = kind)
      (fun wire => [Layout.cat wire.fieldsLayout]) fun _ => True := by
  intro c wire c'
  simp only [bind_ok_iff, hp _ _ _, pure_ok_iff, true_and, hmake, and_true, Layout.cat_cons_eq_some,
    Layout.cat_nil, Option.some_inj]
  constructor
  · rintro ⟨fields, _, ⟨bs, hlayout, hadv⟩, rfl, rfl⟩
    exact ⟨⟨fields, rfl⟩, bs, ⟨bs, [], by rw [hls, hlayout], rfl, by simp⟩, hadv⟩
  · rintro ⟨⟨fields, rfl⟩, _, ⟨bs, _, hlayout, rfl, rfl⟩, hadv⟩
    rw [hls] at hlayout
    exact ⟨fields, c', ⟨bs, hlayout, by simpa using hadv⟩, rfl, rfl⟩

theorem readResponseWire_inverts : Inverts readResponseWire fun wire => Layout.cat wire.layout := by
  have h : Reads readResponseWire (fun _ => True) (fun wire =>
      [u64Layout wire.requestId, byteLayout wire.kind, Layout.cat wire.fieldsLayout]) fun _ => True := by
    refine Inverts.reads_bind HandoffResponseWire.requestId readU64_inverts fun requestId => ?_
    refine Inverts.reads_bind HandoffResponseWire.kind readU8_inverts fun kind => ?_
    split
    next hkind =>
      refine reads_kind readFrameReadWire_inverts (fun _ => rfl) fun wire => ?_
      cases wire <;> simp [HandoffResponseWire.requestId, HandoffResponseWire.kind, hkind, eq_comm,
        responseKindFrameRead, responseKindNoFrame, responseKindError]
    next hread =>
      split
      next hkind =>
        refine reads_kind readNoFrameWire_inverts (fun _ => rfl) fun wire => ?_
        cases wire <;> simp [HandoffResponseWire.requestId, HandoffResponseWire.kind, hkind, eq_comm,
          responseKindFrameRead, responseKindNoFrame, responseKindError]
      next hnone =>
        split
        next hkind =>
          have herror : Inverts readErrorCode fun code : ServerSwitcherQueuedFrameHandoffErrorCode =>
              Layout.cat [byteLayout code.wireCode] := readErrorCode_inverts.congr fun code => by simp
          refine reads_kind herror (fun _ => rfl) fun wire => ?_
          cases wire <;> simp [HandoffResponseWire.requestId, HandoffResponseWire.kind, hkind, eq_comm,
            responseKindFrameRead, responseKindNoFrame, responseKindError]
        next herror =>
          refine reads_throw _ _ _ ?_
          rintro (_ | _ | _) ⟨-, rfl⟩
          · exact hread rfl
          · exact hnone rfl
          · exact herror rfl
  refine h.inverts fun wire bs => ?_
  simp [HandoffResponseWire.layout]

end HandoffReader

theorem decodeResponseFrame_eq_ok_iff {response : ServerSwitcherQueuedFrameHandoffResponse}
    {frame : List UInt8} : decodeResponseFrame frame = .ok response ↔
      ∃ wire : HandoffResponseWire, wire.response = response ∧ wire.SpellsFrame frame := by
  have hread := fun body : List UInt8 => @Inverts.run_start_map _ _ _ _ _
    HandoffReader.readResponseWire_inverts HandoffResponseWire.response
    (fun offset total => ServerSwitcherQueuedFrameHandoffCodecError.trailingBytes (total - offset)) body
    response
  simp only [decodeResponseFrame, HandoffReader.readResponse_eq, HandoffReader.ensureConsumed, bind_assoc,
    pure_bind, bind_eq_ok_iff, decodeFramedBody_eq_ok_iff, hread]
  constructor
  · rintro ⟨body, hframe, wire, hvalue, hlayout⟩
    exact ⟨wire, hvalue, body, hlayout, hframe⟩
  · rintro ⟨wire, hvalue, body, hlayout, hframe⟩
    exact ⟨body, hframe, wire, hvalue, hlayout⟩

namespace HandoffResponseWire

/-- The bytes of a response say how it was spelt. -/
theorem SpellsFrame.unique {w w' : HandoffResponseWire} {frame : List UInt8} (h : w.SpellsFrame frame)
    (h' : w'.SpellsFrame frame) : w = w' := by
  obtain ⟨body, hlayout, hframe⟩ := h
  obtain ⟨body', hlayout', hframe'⟩ := h'
  have hbody : body = body' := by
    have hdecode := decodeFramedBody_eq_ok_iff.mpr hframe
    rw [decodeFramedBody_eq_ok_iff.mpr hframe'] at hdecode
    exact (Except.ok.inj hdecode).symm
  subst hbody
  have hread := fun wire => @Inverts.run_start _ _ _ _ HandoffReader.readResponseWire_inverts
    (fun offset total => ServerSwitcherQueuedFrameHandoffCodecError.trailingBytes (total - offset)) body wire
  exact Except.ok.inj (((hread w).mpr hlayout).symm.trans ((hread w').mpr hlayout'))

theorem encodeResponseFrame_response {w : HandoffResponseWire} {frame : List UInt8} :
    encodeResponseFrame w.response = .ok frame ↔ w.canonical.SpellsFrame frame := by
  have hwrite : ∀ body, encodeResponseBody w.response [] = .ok ((), body) ↔
      Layout.cat w.canonical.layout = some body := by
    intro body
    rw [(encodeResponseBody_appends w.response).output_eq, response_layout]
  unfold encodeResponseFrame SpellsFrame
  rw [bind_eq_ok_iff]
  constructor
  · rintro ⟨⟨_, body⟩, hbody, hframe⟩
    exact ⟨body, (hwrite body).mp hbody, hframe⟩
  · rintro ⟨body, hlayout, hframe⟩
    exact ⟨((), body), (hwrite body).mpr hlayout, hframe⟩

theorem SpellsFrame.canonical {w : HandoffResponseWire} {frame : List UInt8} (h : w.SpellsFrame frame) :
    ∃ frame', w.canonical.SpellsFrame frame' ∧ frame'.length = frame.length := by
  obtain ⟨body, hlayout, hframe⟩ := h
  obtain ⟨body', hlayout', hlength⟩ := w.canonical_sameLength body hlayout
  obtain ⟨declared, hfour, hdeclared, rfl⟩ := frameBody_eq_ok_iff.mp hframe
  rw [← hlength] at hdeclared
  refine ⟨declared ++ body', ⟨body', hlayout', frameBody_eq_ok_iff.mpr ⟨declared, hfour, hdeclared, rfl⟩⟩, ?_⟩
  rw [List.length_append, List.length_append, hlength]

end HandoffResponseWire

/-- A decoded request is encoded to the frame that it came from, and a decoded response to a frame of
the same length for the same response, which is the frame itself when the flags and the ids behind them
were spelt as the encoder spells them. -/
theorem handoffDecoders_reencode :
    (∀ (frame : List UInt8) (request : ServerSwitcherQueuedFrameHandoffRequest),
      decodeRequestFrame frame = .ok request → encodeRequestFrame request = .ok frame) ∧
    ∀ (frame : List UInt8) (response : ServerSwitcherQueuedFrameHandoffResponse),
      decodeResponseFrame frame = .ok response →
        ∃ (wire : HandoffResponseWire) (reencoded : List UInt8),
          wire.response = response ∧ wire.SpellsFrame frame ∧
            encodeResponseFrame response = .ok reencoded ∧ reencoded.length = frame.length ∧
              decodeResponseFrame reencoded = .ok response ∧ (reencoded = frame ↔ wire.Canonical) := by
  constructor
  · intro frame request h
    exact decodeRequestFrame_eq_ok_iff.mp h
  · intro frame response h
    obtain ⟨wire, rfl, hspells⟩ := decodeResponseFrame_eq_ok_iff.mp h
    obtain ⟨reencoded, hcanonical, hlength⟩ := hspells.canonical
    have hencode := HandoffResponseWire.encodeResponseFrame_response.mpr hcanonical
    have hdecode := decodeResponseFrame_of_encode wire.response_retainedAgrees hencode
    refine ⟨wire, reencoded, rfl, hspells, hencode, hlength, hdecode, ?_⟩
    rw [← HandoffResponseWire.canonical_eq_iff]
    constructor
    · rintro rfl
      exact hcanonical.unique hspells
    · intro heq
      rw [heq] at hcanonical
      obtain ⟨body, hlayout, hframe⟩ := hspells
      obtain ⟨body', hlayout', hframe'⟩ := hcanonical
      cases Option.some.inj (hlayout.symm.trans hlayout')
      exact Except.ok.inj (hframe'.symm.trans hframe)

/-- A no-frame response whose flag byte is two. -/
def noFrameFlagTwo : List UInt8 :=
  [31, 0, 0, 0, 7, 0, 0, 0, 0, 0, 0, 0, 2, 0, 0, 0, 0, 1, 0, 2, 5, 0, 0, 0, 0, 0, 0, 0, 1, 0, 97, 1, 0,
    114, 1]

def noFrameFlagTwoResponse : ServerSwitcherQueuedFrameHandoffResponse :=
  .noFrame 7 "a" "r" .inspectOldest 0 .noFramesQueuedForClient .none true (some 5)

theorem decodeResponseFrame_noFrameFlagTwo :
    decodeResponseFrame noFrameFlagTwo = .ok noFrameFlagTwoResponse := by
  decide +kernel

theorem handoffDecoders_reencode_flagTwo :
    ∃ (wire : HandoffResponseWire) (reencoded : List UInt8),
      wire.response = noFrameFlagTwoResponse ∧ wire.SpellsFrame noFrameFlagTwo ∧
        encodeResponseFrame noFrameFlagTwoResponse = .ok reencoded ∧
          reencoded.length = noFrameFlagTwo.length ∧
            decodeResponseFrame reencoded = .ok noFrameFlagTwoResponse ∧
              (reencoded = noFrameFlagTwo ↔ wire.Canonical) :=
  handoffDecoders_reencode.2 _ _ decodeResponseFrame_noFrameFlagTwo

theorem handoffDecoders_not_canonical :
    ¬ ∀ (frame : List UInt8) (response : ServerSwitcherQueuedFrameHandoffResponse),
      decodeResponseFrame frame = .ok response → encodeResponseFrame response = .ok frame := by
  intro h
  have hencode := h _ _ decodeResponseFrame_noFrameFlagTwo
  revert hencode
  decide +kernel

end StreamSync
