import StreamSync.HandoffCodec
import StreamSync.Lib.Fallible
import StreamSync.ProtocolInverse

namespace StreamSync

open LittleEndian ByteCursor Fallible HandoffReader

def byteLayout (value : UInt8) : Layout := some [value]

namespace ServerSwitcherQueuedFrameHandoffRequest

def layout (r : ServerSwitcherQueuedFrameHandoffRequest) : List Layout :=
  [u32Layout r.handoffVersion, u64Layout r.requestId, stringLayout r.clientId, stringLayout r.runId,
    byteLayout r.readMode.wireCode]

end ServerSwitcherQueuedFrameHandoffRequest

namespace ServerSwitcherQueuedFrameHandoffFrame

def layout (f : ServerSwitcherQueuedFrameHandoffFrame) : List Layout :=
  [stringLayout f.clientId, stringLayout f.runId, u64Layout f.frameId, u64Layout f.captureTimestamp,
    u64Layout f.sendTimestamp, u64Layout f.queuedAt, u32Layout f.width, u32Layout f.height,
    u32Layout f.fpsNominal, boolLayout f.isKeyframe, u16Layout f.codec.wireCode,
    u32Layout f.encodedPayloadLen,
    if f.encodedPayload.length = f.encodedPayloadLen.toNat then some f.encodedPayload else none]

end ServerSwitcherQueuedFrameHandoffFrame

namespace ServerSwitcherQueuedFrameHandoffResponse

def layout : ServerSwitcherQueuedFrameHandoffResponse → List Layout
  | .frameRead requestId remainingClientQueueLen decodableSource available frameId frame =>
    u64Layout requestId :: byteLayout responseKindFrameRead :: u32Layout remainingClientQueueLen ::
      byteLayout decodableSource.wireCode :: boolLayout available :: u64Layout (frameId.getD 0) ::
        frame.layout
  | .noFrame requestId clientId runId readMode clientQueueLen reason decodableSource available frameId =>
    [u64Layout requestId, byteLayout responseKindNoFrame, u32Layout clientQueueLen,
      byteLayout reason.wireCode, byteLayout decodableSource.wireCode, boolLayout available,
      u64Layout (frameId.getD 0), stringLayout clientId, stringLayout runId, byteLayout readMode.wireCode]
  | .handoffError requestId error =>
    [u64Layout requestId, byteLayout responseKindError, byteLayout error.wireCode]

end ServerSwitcherQueuedFrameHandoffResponse

section Write

theorem pushString_appends (field value : String) : Appends (pushString field value) [stringLayout value] := by
  unfold pushString
  split
  next h =>
    have hlayout : stringLayout value =
        some (u16ToLe (UInt16.ofNat (asBytes value).length) ++ asBytes value) := if_pos h
    refine ((extend_appends _).seq (extend_appends _)).congr ?_
    rw [hlayout]
    simp
  next h =>
    have hlayout : stringLayout value = none := if_neg h
    exact throw_appends _ (by simp [hlayout])

theorem encodeRequestBody_appends (request : ServerSwitcherQueuedFrameHandoffRequest) :
    Appends (encodeRequestBody request) request.layout := by
  refine (extend_appends _).seq ?_
  refine (extend_appends _).seq ?_
  refine (pushString_appends _ _).seq ?_
  refine (pushString_appends _ _).seq ?_
  exact extend_appends _

theorem encodeResponseBody_appends (response : ServerSwitcherQueuedFrameHandoffResponse) :
    Appends (encodeResponseBody response) response.layout := by
  cases response with
  | frameRead requestId remainingClientQueueLen decodableSource available frameId frame =>
    simp only [encodeResponseBody]
    split
    next hmismatch =>
      refine throw_appends _ ?_
      have hlength : ¬ frame.encodedPayload.length = frame.encodedPayloadLen.toNat := Ne.symm hmismatch
      simp [ServerSwitcherQueuedFrameHandoffResponse.layout, ServerSwitcherQueuedFrameHandoffFrame.layout,
        hlength]
    next hmatch =>
      have hlength : frame.encodedPayload.length = frame.encodedPayloadLen.toNat :=
        (not_not.mp hmatch).symm
      refine (extend_appends _).seq ?_
      refine (extend_appends _).seq ?_
      refine (extend_appends _).seq ?_
      refine (extend_appends _).seq ?_
      refine (extend_appends _).seq ?_
      refine (extend_appends _).seq ?_
      refine (pushString_appends _ _).seq ?_
      refine (pushString_appends _ _).seq ?_
      refine (extend_appends _).seq ?_
      refine (extend_appends _).seq ?_
      refine (extend_appends _).seq ?_
      refine (extend_appends _).seq ?_
      refine (extend_appends _).seq ?_
      refine (extend_appends _).seq ?_
      refine (extend_appends _).seq ?_
      refine (extend_appends _).seq ?_
      refine (extend_appends _).seq ?_
      refine (extend_appends _).seq ?_
      rw [if_pos hlength]
      exact extend_appends _
  | noFrame requestId clientId runId readMode clientQueueLen reason decodableSource available frameId =>
    refine (extend_appends _).seq ?_
    refine (extend_appends _).seq ?_
    refine (extend_appends _).seq ?_
    refine (extend_appends _).seq ?_
    refine (extend_appends _).seq ?_
    refine (extend_appends _).seq ?_
    refine (extend_appends _).seq ?_
    refine (pushString_appends _ _).seq ?_
    refine (pushString_appends _ _).seq ?_
    exact extend_appends _
  | handoffError requestId error =>
    refine (extend_appends _).seq ?_
    refine (extend_appends _).seq ?_
    exact extend_appends _

end Write

namespace HandoffReader

theorem readU8_inverts : Inverts readU8 byteLayout := u8_inverts (take_inverts _ 1)

theorem readU16_inverts : Inverts readU16 u16Layout := u16_inverts (take_inverts _ 2)

theorem readU32_inverts : Inverts readU32 u32Layout := u32_inverts (take_inverts _ 4)

theorem readU64_inverts : Inverts readU64 u64Layout := u64_inverts (take_inverts _ 8)

theorem readBytes_inverts (len : Nat) :
    Inverts (readBytes len) fun bytes => if bytes.length = len then some bytes else none :=
  bytes_inverts (take_inverts _ len)

theorem readString_inverts : Inverts readString stringLayout :=
  Inverts.convert (fun value => some (asBytes value)) (u16Counted_inverts readU16_inverts readBytes_inverts)
    fun _ _ => by rw [mapError_eq_ok_iff, fromUtf8_eq_ok_iff, Option.some_inj]

theorem readReadMode_inverts :
    Inverts readReadMode fun mode : ServerSwitcherQueuedFrameReadMode => byteLayout mode.wireCode :=
  Inverts.convert (fun mode : ServerSwitcherQueuedFrameReadMode => some mode.wireCode) readU8_inverts
    fun _ _ => by rw [ServerSwitcherQueuedFrameReadMode.tryFrom_eq_ok_iff, Option.some_inj]

theorem readDecodableSource_inverts : Inverts readDecodableSource
    fun source : ServerSwitcherQueuedFrameDecodableSource => byteLayout source.wireCode :=
  Inverts.convert (fun source : ServerSwitcherQueuedFrameDecodableSource => some source.wireCode)
    readU8_inverts fun _ _ => by
      rw [ServerSwitcherQueuedFrameDecodableSource.tryFrom_eq_ok_iff, Option.some_inj]

theorem readNoFrameReason_inverts : Inverts readNoFrameReason
    fun reason : ServerSwitcherQueuedFrameNoFrameReason => byteLayout reason.wireCode :=
  Inverts.convert (fun reason : ServerSwitcherQueuedFrameNoFrameReason => some reason.wireCode)
    readU8_inverts fun _ _ => by
      rw [ServerSwitcherQueuedFrameNoFrameReason.tryFrom_eq_ok_iff, Option.some_inj]

theorem readErrorCode_inverts : Inverts readErrorCode
    fun code : ServerSwitcherQueuedFrameHandoffErrorCode => byteLayout code.wireCode :=
  Inverts.convert (fun code : ServerSwitcherQueuedFrameHandoffErrorCode => some code.wireCode)
    readU8_inverts fun _ _ => by
      rw [ServerSwitcherQueuedFrameHandoffErrorCode.tryFrom_eq_ok_iff, Option.some_inj]

theorem readCodec_inverts : Inverts readCodec fun codec : Codec => u16Layout codec.wireCode :=
  Inverts.convert (fun codec : Codec => some codec.wireCode) readU16_inverts fun _ _ => by
    rw [mapError_eq_ok_iff, Codec.tryFrom_eq_ok_iff, Option.some_inj]

theorem readRequest_inverts : Inverts readRequest fun request => Layout.cat request.layout := by
  have h : Reads readRequest (fun _ => True) ServerSwitcherQueuedFrameHandoffRequest.layout
      fun _ => True := by
    refine Inverts.reads_bind ServerSwitcherQueuedFrameHandoffRequest.handoffVersion
      readU32_inverts fun _ => ?_
    refine Inverts.reads_bind ServerSwitcherQueuedFrameHandoffRequest.requestId readU64_inverts fun _ => ?_
    refine Inverts.reads_bind ServerSwitcherQueuedFrameHandoffRequest.clientId
      readString_inverts fun _ => ?_
    refine Inverts.reads_bind ServerSwitcherQueuedFrameHandoffRequest.runId readString_inverts fun _ => ?_
    refine Inverts.reads_bind ServerSwitcherQueuedFrameHandoffRequest.readMode
      readReadMode_inverts fun _ => ?_
    exact reads_pure fun request => by cases request; simp; tauto
  exact h.inverts fun _ _ => (and_iff_right trivial).symm

theorem readFlag_readsBack (value : Bool) : ReadsBack readFlag [boolLayout value] value := by
  refine (readU8_inverts.readsBack (boolByte value)).bind ?_
  have hflag : (boolByte value != 0) = value := by
    cases value <;> rfl
  rw [hflag]
  exact readsBack_pure value

/-- The id is written as zero when there is none, and the flag tells the two apart. -/
theorem retainedKeyframeFrameId_eq {available : Bool} {frameId : Option UInt64}
    (h : available = frameId.isSome) : (if available then some (frameId.getD 0) else none) = frameId := by
  subst h
  cases frameId <;> rfl

theorem readFrameRead_readsBack {available : Bool} {frameId : Option UInt64}
    (h : available = frameId.isSome) (requestId : UInt64) (remainingClientQueueLen : UInt32)
    (decodableSource : ServerSwitcherQueuedFrameDecodableSource)
    (frame : ServerSwitcherQueuedFrameHandoffFrame) :
    ReadsBack (readFrameRead requestId)
      (u32Layout remainingClientQueueLen :: byteLayout decodableSource.wireCode :: boolLayout available ::
        u64Layout (frameId.getD 0) :: frame.layout)
      (.frameRead requestId remainingClientQueueLen decodableSource available frameId frame) := by
  refine (readU32_inverts.readsBack _).bind ?_
  refine (readDecodableSource_inverts.readsBack _).bind ?_
  refine (readFlag_readsBack _).bind ?_
  refine (readU64_inverts.readsBack _).bind ?_
  refine (readString_inverts.readsBack _).bind ?_
  refine (readString_inverts.readsBack _).bind ?_
  refine (readU64_inverts.readsBack _).bind ?_
  refine (readU64_inverts.readsBack _).bind ?_
  refine (readU64_inverts.readsBack _).bind ?_
  refine (readU64_inverts.readsBack _).bind ?_
  refine (readU32_inverts.readsBack _).bind ?_
  refine (readU32_inverts.readsBack _).bind ?_
  refine (readU32_inverts.readsBack _).bind ?_
  refine (readFlag_readsBack _).bind ?_
  refine (readCodec_inverts.readsBack _).bind ?_
  refine (readU32_inverts.readsBack _).bind ?_
  refine ((readBytes_inverts _).readsBack _).bind ?_
  rw [retainedKeyframeFrameId_eq h]
  exact readsBack_pure _

theorem readNoFrame_readsBack {available : Bool} {frameId : Option UInt64}
    (h : available = frameId.isSome) (requestId : UInt64) (clientId : ClientId) (runId : RunId)
    (readMode : ServerSwitcherQueuedFrameReadMode) (clientQueueLen : UInt32)
    (reason : ServerSwitcherQueuedFrameNoFrameReason)
    (decodableSource : ServerSwitcherQueuedFrameDecodableSource) :
    ReadsBack (readNoFrame requestId)
      [u32Layout clientQueueLen, byteLayout reason.wireCode, byteLayout decodableSource.wireCode,
        boolLayout available, u64Layout (frameId.getD 0), stringLayout clientId, stringLayout runId,
        byteLayout readMode.wireCode]
      (.noFrame requestId clientId runId readMode clientQueueLen reason decodableSource available
        frameId) := by
  refine (readU32_inverts.readsBack _).bind ?_
  refine (readNoFrameReason_inverts.readsBack _).bind ?_
  refine (readDecodableSource_inverts.readsBack _).bind ?_
  refine (readFlag_readsBack _).bind ?_
  refine (readU64_inverts.readsBack _).bind ?_
  refine (readString_inverts.readsBack _).bind ?_
  refine (readString_inverts.readsBack _).bind ?_
  refine (readReadMode_inverts.readsBack _).bind ?_
  rw [retainedKeyframeFrameId_eq h]
  exact readsBack_pure _

theorem readResponse_readsBack {response : ServerSwitcherQueuedFrameHandoffResponse}
    (h : response.RetainedAgrees) : ReadsBack readResponse response.layout response := by
  cases response with
  | frameRead requestId remainingClientQueueLen decodableSource available frameId frame =>
    refine (readU64_inverts.readsBack _).bind ?_
    refine (readU8_inverts.readsBack _).bind ?_
    exact readFrameRead_readsBack h requestId remainingClientQueueLen decodableSource frame
  | noFrame requestId clientId runId readMode clientQueueLen reason decodableSource available frameId =>
    refine (readU64_inverts.readsBack _).bind ?_
    refine (readU8_inverts.readsBack _).bind ?_
    exact readNoFrame_readsBack h requestId clientId runId readMode clientQueueLen reason decodableSource
  | handoffError requestId error =>
    refine (readU64_inverts.readsBack _).bind ?_
    refine (readU8_inverts.readsBack _).bind ?_
    refine (readErrorCode_inverts.readsBack _).bind ?_
    exact readsBack_pure _

end HandoffReader

/-- A frame is four bytes that declare the length of the body behind them. -/
theorem frameBody_eq_ok_iff {body framed : List UInt8} : frameBody body = .ok framed ↔
    ∃ declared, declared.length = handoffLengthPrefixLen ∧ (u32FromLe declared).toNat = body.length ∧
      framed = declared ++ body := by
  unfold frameBody handoffLengthPrefixLen
  constructor
  · intro h
    split at h
    next hlength =>
      cases Except.ok.inj h
      refine ⟨_, length_u32ToLe _, ?_, rfl⟩
      rw [u32FromLe_u32ToLe, UInt32.toNat_ofNat']
      omega
    next => cases h
  · rintro ⟨declared, hfour, hlength, rfl⟩
    have hbound := (u32FromLe declared).toNat_lt
    have hdeclared : u32ToLe (UInt32.ofNat body.length) = declared := by
      rw [← hlength, UInt32.ofNat_toNat]
      exact (u32FromLe_eq_iff hfour).mp rfl
    rw [if_pos (by omega), hdeclared]

theorem decodeFramedBody_eq_ok_iff {body framed : List UInt8} :
    decodeFramedBody framed = .ok body ↔ frameBody body = .ok framed := by
  rw [frameBody_eq_ok_iff]
  constructor
  · intro h
    unfold decodeFramedBody at h
    dsimp only at h
    split at h
    next => cases h
    next hprefix =>
      split at h
      next => cases h
      next hlong =>
        split at h
        next => cases h
        next hshort =>
          cases Except.ok.inj h
          refine ⟨framed.take handoffLengthPrefixLen, ?_, ?_, (List.take_append_drop _ _).symm⟩
          · rw [List.length_take]
            omega
          · rw [List.length_drop]
            omega
  · rintro ⟨declared, hfour, hlength, rfl⟩
    simp only [decodeFramedBody, List.take_left' hfour, List.drop_left' hfour, hlength, List.length_append,
      hfour]
    rw [if_neg (by omega), if_neg (by omega), if_neg (by omega)]

theorem decodeRequestFrame_eq_ok_iff {request : ServerSwitcherQueuedFrameHandoffRequest}
    {frame : List UInt8} : decodeRequestFrame frame = .ok request ↔ encodeRequestFrame request = .ok frame := by
  have hwrite := @Appends.output_eq _ _ _ (encodeRequestBody_appends request)
  have hread := fun body => @Inverts.run_start _ _ _ _ readRequest_inverts
    (fun offset total => .trailingBytes (total - offset)) body request
  constructor
  · intro h
    obtain ⟨body, hframe, hbody⟩ := bind_eq_ok_iff.mp h
    have hlayout := (hread body).mp hbody
    exact bind_eq_ok_iff.mpr ⟨((), body), hwrite.mpr hlayout, decodeFramedBody_eq_ok_iff.mp hframe⟩
  · intro h
    obtain ⟨⟨_, body⟩, hbody, hframe⟩ := bind_eq_ok_iff.mp h
    have hlayout := hwrite.mp hbody
    exact bind_eq_ok_iff.mpr ⟨body, decodeFramedBody_eq_ok_iff.mpr hframe, (hread body).mpr hlayout⟩

theorem decodeResponseFrame_of_encode {response : ServerSwitcherQueuedFrameHandoffResponse}
    {frame : List UInt8} (hagrees : response.RetainedAgrees)
    (h : encodeResponseFrame response = .ok frame) : decodeResponseFrame frame = .ok response := by
  obtain ⟨⟨_, body⟩, hbody, hframe⟩ := bind_eq_ok_iff.mp h
  have hlayout := (encodeResponseBody_appends response).output_eq.mp hbody
  have hread := (readResponse_readsBack hagrees).run_start
    (fun offset total => .trailingBytes (total - offset)) hlayout
  exact bind_eq_ok_iff.mpr ⟨body, decodeFramedBody_eq_ok_iff.mpr hframe, hread⟩

/-- Whatever the handoff codec encodes, it decodes to the same request or response. -/
theorem handoffCodec_roundTrip :
    (∀ (request : ServerSwitcherQueuedFrameHandoffRequest) (frame : List UInt8),
      encodeRequestFrame request = .ok frame → decodeRequestFrame frame = .ok request) ∧
    ∀ (response : ServerSwitcherQueuedFrameHandoffResponse) (frame : List UInt8),
      response.RetainedAgrees → encodeResponseFrame response = .ok frame →
        decodeResponseFrame frame = .ok response := by
  constructor
  · intro request frame h
    exact decodeRequestFrame_eq_ok_iff.mpr h
  · intro response frame hagrees h
    exact decodeResponseFrame_of_encode hagrees h

/-- A keyframe read from the retained map: the queue itself is empty. -/
def retainedKeyframeResponse : ServerSwitcherQueuedFrameHandoffResponse :=
  .frameRead 7 0 .retainedKeyframe true (some 9)
    { clientId := "cam", runId := "run", frameId := 9, captureTimestamp := 100, sendTimestamp := 110
      queuedAt := 120, width := 640, height := 360, fpsNominal := 30, isKeyframe := true, codec := .h264
      encodedPayloadLen := 3, encodedPayload := [1, 2, 3] }

theorem handoffCodec_roundTrip_retainedKeyframe :
    ∃ frame, encodeResponseFrame retainedKeyframeResponse = .ok frame ∧ frame.length = 91 ∧
      decodeResponseFrame frame = .ok retainedKeyframeResponse := by
  have hlength : (encodeResponseFrame retainedKeyframeResponse).map List.length = .ok 91 := by decide +kernel
  cases hencoded : encodeResponseFrame retainedKeyframeResponse with
  | error error =>
    rw [hencoded] at hlength
    cases hlength
  | ok frame =>
    rw [hencoded] at hlength
    exact ⟨frame, rfl, Except.ok.inj hlength, handoffCodec_roundTrip.2 _ frame rfl hencoded⟩

example : encodeResponseFrame (.handoffError 7 .invalidScope) =
    .ok [10, 0, 0, 0, 7, 0, 0, 0, 0, 0, 0, 0, 3, 3] := by
  decide +kernel

end StreamSync
