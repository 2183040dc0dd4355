import StreamSync.ProtocolInverse

namespace StreamSync

open ByteCursor

section Encoders

theorem writeString_appends (value : String) : Appends (writeString value) [stringLayout value] := by
  unfold writeString stringLayout
  split
  next h =>
    refine ((extend_appends _).seq (extend_appends _)).congr ?_
    simp
  next h => exact throw_appends _ (by simp)

theorem writeOptionalString_appends (value : Option String) :
    Appends (writeOptionalString value) [optionalLayout stringLayout value] := by
  cases value with
  | none => exact extend_appends [0]
  | some value =>
    refine ((extend_appends [1]).seq (writeString_appends value)).congr ?_
    simp [optionalLayout, Option.map_eq_bind]

theorem writeOptionalU64_appends (value : Option UInt64) :
    Appends (writeOptionalU64 value) [optionalLayout u64Layout value] := by
  cases value with
  | none => exact extend_appends [0]
  | some value => exact ((extend_appends [1]).seq (extend_appends (u64ToLe value))).congr (by
      simp [optionalLayout, u64Layout])

theorem writeOptionalProtocolVersion_appends (value : Option ProtocolVersion) :
    Appends (writeOptionalProtocolVersion value) [optionalLayout u32Layout value] := by
  cases value with
  | none => exact extend_appends [0]
  | some value => exact ((extend_appends [1]).seq (extend_appends (u32ToLe value))).congr (by
      simp [optionalLayout, u32Layout])

theorem writeHeartbeatObservation_appends (observation : Option HeartbeatAckObservation) :
    Appends (writeHeartbeatObservation observation)
      [optionalLayout observationFieldsLayout observation] := by
  cases observation with
  | none => exact extend_appends [0]
  | some o =>
    refine ((extend_appends [1]).seq ((extend_appends _).seq ((extend_appends _).seq
      ((extend_appends _).seq (extend_appends _))))).congr ?_
    simp [optionalLayout, observationFieldsLayout]

theorem encodeAuthRequestPayload_appends (r : AuthRequest) :
    Appends (encodeAuthRequestPayload r) r.layout :=
  (writeString_appends _).seq <| (writeString_appends _).seq <| (writeString_appends _).seq <|
    (writeString_appends _).seq <| writeOptionalString_appends _

theorem encodeAuthResponsePayload_appends (r : AuthResponse) :
    Appends (encodeAuthResponsePayload r) r.layout :=
  (writeString_appends _).seq <| (writeString_appends _).seq <| (extend_appends _).seq <|
    (extend_appends _).seq <| (writeOptionalString_appends _).seq <|
    (writeOptionalU64_appends _).seq <| writeOptionalProtocolVersion_appends _

theorem encodeHeartbeatPayload_appends (h : Heartbeat) :
    Appends (encodeHeartbeatPayload h) h.layout :=
  (writeString_appends _).seq <| (writeString_appends _).seq <| (extend_appends _).seq <|
    (writeOptionalU64_appends _).seq <| writeOptionalString_appends _

theorem encodeHeartbeatAckPayload_appends (a : HeartbeatAck) :
    Appends (encodeHeartbeatAckPayload a) a.layout :=
  (writeString_appends _).seq <| (writeString_appends _).seq <| (extend_appends _).seq <|
    (extend_appends _).seq <| extend_appends _

theorem encodeClientStatsPayload_appends (s : ClientStats) :
    Appends (encodeClientStatsPayload s) s.layout :=
  (writeString_appends _).seq <| (writeString_appends _).seq <| (extend_appends _).seq <|
    (extend_appends _).seq <| (extend_appends _).seq <| (extend_appends _).seq <|
    writeHeartbeatObservation_appends _

theorem encodeServerNoticePayload_appends (n : ServerNotice) :
    Appends (encodeServerNoticePayload n) n.layout :=
  (writeString_appends _).seq <| (extend_appends _).seq <| writeString_appends _

theorem checkedPayloadSize_eq (declared : Nat) (payload : List UInt8) :
    (checkedPayloadSize declared payload = .ok (UInt32.ofNat payload.length) ∧
        declared = payload.length ∧ payload.length < 2 ^ 32) ∨
      ((∃ e, checkedPayloadSize declared payload = .error e) ∧
        sizedPayloadLayout (declared, payload) = none) := by
  unfold checkedPayloadSize sizedPayloadLayout
  by_cases hl : payload.length < 2 ^ 32
  · rw [tryU32Len, if_pos hl]
    by_cases hd : declared = payload.length
    · exact .inl ⟨if_neg (not_not.mpr hd), hd, hl⟩
    · exact .inr ⟨⟨_, if_pos hd⟩, if_neg fun h => hd h.1⟩
  · rw [tryU32Len, if_neg hl]
    exact .inr ⟨⟨_, rfl⟩, if_neg fun h => hl h.2⟩

/-- A writer that checks the declared payload size before it starts. -/
theorem checkedPayloadSize_appends {declared : Nat} {payload : List UInt8}
    {w : UInt32 → PayloadWriter} {ls : List Layout}
    (hmem : sizedPayloadLayout (declared, payload) ∈ ls)
    (hw : declared = payload.length → payload.length < 2 ^ 32 →
      Appends (w (UInt32.ofNat payload.length)) ls) :
    Appends (liftM (checkedPayloadSize declared payload) >>= w) ls := by
  rcases checkedPayloadSize_eq declared payload with ⟨h, hd, hl⟩ | ⟨⟨e, h⟩, hnone⟩
  · rw [h]
    exact hw hd hl
  · rw [h]
    exact throw_appends e (hnone ▸ hmem)

theorem sizedPayload_appends {payload : List UInt8} (hl : payload.length < 2 ^ 32) :
    Appends (do
      extend (u32ToLe (UInt32.ofNat payload.length))
      extend payload : PayloadWriter) [sizedPayloadLayout (payload.length, payload)] := by
  refine ((extend_appends _).seq (extend_appends _)).congr ?_
  rw [sizedPayloadLayout, if_pos ⟨rfl, hl⟩]
  simp

theorem encodeVideoFramePayload_appends (f : VideoFrame) :
    Appends (encodeVideoFramePayload f) f.layout := by
  unfold encodeVideoFramePayload
  split
  next h => exact throw_appends _ (by simp [VideoFrame.layout, metadataReservedLayout, h])
  next h =>
    refine checkedPayloadSize_appends (by simp [VideoFrame.layout]) fun hd hl => ?_
    have hr : metadataReservedLayout f.metadataReserved = some f.metadataReserved.toList := by
      simp_all [metadataReservedLayout]
    rw [VideoFrame.layout, hr, hd]
    exact (writeString_appends _).seq <| (writeString_appends _).seq <| (extend_appends _).seq <|
      (extend_appends _).seq <| (extend_appends _).seq <| (extend_appends _).seq <|
      (extend_appends _).seq <| (extend_appends _).seq <| (extend_appends _).seq <|
      (extend_appends _).seq <| (extend_appends _).seq <| sizedPayload_appends hl

theorem encodeVideoFrameFragmentPayload_appends (f : VideoFrameFragment) :
    Appends (encodeVideoFrameFragmentPayload f) f.layout := by
  refine checkedPayloadSize_appends (by simp [VideoFrameFragment.layout]) fun hd hl => ?_
  rw [VideoFrameFragment.layout, hd]
  exact (writeString_appends _).seq <| (writeString_appends _).seq <| (extend_appends _).seq <|
    (extend_appends _).seq <| (extend_appends _).seq <| (extend_appends _).seq <|
    (extend_appends _).seq <| (extend_appends _).seq <| (extend_appends _).seq <|
    (extend_appends _).seq <| (extend_appends _).seq <| sizedPayload_appends hl

end Encoders

theorem encodePacketWith_eq_ok_iff {t : MessageType} {w : PayloadWriter} {ls : List Layout}
    (hw : Appends w ls) {context : EncodeContext} {output packet : List UInt8} :
    encodePacketWith t w context output = .ok packet ↔
      ∃ payload, Layout.cat ls = some payload ∧ payload.length < 2 ^ 32 ∧
        packet = encodeFixedHeader t context.protocolVersion (UInt32.ofNat payload.length) output ++
          payload := by
  have hout := fun payload => @Appends.output_eq _ _ _ hw payload
  unfold encodePacketWith
  change (w [] >>= fun x => tryU32Len x.2.length >>= fun n => _) = _ ↔ _
  cases hrun : w [] with
  | error e =>
    refine iff_of_false (fun he => by cases he) ?_
    rintro ⟨payload, hp, -⟩
    rw [← hout, hrun] at hp
    cases hp
  | ok x =>
    obtain ⟨⟨⟩, payload⟩ := x
    simp only [← hout, hrun]
    by_cases hl : payload.length < 2 ^ 32
    · have ht : tryU32Len payload.length = .ok (UInt32.ofNat payload.length) := if_pos hl
      simp only [bind, Except.bind, ht, Except.ok.injEq, Prod.mk.injEq, true_and, exists_eq_left', hl]
      exact eq_comm
    · have ht : tryU32Len payload.length = .error _ := if_neg hl
      simp only [bind, Except.bind, ht, Except.ok.injEq, Prod.mk.injEq, true_and, exists_eq_left', hl,
        false_and, reduceCtorEq]

theorem encodeMessage_eq_ok_iff {context : EncodeContext} {m : ProtocolMessage}
    {output packet : List UInt8} :
    encodeMessage context m output = .ok packet ↔
      ∃ payload, Layout.cat m.layout = some payload ∧ payload.length < 2 ^ 32 ∧
        packet = encodeFixedHeader m.messageType context.protocolVersion
          (UInt32.ofNat payload.length) output ++ payload := by
  cases m with
  | authRequest r => exact encodePacketWith_eq_ok_iff (encodeAuthRequestPayload_appends r)
  | authResponse r => exact encodePacketWith_eq_ok_iff (encodeAuthResponsePayload_appends r)
  | heartbeat h => exact encodePacketWith_eq_ok_iff (encodeHeartbeatPayload_appends h)
  | heartbeatAck a => exact encodePacketWith_eq_ok_iff (encodeHeartbeatAckPayload_appends a)
  | videoFrame f => exact encodePacketWith_eq_ok_iff (encodeVideoFramePayload_appends f)
  | videoFrameFragment f => exact encodePacketWith_eq_ok_iff (encodeVideoFrameFragmentPayload_appends f)
  | clientStats s => exact encodePacketWith_eq_ok_iff (encodeClientStatsPayload_appends s)
  | serverNotice n => exact encodePacketWith_eq_ok_iff (encodeServerNoticePayload_appends n)

theorem map_eq_ok_iff {α β : Type} {x : Except ProtocolError α} {f : α → β} {b : β} :
    x.map f = .ok b ↔ ∃ a, x = .ok a ∧ f a = b := by
  cases x with
  | error e => simp [Except.map]
  | ok a => simp [Except.map]

theorem decodePayloadByMessageType_messageType {context : DecodeContext} {header : FixedHeader}
    {payload : List UInt8} {m : ProtocolMessage}
    (h : decodePayloadByMessageType context header payload = .ok m) :
    m.messageType = header.messageType := by
  unfold decodePayloadByMessageType at h
  split at h <;>
  next ht =>
    obtain ⟨_, -, rfl⟩ := map_eq_ok_iff.mp h
    exact ht.symm

theorem decodePayloadByMessageType_eq_ok_iff {context : DecodeContext} {header : FixedHeader}
    {payload : List UInt8} {m : ProtocolMessage} :
    decodePayloadByMessageType context header payload = .ok m ↔
      header.messageType = m.messageType ∧ payload.length = header.payloadLength.toNat ∧
        m.normalize header.protocolVersion = m ∧ Layout.cat m.layout = some payload := by
  by_cases ht : header.messageType = m.messageType
  · cases m <;>
      simp only [ProtocolMessage.messageType] at ht <;>
      simp only [decodePayloadByMessageType, ht, map_eq_ok_iff, ProtocolMessage.normalize,
        ProtocolMessage.layout, ProtocolMessage.messageType, true_and, exists_eq_right,
        ProtocolMessage.authRequest.injEq, ProtocolMessage.authResponse.injEq,
        ProtocolMessage.heartbeat.injEq, ProtocolMessage.heartbeatAck.injEq,
        ProtocolMessage.videoFrame.injEq, ProtocolMessage.videoFrameFragment.injEq,
        ProtocolMessage.clientStats.injEq, ProtocolMessage.serverNotice.injEq,
        decodeAuthRequestPayload_decodesAs header payload _,
        decodeAuthResponsePayload_decodesAs header payload _,
        decodeHeartbeatPayload_decodesAs header payload _,
        decodeHeartbeatAckPayload_decodesAs header payload _,
        decodeVideoFramePayload_decodesAs header payload _,
        decodeVideoFrameFragmentPayload_decodesAs header payload _,
        decodeClientStatsPayload_decodesAs header payload _,
        decodeServerNoticePayload_decodesAs header payload _]
  · exact iff_of_false (fun h => ht (decodePayloadByMessageType_messageType h).symm) fun h => ht h.1

/-- The sixteen bytes a header stands for. -/
def FixedHeader.bytes (h : FixedHeader) : List UInt8 :=
  u16ToLe h.messageType.wireCode ++ (u16ToLe h.headerLength ++ (u32ToLe h.protocolVersion ++
    (u32ToLe h.payloadLength ++ (u16ToLe h.flags ++ u16ToLe h.reserved))))

@[simp] theorem FixedHeader.length_bytes (h : FixedHeader) : h.bytes.length = 16 := by
  simp [FixedHeader.bytes]

theorem u16ToLe_readU16Le {packet : List UInt8} {offset : Nat} (h : offset + 2 ≤ packet.length) :
    u16ToLe (readU16Le packet offset) = (packet.drop offset).take 2 := by
  refine (u16FromLe_eq_iff ?_).mp rfl
  rw [List.length_take, List.length_drop]
  omega

theorem u32ToLe_readU32Le {packet : List UInt8} {offset : Nat} (h : offset + 4 ≤ packet.length) :
    u32ToLe (readU32Le packet offset) = (packet.drop offset).take 4 := by
  refine (u32FromLe_eq_iff ?_).mp rfl
  rw [List.length_take, List.length_drop]
  omega

/-- Six consecutive slices and what follows them make up the packet. -/
theorem header_slices (packet : List UInt8) :
    packet.take 2 ++ ((packet.drop 2).take 2 ++ ((packet.drop 4).take 4 ++ ((packet.drop 8).take 4 ++
      ((packet.drop 12).take 2 ++ ((packet.drop 14).take 2 ++ packet.drop 16))))) = packet := by
  have hs : ∀ n k, (packet.drop n).take k ++ packet.drop (n + k) = packet.drop n := fun n k => by
    rw [← List.drop_drop, List.take_append_drop]
  rw [hs 14 2, hs 12 2, hs 8 4, hs 4 4, hs 2 2, List.take_append_drop]

theorem decodeFixedHeader_eq_ok_iff {packet : List UInt8} {view : PacketView} :
    decodeFixedHeader packet = .ok view ↔
      packet = view.header.bytes ++ view.payload ∧ view.header.headerLength = fixedHeaderLen ∧
        view.payload.length = view.header.payloadLength.toNat := by
  constructor
  · intro h
    unfold decodeFixedHeader at h
    split at h
    next => cases h
    next hlen =>
      change ¬packet.length < 16 at hlen
      cases ht : MessageType.tryFrom (readU16Le packet 0) with
      | error e => rw [ht] at h; cases h
      | ok t =>
        simp only [ht, bind, Except.bind] at h
        split at h
        next => cases h
        next hhead =>
          split at h
          next => cases h
          next hexact =>
            cases h
            refine ⟨?_, not_not.mp hhead, ?_⟩
            · simp only [FixedHeader.bytes, MessageType.tryFrom_eq_ok_iff.mp ht, List.append_assoc]
              rw [u16ToLe_readU16Le (by omega), u16ToLe_readU16Le (by omega),
                u32ToLe_readU32Le (by omega), u32ToLe_readU32Le (by omega),
                u16ToLe_readU16Le (by omega), u16ToLe_readU16Le (by omega)]
              exact (header_slices packet).symm
            · simp only [List.length_drop]
              have := not_not.mp hexact
              omega
  · obtain ⟨⟨t, headerLength, version, payloadLength, flags, reserved⟩, payload⟩ := view
    rintro ⟨rfl, hhead, hexact⟩
    simp only at hhead hexact
    subst hhead
    set packet := FixedHeader.bytes ⟨t, fixedHeaderLen, version, payloadLength, flags, reserved⟩ ++ payload
    have hlen : packet.length = 16 + payload.length := by
      rw [List.length_append, FixedHeader.length_bytes]
    have h0 : readU16Le packet 0 = t.wireCode := u16FromLe_u16ToLe t.wireCode
    have h2 : readU16Le packet 2 = fixedHeaderLen := u16FromLe_u16ToLe fixedHeaderLen
    have h4 : readU32Le packet 4 = version := u32FromLe_u32ToLe version
    have h8 : readU32Le packet 8 = payloadLength := u32FromLe_u32ToLe payloadLength
    have h12 : readU16Le packet 12 = flags := u16FromLe_u16ToLe flags
    have h14 : readU16Le packet 14 = reserved := u16FromLe_u16ToLe reserved
    have hlong : ¬packet.length < fixedHeaderLen.toNat := by
      change ¬packet.length < 16
      omega
    have hexact' : packet.length = fixedHeaderLen.toNat + payloadLength.toNat := by
      change packet.length = 16 + payloadLength.toNat
      omega
    have hrest : packet.drop fixedHeaderLen.toNat = payload := rfl
    rw [decodeFixedHeader, if_neg hlong, h0, MessageType.tryFrom_eq_ok_iff.mpr rfl]
    simp only [bind, Except.bind, h2, h4, h8, h12, h14, ne_eq, not_true_eq_false, if_false, hexact',
      hrest]

theorem decodePacket_eq_ok_iff {context : DecodeContext} {packet : List UInt8} {m : ProtocolMessage} :
    decodePacket context packet = .ok m ↔
      ∃ view, decodeFixedHeader packet = .ok view ∧
        validateProtocolVersion context view.header = .ok () ∧
        decodePayloadByMessageType context view.header view.payload = .ok m := by
  unfold decodePacket
  cases decodeFixedHeader packet with
  | error e => simp [bind, Except.bind]
  | ok view =>
    cases hv : validateProtocolVersion context view.header with
    | error e => simp [bind, Except.bind, hv]
    | ok u => simp [bind, Except.bind, hv]

theorem validateProtocolVersion_eq_ok_iff {context : DecodeContext} {header : FixedHeader} :
    validateProtocolVersion context header = .ok () ↔
      header.protocolVersion = context.expectedProtocolVersion := by
  unfold validateProtocolVersion
  split <;> simp_all

@[simp] theorem ProtocolMessage.messageType_normalize (v : ProtocolVersion) (m : ProtocolMessage) :
    (m.normalize v).messageType = m.messageType := by
  cases m <;> rfl

theorem ProtocolMessage.cat_layout_normalize (v : ProtocolVersion) (m : ProtocolMessage) :
    Layout.cat (m.normalize v).layout = Layout.cat m.layout := by
  cases m with
  | clientStats s =>
    obtain ⟨_, _, _, _, _, _, _, _, o⟩ := s
    cases o <;> rfl
  | _ => rfl

theorem ProtocolMessage.normalize_normalize (v : ProtocolVersion) (m : ProtocolMessage) :
    (m.normalize v).normalize v = m.normalize v := by
  cases m with
  | clientStats s =>
    obtain ⟨_, _, _, _, _, _, _, _, o⟩ := s
    cases o <;> rfl
  | _ => rfl

theorem encodeFixedHeader_eq_bytes (t : MessageType) (v : ProtocolVersion) (n : UInt32) :
    encodeFixedHeader t v n [] = FixedHeader.bytes ⟨t, fixedHeaderLen, v, n, 0, 0⟩ := rfl

theorem toNat_payloadLength {payload : List UInt8} (h : payload.length < 2 ^ 32) :
    payload.length = (UInt32.ofNat payload.length).toNat := by
  rw [UInt32.toNat_ofNat']
  omega

theorem decodePacket_of_encodeMessage {v : ProtocolVersion} {m : ProtocolMessage} {packet : List UInt8}
    (h : encodeMessage ⟨v⟩ m [] = .ok packet) : decodePacket ⟨v⟩ packet = .ok (m.normalize v) := by
  obtain ⟨payload, hcat, hl, rfl⟩ := encodeMessage_eq_ok_iff.mp h
  refine decodePacket_eq_ok_iff.mpr
    ⟨⟨⟨m.messageType, fixedHeaderLen, v, UInt32.ofNat payload.length, 0, 0⟩, payload⟩, ?_, ?_, ?_⟩
  · rw [decodeFixedHeader_eq_ok_iff, encodeFixedHeader_eq_bytes]
    exact ⟨rfl, rfl, toNat_payloadLength hl⟩
  · exact validateProtocolVersion_eq_ok_iff.mpr rfl
  · rw [decodePayloadByMessageType_eq_ok_iff]
    exact ⟨(m.messageType_normalize v).symm, toNat_payloadLength hl, m.normalize_normalize v,
      (m.cat_layout_normalize v).trans hcat⟩

/-- What `encode_message` writes is decoded to the same message, normalized. -/
theorem encodeMessage_decode {v : ProtocolVersion} {m : ProtocolMessage} {packet : List UInt8}
    (h : encodeMessage ⟨v⟩ m [] = .ok packet) :
    ∃ view, decodeFixedHeader packet = .ok view ∧ validateProtocolVersion ⟨v⟩ view.header = .ok () ∧
      decodePayloadByMessageType ⟨v⟩ view.header view.payload = .ok (m.normalize v) :=
  decodePacket_eq_ok_iff.mp (decodePacket_of_encodeMessage h)

def foreignObservationStats : ProtocolMessage := .clientStats {
  messageType := .heartbeat, protocolVersion := 9, clientId := "c", runId := "r", sentAt := 5
  captureFps := 60, droppedFrames := 0, bitrateKbps := 6000
  heartbeatObservation := some ⟨"x", "y", 1, 2, 3, 4⟩ }

theorem encodeMessage_decode_foreignObservation :
    ∃ packet view, encodeMessage ⟨1⟩ foreignObservationStats [] = .ok packet ∧
    decodeFixedHeader packet = .ok view ∧ validateProtocolVersion ⟨1⟩ view.header = .ok () ∧
    decodePayloadByMessageType ⟨1⟩ view.header view.payload = .ok (foreignObservationStats.normalize 1) := by
  obtain ⟨view, hview⟩ := encodeMessage_decode (v := 1) (m := foreignObservationStats) rfl
  exact ⟨_, view, rfl, hview⟩

/-- Every accepted packet is what its message is encoded to, up to flags and reserved, and no two
accepted payloads decode to the same message. -/
theorem decode_encodeMessage {v : ProtocolVersion} {m : ProtocolMessage} {packet : List UInt8}
    {view : PacketView} (hh : decodeFixedHeader packet = .ok view)
    (hv : validateProtocolVersion ⟨v⟩ view.header = .ok ())
    (hm : decodePayloadByMessageType ⟨v⟩ view.header view.payload = .ok m) :
    encodeMessage ⟨v⟩ m [] = .ok (packet.take 12 ++ ([0, 0, 0, 0] ++ packet.drop 16)) ∧
      ∀ packet' view', decodeFixedHeader packet' = .ok view' →
        validateProtocolVersion ⟨v⟩ view'.header = .ok () →
        decodePayloadByMessageType ⟨v⟩ view'.header view'.payload = .ok m →
        view'.payload = view.payload := by
  obtain ⟨rfl, hhead, hlen⟩ := decodeFixedHeader_eq_ok_iff.mp hh
  obtain ⟨ht, -, -, hcat⟩ := decodePayloadByMessageType_eq_ok_iff.mp hm
  have hv := validateProtocolVersion_eq_ok_iff.mp hv
  have hb : view.payload.length < 2 ^ 32 := hlen ▸ view.header.payloadLength.toNat_lt
  have hn : UInt32.ofNat view.payload.length = view.header.payloadLength := by
    rw [hlen, UInt32.ofNat_toNat]
  constructor
  · refine encodeMessage_eq_ok_iff.mpr ⟨view.payload, hcat, hb, ?_⟩
    obtain ⟨⟨t, headerLength, version, payloadLength, flags, reserved⟩, payload⟩ := view
    cases hhead
    cases hv
    rw [← ht, hn]
    rfl
  · intro packet' view' _ _ hm'
    obtain ⟨-, -, -, hcat'⟩ := decodePayloadByMessageType_eq_ok_iff.mp hm'
    exact Option.some.inj (hcat'.symm.trans hcat)

def flaggedNoticePacket : List UInt8 :=
  [7, 0, 16, 0, 1, 0, 0, 0, 9, 0, 0, 0, 7, 0, 3, 0, 1, 0, 114, 1, 0, 2, 0, 104, 105]

theorem decode_encodeMessage_flagged :
    encodeMessage ⟨1⟩ (.serverNotice ⟨.serverNotice, 1, "r", .warning, "hi"⟩) [] =
      .ok (flaggedNoticePacket.take 12 ++ ([0, 0, 0, 0] ++ flaggedNoticePacket.drop 16)) := by
  have hh : decodeFixedHeader flaggedNoticePacket =
      .ok ⟨⟨.serverNotice, 16, 1, 9, 7, 3⟩, flaggedNoticePacket.drop 16⟩ := by decide +kernel
  exact (decode_encodeMessage hh (by decide +kernel) (by decide +kernel)).1

end StreamSync
