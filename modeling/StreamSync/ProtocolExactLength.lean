import StreamSync.ProtocolIndexing
import StreamSync.ProtocolRoundTrip

namespace StreamSync

open ByteCursor PayloadReader

section Fields

theorem string_delimits (a b : String) : (stringLayout a).Delimits (stringLayout b) :=
  readString_inverts.delimits a b

theorem bool_delimits (a b : Bool) : (boolLayout a).Delimits (boolLayout b) :=
  readBool_inverts.delimits a b

theorem u16_delimits (a b : UInt16) : (u16Layout a).Delimits (u16Layout b) :=
  readU16_inverts.delimits a b

theorem u32_delimits (a b : UInt32) : (u32Layout a).Delimits (u32Layout b) :=
  readU32_inverts.delimits a b

theorem u64_delimits (a b : UInt64) : (u64Layout a).Delimits (u64Layout b) :=
  readU64_inverts.delimits a b

theorem optionalString_delimits (a b : Option String) :
    (optionalLayout stringLayout a).Delimits (optionalLayout stringLayout b) :=
  (readOptional_inverts readString_inverts).delimits a b

theorem optionalU64_delimits (a b : Option UInt64) :
    (optionalLayout u64Layout a).Delimits (optionalLayout u64Layout b) :=
  (readOptional_inverts readU64_inverts).delimits a b

theorem optionalU32_delimits (a b : Option UInt32) :
    (optionalLayout u32Layout a).Delimits (optionalLayout u32Layout b) :=
  (readOptional_inverts readU32_inverts).delimits a b

theorem metadataReserved_delimits (a b : Vector UInt8 3) :
    (metadataReservedLayout a).Delimits (metadataReservedLayout b) :=
  readMetadataReserved_inverts.delimits a b

theorem sizedPayload_delimits (a b : Nat × List UInt8) :
    (sizedPayloadLayout a).Delimits (sizedPayloadLayout b) :=
  readSizedPayload_inverts.delimits a b

/-- An observation is written without its ids, so all of them may be taken under the same ones. -/
theorem observation_delimits (a b : Option HeartbeatAckObservation) :
    (optionalLayout observationFieldsLayout a).Delimits (optionalLayout observationFieldsLayout b) := by
  have hids : ∀ o : Option HeartbeatAckObservation, optionalLayout observationFieldsLayout o =
      optionalLayout (heartbeatObservationLayout "" "")
        (o.map fun o => { o with clientId := "", runId := "" }) := by
    intro o
    cases o with
    | none => rfl
    | some o => simp [optionalLayout, heartbeatObservationLayout, observationFieldsLayout]
  rw [hids a, hids b]
  exact (readOptional_inverts (readHeartbeatObservation_inverts "" "")).delimits _ _

end Fields

/-- Two messages of one type are laid out field against field. -/
theorem layout_delimits {m m' : ProtocolMessage} (h : m.messageType = m'.messageType) :
    List.Forall₂ Layout.Delimits m.layout m'.layout := by
  cases m with
  | authRequest a =>
    cases m' with
    | authRequest b =>
      exact
        .cons (string_delimits _ _) <| .cons (string_delimits _ _) <| .cons (string_delimits _ _) <|
        .cons (string_delimits _ _) <| .cons (optionalString_delimits _ _) <| .nil
    | _ => cases h
  | authResponse a =>
    cases m' with
    | authResponse b =>
      exact
        .cons (string_delimits _ _) <| .cons (string_delimits _ _) <| .cons (bool_delimits _ _) <|
        .cons (u16_delimits _ _) <| .cons (optionalString_delimits _ _) <|
        .cons (optionalU64_delimits _ _) <| .cons (optionalU32_delimits _ _) <| .nil
    | _ => cases h
  | heartbeat a =>
    cases m' with
    | heartbeat b =>
      exact
        .cons (string_delimits _ _) <| .cons (string_delimits _ _) <| .cons (u64_delimits _ _) <|
        .cons (optionalU64_delimits _ _) <| .cons (optionalString_delimits _ _) <| .nil
    | _ => cases h
  | heartbeatAck a =>
    cases m' with
    | heartbeatAck b =>
      exact
        .cons (string_delimits _ _) <| .cons (string_delimits _ _) <| .cons (u64_delimits _ _) <|
        .cons (u64_delimits _ _) <| .cons (u64_delimits _ _) <| .nil
    | _ => cases h
  | videoFrame a =>
    cases m' with
    | videoFrame b =>
      exact
        .cons (string_delimits _ _) <| .cons (string_delimits _ _) <| .cons (u64_delimits _ _) <|
        .cons (u64_delimits _ _) <| .cons (u64_delimits _ _) <| .cons (bool_delimits _ _) <|
        .cons (metadataReserved_delimits _ _) <| .cons (u32_delimits _ _) <|
        .cons (u32_delimits _ _) <| .cons (u32_delimits _ _) <| .cons (u16_delimits _ _) <|
        .cons (sizedPayload_delimits _ _) <| .nil
    | _ => cases h
  | videoFrameFragment a =>
    cases m' with
    | videoFrameFragment b =>
      exact
        .cons (string_delimits _ _) <| .cons (string_delimits _ _) <| .cons (u64_delimits _ _) <|
        .cons (u64_delimits _ _) <| .cons (bool_delimits _ _) <| .cons (u32_delimits _ _) <|
        .cons (u32_delimits _ _) <| .cons (u32_delimits _ _) <| .cons (u32_delimits _ _) <|
        .cons (u32_delimits _ _) <| .cons (u32_delimits _ _) <| .cons (sizedPayload_delimits _ _) <|
      .nil
    | _ => cases h
  | clientStats a =>
    cases m' with
    | clientStats b =>
      exact
        .cons (string_delimits _ _) <| .cons (string_delimits _ _) <| .cons (u64_delimits _ _) <|
        .cons (u32_delimits _ _) <| .cons (u64_delimits _ _) <| .cons (u32_delimits _ _) <|
        .cons (observation_delimits _ _) <| .nil
    | _ => cases h
  | serverNotice a =>
    cases m' with
    | serverNotice b =>
      exact
        .cons (string_delimits _ _) <| .cons (u16_delimits _ _) <| .cons (string_delimits _ _) <|
      .nil
    | _ => cases h

section Fields

open RawPayloadReader

/-- The fields that a payload of the header's message type has. -/
def messageFields (header : FixedHeader) : RawPayloadReader ProtocolMessage :=
  match header.messageType with
  | .authRequest => authRequestFields header >>= fun a => pure (.authRequest a)
  | .authResponse => authResponseFields header >>= fun a => pure (.authResponse a)
  | .heartbeat => heartbeatFields header >>= fun a => pure (.heartbeat a)
  | .heartbeatAck => heartbeatAckFields header >>= fun a => pure (.heartbeatAck a)
  | .videoFrame => videoFrameFields header >>= fun a => pure (.videoFrame a)
  | .videoFrameFragment => videoFrameFragmentFields header >>= fun a => pure (.videoFrameFragment a)
  | .clientStats => clientStatsFields header >>= fun a => pure (.clientStats a)
  | .serverNotice => serverNoticeFields header >>= fun a => pure (.serverNotice a)

theorem rawDecodePayloadWith_map {α β : Type} (messageType : MessageType) (header : FixedHeader)
    (payload : List UInt8) (fields : RawPayloadReader α) (g : α → β) :
    (rawDecodePayloadWith messageType header payload fields).map (fun result => result.map g) =
      rawDecodePayloadWith messageType header payload (fields >>= fun a => pure (g a)) := by
  unfold rawDecodePayloadWith
  split
  next => rfl
  next =>
    split
    next => rfl
    next => exact (RawReader.decode_map fields g payload).symm

theorem rawDecodePayloadByMessageType_fields (context : DecodeContext) (header : FixedHeader)
    (payload : List UInt8) : rawDecodePayloadByMessageType context header payload =
      rawDecodePayloadWith header.messageType header payload (messageFields header) := by
  unfold rawDecodePayloadByMessageType messageFields
  cases header.messageType <;> exact rawDecodePayloadWith_map _ header payload _ _

/-- Every payload reader ends with the check that nothing is left. -/
theorem messageFields_usesUp (header : FixedHeader) : UsesUp (messageFields header) := by
  unfold messageFields
  cases header.messageType with
  | authRequest => exact UsesUp.map (
      .bind fun _ => .bind fun _ => .bind fun _ => .bind fun _ => .bind fun _ => usesUp_finish _ _) _
  | authResponse => exact UsesUp.map (
      .bind fun _ => .bind fun _ => .bind fun _ => .bind fun _ => .bind fun _ => .bind fun _ =>
      .bind fun _ => usesUp_finish _ _) _
  | heartbeat => exact UsesUp.map (
      .bind fun _ => .bind fun _ => .bind fun _ => .bind fun _ => .bind fun _ => usesUp_finish _ _) _
  | heartbeatAck => exact UsesUp.map (
      .bind fun _ => .bind fun _ => .bind fun _ => .bind fun _ => .bind fun _ => usesUp_finish _ _) _
  | videoFrame => exact UsesUp.map (
      .bind fun _ => .bind fun _ => .bind fun _ => .bind fun _ => .bind fun _ => .bind fun _ =>
      .bind fun _ => .bind fun _ => .bind fun _ => .bind fun _ => .bind fun _ => .bind fun _ => usesUp_finish _ _) _
  | videoFrameFragment => exact UsesUp.map (
      .bind fun _ => .bind fun _ => .bind fun _ => .bind fun _ => .bind fun _ => .bind fun _ =>
      .bind fun _ => .bind fun _ => .bind fun _ => .bind fun _ => .bind fun _ => .bind fun _ => usesUp_finish _ _) _
  | clientStats => exact UsesUp.map (
      .bind fun _ => .bind fun _ => .bind fun _ => .bind fun _ => .bind fun _ => .bind fun _ =>
      .bind fun _ => usesUp_finish _ _) _
  | serverNotice => exact UsesUp.map (
      .bind fun _ => .bind fun _ => .bind fun _ => usesUp_finish _ _) _

end Fields

/-- The reader of an accepted payload stops at its end, and the message's fields make up the payload. -/
theorem accepted_payload {context : DecodeContext} {header : FixedHeader} {payload : List UInt8}
    {m : ProtocolMessage} (h : rawDecodePayloadByMessageType context header payload = some (.ok m)) :
    (((messageFields header).run payload).run 0).run = some (.ok (m, payload.length)) ∧
      Layout.cat m.layout = some payload ∧ m.messageType = header.messageType := by
  have hbounded : decodePayloadByMessageType context header payload = .ok m := by
    rw [rawDecodePayloadByMessageType_eq] at h
    exact Option.some.inj h
  obtain ⟨htype, hlength, -, hlayout⟩ := decodePayloadByMessageType_eq_ok_iff.mp hbounded
  refine ⟨?_, hlayout, htype.symm⟩
  rw [rawDecodePayloadByMessageType_fields, rawDecodePayloadWith, if_neg (not_not.mpr rfl),
    if_neg (not_not.mpr hlength)] at h
  obtain ⟨result, hrun, hresult⟩ := Option.map_eq_some_iff.mp h
  obtain ⟨⟨a, offset⟩, rfl, rfl⟩ := map_eq_ok_iff.mp hresult
  rw [hrun, messageFields_usesUp header payload 0 a offset hrun]

/-- A header and the payload it announces are together exactly the accepted packet. -/
theorem accepted_packet {context : DecodeContext} {packet : List UInt8} {m : ProtocolMessage}
    (h : rawDecodePacket context packet = some (.ok m)) : ∃ header payload,
      packet = header.bytes ++ payload ∧ payload.length = header.payloadLength.toNat ∧
        rawDecodePayloadByMessageType context header payload = some (.ok m) := by
  rw [rawDecodePacket_eq] at h
  obtain ⟨view, hheader, -, hpayload⟩ := decodePacket_eq_ok_iff.mp (Option.some.inj h)
  obtain ⟨hpacket, -, hlength⟩ := decodeFixedHeader_eq_ok_iff.mp hheader
  refine ⟨view.header, view.payload, hpacket, hlength, ?_⟩
  rw [rawDecodePayloadByMessageType_eq, hpayload]

/-- Two accepted payloads of one message type that start the same way are the same. -/
theorem accepted_payload_eq {context : DecodeContext} {header header' : FixedHeader}
    {payload payload' : List UInt8} {m m' : ProtocolMessage}
    (htype : header.messageType = header'.messageType)
    (h : rawDecodePayloadByMessageType context header payload = some (.ok m))
    (h' : rawDecodePayloadByMessageType context header' payload' = some (.ok m'))
    (hinitial : payload <+: payload') : payload = payload' := by
  obtain ⟨-, hlayout, hm⟩ := accepted_payload h
  obtain ⟨-, hlayout', hm'⟩ := accepted_payload h'
  obtain ⟨rest, hrest⟩ := hinitial
  have hdelimits := Layout.Delimits.cat (layout_delimits (hm.trans (htype.trans hm'.symm)))
  exact hdelimits payload payload' rest [] hlayout hlayout' (hrest.trans (List.append_nil _).symm)

theorem FixedHeader.payloadLength_eq {h h' : FixedHeader} (hbytes : h.bytes = h'.bytes) :
    h.payloadLength = h'.payloadLength := by
  obtain ⟨-, hbytes⟩ := List.append_inj hbytes (by simp)
  obtain ⟨-, hbytes⟩ := List.append_inj hbytes (by simp)
  obtain ⟨-, hbytes⟩ := List.append_inj hbytes (by simp)
  obtain ⟨hlength, -⟩ := List.append_inj hbytes (by simp)
  rw [← u32FromLe_u32ToLe h.payloadLength, hlength, u32FromLe_u32ToLe]

/-- The sixteen header bytes fix the length, so an accepted packet extends no other accepted one. -/
theorem accepted_packet_eq {context : DecodeContext} {packet other : List UInt8}
    {m m' : ProtocolMessage} (h : rawDecodePacket context packet = some (.ok m))
    (h' : rawDecodePacket context other = some (.ok m')) (hinitial : packet <+: other) :
    packet = other := by
  obtain ⟨header, payload, rfl, hlength, -⟩ := accepted_packet h
  obtain ⟨header', payload', rfl, hlength', -⟩ := accepted_packet h'
  obtain ⟨rest, hrest⟩ := hinitial
  rw [List.append_assoc] at hrest
  obtain ⟨hbytes, hpayload⟩ := List.append_inj hrest (by simp)
  have hsame : payload.length = payload'.length := by
    rw [hlength, hlength', FixedHeader.payloadLength_eq hbytes]
  rw [hbytes, (List.append_inj_left (hpayload.trans (List.append_nil _).symm) hsame)]

/-- Neither a truncation nor an extension of an accepted packet is accepted. -/
theorem cut_or_extended_rejected {context : DecodeContext} {packet other : List UInt8}
    {m : ProtocolMessage} (h : rawDecodePacket context packet = some (.ok m))
    (hrelated : other <+: packet ∨ packet <+: other) (hne : other ≠ packet) :
    ∃ e, rawDecodePacket context other = some (.error e) := by
  cases hother : decodePacket context other with
  | error e => exact ⟨e, by rw [rawDecodePacket_eq, hother]⟩
  | ok m' =>
    have h' : rawDecodePacket context other = some (.ok m') := by rw [rawDecodePacket_eq, hother]
    rcases hrelated with hcut | hextended
    · exact absurd (accepted_packet_eq h' h hcut) hne
    · exact absurd (accepted_packet_eq h h' hextended).symm hne

/-- Decoding reads within bounds, accepts only what it uses up, and accepts no payload or packet
that another accepted one starts with. -/
theorem exact_length_decoding (context : DecodeContext) :
    (∀ packet, rawDecodePacket context packet ≠ none) ∧
    (∀ header payload, rawDecodePayloadByMessageType context header payload ≠ none) ∧
    (∀ packet m, rawDecodePacket context packet = some (.ok m) → ∃ header payload,
      packet = header.bytes ++ payload ∧ payload.length = header.payloadLength.toNat ∧
      (((messageFields header).run payload).run 0).run = some (.ok (m, payload.length)) ∧
      Layout.cat m.layout = some payload) ∧
    (∀ (header header' : FixedHeader) payload payload' m m', header.messageType = header'.messageType →
      rawDecodePayloadByMessageType context header payload = some (.ok m) →
      rawDecodePayloadByMessageType context header' payload' = some (.ok m') →
      payload <+: payload' → payload = payload') ∧
    (∀ packet other m, rawDecodePacket context packet = some (.ok m) →
      other <+: packet ∨ packet <+: other → other ≠ packet →
      ∃ e, rawDecodePacket context other = some (.error e)) := by
  refine ⟨fun packet => ?_, fun header payload => ?_, fun packet m h => ?_,
    fun _ _ _ _ _ _ htype h h' => accepted_payload_eq htype h h',
    fun _ _ _ h => cut_or_extended_rejected h⟩
  · rw [rawDecodePacket_eq]
    exact Option.some_ne_none _
  · rw [rawDecodePayloadByMessageType_eq]
    exact Option.some_ne_none _
  · obtain ⟨header, payload, hpacket, hlength, hpayload⟩ := accepted_packet h
    obtain ⟨hrun, hlayout, -⟩ := accepted_payload hpayload
    exact ⟨header, payload, hpacket, hlength, hrun, hlayout⟩

end StreamSync
