import StreamSync.ProtocolReader

namespace StreamSync

open LittleEndian ByteCursor

def boolByte (value : Bool) : UInt8 := if value then 1 else 0

def stringLayout (value : String) : Layout :=
  if (asBytes value).length < 2 ^ 16 then
    some (u16ToLe (UInt16.ofNat (asBytes value).length) ++ asBytes value)
  else none

theorem length_of_stringLayout {value : String} {bytes : List UInt8} (h : stringLayout value = some bytes) :
    bytes.length < 65538 := by
  unfold stringLayout at h
  split at h
  next hl =>
    cases Option.some.inj h
    rw [List.length_append, length_u16ToLe]
    omega
  next => cases h

def optionalLayout {α : Type} (lay : α → Layout) : Option α → Layout
  | none => some [0]
  | some value => (lay value).map (1 :: ·)

def metadataReservedLayout (metadataReserved : Vector UInt8 3) : Layout :=
  if metadataReserved = Vector.replicate 3 0 then some metadataReserved.toList else none

def sizedPayloadLayout (sized : Nat × List UInt8) : Layout :=
  if sized.1 = sized.2.length ∧ sized.2.length < 2 ^ 32 then
    some (u32ToLe (UInt32.ofNat sized.2.length) ++ sized.2)
  else none

/-- An observation is written without its ids. -/
def observationFieldsLayout (observation : HeartbeatAckObservation) : Layout :=
  some (u64ToLe observation.echoedSentAt ++ (u64ToLe observation.serverReceivedAt ++
    (u64ToLe observation.serverSentAt ++ u64ToLe observation.clientReceivedAt)))

/-- The reader restores the ids of the enclosing stats, so it returns no observation with others. -/
def heartbeatObservationLayout (clientId : ClientId) (runId : RunId)
    (observation : HeartbeatAckObservation) : Layout :=
  if observation.clientId = clientId ∧ observation.runId = runId then
    observationFieldsLayout observation
  else none

section Fields

variable {ε : Type}

theorem u8_inverts {p : ByteReader ε {bytes : List UInt8 // bytes.length = 1}}
    (hp : Inverts p fun bytes => some bytes.1) :
    Inverts (p >>= fun bytes =>
      pure (bytes.1.head (List.ne_nil_of_length_pos (by rw [bytes.2]; exact Nat.one_pos))))
      fun value => some [value] := by
  refine Inverts.map (fun value => some ⟨[value], rfl⟩) hp ?_
  rintro ⟨bytes, hb⟩ value
  obtain ⟨b, rfl⟩ := List.length_eq_one_iff.mp hb
  simp [eq_comm]

theorem u16_inverts {p : ByteReader ε {bytes : List UInt8 // bytes.length = 2}}
    (hp : Inverts p fun bytes => some bytes.1) :
    Inverts (p >>= fun bytes => pure (u16FromLe bytes.1)) fun value => some (u16ToLe value) := by
  refine Inverts.map (fun value => some ⟨u16ToLe value, length_u16ToLe value⟩) hp ?_
  rintro ⟨bytes, hb⟩ value
  simp [u16FromLe_eq_iff hb]

theorem u32_inverts {p : ByteReader ε {bytes : List UInt8 // bytes.length = 4}}
    (hp : Inverts p fun bytes => some bytes.1) :
    Inverts (p >>= fun bytes => pure (u32FromLe bytes.1)) fun value => some (u32ToLe value) := by
  refine Inverts.map (fun value => some ⟨u32ToLe value, length_u32ToLe value⟩) hp ?_
  rintro ⟨bytes, hb⟩ value
  simp [u32FromLe_eq_iff hb]

theorem u64_inverts {p : ByteReader ε {bytes : List UInt8 // bytes.length = 8}}
    (hp : Inverts p fun bytes => some bytes.1) :
    Inverts (p >>= fun bytes => pure (u64FromLe bytes.1)) fun value => some (u64ToLe value) := by
  refine Inverts.map (fun value => some ⟨u64ToLe value, length_u64ToLe value⟩) hp ?_
  rintro ⟨bytes, hb⟩ value
  simp [u64FromLe_eq_iff hb]

theorem bytes_inverts {len : Nat} {p : ByteReader ε {bytes : List UInt8 // bytes.length = len}}
    (hp : Inverts p fun bytes => some bytes.1) :
    Inverts (p >>= fun bytes => pure bytes.1)
      fun bytes => if bytes.length = len then some bytes else none := by
  have h := Inverts.map (g := fun bytes => bytes.1)
    (fun bytes : List UInt8 => if hb : bytes.length = len then some ⟨bytes, hb⟩ else none) hp (by
      rintro ⟨bytes, hb⟩ value
      constructor
      · rintro rfl
        exact dif_pos hb
      · intro he
        split at he
        next => cases Option.some.inj he; rfl
        next => cases he)
  refine h.congr fun bytes => ?_
  split <;> rfl

/-- A byte count and that many bytes. -/
theorem counted_inverts {α : Type} {readLen : ByteReader ε α} {readBytes : Nat → ByteReader ε (List UInt8)}
    {lenToLe : α → List UInt8} (toNat : α → Nat) (ofNat : Nat → α) (bound : Nat)
    (hlen : Inverts readLen fun n => some (lenToLe n))
    (hbytes : ∀ len, Inverts (readBytes len) fun bytes => if bytes.length = len then some bytes else none)
    (hof : ∀ n k, k = toNat n ↔ ofNat k = n ∧ k < bound) :
    Inverts (readLen >>= fun n => readBytes (toNat n)) fun bytes =>
      if bytes.length < bound then some (lenToLe (ofNat bytes.length) ++ bytes) else none := by
  have h : Reads (readLen >>= fun n => readBytes (toNat n)) (fun bytes => True)
      (fun bytes => [some (lenToLe (ofNat bytes.length)),
        if bytes.length < bound then some bytes else none]) fun _ => True := by
    refine Inverts.reads_bind (fun bytes : List UInt8 => ofNat bytes.length) hlen fun n => ?_
    refine (hbytes (toNat n)).reads fun bytes bs => ?_
    simp only [hof, true_and]
    split <;> split <;> simp_all
  refine h.inverts fun bytes bs => ?_
  simp only [true_and, Layout.cat_cons, Layout.cat_nil]
  split <;> simp

theorem u16Counted_inverts {readLen : ByteReader ε UInt16}
    {readBytes : Nat → ByteReader ε (List UInt8)} (hlen : Inverts readLen fun n => some (u16ToLe n))
    (hbytes : ∀ len, Inverts (readBytes len) fun bytes => if bytes.length = len then some bytes else none) :
    Inverts (readLen >>= fun n => readBytes n.toNat) fun bytes =>
      if bytes.length < 2 ^ 16 then some (u16ToLe (UInt16.ofNat bytes.length) ++ bytes) else none :=
  counted_inverts UInt16.toNat UInt16.ofNat (2 ^ 16) hlen hbytes fun n k => by
    rw [← UInt16.toNat_inj, UInt16.toNat_ofNat']
    have := n.toNat_lt
    omega

end Fields

namespace PayloadReader

theorem takeAvailable_inverts (len : Nat) : Inverts (takeAvailable len) fun bytes => some bytes.1 :=
  take_inverts _ _

theorem readU8_inverts : Inverts readU8 fun value => some [value] := u8_inverts (takeAvailable_inverts 1)

theorem readU16_inverts : Inverts readU16 fun value => some (u16ToLe value) :=
  u16_inverts (takeAvailable_inverts 2)

theorem readU32_inverts : Inverts readU32 fun value => some (u32ToLe value) :=
  u32_inverts (takeAvailable_inverts 4)

theorem readU64_inverts : Inverts readU64 fun value => some (u64ToLe value) :=
  u64_inverts (takeAvailable_inverts 8)

theorem boolOfByte_eq_ok_iff {byte : UInt8} {value : Bool} :
    boolOfByte byte = .ok value ↔ boolByte value = byte := by
  constructor
  · intro h
    unfold boolOfByte at h
    split at h <;> first | cases h; rfl | cases h
  · rintro rfl
    cases value <;> rfl

theorem readBool_inverts : Inverts readBool fun value => some [boolByte value] :=
  Inverts.convert (fun value => some (boolByte value)) readU8_inverts fun _ _ => by
    rw [boolOfByte_eq_ok_iff, Option.some_inj]

theorem readArray3_inverts : Inverts readArray3 fun value => some value.toList := by
  refine Inverts.map (fun value : Vector UInt8 3 => some ⟨value.toList, Vector.length_toList⟩)
    (takeAvailable_inverts 3) ?_
  rintro ⟨bytes, hb⟩ value
  obtain ⟨array, ha⟩ := value
  obtain ⟨list⟩ := array
  simp [eq_comm]

theorem readExactBytes_inverts (len : Nat) :
    Inverts (readExactBytes len) fun bytes => if bytes.length = len then some bytes else none :=
  bytes_inverts (takeAvailable_inverts len)

theorem readString_inverts : Inverts readString stringLayout :=
  Inverts.convert (fun value => some (asBytes value))
    (u16Counted_inverts readU16_inverts readExactBytes_inverts) fun _ _ => by
      rw [fromUtf8_eq_ok_iff, Option.some_inj]

theorem readOptional_inverts {α : Type} {readValue : PayloadReader α} {lay : α → Layout}
    (hv : Inverts readValue lay) : Inverts (readOptional readValue) (optionalLayout lay) := by
  have h : Reads (readOptional readValue) (fun _ => True) (fun value =>
      [some [if value.isSome then 1 else 0], value.elim (some []) lay]) fun _ => True := by
    refine Inverts.reads_bind (fun value : Option α => if value.isSome then 1 else 0) readU8_inverts fun tag => ?_
    split
    next =>
      intro c value c'
      rw [reads_pure (x := none) (K := fun v => v = none) (fun _ => Iff.rfl) c value c']
      cases value <;> simp
    next =>
      intro c value c'
      rw [Inverts.map id hv (by simp [eq_comm]) c value c']
      cases value <;> simp
    next tag h0 h1 =>
      intro c value c'
      refine iff_of_false (fun he => by cases he) ?_
      rintro ⟨⟨-, rfl⟩, -⟩
      cases value
      · exact h0 rfl
      · exact h1 rfl
  refine h.inverts fun value bs => ?_
  cases value <;> simp [optionalLayout]

theorem readHeartbeatObservation_inverts (clientId : ClientId) (runId : RunId) :
    Inverts (readHeartbeatObservation clientId runId)
      (heartbeatObservationLayout clientId runId) := by
  have h : Reads (readHeartbeatObservation clientId runId)
      (fun o => o.clientId = clientId ∧ o.runId = runId) (fun o => [some (u64ToLe o.echoedSentAt),
        some (u64ToLe o.serverReceivedAt), some (u64ToLe o.serverSentAt),
        some (u64ToLe o.clientReceivedAt)]) fun _ => True := by
    refine Inverts.reads_bind HeartbeatAckObservation.echoedSentAt readU64_inverts fun _ => ?_
    refine Inverts.reads_bind HeartbeatAckObservation.serverReceivedAt readU64_inverts fun _ => ?_
    refine Inverts.reads_bind HeartbeatAckObservation.serverSentAt readU64_inverts fun _ => ?_
    refine Inverts.reads_bind HeartbeatAckObservation.clientReceivedAt readU64_inverts fun _ => ?_
    exact reads_pure fun o => by cases o; simp [and_assoc]
  refine h.inverts fun o bs => ?_
  unfold heartbeatObservationLayout observationFieldsLayout
  split <;> simp_all

theorem readSizedPayload_inverts : Inverts readSizedPayload sizedPayloadLayout := by
  have h : Reads readSizedPayload (fun _ => True) (fun sized => [some (u32ToLe (UInt32.ofNat sized.1)),
      if sized.1 = sized.2.length ∧ sized.2.length < 2 ^ 32 then some sized.2 else none])
      fun _ => True := by
    refine Inverts.reads_bind (fun sized : Nat × List UInt8 => UInt32.ofNat sized.1) readU32_inverts fun n => ?_
    refine (Inverts.map (fun sized => if sized.1 = n.toNat then some sized.2 else none)
      (readExactBytes_inverts n.toNat) ?_).reads ?_
    · rintro bytes ⟨size, payload⟩
      simp only [Prod.mk.injEq]
      split <;> simp_all [eq_comm]
    · rintro ⟨size, payload⟩ bs
      have hn : UInt32.ofNat size = n ∧ size < 2 ^ 32 ↔ size = n.toNat := by
        rw [← UInt32.toNat_inj, UInt32.toNat_ofNat']
        have := n.toNat_lt
        omega
      simp only [Option.bind_eq_some_iff, Option.ite_none_right_eq_some, Option.some_inj, true_and]
      constructor
      · rintro ⟨_, ⟨hs, rfl⟩, hl, rfl⟩
        exact ⟨(hn.mpr hs).1, ⟨hs.trans hl.symm, hl ▸ n.toNat_lt⟩, rfl⟩
      · rintro ⟨hu, ⟨hs, hb⟩, rfl⟩
        have hs' := hn.mp ⟨hu, hs ▸ hb⟩
        exact ⟨_, ⟨hs', rfl⟩, hs.symm.trans hs', rfl⟩
  refine h.inverts fun sized bs => ?_
  unfold sizedPayloadLayout
  split <;> simp_all

theorem readMetadataReserved_inverts : Inverts readMetadataReserved metadataReservedLayout := by
  refine (Inverts.convert (fun value => if value = Vector.replicate 3 0 then some value else none)
    readArray3_inverts ?_).congr fun value => ?_
  · intro a b
    split <;> split <;> simp_all [eq_comm]
  · unfold metadataReservedLayout
    split <;> rfl

end PayloadReader

end StreamSync
