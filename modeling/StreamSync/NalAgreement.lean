import StreamSync.AnnexBStream
import StreamSync.NalInspection

namespace StreamSync

open Framing

/-- The `while let` loop of `inspect_payload`, given up after that many rounds. -/
def inspectLoop (payload : List UInt8) :
    Nat → Nat → SwitcherH264AnnexBPayloadSummary → Option SwitcherH264AnnexBPayloadSummary
  | 0, _, _ => none
  | rounds + 1, searchFrom, summary =>
    match switcherFindAnnexBStartCode payload searchFrom with
    | none => some summary
    | some (start, startCodeLen) =>
      if payload.length ≤ start + startCodeLen then some summary
      else if nextNalStart payload (start + startCodeLen) ≤ start + startCodeLen then
        inspectLoop payload rounds (start + startCodeLen + 1) summary
      else
        inspectLoop payload rounds (nextNalStart payload (start + startCodeLen))
          (summary.push (.ofNalUnitType (nalUnitType (payload[start + startCodeLen]?.getD 0))))

/-- Every round moves on by a byte at least, so a round a byte that is left is enough. -/
theorem inspectLoop_eq {payload : List UInt8} {searchFrom rounds : Nat}
    {summary : SwitcherH264AnnexBPayloadSummary} (hrounds : payload.length - searchFrom < rounds) :
    inspectLoop payload rounds searchFrom summary = some (inspectFrom payload searchFrom summary) := by
  induction rounds generalizing searchFrom summary with
  | zero => omega
  | succ rounds ih =>
    rw [inspectLoop]
    cases hfound : switcherFindAnnexBStartCode payload searchFrom with
    | none => rw [inspectFrom_none hfound]
    | some found =>
      obtain ⟨start, n⟩ := found
      obtain ⟨hle, hlt, hpos⟩ := switcherFindAnnexBStartCode_bounds hfound
      rw [inspectFrom_some hfound]
      dsimp only
      split
      next => rfl
      next hheader =>
        split
        next => exact ih (by omega)
        next => exact ih (by omega)

/-- A search that begins at the mark finds the mark. -/
theorem scan_at_found {α : Type} {m : Marker α} {index i n : Nat} {xs : List α}
    (h : scan m index xs = some (i, n)) : scan m i (xs.drop (i - index)) = some (i, n) := by
  induction xs generalizing index with
  | nil => cases h
  | cons x xs ih =>
    have hwhole := h
    rw [scan] at h
    split at h
    next length hmark =>
      cases h
      rw [Nat.sub_self, List.drop_zero]
      exact hwhole
    next =>
      obtain ⟨hle, -, -⟩ := scan_bounds h
      rw [show i - index = i - (index + 1) + 1 by omega, List.drop_succ_cons]
      exact ih h

theorem findAnnexBStartCode_at_found {bytes : List UInt8} {searchFrom start n : Nat}
    (h : findAnnexBStartCode bytes searchFrom = some (start, n)) :
    findAnnexBStartCode bytes start = some (start, n) := by
  obtain ⟨hle, -, -⟩ := scan_bounds h
  have hfound := scan_at_found h
  rw [List.drop_drop, show searchFrom + (start - searchFrom) = start by omega] at hfound
  exact hfound

theorem parseNalUnit_header {n : Nat} {bytes : List UInt8} {nalUnit : ClientAnnexBNalUnit}
    (h : parseNalUnit n bytes = .ok nalUnit) :
    ∃ header, bytes[n]? = some header ∧ nalUnit.nalUnitType = nalUnitType header ∧
      nalUnit.kind = .fromNalUnitType (nalUnitType header) := by
  unfold parseNalUnit at h
  split at h
  next => cases h
  next header payload hdrop =>
    have hget : bytes[n]? = some header := by
      have hhead := congrArg List.head? hdrop
      rwa [List.head?_drop, List.head?_cons] at hhead
    refine ⟨header, hget, ?_⟩
    dsimp only at h
    split at h
    next => cases h
    next =>
      split at h
      next =>
        split at h
        next => cases h; exact ⟨rfl, rfl⟩
        next => cases h
      next => cases h; exact ⟨rfl, rfl⟩

/-- A descriptor is of a NAL unit that is not empty, and names the type its header has. -/
theorem parseAnnexBNalDescriptor_header {buffer : List UInt8} {start n stop : Nat}
    {descriptor : ClientAnnexBNalDescriptor}
    (h : parseAnnexBNalDescriptor buffer start n stop = .ok descriptor) :
    start + n < stop ∧ start + n < buffer.length ∧
      descriptor.nalUnit.nalUnitType = nalUnitType (buffer[start + n]?.getD 0) ∧
      descriptor.nalUnit.kind = .fromNalUnitType (nalUnitType (buffer[start + n]?.getD 0)) := by
  unfold parseAnnexBNalDescriptor at h
  cases hunit : parseNalUnit n ((buffer.drop start).take (stop - start)) with
  | error reason =>
    rw [hunit] at h
    cases h
  | ok nalUnit =>
    rw [hunit] at h
    cases h
    obtain ⟨header, hget, htype, hkind⟩ := parseNalUnit_header hunit
    have hlt := (parseNalUnit_eq_ok hunit).2
    rw [List.length_take, List.length_drop] at hlt
    rw [List.getElem?_take_of_lt (by omega), List.getElem?_drop] at hget
    rw [hget]
    exact ⟨by omega, by omega, htype, hkind⟩

/-- The kind under which the switcher lists a NAL unit of the client. -/
def ClientAnnexBNalDescriptor.listedKind (descriptor : ClientAnnexBNalDescriptor) :
    SwitcherH264AnnexBNalKind := .ofNalUnitType descriptor.nalUnit.nalUnitType

theorem nextNalStart_some {payload : List UInt8} {header start n : Nat}
    (h : switcherFindAnnexBStartCode payload header = some (start, n)) :
    nextNalStart payload header = start := by
  rw [nextNalStart, h]
  rfl

theorem nextNalStart_none {payload : List UInt8} {header : Nat}
    (h : switcherFindAnnexBStartCode payload header = none) :
    nextNalStart payload header = payload.length := by
  rw [nextNalStart, h]
  rfl

/-- From a start code on the two loops list the same NAL units. The induction is on the start codes
behind it, which both loops find in the same places. -/
theorem inspectFrom_descriptors {payload : List UInt8} {later : List (Nat × Nat)}
    {start n : Nat} {descriptors : List ClientAnnexBNalDescriptor}
    {summary : SwitcherH264AnnexBPayloadSummary}
    (hfound : findAnnexBStartCode payload start = some (start, n))
    (hlater : marks startCode (start + n) 0 (payload.drop (start + n)) = later)
    (h : descriptorsOfMarks payload true start n later = .ok descriptors) :
    inspectFrom payload start summary =
      (descriptors.map (·.listedKind)).foldl SwitcherH264AnnexBPayloadSummary.push summary := by
  induction later generalizing start n descriptors summary with
  | nil =>
    have hnone : switcherFindAnnexBStartCode payload (start + n) = none := scan_of_marks_nil hlater
    rw [descriptorsOfMarks] at h
    by_cases hheader : start + n < payload.length
    · simp only [Bool.true_and, hheader, decide_true, if_true] at h
      cases hdescriptor : parseAnnexBNalDescriptor payload start n payload.length with
      | error reason =>
        rw [hdescriptor] at h
        cases h
      | ok descriptor =>
        rw [hdescriptor] at h
        cases h
        obtain ⟨-, -, htype, -⟩ := parseAnnexBNalDescriptor_header hdescriptor
        have hrest : switcherFindAnnexBStartCode payload payload.length = none := by
          rw [switcherFindAnnexBStartCode, findAnnexBStartCode, List.drop_length]
          rfl
        rw [inspectFrom_some hfound, nextNalStart_none hnone, if_neg (by omega), if_neg (by omega),
          inspectFrom_none hrest, ← htype]
        rfl
    · simp only [Bool.true_and, hheader, decide_false, Bool.false_eq_true, if_false] at h
      cases h
      rw [inspectFrom_some hfound, if_pos (by omega)]
      rfl
  | cons next later ih =>
    obtain ⟨nextStart, nextLen⟩ := next
    obtain ⟨hscan, hrest⟩ := scan_of_marks_cons hlater
    obtain ⟨hle, -, -⟩ := scan_bounds hscan
    rw [List.drop_drop, show start + n + (nextStart + nextLen - (start + n)) = nextStart + nextLen by omega]
      at hrest
    rw [descriptorsOfMarks] at h
    cases hdescriptor : parseAnnexBNalDescriptor payload start n nextStart with
    | error reason =>
      rw [hdescriptor] at h
      cases h
    | ok descriptor =>
      cases hdescriptors : descriptorsOfMarks payload true nextStart nextLen later with
      | error reason =>
        rw [hdescriptor, hdescriptors] at h
        cases h
      | ok rest =>
        rw [hdescriptor, hdescriptors] at h
        cases h
        obtain ⟨hstop, hheader, htype, -⟩ := parseAnnexBNalDescriptor_header hdescriptor
        rw [inspectFrom_some hfound, nextNalStart_some hscan, if_neg (by omega), if_neg (by omega),
          ih (findAnnexBStartCode_at_found hscan) hrest hdescriptors, ← htype]
        rfl

theorem nalKinds_foldl_push (kinds : List SwitcherH264AnnexBNalKind)
    (summary : SwitcherH264AnnexBPayloadSummary) :
    (kinds.foldl SwitcherH264AnnexBPayloadSummary.push summary).nalKinds = summary.nalKinds ++ kinds := by
  induction kinds generalizing summary with
  | nil => exact (List.append_nil _).symm
  | cons kind kinds ih =>
    rw [List.foldl_cons, ih]
    exact List.append_assoc summary.nalKinds [kind] kinds

theorem kind_of_descriptorsOfMarks {buffer : List UInt8} {eof : Bool} {start n : Nat}
    {later : List (Nat × Nat)} {descriptors : List ClientAnnexBNalDescriptor}
    (h : descriptorsOfMarks buffer eof start n later = .ok descriptors) :
    ∀ descriptor ∈ descriptors,
      descriptor.nalUnit.kind = .fromNalUnitType descriptor.nalUnit.nalUnitType := by
  induction later generalizing start n descriptors with
  | nil =>
    rw [descriptorsOfMarks] at h
    split at h
    next =>
      cases hlast : parseAnnexBNalDescriptor buffer start n buffer.length with
      | error reason =>
        rw [hlast] at h
        cases h
      | ok last =>
        rw [hlast] at h
        cases h
        obtain ⟨-, -, htype, hkind⟩ := parseAnnexBNalDescriptor_header hlast
        intro descriptor hd
        rw [List.mem_singleton.mp hd, hkind, htype]
    next =>
      cases h
      exact List.forall_mem_nil _
  | cons next later ih =>
    rw [descriptorsOfMarks] at h
    cases hfirst : parseAnnexBNalDescriptor buffer start n next.1 with
    | error reason =>
      rw [hfirst] at h
      cases h
    | ok first =>
      cases hrest : descriptorsOfMarks buffer eof next.1 next.2 later with
      | error reason =>
        rw [hfirst, hrest] at h
        cases h
      | ok rest =>
        rw [hfirst, hrest] at h
        cases h
        obtain ⟨-, -, htype, hkind⟩ := parseAnnexBNalDescriptor_header hfirst
        exact List.forall_mem_cons.mpr ⟨by rw [hkind, htype], ih hrest⟩

theorem parseAnnexBNalDescriptors_ok {payload : List UInt8} {eof : Bool}
    {descriptors : List ClientAnnexBNalDescriptor}
    (h : parseAnnexBNalDescriptors payload eof = .ok descriptors) :
    (payload = [] ∧ descriptors = []) ∨
      ∃ n, findAnnexBStartCode payload 0 = some (0, n) ∧
        descriptorsOfMarks payload eof 0 n (marks startCode (0 + n) 0 (payload.drop (0 + n))) =
          .ok descriptors := by
  rw [parseAnnexBNalDescriptors] at h
  split at h
  next hempty =>
    cases h
    exact .inl ⟨List.isEmpty_iff.mp hempty, rfl⟩
  next =>
    split at h
    next => cases h
    next start n hfound =>
      split at h
      next => cases h
      next hstart =>
        cases not_not.mp hstart
        rw [nalDescriptorsFrom_eq (by omega)] at h
        exact .inr ⟨n, hfound, h⟩

/-- Of a payload that the client accepts at its end the switcher lists the same NAL units. -/
theorem nalKinds_inspectPayload {payload : List UInt8} {descriptors : List ClientAnnexBNalDescriptor}
    (h : parseAnnexBNalDescriptors payload true = .ok descriptors) :
    (inspectPayload payload).nalKinds = descriptors.map (·.listedKind) := by
  rcases parseAnnexBNalDescriptors_ok h with ⟨rfl, rfl⟩ | ⟨n, hfound, hmarks⟩
  · rw [inspectPayload, inspectFrom_none rfl]
    rfl
  · rw [inspectPayload, inspectFrom_descriptors hfound rfl hmarks, nalKinds_foldl_push]
    rfl

theorem kind_of_parseAnnexBNalDescriptors {payload : List UInt8} {eof : Bool}
    {descriptors : List ClientAnnexBNalDescriptor}
    (h : parseAnnexBNalDescriptors payload eof = .ok descriptors) :
    ∀ descriptor ∈ descriptors,
      descriptor.nalUnit.kind = .fromNalUnitType descriptor.nalUnit.nalUnitType := by
  rcases parseAnnexBNalDescriptors_ok h with ⟨-, rfl⟩ | ⟨n, -, hmarks⟩
  · exact List.forall_mem_nil _
  · exact kind_of_descriptorsOfMarks hmarks

/-- What a kind of the client is called by the switcher. -/
def ClientAnnexBNalUnitKind.switcherKind : ClientAnnexBNalUnitKind → SwitcherH264AnnexBNalKind
  | .nonIdrSlice => .nonIdrVcl
  | .idrSlice => .idr
  | .sei => .sei
  | .sps => .sps
  | .pps => .pps
  | .aud => .aud
  | .other nalUnitType => .other nalUnitType

theorem ClientAnnexBNalUnitKind.switcherKind_fromNalUnitType (nalUnitType : UInt8) :
    (fromNalUnitType nalUnitType).switcherKind = .ofNalUnitType nalUnitType := by
  unfold fromNalUnitType SwitcherH264AnnexBNalKind.ofNalUnitType
  simp only [apply_ite ClientAnnexBNalUnitKind.switcherKind]
  rfl

theorem ClientAnnexBNalUnitKind.switcherKind_injective {kind kind' : ClientAnnexBNalUnitKind}
    (h : kind.switcherKind = kind'.switcherKind) : kind = kind' := by
  cases kind <;> cases kind' <;> cases h <;> rfl

theorem flagsAgree_inspectPayload (payload : List UInt8) : (inspectPayload payload).FlagsAgree :=
  (inspectFrom_sound payload 0 ⟨payload.length, false, false, false, false, []⟩ ⟨rfl, rfl, rfl, rfl⟩
    (by simp)).1

/-- A kind of the client is on the switcher's list exactly when the client has a NAL unit of it. -/
theorem mem_nalKinds_iff {payload : List UInt8} {descriptors : List ClientAnnexBNalDescriptor}
    (h : parseAnnexBNalDescriptors payload true = .ok descriptors) (kind : ClientAnnexBNalUnitKind) :
    kind.switcherKind ∈ (inspectPayload payload).nalKinds ↔
      ∃ descriptor ∈ descriptors, descriptor.nalUnit.kind = kind := by
  have hlisted : ∀ descriptor ∈ descriptors,
      descriptor.listedKind = descriptor.nalUnit.kind.switcherKind := fun descriptor hd => by
    rw [kind_of_parseAnnexBNalDescriptors h descriptor hd,
      ClientAnnexBNalUnitKind.switcherKind_fromNalUnitType]
    rfl
  rw [nalKinds_inspectPayload h, List.mem_map]
  constructor
  · rintro ⟨descriptor, hd, hkind⟩
    rw [hlisted descriptor hd] at hkind
    exact ⟨descriptor, hd, ClientAnnexBNalUnitKind.switcherKind_injective hkind⟩
  · rintro ⟨descriptor, hd, rfl⟩
    exact ⟨descriptor, hd, hlisted descriptor hd⟩

/-- The loop of `inspect_payload` ends on every payload within a round a byte and one more. Of a
payload that `parse_annex_b_nal_descriptors` accepts it lists the same NAL units in the same order,
and its flags are those of the units that the client has. -/
theorem inspectPayload_agrees (payload : List UInt8) :
    inspectLoop payload (payload.length + 1) 0 ⟨payload.length, false, false, false, false, []⟩ =
        some (inspectPayload payload) ∧
      ∀ descriptors, parseAnnexBNalDescriptors payload true = .ok descriptors →
        (inspectPayload payload).nalKinds = descriptors.map
            (fun descriptor => .ofNalUnitType descriptor.nalUnit.nalUnitType) ∧
          ((inspectPayload payload).hasSps = true ↔
            ∃ descriptor ∈ descriptors, descriptor.nalUnit.kind = .sps) ∧
          ((inspectPayload payload).hasPps = true ↔
            ∃ descriptor ∈ descriptors, descriptor.nalUnit.kind = .pps) ∧
          ((inspectPayload payload).hasIdr = true ↔
            ∃ descriptor ∈ descriptors, descriptor.nalUnit.kind = .idrSlice) := by
  have hflags := flagsAgree_inspectPayload payload
  refine ⟨inspectLoop_eq (by omega), fun descriptors h => ⟨nalKinds_inspectPayload h, ?_, ?_, ?_⟩⟩
  · rw [hflags.sps, decide_eq_true_iff]
    exact mem_nalKinds_iff h .sps
  · rw [hflags.pps, decide_eq_true_iff]
    exact mem_nalKinds_iff h .pps
  · rw [hflags.idr, decide_eq_true_iff]
    exact mem_nalKinds_iff h .idrSlice

/-- A parameter set and a start code at the end with nothing behind it. -/
theorem inspectPayload_agrees_sps :
    parseAnnexBNalDescriptors [0, 0, 0, 1, 0x67, 0, 0, 1] true =
        .ok [⟨0, 5, ⟨[0, 0, 0, 1, 0x67], 4, .sps, 7, none⟩⟩] ∧
      (inspectPayload [0, 0, 0, 1, 0x67, 0, 0, 1]).nalKinds = [.sps] :=
  have hparsed : parseAnnexBNalDescriptors [0, 0, 0, 1, 0x67, 0, 0, 1] true =
      .ok [⟨0, 5, ⟨[0, 0, 0, 1, 0x67], 4, .sps, 7, none⟩⟩] := by decide +kernel
  ⟨hparsed, ((inspectPayload_agrees [0, 0, 0, 1, 0x67, 0, 0, 1]).2 _ hparsed).1⟩

end StreamSync
