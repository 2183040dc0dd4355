import StreamSync.AnnexB

namespace StreamSync

open Framing

theorem parseNalUnit_eq_ok {n : Nat} {bytes : List UInt8} {nalUnit : ClientAnnexBNalUnit}
    (h : parseNalUnit n bytes = .ok nalUnit) : nalUnit.bytes = bytes ∧ n < bytes.length := by
  unfold parseNalUnit at h
  split at h
  next => cases h
  next nalHeader payload hdrop =>
    have hlength := congrArg List.length hdrop
    rw [List.length_drop, List.length_cons] at hlength
    have hlt : n < bytes.length := by omega
    dsimp only at h
    split at h
    next => cases h
    next =>
      split at h
      next =>
        split at h
        next =>
          cases h
          exact ⟨rfl, hlt⟩
        next => cases h
      next =>
        cases h
        exact ⟨rfl, hlt⟩

/-- A NAL unit as an encoder writes it: a start code, no start code in what follows, and a header that
the parser accepts. -/
structure AnnexBNal where
  frame : Frame startCode
  nalUnit : ClientAnnexBNalUnit
  parsed : parseNalUnit frame.head.length frame.elements = .ok nalUnit

namespace AnnexBNal

def bytes (nal : AnnexBNal) : List UInt8 := nal.frame.elements

theorem nalUnit_bytes (nal : AnnexBNal) : nal.nalUnit.bytes = nal.bytes :=
  (parseNalUnit_eq_ok nal.parsed).1

theorem head_lt (nal : AnnexBNal) : nal.frame.head.length < nal.bytes.length :=
  (parseNalUnit_eq_ok nal.parsed).2

end AnnexBNal

def nalBytes (nals : List AnnexBNal) : List UInt8 := stream (nals.map (·.frame))

@[simp] theorem nalBytes_nil : nalBytes [] = [] := rfl

@[simp] theorem nalBytes_cons (nal : AnnexBNal) (nals : List AnnexBNal) :
    nalBytes (nal :: nals) = nal.bytes ++ nalBytes nals := rfl

theorem nalBytes_append (nals nals' : List AnnexBNal) :
    nalBytes (nals ++ nals') = nalBytes nals ++ nalBytes nals' := by
  simp [nalBytes, stream_append]

/-- The start codes of units that stand one behind the other from the index on. -/
def nalMarks (index : Nat) (nals : List AnnexBNal) : List (Nat × Nat) := offsets index (nals.map (·.frame))

/-- The descriptors of units that stand one behind the other from the index on. -/
def descriptorsAt (index : Nat) : List AnnexBNal → List ClientAnnexBNalDescriptor
  | [] => []
  | nal :: nals => ⟨index, index + nal.bytes.length, nal.nalUnit⟩ :: descriptorsAt (index + nal.bytes.length) nals

/-- The loop of `parse_annex_b_nal_descriptors` over the start codes it will find. -/
def descriptorsOfMarks (buffer : List UInt8) (eof : Bool) (currentStart currentStartCodeLen : Nat) :
    List (Nat × Nat) → Except ClientAnnexBAccessUnitReaderMalformedReason (List ClientAnnexBNalDescriptor)
  | (nextStart, nextStartCodeLen) :: later => do
    let descriptor ← parseAnnexBNalDescriptor buffer currentStart currentStartCodeLen nextStart
    let rest ← descriptorsOfMarks buffer eof nextStart nextStartCodeLen later
    return descriptor :: rest
  | [] =>
    if eof && currentStart + currentStartCodeLen < buffer.length then do
      let descriptor ← parseAnnexBNalDescriptor buffer currentStart currentStartCodeLen buffer.length
      return [descriptor]
    else .ok []

theorem nalDescriptorsFrom_eq {buffer : List UInt8} {eof : Bool} {fuel start len : Nat}
    (hfuel : buffer.length < start + len + fuel) :
    nalDescriptorsFrom buffer eof fuel start len =
      descriptorsOfMarks buffer eof start len
        (marks startCode (start + len) 0 (buffer.drop (start + len))) := by
  induction fuel generalizing start len with
  | zero =>
    have hdrop : buffer.drop (start + len) = [] := List.drop_eq_nil_of_le (by omega)
    have hend : ¬start + len < buffer.length := by omega
    rw [hdrop, nalDescriptorsFrom, marks, descriptorsOfMarks]
    simp [hend]
  | succ fuel ih =>
    rw [nalDescriptorsFrom, findAnnexBStartCode]
    cases hscan : scan startCode (start + len) (buffer.drop (start + len)) with
    | none =>
      rw [marks_of_scan_none hscan, descriptorsOfMarks]
    | some found =>
      obtain ⟨nextStart, nextLen⟩ := found
      obtain ⟨hle, -, hpos⟩ := scan_bounds hscan
      have hdrop : (buffer.drop (start + len)).drop (nextStart + nextLen - (start + len)) =
          buffer.drop (nextStart + nextLen) := by
        rw [List.drop_drop]
        congr 1
        omega
      rw [marks_of_scan_some hscan, hdrop, descriptorsOfMarks]
      dsimp only
      rw [ih (by omega)]

theorem parseAnnexBNalDescriptor_nal (nal : AnnexBNal) (before after : List UInt8) :
    parseAnnexBNalDescriptor (before ++ (nal.bytes ++ after)) before.length nal.frame.head.length
        (before.length + nal.bytes.length) =
      .ok ⟨before.length, before.length + nal.bytes.length, nal.nalUnit⟩ := by
  have hslice : ((before ++ (nal.bytes ++ after)).drop before.length).take
      (before.length + nal.bytes.length - before.length) = nal.frame.elements := by
    rw [List.drop_left, Nat.add_sub_cancel_left, List.take_left]
    rfl
  rw [parseAnnexBNalDescriptor, hslice, nal.parsed]
  rfl

/-- Of units whose start codes are all there, the parser gives all but the last, whose end it does
not know. -/
theorem descriptorsOfMarks_open {buffer : List UInt8} (nal : AnnexBNal) (nals : List AnnexBNal)
    (before rest : List UInt8) (hbuffer : buffer = before ++ (nalBytes (nal :: nals).dropLast ++ rest)) :
    descriptorsOfMarks buffer false before.length nal.frame.head.length
        (nalMarks (before.length + nal.bytes.length) nals) =
      .ok (descriptorsAt before.length (nal :: nals).dropLast) := by
  induction nals generalizing nal before with
  | nil => rfl
  | cons next nals ih =>
    rw [List.dropLast_cons_cons, nalBytes_cons, List.append_assoc] at hbuffer
    have hnext := ih next (before ++ nal.bytes) (by rw [hbuffer, List.append_assoc])
    rw [List.length_append] at hnext
    have hnal := parseAnnexBNalDescriptor_nal nal before (nalBytes (next :: nals).dropLast ++ rest)
    rw [← hbuffer] at hnal
    rw [List.dropLast_cons_cons, descriptorsAt, nalMarks, List.map_cons, offsets, descriptorsOfMarks, hnal]
    simp only [bind, Except.bind]
    rw [show offsets (before.length + nal.bytes.length + next.frame.elements.length)
      (nals.map (·.frame)) = nalMarks (before.length + nal.bytes.length + next.bytes.length) nals from rfl,
      hnext]
    rfl

/-- At the end of the stream the last unit ends where the buffer does. -/
theorem descriptorsOfMarks_eof {buffer : List UInt8} (nal : AnnexBNal) (nals : List AnnexBNal)
    (before : List UInt8) (hbuffer : buffer = before ++ nalBytes (nal :: nals)) :
    descriptorsOfMarks buffer true before.length nal.frame.head.length
        (nalMarks (before.length + nal.bytes.length) nals) =
      .ok (descriptorsAt before.length (nal :: nals)) := by
  induction nals generalizing nal before with
  | nil =>
    have hlength : buffer.length = before.length + nal.bytes.length := by
      rw [hbuffer, nalBytes_cons, nalBytes_nil, List.append_nil, List.length_append]
    have hend : before.length + nal.frame.head.length < buffer.length := by
      have := nal.head_lt
      omega
    have hnal := parseAnnexBNalDescriptor_nal nal before []
    rw [List.append_nil, ← hlength] at hnal
    rw [nalBytes_cons, nalBytes_nil, List.append_nil] at hbuffer
    rw [← hbuffer] at hnal
    rw [nalMarks, List.map_nil, offsets, descriptorsOfMarks, decide_eq_true hend]
    simp only [Bool.and_self, if_true, hnal, bind, Except.bind]
    rw [hlength]
    rfl
  | cons next nals ih =>
    rw [nalBytes_cons] at hbuffer
    have hnext := ih next (before ++ nal.bytes) (by rw [hbuffer, List.append_assoc])
    rw [List.length_append] at hnext
    have hnal := parseAnnexBNalDescriptor_nal nal before (nalBytes (next :: nals))
    rw [← hbuffer] at hnal
    rw [descriptorsAt, nalMarks, List.map_cons, offsets, descriptorsOfMarks, hnal]
    simp only [bind, Except.bind]
    rw [show offsets (before.length + nal.bytes.length + next.frame.elements.length)
      (nals.map (·.frame)) = nalMarks (before.length + nal.bytes.length + next.bytes.length) nals from rfl,
      hnext]
    rfl

theorem parseAnnexBNalDescriptors_eq {buffer : List UInt8} {nal : AnnexBNal} {nals : List AnnexBNal}
    (hmarks : marks startCode 0 0 buffer = nalMarks 0 (nal :: nals)) (eof : Bool) :
    parseAnnexBNalDescriptors buffer eof =
      descriptorsOfMarks buffer eof 0 nal.frame.head.length (nalMarks (0 + nal.bytes.length) nals) := by
  obtain ⟨hscan, hrest⟩ := scan_of_marks_cons hmarks
  have hne : buffer.isEmpty = false := by
    cases buffer with
    | nil => cases hmarks
    | cons byte bytes => rfl
  rw [parseAnnexBNalDescriptors, hne, findAnnexBStartCode, List.drop_zero, hscan]
  simp only [Bool.false_eq_true, if_false, ne_eq, not_true_eq_false]
  rw [nalDescriptorsFrom_eq (by omega)]
  exact congrArg _ hrest

/-- However an encoder's stream is cut, the parser gives its first units as they are, or does not see
the first start code yet. -/
theorem parseAnnexBNalDescriptors_of_prefix {buffer : List UInt8} {nals : List AnnexBNal}
    (h : buffer <+: nalBytes nals) :
    parseAnnexBNalDescriptors buffer false = .error .missingStartCode ∨
      ∃ known later rest, nals = known ++ later ∧ buffer = nalBytes known ++ rest ∧
        parseAnnexBNalDescriptors buffer false = .ok (descriptorsAt 0 known) := by
  obtain ⟨shown, later, hframes, hmarks, rest, hrest⟩ := marks_of_prefix h
  obtain ⟨shown, later, rfl, rfl, rfl⟩ := List.map_eq_append_iff.mp hframes
  cases shown with
  | nil =>
    by_cases hempty : buffer.isEmpty
    · exact .inr ⟨[], later, buffer, rfl, rfl, if_pos hempty⟩
    · left
      rw [parseAnnexBNalDescriptors, if_neg hempty, findAnnexBStartCode, List.drop_zero,
        scan_of_marks_nil hmarks]
  | cons nal nals =>
    right
    have hbuffer : buffer = nalBytes (nal :: nals).dropLast ++ rest := by
      rw [hrest, nalBytes, List.map_dropLast]
    refine ⟨(nal :: nals).dropLast, (nal :: nals).getLast (List.cons_ne_nil nal nals) :: later, rest, ?_,
      hbuffer, ?_⟩
    · rw [List.append_cons, List.dropLast_append_getLast]
    · rw [parseAnnexBNalDescriptors_eq hmarks]
      exact descriptorsOfMarks_open nal nals [] rest hbuffer

theorem parseAnnexBNalDescriptors_eof (nals : List AnnexBNal) :
    parseAnnexBNalDescriptors (nalBytes nals) true = .ok (descriptorsAt 0 nals) := by
  cases nals with
  | nil => rfl
  | cons nal nals =>
    have hmarks : marks startCode 0 0 (nalBytes (nal :: nals)) = nalMarks 0 (nal :: nals) := by
      have hstream := marks_stream ((nal :: nals).map (·.frame)) [] 0
      rw [List.append_nil] at hstream
      exact hstream.trans (List.append_nil _)
    rw [parseAnnexBNalDescriptors_eq hmarks]
    exact descriptorsOfMarks_eof nal nals [] rfl

theorem newAccessUnitIndex_append (currentHasVcl : Bool) (units units' : List ClientAnnexBNalUnit)
    (h : newAccessUnitIndex currentHasVcl units = none) :
    newAccessUnitIndex currentHasVcl (units ++ units') =
      (newAccessUnitIndex (currentHasVcl || units.any (·.kind.isVcl)) units').map (· + units.length) := by
  induction units generalizing currentHasVcl with
  | nil =>
    rw [List.nil_append, List.any_nil, Bool.or_false]
    simp
  | cons unit units ih =>
    rw [newAccessUnitIndex] at h
    split at h
    next => cases h
    next hbegins =>
      rw [List.cons_append, newAccessUnitIndex, if_neg hbegins, ih _ (Option.map_eq_none_iff.mp h),
        List.any_cons, Bool.or_assoc, Option.map_map, List.length_cons]
      congr 1

theorem newAccessUnitIndex_none_left {currentHasVcl : Bool} {units units' : List ClientAnnexBNalUnit}
    (h : newAccessUnitIndex currentHasVcl (units ++ units') = none) :
    newAccessUnitIndex currentHasVcl units = none := by
  induction units generalizing currentHasVcl with
  | nil => rfl
  | cons unit units ih =>
    rw [List.cons_append, newAccessUnitIndex] at h
    split at h
    next => cases h
    next hbegins =>
      rw [newAccessUnitIndex, if_neg hbegins, ih (Option.map_eq_none_iff.mp h)]
      rfl

end StreamSync
