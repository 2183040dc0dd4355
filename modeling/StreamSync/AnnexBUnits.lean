import StreamSync.AnnexBStream
import StreamSync.Lib.Fallible
import StreamSync.Lib.Pieces

namespace StreamSync

open Framing

/-- The parts of a start code that a cut can leave. -/
def partialStartCodes : List (List UInt8) := [[], [0], [0, 0], [0, 0, 0]]

theorem mem_partialStartCodes {part rest : List UInt8} {n : Nat} (h : startCodeLen part = none)
    (h' : startCodeLen (part ++ rest) = some n) : part ∈ partialStartCodes := by
  have hlong : ¬[0, 0, 0, 1] <+: part := by
    intro hcode
    rw [startCodeLen, if_pos (List.isPrefixOf_iff_prefix.mpr hcode)] at h
    cases h
  have hshort : ¬[0, 0, 1] <+: part := by
    intro hcode
    rw [startCodeLen, if_neg (fun hp => hlong (List.isPrefixOf_iff_prefix.mp hp)),
      if_pos (List.isPrefixOf_iff_prefix.mpr hcode)] at h
    cases h
  have hcode : [0, 0, 0, 1] <+: part ++ rest ∨ [0, 0, 1] <+: part ++ rest := by
    unfold startCodeLen at h'
    split at h'
    next hp => exact .inl (List.isPrefixOf_iff_prefix.mp hp)
    next =>
      split at h'
      next hp => exact .inr (List.isPrefixOf_iff_prefix.mp hp)
      next => cases h'
  have hpart : part <+: [0, 0, 0, 1] ∧ part ≠ [0, 0, 0, 1] ∨ part <+: [0, 0, 1] ∧ part ≠ [0, 0, 1] := by
    rcases hcode with hcode | hcode
    · rcases List.prefix_or_prefix_of_prefix (List.prefix_append part rest) hcode with hp | hp
      · exact .inl ⟨hp, fun heq => hlong (heq ▸ List.prefix_rfl)⟩
      · exact absurd hp hlong
    · rcases List.prefix_or_prefix_of_prefix (List.prefix_append part rest) hcode with hp | hp
      · exact .inr ⟨hp, fun heq => hshort (heq ▸ List.prefix_rfl)⟩
      · exact absurd hp hshort
  simp only [List.prefix_cons_iff, List.prefix_nil] at hpart
  simp only [partialStartCodes, List.mem_cons, List.not_mem_nil, or_false]
  grind

theorem startCodeLen_partial {part : List UInt8} (h : part ∈ partialStartCodes) : startCodeLen part = none := by
  simp only [partialStartCodes, List.mem_cons, List.not_mem_nil, or_false] at h
  rcases h with rfl | rfl | rfl | rfl <;> rfl

theorem startCode_cutClean : startCode.CutClean := by
  intro part rest n h h' later hlater
  have hpart := mem_partialStartCodes h h'
  apply startCodeLen_partial
  simp only [partialStartCodes, List.mem_cons, List.not_mem_nil, or_false] at hpart ⊢
  rcases hpart with rfl | rfl | rfl | rfl
  · exact .inl (List.suffix_nil.mp hlater)
  all_goals
    simp only [List.suffix_cons_iff, List.suffix_nil] at hlater
    tauto

/-- The units of pieces of a stream. -/
def parsePieces (pieces : List (Nat × List UInt8)) :
    Except ClientAnnexBAccessUnitReaderMalformedReason (List ClientAnnexBNalUnit) :=
  pieces.mapM fun piece => parseNalUnit piece.1 piece.2

/-- The pieces that the parser looks into. Before the end of the stream the last may still grow, and at the
end it may be a start code alone. -/
def closedPieces (eof : Bool) (pieces : List (Nat × List UInt8)) : List (Nat × List UInt8) :=
  match eof, pieces.getLast? with
  | true, some (length, piece) => if length < piece.length then pieces else pieces.dropLast
  | _, _ => pieces.dropLast

/-- The units that the bytes show. -/
def unitsOf (eof : Bool) (bytes : List UInt8) :
    Except ClientAnnexBAccessUnitReaderMalformedReason (List ClientAnnexBNalUnit) :=
  match split startCode 0 bytes with
  | ([], pieces) => parsePieces (closedPieces eof pieces)
  | (_ :: _, _) => .error .missingStartCode

def unitBytes (nalUnits : List ClientAnnexBNalUnit) : List UInt8 := (nalUnits.map (·.bytes)).flatten

/-- The descriptors of units that stand one behind the other from the index on. -/
def placedFrom (index : Nat) : List ClientAnnexBNalUnit → List ClientAnnexBNalDescriptor
  | [] => []
  | nalUnit :: nalUnits =>
    ⟨index, index + nalUnit.bytes.length, nalUnit⟩ :: placedFrom (index + nalUnit.bytes.length) nalUnits

/-- An encoder's units are placed as the parser places what they show. -/
theorem descriptorsAt_eq_placedFrom (index : Nat) (nals : List AnnexBNal) :
    descriptorsAt index nals = placedFrom index (nals.map (·.nalUnit)) := by
  induction nals generalizing index with
  | nil => rfl
  | cons nal nals ih => rw [descriptorsAt, ih, List.map_cons, placedFrom, nal.nalUnit_bytes]

theorem nalBytes_eq_unitBytes (nals : List AnnexBNal) :
    nalBytes nals = unitBytes (nals.map (·.nalUnit)) := by
  induction nals with
  | nil => rfl
  | cons nal nals ih =>
    rw [nalBytes_cons, ih, ← nal.nalUnit_bytes]
    rfl

theorem closedPieces_cons_cons (eof : Bool) (piece piece' : Nat × List UInt8)
    (pieces : List (Nat × List UInt8)) :
    closedPieces eof (piece :: piece' :: pieces) = piece :: closedPieces eof (piece' :: pieces) := by
  unfold closedPieces
  rw [List.getLast?_cons_cons, List.dropLast_cons_cons]
  split
  next => split <;> rfl
  next => rfl

theorem closedPieces_append (eof : Bool) (closed : List (Nat × List UInt8)) {pieces : List (Nat × List UInt8)}
    (h : pieces ≠ []) : closedPieces eof (closed ++ pieces) = closed ++ closedPieces eof pieces := by
  induction closed with
  | nil => rfl
  | cons piece closed ih =>
    obtain ⟨next, more, hmore⟩ := List.exists_cons_of_ne_nil (List.append_ne_nil_of_right_ne_nil closed h)
    rw [List.cons_append, hmore, closedPieces_cons_cons, ← hmore, ih, List.cons_append]

theorem parsePieces_cons (piece : Nat × List UInt8) (pieces : List (Nat × List UInt8)) :
    parsePieces (piece :: pieces) = do
      let nalUnit ← parseNalUnit piece.1 piece.2
      let nalUnits ← parsePieces pieces
      return nalUnit :: nalUnits := by
  rw [parsePieces, List.mapM_cons]
  rfl

theorem parseAnnexBNalDescriptor_piece (n : Nat) (before piece after : List UInt8) :
    parseAnnexBNalDescriptor (before ++ (piece ++ after)) before.length n (before.length + piece.length) =
      (parseNalUnit n piece).map fun nalUnit => ⟨before.length, before.length + piece.length, nalUnit⟩ := by
  rw [parseAnnexBNalDescriptor, List.drop_left, Nat.add_sub_cancel_left, List.take_left]

/-- The loop over the start codes parses the pieces. -/
theorem descriptorsOfMarks_pieces {buffer : List UInt8} (eof : Bool) {n : Nat} {piece : List UInt8}
    (pieces : List (Nat × List UInt8)) (before : List UInt8)
    (hbuffer : buffer = before ++ joined ((n, piece) :: pieces)) :
    descriptorsOfMarks buffer eof before.length n (pieceMarks (before.length + piece.length) pieces) =
      (parsePieces (closedPieces eof ((n, piece) :: pieces))).map (placedFrom before.length) := by
  induction pieces generalizing n piece before with
  | nil =>
    have hlength : buffer.length = before.length + piece.length := by
      rw [hbuffer, joined_cons, joined_nil, List.append_nil, List.length_append]
    have hpiece := parseAnnexBNalDescriptor_piece n before piece []
    rw [List.append_nil] at hpiece
    rw [joined_cons, joined_nil, List.append_nil] at hbuffer
    rw [pieceMarks, descriptorsOfMarks, hlength, hbuffer, hpiece]
    cases eof with
    | false => rfl
    | true =>
      by_cases hlt : n < piece.length
      · have hend : before.length + n < before.length + piece.length := by omega
        have hclosed : closedPieces true [(n, piece)] = [(n, piece)] := if_pos hlt
        rw [decide_eq_true hend, hclosed, parsePieces_cons]
        cases hparse : parseNalUnit n piece with
        | error reason => rfl
        | ok nalUnit =>
          have hbytes := (parseNalUnit_eq_ok hparse).1
          change Except.ok [_] = Except.ok [_]
          rw [hbytes]
      · have hend : ¬before.length + n < before.length + piece.length := by omega
        have hclosed : closedPieces true [(n, piece)] = [] := if_neg hlt
        rw [decide_eq_false hend, hclosed]
        rfl
  | cons next pieces ih =>
    obtain ⟨n', piece'⟩ := next
    have hpiece := parseAnnexBNalDescriptor_piece n before piece (joined ((n', piece') :: pieces))
    rw [joined_cons] at hbuffer
    have hrest := ih (before ++ piece) (by rw [hbuffer, List.append_assoc])
    rw [List.length_append] at hrest
    rw [← hbuffer] at hpiece
    rw [pieceMarks, descriptorsOfMarks, hpiece, hrest, closedPieces_cons_cons, parsePieces_cons]
    cases hparse : parseNalUnit n piece with
    | error reason => rfl
    | ok nalUnit =>
      have hbytes := (parseNalUnit_eq_ok hparse).1
      cases parsePieces (closedPieces eof ((n', piece') :: pieces)) with
      | error reason => rfl
      | ok nalUnits =>
        change Except.ok (_ :: _) = Except.ok (_ :: _)
        rw [hbytes]

/-- The parser gives the units that the bytes show, each where it stands. -/
theorem parseAnnexBNalDescriptors_eq_unitsOf (buffer : List UInt8) (eof : Bool) :
    parseAnnexBNalDescriptors buffer eof = (unitsOf eof buffer).map (placedFrom 0) := by
  have hmarks := marks_eq_pieceMarks (m := startCode) 0 0 buffer
  have hjoined := joined_split (m := startCode) 0 buffer
  rw [parseAnnexBNalDescriptors, findAnnexBStartCode, List.drop_zero, unitsOf]
  generalize split startCode 0 buffer = parts at hmarks hjoined ⊢
  obtain ⟨before, pieces⟩ := parts
  dsimp only at hmarks hjoined
  rw [Nat.zero_add] at hmarks
  cases pieces with
  | nil =>
    rw [scan_of_marks_nil hmarks]
    rw [joined_nil, List.append_nil] at hjoined
    rw [← hjoined]
    cases before with
    | nil =>
      rw [if_pos List.isEmpty_nil]
      cases eof <;> rfl
    | cons byte before => rfl
  | cons piece pieces =>
    obtain ⟨n, piece⟩ := piece
    obtain ⟨hscan, hrest⟩ := scan_of_marks_cons hmarks
    have hne : ¬buffer.isEmpty := by
      intro hempty
      rw [List.isEmpty_iff.mp hempty] at hscan
      cases hscan
    rw [if_neg hne, hscan]
    cases before with
    | nil =>
      have hpieces := descriptorsOfMarks_pieces eof pieces [] hjoined.symm
      rw [List.length_nil, Nat.zero_add] at hpieces
      rw [List.length_nil, Nat.zero_add, Nat.sub_zero] at hrest
      dsimp only
      rw [List.length_nil, if_neg (by simp), nalDescriptorsFrom_eq (by omega), Nat.zero_add, hrest,
        Nat.zero_add]
      exact hpieces
    | cons byte before => rfl

theorem unitsOf_of_parse {bytes : List UInt8} {eof : Bool} {descriptors : List ClientAnnexBNalDescriptor}
    (h : parseAnnexBNalDescriptors bytes eof = .ok descriptors) :
    ∃ nalUnits, unitsOf eof bytes = .ok nalUnits := by
  rw [parseAnnexBNalDescriptors_eq_unitsOf] at h
  cases hunits : unitsOf eof bytes with
  | error reason =>
    rw [hunits] at h
    cases h
  | ok nalUnits => exact ⟨nalUnits, rfl⟩

theorem unitBytes_append (nalUnits nalUnits' : List ClientAnnexBNalUnit) :
    unitBytes (nalUnits ++ nalUnits') = unitBytes nalUnits ++ unitBytes nalUnits' := by
  rw [unitBytes, List.map_append, List.flatten_append]
  rfl

theorem joined_of_parsePieces {pieces : List (Nat × List UInt8)} {nalUnits : List ClientAnnexBNalUnit}
    (h : parsePieces pieces = .ok nalUnits) : joined pieces = unitBytes nalUnits := by
  induction pieces generalizing nalUnits with
  | nil =>
    cases h
    rfl
  | cons piece pieces ih =>
    rw [parsePieces_cons] at h
    obtain ⟨nalUnit, hnalUnit, h⟩ := Fallible.bind_eq_ok_iff.mp h
    obtain ⟨later, hlater, h⟩ := Fallible.bind_eq_ok_iff.mp h
    cases Except.ok.inj h
    rw [joined_cons, ih hlater, ← (parseNalUnit_eq_ok hnalUnit).1]
    rfl

theorem parsePieces_append (pieces pieces' : List (Nat × List UInt8)) :
    parsePieces (pieces ++ pieces') = do
      let nalUnits ← parsePieces pieces
      let nalUnits' ← parsePieces pieces'
      return nalUnits ++ nalUnits' := by
  rw [parsePieces, List.mapM_append]
  rfl

theorem parsePieces_eq_append {pieces : List (Nat × List UInt8)} {nalUnits later : List ClientAnnexBNalUnit}
    (h : parsePieces pieces = .ok (nalUnits ++ later)) :
    ∃ first rest, pieces = first ++ rest ∧ parsePieces first = .ok nalUnits ∧
      parsePieces rest = .ok later := by
  induction nalUnits generalizing pieces with
  | nil => exact ⟨[], pieces, rfl, rfl, h⟩
  | cons nalUnit nalUnits ih =>
    cases pieces with
    | nil => cases h
    | cons piece pieces =>
      rw [parsePieces_cons] at h
      obtain ⟨nalUnit', hnalUnit, h⟩ := Fallible.bind_eq_ok_iff.mp h
      obtain ⟨nalUnits', hnalUnits, h⟩ := Fallible.bind_eq_ok_iff.mp h
      obtain ⟨rfl, rfl⟩ := List.cons.inj (Except.ok.inj h)
      obtain ⟨first, rest, rfl, hfirst, hrest⟩ := ih hnalUnits
      refine ⟨piece :: first, rest, rfl, ?_, hrest⟩
      rw [parsePieces_cons, hnalUnit, hfirst]
      rfl

/-- Bytes that show units are these and a last piece, which may still grow. -/
theorem split_of_unitsOf {bytes : List UInt8} {nalUnits : List ClientAnnexBNalUnit}
    (h : unitsOf false bytes = .ok nalUnits) :
    bytes = [] ∧ nalUnits = [] ∨ ∃ closed n tail, split startCode 0 bytes = ([], closed ++ [(n, tail)]) ∧
      parsePieces closed = .ok nalUnits ∧ bytes = unitBytes nalUnits ++ tail := by
  have hjoined := joined_split (m := startCode) 0 bytes
  unfold unitsOf at h
  split at h
  next pieces hsplit =>
    rw [hsplit, List.nil_append] at hjoined
    rcases List.eq_nil_or_concat pieces with rfl | ⟨closed, last, rfl⟩
    · cases h
      exact .inl ⟨hjoined.symm, rfl⟩
    · rw [List.concat_eq_append] at hsplit hjoined h
      have hclosed : closedPieces false (closed ++ [last]) = closed := List.dropLast_concat
      rw [hclosed] at h
      rw [joined_append, joined_of_parsePieces h] at hjoined
      refine .inr ⟨closed, last.1, last.2, hsplit, h, ?_⟩
      rw [← hjoined, joined_cons, joined_nil, List.append_nil]
  next => cases h

/-- What follows is split behind the last start code. -/
theorem split_more {bytes tail : List UInt8} {closed : List (Nat × List UInt8)} {n : Nat}
    (h : split startCode 0 bytes = ([], closed ++ [(n, tail)])) (more : List UInt8) :
    ∃ pieces, pieces ≠ [] ∧ split startCode 0 (tail ++ more) = ([], pieces) ∧
      split startCode 0 (bytes ++ more) = ([], closed ++ pieces) := by
  have hlast : split startCode 0 tail = ([], [] ++ [(n, tail)]) := by
    have hsuffix : [(n, tail)] <:+ (split startCode 0 bytes).2 := by
      rw [h]
      exact List.suffix_append closed _
    have hlater := split_later hsuffix
    rwa [joined_cons, joined_nil, List.append_nil] at hlater
  have hne : tail ≠ [] := by
    rintro rfl
    cases hlast
  have hmore := split_append startCode_cutClean hlast more
  refine ⟨(split startCode 0 (tail ++ more)).2, ?_, hmore, split_append startCode_cutClean h more⟩
  intro hnone
  have hjoined := joined_split (m := startCode) 0 (tail ++ more)
  rw [congrArg Prod.fst hmore, hnone, joined_nil] at hjoined
  exact hne (List.append_eq_nil_iff.mp hjoined.symm).1

/-- What follows is parsed behind the units that the bytes show. -/
theorem unitsOf_append {nalUnits : List ClientAnnexBNalUnit} {tail : List UInt8}
    (h : unitsOf false (unitBytes nalUnits ++ tail) = .ok nalUnits) (eof : Bool) (more : List UInt8) :
    unitsOf eof (unitBytes nalUnits ++ tail ++ more) = (unitsOf eof (tail ++ more)).map (nalUnits ++ ·) := by
  rcases split_of_unitsOf h with ⟨hempty, rfl⟩ | ⟨closed, n, tail', hsplit, hclosed, hbytes⟩
  · rw [hempty, (List.append_eq_nil_iff.mp hempty).2, List.nil_append]
    cases unitsOf eof more <;> rfl
  · cases List.append_cancel_left hbytes
    obtain ⟨pieces, hpieces, hmore, hall⟩ := split_more hsplit more
    rw [unitsOf, hall, unitsOf, hmore]
    dsimp only
    rw [closedPieces_append eof closed hpieces, parsePieces_append, hclosed]
    cases parsePieces (closedPieces eof pieces) <;> rfl

/-- The units that the bytes show are also there without the first of them. -/
theorem unitsOf_later {nalUnits later : List ClientAnnexBNalUnit} {tail : List UInt8}
    (h : unitsOf false (unitBytes (nalUnits ++ later) ++ tail) = .ok (nalUnits ++ later)) :
    unitsOf false (unitBytes later ++ tail) = .ok later := by
  rcases split_of_unitsOf h with ⟨hempty, hnone⟩ | ⟨closed, n, tail', hsplit, hclosed, hbytes⟩
  · obtain ⟨rfl, rfl⟩ := List.append_eq_nil_iff.mp hnone
    rw [(List.append_eq_nil_iff.mp hempty).2]
    rfl
  · cases List.append_cancel_left hbytes
    obtain ⟨first, rest, rfl, _, hrest⟩ := parsePieces_eq_append hclosed
    have hsuffix : rest ++ [(n, tail)] <:+ (split startCode 0 (unitBytes (nalUnits ++ later) ++ tail)).2 := by
      rw [hsplit, List.append_assoc]
      exact List.suffix_append first _
    have hlater := split_later hsuffix
    rw [joined_append, joined_of_parsePieces hrest, joined_cons, joined_nil, List.append_nil] at hlater
    have hdrop : closedPieces false (rest ++ [(n, tail)]) = rest := List.dropLast_concat
    rw [unitsOf, hlater]
    dsimp only
    rw [hdrop, hrest]

end StreamSync
