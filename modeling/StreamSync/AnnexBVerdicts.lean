import StreamSync.AnnexBCutting

namespace StreamSync

open Framing Run ClientAnnexBAccessUnitReaderState ClientAnnexBAccessUnitReaderBoundary

/-- A stream that parses to its end. -/
def WellFormedStream (bytes : List UInt8) : Prop :=
  ∃ descriptors, parseAnnexBNalDescriptors bytes true = .ok descriptors

/-- The units of the pieces before the first that is malformed. -/
def unitsBefore : List (Nat × List UInt8) → List ClientAnnexBNalUnit
  | [] => []
  | (length, piece) :: pieces =>
    match parseNalUnit length piece with
    | .ok nalUnit => nalUnit :: unitsBefore pieces
    | .error _ => []

/-- The units of a stream before its first malformed NAL unit. The last piece may still grow. -/
def unitsBeforeMalformed (bytes : List UInt8) : List ClientAnnexBNalUnit :=
  match split startCode 0 bytes with
  | ([], pieces) => unitsBefore pieces.dropLast
  | (_ :: _, _) => []

/-- A start code stands behind a NAL unit that is malformed. -/
def ShowsMalformedNal (bytes : List UInt8) : Prop :=
  ∃ pieces, split startCode 0 bytes = ([], pieces) ∧
    ∃ piece ∈ pieces.dropLast, ∃ reason, parseNalUnit piece.1 piece.2 = .error reason

/-- A poll calls the stream malformed only when nothing could follow that makes it well formed. -/
def NeverCondemnsEarly (chunks : List (List UInt8)) : Prop :=
  ∀ before chunk after, chunks = before ++ chunk :: after → ∀ reason bufferedBytes,
    (feedChunk (run feedChunk .empty before).1 chunk).2.2 = .malformedStream reason bufferedBytes →
    ∀ more, ¬WellFormedStream (before.flatten ++ chunk ++ more)

/-- The polls give every access unit that ends before the first malformed NAL unit. -/
def EmitsBeforeMalformed (chunks : List (List UInt8)) : Prop :=
  (run feedChunk .empty chunks).2.flatMap (·.1) =
    (endedAccessUnits (unitsBeforeMalformed chunks.flatten)).map accessUnitOf

/-- A read that leaves the reader right: not only a part of the first start code has been received then, and
when the read shows the first malformed NAL unit, no access unit ends in the same read. -/
structure ReadAllowed (received chunk : List UInt8) : Prop where
  startCode_whole : received ++ chunk ∉ [[0], [0, 0], [0, 0, 0]]
  malformed_alone : ShowsMalformedNal (received ++ chunk) → ¬ShowsMalformedNal received →
    endedAccessUnits (unitsBeforeMalformed (received ++ chunk)) =
      endedAccessUnits (unitsBeforeMalformed received)

section Malformed

variable {bytes : List UInt8}

theorem unitsBefore_of_ok {pieces : List (Nat × List UInt8)} {nalUnits : List ClientAnnexBNalUnit}
    (h : parsePieces pieces = .ok nalUnits) : unitsBefore pieces = nalUnits := by
  induction pieces generalizing nalUnits with
  | nil =>
    cases h
    rfl
  | cons piece pieces ih =>
    rw [parsePieces_cons] at h
    obtain ⟨nalUnit, hnalUnit, h⟩ := Fallible.bind_eq_ok_iff.mp h
    obtain ⟨later, hlater, h⟩ := Fallible.bind_eq_ok_iff.mp h
    cases Except.ok.inj h
    rw [unitsBefore, hnalUnit, ih hlater]

theorem unitsBefore_append {pieces : List (Nat × List UInt8)}
    (h : ∃ piece ∈ pieces, ∃ reason, parseNalUnit piece.1 piece.2 = .error reason)
    (more : List (Nat × List UInt8)) : unitsBefore (pieces ++ more) = unitsBefore pieces := by
  obtain ⟨bad, hmem, reason, hbad⟩ := h
  induction pieces with
  | nil => cases hmem
  | cons piece pieces ih =>
    rw [List.cons_append, unitsBefore, unitsBefore]
    cases hpiece : parseNalUnit piece.1 piece.2 with
    | error reason => rfl
    | ok nalUnit =>
      rcases List.mem_cons.mp hmem with rfl | hmem
      · cases hpiece.symm.trans hbad
      · rw [ih hmem]

theorem unitsBeforeMalformed_of_ok {nalUnits : List ClientAnnexBNalUnit}
    (h : unitsOf false bytes = .ok nalUnits) : unitsBeforeMalformed bytes = nalUnits := by
  unfold unitsOf at h
  unfold unitsBeforeMalformed
  generalize split startCode 0 bytes = parts at h ⊢
  obtain ⟨before, pieces⟩ := parts
  cases before with
  | nil => exact unitsBefore_of_ok h
  | cons byte before => cases h

/-- What follows a malformed NAL unit changes neither it nor the units before it. -/
theorem ShowsMalformedNal.append (h : ShowsMalformedNal bytes) (more : List UInt8) :
    ShowsMalformedNal (bytes ++ more) ∧ unitsBeforeMalformed (bytes ++ more) = unitsBeforeMalformed bytes := by
  obtain ⟨pieces, hsplit, bad, hmem, reason, hbad⟩ := h
  rcases List.eq_nil_or_concat pieces with rfl | ⟨closed, last, rfl⟩
  · cases hmem
  · rw [List.concat_eq_append] at hsplit hmem
    rw [List.dropLast_concat] at hmem
    obtain ⟨pieces, hne, _, hall⟩ := split_more hsplit more
    have hdrop : (closed ++ pieces).dropLast = closed ++ pieces.dropLast := List.dropLast_append_of_ne_nil hne
    refine ⟨⟨_, hall, bad, ?_, reason, hbad⟩, ?_⟩
    · rw [hdrop]
      exact List.mem_append_left _ hmem
    · rw [unitsBeforeMalformed, hall, unitsBeforeMalformed, hsplit]
      dsimp only
      rw [hdrop, List.dropLast_concat]
      exact unitsBefore_append ⟨bad, hmem, reason, hbad⟩ _

theorem ShowsMalformedNal.unitsOf_error (h : ShowsMalformedNal bytes) :
    ∃ reason, unitsOf false bytes = .error reason := by
  obtain ⟨pieces, hsplit, bad, hmem, reason, hbad⟩ := h
  cases hunits : unitsOf false bytes with
  | error reason => exact ⟨reason, rfl⟩
  | ok nalUnits =>
    unfold unitsOf at hunits
    rw [hsplit] at hunits
    obtain ⟨nalUnit, hnalUnit⟩ := Fallible.ok_of_mapM_ok hunits hmem
    cases hbad.symm.trans hnalUnit

/-- The parser fails for a malformed NAL unit, or because the stream does not begin with a start code. -/
theorem startCodeLen_of_unitsOf_error {reason : ClientAnnexBAccessUnitReaderMalformedReason}
    (h : unitsOf false bytes = .error reason) (hshows : ¬ShowsMalformedNal bytes) :
    startCodeLen bytes = none := by
  cases hcode : startCodeLen bytes with
  | none => rfl
  | some n =>
    exfalso
    cases bytes with
    | nil => cases hcode
    | cons byte bytes =>
      have hsplit := split_marked (m := startCode) hcode
      unfold unitsOf at h
      rw [hsplit] at h
      have hok : ∀ piece ∈ ((n, byte :: (split startCode (n - 1) bytes).1) ::
          (split startCode (n - 1) bytes).2).dropLast,
          ∃ nalUnit, parseNalUnit piece.1 piece.2 = .ok nalUnit := by
        intro piece hmem
        cases hpiece : parseNalUnit piece.1 piece.2 with
        | ok nalUnit => exact ⟨nalUnit, rfl⟩
        | error reason => exact absurd ⟨_, hsplit, piece, hmem, reason, hpiece⟩ hshows
      obtain ⟨nalUnits, hnalUnits⟩ := Fallible.mapM_ok_of_forall hok
      cases h.symm.trans hnalUnits

theorem unitsBeforeMalformed_of_startCodeLen (h : startCodeLen bytes = none) :
    unitsBeforeMalformed bytes = [] := by
  cases bytes with
  | nil => rfl
  | cons byte bytes => rw [unitsBeforeMalformed, split_unmarked (m := startCode) h]

/-- What the parser fails on stays wrong, but for a part of the first start code. -/
theorem not_wellFormedStream_append {reason : ClientAnnexBAccessUnitReaderMalformedReason}
    (h : unitsOf false bytes = .error reason) (hpart : bytes ∉ [[0], [0, 0], [0, 0, 0]])
    (more : List UInt8) : ¬WellFormedStream (bytes ++ more) := by
  rintro ⟨descriptors, hparse⟩
  obtain ⟨nalUnits, hunits⟩ := unitsOf_of_parse hparse
  have hne : bytes ≠ [] := by
    rintro rfl
    cases h
  obtain ⟨n, hcode⟩ := startCodeLen_of_unitsOf hunits (List.append_ne_nil_of_left_ne_nil hne more)
  cases hbytes : startCodeLen bytes with
  | some n =>
    obtain ⟨shown, hshown⟩ := unitsOf_cut hunits hbytes
    cases h.symm.trans hshown
  | none =>
    rcases List.mem_cons.mp (mem_partialStartCodes hbytes hcode) with hempty | hmem
    · exact hne hempty
    · exact hpart hmem

end Malformed

/-- As long as no malformed NAL unit shows, every access unit that has ended is given. -/
theorem emitsBeforeMalformed_of_not_shows {chunks : List (List UInt8)}
    (h : ¬ShowsMalformedNal chunks.flatten) : EmitsBeforeMalformed chunks := by
  obtain ⟨nalUnits, tail, unread, hbehind⟩ := run_feedChunk_behind chunks
  have hshown := hbehind.shown
  have hreceived := hbehind.received_eq
  rw [EmitsBeforeMalformed, hbehind.emitted]
  rcases hbehind.unread_of_error with rfl | ⟨reason, herror⟩
  · rw [List.append_nil] at hreceived
    rw [hreceived, unitsBeforeMalformed_of_ok hshown]
  · have hcode := startCodeLen_of_unitsOf_error herror h
    have hempty : unitBytes nalUnits ++ tail = [] := by
      by_contra hne
      obtain ⟨n, hstart⟩ := startCodeLen_of_unitsOf hshown hne
      have hlonger := startCodeLen_append unread hstart
      rw [← hreceived, hcode] at hlonger
      cases hlonger
    rw [hempty] at hshown
    cases hshown
    rw [unitsBeforeMalformed_of_startCodeLen hcode]
    rfl

/-- The reads of a run, one after the other. -/
theorem forall_reads_append {P : List UInt8 → List UInt8 → Prop} {chunks : List (List UInt8)}
    {chunk : List UInt8} :
    (∀ before read after, chunks ++ [chunk] = before ++ read :: after → P before.flatten read) ↔
      (∀ before read after, chunks = before ++ read :: after → P before.flatten read) ∧
        P chunks.flatten chunk := by
  constructor
  · intro h
    refine ⟨fun before read after hchunks => h before read (after ++ [chunk]) ?_, h chunks chunk [] rfl⟩
    rw [hchunks, List.append_assoc, List.cons_append]
  · rintro ⟨hearlier, hlast⟩ before read after hchunks
    rcases List.eq_nil_or_concat after with rfl | ⟨after, last, rfl⟩
    · obtain ⟨rfl, hread⟩ := List.append_inj' hchunks rfl
      rw [← (List.cons.inj hread).1]
      exact hlast
    · rw [List.concat_eq_append, ← List.cons_append, ← List.append_assoc] at hchunks
      exact hearlier before read after (List.append_inj' hchunks rfl).1

theorem accessUnitOf_injective : Function.Injective accessUnitOf :=
  fun _ _ h => congrArg ClientAnnexBAccessUnit.nalUnits h

/-- The access units that have ended are lost only in the read that shows the malformed NAL unit. -/
theorem emitsBeforeMalformed_iff (chunks : List (List UInt8)) :
    EmitsBeforeMalformed chunks ↔ ∀ before read after, chunks = before ++ read :: after →
      ShowsMalformedNal (before.flatten ++ read) → ¬ShowsMalformedNal before.flatten →
      endedAccessUnits (unitsBeforeMalformed (before.flatten ++ read)) =
        endedAccessUnits (unitsBeforeMalformed before.flatten) := by
  induction chunks using List.reverseRecOn with
  | nil =>
    refine iff_of_true rfl fun before read after h => ?_
    exact absurd h.symm (List.append_ne_nil_of_right_ne_nil before (List.cons_ne_nil read after))
  | append_singleton chunks chunk ih =>
    rw [forall_reads_append (P := fun received read => ShowsMalformedNal (received ++ read) →
      ¬ShowsMalformedNal received → endedAccessUnits (unitsBeforeMalformed (received ++ read)) =
        endedAccessUnits (unitsBeforeMalformed received)), ← ih]
    have hflatten : (chunks ++ [chunk]).flatten = chunks.flatten ++ chunk := by
      rw [List.flatten_append, List.flatten_singleton]
    by_cases hshows : ShowsMalformedNal (chunks.flatten ++ chunk)
    · obtain ⟨nalUnits, tail, unread, hbehind⟩ := run_feedChunk_behind chunks
      obtain ⟨reason, herror⟩ := hshows.unitsOf_error
      obtain ⟨hfed, _⟩ := hbehind.feed_error herror
      have hnothing : (run feedChunk .empty (chunks ++ [chunk])).2.flatMap (·.1) =
          (run feedChunk .empty chunks).2.flatMap (·.1) := by
        rw [run_concat, List.flatMap_append, hfed]
        exact List.append_nil _
      rw [EmitsBeforeMalformed, hnothing, hflatten]
      by_cases hbefore : ShowsMalformedNal chunks.flatten
      · rw [(hbefore.append chunk).2]
        exact ⟨fun h => ⟨h, fun _ hnot => absurd hbefore hnot⟩, fun h => h.1⟩
      · have hemits := emitsBeforeMalformed_of_not_shows hbefore
        rw [show (run feedChunk .empty chunks).2.flatMap (·.1) = _ from hemits,
          (List.map_injective_iff.mpr accessUnitOf_injective).eq_iff]
        exact ⟨fun h => ⟨hemits, fun _ _ => h.symm⟩, fun h => (h.2 hshows hbefore).symm⟩
    · have hbefore : ¬ShowsMalformedNal chunks.flatten := fun h => hshows (h.append chunk).1
      refine iff_of_true (emitsBeforeMalformed_of_not_shows (by rw [hflatten]; exact hshows)) ?_
      exact ⟨emitsBeforeMalformed_of_not_shows hbefore, fun h => absurd h hshows⟩

/-- A part of the first start code does not parse, but a stream can begin with it. -/
theorem wellFormedStream_of_part {part : List UInt8} (h : part ∈ [[0], [0, 0], [0, 0, 0]]) :
    (∃ reason, unitsOf false part = .error reason) ∧ ∃ more, WellFormedStream (part ++ more) := by
  simp only [List.mem_cons, List.not_mem_nil, or_false] at h
  rcases h with rfl | rfl | rfl
  · exact ⟨⟨_, rfl⟩, [0, 1], _, rfl⟩
  · exact ⟨⟨_, rfl⟩, [1], _, rfl⟩
  · exact ⟨⟨_, rfl⟩, [1], _, rfl⟩

/-- The reader condemns a stream early only for a part of the first start code. -/
theorem neverCondemnsEarly_iff (chunks : List (List UInt8)) :
    NeverCondemnsEarly chunks ↔ ∀ before read after, chunks = before ++ read :: after →
      before.flatten ++ read ∉ [[0], [0, 0], [0, 0, 0]] := by
  constructor
  · intro hnever before read after hchunks hpart
    obtain ⟨⟨reason, herror⟩, more, hwell⟩ := wellFormedStream_of_part hpart
    obtain ⟨nalUnits, tail, unread, hbehind⟩ := run_feedChunk_behind before
    obtain ⟨hfed, _⟩ := hbehind.feed_error herror
    exact hnever before read after hchunks reason _ (congrArg Prod.snd hfed) more hwell
  · intro hwhole before read after hchunks reason bufferedBytes hverdict more
    obtain ⟨nalUnits, tail, unread, hbehind⟩ := run_feedChunk_behind before
    cases hunits : unitsOf false (before.flatten ++ read) with
    | error reason' => exact not_wellFormedStream_append hunits (hwhole before read after hchunks) more
    | ok shown =>
      obtain ⟨⟨_, hverdict'⟩, _⟩ := hbehind.feed_ok hunits
      cases hverdict.symm.trans hverdict'

/-- A run in which every read is allowed is one in which the reader does what it should. -/
theorem reader_right_iff (chunks : List (List UInt8)) :
    NeverCondemnsEarly chunks ∧ EmitsBeforeMalformed chunks ↔
      ∀ before read after, chunks = before ++ read :: after → ReadAllowed before.flatten read := by
  rw [neverCondemnsEarly_iff, emitsBeforeMalformed_iff]
  constructor
  · rintro ⟨hwhole, halone⟩ before read after hchunks
    exact ⟨hwhole before read after hchunks, halone before read after hchunks⟩
  · intro hallowed
    exact ⟨fun before read after hchunks => (hallowed before read after hchunks).startCode_whole,
      fun before read after hchunks => (hallowed before read after hchunks).malformed_alone⟩

/-- A picture, the first slice of the next one, and a NAL unit with a bad header. -/
def pictureThenMalformed : List (List UInt8) :=
  [[0, 0, 1, 0x65, 0x80, 0, 0, 1, 0x41, 0x80, 0, 0, 1], [0x80, 0, 0, 1]]

/-- A read that ends inside the first start code is called malformed, and a read that brings the malformed
NAL unit together with the picture before it loses the picture, which two reads give. -/
theorem reader_condemns_and_loses :
    ¬NeverCondemnsEarly [[0, 0], [1, 0x67, 0x11]] ∧ ¬EmitsBeforeMalformed [pictureThenMalformed.flatten] ∧
      EmitsBeforeMalformed pictureThenMalformed := by
  refine ⟨?_, ?_, ?_⟩
  · intro hnever
    exact hnever [] [0, 0] [[1, 0x67, 0x11]] rfl .missingStartCode 2 rfl [1, 0x67, 0x11] ⟨_, rfl⟩
  · unfold EmitsBeforeMalformed
    decide +kernel
  · unfold EmitsBeforeMalformed
    decide +kernel

end StreamSync
