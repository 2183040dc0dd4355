import StreamSync.AnnexBChunks

namespace StreamSync

open Framing Run ClientAnnexBAccessUnitReaderState ClientAnnexBAccessUnitReaderBoundary

/-- The state of the reader behind bytes that showed these units. -/
def readerBehind (nalUnits : List ClientAnnexBNalUnit) (tail : List UInt8) : ClientAnnexBAccessUnitReaderState :=
  ⟨unitBytes (openAccessUnit nalUnits) ++ tail⟩

section Units

variable {bytes tail : List UInt8} {nalUnits : List ClientAnnexBNalUnit}

theorem pollAccessUnit_none (hunits : unitsOf false (unitBytes nalUnits ++ tail) = .ok nalUnits)
    (hindex : newAccessUnitIndex false nalUnits = none) :
    pollAccessUnit ⟨unitBytes nalUnits ++ tail⟩ =
      (.noCompleteAccessUnitYet (unitBytes nalUnits ++ tail).length, ⟨unitBytes nalUnits ++ tail⟩) := by
  have hextract := tryExtract_of_unitsOf hunits rfl
  rw [hindex] at hextract
  change tryExtractAnnexBAccessUnit _ false = .ok none at hextract
  rw [pollAccessUnit, hextract]

theorem pollAccessUnit_some {index : Nat}
    (hunits : unitsOf false (unitBytes nalUnits ++ tail) = .ok nalUnits)
    (hindex : newAccessUnitIndex false nalUnits = some index) :
    pollAccessUnit ⟨unitBytes nalUnits ++ tail⟩ =
      (.accessUnit (accessUnitOf (nalUnits.take index)), ⟨unitBytes (nalUnits.drop index) ++ tail⟩) := by
  have hextract := tryExtract_of_unitsOf hunits rfl
  rw [hindex] at hextract
  rw [pollAccessUnit, hextract]

/-- Polling gives the access units that have ended, and leaves the open one. -/
theorem pollAll_of_unitsOf (fuel : Nat) (hfuel : (unitBytes nalUnits ++ tail).length ≤ fuel)
    (hunits : unitsOf false (unitBytes nalUnits ++ tail) = .ok nalUnits) :
    pollAll fuel ⟨unitBytes nalUnits ++ tail⟩ = ((endedAccessUnits nalUnits).map accessUnitOf,
      .noCompleteAccessUnitYet (readerBehind nalUnits tail).bufferedBytes.length, readerBehind nalUnits tail) := by
  induction fuel generalizing nalUnits with
  | zero =>
    have hempty := List.eq_nil_of_length_eq_zero (Nat.le_zero.mp hfuel)
    rw [hempty] at hunits
    cases hunits
    rw [(List.append_eq_nil_iff.mp hempty).2]
    rfl
  | succ fuel ih =>
    cases hindex : newAccessUnitIndex false nalUnits with
    | none =>
      obtain ⟨hopen, hended⟩ := endedAccessUnits_of_none hindex
      have hpoll := pollAccessUnit_none hunits hindex
      rw [pollAll_last (by rw [hpoll]; exact fun _ h => by cases h), hpoll, hended, readerBehind, hopen]
      rfl
    | some index =>
      obtain ⟨hopen, hended, _⟩ := endedAccessUnits_of_some hindex
      have hpoll := pollAccessUnit_some hunits hindex
      obtain ⟨_, hlt⟩ := pollAccessUnit_lossless hpoll
      have hlater : unitsOf false (unitBytes (nalUnits.drop index) ++ tail) = .ok (nalUnits.drop index) := by
        rw [← List.take_append_drop index nalUnits] at hunits
        exact unitsOf_later hunits
      have hrest := ih (by dsimp only at hlt; omega) hlater
      have hbehind : readerBehind nalUnits tail = readerBehind (nalUnits.drop index) tail := by
        rw [readerBehind, hopen, readerBehind]
      rw [pollAll_accessUnit hpoll, hrest, hended, hbehind]
      rfl

theorem unitsOf_openAccessUnit (hunits : unitsOf false (unitBytes nalUnits ++ tail) = .ok nalUnits) :
    unitsOf false (unitBytes (openAccessUnit nalUnits) ++ tail) = .ok (openAccessUnit nalUnits) := by
  rw [← flatten_endedAccessUnits nalUnits] at hunits
  exact unitsOf_later hunits

/-- Behind units that were shown, a chunk that shows more of them gives the access units that they end. -/
theorem feedChunk_of_unitsOf {more : List ClientAnnexBNalUnit} {chunk tail' : List UInt8}
    (hunits : unitsOf false (unitBytes nalUnits ++ tail) = .ok nalUnits)
    (hmore : unitsOf false (unitBytes nalUnits ++ tail ++ chunk) = .ok (nalUnits ++ more))
    (htail : tail ++ chunk = unitBytes more ++ tail') :
    feedChunk (readerBehind nalUnits tail) chunk = (readerBehind (nalUnits ++ more) tail',
      (endedAccessUnits (openAccessUnit nalUnits ++ more)).map accessUnitOf,
      .noCompleteAccessUnitYet (readerBehind (nalUnits ++ more) tail').bufferedBytes.length) := by
  have hchunk : unitsOf false (tail ++ chunk) = .ok more := by
    rw [unitsOf_append hunits false chunk] at hmore
    cases hrest : unitsOf false (tail ++ chunk) with
    | error reason =>
      rw [hrest] at hmore
      cases hmore
    | ok rest =>
      rw [hrest] at hmore
      rw [List.append_cancel_left (Except.ok.inj hmore)]
  have hopen := unitsOf_append (unitsOf_openAccessUnit hunits) false chunk
  rw [hchunk, List.append_assoc, htail, ← List.append_assoc, ← unitBytes_append] at hopen
  have hpoll := pollAll_of_unitsOf _ (Nat.le_refl _) hopen
  have hbuffer : appendBytes (readerBehind nalUnits tail) chunk =
      ⟨unitBytes (openAccessUnit nalUnits ++ more) ++ tail'⟩ := by
    rw [appendBytes, readerBehind, List.append_assoc, htail, ← List.append_assoc, ← unitBytes_append]
  rw [feedChunk, hbuffer]
  dsimp only
  rw [hpoll, readerBehind, readerBehind, ← openAccessUnit_append]

end Units

/-- What the reader has done with the bytes received: it has shown these units, and the bytes behind them it
could not parse yet. -/
structure ReaderBehind (received : List UInt8) (state : ClientAnnexBAccessUnitReaderState)
    (accessUnits : List ClientAnnexBAccessUnit) (nalUnits : List ClientAnnexBNalUnit)
    (tail unread : List UInt8) : Prop where
  received_eq : received = unitBytes nalUnits ++ tail ++ unread
  shown : unitsOf false (unitBytes nalUnits ++ tail) = .ok nalUnits
  state_eq : state = ⟨unitBytes (openAccessUnit nalUnits) ++ tail ++ unread⟩
  emitted : accessUnits = (endedAccessUnits nalUnits).map accessUnitOf
  unread_of_error : unread = [] ∨ ∃ reason, unitsOf false received = .error reason

section Runs

variable {received chunk tail unread : List UInt8} {state : ClientAnnexBAccessUnitReaderState}
  {accessUnits : List ClientAnnexBAccessUnit} {nalUnits : List ClientAnnexBNalUnit}

/-- The reader parses its buffer as it would parse all that was received. -/
theorem ReaderBehind.unitsOf_buffer (h : ReaderBehind received state accessUnits nalUnits tail unread)
    (chunk : List UInt8) :
    unitsOf false (received ++ chunk) = (unitsOf false (tail ++ (unread ++ chunk))).map (nalUnits ++ ·) ∧
      unitsOf false (state.bufferedBytes ++ chunk) =
        (unitsOf false (tail ++ (unread ++ chunk))).map (openAccessUnit nalUnits ++ ·) := by
  have hall := unitsOf_append h.shown false (unread ++ chunk)
  have hopen := unitsOf_append (unitsOf_openAccessUnit h.shown) false (unread ++ chunk)
  rw [← List.append_assoc (unitBytes nalUnits ++ tail), ← h.received_eq] at hall
  rw [h.state_eq]
  refine ⟨hall, ?_⟩
  rw [← hopen, List.append_assoc, List.append_assoc]

theorem feedChunk_of_error {reason : ClientAnnexBAccessUnitReaderMalformedReason}
    (h : unitsOf false (state.bufferedBytes ++ chunk) = .error reason) :
    feedChunk state chunk = (⟨state.bufferedBytes ++ chunk⟩, [],
      .malformedStream reason (state.bufferedBytes ++ chunk).length) := by
  have hpoll : pollAccessUnit ⟨state.bufferedBytes ++ chunk⟩ =
      (.malformedStream reason (state.bufferedBytes ++ chunk).length, ⟨state.bufferedBytes ++ chunk⟩) := by
    rw [pollAccessUnit, tryExtract_of_error h]
  have hlast : ∀ accessUnit, (pollAccessUnit ⟨state.bufferedBytes ++ chunk⟩).1 ≠ .accessUnit accessUnit := by
    rw [hpoll]
    exact fun _ h => by cases h
  rw [feedChunk, appendBytes, pollAll_last hlast, hpoll]

/-- A read after which the parser fails gives nothing and is called malformed. -/
theorem ReaderBehind.feed_error (h : ReaderBehind received state accessUnits nalUnits tail unread)
    {reason : ClientAnnexBAccessUnitReaderMalformedReason}
    (herror : unitsOf false (received ++ chunk) = .error reason) :
    (feedChunk state chunk).2 = ([], .malformedStream reason (state.bufferedBytes ++ chunk).length) ∧
      ReaderBehind (received ++ chunk) (feedChunk state chunk).1 accessUnits nalUnits tail (unread ++ chunk) := by
  obtain ⟨hall, hbuffer⟩ := h.unitsOf_buffer chunk
  have hfails : unitsOf false (state.bufferedBytes ++ chunk) = .error reason := by
    rw [hall] at herror
    cases hmore : unitsOf false (tail ++ (unread ++ chunk)) with
    | error reason' =>
      rw [hmore] at herror hbuffer
      exact hbuffer.trans herror
    | ok more =>
      rw [hmore] at herror
      cases herror
  rw [feedChunk_of_error hfails]
  refine ⟨rfl, ?_, h.shown, ?_, h.emitted, .inr ⟨reason, herror⟩⟩
  · rw [h.received_eq, List.append_assoc _ unread chunk]
  · rw [h.state_eq, List.append_assoc _ unread chunk]

/-- A read after which the parser succeeds brings the reader up to it. -/
theorem ReaderBehind.feed_ok (h : ReaderBehind received state accessUnits nalUnits tail unread)
    {shown : List ClientAnnexBNalUnit} (hok : unitsOf false (received ++ chunk) = .ok shown) :
    (∃ bufferedBytes, (feedChunk state chunk).2.2 = .noCompleteAccessUnitYet bufferedBytes) ∧
      ∃ tail', ReaderBehind (received ++ chunk) (feedChunk state chunk).1
        (accessUnits ++ (feedChunk state chunk).2.1) shown tail' [] := by
  obtain ⟨hall, _⟩ := h.unitsOf_buffer chunk
  cases hmore : unitsOf false (tail ++ (unread ++ chunk)) with
  | error reason =>
    rw [hall, hmore] at hok
    cases hok
  | ok more =>
    obtain ⟨⟨tail', htail⟩, _⟩ := unitsOf_bytes hmore
    have hshown : shown = nalUnits ++ more := by
      rw [hall, hmore] at hok
      exact (Except.ok.inj hok).symm
    have hreceived : received ++ chunk = unitBytes nalUnits ++ tail ++ (unread ++ chunk) := by
      rw [h.received_eq, List.append_assoc _ unread chunk]
    have hfeed : feedChunk state chunk = feedChunk (readerBehind nalUnits tail) (unread ++ chunk) := by
      rw [feedChunk, feedChunk, h.state_eq, appendBytes, appendBytes, readerBehind]
      dsimp only
      rw [List.append_assoc _ unread chunk]
    rw [hreceived, hshown] at hok
    have hchunk := feedChunk_of_unitsOf h.shown hok htail
    have hbytes : unitBytes nalUnits ++ tail ++ (unread ++ chunk) = unitBytes (nalUnits ++ more) ++ tail' := by
      rw [List.append_assoc, htail, unitBytes_append, List.append_assoc]
    rw [hfeed, hchunk, hshown]
    refine ⟨⟨_, rfl⟩, tail', ?_, ?_, ?_, ?_, .inl rfl⟩
    · rw [hreceived, hbytes, List.append_nil]
    · rw [← hbytes, hok]
    · rw [readerBehind, List.append_nil]
    · rw [h.emitted, endedAccessUnits_append nalUnits more, List.map_append]

end Runs

theorem run_feedChunk_behind (chunks : List (List UInt8)) :
    ∃ nalUnits tail unread, ReaderBehind chunks.flatten (run feedChunk .empty chunks).1
      ((run feedChunk .empty chunks).2.flatMap (·.1)) nalUnits tail unread := by
  induction chunks using List.reverseRecOn with
  | nil => exact ⟨[], [], [], rfl, rfl, rfl, rfl, .inl rfl⟩
  | append_singleton chunks chunk ih =>
    obtain ⟨nalUnits, tail, unread, hbehind⟩ := ih
    rw [run_concat, List.flatten_append, List.flatten_singleton, List.flatMap_append]
    have hone : ∀ fed : List ClientAnnexBAccessUnit × ClientAnnexBAccessUnitReaderPollResult,
        [fed].flatMap (·.1) = fed.1 := fun fed => List.append_nil fed.1
    rw [hone]
    cases hunits : unitsOf false (chunks.flatten ++ chunk) with
    | error reason =>
      obtain ⟨hfed, hnext⟩ := hbehind.feed_error hunits
      rw [hfed, List.append_nil]
      exact ⟨nalUnits, tail, unread ++ chunk, hnext⟩
    | ok shown =>
      obtain ⟨_, tail', hnext⟩ := hbehind.feed_ok hunits
      exact ⟨shown, tail', [], hnext⟩

/-- Where the parser succeeds on all that was received, that determines what the reader has done. -/
theorem ReaderBehind.unique {received tail unread tail' unread' : List UInt8}
    {state state' : ClientAnnexBAccessUnitReaderState} {accessUnits accessUnits' : List ClientAnnexBAccessUnit}
    {nalUnits nalUnits' shown : List ClientAnnexBNalUnit}
    (h : ReaderBehind received state accessUnits nalUnits tail unread)
    (h' : ReaderBehind received state' accessUnits' nalUnits' tail' unread')
    (hok : unitsOf false received = .ok shown) : state = state' ∧ accessUnits = accessUnits' := by
  obtain rfl : unread = [] := h.unread_of_error.resolve_right fun ⟨_, herror⟩ => by cases herror.symm.trans hok
  obtain rfl : unread' = [] := h'.unread_of_error.resolve_right fun ⟨_, herror⟩ => by cases herror.symm.trans hok
  have hshown := h.shown
  have hshown' := h'.shown
  have hreceived := h.received_eq
  have hreceived' := h'.received_eq
  rw [List.append_nil] at hreceived hreceived'
  rw [← hreceived] at hshown
  rw [← hreceived', hshown] at hshown'
  cases hshown'
  rw [hreceived] at hreceived'
  cases List.append_cancel_left hreceived'
  exact ⟨h.state_eq.trans h'.state_eq.symm, h.emitted.trans h'.emitted.symm⟩

theorem run_feedChunk_verdicts {chunks : List (List UInt8)}
    (hcuts : ∀ before, before <+: chunks → ∃ nalUnits, unitsOf false before.flatten = .ok nalUnits) :
    ∀ verdict ∈ (run feedChunk .empty chunks).2.map (·.2),
      ∃ bufferedBytes, verdict = .noCompleteAccessUnitYet bufferedBytes := by
  induction chunks using List.reverseRecOn with
  | nil => exact fun _ h => (List.not_mem_nil h).elim
  | append_singleton chunks chunk ih =>
    obtain ⟨nalUnits, tail, unread, hbehind⟩ := run_feedChunk_behind chunks
    obtain ⟨shown, hshown⟩ := hcuts (chunks ++ [chunk]) List.prefix_rfl
    rw [List.flatten_append, List.flatten_singleton] at hshown
    obtain ⟨hverdict, _⟩ := hbehind.feed_ok hshown
    intro verdict hmem
    rw [run_concat, List.map_append] at hmem
    rcases List.mem_append.mp hmem with hmem | hmem
    · exact ih (fun before hbefore => hcuts before (hbefore.trans (List.prefix_append chunks [chunk])))
        verdict hmem
    · rw [List.mem_singleton.mp hmem]
      exact hverdict

/-- Whether a start code is there depends on no more bytes than it has. -/
theorem startCodeLen_cut {bytes more : List UInt8} {n : Nat} (h : startCodeLen (bytes ++ more) = some n)
    (hle : n ≤ bytes.length) : startCodeLen bytes = some n := by
  cases hcut : startCodeLen bytes with
  | some length => exact (startCodeLen_append more hcut).symm.trans h
  | none =>
    have hpart := mem_partialStartCodes hcut h
    simp only [partialStartCodes, List.mem_cons, List.not_mem_nil, or_false] at hpart
    have hlong : 3 ≤ n := by
      unfold startCodeLen at h
      split at h
      next => cases h; omega
      next =>
        split at h
        next => cases h; omega
        next => cases h
    rcases hpart with rfl | rfl | rfl | rfl
    · exact absurd (hlong.trans hle) (by decide)
    · exact absurd (hlong.trans hle) (by decide)
    · exact absurd (hlong.trans hle) (by decide)
    · obtain rfl : n = 3 := Nat.le_antisymm hle hlong
      unfold startCodeLen at h
      split at h
      next => cases h
      next => simp at h

/-- What a stream shows up to a cut is parsed, if the stream is and the cut is not in the first start code. -/
theorem unitsOf_cut {bytes more : List UInt8} {nalUnits : List ClientAnnexBNalUnit} {eof : Bool} {n : Nat}
    (h : unitsOf eof (bytes ++ more) = .ok nalUnits) (hcode : startCodeLen bytes = some n) :
    ∃ shown, unitsOf false bytes = .ok shown := by
  cases bytes with
  | nil => cases hcode
  | cons byte bytes =>
    have hsplit := split_marked (m := startCode) hcode
    obtain ⟨closed, last, hpieces⟩ : ∃ closed last, (split startCode 0 (byte :: bytes)).2 = closed ++ [last] := by
      rcases List.eq_nil_or_concat (split startCode 0 (byte :: bytes)).2 with hnone | ⟨closed, last, hpieces⟩
      · rw [hsplit] at hnone
        cases hnone
      · exact ⟨closed, last, by rw [hpieces, List.concat_eq_append]⟩
    have hbegins : split startCode 0 (byte :: bytes) = ([], closed ++ [(last.1, last.2)]) :=
      Prod.ext (by rw [hsplit]) hpieces
    obtain ⟨pieces, hne, _, hall⟩ := split_more hbegins more
    rw [unitsOf, hall] at h
    dsimp only at h
    rw [closedPieces_append eof closed hne, parsePieces_append] at h
    obtain ⟨shown, hshown, _⟩ := Fallible.bind_eq_ok_iff.mp h
    have hclosed : closedPieces false (closed ++ [(last.1, last.2)]) = closed := List.dropLast_concat
    refine ⟨shown, ?_⟩
    rw [unitsOf, hbegins]
    dsimp only
    rw [hclosed, hshown]

theorem startCodeLen_of_unitsOf {bytes : List UInt8} {nalUnits : List ClientAnnexBNalUnit} {eof : Bool}
    (h : unitsOf eof bytes = .ok nalUnits) (hne : bytes ≠ []) : ∃ n, startCodeLen bytes = some n := by
  have hjoined := joined_split (m := startCode) 0 bytes
  unfold unitsOf at h
  split at h
  next pieces hsplit =>
    cases pieces with
    | nil =>
      rw [hsplit] at hjoined
      exact absurd hjoined.symm hne
    | cons piece pieces => exact ⟨piece.1, mark_of_split hsplit⟩
  next => cases h

/-- The first chunk holds the first start code. -/
def FirstStartCodeWhole (chunks : List (List UInt8)) : Prop :=
  ∀ n, startCodeLen chunks.flatten = some n → ∃ first later, chunks = first :: later ∧ n ≤ first.length

theorem unitsOf_of_cuts {chunks : List (List UInt8)} (hfirst : FirstStartCodeWhole chunks)
    {nalUnits : List ClientAnnexBNalUnit} (h : unitsOf true chunks.flatten = .ok nalUnits)
    {before : List (List UInt8)} (hbefore : before <+: chunks) :
    ∃ shown, unitsOf false before.flatten = .ok shown := by
  obtain ⟨after, rfl⟩ := hbefore
  by_cases hne : (before ++ after).flatten = []
  · rw [List.flatten_append] at hne
    exact ⟨[], by rw [(List.append_eq_nil_iff.mp hne).1]; rfl⟩
  · obtain ⟨n, hcode⟩ := startCodeLen_of_unitsOf h hne
    obtain ⟨first, later, hchunks, hle⟩ := hfirst n hcode
    cases before with
    | nil => exact ⟨[], rfl⟩
    | cons chunk before =>
      rw [List.cons_append] at hchunks
      obtain ⟨rfl, _⟩ := List.cons.inj hchunks
      have hwhole := hcode
      rw [List.cons_append, List.flatten_cons] at hwhole
      have hchunk := startCodeLen_append before.flatten (startCodeLen_cut hwhole hle)
      rw [List.flatten_append] at h
      exact unitsOf_cut h hchunk

/-- However a stream that parses to its end is cut behind its first start code, the reader gives the same
access units as for the stream in one piece, all of them whole, and never calls the stream malformed. With
the rest that the last `finish` reports they are the stream. -/
theorem readChunks_independent {bytes : List UInt8} {descriptors : List ClientAnnexBNalDescriptor}
    (hparse : parseAnnexBNalDescriptors bytes true = .ok descriptors) {chunks : List (List UInt8)}
    (hchunks : chunks.flatten = bytes) (hfirst : FirstStartCodeWhole chunks) :
    let reading := readChunks chunks
    reading.accessUnits = (readChunks [bytes]).accessUnits ∧ reading.last = (readChunks [bytes]).last ∧
      (∀ verdict ∈ reading.verdicts, ∃ bufferedBytes, verdict = .noCompleteAccessUnitYet bufferedBytes) ∧
      (∀ accessUnit, reading.last ≠ .accessUnit accessUnit) ∧
      (∀ accessUnit ∈ reading.accessUnits, accessUnit.Whole) ∧
      accessUnitBytes reading.accessUnits ++ reading.last.remainingBytes = bytes := by
  subst hchunks
  obtain ⟨nalUnits, hall⟩ := unitsOf_of_parse hparse
  obtain ⟨shown, hshown⟩ := unitsOf_of_cuts hfirst hall List.prefix_rfl
  obtain ⟨nalUnits₁, tail₁, unread₁, hbehind⟩ := run_feedChunk_behind chunks
  obtain ⟨nalUnits₂, tail₂, unread₂, hbehind'⟩ := run_feedChunk_behind [chunks.flatten]
  rw [List.flatten_singleton] at hbehind'
  obtain ⟨hstate, hfed⟩ := hbehind.unique hbehind' hshown
  have hverdicts := run_feedChunk_verdicts fun before hbefore => unitsOf_of_cuts hfirst hall hbefore
  obtain ⟨htaken, hlast⟩ := readChunks_lossless chunks
  refine ⟨?_, ?_, hverdicts, hlast, htaken.whole, htaken.bytes_eq.symm⟩
  · rw [readChunks, readChunks]
    dsimp only
    rw [hstate, hfed]
  · rw [readChunks, readChunks]
    dsimp only
    rw [hstate]

/-- A parameter set and two pictures, the second start code and the third cut. -/
def cutStartCodes : List (List UInt8) :=
  [[0, 0, 0, 1, 0x67], [0x11, 0, 0], [1, 0x65, 0x80, 0], [0, 1, 0x41, 0x80]]

theorem readChunks_independent_cutStartCodes :
    (readChunks cutStartCodes).accessUnits = (readChunks [cutStartCodes.flatten]).accessUnits ∧
      (readChunks cutStartCodes).accessUnits.length = 2 := by
  obtain ⟨descriptors, hparse⟩ :
      ∃ descriptors, parseAnnexBNalDescriptors cutStartCodes.flatten true = .ok descriptors := ⟨_, rfl⟩
  have hfirst : FirstStartCodeWhole cutStartCodes := by
    intro n hcode
    have hn : n = 4 := (Option.some.inj hcode).symm
    exact ⟨[0, 0, 0, 1, 0x67], _, rfl, by rw [hn]; decide⟩
  exact ⟨(readChunks_independent hparse rfl hfirst).1, by decide +kernel⟩

end StreamSync
