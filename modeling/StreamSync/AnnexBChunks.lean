import StreamSync.AnnexBAccessUnits

namespace StreamSync

open Framing Run ClientAnnexBAccessUnitReaderState ClientAnnexBAccessUnitReaderBoundary

/-- Polls up to the first poll without an access unit. An access unit takes a byte at least, so the fuel of
the buffered bytes is enough. -/
def pollAll : Nat → ClientAnnexBAccessUnitReaderState →
    List ClientAnnexBAccessUnit × ClientAnnexBAccessUnitReaderPollResult × ClientAnnexBAccessUnitReaderState
  | 0, state => ([], pollAccessUnit state)
  | fuel + 1, state =>
    match pollAccessUnit state with
    | (.accessUnit accessUnit, state) => (accessUnit :: (pollAll fuel state).1, (pollAll fuel state).2)
    | last => ([], last)

/-- A chunk is appended and polled; the output is its access units and the verdict of the last poll. -/
def feedChunk (state : ClientAnnexBAccessUnitReaderState) (chunk : List UInt8) :
    ClientAnnexBAccessUnitReaderState ×
      (List ClientAnnexBAccessUnit × ClientAnnexBAccessUnitReaderPollResult) :=
  let state := appendBytes state chunk
  let (accessUnits, verdict, state) := pollAll state.bufferedBytes.length state
  (state, accessUnits, verdict)

/-- `finish` up to the first result that is no access unit. -/
def finishAll : Nat → ClientAnnexBAccessUnitReaderState →
    List ClientAnnexBAccessUnit × ClientAnnexBAccessUnitReaderFinishResult
  | 0, state => ([], (finish state).1)
  | fuel + 1, state =>
    match finish state with
    | (.accessUnit accessUnit, state) => (accessUnit :: (finishAll fuel state).1, (finishAll fuel state).2)
    | (last, _) => ([], last)

/-- What the reader gives for a stream that is read in chunks. -/
structure AnnexBReading where
  accessUnits : List ClientAnnexBAccessUnit
  verdicts : List ClientAnnexBAccessUnitReaderPollResult
  last : ClientAnnexBAccessUnitReaderFinishResult
deriving DecidableEq, Repr

def readChunks (chunks : List (List UInt8)) : AnnexBReading :=
  let (state, fed) := run feedChunk .empty chunks
  let (accessUnits, last) := finishAll state.bufferedBytes.length state
  ⟨fed.flatMap (·.1) ++ accessUnits, fed.map (·.2), last⟩

def ClientAnnexBAccessUnitReaderFinishResult.remainingBytes :
    ClientAnnexBAccessUnitReaderFinishResult → List UInt8
  | .accessUnit _ => []
  | .eofNoBufferedData => []
  | .eofWithIncompleteData _ remainingBytes => remainingBytes
  | .malformedStream _ remainingBytes => remainingBytes

/-- The access unit holds a slice and is its units one behind the other. -/
structure ClientAnnexBAccessUnit.Whole (accessUnit : ClientAnnexBAccessUnit) : Prop where
  hasSlice : ∃ nalUnit ∈ accessUnit.nalUnits, nalUnit.kind.isVcl = true
  bytes_eq : accessUnit.bytes = (accessUnit.nalUnits.map (·.bytes)).flatten

def accessUnitBytes (accessUnits : List ClientAnnexBAccessUnit) : List UInt8 :=
  (accessUnits.map (·.bytes)).flatten

/-- The access units are whole, and were in front of the rest. -/
structure TakenFrom (bytes : List UInt8) (accessUnits : List ClientAnnexBAccessUnit) (rest : List UInt8) :
    Prop where
  whole : ∀ accessUnit ∈ accessUnits, accessUnit.Whole
  bytes_eq : bytes = accessUnitBytes accessUnits ++ rest

namespace TakenFrom

variable {bytes rest later : List UInt8} {accessUnits accessUnits' : List ClientAnnexBAccessUnit}

theorem nothing (bytes : List UInt8) : TakenFrom bytes [] bytes :=
  ⟨fun _ h => (List.not_mem_nil h).elim, rfl⟩

theorem one {accessUnit : ClientAnnexBAccessUnit} (hwhole : accessUnit.Whole)
    (hbytes : bytes = accessUnit.bytes ++ rest) : TakenFrom bytes [accessUnit] rest := by
  refine ⟨fun other hmem => ?_, ?_⟩
  · rw [List.mem_singleton.mp hmem]
    exact hwhole
  · rw [accessUnitBytes, List.map_singleton, List.flatten_singleton, hbytes]

theorem append (h : TakenFrom bytes accessUnits rest) (h' : TakenFrom rest accessUnits' later) :
    TakenFrom bytes (accessUnits ++ accessUnits') later := by
  refine ⟨fun accessUnit hmem => ?_, ?_⟩
  · rcases List.mem_append.mp hmem with hmem | hmem
    · exact h.whole accessUnit hmem
    · exact h'.whole accessUnit hmem
  · rw [h.bytes_eq, h'.bytes_eq, accessUnitBytes, accessUnitBytes, accessUnitBytes, List.map_append,
      List.flatten_append, List.append_assoc]

theorem followed (h : TakenFrom bytes accessUnits rest) (more : List UInt8) :
    TakenFrom (bytes ++ more) accessUnits (rest ++ more) :=
  ⟨h.whole, by rw [h.bytes_eq, List.append_assoc]⟩

end TakenFrom

section Lossless

variable {state state' : ClientAnnexBAccessUnitReaderState} {accessUnit : ClientAnnexBAccessUnit} {eof : Bool}

theorem unitsOf_bytes {bytes : List UInt8} {nalUnits : List ClientAnnexBNalUnit}
    (h : unitsOf eof bytes = .ok nalUnits) :
    (∃ tail, bytes = unitBytes nalUnits ++ tail) ∧ ∀ nalUnit ∈ nalUnits, nalUnit.bytes ≠ [] := by
  have hjoined := joined_split (m := startCode) 0 bytes
  unfold unitsOf at h
  split at h
  next pieces hsplit =>
    rw [hsplit, List.nil_append] at hjoined
    obtain ⟨more, hmore⟩ : closedPieces eof pieces <+: pieces := by
      unfold closedPieces
      split
      next =>
        split
        · exact List.prefix_rfl
        · exact List.dropLast_prefix pieces
      next => exact List.dropLast_prefix pieces
    refine ⟨⟨joined more, ?_⟩, ?_⟩
    · rw [← joined_of_parsePieces h, ← joined_append, hmore, hjoined]
    · intro nalUnit hmem
      obtain ⟨piece, _, hpiece⟩ := Fallible.mem_of_mapM_ok h hmem
      obtain ⟨hbytes, hlt⟩ := parseNalUnit_eq_ok hpiece
      rw [hbytes]
      rintro hempty
      rw [hempty] at hlt
      exact Nat.not_lt_zero _ hlt
  next => cases h

theorem length_unitBytes_pos {nalUnits : List ClientAnnexBNalUnit}
    (h : ∀ nalUnit ∈ nalUnits, nalUnit.bytes ≠ []) (hvcl : nalUnits.any (·.kind.isVcl) = true) :
    0 < (unitBytes nalUnits).length := by
  cases nalUnits with
  | nil => cases hvcl
  | cons nalUnit nalUnits =>
    have hpos := List.length_pos_iff.mpr (h nalUnit List.mem_cons_self)
    rw [show unitBytes (nalUnit :: nalUnits) = nalUnit.bytes ++ unitBytes nalUnits from rfl, List.length_append]
    omega

theorem accessUnitOf_whole {nalUnits : List ClientAnnexBNalUnit} (h : nalUnits.any (·.kind.isVcl) = true) :
    (accessUnitOf nalUnits).Whole :=
  ⟨List.any_eq_true.mp h, rfl⟩

/-- An access unit is whole and is what was at the front of the buffer. -/
theorem tryExtract_lossless (h : tryExtractAnnexBAccessUnit state eof = .ok (some (accessUnit, state'))) :
    TakenFrom state.bufferedBytes [accessUnit] state'.bufferedBytes ∧
      state'.bufferedBytes.length < state.bufferedBytes.length := by
  obtain ⟨bytes⟩ := state
  cases hunits : unitsOf eof bytes with
  | error reason => cases (tryExtract_of_error hunits).symm.trans h
  | ok nalUnits =>
    obtain ⟨⟨tail, hbytes⟩, hne⟩ := unitsOf_bytes hunits
    have hextract := (tryExtract_of_unitsOf hunits hbytes).symm.trans h
    have hwhole : ∀ (taken rest : List ClientAnnexBNalUnit), nalUnits = taken ++ rest →
        taken.any (·.kind.isVcl) = true → accessUnit = accessUnitOf taken →
        state' = ⟨unitBytes rest ++ tail⟩ →
        TakenFrom bytes [accessUnit] state'.bufferedBytes ∧ state'.bufferedBytes.length < bytes.length := by
      rintro taken rest rfl hvcl rfl rfl
      have hpos := length_unitBytes_pos (fun nalUnit hmem => hne nalUnit (List.mem_append_left rest hmem)) hvcl
      have hfront : bytes = unitBytes taken ++ (unitBytes rest ++ tail) := by
        rw [hbytes, unitBytes_append, List.append_assoc]
      refine ⟨.one (accessUnitOf_whole hvcl) hfront, ?_⟩
      rw [hfront, @List.length_append _ (unitBytes taken)]
      exact Nat.lt_add_of_pos_left hpos
    cases hindex : newAccessUnitIndex false nalUnits with
    | some index =>
      rw [hindex] at hextract
      cases Option.some.inj (Except.ok.inj hextract)
      obtain ⟨_, hended, _⟩ := endedAccessUnits_of_some hindex
      have hmem : nalUnits.take index ∈ endedAccessUnits nalUnits := hended ▸ List.mem_cons_self
      exact hwhole _ _ (List.take_append_drop index nalUnits).symm (any_isVcl_of_mem_run hmem) rfl rfl
    | none =>
      rw [hindex] at hextract
      dsimp only at hextract
      split at hextract
      next hvcl =>
        cases Option.some.inj (Except.ok.inj hextract)
        exact hwhole nalUnits [] (List.append_nil _).symm (Bool.and_eq_true_iff.mp hvcl).2 rfl rfl
      next => cases Except.ok.inj hextract

theorem pollAccessUnit_lossless (h : pollAccessUnit state = (.accessUnit accessUnit, state')) :
    TakenFrom state.bufferedBytes [accessUnit] state'.bufferedBytes ∧
      state'.bufferedBytes.length < state.bufferedBytes.length := by
  unfold pollAccessUnit at h
  split at h
  next hextract =>
    cases h
    exact tryExtract_lossless hextract
  next => cases h
  next => cases h

theorem pollAll_accessUnit (h : pollAccessUnit state = (.accessUnit accessUnit, state')) (fuel : Nat) :
    pollAll (fuel + 1) state = (accessUnit :: (pollAll fuel state').1, (pollAll fuel state').2) := by
  rw [pollAll, h]

theorem pollAll_last (h : ∀ accessUnit, (pollAccessUnit state).1 ≠ .accessUnit accessUnit) (fuel : Nat) :
    pollAll fuel state = ([], (pollAccessUnit state).1, state) := by
  have hkeeps : (pollAccessUnit state).2 = state := by
    unfold pollAccessUnit at h ⊢
    split
    next accessUnit _ hextract =>
      rw [hextract] at h
      exact absurd rfl (h accessUnit)
    next => rfl
    next => rfl
  have hlast : pollAccessUnit state = ((pollAccessUnit state).1, state) := Prod.ext rfl hkeeps
  cases fuel with
  | zero => exact congrArg (Prod.mk []) hlast
  | succ fuel =>
    rw [pollAll]
    split
    next accessUnit _ hpoll => exact absurd (congrArg Prod.fst hpoll) (h accessUnit)
    next => exact congrArg (Prod.mk []) hlast

theorem pollAll_lossless (fuel : Nat) (state : ClientAnnexBAccessUnitReaderState)
    (hfuel : state.bufferedBytes.length ≤ fuel) :
    TakenFrom state.bufferedBytes (pollAll fuel state).1 (pollAll fuel state).2.2.bufferedBytes ∧
      ∀ accessUnit, (pollAll fuel state).2.1 ≠ .accessUnit accessUnit := by
  induction fuel generalizing state with
  | zero =>
    obtain ⟨bytes⟩ := state
    cases List.eq_nil_of_length_eq_zero (Nat.le_zero.mp hfuel)
    exact ⟨.nothing [], fun _ h => by cases h⟩
  | succ fuel ih =>
    rcases hpoll : pollAccessUnit state with ⟨result, state'⟩
    by_cases hresult : ∃ accessUnit, result = .accessUnit accessUnit
    · obtain ⟨accessUnit, rfl⟩ := hresult
      obtain ⟨hfirst, hlt⟩ := pollAccessUnit_lossless hpoll
      obtain ⟨hlater, hlast⟩ := ih state' (by omega)
      rw [pollAll_accessUnit hpoll]
      exact ⟨hfirst.append hlater, hlast⟩
    · have hlast : ∀ accessUnit, (pollAccessUnit state).1 ≠ .accessUnit accessUnit := by
        intro accessUnit heq
        rw [hpoll] at heq
        exact hresult ⟨accessUnit, heq⟩
      rw [pollAll_last hlast]
      exact ⟨.nothing _, hlast⟩

theorem finish_lossless (h : finish state = (.accessUnit accessUnit, state')) :
    TakenFrom state.bufferedBytes [accessUnit] state'.bufferedBytes ∧
      state'.bufferedBytes.length < state.bufferedBytes.length := by
  unfold finish at h
  split at h
  next hextract =>
    cases h
    exact tryExtract_lossless hextract
  next => cases h
  next =>
    split at h
    next => cases h
    next =>
      split at h
      next hextract =>
        cases h
        exact tryExtract_lossless hextract
      next => cases h
      next => cases h

theorem finish_last (h : ∀ accessUnit, (finish state).1 ≠ .accessUnit accessUnit) :
    (finish state).1.remainingBytes = state.bufferedBytes := by
  unfold finish at h ⊢
  split
  next accessUnit _ hextract =>
    rw [hextract] at h
    exact absurd rfl (h accessUnit)
  next => rfl
  next hnone =>
    split
    next hempty => exact (List.isEmpty_iff.mp hempty).symm
    next hempty =>
      split
      next accessUnit _ hextract =>
        rw [hnone] at h
        simp only [hempty, hextract] at h
        exact absurd rfl (h accessUnit)
      next => rfl
      next => rfl

theorem finishAll_accessUnit (h : finish state = (.accessUnit accessUnit, state')) (fuel : Nat) :
    finishAll (fuel + 1) state = (accessUnit :: (finishAll fuel state').1, (finishAll fuel state').2) := by
  rw [finishAll, h]

theorem finishAll_last (h : ∀ accessUnit, (finish state).1 ≠ .accessUnit accessUnit) (fuel : Nat) :
    finishAll fuel state = ([], (finish state).1) := by
  cases fuel with
  | zero => rfl
  | succ fuel =>
    rcases hfinish : finish state with ⟨last, after⟩
    rw [finishAll, hfinish]
    rw [hfinish] at h
    cases last with
    | accessUnit accessUnit => exact absurd rfl (h accessUnit)
    | eofNoBufferedData => rfl
    | eofWithIncompleteData => rfl
    | malformedStream => rfl

theorem finishAll_lossless (fuel : Nat) (state : ClientAnnexBAccessUnitReaderState)
    (hfuel : state.bufferedBytes.length ≤ fuel) :
    TakenFrom state.bufferedBytes (finishAll fuel state).1 (finishAll fuel state).2.remainingBytes ∧
      ∀ accessUnit, (finishAll fuel state).2 ≠ .accessUnit accessUnit := by
  induction fuel generalizing state with
  | zero =>
    obtain ⟨bytes⟩ := state
    cases List.eq_nil_of_length_eq_zero (Nat.le_zero.mp hfuel)
    exact ⟨.nothing [], fun _ h => by cases h⟩
  | succ fuel ih =>
    rcases hfinish : finish state with ⟨result, state'⟩
    by_cases hresult : ∃ accessUnit, result = .accessUnit accessUnit
    · obtain ⟨accessUnit, rfl⟩ := hresult
      obtain ⟨hfirst, hlt⟩ := finish_lossless hfinish
      obtain ⟨hlater, hlast⟩ := ih state' (by omega)
      rw [finishAll_accessUnit hfinish]
      exact ⟨hfirst.append hlater, hlast⟩
    · have hlast : ∀ accessUnit, (finish state).1 ≠ .accessUnit accessUnit := by
        intro accessUnit heq
        rw [hfinish] at heq
        exact hresult ⟨accessUnit, heq⟩
      rw [finishAll_last hlast]
      rw [finish_last hlast]
      exact ⟨.nothing _, hlast⟩

/-- Feeding chunks loses no byte, wherever they are cut and whatever they hold. -/
theorem run_feedChunk_lossless (state : ClientAnnexBAccessUnitReaderState) (chunks : List (List UInt8)) :
    TakenFrom (state.bufferedBytes ++ chunks.flatten) ((run feedChunk state chunks).2.flatMap (·.1))
      (run feedChunk state chunks).1.bufferedBytes := by
  induction chunks generalizing state with
  | nil =>
    rw [List.flatten_nil, List.append_nil]
    exact .nothing _
  | cons chunk chunks ih =>
    obtain ⟨hchunk, _⟩ := pollAll_lossless _ (appendBytes state chunk) (Nat.le_refl _)
    have hlater := ih (feedChunk state chunk).1
    have hall := (hchunk.followed chunks.flatten).append hlater
    change TakenFrom (state.bufferedBytes ++ chunk ++ chunks.flatten) _ _ at hall
    rw [List.append_assoc] at hall
    exact hall

end Lossless

/-- A reading gives back every byte, in whole access units and a rest. -/
theorem readChunks_lossless (chunks : List (List UInt8)) :
    TakenFrom chunks.flatten (readChunks chunks).accessUnits (readChunks chunks).last.remainingBytes ∧
      ∀ accessUnit, (readChunks chunks).last ≠ .accessUnit accessUnit := by
  have hfed := run_feedChunk_lossless .empty chunks
  obtain ⟨hfinished, hlast⟩ := finishAll_lossless _ (run feedChunk .empty chunks).1 (Nat.le_refl _)
  exact ⟨hfed.append hfinished, hlast⟩

end StreamSync
