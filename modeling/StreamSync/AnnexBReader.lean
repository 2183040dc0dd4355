import StreamSync.AnnexBAccessUnits

namespace StreamSync

theorem nalBytes_ne_nil {nals : List AnnexBNal} (h : nals ≠ []) : nalBytes nals ≠ [] := by
  obtain ⟨nal, nals, rfl⟩ := List.exists_cons_of_ne_nil h
  have hpos := nal.head_lt
  intro hempty
  have hlength := congrArg List.length hempty
  rw [nalBytes_cons, List.length_append, List.length_nil] at hlength
  omega

/-- The units of one picture as an encoder writes them: the first begins an access unit, there is a
slice, and no unit behind a slice begins another access unit. -/
structure EncodedAccessUnit where
  nals : List AnnexBNal
  begins : ∃ first rest, nals = first :: rest ∧ annexBNalBeginsNewAccessUnit first.nalUnit = true
  hasVcl : nals.any (·.nalUnit.kind.isVcl) = true
  whole : newAccessUnitIndex false (nals.map (·.nalUnit)) = none

namespace EncodedAccessUnit

def bytes (encoded : EncodedAccessUnit) : List UInt8 := nalBytes encoded.nals

/-- The access unit that the reader makes of it. -/
def accessUnit (encoded : EncodedAccessUnit) : ClientAnnexBAccessUnit :=
  let nalUnits := encoded.nals.map (·.nalUnit)
  { bytes := encoded.bytes
    nalUnits
    containsIdr := nalUnits.any fun nalUnit => nalUnit.kind = .idrSlice
    containsSps := nalUnits.any fun nalUnit => nalUnit.kind = .sps
    containsPps := nalUnits.any fun nalUnit => nalUnit.kind = .pps }

/-- What an encoder writes for the pictures, in order. -/
def output (encoded : List EncodedAccessUnit) : List UInt8 := nalBytes (encoded.flatMap (·.nals))

@[simp] theorem output_nil : output [] = [] := rfl

@[simp] theorem output_cons (first : EncodedAccessUnit) (encoded : List EncodedAccessUnit) :
    output (first :: encoded) = first.bytes ++ output encoded := by
  rw [output, List.flatMap_cons, nalBytes_append]
  rfl

theorem output_append (encoded encoded' : List EncodedAccessUnit) :
    output (encoded ++ encoded') = output encoded ++ output encoded' := by
  rw [output, List.flatMap_append, nalBytes_append]
  rfl

theorem bytes_ne_nil (encoded : EncodedAccessUnit) : encoded.bytes ≠ [] := by
  obtain ⟨first, rest, hnals, -⟩ := encoded.begins
  exact nalBytes_ne_nil (by rw [hnals]; exact List.cons_ne_nil first rest)

/-- A unit that begins the next access unit makes the reader see where this one ends. -/
theorem newAccessUnitIndex_followed (encoded : EncodedAccessUnit) {nal : AnnexBNal}
    (hbegins : annexBNalBeginsNewAccessUnit nal.nalUnit = true) (more : List AnnexBNal) :
    newAccessUnitIndex false ((encoded.nals ++ nal :: more).map (·.nalUnit)) =
      some encoded.nals.length := by
  have hvcl : ((encoded.nals.map (·.nalUnit)).any (·.kind.isVcl)) = true := by
    rw [List.any_map]
    exact encoded.hasVcl
  rw [List.map_append, newAccessUnitIndex_append false _ _ encoded.whole, hvcl, List.map_cons,
    newAccessUnitIndex, hbegins]
  simp

/-- The first unit of some encoded access units begins one. -/
theorem begins_of_flatMap {encoded : List EncodedAccessUnit} {nal : AnnexBNal} {more : List AnnexBNal}
    (h : encoded.flatMap (·.nals) = nal :: more) :
    annexBNalBeginsNewAccessUnit nal.nalUnit = true ∧ ∃ next later, encoded = next :: later := by
  cases encoded with
  | nil => cases h
  | cons next later =>
    obtain ⟨first, rest, hnals, hbegins⟩ := next.begins
    rw [List.flatMap_cons, hnals, List.cons_append] at h
    exact ⟨(List.cons.inj h).1 ▸ hbegins, next, later, rfl⟩

end EncodedAccessUnit

open EncodedAccessUnit ClientAnnexBAccessUnitReaderBoundary

theorem accessUnit_eq_accessUnitOf (encoded : EncodedAccessUnit) :
    encoded.accessUnit = accessUnitOf (encoded.nals.map (·.nalUnit)) := by
  rw [accessUnit, EncodedAccessUnit.bytes, nalBytes_eq_unitBytes]
  rfl

theorem extract_encoded {nals : List AnnexBNal} {buffer tail : List UInt8} {eof : Bool}
    (hparse : parseAnnexBNalDescriptors buffer eof = .ok (descriptorsAt 0 nals))
    (hbuffer : buffer = nalBytes nals ++ tail) :
    tryExtractAnnexBAccessUnit ⟨buffer⟩ eof = .ok (
      match newAccessUnitIndex false (nals.map (·.nalUnit)) with
      | some index =>
        some (accessUnitOf ((nals.take index).map (·.nalUnit)), ⟨nalBytes (nals.drop index) ++ tail⟩)
      | none =>
        if eof && nals.any (·.nalUnit.kind.isVcl) then
          some (accessUnitOf (nals.map (·.nalUnit)), ⟨tail⟩)
        else none) := by
  rw [descriptorsAt_eq_placedFrom] at hparse
  rw [nalBytes_eq_unitBytes] at hbuffer
  have hextract := tryExtract_of_parse hparse hbuffer
  rw [List.any_map] at hextract
  simp only [List.map_take, nalBytes_eq_unitBytes, List.map_drop]
  exact hextract

/-- The reader takes out the first access unit when a unit of the next one is known. -/
theorem extract_followed {encoded : EncodedAccessUnit} {nal : AnnexBNal} {more : List AnnexBNal}
    {buffer tail : List UInt8} {eof : Bool} (hbegins : annexBNalBeginsNewAccessUnit nal.nalUnit = true)
    (hparse : parseAnnexBNalDescriptors buffer eof = .ok (descriptorsAt 0 (encoded.nals ++ nal :: more)))
    (hbuffer : buffer = nalBytes (encoded.nals ++ nal :: more) ++ tail) :
    tryExtractAnnexBAccessUnit ⟨buffer⟩ eof =
      .ok (some (encoded.accessUnit, ⟨nalBytes (nal :: more) ++ tail⟩)) := by
  rw [extract_encoded hparse hbuffer, encoded.newAccessUnitIndex_followed hbegins more,
    accessUnit_eq_accessUnitOf]
  dsimp only
  rw [List.take_left, List.drop_left]

/-- However the output of an encoder is cut, the reader gives the first access unit as it is, once
some of the next is there, and leaves the rest; or it gives nothing. -/
theorem extract_of_prefix {buffer : List UInt8} {encoded : List EncodedAccessUnit}
    (h : buffer <+: output encoded) :
    (∀ result, tryExtractAnnexBAccessUnit ⟨buffer⟩ false ≠ .ok (some result)) ∨
      ∃ first next later rest, encoded = first :: next :: later ∧ buffer = first.bytes ++ rest ∧ rest ≠ [] ∧
        tryExtractAnnexBAccessUnit ⟨buffer⟩ false = .ok (some (first.accessUnit, ⟨rest⟩)) := by
  rcases parseAnnexBNalDescriptors_of_prefix h with hmissing | ⟨known, later, rest, hnals, hbuffer, hparse⟩
  · left
    intro result hresult
    rw [tryExtractAnnexBAccessUnit] at hresult
    simp only [hmissing, bind, Except.bind] at hresult
    cases hresult
  · have hnone : newAccessUnitIndex false (known.map (·.nalUnit)) = none →
        ∀ result, tryExtractAnnexBAccessUnit ⟨buffer⟩ false ≠ .ok (some result) := by
      intro hindex result hresult
      rw [extract_encoded hparse hbuffer, hindex] at hresult
      cases hresult
    cases encoded with
    | nil =>
      have hknown : known = [] := (List.append_eq_nil_iff.mp hnals.symm).1
      exact .inl (hnone (by rw [hknown]; rfl))
    | cons first more =>
      rw [List.flatMap_cons] at hnals
      rcases List.append_eq_append_iff.mp hnals with ⟨behind, hknown, hmore⟩ | ⟨unknown, hfirst, -⟩
      · cases behind with
        | nil => exact .inl (hnone (by rw [hknown, List.append_nil]; exact first.whole))
        | cons nal behind =>
          obtain ⟨hbegins, next, later', rfl⟩ := begins_of_flatMap hmore
          have hbytes : buffer = first.bytes ++ (nalBytes (nal :: behind) ++ rest) := by
            rw [hbuffer, hknown, nalBytes_append, List.append_assoc]
            rfl
          have hrest : nalBytes (nal :: behind) ++ rest ≠ [] :=
            List.append_ne_nil_of_left_ne_nil (nalBytes_ne_nil (List.cons_ne_nil nal behind)) rest
          rw [hknown] at hparse hbuffer
          exact .inr ⟨first, next, later', _, rfl, hbytes, hrest, extract_followed hbegins hparse hbuffer⟩
      · have hwhole := first.whole
        rw [hfirst, List.map_append] at hwhole
        exact .inl (hnone (newAccessUnitIndex_none_left hwhole))

/-- At the end of the output the first access unit that is left is there in full. -/
theorem extract_eof (first : EncodedAccessUnit) (more : List EncodedAccessUnit) :
    tryExtractAnnexBAccessUnit ⟨output (first :: more)⟩ true =
      .ok (some (first.accessUnit, ⟨output more⟩)) := by
  have hparse := parseAnnexBNalDescriptors_eof ((first :: more).flatMap (·.nals))
  have hbuffer : output (first :: more) = nalBytes ((first :: more).flatMap (·.nals)) ++ [] :=
    (List.append_nil _).symm
  have hoff : output more = nalBytes (more.flatMap (·.nals)) := rfl
  rw [List.flatMap_cons] at hparse hbuffer
  change parseAnnexBNalDescriptors (output (first :: more)) true = _ at hparse
  cases hmore : more.flatMap (·.nals) with
  | nil =>
    rw [hmore, List.append_nil first.nals] at hparse hbuffer
    rw [extract_encoded hparse hbuffer, first.whole, first.hasVcl, accessUnit_eq_accessUnitOf, hoff, hmore]
    rfl
  | cons nal behind =>
    obtain ⟨hbegins, -⟩ := begins_of_flatMap hmore
    rw [hmore] at hparse hbuffer
    rw [extract_followed hbegins hparse hbuffer, List.append_nil, hoff, hmore]

/-- At the end of the output the reader gives the first access unit that is left. -/
theorem finish_of_output {encoded : List EncodedAccessUnit} {result : ClientAnnexBAccessUnit}
    (h : (finish ⟨output encoded⟩).1 = .accessUnit result) :
    ∃ first later, encoded = first :: later ∧ result = first.accessUnit := by
  cases encoded with
  | nil => cases h
  | cons first more =>
    refine ⟨first, more, rfl, ?_⟩
    unfold finish at h
    split at h
    next accessUnit state hsome =>
      rcases extract_of_prefix (List.prefix_refl (output (first :: more))) with
        hnever | ⟨_, _, _, _, heq, -, -, hfirst⟩
      · exact absurd hsome (hnever _)
      · cases heq
        cases hfirst.symm.trans hsome
        cases h
        rfl
    next => cases h
    next =>
      split at h
      next => cases h
      next =>
        rw [extract_eof first more] at h
        cases h
        rfl

end StreamSync
