import StreamSync.AnnexBChunks
import StreamSync.PersistentSession

namespace StreamSync

open ClientPersistentH264ParameterSetCache

/-- An access unit that the reader takes out of some buffer. -/
def FromReader (accessUnit : ClientAnnexBAccessUnit) : Prop :=
  ∃ state eof state', tryExtractAnnexBAccessUnit state eof = .ok (some (accessUnit, state'))

def unitsOfKind (kind : ClientAnnexBNalUnitKind) (accessUnit : ClientAnnexBAccessUnit) :
    List ClientAnnexBNalUnit :=
  accessUnit.nalUnits.filter fun nalUnit => nalUnit.kind = kind

def otherUnits (nalUnits : List ClientAnnexBNalUnit) : List ClientAnnexBNalUnit :=
  nalUnits.filter fun nalUnit => nalUnit.kind ≠ .sps && nalUnit.kind ≠ .pps

/-- The units of the kind of the latest access unit that had some. -/
def LatestUnits (kind : ClientAnnexBNalUnitKind) (accessUnits : List ClientAnnexBAccessUnit)
    (units : List ClientAnnexBNalUnit) : Prop :=
  units ≠ [] ∧ ∃ before latest after, accessUnits = before ++ latest :: after ∧
    units = unitsOfKind kind latest ∧ ∀ later ∈ after, unitsOfKind kind later = []

/-- The list of a cache for the kind: empty as long as no access unit had a unit of it. -/
def HoldsLatest (kind : ClientAnnexBNalUnitKind) (accessUnits : List ClientAnnexBAccessUnit)
    (cached : List (List UInt8)) : Prop :=
  (cached = [] ∧ ∀ accessUnit ∈ accessUnits, unitsOfKind kind accessUnit = []) ∨
    ∃ units, LatestUnits kind accessUnits units ∧ cached = units.map (·.bytes)

section

variable {kind : ClientAnnexBNalUnitKind} {accessUnits : List ClientAnnexBAccessUnit}
  {accessUnit : ClientAnnexBAccessUnit} {cached : List (List UInt8)}

theorem LatestUnits.of_own (h : unitsOfKind kind accessUnit ≠ []) :
    LatestUnits kind (accessUnits ++ [accessUnit]) (unitsOfKind kind accessUnit) :=
  ⟨h, accessUnits, accessUnit, [], rfl, rfl, fun _ hm => absurd hm List.not_mem_nil⟩

theorem LatestUnits.kind_eq {units : List ClientAnnexBNalUnit} (h : LatestUnits kind accessUnits units)
    {nalUnit : ClientAnnexBNalUnit} (hm : nalUnit ∈ units) : nalUnit.kind = kind := by
  obtain ⟨-, before, latest, after, -, rfl, -⟩ := h
  exact of_decide_eq_true (List.mem_filter.mp hm).2

/-- Observing an access unit keeps the cache at the latest units of the kind. -/
theorem HoldsLatest.observe (h : HoldsLatest kind accessUnits cached) (accessUnit : ClientAnnexBAccessUnit) :
    HoldsLatest kind (accessUnits ++ [accessUnit])
      (if (nalUnitsOfKind accessUnit kind).isEmpty then cached else nalUnitsOfKind accessUnit kind) := by
  have hunits : nalUnitsOfKind accessUnit kind = (unitsOfKind kind accessUnit).map (·.bytes) := rfl
  by_cases hown : unitsOfKind kind accessUnit = []
  · rw [hunits, hown, if_pos (by rfl)]
    rcases h with ⟨rfl, hnone⟩ | ⟨units, ⟨hne, before, latest, after, rfl, hlatest, hafter⟩, rfl⟩
    · refine .inl ⟨rfl, fun other hm => ?_⟩
      rcases List.mem_append.mp hm with hm | hm
      · exact hnone other hm
      · rw [List.mem_singleton.mp hm]
        exact hown
    · refine .inr ⟨units, ⟨hne, before, latest, after ++ [accessUnit], by simp, hlatest, ?_⟩, rfl⟩
      intro later hm
      rcases List.mem_append.mp hm with hm | hm
      · exact hafter later hm
      · rw [List.mem_singleton.mp hm]
        exact hown
  · have hempty : ¬((unitsOfKind kind accessUnit).map (·.bytes)).isEmpty := by simp [hown]
    rw [hunits, if_neg hempty]
    exact .inr ⟨_, .of_own hown, rfl⟩

end

/-- The cache after the access units were observed in order. -/
def observeAll (accessUnits : List ClientAnnexBAccessUnit) : ClientPersistentH264ParameterSetCache :=
  accessUnits.foldl observeAccessUnit .empty

theorem observeAll_concat (accessUnits : List ClientAnnexBAccessUnit) (accessUnit : ClientAnnexBAccessUnit) :
    observeAll (accessUnits ++ [accessUnit]) = (observeAll accessUnits).observeAccessUnit accessUnit := by
  rw [observeAll, List.foldl_append]
  rfl

theorem observeAll_holdsLatest (accessUnits : List ClientAnnexBAccessUnit) :
    HoldsLatest .sps accessUnits (observeAll accessUnits).spsNalUnits ∧
      HoldsLatest .pps accessUnits (observeAll accessUnits).ppsNalUnits := by
  induction accessUnits using List.reverseRecOn with
  | nil => exact ⟨.inl ⟨rfl, by simp⟩, .inl ⟨rfl, by simp⟩⟩
  | append_singleton accessUnits accessUnit ih =>
    rw [observeAll_concat]
    exact ⟨ih.1.observe accessUnit, ih.2.observe accessUnit⟩

section

variable {nalUnits : List ClientAnnexBNalUnit}

theorem not_begins_of_hasVcl (h : newAccessUnitIndex true nalUnits = none) :
    ∀ nalUnit ∈ nalUnits, annexBNalBeginsNewAccessUnit nalUnit = false := by
  induction nalUnits with
  | nil => simp
  | cons first nalUnits ih =>
    rw [newAccessUnitIndex] at h
    split at h
    next => cases h
    next hbegins =>
      intro nalUnit hm
      rcases List.mem_cons.mp hm with rfl | hm
      · simpa using hbegins
      · exact ih (Option.map_eq_none_iff.mp h) nalUnit hm

/-- Within an access unit nothing behind a slice begins another. -/
theorem not_begins_behind_slice (h : newAccessUnitIndex false nalUnits = none)
    {before after : List ClientAnnexBNalUnit} {slice : ClientAnnexBNalUnit}
    (hsplit : nalUnits = before ++ slice :: after) (hslice : slice.kind.isVcl = true) :
    ∀ nalUnit ∈ after, annexBNalBeginsNewAccessUnit nalUnit = false := by
  rw [hsplit] at h
  have hbefore := newAccessUnitIndex_none_left h
  rw [newAccessUnitIndex_append false before (slice :: after) hbefore, newAccessUnitIndex] at h
  split at h
  next => cases h
  next =>
    rw [hslice, Bool.or_true] at h
    exact not_begins_of_hasVcl (Option.map_eq_none_iff.mp (Option.map_eq_none_iff.mp h))

theorem newAccessUnitIndex_take {currentHasVcl : Bool} {index : Nat}
    (h : newAccessUnitIndex currentHasVcl nalUnits = some index) :
    newAccessUnitIndex currentHasVcl (nalUnits.take index) = none := by
  induction nalUnits generalizing currentHasVcl index with
  | nil => cases h
  | cons first nalUnits ih =>
    rw [newAccessUnitIndex] at h
    split at h
    next => cases h; rfl
    next hbegins =>
      obtain ⟨later, hlater, rfl⟩ := Option.map_eq_some_iff.mp h
      rw [List.take_succ_cons, newAccessUnitIndex, if_neg hbegins, ih hlater]
      rfl

end

/-- What the reader takes out is the access unit of its units, and it ends before another begins. -/
theorem FromReader.units {accessUnit : ClientAnnexBAccessUnit} (h : FromReader accessUnit) :
    ∃ nalUnits, accessUnit = accessUnitOf nalUnits ∧ newAccessUnitIndex false nalUnits = none := by
  obtain ⟨⟨bytes⟩, eof, state', h⟩ := h
  cases hunits : unitsOf eof bytes with
  | error reason => cases (tryExtract_of_error hunits).symm.trans h
  | ok nalUnits =>
    obtain ⟨⟨tail, hbytes⟩, -⟩ := unitsOf_bytes hunits
    have hextract := (tryExtract_of_unitsOf hunits hbytes).symm.trans h
    cases hindex : newAccessUnitIndex false nalUnits with
    | some index =>
      rw [hindex] at hextract
      cases Option.some.inj (Except.ok.inj hextract)
      exact ⟨_, rfl, newAccessUnitIndex_take hindex⟩
    | none =>
      rw [hindex] at hextract
      dsimp only at hextract
      split at hextract
      next =>
        cases Option.some.inj (Except.ok.inj hextract)
        exact ⟨nalUnits, rfl, hindex⟩
      next => cases Except.ok.inj hextract

/-- Parameter sets stand in front of every slice. -/
def SetsBeforeSlices (nalUnits : List ClientAnnexBNalUnit) : Prop :=
  ∀ before slice after, nalUnits = before ++ slice :: after → slice.kind.isVcl = true →
    (∃ sps ∈ before, sps.kind = .sps) ∧ ∃ pps ∈ before, pps.kind = .pps

/-- The payload is some units one behind the other: parameter sets in front of the slices, which are the
latest that there were, and the other units of the access unit as they are. -/
def CarriesLatestSets (earlier : List ClientAnnexBAccessUnit) (accessUnit : ClientAnnexBAccessUnit)
    (payload : List UInt8) : Prop :=
  ∃ nalUnits, payload = unitBytes nalUnits ∧ SetsBeforeSlices nalUnits ∧
    LatestUnits .sps (earlier ++ [accessUnit]) (nalUnits.filter fun nalUnit => nalUnit.kind = .sps) ∧
    LatestUnits .pps (earlier ++ [accessUnit]) (nalUnits.filter fun nalUnit => nalUnit.kind = .pps) ∧
    otherUnits nalUnits = otherUnits accessUnit.nalUnits

section

variable {nalUnits : List ClientAnnexBNalUnit} {kind : ClientAnnexBNalUnitKind}

theorem any_kind_iff : (nalUnits.any fun nalUnit => nalUnit.kind = kind) = true ↔
    unitsOfKind kind (accessUnitOf nalUnits) ≠ [] := by
  rw [Ne, unitsOfKind, List.filter_eq_nil_iff, List.any_eq_true]
  show _ ↔ ¬∀ nalUnit ∈ nalUnits, ¬_
  push Not
  rfl

/-- A unit of a kind that begins an access unit is in front of every slice, if there is one at all. -/
theorem exists_before_slice (hindex : newAccessUnitIndex false nalUnits = none)
    (hbegins : ∀ nalUnit : ClientAnnexBNalUnit, nalUnit.kind = kind →
      annexBNalBeginsNewAccessUnit nalUnit = true ∧ nalUnit.kind.isVcl = false)
    (hsome : unitsOfKind kind (accessUnitOf nalUnits) ≠ [])
    {before after : List ClientAnnexBNalUnit} {slice : ClientAnnexBNalUnit}
    (hsplit : nalUnits = before ++ slice :: after) (hslice : slice.kind.isVcl = true) :
    ∃ nalUnit ∈ before, nalUnit.kind = kind := by
  obtain ⟨nalUnit, hmem⟩ := List.exists_mem_of_ne_nil _ hsome
  obtain ⟨hin, hk⟩ := List.mem_filter.mp hmem
  have hkind : nalUnit.kind = kind := of_decide_eq_true hk
  obtain ⟨hbegin, hnotVcl⟩ := hbegins nalUnit hkind
  change nalUnit ∈ nalUnits at hin
  rw [hsplit, List.mem_append, List.mem_cons] at hin
  rcases hin with hin | rfl | hin
  · exact ⟨nalUnit, hin, hkind⟩
  · rw [hslice] at hnotVcl
    cases hnotVcl
  · have hnot := not_begins_behind_slice hindex hsplit hslice nalUnit hin
    rw [hbegin] at hnot
    cases hnot

theorem sps_begins (nalUnit : ClientAnnexBNalUnit) (h : nalUnit.kind = .sps) :
    annexBNalBeginsNewAccessUnit nalUnit = true ∧ nalUnit.kind.isVcl = false := by
  rw [annexBNalBeginsNewAccessUnit, h]
  exact ⟨rfl, rfl⟩

theorem pps_begins (nalUnit : ClientAnnexBNalUnit) (h : nalUnit.kind = .pps) :
    annexBNalBeginsNewAccessUnit nalUnit = true ∧ nalUnit.kind.isVcl = false := by
  rw [annexBNalBeginsNewAccessUnit, h]
  exact ⟨rfl, rfl⟩

/-- The units that are put in front: units of the two kinds, before units of neither. -/
theorem setsBeforeSlices_of_parts {sps pps : List ClientAnnexBNalUnit} (hsps : sps ≠ []) (hpps : pps ≠ [])
    (hspsKind : ∀ nalUnit ∈ sps, nalUnit.kind = .sps) (hppsKind : ∀ nalUnit ∈ pps, nalUnit.kind = .pps)
    (others : List ClientAnnexBNalUnit) : SetsBeforeSlices (sps ++ pps ++ others) := by
  intro before slice after hsplit hslice
  obtain ⟨first, hfirst⟩ := List.exists_mem_of_ne_nil _ hsps
  obtain ⟨second, hsecond⟩ := List.exists_mem_of_ne_nil _ hpps
  have hnot : slice ∉ sps ++ pps := by
    intro hmem
    rcases List.mem_append.mp hmem with hmem | hmem
    · rw [hspsKind slice hmem] at hslice
      cases hslice
    · rw [hppsKind slice hmem] at hslice
      cases hslice
  have hfront : ∀ nalUnit ∈ sps ++ pps, nalUnit ∈ before := by
    rcases List.append_eq_append_iff.mp hsplit with ⟨middle, hbefore, -⟩ | ⟨middle, hsets, hafter⟩
    · intro nalUnit hm
      rw [hbefore]
      exact List.mem_append_left _ hm
    · cases middle with
      | nil =>
        rw [List.append_nil] at hsets
        exact fun nalUnit hm => hsets ▸ hm
      | cons head middle =>
        obtain ⟨rfl, -⟩ := List.cons.inj hafter
        exact absurd (hsets ▸ List.mem_append_right before List.mem_cons_self) hnot
  exact ⟨⟨first, hfront first (List.mem_append_left _ hfirst), hspsKind first hfirst⟩,
    second, hfront second (List.mem_append_right _ hsecond), hppsKind second hsecond⟩

theorem filter_of_parts {sps pps : List ClientAnnexBNalUnit}
    (hspsKind : ∀ nalUnit ∈ sps, nalUnit.kind = .sps) (hppsKind : ∀ nalUnit ∈ pps, nalUnit.kind = .pps)
    (nalUnits : List ClientAnnexBNalUnit) :
    (sps ++ pps ++ otherUnits nalUnits).filter (fun nalUnit => nalUnit.kind = .sps) = sps ∧
      (sps ++ pps ++ otherUnits nalUnits).filter (fun nalUnit => nalUnit.kind = .pps) = pps ∧
      otherUnits (sps ++ pps ++ otherUnits nalUnits) = otherUnits nalUnits := by
  have hothers : ∀ nalUnit ∈ otherUnits nalUnits, nalUnit.kind ≠ .sps ∧ nalUnit.kind ≠ .pps := by
    intro nalUnit hm
    simpa using (List.mem_filter.mp hm).2
  refine ⟨?_, ?_, ?_⟩
  · rw [List.filter_append, List.filter_append, List.filter_eq_self.mpr (by simpa using hspsKind),
      List.filter_eq_nil_iff.mpr, List.filter_eq_nil_iff.mpr, List.append_nil, List.append_nil]
    · exact fun nalUnit hm => by simp [(hothers nalUnit hm).1]
    · exact fun nalUnit hm => by simp [hppsKind nalUnit hm]
  · rw [List.filter_append, List.filter_append, List.filter_eq_nil_iff.mpr,
      List.filter_eq_self.mpr (by simpa using hppsKind), List.filter_eq_nil_iff.mpr, List.append_nil,
      List.nil_append]
    · exact fun nalUnit hm => by simp [(hothers nalUnit hm).2]
    · exact fun nalUnit hm => by simp [hspsKind nalUnit hm]
  · rw [otherUnits, List.filter_append, List.filter_append, List.filter_eq_nil_iff.mpr,
      List.filter_eq_nil_iff.mpr, List.nil_append, List.nil_append, otherUnits, List.filter_filter]
    · simp
    · exact fun nalUnit hm => by simp [hppsKind nalUnit hm]
    · exact fun nalUnit hm => by simp [hspsKind nalUnit hm]

end

/-- The sets that are put in front of an access unit: its own, or else those of the cache. -/
theorem setsInFront {kind : ClientAnnexBNalUnitKind} {earlier : List ClientAnnexBAccessUnit}
    {accessUnit : ClientAnnexBAccessUnit} {cached : List (List UInt8)}
    (h : HoldsLatest kind (earlier ++ [accessUnit]) cached) (hcached : cached ≠ []) (own : Bool)
    (hown : own = true ↔ unitsOfKind kind accessUnit ≠ []) :
    ∃ units, LatestUnits kind (earlier ++ [accessUnit]) units ∧
      (if own then nalUnitsOfKind accessUnit kind else cached) = units.map (·.bytes) := by
  by_cases hb : own = true
  · rw [if_pos hb]
    exact ⟨_, .of_own (hown.mp hb), rfl⟩
  · rw [if_neg hb]
    rcases h with ⟨hnil, -⟩ | ⟨units, hlatest, heq⟩
    · exact absurd hnil hcached
    · exact ⟨units, hlatest, heq⟩

theorem HoldsLatest.ne_nil {kind : ClientAnnexBNalUnitKind} {accessUnits : List ClientAnnexBAccessUnit}
    {cached : List (List UInt8)} (h : HoldsLatest kind accessUnits cached)
    (hsome : ∃ accessUnit ∈ accessUnits, unitsOfKind kind accessUnit ≠ []) : cached ≠ [] := by
  rcases h with ⟨-, hnone⟩ | ⟨units, hlatest, rfl⟩
  · obtain ⟨accessUnit, hm, hne⟩ := hsome
    exact absurd (hnone accessUnit hm) hne
  · simpa using hlatest.1

theorem FromReader.hasSlice {accessUnit : ClientAnnexBAccessUnit} (h : FromReader accessUnit) :
    (accessUnit.nalUnits.any fun nalUnit => nalUnit.kind.isVcl) = true := by
  obtain ⟨state, eof, state', hextract⟩ := h
  obtain ⟨htaken, -⟩ := tryExtract_lossless hextract
  exact List.any_eq_true.mpr (htaken.whole accessUnit (List.mem_singleton_self _)).hasSlice

/-- Over every sequence of access units that is observed and prepared in order: once there was an SPS and
a PPS no access unit is refused, and what is prepared carries the latest sets before its slices. -/
theorem prepared_payloads_carry_sets (earlier : List ClientAnnexBAccessUnit)
    (accessUnit : ClientAnnexBAccessUnit) (hreader : FromReader accessUnit) :
    ((∃ other ∈ earlier ++ [accessUnit], unitsOfKind .sps other ≠ []) →
      (∃ other ∈ earlier ++ [accessUnit], unitsOfKind .pps other ≠ []) →
        (observeAll (earlier ++ [accessUnit])).preparePayload accessUnit ≠ .missingParameterSets) ∧
    ∀ payload prependedCachedParameterSets payloadHadParameterSets,
      (observeAll (earlier ++ [accessUnit])).preparePayload accessUnit =
          .prepared payload prependedCachedParameterSets payloadHadParameterSets →
        CarriesLatestSets earlier accessUnit payload := by
  obtain ⟨hsps, hpps⟩ := observeAll_holdsLatest (earlier ++ [accessUnit])
  have hslice := hreader.hasSlice
  obtain ⟨nalUnits, rfl, hindex⟩ := hreader.units
  have hownSps : (accessUnitOf nalUnits).containsSps = true ↔
      unitsOfKind .sps (accessUnitOf nalUnits) ≠ [] := any_kind_iff
  have hownPps : (accessUnitOf nalUnits).containsPps = true ↔
      unitsOfKind .pps (accessUnitOf nalUnits) ≠ [] := any_kind_iff
  generalize observeAll (earlier ++ [accessUnitOf nalUnits]) = cache at hsps hpps ⊢
  unfold preparePayload
  by_cases hboth : ((accessUnitOf nalUnits).containsSps && (accessUnitOf nalUnits).containsPps) = true
  · -- the access unit is passed through
    rw [if_pos hboth]
    refine ⟨fun _ _ => nofun, fun payload prepended had hprepared => ?_⟩
    obtain ⟨hs, hp⟩ := Bool.and_eq_true_iff.mp hboth
    cases hprepared
    refine ⟨nalUnits, rfl, fun before slice after hsplit hvcl => ⟨?_, ?_⟩, .of_own (hownSps.mp hs),
      .of_own (hownPps.mp hp), rfl⟩
    · exact exists_before_slice hindex sps_begins (hownSps.mp hs) hsplit hvcl
    · exact exists_before_slice hindex pps_begins (hownPps.mp hp) hsplit hvcl
  · rw [if_neg hboth, hslice, Bool.not_true, if_neg (by decide)]
    by_cases hmissing : (!cache.hasParameterSets) = true
    · rw [if_pos hmissing]
      refine ⟨fun hsomeSps hsomePps => ?_, nofun⟩
      have hs := hsps.ne_nil hsomeSps
      have hp := hpps.ne_nil hsomePps
      simp [hasParameterSets, hs, hp] at hmissing
    · rw [if_neg hmissing]
      refine ⟨fun _ _ => nofun, fun payload prepended had hprepared => ?_⟩
      obtain ⟨hs, hp⟩ : cache.spsNalUnits ≠ [] ∧ cache.ppsNalUnits ≠ [] := by
        simpa [hasParameterSets] using hmissing
      obtain ⟨sps, hlatestSps, hspsBytes⟩ := setsInFront hsps hs _ hownSps
      obtain ⟨pps, hlatestPps, hppsBytes⟩ := setsInFront hpps hp _ hownPps
      dsimp only at hprepared
      rw [hspsBytes, hppsBytes] at hprepared
      cases hprepared
      have hspsKind : ∀ nalUnit ∈ sps, nalUnit.kind = .sps := fun _ hm => hlatestSps.kind_eq hm
      have hppsKind : ∀ nalUnit ∈ pps, nalUnit.kind = .pps := fun _ hm => hlatestPps.kind_eq hm
      obtain ⟨hfilterSps, hfilterPps, hfilterOthers⟩ := filter_of_parts hspsKind hppsKind nalUnits
      refine ⟨sps ++ pps ++ otherUnits nalUnits, ?_, ?_, ?_, ?_, hfilterOthers⟩
      · rw [unitBytes_append, unitBytes_append]
        rfl
      · exact setsBeforeSlices_of_parts hlatestSps.1 hlatestPps.1 hspsKind hppsKind _
      · rw [hfilterSps]
        exact hlatestSps
      · rw [hfilterPps]
        exact hlatestPps

def keyUnits : ClientAnnexBAccessUnit :=
  accessUnitOf [⟨[0, 0, 0, 1, 0x67, 0x42, 0x1e], 4, .sps, 7, none⟩,
    ⟨[0, 0, 0, 1, 0x68, 0x42, 0x1e], 4, .pps, 8, none⟩, ⟨[0, 0, 0, 1, 0x65, 0x88, 0x80], 4, .idrSlice, 5, some 0⟩]

def sliceAlone : ClientAnnexBAccessUnit :=
  accessUnitOf [⟨[0, 0, 0, 1, 0x41, 0x88, 0x80], 4, .nonIdrSlice, 1, some 0⟩]

/-- A slice behind a key frame is sent behind the sets of the key frame. -/
theorem prepared_payloads_carry_sets_alone :
    (observeAll [keyUnits, sliceAlone]).preparePayload sliceAlone ≠ .missingParameterSets ∧
      CarriesLatestSets [keyUnits] sliceAlone
        ([0, 0, 0, 1, 0x67, 0x42, 0x1e] ++ [0, 0, 0, 1, 0x68, 0x42, 0x1e] ++ sliceAlone.bytes) := by
  have hsplit := prepared_payloads_carry_sets [keyUnits] sliceAlone ⟨⟨sliceAlone.bytes⟩, true, ⟨[]⟩, by decide⟩
  exact ⟨hsplit.1 ⟨keyUnits, by decide, by decide⟩ ⟨keyUnits, by decide, by decide⟩,
    hsplit.2 _ true true (by decide)⟩

end StreamSync
