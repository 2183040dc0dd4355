import Mathlib.Data.Finset.Max
import StreamSync.ContinuousEnqueue
import StreamSync.ContinuousIdentity
import StreamSync.TimedDecode

namespace StreamSync

open Run TwoRealContinuousDecodeRuntime

section Lookup

variable (input : SwitcherH264DecodeInput) (requested : SwitcherH264DecodeSourceIdentity)

/-- The frame id of a key of the requested source and size. -/
def candidateId (key : TwoRealPreviewLoopDecodeCacheKey) : Option UInt64 :=
  if key.width = input.width ∧ key.height = input.height then
    key.sourceIdentity.bind fun candidate =>
      if candidate.clientId = requested.clientId ∧ candidate.runId = requested.runId then
        some candidate.frameId
      else none
  else none

/-- The frame id of a candidate that is not ahead of the request. -/
def atOrBefore (key : TwoRealPreviewLoopDecodeCacheKey) : Option UInt64 :=
  (candidateId input requested key).filter fun frameId => frameId ≤ requested.frameId

theorem atOrBefore_eq_some_iff {key : TwoRealPreviewLoopDecodeCacheKey} {frameId : UInt64} :
    atOrBefore input requested key = some frameId ↔
      candidateId input requested key = some frameId ∧ frameId ≤ requested.frameId := by
  rw [atOrBefore, Option.filter_eq_some_iff, decide_eq_true_iff]

/-- The loop looks for the first key that is not ahead, and sees whether there are candidates at all. -/
theorem nearestDecoded_eq (keys : List TwoRealPreviewLoopDecodeCacheKey) (seen : Bool) :
    (nearestDecoded input requested keys seen).1 =
        keys.findSome? (fun key => (atOrBefore input requested key).map fun frameId => (key, frameId)) ∧
      ((nearestDecoded input requested keys seen).1 = none →
        (nearestDecoded input requested keys seen).2 =
          (seen || keys.any fun key => (candidateId input requested key).isSome)) := by
  induction keys generalizing seen with
  | nil => exact ⟨rfl, fun _ => (Bool.or_false seen).symm⟩
  | cons key keys ih =>
    rw [nearestDecoded, List.findSome?_cons, List.any_cons]
    unfold atOrBefore candidateId
    split
    next hsize =>
      have hother : ¬(key.width = input.width ∧ key.height = input.height) := by
        rwa [not_and_or]
      simp only [hother, if_false, Option.filter_none, Option.map_none, Option.isSome_none, Bool.false_or]
      exact ih seen
    next hsize =>
      have hsame : key.width = input.width ∧ key.height = input.height := by
        rwa [not_or, not_not, not_not] at hsize
      simp only [hsame, and_self, if_true]
      cases hidentity : key.sourceIdentity with
      | none =>
        simp only [Option.bind_none, Option.filter_none, Option.map_none, Option.isSome_none, Bool.false_or]
        exact ih seen
      | some candidate =>
        simp only [Option.bind_some]
        split
        next hsource =>
          have hother : ¬(candidate.clientId = requested.clientId ∧ candidate.runId = requested.runId) := by
            rwa [not_and_or]
          simp only [hother, if_false, Option.filter_none, Option.map_none, Option.isSome_none,
            Bool.false_or]
          exact ih seen
        next hsource =>
          have hown : candidate.clientId = requested.clientId ∧ candidate.runId = requested.runId := by
            rwa [not_or, not_not, not_not] at hsource
          simp only [hown, and_self, if_true]
          split
          next hfuture =>
            have hahead : ¬candidate.frameId ≤ requested.frameId := UInt64.not_le.mpr hfuture
            rw [Option.filter_some_neg (by simpa using hahead)]
            simp only [Option.map_none, Option.isSome_some, Bool.true_or, Bool.or_true]
            refine ⟨(ih true).1, fun hnone => ?_⟩
            rw [(ih true).2 hnone, Bool.true_or]
          next hfuture =>
            have hbefore : candidate.frameId ≤ requested.frameId := UInt64.not_lt.mp hfuture
            rw [Option.filter_some_pos (by simpa using hbefore)]
            exact ⟨rfl, nofun⟩

/-- The frame id that the runtime decoded last of those that are not ahead of the request. -/
def latestAtOrBefore (runtime : TwoRealContinuousDecodeRuntime) : Option UInt64 :=
  runtime.continuousKeyOrder.reverse.findSome? (atOrBefore input requested)

/-- What the lookup answers, by the frame that was decoded last of those that are not ahead. -/
inductive LookupAnswer (runtime : TwoRealContinuousDecodeRuntime) :
    TwoRealContinuousBoundedLookupCandidate → Prop
  | none (hlatest : latestAtOrBefore input requested runtime = none)
    (hnone : ∀ key ∈ runtime.continuousKeyOrder, candidateId input requested key = none) :
    LookupAnswer runtime .rejectedNotReady
  | future (hlatest : latestAtOrBefore input requested runtime = none)
    (hsome : ∃ key ∈ runtime.continuousKeyOrder, (candidateId input requested key).isSome = true) :
    LookupAnswer runtime .rejectedFuture
  | stale (frameId) (hlatest : latestAtOrBefore input requested runtime = some frameId)
    (hlag : runtime.config.boundedLookupAllowedLag.toNat < requested.frameId.toNat - frameId.toNat) :
    LookupAnswer runtime .rejectedStale
  | hit (key frameId) (hlatest : latestAtOrBefore input requested runtime = some frameId)
    (hmem : key ∈ runtime.continuousKeyOrder) (hid : candidateId input requested key = some frameId)
    (hlag : requested.frameId.toNat - frameId.toNat ≤ runtime.config.boundedLookupAllowedLag.toNat) :
    LookupAnswer runtime (.hit key frameId requested.frameId (requested.frameId - frameId))

theorem findSome?_map_fst {α β : Type} (f : α → Option β) (xs : List α) :
    (xs.findSome? fun x => (f x).map fun y => (x, y)).map Prod.snd = xs.findSome? f := by
  induction xs with
  | nil => rfl
  | cons x xs ih =>
    rw [List.findSome?_cons, List.findSome?_cons]
    cases hx : f x with
    | none => exact ih
    | some y => rfl

variable {input requested}

theorem lookupAnswer {runtime : TwoRealContinuousDecodeRuntime} (henabled : runtime.runtimeDisabled = false)
    (hsource : input.sourceIdentity = some requested) :
    LookupAnswer input requested runtime (runtime.boundedLagLookupCandidate input) := by
  obtain ⟨hfound, hseen⟩ := nearestDecoded_eq input requested runtime.continuousKeyOrder.reverse false
  have hlatest := findSome?_map_fst (atOrBefore input requested) runtime.continuousKeyOrder.reverse
  rw [← hfound] at hlatest
  unfold boundedLagLookupCandidate
  rw [henabled, hsource]
  simp only [Bool.false_eq_true, false_or]
  split
  next hempty =>
    have hnil := List.isEmpty_iff.mp hempty
    refine .none ?_ ?_
    · rw [latestAtOrBefore, hnil]
      rfl
    · rw [hnil]
      exact List.forall_mem_nil _
  next =>
    cases hnearest : nearestDecoded input requested runtime.continuousKeyOrder.reverse false with
    | mk found seen =>
      rw [hnearest] at hlatest hfound hseen
      cases found with
      | none =>
        have hany := hseen rfl
        rw [Bool.false_or, List.any_reverse] at hany
        dsimp only at hany ⊢
        split
        next hfuture =>
          rw [hany, List.any_eq_true] at hfuture
          exact .future hlatest.symm hfuture
        next hfuture =>
          rw [hany, List.any_eq_true] at hfuture
          refine .none hlatest.symm fun key hkey => ?_
          rw [← Option.not_isSome_iff_eq_none]
          exact fun hsome => hfuture ⟨key, hkey, hsome⟩
      | some nearest =>
        obtain ⟨key, frameId⟩ := nearest
        obtain ⟨key', hmem, hkey'⟩ := List.exists_of_findSome?_eq_some hfound.symm
        obtain ⟨frameId', hid, heq⟩ := Option.map_eq_some_iff.mp hkey'
        cases heq
        obtain ⟨hcandidate, hle⟩ := (atOrBefore_eq_some_iff input requested).mp hid
        have hlag : (requested.frameId - frameId).toNat = requested.frameId.toNat - frameId.toNat :=
          UInt64.toNat_sub_of_le _ _ hle
        dsimp only
        split
        next hstale =>
          rw [UInt64.lt_iff_toNat_lt, hlag] at hstale
          exact .stale frameId hlatest.symm hstale
        next hstale =>
          rw [UInt64.lt_iff_toNat_lt, hlag] at hstale
          exact .hit key frameId hlatest.symm (List.mem_reverse.mp hmem) hcandidate (Nat.le_of_not_lt hstale)

end Lookup

section Exact

variable (cache : DecodedCache) (input : SwitcherH264DecodeInput)
  (requested : SwitcherH264DecodeSourceIdentity)

/-- A picture of the requested source and size is kept for the frame id. -/
def CachedFrameId (frameId : UInt64) : Prop :=
  ∃ key ∈ cache, candidateId input requested key = some frameId

/-- The greatest kept frame id that is not ahead of the request. -/
structure IsNearestFrameId (frameId : UInt64) : Prop where
  cached : CachedFrameId cache input requested frameId
  atOrBefore : frameId ≤ requested.frameId
  greatest : ∀ other, CachedFrameId cache input requested other → other ≤ requested.frameId →
    other ≤ frameId

/-- The lookup is exact: it answers by the greatest kept frame id that is not ahead of the request. -/
structure LookupExact (allowedLag : UInt64) (answer : TwoRealContinuousBoundedLookupCandidate) : Prop where
  hit : ∀ key usedFrameId requestedFrameId lagFrames,
    answer = .hit key usedFrameId requestedFrameId lagFrames →
      key ∈ cache ∧ candidateId input requested key = some usedFrameId ∧
        IsNearestFrameId cache input requested usedFrameId ∧ requestedFrameId = requested.frameId ∧
        lagFrames.toNat = requested.frameId.toNat - usedFrameId.toNat
  hit_iff : (∃ key usedFrameId requestedFrameId lagFrames,
      answer = .hit key usedFrameId requestedFrameId lagFrames) ↔
    ∃ frameId, IsNearestFrameId cache input requested frameId ∧
      requested.frameId.toNat - frameId.toNat ≤ allowedLag.toNat
  stale_iff : answer = .rejectedStale ↔ ∃ frameId, IsNearestFrameId cache input requested frameId ∧
    allowedLag.toNat < requested.frameId.toNat - frameId.toNat
  future_iff : answer = .rejectedFuture ↔ (∃ frameId, CachedFrameId cache input requested frameId) ∧
    ∀ frameId, CachedFrameId cache input requested frameId → requested.frameId < frameId
  notReady_iff : answer = .rejectedNotReady ↔ ∀ frameId, ¬CachedFrameId cache input requested frameId

end Exact

/-- No frame of the requested source and size that was decoded before the last one that is not ahead of
the request is between that one and the request, as far as the allowed lag goes. -/
def LatestIsNearest (keyOrder : List TwoRealPreviewLoopDecodeCacheKey) (input : SwitcherH264DecodeInput)
    (requested : SwitcherH264DecodeSourceIdentity) (allowedLag : UInt64) : Prop :=
  ∀ before latest after latestId, keyOrder = before ++ latest :: after →
    atOrBefore input requested latest = some latestId →
    (∀ key ∈ after, atOrBefore input requested key = none) →
    ∀ key ∈ before, ∀ frameId, atOrBefore input requested key = some frameId →
      requested.frameId.toNat - frameId.toNat ≤ allowedLag.toNat → frameId ≤ latestId

section Iff

variable {cache : DecodedCache} {input : SwitcherH264DecodeInput}
  {requested : SwitcherH264DecodeSourceIdentity} {runtime : TwoRealContinuousDecodeRuntime}

theorem IsNearestFrameId.unique {frameId other : UInt64}
    (h : IsNearestFrameId cache input requested frameId)
    (hother : IsNearestFrameId cache input requested other) : frameId = other :=
  UInt64.le_antisymm (hother.greatest frameId h.cached h.atOrBefore)
    (h.greatest other hother.cached hother.atOrBefore)

theorem latestIsNearest_of_none {allowedLag : UInt64}
    (hlatest : latestAtOrBefore input requested runtime = none) :
    LatestIsNearest runtime.continuousKeyOrder input requested allowedLag := by
  intro before latest after latestId horder hid _
  have hmem : latest ∈ runtime.continuousKeyOrder.reverse := by
    rw [horder, List.mem_reverse]
    exact List.mem_append_right _ List.mem_cons_self
  cases (List.findSome?_eq_none_iff.mp hlatest latest hmem).symm.trans hid

theorem latestIsNearest_iff {latestId allowedLag : UInt64}
    (hlatest : latestAtOrBefore input requested runtime = some latestId) :
    LatestIsNearest runtime.continuousKeyOrder input requested allowedLag ↔
      ∀ key ∈ runtime.continuousKeyOrder, ∀ frameId, atOrBefore input requested key = some frameId →
        requested.frameId.toNat - frameId.toNat ≤ allowedLag.toNat → frameId ≤ latestId := by
  constructor
  · intro h key hmem frameId hid hlag
    obtain ⟨after, latest, before, hreverse, hlatestId, hafter⟩ := List.findSome?_eq_some_iff.mp hlatest
    have horder : runtime.continuousKeyOrder = before.reverse ++ latest :: after.reverse := by
      rw [← List.reverse_reverse runtime.continuousKeyOrder, hreverse]
      simp
    have hafter' : ∀ key ∈ after.reverse, atOrBefore input requested key = none := fun key hkey =>
      hafter key (List.mem_reverse.mp hkey)
    rw [horder, List.mem_append, List.mem_cons] at hmem
    rcases hmem with hbefore | rfl | hmem
    · exact h _ _ _ _ horder hlatestId hafter' key hbefore frameId hid hlag
    · cases hid.symm.trans hlatestId
      exact UInt64.le_refl _
    · cases (hafter' key hmem).symm.trans hid
  · intro h before latest after id horder hid hafter key hkey frameId hkeyId hlag
    have hid' : latestAtOrBefore input requested runtime = some id := by
      refine List.findSome?_eq_some_iff.mpr ⟨after.reverse, latest, before.reverse, ?_, hid, ?_⟩
      · rw [horder]
        simp
      · exact fun key hkey => hafter key (List.mem_reverse.mp hkey)
    cases hid'.symm.trans hlatest
    refine h key ?_ frameId hkeyId hlag
    rw [horder]
    exact List.mem_append_left _ hkey

section

variable (hkeys : ∀ key, key ∈ cache ↔ key ∈ runtime.continuousKeyOrder)

include hkeys

theorem cachedFrameId_iff (frameId : UInt64) : CachedFrameId cache input requested frameId ↔
    ∃ key ∈ runtime.continuousKeyOrder, candidateId input requested key = some frameId := by
  unfold CachedFrameId
  simp only [hkeys]

theorem ahead_of_latest_none (hlatest : latestAtOrBefore input requested runtime = none) (frameId : UInt64)
    (h : CachedFrameId cache input requested frameId) : requested.frameId < frameId := by
  obtain ⟨key, hmem, hid⟩ := (cachedFrameId_iff hkeys frameId).mp h
  have hnone := List.findSome?_eq_none_iff.mp hlatest key (List.mem_reverse.mpr hmem)
  refine UInt64.not_le.mp fun hle => ?_
  rw [(atOrBefore_eq_some_iff input requested).mpr ⟨hid, hle⟩] at hnone
  cases hnone

theorem cached_of_latest {frameId : UInt64} (hlatest : latestAtOrBefore input requested runtime = some frameId) :
    CachedFrameId cache input requested frameId ∧ frameId ≤ requested.frameId := by
  obtain ⟨key, hmem, hkey⟩ := List.exists_of_findSome?_eq_some hlatest
  obtain ⟨hid, hle⟩ := (atOrBefore_eq_some_iff input requested).mp hkey
  exact ⟨(cachedFrameId_iff hkeys frameId).mpr ⟨key, List.mem_reverse.mp hmem, hid⟩, hle⟩

/-- The kept keys are finitely many, so one that is not ahead of the request is the nearest. -/
theorem exists_nearest {frameId : UInt64} (hcached : CachedFrameId cache input requested frameId)
    (hle : frameId ≤ requested.frameId) :
    ∃ nearest, IsNearestFrameId cache input requested nearest := by
  have hmem (other : UInt64) :
      other ∈ (runtime.continuousKeyOrder.filterMap (atOrBefore input requested)).toFinset ↔
        CachedFrameId cache input requested other ∧ other ≤ requested.frameId := by
    rw [List.mem_toFinset, List.mem_filterMap, cachedFrameId_iff hkeys]
    simp only [atOrBefore_eq_some_iff]
    constructor
    · rintro ⟨key, hkey, hid, hother⟩
      exact ⟨⟨key, hkey, hid⟩, hother⟩
    · rintro ⟨⟨key, hkey, hid⟩, hother⟩
      exact ⟨key, hkey, hid, hother⟩
  obtain ⟨nearest, hnearest, hmax⟩ := Finset.exists_max_image
    (runtime.continuousKeyOrder.filterMap (atOrBefore input requested)).toFinset UInt64.toNat
    ⟨frameId, (hmem frameId).mpr ⟨hcached, hle⟩⟩
  obtain ⟨hnearestCached, hnearestLe⟩ := (hmem nearest).mp hnearest
  exact ⟨nearest, hnearestCached, hnearestLe, fun other hother hotherLe =>
    UInt64.le_iff_toNat_le.mpr (hmax other ((hmem other).mpr ⟨hother, hotherLe⟩))⟩

/-- Without a kept frame at or before the request the lookup is exact. -/
theorem lookupExact_of_latest_none (hlatest : latestAtOrBefore input requested runtime = none)
    {allowedLag : UInt64} {answer : TwoRealContinuousBoundedLookupCandidate}
    (hfuture : answer = .rejectedFuture ↔ ∃ frameId, CachedFrameId cache input requested frameId)
    (hanswer : answer = .rejectedFuture ∨ answer = .rejectedNotReady) :
    LookupExact cache input requested allowedLag answer := by
  have hahead := ahead_of_latest_none hkeys hlatest
  have hnearest : ∀ frameId, ¬IsNearestFrameId cache input requested frameId := fun frameId h =>
    UInt64.not_le.mpr (hahead frameId h.cached) h.atOrBefore
  have hother : ∀ frameId, (∀ key used asked lag, answer ≠ .hit key used asked lag) ∧
      answer ≠ .rejectedStale ∨ IsNearestFrameId cache input requested frameId := fun _ => by
    rcases hanswer with rfl | rfl <;> exact .inl ⟨nofun, nofun⟩
  obtain ⟨hhit, hstale⟩ := (hother 0).resolve_right (hnearest 0)
  refine ⟨fun key used asked lag h => absurd h (hhit key used asked lag), ?_, ?_, ?_, ?_⟩
  · refine iff_of_false ?_ fun ⟨frameId, h, _⟩ => hnearest frameId h
    rintro ⟨key, used, asked, lag, h⟩
    exact hhit key used asked lag h
  · exact iff_of_false hstale fun ⟨frameId, h, _⟩ => hnearest frameId h
  · exact hfuture.trans (iff_self_and.mpr fun _ => hahead)
  · rw [← not_exists, ← hfuture]
    rcases hanswer with rfl | rfl <;> simp

/-- The last of them is the nearest when the lookup hits it and none within the lag is greater. -/
theorem isNearest_of_latest {latest allowedLag : UInt64}
    (hlatest : latestAtOrBefore input requested runtime = some latest)
    (hlag : requested.frameId.toNat - latest.toNat ≤ allowedLag.toNat)
    (hnearest : LatestIsNearest runtime.continuousKeyOrder input requested allowedLag) :
    IsNearestFrameId cache input requested latest := by
  obtain ⟨hcached, hle⟩ := cached_of_latest hkeys hlatest
  refine ⟨hcached, hle, fun other hother hotherLe => ?_⟩
  obtain ⟨key, hmem, hid⟩ := (cachedFrameId_iff hkeys other).mp hother
  have hbefore := (atOrBefore_eq_some_iff input requested).mpr ⟨hid, hotherLe⟩
  rw [UInt64.le_iff_toNat_le] at hotherLe ⊢
  by_cases hother : requested.frameId.toNat - other.toNat ≤ allowedLag.toNat
  · exact UInt64.le_iff_toNat_le.mp ((latestIsNearest_iff hlatest).mp hnearest key hmem other hbefore hother)
  · -- one that is stale is behind one that is not
    omega

theorem lookupExact_hit_iff {key : TwoRealPreviewLoopDecodeCacheKey} {latest allowedLag : UInt64}
    (hlatest : latestAtOrBefore input requested runtime = some latest)
    (hmem : key ∈ runtime.continuousKeyOrder) (hid : candidateId input requested key = some latest)
    (hlag : requested.frameId.toNat - latest.toNat ≤ allowedLag.toNat) :
    LookupExact cache input requested allowedLag
        (.hit key latest requested.frameId (requested.frameId - latest)) ↔
      LatestIsNearest runtime.continuousKeyOrder input requested allowedLag := by
  obtain ⟨hcached, hle⟩ := cached_of_latest hkeys hlatest
  constructor
  · intro h
    have hgreatest := (h.hit _ _ _ _ rfl).2.2.1.greatest
    refine (latestIsNearest_iff hlatest).mpr fun other hother frameId hotherId _ => ?_
    obtain ⟨hcandidate, hotherLe⟩ := (atOrBefore_eq_some_iff input requested).mp hotherId
    exact hgreatest frameId ((cachedFrameId_iff hkeys frameId).mpr ⟨other, hother, hcandidate⟩) hotherLe
  · intro h
    have hnearest := isNearest_of_latest hkeys hlatest hlag h
    refine ⟨?_, ?_, ?_, ?_, ?_⟩
    · intro key' used asked lag heq
      cases heq
      exact ⟨(hkeys key).mpr hmem, hid, hnearest, rfl, UInt64.toNat_sub_of_le _ _ hle⟩
    · exact iff_of_true ⟨_, _, _, _, rfl⟩ ⟨latest, hnearest, hlag⟩
    · refine iff_of_false nofun ?_
      rintro ⟨frameId, hframeId, hstale⟩
      rw [hframeId.unique hnearest] at hstale
      exact Nat.not_lt.mpr hlag hstale
    · refine iff_of_false nofun ?_
      rintro ⟨_, hahead⟩
      exact UInt64.not_le.mpr (hahead latest hcached) hle
    · exact iff_of_false nofun fun hnone => hnone latest hcached

theorem lookupExact_stale_iff {latest allowedLag : UInt64}
    (hlatest : latestAtOrBefore input requested runtime = some latest)
    (hlag : allowedLag.toNat < requested.frameId.toNat - latest.toNat) :
    LookupExact cache input requested allowedLag .rejectedStale ↔
      LatestIsNearest runtime.continuousKeyOrder input requested allowedLag := by
  obtain ⟨hcached, hle⟩ := cached_of_latest hkeys hlatest
  obtain ⟨nearest, hnearest⟩ := exists_nearest hkeys hcached hle
  have hiff : LatestIsNearest runtime.continuousKeyOrder input requested allowedLag ↔
      allowedLag.toNat < requested.frameId.toNat - nearest.toNat := by
    rw [latestIsNearest_iff hlatest]
    constructor
    · intro h
      obtain ⟨key, hmem, hid⟩ := (cachedFrameId_iff hkeys nearest).mp hnearest.cached
      have hbefore := (atOrBefore_eq_some_iff input requested).mpr ⟨hid, hnearest.atOrBefore⟩
      by_contra hnear
      have hbehind := UInt64.le_iff_toNat_le.mp (h key hmem nearest hbefore (Nat.le_of_not_lt hnear))
      omega
    · intro hstale key hmem frameId hid hnear
      obtain ⟨hcandidate, hframeLe⟩ := (atOrBefore_eq_some_iff input requested).mp hid
      have hbehind := UInt64.le_iff_toNat_le.mp
        (hnearest.greatest frameId ((cachedFrameId_iff hkeys frameId).mpr ⟨key, hmem, hcandidate⟩) hframeLe)
      omega
  rw [hiff]
  constructor
  · intro h
    obtain ⟨frameId, hframeId, hstale⟩ := h.stale_iff.mp rfl
    rwa [hframeId.unique hnearest] at hstale
  · intro hstale
    refine ⟨nofun, ?_, iff_of_true rfl ⟨nearest, hnearest, hstale⟩, ?_, ?_⟩
    · refine iff_of_false nofun ?_
      rintro ⟨frameId, hframeId, hnear⟩
      rw [hframeId.unique hnearest] at hnear
      exact Nat.not_lt.mpr hnear hstale
    · refine iff_of_false nofun ?_
      rintro ⟨_, hahead⟩
      exact UInt64.not_le.mpr (hahead latest hcached) hle
    · exact iff_of_false nofun fun hnone => hnone latest hcached

/-- Whatever the runtime keeps, the lookup is exact when the frame that was decoded last is the nearest. -/
theorem lookupExact_iff (henabled : runtime.runtimeDisabled = false)
    (hsource : input.sourceIdentity = some requested) :
    LookupExact cache input requested runtime.config.boundedLookupAllowedLag
        (runtime.boundedLagLookupCandidate input) ↔
      LatestIsNearest runtime.continuousKeyOrder input requested runtime.config.boundedLookupAllowedLag := by
  have hanswer := lookupAnswer henabled hsource
  generalize runtime.boundedLagLookupCandidate input = answer at hanswer ⊢
  cases hanswer with
  | none hlatest hnone =>
    refine iff_of_true (lookupExact_of_latest_none hkeys hlatest ?_ (.inr rfl))
      (latestIsNearest_of_none hlatest)
    refine iff_of_false nofun ?_
    rintro ⟨frameId, hcached⟩
    obtain ⟨key, hmem, hid⟩ := (cachedFrameId_iff hkeys frameId).mp hcached
    cases (hnone key hmem).symm.trans hid
  | future hlatest hsome =>
    obtain ⟨key, hmem, hid⟩ := hsome
    obtain ⟨frameId, hid⟩ := Option.isSome_iff_exists.mp hid
    exact iff_of_true (lookupExact_of_latest_none hkeys hlatest
      (iff_of_true rfl ⟨frameId, (cachedFrameId_iff hkeys frameId).mpr ⟨key, hmem, hid⟩⟩) (.inl rfl))
      (latestIsNearest_of_none hlatest)
  | stale frameId hlatest hlag => exact lookupExact_stale_iff hkeys hlatest hlag
  | hit key frameId hlatest hmem hid hlag => exact lookupExact_hit_iff hkeys hlatest hmem hid hlag

end

end Iff

theorem ContinuousDecodeSound.mem_cache_iff {pictures : DecoderPictures}
    {outputOverride : TwoRealPreviewLoopDecodeOutputOverride} {state : ContinuousDecodeState}
    (h : ContinuousDecodeSound pictures outputOverride state) (key : TwoRealPreviewLoopDecodeCacheKey) :
    key ∈ state.cache ↔ key ∈ state.runtime.continuousKeyOrder := by
  constructor
  · intro hkey
    rcases h.2.only key hkey with horder | hstored
    · exact horder
    · exact absurd hstored (Finset.notMem_empty key)
  · rw [h.2.order]
    rintro horder
    obtain ⟨output, hkept, rfl⟩ := List.mem_map.mp horder
    rw [← AList.lookup_isSome, h.2.present output hkept]
    rfl

/-- The keys of the decoded frames are in the order in which their access units were enqueued. -/
theorem ContinuousDecodeSound.sublist_order {pictures : DecoderPictures}
    {outputOverride : TwoRealPreviewLoopDecodeOutputOverride} {state : ContinuousDecodeState}
    (h : ContinuousDecodeSound pictures outputOverride state) :
    state.runtime.continuousKeyOrder.Sublist (state.runtime.accepted.map inputKey) := by
  rw [h.2.order]
  refine (List.Sublist.map outputKey (List.drop_sublist _ _)).trans ?_
  unfold TwoRealContinuousDecodeRuntime.drainedOutputs TwoRealContinuousDecodeRuntime.accepted
  cases hstarted : state.runtime.startedSession with
  | none => exact List.Sublist.refl _
  | some session =>
    exact (List.Sublist.map outputKey (List.sublist_append_left _ _)).trans (h.1.sublist_sent hstarted)

theorem latestIsNearest_of_pairwise {keyOrder : List TwoRealPreviewLoopDecodeCacheKey}
    {input : SwitcherH264DecodeInput} {requested : SwitcherH264DecodeSourceIdentity} (allowedLag : UInt64)
    (h : keyOrder.Pairwise fun key later => ∀ frameId laterId,
      candidateId input requested key = some frameId →
        candidateId input requested later = some laterId → frameId ≤ laterId) :
    LatestIsNearest keyOrder input requested allowedLag := by
  intro before latest after latestId horder hlatest _ key hkey frameId hid _
  rw [horder] at h
  exact (List.pairwise_append.mp h).2.2 key hkey latest List.mem_cons_self frameId latestId
    ((atOrBefore_eq_some_iff input requested).mp hid).1
    ((atOrBefore_eq_some_iff input requested).mp hlatest).1

/-- In whatever order the frames were enqueued, decoded and drained. -/
theorem boundedLagLookup_exact_iff (pictures : DecoderPictures) (source : TwoRealContinuousDecodeSource)
    (outputOverride : TwoRealPreviewLoopDecodeOutputOverride) (config : TwoRealContinuousDecodeConfig)
    (actions : List ContinuousDecodeAction) (input : SwitcherH264DecodeInput)
    (requested : SwitcherH264DecodeSourceIdentity) (hsource : input.sourceIdentity = some requested) :
    let state :=
      (run (continuousDecodeStep pictures outputOverride) ⟨.new source outputOverride config, ∅⟩ actions).1
    state.runtime.runtimeDisabled = false →
      (LookupExact state.cache input requested state.runtime.config.boundedLookupAllowedLag
          (state.runtime.boundedLagLookupCandidate input) ↔
        LatestIsNearest state.runtime.continuousKeyOrder input requested
          state.runtime.config.boundedLookupAllowedLag) := fun henabled =>
  lookupExact_iff (continuousDecodeRun_sound source config actions).mem_cache_iff henabled hsource

/-- A runtime that got the frames of the source and size with growing ids answers by the nearest one. -/
theorem boundedLagLookup_exact_of_inOrder (pictures : DecoderPictures) (source : TwoRealContinuousDecodeSource)
    (outputOverride : TwoRealPreviewLoopDecodeOutputOverride) (config : TwoRealContinuousDecodeConfig)
    (actions : List ContinuousDecodeAction) (input : SwitcherH264DecodeInput)
    (requested : SwitcherH264DecodeSourceIdentity) (hsource : input.sourceIdentity = some requested) :
    let state :=
      (run (continuousDecodeStep pictures outputOverride) ⟨.new source outputOverride config, ∅⟩ actions).1
    state.runtime.runtimeDisabled = false →
      ((state.runtime.accepted.map inputKey).Pairwise fun key later => ∀ frameId laterId,
        candidateId input requested key = some frameId →
          candidateId input requested later = some laterId → frameId ≤ laterId) →
        LookupExact state.cache input requested state.runtime.config.boundedLookupAllowedLag
          (state.runtime.boundedLagLookupCandidate input) := by
  intro state henabled hordered
  have hsound : ContinuousDecodeSound pictures outputOverride state :=
    continuousDecodeRun_sound source config actions
  exact (lookupExact_iff hsound.mem_cache_iff henabled hsource).mpr
    (latestIsNearest_of_pairwise _ (hordered.sublist hsound.sublist_order))

section Example

/-- A frame with the parameter sets and the picture that start a decoder. -/
def startupInput (frameId : UInt64) : SwitcherH264DecodeInput where
  encodedPayload := [0, 0, 1, 0x67, 0, 0, 1, 0x68, 0, 0, 1, 0x65]
  width := 1
  height := 1
  scaledOutputEnabled := false
  scaledOutputReason := none
  sourceIdentity := some ⟨"player1", "run", frameId, "player1/run"⟩

/-- One frame is enqueued, decoded and drained. -/
def decodesFrame (frameId : UInt64) : List ContinuousDecodeAction :=
  [.enqueue (startupInput frameId) .spawned, .thread .writerReceives, .thread .writerPushes,
    .thread .writerWrites, .thread .writerReturns, .thread .processReceives, .thread .processEmits,
    .thread (.readerReads 4), .thread .readerPops, .thread .readerSends, .drainOutputs]

/-- The frame that the render demand asks for is decoded before an older one of the feeder. -/
def feederBehindRender : ContinuousDecodeState :=
  (run (continuousDecodeStep (fun length _ => Vector.replicate length 0) ⟨1, 1, "preview"⟩)
    ⟨.new ⟨"player1", "run"⟩ ⟨1, 1, "preview"⟩ ⟨false, none, .default⟩, ∅⟩
    (decodesFrame 9 ++ decodesFrame 1)).1

/-- The older frame, which was decoded last, hides the one right before the request. -/
theorem boundedLagLookup_hidesNearest :
    feederBehindRender.runtime.boundedLagLookupCandidate (startupInput 10) = .rejectedStale ∧
      ¬LookupExact feederBehindRender.cache (startupInput 10) ⟨"player1", "run", 10, "player1/run"⟩
        feederBehindRender.runtime.config.boundedLookupAllowedLag
        (feederBehindRender.runtime.boundedLagLookupCandidate (startupInput 10)) := by
  have hanswer : feederBehindRender.runtime.boundedLagLookupCandidate (startupInput 10) = .rejectedStale := by
    decide +kernel
  refine ⟨hanswer, fun h => ?_⟩
  obtain ⟨frameId, hnearest, hstale⟩ := h.stale_iff.mp hanswer
  have hcached : CachedFrameId feederBehindRender.cache (startupInput 10)
      ⟨"player1", "run", 10, "player1/run"⟩ 9 :=
    ⟨decodeCacheKey (startupInput 9), by decide +kernel, by decide⟩
  have hbehind := UInt64.le_iff_toNat_le.mp (hnearest.greatest 9 hcached (by decide))
  have hlag : feederBehindRender.runtime.config.boundedLookupAllowedLag = 5 := by decide +kernel
  rw [hlag] at hstale
  change 9 ≤ frameId.toNat at hbehind
  change 5 < 10 - frameId.toNat at hstale
  omega

/-- Two frames are decoded in the order of their ids. -/
def feederInOrder : ContinuousDecodeState :=
  (run (continuousDecodeStep (fun length _ => Vector.replicate length 0) ⟨1, 1, "preview"⟩)
    ⟨.new ⟨"player1", "run"⟩ ⟨1, 1, "preview"⟩ ⟨false, none, .default⟩, ∅⟩
    (decodesFrame 7 ++ decodesFrame 9)).1

theorem feederInOrder_keyOrder : feederInOrder.runtime.continuousKeyOrder =
    [decodeCacheKey (startupInput 7), decodeCacheKey (startupInput 9)] := by
  decide +kernel

theorem boundedLagLookup_exact_iff_two_decoded :
    LookupExact feederInOrder.cache (startupInput 10) ⟨"player1", "run", 10, "player1/run"⟩
        feederInOrder.runtime.config.boundedLookupAllowedLag
        (feederInOrder.runtime.boundedLagLookupCandidate (startupInput 10)) ∧
      feederInOrder.runtime.boundedLagLookupCandidate (startupInput 10) =
        .hit (decodeCacheKey (startupInput 9)) 9 10 1 := by
  have hiff := boundedLagLookup_exact_iff (fun length _ => Vector.replicate length 0) ⟨"player1", "run"⟩
    ⟨1, 1, "preview"⟩ ⟨false, none, .default⟩ (decodesFrame 7 ++ decodesFrame 9) (startupInput 10) _ rfl
    (by decide +kernel)
  refine ⟨hiff.mpr (latestIsNearest_of_pairwise _ ?_), by decide +kernel⟩
  have horder : (run (continuousDecodeStep (fun length _ => Vector.replicate length 0) ⟨1, 1, "preview"⟩)
      ⟨.new ⟨"player1", "run"⟩ ⟨1, 1, "preview"⟩ ⟨false, none, .default⟩, ∅⟩
      (decodesFrame 7 ++ decodesFrame 9)).1.runtime.continuousKeyOrder = _ := feederInOrder_keyOrder
  rw [horder, List.pairwise_pair]
  intro frameId laterId hfirst hlater
  have hseven : candidateId (startupInput 10) ⟨"player1", "run", 10, "player1/run"⟩
      (decodeCacheKey (startupInput 7)) = some 7 := by decide +kernel
  have hnine : candidateId (startupInput 10) ⟨"player1", "run", 10, "player1/run"⟩
      (decodeCacheKey (startupInput 9)) = some 9 := by decide +kernel
  cases hseven.symm.trans hfirst
  cases hnine.symm.trans hlater
  decide

end Example

end StreamSync
