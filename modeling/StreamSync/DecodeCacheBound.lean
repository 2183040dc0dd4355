import Mathlib.Data.Finset.Card
import StreamSync.ContinuousDecoding
import StreamSync.DecodeCalls
import StreamSync.Lib.Run

namespace StreamSync

open Run

/-- What can happen to a decode runtime, in any order. -/
inductive TimedDecodeAction where
  | thread (step : ThreadStep)
  | decode (input : SwitcherH264DecodeInput) (purpose : TwoRealPreviewLoopDecodePurpose)
      (turn : ContinuousTurn)
  | feed (frame : SwitcherSingleViewSelectedEncodedFrame) (turn : ContinuousTurn)
  | latestProgramFrame (clientId : ClientId) (selectedRunId : Option RunId)
  | setDecodeSuppression (active : Bool)
  | setProgramSourcePreviewSuppression (active : Bool)
  | setRefreshBudget (active : Bool) (budget : UInt32)

section

variable {δ : Type}

def timedDecodeStep (pictures : DecoderPictures) (decode : H264DecodeRuntime δ)
    (timed : TimedSwitcherH264DecodeRuntime δ) :
    TimedDecodeAction → TimedSwitcherH264DecodeRuntime δ × Option SwitcherH264DecodeResult
  | .thread step => (timed.advance pictures [step], none)
  | .decode input purpose turn =>
    let (result, timed) := timed.decodeForPurpose pictures decode input purpose turn
    (timed, some result)
  | .feed frame turn => ((timed.feedSlot0ContinuousFrame pictures frame turn).1, none)
  | .latestProgramFrame clientId selectedRunId =>
    ((timed.latestContinuousProgramFrame clientId selectedRunId).2, none)
  | .setDecodeSuppression active => (timed.setProgramFirstDecodeSuppressionActive active, none)
  | .setProgramSourcePreviewSuppression active =>
    (timed.setProgramFirstProgramSourcePreviewSuppressionActive active, none)
  | .setRefreshBudget active budget => (timed.setOperatorPreviewDecodeRefreshBudget active budget, none)

/-- The key order, the key set and the cache agree, and the order is no longer than the queue bound. -/
structure DecodeCacheConsistent (timed : TimedSwitcherH264DecodeRuntime δ) : Prop where
  bounded : ∀ runtime ∈ timed.continuousSlot0,
    runtime.continuousKeyOrder.length ≤ continuousDecodeQueueBound
  nodup : ∀ runtime ∈ timed.continuousSlot0, runtime.continuousKeyOrder.Nodup
  sameKeys : ∀ runtime ∈ timed.continuousSlot0, ∀ key,
    key ∈ runtime.continuousKeyOrder ↔ key ∈ runtime.continuousDecodedKeys
  present : ∀ runtime ∈ timed.continuousSlot0, ∀ key ∈ runtime.continuousKeyOrder, key ∈ timed.decodedCache

/-- Every picture that a decode call stores itself, and does not get from the continuous decoder, has one
of the given keys. -/
def StoresOnly (pictures : DecoderPictures) (decode : H264DecodeRuntime δ)
    (stored : Finset TwoRealPreviewLoopDecodeCacheKey) (timed : TimedSwitcherH264DecodeRuntime δ) :
    TimedDecodeAction → Prop
  | .decode input purpose turn =>
    (timed.beforeOneShot pictures input purpose turn).1 = none →
      ∀ decoded, (decode (timed.overridden input) timed.inner).1 = .decoded decoded →
        timed.cacheKey input ∈ stored
  | _ => True

/-- The continuous runtime and the cache, where `stored` are the keys the cache may have from the one-shot
decoder. -/
structure DecodeCacheSound (pictures : DecoderPictures) (stored : Finset TwoRealPreviewLoopDecodeCacheKey)
    (timed : TimedSwitcherH264DecodeRuntime δ) : Prop where
  runtime : ∀ runtime ∈ timed.continuousSlot0, runtime.Sound pictures timed.outputOverride ∧
    CacheInStep runtime.drainedOutputs stored runtime timed.decodedCache
  oneShot : timed.continuousSlot0 = none → ∀ key ∈ timed.decodedCache, key ∈ stored

variable {pictures : DecoderPictures} {decode : H264DecodeRuntime δ}
  {stored : Finset TwoRealPreviewLoopDecodeCacheKey} {timed : TimedSwitcherH264DecodeRuntime δ}

theorem DecodeCacheSound.withRuntime {runtime : TwoRealContinuousDecodeRuntime}
    (hslot : timed.continuousSlot0 = some runtime)
    (hsound : runtime.Sound pictures timed.outputOverride)
    (hcache : CacheInStep runtime.drainedOutputs stored runtime timed.decodedCache) :
    DecodeCacheSound pictures stored timed := by
  refine ⟨fun runtime' hruntime' => ?_, fun hnone => ?_⟩
  · cases hslot.symm.trans hruntime'
    exact ⟨hsound, hcache⟩
  · cases hslot.symm.trans hnone

/-- What the continuous decoder and its drains do keeps the cache in step. -/
theorem kept_decodeCacheSound (pictures : DecoderPictures)
    (stored : Finset TwoRealPreviewLoopDecodeCacheKey) :
    TimedSwitcherH264DecodeRuntime.Kept (δ := δ) pictures (fun _ => True) (DecodeCacheSound pictures stored) where
  advance timed steps h := by
    cases hslot : timed.continuousSlot0 with
    | none =>
      have hsame : timed.advance pictures steps = timed := by
        unfold TimedSwitcherH264DecodeRuntime.advance
        rw [hslot, Option.map_none, ← hslot]
      rw [hsame]
      exact h
    | some runtime =>
      obtain ⟨hsound, hcache⟩ := h.runtime runtime hslot
      have hnext : (timed.advance pictures steps).continuousSlot0 = some (runtime.advance pictures steps) := by
        unfold TimedSwitcherH264DecodeRuntime.advance
        rw [hslot, Option.map_some]
      exact .withRuntime hnext (hsound.advance steps)
        ((TwoRealContinuousDecodeRuntime.sameDrained_advance pictures steps).cacheInStep hcache)
  enqueue timed runtime input spawn _ h hslot := by
    obtain ⟨hsound, hcache⟩ := h.runtime runtime hslot
    exact .withRuntime rfl (hsound.enqueueInput input spawn)
      ((TwoRealContinuousDecodeRuntime.sameDrained_enqueueInput hsound.stopped input spawn).cacheInStep hcache)
  drain timed runtime h hslot := by
    obtain ⟨hsound, hcache⟩ := h.runtime runtime hslot
    exact .withRuntime rfl hsound.drainOutputs
      (TwoRealContinuousDecodeRuntime.cacheInStep_drainOutputs hsound hcache)
  budget timed remaining h := ⟨h.runtime, h.oneShot⟩

/-- A picture under a key that the cache did not have goes in beside those of the continuous decoder. -/
theorem CacheInStep.insert {drained : List TwoRealContinuousDecodeOutput}
    {runtime : TwoRealContinuousDecodeRuntime} {cache : DecodedCache}
    (h : CacheInStep drained stored runtime cache) {key : TwoRealPreviewLoopDecodeCacheKey}
    (hmiss : cache.lookup key = none) (hkey : key ∈ stored) (decoded : SwitcherDecodedFrame) :
    CacheInStep drained stored runtime (cache.insert key decoded) := by
  refine ⟨h.order, h.decodedKeys, fun output houtput => ?_, fun key' hkey' => ?_⟩
  · have hpresent := h.present output houtput
    have hne : outputKey output ≠ key := by
      intro heq
      rw [heq, hmiss] at hpresent
      cases hpresent
    rw [AList.lookup_insert_ne hne]
    exact hpresent
  · rcases (AList.mem_insert _).mp hkey' with rfl | hold
    · exact .inr hkey
    · exact h.only key' hold

theorem DecodeCacheSound.insert (h : DecodeCacheSound pictures stored timed)
    {key : TwoRealPreviewLoopDecodeCacheKey} (hmiss : timed.decodedCache.lookup key = none)
    (hkey : key ∈ stored) (decoded : SwitcherDecodedFrame) (inner : δ) :
    DecodeCacheSound pictures stored
      { timed with inner, decodedCache := timed.decodedCache.insert key decoded } := by
  refine ⟨fun runtime hslot => ?_, fun hnone key' hkey' => ?_⟩
  · obtain ⟨hsound, hcache⟩ := h.runtime runtime hslot
    exact ⟨hsound, hcache.insert hmiss hkey decoded⟩
  · rcases (AList.mem_insert _).mp hkey' with rfl | hold
    · exact hkey
    · exact h.oneShot hnone key' hold

theorem timedDecodeStep_sound (h : DecodeCacheSound pictures stored timed) {action : TimedDecodeAction}
    (hstores : StoresOnly pictures decode stored timed action) :
    DecodeCacheSound pictures stored (timedDecodeStep pictures decode timed action).1 := by
  have hkept := kept_decodeCacheSound (δ := δ) pictures stored
  cases action with
  | thread step => exact hkept.advance timed [step] h
  | decode input purpose turn =>
    refine hkept.decodeForPurpose h decode trivial purpose turn fun hnone hbefore => ?_
    have hmiss := TimedSwitcherH264DecodeRuntime.lookup_of_beforeOneShot hnone
    have hkey : (timed.beforeOneShot pictures input purpose turn).2.cacheKey input = timed.cacheKey input := by
      unfold TimedSwitcherH264DecodeRuntime.cacheKey TimedSwitcherH264DecodeRuntime.overridden
      rw [(timed.beforeOneShot_frame pictures input purpose turn).1]
    have hstored := hstores hnone
    unfold TimedSwitcherH264DecodeRuntime.afterOneShot
    split
    next decoded hdecoded =>
      rw [hkey]
      exact hbefore.insert hmiss (hstored decoded hdecoded) decoded _
    next => exact ⟨hbefore.runtime, hbefore.oneShot⟩
  | feed frame turn => exact hkept.feed h trivial turn
  | latestProgramFrame clientId selectedRunId => exact hkept.latestProgramFrame h clientId selectedRunId
  | setDecodeSuppression active => exact ⟨h.runtime, h.oneShot⟩
  | setProgramSourcePreviewSuppression active => exact ⟨h.runtime, h.oneShot⟩
  | setRefreshBudget active budget => exact ⟨h.runtime, h.oneShot⟩

theorem decodeCacheSound_new (pictures : DecoderPictures) (stored : Finset TwoRealPreviewLoopDecodeCacheKey)
    (inner : δ) (outputOverride : TwoRealPreviewLoopDecodeOutputOverride)
    (source : Option TwoRealContinuousDecodeSource) (config : TwoRealContinuousDecodeConfig)
    (suppression : Option TwoRealProgramFirstDecodeSuppressionConfig) :
    DecodeCacheSound pictures stored
      (TimedSwitcherH264DecodeRuntime.new inner outputOverride source config suppression) := by
  refine ⟨fun runtime hruntime => ?_, fun _ key hkey => absurd hkey (AList.notMem_empty key)⟩
  obtain ⟨slot0Source, -, rfl⟩ := Option.map_eq_some_iff.mp hruntime
  exact ⟨TwoRealContinuousDecodeRuntime.sound_new pictures slot0Source outputOverride config,
    rfl, rfl, nofun, fun key hkey => absurd hkey (AList.notMem_empty key)⟩

theorem DecodeCacheSound.consistent (h : DecodeCacheSound pictures stored timed) :
    DecodeCacheConsistent timed := by
  refine ⟨fun runtime hslot => ?_, fun runtime hslot => ?_, fun runtime hslot key => ?_,
    fun runtime hslot key hkey => ?_⟩
  · exact (h.runtime runtime hslot).2.length_order
  · obtain ⟨hsound, hcache⟩ := h.runtime runtime hslot
    refine hcache.nodup_order ?_
    unfold TwoRealContinuousDecodeRuntime.drainedOutputs
    cases hstarted : runtime.startedSession with
    | none => exact List.nodup_nil
    | some session =>
      refine (hsound.nodup_sent hstarted).sublist (List.Sublist.map _ ?_)
      exact List.sublist_append_left _ _
  · rw [(h.runtime runtime hslot).2.decodedKeys, List.mem_toFinset]
  · obtain ⟨-, hcache⟩ := h.runtime runtime hslot
    rw [hcache.order] at hkey
    obtain ⟨output, houtput, rfl⟩ := List.mem_map.mp hkey
    rw [← AList.lookup_isSome, hcache.present output houtput]
    rfl

theorem length_entries_le {cache : DecodedCache} {keys : Finset TwoRealPreviewLoopDecodeCacheKey}
    (h : ∀ key ∈ cache, key ∈ keys) : cache.entries.length ≤ keys.card := by
  have hsub : cache.keys.toFinset ⊆ keys := by
    intro key hkey
    exact h key (AList.mem_keys.mp (List.mem_toFinset.mp hkey))
  have hcard := Finset.card_le_card hsub
  rw [List.toFinset_card_of_nodup cache.keys_nodup, AList.keys, List.keys, List.length_map] at hcard
  exact hcard

theorem DecodeCacheSound.length_le (h : DecodeCacheSound pictures stored timed) :
    timed.decodedCache.entries.length ≤ continuousDecodeQueueBound + stored.card := by
  cases hslot : timed.continuousSlot0 with
  | none =>
    have hstored := length_entries_le (h.oneShot hslot)
    omega
  | some runtime =>
    obtain ⟨-, hcache⟩ := h.runtime runtime hslot
    have hkeys : timed.decodedCache.entries.length ≤ (runtime.continuousKeyOrder.toFinset ∪ stored).card :=
      length_entries_le fun key hkey => by
        rw [Finset.mem_union, List.mem_toFinset]
        exact hcache.only key hkey
    have hunion := Finset.card_union_le runtime.continuousKeyOrder.toFinset stored
    have horder := List.toFinset_card_le runtime.continuousKeyOrder
    have hbound := hcache.length_order
    omega

theorem DecodeCacheSound.mono (h : DecodeCacheSound pictures stored timed)
    {stored' : Finset TwoRealPreviewLoopDecodeCacheKey} (hsub : stored ⊆ stored') :
    DecodeCacheSound pictures stored' timed := by
  refine ⟨fun runtime hslot => ?_, fun hnone key hkey => hsub (h.oneShot hnone key hkey)⟩
  obtain ⟨hsound, hcache⟩ := h.runtime runtime hslot
  exact ⟨hsound, hcache.order, hcache.decodedKeys, hcache.present,
    fun key hkey => (hcache.only key hkey).imp_right (hsub ·)⟩

/-- Whatever a step stores, some set of keys holds it. -/
theorem exists_storesOnly (pictures : DecoderPictures) (decode : H264DecodeRuntime δ)
    (stored : Finset TwoRealPreviewLoopDecodeCacheKey) (timed : TimedSwitcherH264DecodeRuntime δ)
    (action : TimedDecodeAction) :
    ∃ stored', stored ⊆ stored' ∧ StoresOnly pictures decode stored' timed action := by
  cases action with
  | decode input purpose turn =>
    exact ⟨insert (timed.cacheKey input) stored, Finset.subset_insert _ _,
      fun _ _ _ => Finset.mem_insert_self _ _⟩
  | _ => exact ⟨stored, Finset.Subset.refl _, trivial⟩

theorem timedDecodeRun_sound (decode : H264DecodeRuntime δ) (h : DecodeCacheSound pictures stored timed)
    (actions : List TimedDecodeAction) :
    ∃ stored', DecodeCacheSound pictures stored' (run (timedDecodeStep pictures decode) timed actions).1 := by
  refine run_invariant (P := fun _ => True)
    (fun _ timed _ => ∃ stored', DecodeCacheSound pictures stored' timed) ⟨stored, h⟩ ?_ actions fun _ _ => trivial
  rintro _ timed _ action - ⟨stored', h'⟩
  obtain ⟨stored'', hsub, hstores⟩ := exists_storesOnly pictures decode stored' timed action
  exact ⟨stored'', timedDecodeStep_sound (h'.mono hsub) hstores⟩

/-- For every run the order, the key set and the cache agree; the cache is as small as the set of keys
that the one-shot decoder stores, beside those of the continuous decoder. -/
theorem decodeCache_consistent_bounded (pictures : DecoderPictures) (decode : H264DecodeRuntime δ) (inner : δ)
    (outputOverride : TwoRealPreviewLoopDecodeOutputOverride) (source : Option TwoRealContinuousDecodeSource)
    (config : TwoRealContinuousDecodeConfig)
    (suppression : Option TwoRealProgramFirstDecodeSuppressionConfig) (actions : List TimedDecodeAction) :
    let start := TimedSwitcherH264DecodeRuntime.new inner outputOverride source config suppression
    let timed := (run (timedDecodeStep pictures decode) start actions).1
    DecodeCacheConsistent timed ∧ ∀ stored : Finset TwoRealPreviewLoopDecodeCacheKey,
      Along (timedDecodeStep pictures decode) (StoresOnly pictures decode stored) start actions →
        timed.decodedCache.entries.length ≤ continuousDecodeQueueBound + stored.card := by
  intro start timed
  have hstart := fun stored =>
    decodeCacheSound_new pictures stored inner outputOverride source config suppression
  refine ⟨?_, fun stored halong => ?_⟩
  · obtain ⟨stored, hsound⟩ := timedDecodeRun_sound decode (hstart ∅) actions
    exact hsound.consistent
  · have hsound := halong.keeps (I := DecodeCacheSound pictures stored)
      (fun _ _ h hstores => timedDecodeStep_sound h hstores) (hstart stored)
    exact hsound.length_le

/-- A decode call of an input that the continuous decoder does not take and the cache does not have. -/
theorem decodeForPurpose_oneShot (pictures : DecoderPictures) {input : SwitcherH264DecodeInput}
    (hother : timed.targeted input = none)
    (hactive : timed.programFirstDecodeSuppressionActive = false)
    (hmiss : timed.cacheKey input ∉ timed.decodedCache) {decoded : SwitcherDecodedFrame} {inner : δ}
    (hdecode : decode (timed.overridden input) timed.inner = (.decoded decoded, inner)) (turn : ContinuousTurn) :
    timed.decodeForPurpose pictures decode input .previewFallback turn = (.decoded decoded,
      { timed with inner, decodedCache := timed.decodedCache.insert (timed.cacheKey input) decoded }) := by
  have hdrain : timed.drainTargeted input = timed := by
    rw [TimedSwitcherH264DecodeRuntime.drainTargeted, hother]
  have hanswer : timed.answerTargeted pictures input .previewFallback turn = (none, timed) := by
    rw [TimedSwitcherH264DecodeRuntime.answerTargeted, hother]
  have hsuppress : timed.suppressPreview input .previewFallback = (false, timed) := by
    unfold TimedSwitcherH264DecodeRuntime.suppressPreview
      TimedSwitcherH264DecodeRuntime.maybeSuppressProgramFirstPreviewOneShot
    rw [if_pos (by simp [hactive])]
  have hbefore : timed.beforeOneShot pictures input .previewFallback turn = (none, timed) := by
    unfold TimedSwitcherH264DecodeRuntime.beforeOneShot
    rw [hdrain]
    dsimp only
    rw [AList.lookup_eq_none.mpr hmiss, hanswer]
    dsimp only
    rw [hsuppress]
  unfold TimedSwitcherH264DecodeRuntime.decodeForPurpose
  rw [hbefore]
  dsimp only
  rw [hdecode]

/-- Inputs that only the one-shot decoder takes pile up in the cache, one picture for each. -/
theorem length_entries_oneShot (pictures : DecoderPictures) (decode : H264DecodeRuntime δ)
    (timed : TimedSwitcherH264DecodeRuntime δ)
    (hdecodes : ∀ input inner, ∃ decoded inner', decode input inner = (.decoded decoded, inner'))
    (turn : ContinuousTurn) (inputs : List SwitcherH264DecodeInput)
    (hother : ∀ input ∈ inputs, timed.targeted input = none)
    (hactive : timed.programFirstDecodeSuppressionActive = false)
    (hkeys : (inputs.map timed.cacheKey).Nodup)
    (hmiss : ∀ input ∈ inputs, timed.cacheKey input ∉ timed.decodedCache) :
    (run (timedDecodeStep pictures decode) timed
      (inputs.map fun input => .decode input .previewFallback turn)).1.decodedCache.entries.length =
        timed.decodedCache.entries.length + inputs.length := by
  induction inputs generalizing timed with
  | nil => rfl
  | cons input inputs ih =>
    obtain ⟨decoded, inner, hdecode⟩ := hdecodes (timed.overridden input) timed.inner
    have hfirst := hmiss input List.mem_cons_self
    have hcall := decodeForPurpose_oneShot pictures (hother input List.mem_cons_self) hactive hfirst hdecode
      turn
    have hstep : (timedDecodeStep pictures decode timed (.decode input .previewFallback turn)).1 =
        { timed with inner, decodedCache := timed.decodedCache.insert (timed.cacheKey input) decoded } := by
      show (timed.decodeForPurpose pictures decode input .previewFallback turn).2 = _
      rw [hcall]
    rw [List.map_cons, List.nodup_cons] at hkeys
    rw [List.map_cons, run_cons, hstep, ih]
    · rw [AList.entries_insert_of_notMem hfirst, List.length_cons, List.length_cons]
      omega
    · intro input' hinput'
      exact hother input' (List.mem_cons_of_mem _ hinput')
    · exact hactive
    · exact hkeys.2
    · intro input' hinput' hmem
      rcases (AList.mem_insert _).mp hmem with heq | hold
      · refine hkeys.1 (List.mem_map.mpr ⟨input', hinput', ?_⟩)
        exact heq
      · exact hmiss input' (List.mem_cons_of_mem _ hinput') hold

end

/-- A frame of a client that the continuous decoder does not serve; the client starts a run for each. -/
def slot1Input (i : Nat) : SwitcherH264DecodeInput where
  encodedPayload := [0, 0, 0, 1, 101]
  width := 1
  height := 1
  scaledOutputEnabled := false
  scaledOutputReason := none
  sourceIdentity := some ⟨"client-1", String.ofList (List.replicate (i + 1) 'r'), UInt64.ofNat i, "selected"⟩

def blackPicture : SwitcherDecodedFrame := ⟨1, 1, .bgra8, [0, 0, 0, 255]⟩

def decodesBlack : H264DecodeRuntime Unit := fun _ inner => (.decoded blackPicture, inner)

def emitsZeros : DecoderPictures := fun length _ => Vector.replicate length 0

def slot0Continuous : TimedSwitcherH264DecodeRuntime Unit :=
  .new () ⟨1, 1, "quad_view_tile"⟩ (some ⟨"client-0", "run-0"⟩) ⟨false, none, .default⟩ none

def noTurn : ContinuousTurn := ⟨.spawned, [], []⟩

/-- Decode calls of the second source leave a picture each, however many there are. -/
theorem decodeCache_unbounded :
    ¬∃ bound, ∀ actions, (run (timedDecodeStep emitsZeros decodesBlack) slot0Continuous
      actions).1.decodedCache.entries.length ≤ bound := by
  rintro ⟨bound, hbound⟩
  have hentries := length_entries_oneShot emitsZeros decodesBlack slot0Continuous
    (fun _ inner => ⟨blackPicture, inner, rfl⟩) noTurn
    ((List.range (bound + 1)).map slot1Input) ?_ rfl ?_ ?_
  · have hle := hbound (((List.range (bound + 1)).map slot1Input).map fun input =>
      .decode input .previewFallback noTurn)
    rw [hentries, List.length_map, List.length_range] at hle
    omega
  · intro input hinput
    obtain ⟨i, -, rfl⟩ := List.mem_map.mp hinput
    rfl
  · rw [List.map_map]
    refine List.nodup_range.map_on ?_
    intro i _ j _ heq
    have hrun : String.ofList (List.replicate (i + 1) 'r') = String.ofList (List.replicate (j + 1) 'r') := by
      have hsource := congrArg TwoRealPreviewLoopDecodeCacheKey.sourceIdentity heq
      exact congrArg SwitcherH264DecodeSourceIdentity.runId (Option.some.inj hsource)
    have hlength := congrArg String.length hrun
    simpa using hlength
  · exact fun _ _ => AList.notMem_empty _

theorem decodeCache_bounded_twice :
    (run (timedDecodeStep emitsZeros decodesBlack) slot0Continuous
      [.decode (slot1Input 0) .previewFallback noTurn,
        .decode (slot1Input 0) .previewFallback noTurn]).1.decodedCache.entries.length ≤ 31 :=
  (decodeCache_consistent_bounded emitsZeros decodesBlack () ⟨1, 1, "quad_view_tile"⟩
    (some ⟨"client-0", "run-0"⟩) ⟨false, none, .default⟩ none _).2
    {slot0Continuous.cacheKey (slot1Input 0)}
    ⟨fun _ _ _ => Finset.mem_singleton_self _, fun _ _ _ => Finset.mem_singleton_self _, trivial⟩

end StreamSync
