import Mathlib.Data.Finset.Dedup
import StreamSync.ContinuousPairing

namespace StreamSync

theorem mem_drop_iff_of_nodup {α : Type} {xs : List α} (h : xs.Nodup) (n : Nat) {x : α} :
    x ∈ xs.drop n ↔ x ∈ xs ∧ x ∉ xs.take n := by
  have hdisjoint := h
  rw [← List.take_append_drop n xs, List.nodup_append] at hdisjoint
  constructor
  · intro hx
    exact ⟨List.mem_of_mem_drop hx, fun htake => hdisjoint.2.2 x htake x hx rfl⟩
  · rintro ⟨hx, htake⟩
    rw [← List.take_append_drop n xs, List.mem_append] at hx
    exact hx.resolve_left htake

section DropOldest

variable (order : List TwoRealPreviewLoopDecodeCacheKey) (keys : Finset TwoRealPreviewLoopDecodeCacheKey)
  (cache : DecodedCache) (key : TwoRealPreviewLoopDecodeCacheKey)

/-- How many keys the loop drops. -/
def staleCount : Nat := order.length - continuousDecodeQueueBound

theorem staleCount_cons {order : List TwoRealPreviewLoopDecodeCacheKey} {key : TwoRealPreviewLoopDecodeCacheKey}
    (h : continuousDecodeQueueBound < (key :: order).length) :
    staleCount (key :: order) = staleCount order + 1 := by
  unfold staleCount
  simp only [List.length_cons] at h ⊢
  omega

theorem staleCount_of_not {order : List TwoRealPreviewLoopDecodeCacheKey}
    (h : ¬continuousDecodeQueueBound < order.length) : staleCount order = 0 := by
  unfold staleCount
  omega

theorem dropOldestDecoded_order :
    (dropOldestDecoded order keys cache).1 = order.drop (staleCount order) := by
  induction order generalizing keys cache with
  | nil => rfl
  | cons first order ih =>
    unfold dropOldestDecoded
    split
    next h => rw [ih, staleCount_cons h, List.drop_succ_cons]
    next h => rw [staleCount_of_not h, List.drop_zero]

theorem mem_dropOldestDecoded_keys :
    key ∈ (dropOldestDecoded order keys cache).2.1 ↔ key ∈ keys ∧ key ∉ order.take (staleCount order) := by
  induction order generalizing keys cache with
  | nil => simp [dropOldestDecoded]
  | cons first order ih =>
    unfold dropOldestDecoded
    split
    next h =>
      rw [ih, staleCount_cons h, List.take_succ_cons, Finset.mem_erase, List.mem_cons]
      tauto
    next h => simp [staleCount_of_not h]

theorem lookup_dropOldestDecoded :
    (dropOldestDecoded order keys cache).2.2.lookup key =
      if key ∈ order.take (staleCount order) then none else cache.lookup key := by
  induction order generalizing keys cache with
  | nil => simp [dropOldestDecoded]
  | cons first order ih =>
    unfold dropOldestDecoded
    split
    next h =>
      rw [ih, staleCount_cons h, List.take_succ_cons]
      by_cases hkey : key = first
      · subst hkey
        simp
      · rw [AList.lookup_erase_ne hkey]
        simp [hkey]
    next h => simp [staleCount_of_not h]

end DropOldest

/-- The outputs whose pictures are kept, oldest first. -/
def keptOutputs (drained : List TwoRealContinuousDecodeOutput) : List TwoRealContinuousDecodeOutput :=
  drained.drop (drained.length - continuousDecodeQueueBound)

def outputKey (output : TwoRealContinuousDecodeOutput) : TwoRealPreviewLoopDecodeCacheKey :=
  output.metadata.key

theorem length_keptOutputs (drained : List TwoRealContinuousDecodeOutput) :
    (keptOutputs drained).length ≤ continuousDecodeQueueBound := by
  simp only [keptOutputs, List.length_drop]
  omega

theorem keptOutputs_concat (drained : List TwoRealContinuousDecodeOutput)
    (output : TwoRealContinuousDecodeOutput) :
    keptOutputs (drained ++ [output]) =
      (keptOutputs drained ++ [output]).drop (staleCount ((keptOutputs drained ++ [output]).map outputKey)) := by
  have hsame : keptOutputs drained ++ [output] =
      (drained ++ [output]).drop (drained.length - continuousDecodeQueueBound) := by
    rw [keptOutputs, List.drop_append_of_le_length (by omega)]
  unfold staleCount
  rw [hsame, List.drop_drop, List.length_map, keptOutputs]
  congr 1
  simp only [List.length_drop, List.length_append, List.length_singleton]
  omega

/-- The key order, the key set and the cache after the outputs that were drained; `stored` are the keys
that the cache has from elsewhere. -/
structure CacheInStep (drained : List TwoRealContinuousDecodeOutput)
    (stored : Finset TwoRealPreviewLoopDecodeCacheKey) (runtime : TwoRealContinuousDecodeRuntime)
    (cache : DecodedCache) : Prop where
  order : runtime.continuousKeyOrder = (keptOutputs drained).map outputKey
  decodedKeys : runtime.continuousDecodedKeys = runtime.continuousKeyOrder.toFinset
  present : ∀ output ∈ keptOutputs drained, cache.lookup (outputKey output) = some output.frame
  only : ∀ key ∈ cache, key ∈ runtime.continuousKeyOrder ∨ key ∈ stored

section CacheInStep

variable {drained : List TwoRealContinuousDecodeOutput} {stored : Finset TwoRealPreviewLoopDecodeCacheKey}
  {runtime : TwoRealContinuousDecodeRuntime} {cache : DecodedCache}

theorem CacheInStep.length_order (h : CacheInStep drained stored runtime cache) :
    runtime.continuousKeyOrder.length ≤ continuousDecodeQueueBound := by
  rw [h.order, List.length_map]
  exact length_keptOutputs drained

theorem CacheInStep.nodup_order (h : CacheInStep drained stored runtime cache)
    (hkeys : (drained.map outputKey).Nodup) : runtime.continuousKeyOrder.Nodup := by
  rw [h.order, keptOutputs, List.map_drop]
  exact hkeys.sublist (List.drop_sublist _ _)

/-- A picture whose key was not drained before is stored, and the oldest one goes when there are too
many. -/
theorem CacheInStep.decoded (h : CacheInStep drained stored runtime cache)
    {output : TwoRealContinuousDecodeOutput} (hkeys : ((drained ++ [output]).map outputKey).Nodup) :
    CacheInStep (drained ++ [output]) stored (runtime.applyEvent cache (.decoded output)).1
      (runtime.applyEvent cache (.decoded output)).2 := by
  have horder : runtime.continuousKeyOrder ++ [output.metadata.key] =
      (keptOutputs drained ++ [output]).map outputKey := by
    rw [List.map_append, ← h.order]
    rfl
  have hsub : ((keptOutputs drained ++ [output]).map outputKey).Nodup :=
    hkeys.sublist (((List.drop_sublist _ _).append_right _).map _)
  have hkept : ∀ key, key ∈ (keptOutputs (drained ++ [output])).map outputKey ↔
      key ∈ (keptOutputs drained ++ [output]).map outputKey ∧
        key ∉ ((keptOutputs drained ++ [output]).map outputKey).take
          (staleCount ((keptOutputs drained ++ [output]).map outputKey)) := by
    intro key
    rw [keptOutputs_concat, List.map_drop]
    exact mem_drop_iff_of_nodup hsub _
  have hneworder : (runtime.applyEvent cache (.decoded output)).1.continuousKeyOrder =
      (keptOutputs (drained ++ [output])).map outputKey := by
    show (dropOldestDecoded _ _ _).1 = _
    rw [dropOldestDecoded_order, horder, keptOutputs_concat, List.map_drop]
  have hlookup : ∀ key, (runtime.applyEvent cache (.decoded output)).2.lookup key =
      if key ∈ ((keptOutputs drained ++ [output]).map outputKey).take
          (staleCount ((keptOutputs drained ++ [output]).map outputKey)) then none
      else (cache.insert output.metadata.key output.frame).lookup key := by
    intro key
    show (dropOldestDecoded _ _ _).2.2.lookup key = _
    rw [lookup_dropOldestDecoded, horder]
  refine ⟨hneworder, ?_, ?_, ?_⟩
  · rw [hneworder]
    ext key
    have hinsert : key ∈ insert output.metadata.key runtime.continuousDecodedKeys ↔
        key ∈ (keptOutputs drained ++ [output]).map outputKey := by
      rw [← horder, h.decodedKeys, Finset.mem_insert, List.mem_toFinset, List.mem_append,
        List.mem_singleton, or_comm]
    show key ∈ (dropOldestDecoded _ _ _).2.1 ↔ _
    rw [mem_dropOldestDecoded_keys, hinsert, horder, List.mem_toFinset, hkept]
  · intro output' houtput'
    have hkey := (hkept _).mp (List.mem_map_of_mem houtput')
    rw [hlookup, if_neg hkey.2]
    rw [keptOutputs_concat] at houtput'
    rcases List.mem_append.mp (List.mem_of_mem_drop houtput') with hold | hnew
    · have hne : outputKey output' ≠ output.metadata.key := by
        intro heq
        rw [List.map_append, List.nodup_append] at hsub
        exact hsub.2.2 _ (List.mem_map_of_mem hold) _ (by simp [outputKey]) heq
      rw [AList.lookup_insert_ne hne]
      exact h.present output' hold
    · rw [List.mem_singleton.mp hnew]
      exact AList.lookup_insert _
  · intro key hkey
    rw [← AList.lookup_isSome, hlookup] at hkey
    rw [hneworder, hkept]
    split at hkey
    next => cases hkey
    next hstale =>
      rw [AList.lookup_isSome, AList.mem_insert] at hkey
      rcases hkey with heq | hcache
      · left
        exact ⟨by simp [heq, outputKey], hstale⟩
      · rcases h.only key hcache with hold | hstored
        · left
          refine ⟨?_, hstale⟩
          rw [List.map_append, ← h.order]
          exact List.mem_append_left _ hold
        · exact .inr hstored

theorem CacheInStep.applyEvents {events : List TwoRealContinuousDecodeEvent}
    (h : CacheInStep drained stored runtime cache)
    (hkeys : ((drained ++ events.filterMap TwoRealContinuousDecodeEvent.output?).map outputKey).Nodup) :
    CacheInStep (drained ++ events.filterMap TwoRealContinuousDecodeEvent.output?) stored
      (runtime.applyEvents cache events).1 (runtime.applyEvents cache events).2 := by
  induction events generalizing drained runtime cache with
  | nil =>
    rw [List.filterMap_nil, List.append_nil]
    exact h
  | cons event events ih =>
    cases event with
    | decoded output =>
      have hsplit : drained ++ (TwoRealContinuousDecodeEvent.decoded output :: events).filterMap
          TwoRealContinuousDecodeEvent.output? =
            (drained ++ [output]) ++ events.filterMap TwoRealContinuousDecodeEvent.output? := by
        simp [TwoRealContinuousDecodeEvent.output?]
      rw [hsplit] at hkeys ⊢
      refine ih (h.decoded ?_) hkeys
      rw [List.map_append] at hkeys
      exact hkeys.sublist (List.sublist_append_left _ _)
    | runtimeError reason => exact ih ⟨h.order, h.decodedKeys, h.present, h.only⟩ hkeys

end CacheInStep

end StreamSync
