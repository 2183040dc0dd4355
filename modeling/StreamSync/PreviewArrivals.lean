import StreamSync.DecodeCacheBound
import StreamSync.PreviewLoop

namespace StreamSync

open Run

section KeepsPicture

variable (order : List TwoRealPreviewLoopDecodeCacheKey) (arrived : List TwoRealContinuousDecodeOutput)

/-- The keys that are dropped when the arriving pictures come behind those in order. -/
def droppedKeys : List TwoRealPreviewLoopDecodeCacheKey :=
  (order ++ arrived.map outputKey).take (staleCount (order ++ arrived.map outputKey))

/-- The arriving pictures neither replace the picture under the key nor push it out. -/
structure KeepsPicture (key : TwoRealPreviewLoopDecodeCacheKey) (decoded : SwitcherDecodedFrame) : Prop where
  unreplaced : ∀ output ∈ arrived, outputKey output = key → output.frame = decoded
  undropped : key ∉ droppedKeys order arrived

/-- The order that the arriving pictures leave. -/
def orderAfter : List TwoRealPreviewLoopDecodeCacheKey :=
  (order ++ arrived.map outputKey).drop (staleCount (order ++ arrived.map outputKey))

theorem droppedKeys_orderAfter :
    droppedKeys order arrived ++ orderAfter order arrived = order ++ arrived.map outputKey :=
  List.take_append_drop _ _

theorem length_orderAfter_le : (orderAfter order arrived).length ≤ continuousDecodeQueueBound := by
  unfold orderAfter staleCount
  rw [List.length_drop]
  omega

/-- One more arriving picture drops what was left in order beyond the bound. -/
theorem droppedKeys_concat (output : TwoRealContinuousDecodeOutput) :
    droppedKeys order (arrived ++ [output]) = droppedKeys order arrived ++
      (orderAfter order arrived ++ [outputKey output]).take
        (staleCount (orderAfter order arrived ++ [outputKey output])) ∧
    orderAfter order (arrived ++ [output]) = (orderAfter order arrived ++ [outputKey output]).drop
        (staleCount (orderAfter order arrived ++ [outputKey output])) := by
  have hall : order ++ (arrived ++ [output]).map outputKey =
      droppedKeys order arrived ++ (orderAfter order arrived ++ [outputKey output]) := by
    rw [← List.append_assoc, droppedKeys_orderAfter, List.map_append, ← List.append_assoc]
    rfl
  have hdropped : (droppedKeys order arrived).length = staleCount (order ++ arrived.map outputKey) := by
    unfold droppedKeys staleCount
    rw [List.length_take]
    omega
  have hstale : staleCount (order ++ (arrived ++ [output]).map outputKey) =
      (droppedKeys order arrived).length + staleCount (orderAfter order arrived ++ [outputKey output]) := by
    have hbound := length_orderAfter_le order arrived
    have hcount := congrArg List.length (droppedKeys_orderAfter order arrived)
    rw [List.length_append] at hcount
    unfold staleCount at hdropped ⊢
    rw [hall]
    simp only [List.length_append, List.length_singleton] at hdropped hcount ⊢
    omega
  constructor
  · conv_lhs => unfold droppedKeys
    rw [hstale, hall, List.take_length_add_append]
  · conv_lhs => unfold orderAfter
    rw [hstale, hall, List.drop_length_add_append]

end KeepsPicture

/-- The order and the cache after pictures that arrived one by one. -/
structure ArrivedIn (order : List TwoRealPreviewLoopDecodeCacheKey) (cache : DecodedCache)
    (arrived : List TwoRealContinuousDecodeOutput) (runtime : TwoRealContinuousDecodeRuntime)
    (cache' : DecodedCache) : Prop where
  keyOrder : runtime.continuousKeyOrder = orderAfter order arrived
  picture : ∀ key decoded, cache.lookup key = some decoded → KeepsPicture order arrived key decoded →
    cache'.lookup key = some decoded

section ArrivedIn

variable {order : List TwoRealPreviewLoopDecodeCacheKey} {cache cache' : DecodedCache}
  {arrived : List TwoRealContinuousDecodeOutput} {runtime : TwoRealContinuousDecodeRuntime}

theorem ArrivedIn.decoded (h : ArrivedIn order cache arrived runtime cache')
    (output : TwoRealContinuousDecodeOutput) :
    ArrivedIn order cache (arrived ++ [output]) (runtime.applyEvent cache' (.decoded output)).1
      (runtime.applyEvent cache' (.decoded output)).2 := by
  obtain ⟨hdropped, hafter⟩ := droppedKeys_concat order arrived output
  constructor
  · show (dropOldestDecoded _ _ _).1 = _
    rw [dropOldestDecoded_order, hafter, h.keyOrder]
    rfl
  · intro key decoded hlookup hkeeps
    obtain ⟨hunreplaced, hundropped⟩ := hkeeps
    rw [hdropped, List.mem_append, not_or] at hundropped
    have hbefore : KeepsPicture order arrived key decoded :=
      ⟨fun found hfound => hunreplaced found (List.mem_append_left _ hfound), hundropped.1⟩
    show (dropOldestDecoded _ _ _).2.2.lookup key = _
    rw [lookup_dropOldestDecoded, h.keyOrder]
    refine (if_neg hundropped.2).trans ?_
    by_cases hkey : outputKey output = key
    · rw [← hkey, ← hunreplaced output (by simp) hkey]
      exact AList.lookup_insert _
    · refine (AList.lookup_insert_ne fun heq => hkey heq.symm).trans ?_
      exact h.picture key decoded hlookup hbefore

theorem ArrivedIn.applyEvents {events : List TwoRealContinuousDecodeEvent}
    (h : ArrivedIn order cache arrived runtime cache') :
    ArrivedIn order cache (arrived ++ events.filterMap TwoRealContinuousDecodeEvent.output?)
      (runtime.applyEvents cache' events).1 (runtime.applyEvents cache' events).2 := by
  induction events generalizing arrived runtime cache' with
  | nil =>
    rw [List.filterMap_nil, List.append_nil]
    exact h
  | cons event events ih =>
    cases event with
    | decoded output =>
      have hsplit : arrived ++ (TwoRealContinuousDecodeEvent.decoded output :: events).filterMap
          TwoRealContinuousDecodeEvent.output? =
            (arrived ++ [output]) ++ events.filterMap TwoRealContinuousDecodeEvent.output? := by
        simp [TwoRealContinuousDecodeEvent.output?]
      rw [hsplit]
      exact ih (h.decoded output)
    | runtimeError reason => exact ih ⟨h.keyOrder, h.picture⟩

end ArrivedIn

namespace TimedSwitcherH264DecodeRuntime

variable {δ : Type} {pictures : DecoderPictures} {decode : H264DecodeRuntime δ}

/-- Every picture that was taken from the continuous decoder so far. -/
def drainedOutputs (timed : TimedSwitcherH264DecodeRuntime δ) : List TwoRealContinuousDecodeOutput :=
  (timed.continuousSlot0.map TwoRealContinuousDecodeRuntime.drainedOutputs).getD []

/-- The keys of the pictures in the cache that came from the continuous decoder, oldest first. -/
def keyOrder (timed : TimedSwitcherH264DecodeRuntime δ) : List TwoRealPreviewLoopDecodeCacheKey :=
  (timed.continuousSlot0.map TwoRealContinuousDecodeRuntime.continuousKeyOrder).getD []

/-- What happened to the decode runtime since the start, where the pictures arrived on the way. -/
structure Arrived (start timed : TimedSwitcherH264DecodeRuntime δ)
    (arrived : List TwoRealContinuousDecodeOutput) : Prop where
  drained : timed.drainedOutputs = start.drainedOutputs ++ arrived
  order : timed.keyOrder = orderAfter start.keyOrder arrived
  picture : ∀ key decoded, start.decodedCache.lookup key = some decoded →
    KeepsPicture start.keyOrder arrived key decoded → timed.decodedCache.lookup key = some decoded
  outputOverride : timed.outputOverride = start.outputOverride

/-- The decode runtime is in order, and came out of the start by calls and drains. -/
def SoundSince (pictures : DecoderPictures) (start timed : TimedSwitcherH264DecodeRuntime δ) : Prop :=
  (∃ stored, DecodeCacheSound pictures stored timed) ∧ ∃ arrived, Arrived start timed arrived

/-- What a property has to survive to survive every call of a decode runtime, also what the one-shot decoder
stores; it says nothing about the suppression. -/
structure KeptByCalls (pictures : DecoderPictures) (P : TimedSwitcherH264DecodeRuntime δ → Prop) : Prop
    extends Kept pictures (fun _ => True) P where
  oneShot : ∀ timed input decoded, timed.decodedCache.lookup (timed.cacheKey input) = none → P timed →
    P { timed with decodedCache := timed.decodedCache.insert (timed.cacheKey input) decoded }
  frame : ∀ {timed timed'}, P timed → timed'.decodedCache = timed.decodedCache →
    timed'.continuousSlot0 = timed.continuousSlot0 → timed'.outputOverride = timed.outputOverride → P timed'

section Kept

variable {P : TimedSwitcherH264DecodeRuntime δ → Prop} {timed : TimedSwitcherH264DecodeRuntime δ}

theorem KeptByCalls.decodeForPurpose (h : KeptByCalls pictures P) (hP : P timed) (decode : H264DecodeRuntime δ)
    (input : SwitcherH264DecodeInput) (purpose : TwoRealPreviewLoopDecodePurpose) (turn : ContinuousTurn) :
    P (timed.decodeForPurpose pictures decode input purpose turn).2 := by
  refine h.toKept.decodeForPurpose hP decode trivial purpose turn fun hnone hbefore => ?_
  have hmiss := lookup_of_beforeOneShot hnone
  unfold afterOneShot
  split
  next decoded hdecoded =>
    have hkey : (timed.beforeOneShot pictures input purpose turn).2.cacheKey input = timed.cacheKey input := by
      unfold cacheKey overridden
      rw [(timed.beforeOneShot_frame pictures input purpose turn).1]
    have hstored := h.oneShot _ input decoded (hkey.symm ▸ hmiss) hbefore
    exact h.frame hstored rfl rfl rfl
  next => exact h.frame hbefore rfl rfl rfl

end Kept

section SoundSince

variable {start timed : TimedSwitcherH264DecodeRuntime δ} {stored : Finset TwoRealPreviewLoopDecodeCacheKey}
  {arrived : List TwoRealContinuousDecodeOutput}

theorem drainedOutputs_of_slot {runtime : TwoRealContinuousDecodeRuntime}
    (hslot : timed.continuousSlot0 = some runtime) :
    timed.drainedOutputs = runtime.drainedOutputs ∧ timed.keyOrder = runtime.continuousKeyOrder := by
  unfold drainedOutputs keyOrder
  rw [hslot]
  exact ⟨rfl, rfl⟩

/-- A sound decode runtime came out of itself, and nothing arrived. -/
theorem soundSince_refl (h : DecodeCacheSound pictures stored timed) : SoundSince pictures timed timed := by
  refine ⟨⟨stored, h⟩, [], (List.append_nil _).symm, ?_, fun _ _ hlookup _ => hlookup, rfl⟩
  have hbound : timed.keyOrder.length ≤ continuousDecodeQueueBound := by
    unfold keyOrder
    cases hslot : timed.continuousSlot0 with
    | none => exact Nat.zero_le _
    | some runtime => exact (h.runtime runtime hslot).2.length_order
  have hstale : staleCount timed.keyOrder = 0 := staleCount_of_not (not_lt.mpr hbound)
  unfold orderAfter
  rw [List.map_nil, List.append_nil, hstale, List.drop_zero]

/-- What touches neither the cache nor the pictures that were taken goes on as before. -/
theorem Arrived.sameDrained (h : Arrived start timed arrived) {runtime runtime' : TwoRealContinuousDecodeRuntime}
    (hslot : timed.continuousSlot0 = some runtime)
    (hsame : TwoRealContinuousDecodeRuntime.SameDrained runtime runtime') :
    Arrived start { timed with continuousSlot0 := some runtime' } arrived := by
  obtain ⟨hdrained, horder⟩ := drainedOutputs_of_slot hslot
  refine ⟨?_, ?_, h.picture, h.outputOverride⟩
  · rw [← h.drained, hdrained]
    exact hsame.drained
  · rw [← h.order, horder]
    exact hsame.order

theorem Arrived.drain (h : Arrived start timed arrived) {runtime : TwoRealContinuousDecodeRuntime}
    (hslot : timed.continuousSlot0 = some runtime) : ∃ arrived, Arrived start (timed.drain runtime) arrived := by
  obtain ⟨hdrained, horder⟩ := drainedOutputs_of_slot hslot
  have hafter := @TwoRealContinuousDecodeRuntime.drainedOutputs_drainOutputs runtime timed.decodedCache
  unfold TimedSwitcherH264DecodeRuntime.drain
  unfold TwoRealContinuousDecodeRuntime.drainOutputs at hafter ⊢
  cases hsession : runtime.session with
  | none =>
    refine ⟨arrived, ?_, ?_, h.picture, h.outputOverride⟩
    · exact hdrained.symm.trans h.drained
    · exact horder.symm.trans h.order
  | some session =>
    rw [hsession] at hafter
    have hbefore : timed.drainedOutputs = session.drained := by
      rw [hdrained, TwoRealContinuousDecodeRuntime.drainedOutputs,
        TwoRealContinuousDecodeRuntime.startedSession_of_session hsession]
      rfl
    have hbegun : ArrivedIn start.keyOrder start.decodedCache arrived
        { runtime with session := some session.takeEvents.2 } timed.decodedCache :=
      ⟨horder.symm.trans h.order, h.picture⟩
    have hevents := @ArrivedIn.applyEvents _ _ _ _ _ session.takeEvents.1 hbegun
    refine ⟨_, hafter.trans ?_, hevents.keyOrder, hevents.picture, h.outputOverride⟩
    rw [← List.append_assoc, ← h.drained, hbefore]
    rfl

theorem Arrived.insert (h : Arrived start timed arrived) {key : TwoRealPreviewLoopDecodeCacheKey}
    (hmiss : timed.decodedCache.lookup key = none) (decoded : SwitcherDecodedFrame) :
    Arrived start { timed with decodedCache := timed.decodedCache.insert key decoded } arrived := by
  refine ⟨h.drained, h.order, fun found picture hlookup hkeeps => ?_, h.outputOverride⟩
  have hpresent := h.picture found picture hlookup hkeeps
  have hother : found ≠ key := by
    rintro rfl
    cases hmiss.symm.trans hpresent
  exact (AList.lookup_insert_ne hother).trans hpresent

theorem keptByCalls_soundSince (pictures : DecoderPictures) (start : TimedSwitcherH264DecodeRuntime δ) :
    KeptByCalls pictures (SoundSince pictures start) where
  advance timed steps := by
    rintro ⟨⟨stored, hsound⟩, arrived, harrived⟩
    refine ⟨⟨stored, (kept_decodeCacheSound pictures stored).advance timed steps hsound⟩, arrived, ?_⟩
    cases hslot : timed.continuousSlot0 with
    | none =>
      have hsame : timed.advance pictures steps = timed := by
        unfold TimedSwitcherH264DecodeRuntime.advance
        rw [hslot, Option.map_none, ← hslot]
      rw [hsame]
      exact harrived
    | some runtime =>
      have hnext := harrived.sameDrained hslot
        (TwoRealContinuousDecodeRuntime.sameDrained_advance pictures steps)
      unfold TimedSwitcherH264DecodeRuntime.advance
      rw [hslot]
      exact hnext
  enqueue timed runtime input spawn hadmits := by
    rintro ⟨⟨stored, hsound⟩, arrived, harrived⟩ hslot
    have hstopped := (hsound.runtime runtime hslot).1.stopped
    exact ⟨⟨stored, (kept_decodeCacheSound pictures stored).enqueue timed runtime input spawn hadmits hsound hslot⟩,
      arrived, harrived.sameDrained hslot
        (TwoRealContinuousDecodeRuntime.sameDrained_enqueueInput hstopped input spawn)⟩
  drain timed runtime := by
    rintro ⟨⟨stored, hsound⟩, arrived, harrived⟩ hslot
    exact ⟨⟨stored, (kept_decodeCacheSound pictures stored).drain timed runtime hsound hslot⟩,
      harrived.drain hslot⟩
  budget timed remaining := by
    rintro ⟨⟨stored, hsound⟩, arrived, harrived⟩
    exact ⟨⟨stored, hsound.runtime, hsound.oneShot⟩, arrived, harrived.drained, harrived.order, harrived.picture,
      harrived.outputOverride⟩
  oneShot timed input decoded hmiss := by
    rintro ⟨⟨stored, hsound⟩, arrived, harrived⟩
    have hstored := hsound.mono (Finset.subset_insert (timed.cacheKey input) stored)
    exact ⟨⟨_, hstored.insert hmiss (Finset.mem_insert_self _ _) decoded timed.inner⟩, arrived,
      harrived.insert hmiss decoded⟩
  frame := by
    rintro timed timed' ⟨⟨stored, hsound⟩, arrived, harrived⟩ hcache hslot hoverride
    refine ⟨⟨stored, ?_, ?_⟩, arrived, ?_, ?_, ?_, hoverride.trans harrived.outputOverride⟩
    · rw [hslot, hcache, hoverride]
      exact hsound.runtime
    · rw [hslot, hcache]
      exact hsound.oneShot
    · unfold drainedOutputs
      rw [hslot]
      exact harrived.drained
    · unfold keyOrder
      rw [hslot]
      exact harrived.order
    · rw [hcache]
      exact harrived.picture

/-- The pictures that were taken from the continuous decoder since the start. -/
def arrivedSince (start timed : TimedSwitcherH264DecodeRuntime δ) : List TwoRealContinuousDecodeOutput :=
  timed.drainedOutputs.drop start.drainedOutputs.length

/-- A picture that the arriving ones neither replaced nor pushed out is still in the cache. -/
theorem SoundSince.lookup (h : SoundSince pictures start timed) {input : SwitcherH264DecodeInput}
    {decoded : SwitcherDecodedFrame} (hlookup : start.decodedCache.lookup (start.cacheKey input) = some decoded)
    (hkeeps : KeepsPicture start.keyOrder (arrivedSince start timed) (start.cacheKey input) decoded) :
    timed.cacheKey input = start.cacheKey input ∧
      timed.decodedCache.lookup (start.cacheKey input) = some decoded := by
  obtain ⟨-, arrived, harrived⟩ := h
  have hsince : arrivedSince start timed = arrived := by
    unfold arrivedSince
    rw [harrived.drained, List.drop_left]
  rw [hsince] at hkeeps
  refine ⟨?_, harrived.picture _ decoded hlookup hkeeps⟩
  unfold cacheKey overridden
  rw [harrived.outputOverride]

end SoundSince

end TimedSwitcherH264DecodeRuntime

namespace TwoRealPreviewLoopState

open TimedSwitcherH264DecodeRuntime

variable {δ : Type} {pictures : DecoderPictures} {decode : H264DecodeRuntime δ}
  {config : TwoRealPreviewLoopConfig} {state : TwoRealPreviewLoopState δ} {tick : TwoRealPreviewLoopTick}
  {P : TimedSwitcherH264DecodeRuntime δ → Prop}

theorem kept_fedRuntime (h : KeptByCalls pictures P) (hP : P state.timed) :
    P (state.fedRuntime pictures config tick) := by
  unfold fedRuntime
  split
  next =>
    generalize state.timed = timed at hP
    induction tick.fed generalizing timed with
    | nil => exact hP
    | cons fed feds ih => exact ih _ (h.toKept.feed hP trivial fed.2)
  next => exact hP

theorem kept_validationRuntime (h : KeptByCalls pictures P) (hP : P state.timed) :
    P (state.validationRuntime pictures config tick) := by
  have hfed : P (state.fedRuntime pictures config tick) := kept_fedRuntime h hP
  have hthreads := h.advance _ tick.threadsBeforeValidation hfed
  have hset : ∀ active, P (((state.fedRuntime pictures config tick).advance pictures
      tick.threadsBeforeValidation).setProgramFirstDecodeSuppressionActive active) :=
    fun active => h.frame hthreads rfl rfl rfl
  unfold validationRuntime programSourcePreviewSuppression
  dsimp only
  split
  next =>
    let selection := config.currentProgramSelection tick.requestedClientId
    have hlatest := fun active =>
      h.toKept.latestProgramFrame (hset active) selection.selectedClientId selection.selectedRunId
    exact h.frame (hlatest _) rfl rfl rfl
  next => exact h.frame hthreads rfl rfl rfl

theorem kept_connectSlot (h : KeptByCalls pictures P) {timed : TimedSwitcherH264DecodeRuntime δ} (hP : P timed)
    (index : Fin 4) : P (state.connectSlot pictures decode tick index timed).2 := by
  have hcall : ∀ input, P (slotDecode pictures decode tick index input timed).2 := fun input =>
    h.decodeForPurpose (h.advance _ _ hP) decode input _ _
  unfold connectSlot connectSlotWithRuntime
  split
  next placement frame selected consumed hinstruction =>
    split
    next => exact hP
    next =>
      have hselected := hcall (selectedDecodeInput selected)
      split
      next hresult => exact congrArg Prod.snd hresult ▸ hselected
      next hresult => exact congrArg Prod.snd hresult ▸ hselected
      next hresult => exact congrArg Prod.snd hresult ▸ hselected
  next => split <;> exact hP
  next => exact hP
  next => exact hP

/-- What the calls keep holds when a slot's turn comes. -/
theorem kept_slotsRuntime (h : KeptByCalls pictures P) (hP : P state.timed) (n : Nat) :
    P (state.slotsRuntime pictures decode config tick n) := by
  induction n with
  | zero => exact kept_validationRuntime h hP
  | succ n ih =>
    unfold slotsRuntime
    split
    next => exact kept_connectSlot h ih _
    next => exact ih

/-- What the calls keep is kept by a tick. -/
theorem kept_next (h : KeptByCalls pictures P) (hP : P state.timed) (policy : SwitcherFourViewQuadLayoutPolicy) :
    P (state.next pictures decode config tick policy).1.timed := by
  have hconnected : P (state.slotsRuntime pictures decode config tick 4) := kept_slotsRuntime h hP 4
  have hslots := h.advance _ tick.threadsBeforeProgram hconnected
  have hlatest : P (state.programContinuousLatest pictures decode config tick).2 := by
    unfold programContinuousLatest
    dsimp only
    split
    next => exact h.toKept.latestProgramFrame hslots _ _
    next => exact hslots
  show P (programStartupBootstrap pictures decode tick _ _).2
  unfold programStartupBootstrap
  split
  next => exact hlatest
  next frame _ =>
    have hcall := h.decodeForPurpose (h.advance _ tick.bootstrapTurn.threads hlatest) decode
      (programStartupBootstrapDecodeInput frame) .programStartupBootstrap tick.bootstrapTurn.turn
    split
    next hresult => exact congrArg Prod.snd hresult ▸ hcall
    next hresult => exact congrArg Prod.snd hresult ▸ hcall

end TwoRealPreviewLoopState

end StreamSync
