import StreamSync.TimedDecode

namespace StreamSync

namespace TimedSwitcherH264DecodeRuntime

variable {δ : Type} {pictures : DecoderPictures} {decode : H264DecodeRuntime δ}
  {timed : TimedSwitcherH264DecodeRuntime δ}

/-- What a property has to survive to survive every call of a decode runtime with an admitted input, short
of what the one-shot decoder does. -/
structure Kept (pictures : DecoderPictures) (Admits : SwitcherH264DecodeInput → Prop)
    (P : TimedSwitcherH264DecodeRuntime δ → Prop) : Prop where
  advance : ∀ timed steps, P timed → P (timed.advance pictures steps)
  enqueue : ∀ timed runtime input spawn, Admits input → P timed → timed.continuousSlot0 = some runtime →
    P { timed with continuousSlot0 := some (runtime.enqueueInput timed.outputOverride input spawn).1 }
  drain : ∀ timed runtime, P timed → timed.continuousSlot0 = some runtime → P (timed.drain runtime)
  budget : ∀ timed remaining, P timed →
    P { timed with operatorPreviewDecodeRefreshBudgetRemaining := remaining }

section Kept

variable {Admits : SwitcherH264DecodeInput → Prop} {P : TimedSwitcherH264DecodeRuntime δ → Prop}

theorem targeted_eq_some {input : SwitcherH264DecodeInput} {runtime : TwoRealContinuousDecodeRuntime}
    (h : timed.targeted input = some runtime) :
    timed.continuousSlot0 = some runtime ∧ runtime.matchesSource input = true :=
  Option.filter_eq_some_iff.mp h

theorem Kept.enqueueAndDrain (h : Kept pictures Admits P) (hP : P timed) {runtime : TwoRealContinuousDecodeRuntime}
    (hslot : timed.continuousSlot0 = some runtime) {input : SwitcherH264DecodeInput} (hinput : Admits input)
    (turn : ContinuousTurn) :
    P (timed.enqueueAndDrain pictures runtime input turn).1 := by
  have hbefore := h.advance timed turn.beforeEnqueue hP
  have hbeforeSlot : (timed.advance pictures turn.beforeEnqueue).continuousSlot0 =
      some (runtime.advance pictures turn.beforeEnqueue) := by
    rw [TimedSwitcherH264DecodeRuntime.advance, hslot]
    rfl
  have henqueued := h.enqueue _ _ input turn.spawn hinput hbefore hbeforeSlot
  have hafter := h.advance _ turn.beforeDrain henqueued
  have hdrained := h.drain _ _ hafter rfl
  exact hdrained

theorem Kept.feed (h : Kept pictures Admits P) (hP : P timed) {frame : SwitcherSingleViewSelectedEncodedFrame}
    (hinput : Admits (feedInput frame)) (turn : ContinuousTurn) :
    P (timed.feedSlot0ContinuousFrame pictures frame turn).1 := by
  unfold feedSlot0ContinuousFrame
  split
  next => exact hP
  next runtime hslot =>
    split
    next => exact h.enqueueAndDrain hP hslot hinput turn
    next => exact hP

theorem Kept.latestProgramFrame (h : Kept pictures Admits P) (hP : P timed) (clientId : ClientId)
    (runId : Option RunId) : P (timed.latestContinuousProgramFrame clientId runId).2 := by
  unfold latestContinuousProgramFrame
  split
  next runtime hslot => exact h.drain _ _ hP hslot
  next => exact hP

theorem continuousAnswer_snd (pictures : DecoderPictures) (timed : TimedSwitcherH264DecodeRuntime δ)
    (runtime : TwoRealContinuousDecodeRuntime) (input : SwitcherH264DecodeInput)
    (purpose : TwoRealPreviewLoopDecodePurpose) (turn : ContinuousTurn) :
    (timed.continuousAnswer pictures runtime input purpose turn).2 =
      (timed.enqueueAndDrain pictures runtime input turn).1 := by
  unfold continuousAnswer
  dsimp only
  split
  next => rfl
  next =>
    split
    next => rfl
    next =>
      split
      next => rfl
      next => split <;> rfl

theorem Kept.continuousAnswer (h : Kept pictures Admits P) (hP : P timed) {runtime : TwoRealContinuousDecodeRuntime}
    (hslot : timed.continuousSlot0 = some runtime) {input : SwitcherH264DecodeInput} (hinput : Admits input)
    (purpose : TwoRealPreviewLoopDecodePurpose) (turn : ContinuousTurn) :
    P (timed.continuousAnswer pictures runtime input purpose turn).2 := by
  rw [continuousAnswer_snd]
  exact h.enqueueAndDrain hP hslot hinput turn

theorem Kept.maybeSuppress (h : Kept pictures Admits P) (hP : P timed) (input : SwitcherH264DecodeInput) :
    P (timed.maybeSuppressProgramFirstPreviewOneShot input).2 := by
  unfold maybeSuppressProgramFirstPreviewOneShot
  split
  next => exact hP
  next =>
    split
    next =>
      split
      next => exact hP
      next =>
        split
        next => exact h.budget _ _ hP
        next => exact hP
    next => exact hP

theorem Kept.drainTargeted (h : Kept pictures Admits P) (hP : P timed) (input : SwitcherH264DecodeInput) :
    P (timed.drainTargeted input) := by
  unfold TimedSwitcherH264DecodeRuntime.drainTargeted
  split
  next runtime htarget => exact h.drain _ _ hP (targeted_eq_some htarget).1
  next => exact hP

theorem Kept.answerTargeted (h : Kept pictures Admits P) (hP : P timed) {input : SwitcherH264DecodeInput}
    (hinput : Admits input) (purpose : TwoRealPreviewLoopDecodePurpose) (turn : ContinuousTurn) :
    P (timed.answerTargeted pictures input purpose turn).2 := by
  unfold TimedSwitcherH264DecodeRuntime.answerTargeted
  split
  next runtime htarget => exact h.continuousAnswer hP (targeted_eq_some htarget).1 hinput purpose turn
  next => exact hP

theorem Kept.suppressPreview (h : Kept pictures Admits P) (hP : P timed) (input : SwitcherH264DecodeInput)
    (purpose : TwoRealPreviewLoopDecodePurpose) : P (timed.suppressPreview input purpose).2 := by
  cases purpose with
  | previewFallback => exact h.maybeSuppress hP _
  | programStartupBootstrap => exact hP

/-- How far a decode call gets: the cache answers it, the continuous decoder does, it is suppressed, or it
is left to the one-shot decoder. -/
inductive DecodeOutcome (pictures : DecoderPictures) (timed : TimedSwitcherH264DecodeRuntime δ)
    (input : SwitcherH264DecodeInput) (purpose : TwoRealPreviewLoopDecodePurpose) (turn : ContinuousTurn) :
    Option SwitcherH264DecodeResult × TimedSwitcherH264DecodeRuntime δ → Prop where
  | cached (decoded)
      (h : (timed.drainTargeted input).decodedCache.lookup (timed.cacheKey input) = some decoded) :
    DecodeOutcome pictures timed input purpose turn (some (.decoded decoded), timed.drainTargeted input)
  | answered (hmiss : (timed.drainTargeted input).decodedCache.lookup (timed.cacheKey input) = none) (result)
      (h : ((timed.drainTargeted input).answerTargeted pictures input purpose turn).1 = some result) :
    DecodeOutcome pictures timed input purpose turn
      (some result, ((timed.drainTargeted input).answerTargeted pictures input purpose turn).2)
  | suppressed (hmiss : (timed.drainTargeted input).decodedCache.lookup (timed.cacheKey input) = none)
      (hanswer : ((timed.drainTargeted input).answerTargeted pictures input purpose turn).1 = none) :
    DecodeOutcome pictures timed input purpose turn (some (.deferred .continuousOneShotSuppressed),
      (((timed.drainTargeted input).answerTargeted pictures input purpose turn).2.suppressPreview input
        purpose).2)
  | oneShot (hmiss : (timed.drainTargeted input).decodedCache.lookup (timed.cacheKey input) = none)
      (hanswer : ((timed.drainTargeted input).answerTargeted pictures input purpose turn).1 = none) :
    DecodeOutcome pictures timed input purpose turn (none,
      (((timed.drainTargeted input).answerTargeted pictures input purpose turn).2.suppressPreview input
        purpose).2)

theorem outputOverride_drainTargeted (timed : TimedSwitcherH264DecodeRuntime δ)
    (input : SwitcherH264DecodeInput) :
    (timed.drainTargeted input).outputOverride = timed.outputOverride := by
  unfold drainTargeted
  split <;> rfl

theorem beforeOneShot_outcome (pictures : DecoderPictures) (timed : TimedSwitcherH264DecodeRuntime δ)
    (input : SwitcherH264DecodeInput) (purpose : TwoRealPreviewLoopDecodePurpose) (turn : ContinuousTurn) :
    DecodeOutcome pictures timed input purpose turn (timed.beforeOneShot pictures input purpose turn) := by
  have hkey : (timed.drainTargeted input).cacheKey input = timed.cacheKey input := by
    unfold cacheKey overridden
    rw [outputOverride_drainTargeted]
  unfold beforeOneShot
  dsimp only
  rw [hkey]
  split
  next decoded hhit => exact .cached decoded hhit
  next hmiss =>
    split
    next result answered hanswer =>
      obtain rfl : ((timed.drainTargeted input).answerTargeted pictures input purpose turn).2 = answered :=
        congrArg Prod.snd hanswer
      exact .answered hmiss result (congrArg Prod.fst hanswer)
    next answered hanswer =>
      obtain rfl : ((timed.drainTargeted input).answerTargeted pictures input purpose turn).2 = answered :=
        congrArg Prod.snd hanswer
      have hnone := congrArg Prod.fst hanswer
      split
      next suppressed hsuppress =>
        obtain rfl : (TimedSwitcherH264DecodeRuntime.suppressPreview _ input purpose).2 = suppressed :=
          congrArg Prod.snd hsuppress
        exact .suppressed hmiss hnone
      next passed hsuppress =>
        obtain rfl : (TimedSwitcherH264DecodeRuntime.suppressPreview _ input purpose).2 = passed :=
          congrArg Prod.snd hsuppress
        exact .oneShot hmiss hnone

theorem Kept.beforeOneShot (h : Kept pictures Admits P) (hP : P timed) {input : SwitcherH264DecodeInput}
    (hinput : Admits input) (purpose : TwoRealPreviewLoopDecodePurpose) (turn : ContinuousTurn) :
    P (timed.beforeOneShot pictures input purpose turn).2 := by
  have hdrained := h.drainTargeted hP input
  have hanswered := h.answerTargeted hdrained hinput purpose turn
  have hsuppressed := h.suppressPreview hanswered input purpose
  have houtcome := beforeOneShot_outcome pictures timed input purpose turn
  generalize timed.beforeOneShot pictures input purpose turn = outcome at houtcome ⊢
  cases houtcome with
  | cached decoded _ => exact hdrained
  | answered _ result _ => exact hanswered
  | suppressed _ _ => exact hsuppressed
  | oneShot _ _ => exact hsuppressed

/-- A decode call touches neither the override nor the one-shot decoder before it asks that decoder. -/
theorem beforeOneShot_frame (pictures : DecoderPictures) (timed : TimedSwitcherH264DecodeRuntime δ)
    (input : SwitcherH264DecodeInput) (purpose : TwoRealPreviewLoopDecodePurpose) (turn : ContinuousTurn) :
    (timed.beforeOneShot pictures input purpose turn).2.outputOverride = timed.outputOverride ∧
      (timed.beforeOneShot pictures input purpose turn).2.inner = timed.inner := by
  have hkept : Kept pictures (fun _ => True) fun timed' : TimedSwitcherH264DecodeRuntime δ =>
      timed'.outputOverride = timed.outputOverride ∧ timed'.inner = timed.inner :=
    ⟨fun _ _ h => h, fun _ _ _ _ _ h _ => h, fun _ _ h _ => h, fun _ _ h => h⟩
  exact hkept.beforeOneShot ⟨rfl, rfl⟩ trivial purpose turn

/-- What the one-shot decoder leaves of an input that came to it. -/
def afterOneShot (timed : TimedSwitcherH264DecodeRuntime δ) (input : SwitcherH264DecodeInput)
    (result : SwitcherH264DecodeResult) (inner : δ) : TimedSwitcherH264DecodeRuntime δ :=
  match result with
  | .decoded decoded =>
    { timed with inner, decodedCache := timed.decodedCache.insert (timed.cacheKey input) decoded }
  | _ => { timed with inner }

theorem decodeForPurpose_eq (pictures : DecoderPictures) (decode : H264DecodeRuntime δ)
    (timed : TimedSwitcherH264DecodeRuntime δ) (input : SwitcherH264DecodeInput)
    (purpose : TwoRealPreviewLoopDecodePurpose) (turn : ContinuousTurn) :
    timed.decodeForPurpose pictures decode input purpose turn =
      match (timed.beforeOneShot pictures input purpose turn).1 with
      | some result => (result, (timed.beforeOneShot pictures input purpose turn).2)
      | none =>
        ((decode (timed.overridden input) timed.inner).1,
          (timed.beforeOneShot pictures input purpose turn).2.afterOneShot input
            (decode (timed.overridden input) timed.inner).1
            (decode (timed.overridden input) timed.inner).2) := by
  obtain ⟨hoverride, hinner⟩ := timed.beforeOneShot_frame pictures input purpose turn
  have hinput : (timed.beforeOneShot pictures input purpose turn).2.overridden input =
      timed.overridden input := by
    rw [overridden, hoverride, overridden]
  unfold decodeForPurpose
  generalize timed.beforeOneShot pictures input purpose turn = outcome at *
  obtain ⟨answer, reached⟩ := outcome
  cases answer with
  | some result => rfl
  | none =>
    dsimp only at hinput hinner ⊢
    rw [hinput, hinner]
    generalize decode (timed.overridden input) timed.inner = decoded
    obtain ⟨result, inner⟩ := decoded
    cases result <;> rfl

/-- The rule for a decode call: on top of the rest, the property survives what the one-shot decoder
leaves of an input that nothing else answered. -/
theorem Kept.decodeForPurpose (h : Kept pictures Admits P) (hP : P timed) (decode : H264DecodeRuntime δ)
    {input : SwitcherH264DecodeInput} (hinput : Admits input)
    (purpose : TwoRealPreviewLoopDecodePurpose) (turn : ContinuousTurn)
    (hstore : (timed.beforeOneShot pictures input purpose turn).1 = none →
      P (timed.beforeOneShot pictures input purpose turn).2 →
        P ((timed.beforeOneShot pictures input purpose turn).2.afterOneShot input
          (decode (timed.overridden input) timed.inner).1
          (decode (timed.overridden input) timed.inner).2)) :
    P (timed.decodeForPurpose pictures decode input purpose turn).2 := by
  have hbefore := h.beforeOneShot hP hinput purpose turn
  rw [decodeForPurpose_eq]
  split
  next => exact hbefore
  next hnone => exact hstore hnone hbefore

theorem lookup_of_continuousAnswer {runtime : TwoRealContinuousDecodeRuntime} {input : SwitcherH264DecodeInput}
    {purpose : TwoRealPreviewLoopDecodePurpose} {turn : ContinuousTurn}
    (h : (timed.continuousAnswer pictures runtime input purpose turn).1 = none) :
    (timed.enqueueAndDrain pictures runtime input turn).1.decodedCache.lookup (timed.cacheKey input) = none := by
  unfold continuousAnswer at h
  dsimp only at h
  split at h
  next => cases h
  next hmiss => exact hmiss

theorem suppressPreview_frame (timed : TimedSwitcherH264DecodeRuntime δ) (input : SwitcherH264DecodeInput)
    (purpose : TwoRealPreviewLoopDecodePurpose) :
    (timed.suppressPreview input purpose).2.decodedCache = timed.decodedCache ∧
      (timed.suppressPreview input purpose).2.continuousSlot0 = timed.continuousSlot0 := by
  cases purpose with
  | programStartupBootstrap => exact ⟨rfl, rfl⟩
  | previewFallback =>
    unfold suppressPreview maybeSuppressProgramFirstPreviewOneShot
    dsimp only
    repeat' split
    all_goals exact ⟨rfl, rfl⟩

/-- A decode call drains the continuous decoder, and hands it the input only where the cache misses. -/
theorem decodeForPurpose_decoder (pictures : DecoderPictures) (decode : H264DecodeRuntime δ)
    (timed : TimedSwitcherH264DecodeRuntime δ) (input : SwitcherH264DecodeInput)
    (purpose : TwoRealPreviewLoopDecodePurpose) (turn : ContinuousTurn) :
    (timed.decodeForPurpose pictures decode input purpose turn).2.outputOverride = timed.outputOverride ∧
      ((timed.decodeForPurpose pictures decode input purpose turn).2.continuousSlot0 =
          (timed.drainTargeted input).continuousSlot0 ∨
        (timed.drainTargeted input).decodedCache.lookup (timed.cacheKey input) = none ∧
          ∃ runtime ∈ (timed.drainTargeted input).continuousSlot0, runtime.matchesSource input = true ∧
            (timed.decodeForPurpose pictures decode input purpose turn).2.continuousSlot0 =
              ((timed.drainTargeted input).enqueueAndDrain pictures runtime input turn).1.continuousSlot0) := by
  have hframe := timed.beforeOneShot_frame pictures input purpose turn
  have hafter : (timed.decodeForPurpose pictures decode input purpose turn).2.outputOverride =
        (timed.beforeOneShot pictures input purpose turn).2.outputOverride ∧
      (timed.decodeForPurpose pictures decode input purpose turn).2.continuousSlot0 =
        (timed.beforeOneShot pictures input purpose turn).2.continuousSlot0 := by
    rw [decodeForPurpose_eq]
    split
    next => exact ⟨rfl, rfl⟩
    next =>
      unfold afterOneShot
      dsimp only
      split <;> exact ⟨rfl, rfl⟩
  rw [hafter.1, hafter.2]
  refine ⟨hframe.1, ?_⟩
  have hasked : ((timed.drainTargeted input).answerTargeted pictures input purpose turn).2.continuousSlot0 =
        (timed.drainTargeted input).continuousSlot0 ∨
      ∃ runtime ∈ (timed.drainTargeted input).continuousSlot0, runtime.matchesSource input = true ∧
        ((timed.drainTargeted input).answerTargeted pictures input purpose turn).2.continuousSlot0 =
          ((timed.drainTargeted input).enqueueAndDrain pictures runtime input turn).1.continuousSlot0 := by
    unfold answerTargeted
    split
    next runtime htarget =>
      obtain ⟨hslot, hmatches⟩ := targeted_eq_some htarget
      rw [continuousAnswer_snd]
      exact .inr ⟨runtime, hslot, hmatches, rfl⟩
    next => exact .inl rfl
  have houtcome := beforeOneShot_outcome pictures timed input purpose turn
  generalize timed.beforeOneShot pictures input purpose turn = outcome at houtcome ⊢
  cases houtcome with
  | cached decoded _ => exact .inl rfl
  | answered hmiss result _ => exact hasked.imp_right fun h => ⟨hmiss, h⟩
  | suppressed hmiss _ =>
    rw [(suppressPreview_frame _ input purpose).2]
    exact hasked.imp_right fun h => ⟨hmiss, h⟩
  | oneShot hmiss _ =>
    rw [(suppressPreview_frame _ input purpose).2]
    exact hasked.imp_right fun h => ⟨hmiss, h⟩

/-- The cache misses the picture that the one-shot decoder is asked for. -/
theorem lookup_of_beforeOneShot {input : SwitcherH264DecodeInput} {purpose : TwoRealPreviewLoopDecodePurpose}
    {turn : ContinuousTurn} (h : (timed.beforeOneShot pictures input purpose turn).1 = none) :
    (timed.beforeOneShot pictures input purpose turn).2.decodedCache.lookup (timed.cacheKey input) = none := by
  have houtcome := beforeOneShot_outcome pictures timed input purpose turn
  generalize timed.beforeOneShot pictures input purpose turn = outcome at houtcome h ⊢
  cases houtcome with
  | cached decoded _ => cases h
  | answered _ result _ => cases h
  | suppressed _ _ => cases h
  | oneShot hmiss hanswer =>
    rw [(suppressPreview_frame _ input purpose).1]
    unfold answerTargeted at hanswer ⊢
    split
    next runtime htarget =>
      rw [htarget] at hanswer
      have hlookup := lookup_of_continuousAnswer hanswer
      have hkey : (timed.drainTargeted input).cacheKey input = timed.cacheKey input := by
        rw [cacheKey, overridden, outputOverride_drainTargeted, cacheKey, overridden]
      rw [continuousAnswer_snd]
      rwa [hkey] at hlookup
    next => exact hmiss

end Kept

end TimedSwitcherH264DecodeRuntime

end StreamSync
