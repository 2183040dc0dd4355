import StreamSync.JitterBufferExact

namespace StreamSync

open Saturating SwitcherJitterBufferSelectionPolicy

/-- What `as i64` makes of a `u64`. -/
theorem toInt_toInt64 (value : UInt64) : value.toInt64.toInt =
    if value.toNat < 9223372036854775808 then (value.toNat : Int)
    else value.toNat - 18446744073709551616 := by
  have hbound := value.toNat_lt
  have hbmod : value.toInt64.toInt = (value.toNat : Int).bmod 18446744073709551616 := by
    change value.toBitVec.toInt = _
    rw [BitVec.toInt_eq_toNat_bmod]
    rfl
  rw [hbmod, Int.bmod_def]
  split
  next => split <;> omega
  next => split <;> omega

/-- The subtraction of the two times as `i64` does not overflow, and it gives their difference, or the bound
of `i64` that the difference lies beyond. -/
structure DeltaExact (adjusted targetTime : TimestampMicros) (delta : Int64) : Prop where
  noOverflow : -9223372036854775808 ≤ adjusted.toInt64.toInt - targetTime.toInt64.toInt ∧
    adjusted.toInt64.toInt - targetTime.toInt64.toInt ≤ 9223372036854775807
  saturated : delta.toInt =
    max (-9223372036854775808) (min 9223372036854775807 ((adjusted.toNat : Int) - targetTime.toNat))

/-- Both values fit an `i64`, or neither does. -/
def SameHalf (a b : UInt64) : Prop := a < 9223372036854775808 ↔ b < 9223372036854775808

theorem deltaExact_iff (adjusted targetTime : TimestampMicros) :
    DeltaExact adjusted targetTime (adjusted.toInt64 - targetTime.toInt64) ↔
      SameHalf adjusted targetTime := by
  have hadjusted := adjusted.toNat_lt
  have htarget := targetTime.toNat_lt
  have hhalf : (9223372036854775808 : UInt64).toNat = 9223372036854775808 := rfl
  have hcast := toInt_toInt64 adjusted
  have hcast' := toInt_toInt64 targetTime
  have hsub := Int64.toInt_sub adjusted.toInt64 targetTime.toInt64
  unfold SameHalf
  rw [UInt64.lt_iff_toNat_lt, UInt64.lt_iff_toNat_lt, hhalf]
  constructor
  · rintro ⟨⟨hlow, hhigh⟩, hsaturated⟩
    rw [hsub, Int.bmod_def] at hsaturated
    split at hcast <;> split at hcast' <;> split at hsaturated <;> omega
  · intro hsame
    refine ⟨?_, ?_⟩
    · split at hcast <;> split at hcast' <;> omega
    · rw [hsub, Int.bmod_def]
      split at hcast <;> split at hcast' <;> split <;> omega

section Selectors

variable {targetTime : TimestampMicros} {clockOffsetMicros : Option Int64}

theorem resultForCandidate_eq_selected_iff {sourceResult : SwitcherSingleClientQueueSourceResult}
    {mode : SwitcherSingleClientTargetTimeSourceMode} {consumed : Bool}
    {selected : SwitcherSingleClientTargetTimeSelectedFrame} :
    resultForCandidate sourceResult targetTime mode consumed clockOffsetMicros = .selected selected ↔
      ∃ frame sourceMode remainingClientQueueLen,
        sourceResult = .frameAvailable frame sourceMode remainingClientQueueLen ∧
        applyOffsetMicros frame.captureTimestamp clockOffsetMicros ≤ targetTime ∧
        selected = {
          frame, targetTimestamp := targetTime
          adjustedCaptureTimestamp := applyOffsetMicros frame.captureTimestamp clockOffsetMicros
          deltaFromTargetMicros :=
            (applyOffsetMicros frame.captureTimestamp clockOffsetMicros).toInt64 - targetTime.toInt64
          consumed } := by
  cases sourceResult with
  | noFrameAvailable => simp [resultForCandidate]
  | frameAvailable frame sourceMode remainingClientQueueLen =>
    rw [resultForCandidate]
    split
    next hle =>
      constructor
      · intro h
        cases h
        exact ⟨frame, sourceMode, remainingClientQueueLen, rfl, hle, rfl⟩
      · rintro ⟨_, _, _, heq, -, rfl⟩
        cases heq
        rfl
    next hgt =>
      refine iff_of_false (fun h => by cases h) ?_
      rintro ⟨_, _, _, heq, hle, -⟩
      cases heq
      exact hgt hle

theorem resultForCandidate_deltaExact_iff {sourceResult : SwitcherSingleClientQueueSourceResult}
    {mode : SwitcherSingleClientTargetTimeSourceMode} {consumed : Bool} :
    (∀ selected, resultForCandidate sourceResult targetTime mode consumed clockOffsetMicros =
        .selected selected →
      DeltaExact (applyOffsetMicros selected.frame.captureTimestamp clockOffsetMicros) targetTime
        selected.deltaFromTargetMicros) ↔
      ∀ frame sourceMode remainingClientQueueLen,
        sourceResult = .frameAvailable frame sourceMode remainingClientQueueLen →
        applyOffsetMicros frame.captureTimestamp clockOffsetMicros ≤ targetTime →
          SameHalf (applyOffsetMicros frame.captureTimestamp clockOffsetMicros) targetTime := by
  constructor
  · intro h frame sourceMode remainingClientQueueLen heq hle
    exact (deltaExact_iff _ _).mp (h _ (resultForCandidate_eq_selected_iff.mpr
      ⟨frame, sourceMode, remainingClientQueueLen, heq, hle, rfl⟩))
  · intro h selected hselected
    obtain ⟨frame, sourceMode, remainingClientQueueLen, heq, hle, rfl⟩ :=
      resultForCandidate_eq_selected_iff.mp hselected
    exact (deltaExact_iff _ _).mpr (h frame sourceMode remainingClientQueueLen heq hle)

theorem selectFrameAtTargetTime_deltaExact_iff {frames : List SwitcherSingleViewSelectedEncodedFrame}
    {clientId : ClientId} {policy : SwitcherJitterBufferSelectionPolicy} :
    (∀ selected, selectFrameAtTargetTime frames clientId policy targetTime = .selected selected →
      DeltaExact (policy.adjusted selected.frame) targetTime selected.deltaFromTargetMicros) ↔
      (policy.Enough frames → ∀ position frame, policy.ChosenAt targetTime frames position frame →
        SameHalf (policy.adjusted frame) targetTime) := by
  constructor
  · intro h henough position frame hchosen
    exact (deltaExact_iff _ _).mp (h _ (selectFrameAtTargetTime_of_chosen henough hchosen))
  · intro h selected hselected
    obtain ⟨henough, position, frame, hchosen, rfl⟩ := selectFrameAtTargetTime_eq_selected_iff.mp hselected
    exact (deltaExact_iff _ _).mpr (h henough position frame hchosen)

end Selectors

/-- The two selectors report the right difference, without an overflow on the way, exactly if the time of the
frame that they take lies on the same side of 2^63 µs as the target. -/
theorem selectors_deltaExact_iff (targetTime : TimestampMicros) (clockOffsetMicros : Option Int64)
    (sourceResult : SwitcherSingleClientQueueSourceResult) (mode : SwitcherSingleClientTargetTimeSourceMode)
    (consumed : Bool) (frames : List SwitcherSingleViewSelectedEncodedFrame) (clientId : ClientId)
    (policy : SwitcherJitterBufferSelectionPolicy) :
    ((∀ selected, resultForCandidate sourceResult targetTime mode consumed clockOffsetMicros =
        .selected selected →
      DeltaExact (applyOffsetMicros selected.frame.captureTimestamp clockOffsetMicros) targetTime
        selected.deltaFromTargetMicros) ↔
      ∀ frame sourceMode remainingClientQueueLen,
        sourceResult = .frameAvailable frame sourceMode remainingClientQueueLen →
        applyOffsetMicros frame.captureTimestamp clockOffsetMicros ≤ targetTime →
          SameHalf (applyOffsetMicros frame.captureTimestamp clockOffsetMicros) targetTime) ∧
    ((∀ selected, selectFrameAtTargetTime frames clientId policy targetTime = .selected selected →
      DeltaExact (policy.adjusted selected.frame) targetTime selected.deltaFromTargetMicros) ↔
      (policy.Enough frames → ∀ position frame, policy.ChosenAt targetTime frames position frame →
        SameHalf (policy.adjusted frame) targetTime)) :=
  ⟨resultForCandidate_deltaExact_iff, selectFrameAtTargetTime_deltaExact_iff⟩

/-- A frame stamped with the greatest `u64` is reported as 11 µs before the target of 10 µs, and the casts of
a frame at 0 and a target of 2^63 overflow when they are subtracted. -/
theorem selectors_delta_wrong :
    (¬∀ (frames : List SwitcherSingleViewSelectedEncodedFrame) (clientId : ClientId)
      (policy : SwitcherJitterBufferSelectionPolicy) (targetTime : TimestampMicros)
      (selected : SwitcherJitterBufferSelectedFrame),
      selectFrameAtTargetTime frames clientId policy targetTime = .selected selected →
        DeltaExact (policy.adjusted selected.frame) targetTime selected.deltaFromTargetMicros) ∧
    ¬∀ (sourceResult : SwitcherSingleClientQueueSourceResult) (targetTime : TimestampMicros)
      (mode : SwitcherSingleClientTargetTimeSourceMode) (consumed : Bool)
      (clockOffsetMicros : Option Int64) (selected : SwitcherSingleClientTargetTimeSelectedFrame),
      resultForCandidate sourceResult targetTime mode consumed clockOffsetMicros = .selected selected →
        DeltaExact (applyOffsetMicros selected.frame.captureTimestamp clockOffsetMicros) targetTime
          selected.deltaFromTargetMicros := by
  constructor
  · intro h
    have hexact := h [capturedAt 1 18446744073709551615] "camera-0"
      ⟨0, none, 0, 18446744073709551615, 1⟩ 10
      ⟨capturedAt 1 18446744073709551615, 10, 18446744073709551615, -11⟩ (by decide +kernel)
    exact absurd hexact.saturated (by decide)
  · intro h
    have hexact := h (.frameAvailable (capturedAt 1 0) .previewLatest 1) 9223372036854775808
      .previewLatestIfAtOrBefore false none
      ⟨capturedAt 1 0, 9223372036854775808, 0, -9223372036854775808, false⟩ (by decide +kernel)
    exact absurd hexact.noOverflow (by decide)

end StreamSync
