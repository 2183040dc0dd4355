import StreamSync.JitterBuffer
import StreamSync.Lib.StableSort

namespace StreamSync

open Saturating StableSort

namespace SwitcherJitterBufferSelectionPolicy

variable (policy : SwitcherJitterBufferSelectionPolicy) (targetTime : TimestampMicros)

def adjusted (frame : SwitcherSingleViewSelectedEncodedFrame) : TimestampMicros :=
  applyOffsetMicros frame.captureTimestamp policy.clockOffsetMicros

def lower : TimestampMicros := saturatingSub targetTime policy.maxLateMicros
def upper : TimestampMicros := saturatingAdd targetTime policy.maxEarlyMicros

def InWindow (frame : SwitcherSingleViewSelectedEncodedFrame) : Prop :=
  policy.lower targetTime ≤ policy.adjusted frame ∧ policy.adjusted frame ≤ policy.upper targetTime

def Enough (frames : List SwitcherSingleViewSelectedEncodedFrame) : Prop :=
  max 1 policy.minBufferFrames ≤ frames.length

def distance (frame : SwitcherSingleViewSelectedEncodedFrame) : Nat :=
  (absDiffMicros (policy.adjusted frame) targetTime).toNat

/-- The frame at the position is in the window; it is the nearest of those, of the nearest ones the earliest
by its adjusted time, and of equal ones the first in the queue. -/
structure ChosenAt (frames : List SwitcherSingleViewSelectedEncodedFrame) (position : Nat)
    (frame : SwitcherSingleViewSelectedEncodedFrame) : Prop where
  queued : frames[position]? = some frame
  inWindow : policy.InWindow targetTime frame
  least : ∀ (other : SwitcherSingleViewSelectedEncodedFrame) (otherPosition : Nat),
    frames[otherPosition]? = some other → policy.InWindow targetTime other →
      policy.distance targetTime frame < policy.distance targetTime other ∨
        policy.distance targetTime frame = policy.distance targetTime other ∧
          (policy.adjusted frame < policy.adjusted other ∨
            policy.adjusted frame = policy.adjusted other ∧ position ≤ otherPosition)

def BeforeWindow (frame : SwitcherSingleViewSelectedEncodedFrame) : Prop :=
  policy.adjusted frame < policy.lower targetTime

def AfterWindow (frame : SwitcherSingleViewSelectedEncodedFrame) : Prop :=
  policy.upper targetTime < policy.adjusted frame

/-- The earliest of the frames' times. -/
def Earliest (frames : List SwitcherSingleViewSelectedEncodedFrame) (time : TimestampMicros) : Prop :=
  (∃ frame ∈ frames, policy.adjusted frame = time) ∧ ∀ frame ∈ frames, time ≤ policy.adjusted frame

def Latest (frames : List SwitcherSingleViewSelectedEncodedFrame) (time : TimestampMicros) : Prop :=
  (∃ frame ∈ frames, policy.adjusted frame = time) ∧ ∀ frame ∈ frames, policy.adjusted frame ≤ time

instance (frame : SwitcherSingleViewSelectedEncodedFrame) : Decidable (policy.BeforeWindow targetTime frame) :=
  inferInstanceAs (Decidable (_ < _))

instance (frame : SwitcherSingleViewSelectedEncodedFrame) : Decidable (policy.InWindow targetTime frame) :=
  inferInstanceAs (Decidable (_ ∧ _))

end SwitcherJitterBufferSelectionPolicy

open SwitcherJitterBufferSelectionPolicy

section Selection

variable {policy : SwitcherJitterBufferSelectionPolicy} {targetTime : TimestampMicros}
  {frames : List SwitcherSingleViewSelectedEncodedFrame} {clientId : ClientId}

theorem SwitcherJitterBufferSelectionPolicy.ChosenAt.unique {i j : Nat}
    {frame other : SwitcherSingleViewSelectedEncodedFrame}
    (hi : policy.ChosenAt targetTime frames i frame) (hj : policy.ChosenAt targetTime frames j other) :
    i = j ∧ frame = other := by
  have hij := hi.least other j hj.queued hj.inWindow
  have hji := hj.least frame i hi.queued hi.inWindow
  have hposition : i = j := by
    rw [UInt64.lt_iff_toNat_lt, ← UInt64.toNat_inj] at hij hji
    omega
  subst hposition
  exact ⟨rfl, Option.some.inj (hi.queued.symm.trans hj.queued)⟩

theorem nearest_firstLeast {timed : List TimedFrame} {best : TimedFrame}
    (h : nearest targetTime timed = some best) :
    FirstLeast (fun frame => (absDiffMicros frame.2 targetTime).toNat) timed best := by
  induction timed generalizing best with
  | nil => simp [nearest] at h
  | cons frame rest ih =>
    rw [nearest] at h
    split at h
    next hnone =>
      cases h
      rw [nearest_eq_none] at hnone
      subst hnone
      exact ⟨[], [], rfl, by simp, by simp⟩
    next other hother =>
      have hleast := (nearest_eq_some hother).2
      split at h
      next hlt =>
        cases h
        obtain ⟨l₁, l₂, rfl, hbefore, hafter⟩ := ih hother
        refine ⟨frame :: l₁, l₂, rfl, ?_, hafter⟩
        intro timed htimed
        rcases List.mem_cons.mp htimed with rfl | htimed
        · exact UInt64.lt_iff_toNat_lt.mp hlt
        · exact hbefore timed htimed
      next hge =>
        cases h
        refine ⟨[], rest, rfl, by simp, ?_⟩
        intro timed htimed
        have hother' := UInt64.le_iff_toNat_le.mp (hleast timed htimed)
        have hframe := UInt64.le_iff_toNat_le.mp (UInt64.not_lt.mp hge)
        exact hframe.trans hother'

/-- The timed frames in their order, with the queue positions that they came from. -/
theorem sortTimed_eq_map (frames : List SwitcherSingleViewSelectedEncodedFrame) :
    sortTimed (frames.map (timedFrame policy.clockOffsetMicros)) =
      (frames.zipIdx.insertionSort fun a b => policy.adjusted a.1 ≤ policy.adjusted b.1).map
        fun indexed => timedFrame policy.clockOffsetMicros indexed.1 := by
  have hindexed : frames.map (timedFrame policy.clockOffsetMicros) =
      frames.zipIdx.map fun indexed => timedFrame policy.clockOffsetMicros indexed.1 := by
    conv_lhs => rw [← List.zipIdx_map_fst 0 frames, List.map_map]
    rfl
  rw [hindexed, sortTimed]
  exact (List.map_insertionSort
    (fun a b : SwitcherSingleViewSelectedEncodedFrame × Nat => policy.adjusted a.1 ≤ policy.adjusted b.1)
    (fun a b : TimedFrame => a.2 ≤ b.2) _ _ fun _ _ _ _ => Iff.rfl).symm

theorem chosenAt_of_nearest {best : TimedFrame}
    (h : nearest targetTime ((sortTimed (frames.map (timedFrame policy.clockOffsetMicros))).filter
      fun timed => policy.lower targetTime ≤ timed.2 ∧ timed.2 ≤ policy.upper targetTime) = some best) :
    ∃ position frame, policy.ChosenAt targetTime frames position frame ∧
      best = timedFrame policy.clockOffsetMicros frame := by
  rw [sortTimed_eq_map, List.filter_map] at h
  obtain ⟨⟨frame, position⟩, rfl, hfirst⟩ := (nearest_firstLeast h).of_map
  have hpositions : frames.zipIdx.Pairwise fun a b => a.2 < b.2 := by
    rw [List.pairwise_iff_getElem]
    intro i j hi hj hij
    simpa using hij
  have htotal : ∀ a b : SwitcherSingleViewSelectedEncodedFrame × Nat,
      policy.adjusted a.1 ≤ policy.adjusted b.1 ∨ policy.adjusted b.1 ≤ policy.adjusted a.1 :=
    fun a b => UInt64.le_total _ _
  have htrans : ∀ a b d : SwitcherSingleViewSelectedEncodedFrame × Nat,
      policy.adjusted a.1 ≤ policy.adjusted b.1 → policy.adjusted b.1 ≤ policy.adjusted d.1 →
        policy.adjusted a.1 ≤ policy.adjusted d.1 := fun a b d => UInt64.le_trans
  obtain ⟨hmem, hwindow, hleast⟩ := hfirst.least htotal htrans hpositions
  refine ⟨position, frame, ⟨List.mem_zipIdx_iff_getElem?.mp hmem, of_decide_eq_true hwindow, ?_⟩, rfl⟩
  intro other otherPosition hother hotherWindow
  rcases hleast (other, otherPosition) (List.mem_zipIdx_iff_getElem?.mpr hother)
    (decide_eq_true hotherWindow) with heq | hlt | ⟨heq, hle, hequal⟩
  · cases heq
    exact .inr ⟨rfl, .inr ⟨rfl, Nat.le_refl _⟩⟩
  · exact .inl hlt
  · refine .inr ⟨heq, ?_⟩
    rcases UInt64.lt_or_eq_of_le hle with hlt | heq
    · exact .inl hlt
    · exact .inr ⟨heq, Nat.le_of_lt (hequal (UInt64.le_of_eq heq.symm))⟩

theorem mem_sortTimed {timed : TimedFrame} :
    timed ∈ sortTimed (frames.map (timedFrame policy.clockOffsetMicros)) ↔
      ∃ frame ∈ frames, timedFrame policy.clockOffsetMicros frame = timed := by
  rw [sortTimed, List.mem_insertionSort, List.mem_map]

theorem sortTimed_pairwise (timed : List TimedFrame) :
    (sortTimed timed).Pairwise fun a b => a.2 ≤ b.2 := by
  have htotal : ∀ a b : TimedFrame, a.2 ≤ b.2 ∨ b.2 ≤ a.2 := fun a b => UInt64.le_total _ _
  have htrans : ∀ a b d : TimedFrame, a.2 ≤ b.2 → b.2 ≤ d.2 → a.2 ≤ d.2 := fun a b d => UInt64.le_trans
  have hstable := pairwise_insertionSort htotal htrans
    (List.pairwise_iff_forall_sublist.mpr fun _ => trivial : timed.Pairwise fun _ _ => True)
  exact hstable.imp fun hab => hab.1

/-- The frames' times lie between the first and the last of the sorted frames. -/
theorem sortTimed_ends (h : frames ≠ []) :
    ∃ first ∈ frames, ∃ last ∈ frames,
      (sortTimed (frames.map (timedFrame policy.clockOffsetMicros))).head? =
          some (timedFrame policy.clockOffsetMicros first) ∧
        (sortTimed (frames.map (timedFrame policy.clockOffsetMicros))).getLast? =
          some (timedFrame policy.clockOffsetMicros last) ∧
        ∀ frame ∈ frames, policy.adjusted first ≤ policy.adjusted frame ∧
          policy.adjusted frame ≤ policy.adjusted last := by
  have hsorted := sortTimed_pairwise (frames.map (timedFrame policy.clockOffsetMicros))
  have hmem : ∀ frame ∈ frames, timedFrame policy.clockOffsetMicros frame ∈
      sortTimed (frames.map (timedFrame policy.clockOffsetMicros)) := fun frame hframe =>
    mem_sortTimed.mpr ⟨frame, hframe, rfl⟩
  have hback : ∀ timed ∈ sortTimed (frames.map (timedFrame policy.clockOffsetMicros)),
      ∃ frame ∈ frames, timedFrame policy.clockOffsetMicros frame = timed := fun _ => mem_sortTimed.mp
  generalize sortTimed (frames.map (timedFrame policy.clockOffsetMicros)) = sorted at *
  obtain ⟨some, hsome⟩ := List.exists_mem_of_ne_nil frames h
  have hne : sorted ≠ [] := List.ne_nil_of_mem (hmem some hsome)
  obtain ⟨timedFirst, rest, rfl⟩ := List.exists_cons_of_ne_nil hne
  obtain ⟨first, hfirst, hfirstEq⟩ := hback timedFirst (by simp)
  obtain ⟨last, hlast, hlastEq⟩ := hback ((timedFirst :: rest).getLast hne) (List.getLast_mem hne)
  refine ⟨first, hfirst, last, hlast, by rw [hfirstEq]; rfl, ?_, ?_⟩
  · rw [hlastEq, List.getLast?_eq_some_getLast hne]
  · intro frame hframe
    have hin := hmem frame hframe
    have hlow : (timedFirst).2 ≤ policy.adjusted frame := by
      rcases List.mem_cons.mp hin with heq | hin
      · exact UInt64.le_of_eq (congrArg Prod.snd heq).symm
      · exact (List.pairwise_cons.mp hsorted).1 _ hin
    have hhigh : policy.adjusted frame ≤ ((timedFirst :: rest).getLast hne).2 := by
      rw [← List.dropLast_append_getLast hne] at hin hsorted
      rcases List.mem_append.mp hin with hin | hin
      · exact (List.pairwise_append.mp hsorted).2.2 _ hin _ (by simp)
      · exact UInt64.le_of_eq (congrArg Prod.snd (List.mem_singleton.mp hin))
    rw [← hfirstEq] at hlow
    rw [← hlastEq] at hhigh
    exact ⟨hlow, hhigh⟩

theorem frames_ne_nil (h : policy.Enough frames) : frames ≠ [] := by
  rintro rfl
  unfold Enough at h
  simp only [List.length_nil] at h
  omega

theorem lower_le_upper (policy : SwitcherJitterBufferSelectionPolicy) (targetTime : TimestampMicros) :
    policy.lower targetTime ≤ policy.upper targetTime := by
  have hbound := targetTime.toNat_lt
  rw [UInt64.le_iff_toNat_le, lower, upper, toNat_saturatingSub, toNat_saturatingAdd]
  omega

/-- The frames that `select_frame_at_target_time` looks for the nearest among. -/
def windowFrames (policy : SwitcherJitterBufferSelectionPolicy) (targetTime : TimestampMicros)
    (frames : List SwitcherSingleViewSelectedEncodedFrame) : List TimedFrame :=
  (sortTimed (frames.map (timedFrame policy.clockOffsetMicros))).filter
    fun timed => policy.lower targetTime ≤ timed.2 ∧ timed.2 ≤ policy.upper targetTime

theorem selectFrameAtTargetTime_of_enough (h : policy.Enough frames) :
    selectFrameAtTargetTime frames clientId policy targetTime =
      match nearest targetTime (windowFrames policy targetTime frames) with
      | some (frame, adjusted) =>
        .selected ⟨frame, targetTime, adjusted, adjusted.toInt64 - targetTime.toInt64⟩
      | none =>
        let timedFrames := sortTimed (frames.map (timedFrame policy.clockOffsetMicros))
        let earliest := (timedFrames.head?.map Prod.snd).getD 0
        if policy.upper targetTime < earliest then
          .frameTooEarly clientId targetTime earliest timedFrames.length
        else
          .frameTooLateDropped clientId targetTime ((timedFrames.getLast?.map Prod.snd).getD 0)
            ((timedFrames.filter fun timed => timed.2 < policy.lower targetTime).map Prod.fst) := by
  have hempty : ¬frames.isEmpty = true := fun hempty =>
    frames_ne_nil h (List.isEmpty_iff.mp hempty)
  have hlength : ¬frames.length < policy.minBufferFrames := by
    unfold Enough at h
    omega
  unfold selectFrameAtTargetTime
  rw [if_neg hempty, if_neg hlength]
  rfl

theorem nearest_windowFrames_eq_none :
    nearest targetTime (windowFrames policy targetTime frames) = none ↔
      ∀ frame ∈ frames, ¬policy.InWindow targetTime frame := by
  rw [nearest_eq_none, windowFrames, List.filter_eq_nil_iff]
  constructor
  · intro h frame hframe hwindow
    exact h _ (mem_sortTimed.mpr ⟨frame, hframe, rfl⟩) (decide_eq_true hwindow)
  · intro h timed htimed hwindow
    obtain ⟨frame, hframe, rfl⟩ := mem_sortTimed.mp htimed
    exact h frame hframe (of_decide_eq_true hwindow)

theorem chosenAt_exists (h : ∃ frame ∈ frames, policy.InWindow targetTime frame) :
    ∃ position frame, policy.ChosenAt targetTime frames position frame := by
  obtain ⟨frame, hframe, hwindow⟩ := h
  cases hbest : nearest targetTime (windowFrames policy targetTime frames) with
  | none => exact absurd hwindow (nearest_windowFrames_eq_none.mp hbest frame hframe)
  | some best =>
    obtain ⟨position, chosen, hchosen, -⟩ := chosenAt_of_nearest hbest
    exact ⟨position, chosen, hchosen⟩

theorem selectFrameAtTargetTime_of_not_enough (h : ¬policy.Enough frames) :
    selectFrameAtTargetTime frames clientId policy targetTime = .noFrame clientId targetTime ∨
      selectFrameAtTargetTime frames clientId policy targetTime =
        .waitingForBuffer clientId targetTime frames.length policy.minBufferFrames := by
  unfold selectFrameAtTargetTime
  by_cases hempty : frames.isEmpty = true
  · exact .inl (if_pos hempty)
  · have hlength : frames.length < policy.minBufferFrames := by
      have hpositive := List.length_pos_of_ne_nil fun hnil => hempty (List.isEmpty_iff.mpr hnil)
      unfold Enough at h
      omega
    rw [if_neg hempty, if_pos hlength]
    exact .inr rfl

theorem selectFrameAtTargetTime_of_chosen (h : policy.Enough frames) {position : Nat}
    {frame : SwitcherSingleViewSelectedEncodedFrame}
    (hchosen : policy.ChosenAt targetTime frames position frame) :
    selectFrameAtTargetTime frames clientId policy targetTime =
      .selected ⟨frame, targetTime, policy.adjusted frame,
        (policy.adjusted frame).toInt64 - targetTime.toInt64⟩ := by
  rw [selectFrameAtTargetTime_of_enough h]
  cases hbest : nearest targetTime (windowFrames policy targetTime frames) with
  | none =>
    have hmem := List.mem_of_getElem? hchosen.queued
    exact absurd hchosen.inWindow (nearest_windowFrames_eq_none.mp hbest frame hmem)
  | some best =>
    obtain ⟨other, chosen, hother, rfl⟩ := chosenAt_of_nearest hbest
    obtain ⟨-, rfl⟩ := hchosen.unique hother
    rfl

theorem selectFrameAtTargetTime_of_after (h : policy.Enough frames)
    (hafter : ∀ frame ∈ frames, policy.AfterWindow targetTime frame) :
    ∃ first ∈ frames, (∀ frame ∈ frames, policy.adjusted first ≤ policy.adjusted frame) ∧
      selectFrameAtTargetTime frames clientId policy targetTime =
        .frameTooEarly clientId targetTime (policy.adjusted first) frames.length := by
  obtain ⟨first, hfirst, last, -, hhead, -, hends⟩ := @sortTimed_ends policy frames (frames_ne_nil h)
  refine ⟨first, hfirst, fun frame hframe => (hends frame hframe).1, ?_⟩
  have hnone : nearest targetTime (windowFrames policy targetTime frames) = none :=
    nearest_windowFrames_eq_none.mpr fun frame hframe hwindow =>
      absurd (UInt64.lt_of_lt_of_le (hafter frame hframe) hwindow.2) (UInt64.lt_irrefl _)
  rw [selectFrameAtTargetTime_of_enough h, hnone]
  simp only [hhead, Option.map_some, Option.getD_some]
  rw [if_pos (show policy.upper targetTime < (timedFrame policy.clockOffsetMicros first).2 from
    hafter first hfirst), sortTimed, List.length_insertionSort, List.length_map]
  rfl

theorem selectFrameAtTargetTime_of_before (h : policy.Enough frames)
    (hoff : ∀ frame ∈ frames, ¬policy.InWindow targetTime frame)
    (hbefore : ∃ frame ∈ frames, policy.BeforeWindow targetTime frame) :
    ∃ last ∈ frames, (∀ frame ∈ frames, policy.adjusted frame ≤ policy.adjusted last) ∧
      selectFrameAtTargetTime frames clientId policy targetTime =
        .frameTooLateDropped clientId targetTime (policy.adjusted last)
          (((sortTimed (frames.map (timedFrame policy.clockOffsetMicros))).filter fun timed =>
            timed.2 < policy.lower targetTime).map Prod.fst) := by
  obtain ⟨first, hfirst, last, hlast, hhead, hgetLast, hends⟩ :=
    @sortTimed_ends policy frames (frames_ne_nil h)
  refine ⟨last, hlast, fun frame hframe => (hends frame hframe).2, ?_⟩
  have hnone := nearest_windowFrames_eq_none.mpr hoff
  have hearly : ¬policy.upper targetTime < (timedFrame policy.clockOffsetMicros first).2 := by
    obtain ⟨late, hlate, hlt⟩ := hbefore
    rw [UInt64.not_lt]
    exact UInt64.le_trans (UInt64.le_trans (hends late hlate).1 (UInt64.le_of_lt hlt))
      (lower_le_upper policy targetTime)
  rw [selectFrameAtTargetTime_of_enough h, hnone]
  simp only [hhead, hgetLast, Option.map_some, Option.getD_some]
  rw [if_neg hearly]
  rfl

/-- The frames before the window, in the order of their times. -/
theorem lateFrames_exact (policy : SwitcherJitterBufferSelectionPolicy) (targetTime : TimestampMicros)
    (frames : List SwitcherSingleViewSelectedEncodedFrame) :
    let lateFrames := ((sortTimed (frames.map (timedFrame policy.clockOffsetMicros))).filter fun timed =>
      timed.2 < policy.lower targetTime).map Prod.fst
    lateFrames.Perm (frames.filter fun frame => policy.BeforeWindow targetTime frame) ∧
      lateFrames.Pairwise fun a b => policy.adjusted a ≤ policy.adjusted b := by
  constructor
  · have hperm := ((List.perm_insertionSort (fun a b : TimedFrame => a.2 ≤ b.2)
      (frames.map (timedFrame policy.clockOffsetMicros))).filter fun timed =>
        timed.2 < policy.lower targetTime).map Prod.fst
    refine hperm.trans (List.Perm.of_eq ?_)
    rw [List.filter_map, List.map_map]
    exact List.map_id _
  · rw [List.pairwise_map]
    have hsorted := (sortTimed_pairwise (frames.map (timedFrame policy.clockOffsetMicros))).filter
      fun timed => timed.2 < policy.lower targetTime
    refine hsorted.imp_of_mem ?_
    intro a b ha hb hab
    obtain ⟨frame, -, rfl⟩ := mem_sortTimed.mp (List.mem_filter.mp ha).1
    obtain ⟨other, -, rfl⟩ := mem_sortTimed.mp (List.mem_filter.mp hb).1
    exact hab

/-- Off the window a frame is before or after it. -/
theorem before_or_after {frame : SwitcherSingleViewSelectedEncodedFrame}
    (h : ¬policy.InWindow targetTime frame) :
    policy.BeforeWindow targetTime frame ∨ policy.AfterWindow targetTime frame := by
  by_cases hlow : policy.lower targetTime ≤ policy.adjusted frame
  · by_cases hhigh : policy.adjusted frame ≤ policy.upper targetTime
    · exact absurd ⟨hlow, hhigh⟩ h
    · exact .inr (UInt64.not_le.mp hhigh)
  · exact .inl (UInt64.not_le.mp hlow)

theorem Earliest.unique {time time' : TimestampMicros} (h : policy.Earliest frames time)
    (h' : policy.Earliest frames time') : time = time' := by
  obtain ⟨⟨frame, hframe, rfl⟩, hleast⟩ := h
  obtain ⟨⟨frame', hframe', rfl⟩, hleast'⟩ := h'
  exact UInt64.le_antisymm (hleast frame' hframe') (hleast' frame hframe)

/-- The five forms of a result, and when it has each of them. -/
inductive SelectionVerdict (frames : List SwitcherSingleViewSelectedEncodedFrame) (clientId : ClientId)
    (policy : SwitcherJitterBufferSelectionPolicy) (targetTime : TimestampMicros) :
    SwitcherJitterBufferSelectionResult → Prop
  | noFrame (few : ¬policy.Enough frames) :
    SelectionVerdict frames clientId policy targetTime (.noFrame clientId targetTime)
  | waitingForBuffer (few : ¬policy.Enough frames) :
    SelectionVerdict frames clientId policy targetTime
      (.waitingForBuffer clientId targetTime frames.length policy.minBufferFrames)
  | selected (enough : policy.Enough frames) (position : Nat)
      (frame : SwitcherSingleViewSelectedEncodedFrame)
      (chosen : policy.ChosenAt targetTime frames position frame) :
    SelectionVerdict frames clientId policy targetTime
      (.selected ⟨frame, targetTime, policy.adjusted frame,
        (policy.adjusted frame).toInt64 - targetTime.toInt64⟩)
  | tooEarly (enough : policy.Enough frames)
      (after : ∀ frame ∈ frames, policy.AfterWindow targetTime frame) (earliest : TimestampMicros)
      (least : policy.Earliest frames earliest) :
    SelectionVerdict frames clientId policy targetTime
      (.frameTooEarly clientId targetTime earliest frames.length)
  | tooLate (enough : policy.Enough frames) (off : ∀ frame ∈ frames, ¬policy.InWindow targetTime frame)
      (before : ∃ frame ∈ frames, policy.BeforeWindow targetTime frame) (latest : TimestampMicros)
      (greatest : policy.Latest frames latest) :
    SelectionVerdict frames clientId policy targetTime
      (.frameTooLateDropped clientId targetTime latest
        (((sortTimed (frames.map (timedFrame policy.clockOffsetMicros))).filter fun timed =>
          timed.2 < policy.lower targetTime).map Prod.fst))

theorem selectFrameAtTargetTime_verdict (frames : List SwitcherSingleViewSelectedEncodedFrame)
    (clientId : ClientId) (policy : SwitcherJitterBufferSelectionPolicy) (targetTime : TimestampMicros) :
    SelectionVerdict frames clientId policy targetTime
      (selectFrameAtTargetTime frames clientId policy targetTime) := by
  by_cases henough : policy.Enough frames
  · by_cases hwindow : ∃ frame ∈ frames, policy.InWindow targetTime frame
    · obtain ⟨position, frame, hchosen⟩ := chosenAt_exists hwindow
      rw [selectFrameAtTargetTime_of_chosen henough hchosen]
      exact .selected henough position frame hchosen
    · have hoff : ∀ frame ∈ frames, ¬policy.InWindow targetTime frame :=
        fun frame hframe hin => hwindow ⟨frame, hframe, hin⟩
      by_cases hbefore : ∃ frame ∈ frames, policy.BeforeWindow targetTime frame
      · obtain ⟨last, hlast, hgreatest, heq⟩ :=
          @selectFrameAtTargetTime_of_before policy targetTime frames clientId henough hoff hbefore
        rw [heq]
        exact .tooLate henough hoff hbefore _ ⟨⟨last, hlast, rfl⟩, hgreatest⟩
      · have hafter : ∀ frame ∈ frames, policy.AfterWindow targetTime frame := fun frame hframe =>
          (before_or_after (hoff frame hframe)).resolve_left fun hlt => hbefore ⟨frame, hframe, hlt⟩
        obtain ⟨first, hfirst, hleast, heq⟩ :=
          @selectFrameAtTargetTime_of_after policy targetTime frames clientId henough hafter
        rw [heq]
        exact .tooEarly henough hafter _ ⟨⟨first, hfirst, rfl⟩, hleast⟩
  · rcases @selectFrameAtTargetTime_of_not_enough policy targetTime frames clientId henough with heq | heq
    · rw [heq]
      exact .noFrame henough
    · rw [heq]
      exact .waitingForBuffer henough

theorem SelectionVerdict.of_eq {result : SwitcherJitterBufferSelectionResult}
    (h : selectFrameAtTargetTime frames clientId policy targetTime = result) :
    SelectionVerdict frames clientId policy targetTime result :=
  h ▸ selectFrameAtTargetTime_verdict frames clientId policy targetTime

theorem selectFrameAtTargetTime_eq_selected_iff {selected : SwitcherJitterBufferSelectedFrame} :
    selectFrameAtTargetTime frames clientId policy targetTime = .selected selected ↔
      policy.Enough frames ∧ ∃ position frame, policy.ChosenAt targetTime frames position frame ∧
        selected = ⟨frame, targetTime, policy.adjusted frame,
          (policy.adjusted frame).toInt64 - targetTime.toInt64⟩ := by
  constructor
  · intro h
    cases SelectionVerdict.of_eq h with
    | selected henough position frame hchosen => exact ⟨henough, position, frame, hchosen, rfl⟩
  · rintro ⟨henough, position, frame, hchosen, rfl⟩
    exact selectFrameAtTargetTime_of_chosen henough hchosen

theorem selectFrameAtTargetTime_selected_iff :
    (∃ selected, selectFrameAtTargetTime frames clientId policy targetTime = .selected selected) ↔
      policy.Enough frames ∧ ∃ frame ∈ frames, policy.InWindow targetTime frame := by
  constructor
  · rintro ⟨selected, h⟩
    obtain ⟨henough, position, frame, hchosen, -⟩ := selectFrameAtTargetTime_eq_selected_iff.mp h
    exact ⟨henough, frame, List.mem_of_getElem? hchosen.queued, hchosen.inWindow⟩
  · rintro ⟨henough, hwindow⟩
    obtain ⟨position, frame, hchosen⟩ := chosenAt_exists hwindow
    exact ⟨_, selectFrameAtTargetTime_of_chosen henough hchosen⟩

theorem selectFrameAtTargetTime_eq_tooEarly_iff {client : ClientId} {time earliest : TimestampMicros}
    {count : Nat} :
    selectFrameAtTargetTime frames clientId policy targetTime = .frameTooEarly client time earliest count ↔
      policy.Enough frames ∧ (∀ frame ∈ frames, policy.AfterWindow targetTime frame) ∧
        policy.Earliest frames earliest ∧ client = clientId ∧ time = targetTime ∧
          count = frames.length := by
  constructor
  · intro h
    cases SelectionVerdict.of_eq h with
    | tooEarly henough hafter _ hearliest => exact ⟨henough, hafter, hearliest, rfl, rfl, rfl⟩
  · rintro ⟨henough, hafter, hearliest, rfl, rfl, rfl⟩
    obtain ⟨first, hfirst, hleast, heq⟩ := selectFrameAtTargetTime_of_after henough hafter
    rw [heq, Earliest.unique ⟨⟨first, hfirst, rfl⟩, hleast⟩ hearliest]

theorem selectFrameAtTargetTime_tooLate_iff :
    (∃ client time latest lateFrames, selectFrameAtTargetTime frames clientId policy targetTime =
        .frameTooLateDropped client time latest lateFrames) ↔
      policy.Enough frames ∧ (∀ frame ∈ frames, ¬policy.InWindow targetTime frame) ∧
        ∃ frame ∈ frames, policy.BeforeWindow targetTime frame := by
  constructor
  · rintro ⟨client, time, latest, lateFrames, h⟩
    cases SelectionVerdict.of_eq h with
    | tooLate henough hoff hbefore => exact ⟨henough, hoff, hbefore⟩
  · rintro ⟨henough, hoff, hbefore⟩
    obtain ⟨last, -, -, heq⟩ := selectFrameAtTargetTime_of_before henough hoff hbefore
    exact ⟨_, _, _, _, heq⟩

theorem selectFrameAtTargetTime_tooLate {client : ClientId} {time latest : TimestampMicros}
    {lateFrames : List SwitcherSingleViewSelectedEncodedFrame}
    (h : selectFrameAtTargetTime frames clientId policy targetTime =
      .frameTooLateDropped client time latest lateFrames) :
    client = clientId ∧ time = targetTime ∧ policy.Latest frames latest ∧
      lateFrames.Perm (frames.filter fun frame => policy.BeforeWindow targetTime frame) ∧
        lateFrames.Pairwise fun a b => policy.adjusted a ≤ policy.adjusted b := by
  cases SelectionVerdict.of_eq h with
  | tooLate _ _ _ _ hlatest =>
    obtain ⟨hperm, hpairwise⟩ := lateFrames_exact policy targetTime frames
    exact ⟨rfl, rfl, hlatest, hperm, hpairwise⟩

end Selection

/-- With enough frames queued, a frame is selected exactly if one lies in the window, and it is the nearest,
the earliest of the nearest and the first of those in the queue; else the result says too early exactly if
every frame is after the window, and too late exactly if one is before it. The late frames are those before
the window; the two times are the earliest and the latest of all the queued frames. -/
theorem selectFrameAtTargetTime_exact (frames : List SwitcherSingleViewSelectedEncodedFrame)
    (clientId : ClientId) (policy : SwitcherJitterBufferSelectionPolicy) (targetTime : TimestampMicros) :
    (∀ selected, selectFrameAtTargetTime frames clientId policy targetTime = .selected selected ↔
      policy.Enough frames ∧ ∃ position frame, policy.ChosenAt targetTime frames position frame ∧
        selected = ⟨frame, targetTime, policy.adjusted frame,
          (policy.adjusted frame).toInt64 - targetTime.toInt64⟩) ∧
    ((∃ selected, selectFrameAtTargetTime frames clientId policy targetTime = .selected selected) ↔
      policy.Enough frames ∧ ∃ frame ∈ frames, policy.InWindow targetTime frame) ∧
    (∀ client time earliest count, selectFrameAtTargetTime frames clientId policy targetTime =
        .frameTooEarly client time earliest count ↔
      policy.Enough frames ∧ (∀ frame ∈ frames, policy.AfterWindow targetTime frame) ∧
        policy.Earliest frames earliest ∧ client = clientId ∧ time = targetTime ∧
          count = frames.length) ∧
    ((∃ client time latest lateFrames, selectFrameAtTargetTime frames clientId policy targetTime =
        .frameTooLateDropped client time latest lateFrames) ↔
      policy.Enough frames ∧ (∀ frame ∈ frames, ¬policy.InWindow targetTime frame) ∧
        ∃ frame ∈ frames, policy.BeforeWindow targetTime frame) ∧
    ∀ client time latest lateFrames, selectFrameAtTargetTime frames clientId policy targetTime =
        .frameTooLateDropped client time latest lateFrames →
      client = clientId ∧ time = targetTime ∧ policy.Latest frames latest ∧
        lateFrames.Perm (frames.filter fun frame => policy.BeforeWindow targetTime frame) ∧
          lateFrames.Pairwise fun a b => policy.adjusted a ≤ policy.adjusted b :=
  ⟨fun _ => selectFrameAtTargetTime_eq_selected_iff, selectFrameAtTargetTime_selected_iff,
    fun _ _ _ _ => selectFrameAtTargetTime_eq_tooEarly_iff, selectFrameAtTargetTime_tooLate_iff,
    fun _ _ _ _ => selectFrameAtTargetTime_tooLate⟩

/-- A frame of one camera that was captured at the given time. -/
def capturedAt (frameId : UInt64) (captureTimestamp : TimestampMicros) :
    SwitcherSingleViewSelectedEncodedFrame :=
  ⟨"camera-0", "run-0", frameId, captureTimestamp, 0, 0, true, 1, 1, 60, .h264, 0, []⟩

/-- Of a frame 40 µs too late and one 50 µs too early, the second one's time is reported as the latest. -/
theorem selectFrameAtTargetTime_latest_not_late :
    ¬∀ (frames : List SwitcherSingleViewSelectedEncodedFrame) (clientId : ClientId)
      (policy : SwitcherJitterBufferSelectionPolicy) (targetTime : TimestampMicros) (client : ClientId)
      (time latest : TimestampMicros) (lateFrames : List SwitcherSingleViewSelectedEncodedFrame),
      selectFrameAtTargetTime frames clientId policy targetTime =
          .frameTooLateDropped client time latest lateFrames → policy.Latest lateFrames latest := by
  intro h
  obtain ⟨⟨frame, hframe, htime⟩, -⟩ := h [capturedAt 1 10, capturedAt 2 100] "camera-0"
    ⟨0, none, 5, 5, 1⟩ 50 "camera-0" 50 100 [capturedAt 1 10] (by decide +kernel)
  rw [List.mem_singleton] at hframe
  subst hframe
  exact absurd htime (by decide)

end StreamSync
