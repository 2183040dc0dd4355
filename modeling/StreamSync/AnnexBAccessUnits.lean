import Mathlib.Data.List.ReduceOption
import StreamSync.AnnexBUnits
import StreamSync.Lib.Run

namespace StreamSync

open Framing Run

/-- A unit is taken into the current access unit, or it begins the next one and the current one has ended. -/
def nalStep (current : List ClientAnnexBNalUnit) (nalUnit : ClientAnnexBNalUnit) :
    List ClientAnnexBNalUnit × Option (List ClientAnnexBNalUnit) :=
  if current.any (·.kind.isVcl) && annexBNalBeginsNewAccessUnit nalUnit then ([nalUnit], some current)
  else (current ++ [nalUnit], none)

/-- The access units that have ended after the units of a stream. -/
def endedAccessUnits (nalUnits : List ClientAnnexBNalUnit) : List (List ClientAnnexBNalUnit) :=
  (run nalStep [] nalUnits).2.reduceOption

/-- The access unit that is still open after the units of a stream. -/
def openAccessUnit (nalUnits : List ClientAnnexBNalUnit) : List ClientAnnexBNalUnit :=
  (run nalStep [] nalUnits).1

/-- The access unit that the reader makes of its units. -/
def accessUnitOf (nalUnits : List ClientAnnexBNalUnit) : ClientAnnexBAccessUnit where
  bytes := unitBytes nalUnits
  nalUnits := nalUnits
  containsIdr := nalUnits.any fun nalUnit => nalUnit.kind = .idrSlice
  containsSps := nalUnits.any fun nalUnit => nalUnit.kind = .sps
  containsPps := nalUnits.any fun nalUnit => nalUnit.kind = .pps

section Steps

variable {current nalUnits : List ClientAnnexBNalUnit}

theorem nalStep_begins {nalUnit : ClientAnnexBNalUnit}
    (h : (current.any (·.kind.isVcl) && annexBNalBeginsNewAccessUnit nalUnit) = true) :
    nalStep current nalUnit = ([nalUnit], some current) := if_pos h

theorem nalStep_continues {nalUnit : ClientAnnexBNalUnit}
    (h : (current.any (·.kind.isVcl) && annexBNalBeginsNewAccessUnit nalUnit) = false) :
    nalStep current nalUnit = (current ++ [nalUnit], none) := by
  rw [nalStep, h]
  rfl

/-- The units are those of the access units that ended, then those of the open one. -/
theorem flatten_run (current nalUnits : List ClientAnnexBNalUnit) :
    (run nalStep current nalUnits).2.reduceOption.flatten ++ (run nalStep current nalUnits).1 =
      current ++ nalUnits := by
  induction nalUnits generalizing current with
  | nil => exact (List.append_nil current).symm
  | cons nalUnit nalUnits ih =>
    rw [run_cons]
    dsimp only
    cases h : current.any (·.kind.isVcl) && annexBNalBeginsNewAccessUnit nalUnit with
    | true =>
      rw [nalStep_begins h, List.reduceOption_cons_of_some, List.flatten_cons, List.append_assoc, ih]
      rfl
    | false =>
      rw [nalStep_continues h, List.reduceOption_cons_of_none, ih, List.append_assoc]
      rfl

theorem any_isVcl_of_mem_run {ended : List ClientAnnexBNalUnit}
    (h : ended ∈ (run nalStep current nalUnits).2.reduceOption) : ended.any (·.kind.isVcl) = true := by
  induction nalUnits generalizing current with
  | nil => cases h
  | cons nalUnit nalUnits ih =>
    rw [run_cons] at h
    dsimp only at h
    cases hbegins : current.any (·.kind.isVcl) && annexBNalBeginsNewAccessUnit nalUnit with
    | true =>
      rw [nalStep_begins hbegins, List.reduceOption_cons_of_some] at h
      rcases List.mem_cons.mp h with rfl | h
      · exact (Bool.and_eq_true_iff.mp hbegins).1
      · exact ih h
    | false =>
      rw [nalStep_continues hbegins, List.reduceOption_cons_of_none] at h
      exact ih h

/-- Without a new access unit the current one takes all the units. -/
theorem run_of_newAccessUnitIndex_none
    (h : newAccessUnitIndex (current.any (·.kind.isVcl)) nalUnits = none) :
    (run nalStep current nalUnits).1 = current ++ nalUnits ∧
      (run nalStep current nalUnits).2.reduceOption = [] := by
  induction nalUnits generalizing current with
  | nil => exact ⟨(List.append_nil current).symm, rfl⟩
  | cons nalUnit nalUnits ih =>
    rw [newAccessUnitIndex] at h
    split at h
    next => cases h
    next hbegins =>
      have hrest := Option.map_eq_none_iff.mp h
      rw [← show (current ++ [nalUnit]).any (·.kind.isVcl) =
        (current.any (·.kind.isVcl) || nalUnit.kind.isVcl) by simp] at hrest
      obtain ⟨hopen, hended⟩ := ih hrest
      rw [run_cons, nalStep_continues (Bool.eq_false_iff.mpr hbegins)]
      refine ⟨by rw [hopen, List.append_assoc]; rfl, ?_⟩
      rw [List.reduceOption_cons_of_none, hended]

/-- A new access unit ends the current one there, and the rest goes on as from the start. -/
theorem run_of_newAccessUnitIndex_some {index : Nat}
    (h : newAccessUnitIndex (current.any (·.kind.isVcl)) nalUnits = some index) :
    (run nalStep current nalUnits).1 = openAccessUnit (nalUnits.drop index) ∧
      (run nalStep current nalUnits).2.reduceOption =
        (current ++ nalUnits.take index) :: endedAccessUnits (nalUnits.drop index) ∧
      index < nalUnits.length := by
  induction nalUnits generalizing current index with
  | nil => cases h
  | cons nalUnit nalUnits ih =>
    rw [newAccessUnitIndex] at h
    split at h
    next hbegins =>
      cases h
      rw [run_cons, nalStep_begins hbegins]
      refine ⟨rfl, ?_, Nat.succ_pos _⟩
      rw [List.reduceOption_cons_of_some, List.take_zero, List.append_nil, List.drop_zero]
      rfl
    next hbegins =>
      obtain ⟨index, hrest, rfl⟩ := Option.map_eq_some_iff.mp h
      rw [← show (current ++ [nalUnit]).any (·.kind.isVcl) =
        (current.any (·.kind.isVcl) || nalUnit.kind.isVcl) by simp] at hrest
      obtain ⟨hopen, hended, hlt⟩ := ih hrest
      rw [run_cons, nalStep_continues (Bool.eq_false_iff.mpr hbegins)]
      refine ⟨hopen, ?_, Nat.succ_lt_succ hlt⟩
      rw [List.reduceOption_cons_of_none, hended, List.append_assoc]
      rfl

theorem newAccessUnitIndex_run (h : newAccessUnitIndex false current = none)
    (nalUnits : List ClientAnnexBNalUnit) :
    newAccessUnitIndex false (run nalStep current nalUnits).1 = none := by
  induction nalUnits generalizing current with
  | nil => exact h
  | cons nalUnit nalUnits ih =>
    rw [run_cons]
    apply ih
    cases hbegins : current.any (·.kind.isVcl) && annexBNalBeginsNewAccessUnit nalUnit with
    | true =>
      rw [nalStep_begins hbegins]
      rfl
    | false =>
      rw [nalStep_continues hbegins, newAccessUnitIndex_append false current [nalUnit] h, Bool.false_or,
        newAccessUnitIndex, hbegins]
      rfl

end Steps

section Streams

variable (nalUnits more : List ClientAnnexBNalUnit)

theorem newAccessUnitIndex_openAccessUnit : newAccessUnitIndex false (openAccessUnit nalUnits) = none :=
  newAccessUnitIndex_run rfl nalUnits

theorem endedAccessUnits_of_some {nalUnits : List ClientAnnexBNalUnit} {index : Nat}
    (h : newAccessUnitIndex false nalUnits = some index) :
    openAccessUnit nalUnits = openAccessUnit (nalUnits.drop index) ∧
      endedAccessUnits nalUnits = nalUnits.take index :: endedAccessUnits (nalUnits.drop index) ∧
      index < nalUnits.length :=
  run_of_newAccessUnitIndex_some h

theorem endedAccessUnits_of_none {nalUnits : List ClientAnnexBNalUnit}
    (h : newAccessUnitIndex false nalUnits = none) :
    openAccessUnit nalUnits = nalUnits ∧ endedAccessUnits nalUnits = [] :=
  run_of_newAccessUnitIndex_none h

theorem flatten_endedAccessUnits : (endedAccessUnits nalUnits).flatten ++ openAccessUnit nalUnits = nalUnits :=
  flatten_run [] nalUnits

/-- The open access unit alone ends none. -/
theorem run_nil_openAccessUnit :
    (run nalStep [] (openAccessUnit nalUnits)).1 = openAccessUnit nalUnits ∧
      (run nalStep [] (openAccessUnit nalUnits)).2.reduceOption = [] :=
  endedAccessUnits_of_none (newAccessUnitIndex_openAccessUnit nalUnits)

theorem run_openAccessUnit :
    run nalStep [] (openAccessUnit nalUnits ++ more) =
      ((run nalStep (openAccessUnit nalUnits) more).1,
        (run nalStep [] (openAccessUnit nalUnits)).2 ++ (run nalStep (openAccessUnit nalUnits) more).2) := by
  rw [run_append, (run_nil_openAccessUnit nalUnits).1]

theorem endedAccessUnits_append :
    endedAccessUnits (nalUnits ++ more) =
      endedAccessUnits nalUnits ++ endedAccessUnits (openAccessUnit nalUnits ++ more) := by
  rw [endedAccessUnits, run_append, List.reduceOption_append, endedAccessUnits, endedAccessUnits,
    run_openAccessUnit, List.reduceOption_append, (run_nil_openAccessUnit nalUnits).2, List.nil_append,
    openAccessUnit]

theorem openAccessUnit_append :
    openAccessUnit (nalUnits ++ more) = openAccessUnit (openAccessUnit nalUnits ++ more) := by
  rw [openAccessUnit, run_append, openAccessUnit, run_openAccessUnit]
  rfl

end Streams

section Placed

variable (index : Nat) (nalUnits : List ClientAnnexBNalUnit)

theorem placedFrom_nalUnits : (placedFrom index nalUnits).map (·.nalUnit) = nalUnits := by
  induction nalUnits generalizing index with
  | nil => rfl
  | cons nalUnit nalUnits ih => rw [placedFrom, List.map_cons, ih]

theorem placedFrom_take (k : Nat) : (placedFrom index nalUnits).take k = placedFrom index (nalUnits.take k) := by
  induction nalUnits generalizing index k with
  | nil => rw [List.take_nil, placedFrom, List.take_nil]
  | cons nalUnit nalUnits ih =>
    cases k with
    | zero => rfl
    | succ k => rw [placedFrom, List.take_succ_cons, ih, List.take_succ_cons, placedFrom]

theorem placedFrom_start {k : Nat} (h : k < nalUnits.length) :
    (placedFrom index nalUnits)[k]?.map (·.start) = some (index + (unitBytes (nalUnits.take k)).length) := by
  induction nalUnits generalizing index k with
  | nil => exact absurd h (Nat.not_lt_zero k)
  | cons nalUnit nalUnits ih =>
    cases k with
    | zero => rfl
    | succ k =>
      rw [placedFrom, List.getElem?_cons_succ, ih _ (Nat.lt_of_succ_lt_succ h), List.take_succ_cons]
      simp [unitBytes, Nat.add_assoc]

theorem placedFrom_stop (h : nalUnits ≠ []) :
    (placedFrom index nalUnits).getLast?.map (·.stop) = some (index + (unitBytes nalUnits).length) := by
  induction nalUnits generalizing index with
  | nil => exact absurd rfl h
  | cons nalUnit nalUnits ih =>
    cases nalUnits with
    | nil => simp [placedFrom, unitBytes]
    | cons next more =>
      have hrest := ih (index + nalUnit.bytes.length) (List.cons_ne_nil next more)
      rw [placedFrom] at hrest ⊢
      rw [placedFrom, List.getLast?_cons_cons, hrest]
      simp [unitBytes, Nat.add_assoc]

end Placed

theorem consumeAccessUnit_units (index : Nat) (nalUnits : List ClientAnnexBNalUnit) (tail : List UInt8) :
    consumeAccessUnitFromState ⟨unitBytes nalUnits ++ tail⟩ (placedFrom index nalUnits)
        (unitBytes nalUnits).length = (accessUnitOf nalUnits, ⟨tail⟩) := by
  rw [consumeAccessUnitFromState, placedFrom_nalUnits, List.take_left, List.drop_left]
  rfl

/-- What the reader takes out of bytes in which the parser finds these units. -/
theorem tryExtract_of_parse {bytes tail : List UInt8} {nalUnits : List ClientAnnexBNalUnit} {eof : Bool}
    (hparse : parseAnnexBNalDescriptors bytes eof = .ok (placedFrom 0 nalUnits))
    (hbytes : bytes = unitBytes nalUnits ++ tail) :
    tryExtractAnnexBAccessUnit ⟨bytes⟩ eof = .ok (
      match newAccessUnitIndex false nalUnits with
      | some index => some (accessUnitOf (nalUnits.take index), ⟨unitBytes (nalUnits.drop index) ++ tail⟩)
      | none =>
        if eof && nalUnits.any (·.kind.isVcl) then some (accessUnitOf nalUnits, ⟨tail⟩) else none) := by
  simp only [tryExtractAnnexBAccessUnit, hparse, bind, Except.bind, placedFrom_nalUnits]
  cases hindex : newAccessUnitIndex false nalUnits with
  | some index =>
    obtain ⟨_, _, hlt⟩ := endedAccessUnits_of_some hindex
    have hconsume := consumeAccessUnit_units 0 (nalUnits.take index)
      (unitBytes (nalUnits.drop index) ++ tail)
    dsimp only
    rw [← List.append_assoc, ← unitBytes_append, List.take_append_drop, ← hbytes] at hconsume
    rw [placedFrom_start 0 nalUnits hlt, placedFrom_take, Nat.zero_add]
    exact congrArg (fun result => Except.ok (some result)) hconsume
  | none =>
    dsimp only
    split
    next hvcl =>
      have hne : nalUnits ≠ [] := by
        rintro rfl
        simp at hvcl
      have hconsume := consumeAccessUnit_units 0 nalUnits tail
      rw [← hbytes] at hconsume
      rw [placedFrom_stop 0 nalUnits hne, Nat.zero_add]
      exact congrArg (fun result => Except.ok (some result)) hconsume
    next => rfl

/-- What the reader takes out of bytes that show these units. -/
theorem tryExtract_of_unitsOf {bytes tail : List UInt8} {nalUnits : List ClientAnnexBNalUnit} {eof : Bool}
    (hunits : unitsOf eof bytes = .ok nalUnits) (hbytes : bytes = unitBytes nalUnits ++ tail) :
    tryExtractAnnexBAccessUnit ⟨bytes⟩ eof = .ok (
      match newAccessUnitIndex false nalUnits with
      | some index => some (accessUnitOf (nalUnits.take index), ⟨unitBytes (nalUnits.drop index) ++ tail⟩)
      | none =>
        if eof && nalUnits.any (·.kind.isVcl) then some (accessUnitOf nalUnits, ⟨tail⟩) else none) := by
  have hparse := parseAnnexBNalDescriptors_eq_unitsOf bytes eof
  rw [hunits] at hparse
  exact tryExtract_of_parse hparse hbytes

theorem tryExtract_of_error {bytes : List UInt8} {eof : Bool}
    {reason : ClientAnnexBAccessUnitReaderMalformedReason} (h : unitsOf eof bytes = .error reason) :
    tryExtractAnnexBAccessUnit ⟨bytes⟩ eof = .error reason := by
  have hparse := parseAnnexBNalDescriptors_eq_unitsOf bytes eof
  rw [h] at hparse
  change parseAnnexBNalDescriptors bytes eof = .error reason at hparse
  simp only [tryExtractAnnexBAccessUnit, hparse, bind, Except.bind]

end StreamSync
