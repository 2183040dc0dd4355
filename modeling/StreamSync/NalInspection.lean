import StreamSync.AnnexB
import StreamSync.SwitcherTypes

namespace StreamSync

open Framing

structure SwitcherH264AnnexBPayloadSummary where
  payloadLen : Nat
  hasSps : Bool
  hasPps : Bool
  hasIdr : Bool
  hasNonIdrVcl : Bool
  nalKinds : List SwitcherH264AnnexBNalKind
deriving DecidableEq, Repr

/-- `switcher_find_annex_b_start_code` searches like the reader of the client. -/
def switcherFindAnnexBStartCode (bytes : List UInt8) (start : Nat) : Option (Nat × Nat) :=
  findAnnexBStartCode bytes start

def nalUnitType (header : UInt8) : UInt8 := header &&& 0x1f

namespace SwitcherH264AnnexBNalKind

def ofNalUnitType (nalUnitType : UInt8) : SwitcherH264AnnexBNalKind :=
  if 1 ≤ nalUnitType ∧ nalUnitType ≤ 4 then .nonIdrVcl
  else if nalUnitType = 5 then .idr
  else if nalUnitType = 6 then .sei
  else if nalUnitType = 7 then .sps
  else if nalUnitType = 8 then .pps
  else if nalUnitType = 9 then .aud
  else .other nalUnitType

end SwitcherH264AnnexBNalKind

namespace SwitcherH264AnnexBPayloadSummary

def push (summary : SwitcherH264AnnexBPayloadSummary) (kind : SwitcherH264AnnexBNalKind) :
    SwitcherH264AnnexBPayloadSummary :=
  { summary with
    hasSps := summary.hasSps || kind = .sps
    hasPps := summary.hasPps || kind = .pps
    hasIdr := summary.hasIdr || kind = .idr
    hasNonIdrVcl := summary.hasNonIdrVcl || kind = .nonIdrVcl
    nalKinds := summary.nalKinds ++ [kind] }

end SwitcherH264AnnexBPayloadSummary

theorem switcherFindAnnexBStartCode_bounds {bytes : List UInt8} {start i n : Nat}
    (h : switcherFindAnnexBStartCode bytes start = some (i, n)) : start ≤ i ∧ i < bytes.length ∧ 0 < n := by
  obtain ⟨hle, hlt, hpos⟩ := scan_bounds h
  rw [List.length_drop] at hlt
  exact ⟨hle, by omega, hpos⟩

/-- Where the NAL unit whose header stands at the index ends. -/
def nextNalStart (payload : List UInt8) (nalHeaderIndex : Nat) : Nat :=
  ((switcherFindAnnexBStartCode payload nalHeaderIndex).map Prod.fst).getD payload.length

/-- The `while let` loop of `inspect_payload` from a position on. -/
def inspectFrom (payload : List UInt8) (searchFrom : Nat) (summary : SwitcherH264AnnexBPayloadSummary) :
    SwitcherH264AnnexBPayloadSummary :=
  match _hfound : switcherFindAnnexBStartCode payload searchFrom with
  | none => summary
  | some (start, startCodeLen) =>
    if payload.length ≤ start + startCodeLen then summary
    else if nextNalStart payload (start + startCodeLen) ≤ start + startCodeLen then
      inspectFrom payload (start + startCodeLen + 1) summary
    else
      inspectFrom payload (nextNalStart payload (start + startCodeLen))
        (summary.push (.ofNalUnitType (nalUnitType (payload[start + startCodeLen]?.getD 0))))
termination_by payload.length - searchFrom
decreasing_by
  · obtain ⟨hle, -, hpos⟩ := switcherFindAnnexBStartCode_bounds _hfound
    omega
  · obtain ⟨hle, -, hpos⟩ := switcherFindAnnexBStartCode_bounds _hfound
    omega

section

variable {payload : List UInt8} {searchFrom start n : Nat} {summary : SwitcherH264AnnexBPayloadSummary}

theorem inspectFrom_none (hfound : switcherFindAnnexBStartCode payload searchFrom = none) :
    inspectFrom payload searchFrom summary = summary := by
  rw [inspectFrom]
  split
  next => rfl
  next hsome => cases hfound.symm.trans hsome

theorem inspectFrom_some (hfound : switcherFindAnnexBStartCode payload searchFrom = some (start, n)) :
    inspectFrom payload searchFrom summary =
      if payload.length ≤ start + n then summary
      else if nextNalStart payload (start + n) ≤ start + n then
        inspectFrom payload (start + n + 1) summary
      else
        inspectFrom payload (nextNalStart payload (start + n))
          (summary.push (.ofNalUnitType (nalUnitType (payload[start + n]?.getD 0)))) := by
  rw [inspectFrom]
  split
  next hnone => cases hfound.symm.trans hnone
  next hsome =>
    cases hfound.symm.trans hsome
    rfl

end

/-- `SwitcherH264AnnexBPayloadInspectionBoundary::inspect_payload`. -/
def inspectPayload (payload : List UInt8) : SwitcherH264AnnexBPayloadSummary :=
  inspectFrom payload 0 ⟨payload.length, false, false, false, false, []⟩

/-- A NAL unit of the kind stands in the bytes: a start code and behind it a header of that kind. -/
def ContainsNal (kind : SwitcherH264AnnexBNalKind) (payload : List UInt8) : Prop :=
  ∃ before header after, payload = before ++ [0, 0, 1] ++ header :: after ∧
    SwitcherH264AnnexBNalKind.ofNalUnitType (nalUnitType header) = kind

theorem scan_mark {α : Type} {m : Marker α} {index i n : Nat} {xs : List α}
    (h : scan m index xs = some (i, n)) : m.mark (xs.drop (i - index)) = some n := by
  induction xs generalizing index with
  | nil => cases h
  | cons x xs ih =>
    rw [scan] at h
    split at h
    next length hmark =>
      cases h
      rw [Nat.sub_self, List.drop_zero]
      exact hmark
    next =>
      obtain ⟨hle, -, -⟩ := scan_bounds h
      rw [show i - index = i - (index + 1) + 1 by omega, List.drop_succ_cons]
      exact ih h

theorem startCodeLen_eq_some {bytes : List UInt8} {n : Nat} (h : startCodeLen bytes = some n) :
    ∃ zeros rest, bytes = zeros ++ [0, 0, 1] ++ rest ∧ zeros.length + 3 = n := by
  unfold startCodeLen at h
  split at h
  next hlong =>
    cases h
    obtain ⟨rest, rfl⟩ := List.isPrefixOf_iff_prefix.mp hlong
    exact ⟨[0], rest, rfl, rfl⟩
  next =>
    split at h
    next hshort =>
      cases h
      obtain ⟨rest, rfl⟩ := List.isPrefixOf_iff_prefix.mp hshort
      exact ⟨[], rest, rfl, rfl⟩
    next => cases h

/-- The byte behind a start code that was found is the header of a NAL unit in the payload. -/
theorem containsNal_of_found {payload : List UInt8} {searchFrom start n : Nat}
    (hfound : switcherFindAnnexBStartCode payload searchFrom = some (start, n))
    (hheader : ¬payload.length ≤ start + n) :
    ContainsNal (.ofNalUnitType (nalUnitType (payload[start + n]?.getD 0))) payload := by
  obtain ⟨hle, -, -⟩ := switcherFindAnnexBStartCode_bounds hfound
  have hmark := scan_mark hfound
  rw [List.drop_drop, show searchFrom + (start - searchFrom) = start by omega] at hmark
  obtain ⟨zeros, rest, heq, hlen⟩ := startCodeLen_eq_some hmark
  have hpayload : payload = payload.take start ++ (zeros ++ [0, 0, 1] ++ rest) := by
    rw [← heq, List.take_append_drop]
  have hstart : (payload.take start).length = start := by
    rw [List.length_take]
    omega
  cases rest with
  | nil =>
    have hlength := congrArg List.length hpayload
    simp only [List.length_append, List.length_cons, List.length_nil, hstart] at hlength
    omega
  | cons header rest =>
    have hget : payload[start + n]? = some header := by
      rw [hpayload, List.getElem?_append_right (by omega), hstart,
        List.getElem?_append_right (by simp; omega)]
      simp only [List.length_append, List.length_cons, List.length_nil]
      rw [show start + n - start - (zeros.length + (0 + 1 + 1 + 1)) = 0 by omega]
      rfl
    rw [hget]
    exact ⟨payload.take start ++ zeros, header, rest, by simpa using hpayload, rfl⟩

/-- The flags say which kinds are in the list. -/
structure SwitcherH264AnnexBPayloadSummary.FlagsAgree (summary : SwitcherH264AnnexBPayloadSummary) :
    Prop where
  sps : summary.hasSps = decide (.sps ∈ summary.nalKinds)
  pps : summary.hasPps = decide (.pps ∈ summary.nalKinds)
  idr : summary.hasIdr = decide (.idr ∈ summary.nalKinds)
  nonIdrVcl : summary.hasNonIdrVcl = decide (.nonIdrVcl ∈ summary.nalKinds)

theorem SwitcherH264AnnexBPayloadSummary.FlagsAgree.push {summary : SwitcherH264AnnexBPayloadSummary}
    (h : summary.FlagsAgree) (kind : SwitcherH264AnnexBNalKind) : (summary.push kind).FlagsAgree := by
  constructor
  · simp [SwitcherH264AnnexBPayloadSummary.push, h.sps, eq_comm]
  · simp [SwitcherH264AnnexBPayloadSummary.push, h.pps, eq_comm]
  · simp [SwitcherH264AnnexBPayloadSummary.push, h.idr, eq_comm]
  · simp [SwitcherH264AnnexBPayloadSummary.push, h.nonIdrVcl, eq_comm]

/-- Every kind the loop lists stands in the payload, and the flags follow the list. -/
theorem inspectFrom_sound (payload : List UInt8) (searchFrom : Nat)
    (summary : SwitcherH264AnnexBPayloadSummary) (hflags : summary.FlagsAgree)
    (hkinds : ∀ kind ∈ summary.nalKinds, ContainsNal kind payload) :
    (inspectFrom payload searchFrom summary).FlagsAgree ∧
      ∀ kind ∈ (inspectFrom payload searchFrom summary).nalKinds, ContainsNal kind payload := by
  induction searchFrom, summary using inspectFrom.induct payload with
  | case1 searchFrom summary hfound =>
    rw [inspectFrom_none hfound]
    exact ⟨hflags, hkinds⟩
  | case2 searchFrom summary start n hfound hheader =>
    rw [inspectFrom_some hfound, if_pos hheader]
    exact ⟨hflags, hkinds⟩
  | case3 searchFrom summary start n hfound hheader hempty ih =>
    rw [inspectFrom_some hfound, if_neg hheader, if_pos hempty]
    exact ih hflags hkinds
  | case4 searchFrom summary start n hfound hheader hempty ih =>
    rw [inspectFrom_some hfound, if_neg hheader, if_neg hempty]
    refine ih (hflags.push _) fun kind hk => ?_
    rcases List.mem_append.mp hk with hk | hk
    · exact hkinds kind hk
    · rw [List.mem_singleton.mp hk]
      exact containsNal_of_found hfound hheader

/-- What the inspection reports as present is present. -/
theorem inspectPayload_sound (payload : List UInt8) :
    ((inspectPayload payload).hasSps = true → ContainsNal .sps payload) ∧
      ((inspectPayload payload).hasPps = true → ContainsNal .pps payload) ∧
      ((inspectPayload payload).hasIdr = true → ContainsNal .idr payload) := by
  obtain ⟨hflags, hkinds⟩ := inspectFrom_sound payload 0 ⟨payload.length, false, false, false, false, []⟩
    ⟨rfl, rfl, rfl, rfl⟩ (by simp)
  refine ⟨fun h => hkinds _ ?_, fun h => hkinds _ ?_, fun h => hkinds _ ?_⟩
  · exact of_decide_eq_true (hflags.sps.symm.trans h)
  · exact of_decide_eq_true (hflags.pps.symm.trans h)
  · exact of_decide_eq_true (hflags.idr.symm.trans h)

end StreamSync
