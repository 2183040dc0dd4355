import StreamSync.AnnexB
import StreamSync.Lib.ExpGolomb

namespace StreamSync

open ExpGolomb Saturating

/-- The shift that the parser computes its result with, where it gets that far. -/
def expGolombShift (bytes : List UInt8) : Option Nat :=
  let bits := bitsOf bytes
  let leadingZeroBits := (bits.takeWhile (· = false)).length
  match bits.drop leadingZeroBits with
  | [] => none
  | _ :: rest => if rest.length < leadingZeroBits then none else some leadingZeroBits

/-- Escapes behind zeros that were written: a byte up to three is kept apart from two zeros. -/
def escapeEmulationFrom (zeroRun : Nat) : List UInt8 → List UInt8
  | [] => []
  | byte :: bytes =>
    if 2 ≤ zeroRun ∧ byte ≤ 3 then 3 :: byte :: escapeEmulationFrom (if byte = 0 then 1 else 0) bytes
    else byte :: escapeEmulationFrom (if byte = 0 then zeroRun + 1 else 0) bytes

/-- The bytes of a NAL unit behind its header as the H.264 rule has them; a zero is never the last. -/
def escapeEmulation (rbsp : List UInt8) : List UInt8 :=
  escapeEmulationFrom 0 rbsp ++ if rbsp.getLast? = some 0 then [3] else []

theorem removeEmulationPrevention_escape (zeroRun : Nat) (rbsp tail : List UInt8) :
    ∃ later, removeEmulationPreventionFrom zeroRun (escapeEmulationFrom zeroRun rbsp ++ tail) =
      rbsp ++ removeEmulationPreventionFrom later tail := by
  induction rbsp generalizing zeroRun with
  | nil => exact ⟨zeroRun, rfl⟩
  | cons byte rbsp ih =>
    rw [escapeEmulationFrom]
    by_cases hescape : 2 ≤ zeroRun ∧ byte ≤ 3
    · rw [if_pos hescape]
      obtain ⟨later, hlater⟩ := ih (if byte = 0 then 1 else 0)
      refine ⟨later, ?_⟩
      rw [List.cons_append, removeEmulationPreventionFrom, if_pos ⟨hescape.1, rfl⟩, List.cons_append,
        removeEmulationPreventionFrom, if_neg (by omega), Nat.zero_add, hlater]
      rfl
    · rw [if_neg hescape]
      obtain ⟨later, hlater⟩ := ih (if byte = 0 then zeroRun + 1 else 0)
      have hkeep : ¬(2 ≤ zeroRun ∧ byte = 3) := by
        rintro ⟨hrun, rfl⟩
        exact hescape ⟨hrun, by decide⟩
      refine ⟨later, ?_⟩
      rw [List.cons_append, removeEmulationPreventionFrom, if_neg hkeep, hlater]
      rfl

/-- What was escaped comes back, up to the byte that keeps a zero from being the last. -/
theorem removeH264EmulationPreventionBytes_escape (rbsp : List UInt8) :
    ∃ tail, removeH264EmulationPreventionBytes (escapeEmulation rbsp) = rbsp ++ tail := by
  obtain ⟨later, hlater⟩ := removeEmulationPrevention_escape 0 rbsp
    (if rbsp.getLast? = some 0 then [3] else [])
  exact ⟨_, hlater⟩

theorem bitsOf_append (bytes bytes' : List UInt8) : bitsOf (bytes ++ bytes') = bitsOf bytes ++ bitsOf bytes' :=
  List.flatMap_append

section

variable {bytes : List UInt8} {k : Nat} {suffix more : List Bool}

theorem toNat_shiftBit (value : UInt64) (bit : Bool) :
    ((value <<< 1) ||| (if bit then 1 else 0)).toNat =
      (2 * value.toNat + bit.toNat) % 18446744073709551616 := by
  have hshift : (value <<< 1).toNat = 2 * (value.toNat % 9223372036854775808) := by
    rw [UInt64.toNat_shiftLeft]
    simp only [UInt64.reduceToNat, Nat.shiftLeft_eq, Nat.reduceMod, Nat.reducePow]
    omega
  cases bit with
  | false => simp [hshift]; omega
  | true =>
    have hor : 2 * (value.toNat % 9223372036854775808) ||| 1 =
        2 * (value.toNat % 9223372036854775808) + 1 :=
      (Nat.two_pow_add_eq_or_of_lt (i := 1) (by decide) _).symm
    simp only [if_true, UInt64.toNat_or, hshift, UInt64.reduceToNat, hor, Bool.toNat_true]
    omega

/-- The loop over the suffix computes its value, modulo what fits. -/
theorem toNat_suffix (bits : List Bool) :
    (bits.foldl (fun (value : UInt64) bit => (value <<< 1) ||| (if bit then 1 else 0)) 0).toNat =
      bitsValue bits % 18446744073709551616 := by
  induction bits using List.reverseRecOn with
  | nil => rfl
  | append_singleton bits bit ih =>
    rw [List.foldl_append, List.foldl_cons, List.foldl_nil, toNat_shiftBit, ih, bitsValue_concat]
    omega

theorem parse_of_startsWith (h : StartsWith (bitsOf bytes) k suffix more) :
    expGolombShift bytes = some k ∧
      parseUnsignedExpGolomb bytes = .ok (saturatingAdd ((1 <<< UInt64.ofNat k) - 1)
        (suffix.foldl (fun (value : UInt64) bit => (value <<< 1) ||| (if bit then 1 else 0)) 0)) := by
  obtain ⟨hzeros, hdrop⟩ := h.leadingZeros
  have hcount : ((bitsOf bytes).takeWhile (· = false)).length = k := hzeros
  have hlen : ¬(suffix ++ more).length < k := by
    rw [List.length_append, h.length_suffix]
    omega
  have htake : (suffix ++ more).take k = suffix := List.take_left' h.length_suffix
  constructor
  · simp only [expGolombShift, hcount, hdrop, if_neg hlen]
  · simp only [parseUnsignedExpGolomb, hcount, hdrop, if_neg hlen, htake]

theorem parse_of_not_startsWith (h : ¬∃ k suffix more, StartsWith (bitsOf bytes) k suffix more) :
    expGolombShift bytes = none ∧ parseUnsignedExpGolomb bytes = .error .invalidSliceHeader := by
  have hcount : ((bitsOf bytes).takeWhile (· = false)).length = leadingZeros (bitsOf bytes) := rfl
  cases hdrop : (bitsOf bytes).drop (leadingZeros (bitsOf bytes)) with
  | nil =>
    constructor
    · simp only [expGolombShift, hcount, hdrop]
    · simp only [parseUnsignedExpGolomb, hcount, hdrop]
  | cons bit rest =>
    have hshort : rest.length < leadingZeros (bitsOf bytes) := by
      by_contra hlen
      exact h ⟨_, _, _, startsWith_of_drop hdrop (by omega)⟩
    constructor
    · simp only [expGolombShift, hcount, hdrop, if_pos hshort]
    · simp only [parseUnsignedExpGolomb, hcount, hdrop, if_pos hshort]

theorem toNat_prefix (hk : k < 64) : ((1 <<< UInt64.ofNat k : UInt64) - 1).toNat = 2 ^ k - 1 := by
  have hpow : 2 ^ k ≤ 2 ^ 63 := Nat.pow_le_pow_right (by decide) (by omega)
  have hpos : 0 < 2 ^ k := Nat.two_pow_pos k
  have hmod : (UInt64.ofNat k).toNat % 64 = k := by
    rw [UInt64.toNat_ofNat_of_lt' (Nat.lt_trans hk (by decide))]
    omega
  have hshift : (1 <<< UInt64.ofNat k : UInt64).toNat = 2 ^ k := by
    rw [UInt64.toNat_shiftLeft, hmod]
    simp only [UInt64.reduceToNat, Nat.one_shiftLeft]
    omega
  have hone : (1 : UInt64) ≤ 1 <<< UInt64.ofNat k := by
    rw [UInt64.le_iff_toNat_le, hshift]
    exact hpos
  rw [UInt64.toNat_sub_of_le _ _ hone, hshift]
  rfl

/-- A codeword with fewer zeros than the integer has bits gives its exact value. -/
theorem parse_exact (h : StartsWith (bitsOf bytes) k suffix more) (hk : k < 64) :
    parseUnsignedExpGolomb bytes =
      .ok (UInt64.ofNat (min (2 ^ k - 1 + bitsValue suffix) 18446744073709551615)) := by
  have hpow : 2 ^ k ≤ 2 ^ 63 := Nat.pow_le_pow_right (by decide) (by omega)
  have hsuffix : bitsValue suffix < 2 ^ k := by
    have hlt := bitsValue_lt suffix
    rwa [h.length_suffix] at hlt
  rw [(parse_of_startsWith h).2]
  refine congrArg _ (UInt64.toNat_inj.mp ?_)
  rw [toNat_saturatingAdd, toNat_prefix hk, toNat_suffix, UInt64.toNat_ofNat']
  omega

end

/-- No shift is too wide, a whole codeword gives its value, capped, and all else is a short header. -/
structure ParsesExactly (bytes : List UInt8) : Prop where
  shift_lt : ∀ shift, expGolombShift bytes = some shift → shift < 64
  value : ∀ k suffix more, StartsWith (bitsOf bytes) k suffix more →
    parseUnsignedExpGolomb bytes =
      .ok (UInt64.ofNat (min (2 ^ k - 1 + bitsValue suffix) 18446744073709551615))
  short : parseUnsignedExpGolomb bytes = .error .invalidSliceHeader ↔
    ¬∃ k suffix more, StartsWith (bitsOf bytes) k suffix more

/-- The bytes hold a whole codeword with at least as many zeros in front as a `u64` has bits. -/
def HoldsOversizedCodeword (bytes : List UInt8) : Prop :=
  ∃ k suffix more, 64 ≤ k ∧ StartsWith (bitsOf bytes) k suffix more

theorem parsesExactly_iff (bytes : List UInt8) : ParsesExactly bytes ↔ ¬HoldsOversizedCodeword bytes := by
  constructor
  · rintro h ⟨k, suffix, more, hk, hstarts⟩
    have hlt := h.shift_lt k (parse_of_startsWith hstarts).1
    omega
  · intro hsmall
    have hlt : ∀ k suffix more, StartsWith (bitsOf bytes) k suffix more → k < 64 := by
      intro k suffix more hstarts
      by_contra hge
      exact hsmall ⟨k, suffix, more, by omega, hstarts⟩
    refine ⟨fun shift hshift => ?_, fun k suffix more hstarts => ?_, ?_⟩
    · by_cases hholds : ∃ k suffix more, StartsWith (bitsOf bytes) k suffix more
      · obtain ⟨k, suffix, more, hstarts⟩ := hholds
        rw [(parse_of_startsWith hstarts).1] at hshift
        cases hshift
        exact hlt shift suffix more hstarts
      · rw [(parse_of_not_startsWith hholds).1] at hshift
        cases hshift
    · exact parse_exact hstarts (hlt k suffix more hstarts)
    · refine ⟨?_, fun hnone => (parse_of_not_startsWith hnone).2⟩
      rintro herror ⟨k, suffix, more, hstarts⟩
      rw [(parse_of_startsWith hstarts).2] at herror
      cases herror

/-- An escaped header gives the number it was written for, whatever follows it. -/
theorem parseH264FirstMbInSlice_escape {v : Nat} (hv : v < 4294967296) {rbsp : List UInt8}
    {following : List Bool} (hbits : bitsOf rbsp = codeword v ++ following) :
    parseH264FirstMbInSlice (escapeEmulation rbsp) = .ok (UInt64.ofNat v) := by
  obtain ⟨tail, hremove⟩ := removeH264EmulationPreventionBytes_escape rbsp
  have hstarts := startsWith_codeword v (following ++ bitsOf tail)
  rw [← List.append_assoc, ← hbits, ← bitsOf_append] at hstarts
  have hlog : (v + 1).log2 < 64 := (Nat.log2_lt (Nat.succ_ne_zero v)).mpr (by omega)
  rw [parseH264FirstMbInSlice, hremove, parse_exact hstarts hlog, codeword_value, Nat.min_eq_left (by omega)]

/-- When the parser is exact on a byte string, and that a first macroblock number the bytes start with
comes back from the escaped header. -/
theorem slice_header_exact_iff (bytes : List UInt8) :
    (ParsesExactly bytes ↔ ¬HoldsOversizedCodeword bytes) ∧
      ∀ (v : Nat) (following : List Bool), v < 4294967296 → bitsOf bytes = codeword v ++ following →
        parseH264FirstMbInSlice (escapeEmulation bytes) = .ok (UInt64.ofNat v) :=
  ⟨parsesExactly_iff bytes, fun _ _ hv hbits => parseH264FirstMbInSlice_escape hv hbits⟩

/-- The number 2 in front of two zero bytes, which the rule escapes. -/
theorem slice_header_exact_escaped :
    parseH264FirstMbInSlice (escapeEmulation [0x60, 0, 0, 1]) = .ok 2 := by
  have hbits : bitsOf [0x60, 0, 0, 1] = codeword 2 ++ (bitsOf [0x60, 0, 0, 1]).drop 3 := by decide
  exact (slice_header_exact_iff [0x60, 0, 0, 1]).2 2 _ (by decide) hbits

/-- A codeword with 64 zeros in front, which stands for more than a `u64` holds. -/
def oversizedCodeword : List UInt8 := List.replicate 8 0 ++ 0x80 :: List.replicate 8 0

/-- The parser shifts by 64, and where that is no panic it gives 0. -/
theorem oversizedCodeword_not_exact : ¬∀ bytes, ParsesExactly bytes := by
  intro h
  have hshift : expGolombShift oversizedCodeword = some 64 ∧
      parseUnsignedExpGolomb oversizedCodeword = .ok 0 := by decide +kernel
  have hlt := (h oversizedCodeword).shift_lt 64 hshift.1
  omega

end StreamSync
