import Mathlib.Data.List.Induction
import Mathlib.Tactic.Ring

namespace ExpGolomb

/-- The number that bits stand for, the highest bit first. -/
def bitsValue (bits : List Bool) : Nat := bits.foldl (fun value bit => 2 * value + bit.toNat) 0

/-- The lowest bits of a number, the highest of them first. -/
def lowBits : Nat → Nat → List Bool
  | 0, _ => []
  | k + 1, n => lowBits k (n / 2) ++ [decide (n % 2 = 1)]

theorem bitsValue_concat (bits : List Bool) (bit : Bool) :
    bitsValue (bits ++ [bit]) = 2 * bitsValue bits + bit.toNat := by
  rw [bitsValue, List.foldl_append]
  rfl

@[simp] theorem length_lowBits (k n : Nat) : (lowBits k n).length = k := by
  induction k generalizing n with
  | zero => rfl
  | succ k ih => rw [lowBits, List.length_append, ih, List.length_singleton]

theorem bitsValue_lowBits {k n : Nat} (h : n < 2 ^ k) : bitsValue (lowBits k n) = n := by
  induction k generalizing n with
  | zero => simp at h; subst h; rfl
  | succ k ih =>
    have hhalf : n / 2 < 2 ^ k := by
      rw [pow_succ] at h
      omega
    rw [lowBits, bitsValue_concat, ih hhalf]
    rcases Nat.mod_two_eq_zero_or_one n with hbit | hbit <;> simp [hbit] <;> omega

theorem bitsValue_lt (bits : List Bool) : bitsValue bits < 2 ^ bits.length := by
  induction bits using List.reverseRecOn with
  | nil => simp [bitsValue]
  | append_singleton bits bit ih =>
    rw [bitsValue_concat, List.length_append, List.length_singleton, pow_succ]
    have hbit := Bool.toNat_le bit
    omega

/-- The bits start with `k` zeros, a one and the `k` bits of the suffix. -/
structure StartsWith (bits : List Bool) (k : Nat) (suffix more : List Bool) : Prop where
  bits_eq : bits = List.replicate k false ++ true :: (suffix ++ more)
  length_suffix : suffix.length = k

def leadingZeros (bits : List Bool) : Nat := (bits.takeWhile (· = false)).length

variable {bits : List Bool}

theorem StartsWith.leadingZeros {k : Nat} {suffix more : List Bool} (h : StartsWith bits k suffix more) :
    leadingZeros bits = k ∧ bits.drop k = true :: (suffix ++ more) := by
  have hzeros : (List.replicate k false).length = k := List.length_replicate
  rw [ExpGolomb.leadingZeros, h.bits_eq]
  constructor
  · rw [List.takeWhile_append_of_pos (by simp)]
    simp
  · exact List.drop_left' hzeros

/-- Behind the zeros that are counted comes a one, or the end. -/
theorem eq_zeros_of_drop {bit : Bool} {rest : List Bool} (h : bits.drop (leadingZeros bits) = bit :: rest) :
    bits = List.replicate (leadingZeros bits) false ++ true :: rest := by
  induction bits with
  | nil => simp at h
  | cons head bits ih =>
    cases head with
    | true =>
      have hzero : leadingZeros (true :: bits) = 0 := by simp [leadingZeros]
      rw [hzero, List.drop_zero] at h
      obtain ⟨-, rfl⟩ := List.cons.inj h
      rw [hzero]
      rfl
    | false =>
      have hsucc : leadingZeros (false :: bits) = leadingZeros bits + 1 := by simp [leadingZeros]
      rw [hsucc, List.drop_succ_cons] at h
      conv_lhs => rw [ih h]
      rw [hsucc, List.replicate_succ]
      rfl

theorem startsWith_of_drop {bit : Bool} {rest : List Bool} (h : bits.drop (leadingZeros bits) = bit :: rest)
    (hlen : leadingZeros bits ≤ rest.length) :
    StartsWith bits (leadingZeros bits) (rest.take (leadingZeros bits)) (rest.drop (leadingZeros bits)) := by
  refine ⟨?_, List.length_take_of_le hlen⟩
  rw [List.take_append_drop]
  exact eq_zeros_of_drop h

/-- The codeword of a number: as many zeros as its successor has bits behind the first, then that. -/
def codeword (v : Nat) : List Bool :=
  List.replicate (v + 1).log2 false ++ true :: lowBits (v + 1).log2 (v + 1 - 2 ^ (v + 1).log2)

theorem startsWith_codeword (v : Nat) (more : List Bool) :
    StartsWith (codeword v ++ more) (v + 1).log2 (lowBits (v + 1).log2 (v + 1 - 2 ^ (v + 1).log2)) more := by
  refine ⟨?_, length_lowBits _ _⟩
  rw [codeword, List.append_assoc]
  rfl

theorem codeword_value (v : Nat) :
    2 ^ (v + 1).log2 - 1 + bitsValue (lowBits (v + 1).log2 (v + 1 - 2 ^ (v + 1).log2)) = v := by
  have hle : 2 ^ (v + 1).log2 ≤ v + 1 := Nat.log2_self_le (Nat.succ_ne_zero v)
  have hlt : v + 1 < 2 ^ ((v + 1).log2 + 1) := Nat.lt_log2_self
  have hpos : 0 < 2 ^ (v + 1).log2 := Nat.two_pow_pos _
  rw [pow_succ] at hlt
  rw [bitsValue_lowBits (by omega)]
  omega

end ExpGolomb
