import Mathlib.Data.Nat.Basic

namespace Saturating

def saturatingAdd (a b : UInt64) : UInt64 :=
  if a.toNat + b.toNat < 18446744073709551616 then a + b else 18446744073709551615

def saturatingAdd32 (a b : UInt32) : UInt32 :=
  if a.toNat + b.toNat < 4294967296 then a + b else 4294967295

def saturatingMul32 (a b : UInt32) : UInt32 :=
  if a.toNat * b.toNat < 4294967296 then a * b else 4294967295

def saturatingSub (a b : UInt64) : UInt64 := if b ≤ a then a - b else 0

theorem toNat_saturatingSub (a b : UInt64) : (saturatingSub a b).toNat = a.toNat - b.toNat := by
  unfold saturatingSub
  split
  next h => exact UInt64.toNat_sub_of_le a b h
  next h =>
    rw [UInt64.le_iff_toNat_le] at h
    simp only [UInt64.toNat_zero]
    omega

theorem toNat_saturatingAdd (a b : UInt64) :
    (saturatingAdd a b).toNat = min (a.toNat + b.toNat) 18446744073709551615 := by
  unfold saturatingAdd
  split
  next h =>
    have hsum : (a + b).toNat = a.toNat + b.toNat := by
      rw [UInt64.toNat_add, Nat.mod_eq_of_lt h]
    omega
  next h =>
    have hmax : (18446744073709551615 : UInt64).toNat = 18446744073709551615 := rfl
    omega

theorem toNat_saturatingMul32 (a b : UInt32) :
    (saturatingMul32 a b).toNat = min (a.toNat * b.toNat) 4294967295 := by
  unfold saturatingMul32
  split
  next h =>
    have hproduct : (a * b).toNat = a.toNat * b.toNat := by
      rw [UInt32.toNat_mul, Nat.mod_eq_of_lt h]
    omega
  next h =>
    have hmax : (4294967295 : UInt32).toNat = 4294967295 := rfl
    omega

end Saturating
