import Mathlib.Tactic.Ring
import Mathlib.Data.Nat.Notation

namespace LittleEndian

/-- The `w` little-endian bytes of `n`. -/
def leBytes : Nat → Nat → List UInt8
  | 0, _ => []
  | w + 1, n => UInt8.ofNat n :: leBytes w (n / 256)

/-- The number whose little-endian bytes are `bs`. -/
def leNat : List UInt8 → Nat
  | [] => 0
  | b :: bs => b.toNat + 256 * leNat bs

@[simp] theorem length_leBytes (w n : Nat) : (leBytes w n).length = w := by
  induction w generalizing n with
  | zero => rfl
  | succ w ih => simp [leBytes, ih]

theorem leNat_lt (bs : List UInt8) : leNat bs < 256 ^ bs.length := by
  induction bs with
  | nil => simp [leNat]
  | cons b bs ih =>
    have hb := b.toNat_lt
    simp only [leNat, List.length_cons, Nat.pow_succ]
    omega

theorem leNat_leBytes {w n : Nat} (h : n < 256 ^ w) : leNat (leBytes w n) = n := by
  induction w generalizing n with
  | zero => simpa [leBytes, leNat] using (Nat.lt_one_iff.mp h).symm
  | succ w ih =>
    have hq : n / 256 < 256 ^ w := by
      rw [Nat.pow_succ] at h
      omega
    simp only [leBytes, leNat, ih hq, UInt8.toNat_ofNat']
    omega

theorem leBytes_leNat (bs : List UInt8) : leBytes bs.length (leNat bs) = bs := by
  induction bs with
  | nil => rfl
  | cons b bs ih =>
    have hb := b.toNat_lt
    have hq : leNat (b :: bs) / 256 = leNat bs := by
      simp only [leNat]
      omega
    have hr : UInt8.ofNat (leNat (b :: bs)) = b := by
      apply UInt8.toNat_inj.mp
      simp only [leNat, UInt8.toNat_ofNat']
      omega
    simp only [List.length_cons, leBytes, hq, hr, ih]

theorem leBytes_eq_iff {w n : Nat} {bs : List UInt8} (h : n < 256 ^ w) :
    leBytes w n = bs ↔ bs.length = w ∧ leNat bs = n := by
  constructor
  · rintro rfl
    exact ⟨length_leBytes w n, leNat_leBytes h⟩
  · rintro ⟨rfl, rfl⟩
    exact leBytes_leNat bs

end LittleEndian
