import Mathlib.Algebra.BigOperators.Group.List.Basic
import Mathlib.Data.List.Dedup
import Mathlib.Data.List.Induction
import Std.Data.ExtTreeMap
import StreamSync.Lib.Saturating

namespace KeyedTable

/-- An ordered map, compared by its contents alone. -/
abbrev Table (κ ν : Type) [Ord κ] := Std.ExtTreeMap κ ν compare

variable {κ ν : Type} [Ord κ] [Std.TransOrd κ] [Std.LawfulEqOrd κ] [DecidableEq κ]

theorem getElem?_insert_eq (t : Table κ ν) (k a : κ) (v : ν) :
    (t.insert k v)[a]? = if k = a then some v else t[a]? := by
  rw [Std.ExtTreeMap.getElem?_insert]
  simp only [Std.compare_eq_iff_eq]

theorem getElem?_erase_eq (t : Table κ ν) (k a : κ) :
    (t.erase k)[a]? = if k = a then none else t[a]? := by
  rw [Std.ExtTreeMap.getElem?_erase]
  simp only [Std.compare_eq_iff_eq]

omit [Std.LawfulEqOrd κ] [DecidableEq κ] in
@[simp] theorem getElem?_empty_eq (a : κ) : (∅ : Table κ ν)[a]? = none :=
  Std.ExtTreeMap.getElem?_empty

omit [Std.LawfulEqOrd κ] [DecidableEq κ] in
theorem values_eq_map_snd (t : Table κ ν) : t.values = t.toList.map Prod.snd := by
  obtain ⟨⟨inner⟩⟩ := t
  induction inner using Quotient.ind with
  | _ m =>
    show m.inner.values = (Std.DTreeMap.Internal.Impl.Const.toList m.inner).map Prod.snd
    rw [Std.DTreeMap.Internal.Impl.Const.toList_eq_toListModel_map, List.map_map]
    exact Std.DTreeMap.Internal.Impl.values_eq_map_snd

omit [Std.LawfulEqOrd κ] [DecidableEq κ] in
theorem nodup_toList (t : Table κ ν) : t.toList.Nodup := by
  have hkeys : (t.toList.map Prod.fst).Nodup := by
    rw [Std.ExtTreeMap.map_fst_toList_eq_keys]
    exact Std.ExtTreeMap.nodup_keys
  exact List.Pairwise.of_map Prod.fst (fun _ _ h heq => h (congrArg Prod.fst heq)) hkeys

end KeyedTable

namespace Tally

open KeyedTable Saturating

section Counter

/-- A saturating counter after `n` increments. -/
def counted (n : Nat) : UInt64 := if n < 18446744073709551616 then UInt64.ofNat n else 18446744073709551615

theorem toNat_counted (n : Nat) : (counted n).toNat = min n 18446744073709551615 := by
  unfold counted
  split
  next h =>
    rw [UInt64.toNat_ofNat_of_lt' h]
    omega
  next h =>
    have hmax : (18446744073709551615 : UInt64).toNat = 18446744073709551615 := rfl
    omega

theorem saturatingAdd_counted (n : Nat) : saturatingAdd (counted n) 1 = counted (n + 1) := by
  have hone : (1 : UInt64).toNat = 1 := rfl
  apply UInt64.toNat_inj.mp
  rw [toNat_saturatingAdd, toNat_counted, toNat_counted, hone]
  omega

/-- A bound that a counter can hold is reached by the counter when it is by the increments. -/
theorem le_counted {bound : UInt64} {n : Nat} : bound ≤ counted n ↔ bound.toNat ≤ n := by
  have hbound := bound.toNat_lt
  rw [UInt64.le_iff_toNat_le, toNat_counted]
  omega

end Counter

section Keys

variable {κ : Type} [Ord κ] [Std.TransOrd κ] [Std.LawfulEqOrd κ] [DecidableEq κ]

/-- One more for a key that may be new to the table. -/
def bump (counts : Table κ UInt64) (key : κ) : Table κ UInt64 :=
  counts.insert key (counts[key]?.getD 0 + 1)

def tally (keys : List κ) : Table κ UInt64 := keys.foldl bump ∅

omit [Std.LawfulEqOrd κ] [DecidableEq κ] in
theorem tally_concat (keys : List κ) (key : κ) : tally (keys ++ [key]) = bump (tally keys) key := by
  unfold tally
  rw [List.foldl_append]
  rfl

theorem getElem?_tally (keys : List κ) (key : κ) :
    (tally keys)[key]? = if key ∈ keys then some (UInt64.ofNat (keys.count key)) else none := by
  induction keys using List.reverseRecOn with
  | nil => exact getElem?_empty_eq key
  | append_singleton keys last ih =>
    rw [tally_concat, bump, getElem?_insert_eq]
    by_cases h : last = key
    · subst h
      have hcount : (keys ++ [last]).count last = keys.count last + 1 := by
        simp
      rw [if_pos rfl, if_pos (by simp), hcount, ih]
      by_cases hmem : last ∈ keys
      · rw [if_pos hmem, Option.getD_some, UInt64.ofNat_add]
        rfl
      · rw [if_neg hmem, Option.getD_none, List.count_eq_zero_of_not_mem hmem]
        rfl
    · have hcount : (keys ++ [last]).count key = keys.count key := by
        simp [h]
      have hmem : key ∈ keys ++ [last] ↔ key ∈ keys := by
        simp [Ne.symm h]
      rw [if_neg h, ih, hcount]
      exact if_congr hmem.symm rfl rfl

/-- The table has every key once, with the number of its occurrences. -/
theorem toList_tally (keys : List κ) :
    (tally keys).toList.Perm (keys.dedup.map fun key => (key, UInt64.ofNat (keys.count key))) := by
  have hfst : Function.Injective fun key => (key, UInt64.ofNat (keys.count key)) :=
    fun _ _ h => congrArg Prod.fst h
  refine (List.perm_ext_iff_of_nodup (nodup_toList (tally keys)) ((List.nodup_dedup keys).map hfst)).mpr ?_
  rintro ⟨key, count⟩
  rw [Std.ExtTreeMap.mem_toList_iff_getElem?_eq_some, getElem?_tally, List.mem_map]
  constructor
  · intro h
    split at h
    next hmem => exact ⟨key, List.mem_dedup.mpr hmem, by rw [← Option.some.inj h]⟩
    next => cases h
  · rintro ⟨found, hmem, heq⟩
    cases heq
    rw [if_pos (List.mem_dedup.mp hmem)]

/-- As many entries as there are different keys. -/
theorem size_tally (keys : List κ) : (tally keys).size = keys.dedup.length := by
  rw [← Std.ExtTreeMap.length_toList, (toList_tally keys).length_eq, List.length_map]

/-- The counts that meet a condition are as many as the different keys whose count meets it. -/
theorem length_filter_tally (keys : List κ) (meets : UInt64 → Bool) :
    ((tally keys).values.filter meets).length =
      (keys.dedup.filter fun key => meets (UInt64.ofNat (keys.count key))).length := by
  have hvalues := (toList_tally keys).map Prod.snd
  rw [List.map_map] at hvalues
  rw [values_eq_map_snd, (hvalues.filter meets).length_eq, List.filter_map, List.length_map]
  rfl

end Keys

section Total

variable {κ ν : Type} [Ord κ] [Std.TransOrd κ] [Std.LawfulEqOrd κ] [DecidableEq κ] (size : ν → Nat)

/-- The sizes of all values together. -/
def total (t : Table κ ν) : Nat := t.values.foldl (fun sum value => sum + size value) 0

theorem total_erase (t : Table κ ν) (key : κ) :
    total size (t.erase key) + (t[key]?.map size).getD 0 = total size t := by
  have hsum (t : Table κ ν) : total size t = (t.toList.map fun entry => size entry.2).sum := by
    rw [total, values_eq_map_snd, List.foldl_map, List.sum_eq_foldl, List.foldl_map]
  cases hfound : t[key]? with
  | none =>
    have hsame : t.erase key = t := by
      refine Std.ExtTreeMap.ext_getElem? fun other => ?_
      rw [getElem?_erase_eq]
      split
      next h => rw [← h, hfound]
      next => rfl
    rw [hsame]
    rfl
  | some value =>
    have hmem : (key, value) ∈ t.toList := Std.ExtTreeMap.mem_toList_iff_getElem?_eq_some.mpr hfound
    have hfresh : (key, value) ∉ (t.erase key).toList := by
      rw [Std.ExtTreeMap.mem_toList_iff_getElem?_eq_some, getElem?_erase_eq, if_pos rfl]
      simp
    have hperm : t.toList.Perm ((key, value) :: (t.erase key).toList) := by
      refine (List.perm_ext_iff_of_nodup (nodup_toList t)
        (List.nodup_cons.mpr ⟨hfresh, nodup_toList _⟩)).mpr ?_
      rintro ⟨other, found⟩
      rw [List.mem_cons, Std.ExtTreeMap.mem_toList_iff_getElem?_eq_some,
        Std.ExtTreeMap.mem_toList_iff_getElem?_eq_some, getElem?_erase_eq, Prod.mk.injEq]
      by_cases h : key = other
      · subst h
        rw [hfound, if_pos rfl]
        simp [eq_comm]
      · simp [h, Ne.symm h]
    rw [hsum, hsum, (hperm.map _).sum_eq, List.map_cons, List.sum_cons, Nat.add_comm]
    rfl

/-- Two tables that differ at one key at most differ in total by what they have there. -/
theorem total_of_agree {t t' : Table κ ν} {key : κ} (h : ∀ other, key ≠ other → t'[other]? = t[other]?) :
    total size t' + (t[key]?.map size).getD 0 = total size t + (t'[key]?.map size).getD 0 := by
  have hrest : t'.erase key = t.erase key := by
    refine Std.ExtTreeMap.ext_getElem? fun other => ?_
    rw [getElem?_erase_eq, getElem?_erase_eq]
    split
    next => rfl
    next hne => exact h other hne
  have hbefore := total_erase size t key
  have hafter := total_erase size t' key
  rw [hrest] at hafter
  omega

end Total

end Tally
