import Mathlib.Data.List.Basic

namespace TextSlices

/-- The length of a text in UTF-8. -/
def byteLen : List Char → Nat
  | [] => 0
  | c :: text => c.utf8Size + byteLen text

/-- `str::eq_ignore_ascii_case` -/
def eqIgnoreAsciiCase (a b : List Char) : Bool := a.map Char.toLower = b.map Char.toLower

/-- A text in two at a byte offset. Within a character and behind the end there is no such place, and a
slice that starts or ends there panics. -/
def cutAt : List Char → Nat → Option (List Char × List Char)
  | [], offset => if offset = 0 then some ([], []) else none
  | c :: text, offset =>
    if offset = 0 then some ([], c :: text)
    else if offset < c.utf8Size then none
    else (cutAt text (offset - c.utf8Size)).map fun (front, back) => (c :: front, back)

@[simp] theorem byteLen_nil : byteLen [] = 0 := rfl

@[simp] theorem byteLen_cons (c : Char) (text : List Char) : byteLen (c :: text) = c.utf8Size + byteLen text := rfl

theorem byteLen_append (front back : List Char) : byteLen (front ++ back) = byteLen front + byteLen back := by
  induction front with
  | nil => simp
  | cons c front ih => rw [List.cons_append, byteLen_cons, byteLen_cons, ih, Nat.add_assoc]

theorem byteLen_eq_zero_iff {text : List Char} : byteLen text = 0 ↔ text = [] := by
  cases text with
  | nil => simp
  | cons c text =>
    have hpos := c.utf8Size_pos
    simp only [byteLen_cons, reduceCtorEq, iff_false]
    omega

theorem eqIgnoreAsciiCase_self (a : List Char) : eqIgnoreAsciiCase a a = true := decide_eq_true rfl

/-- What `Char.toLower` does to a letter of ASCII, the only characters that it changes. -/
theorem toLower_cases (c : Char) :
    c.toLower = c ∨ (65 ≤ c.val.toNat ∧ c.val.toNat ≤ 90 ∧ c.toLower.val.toNat = c.val.toNat + 32) := by
  unfold Char.toLower
  split
  next hupper =>
    have hlow : c.val.toNat ≤ 90 := hupper.2
    refine Or.inr ⟨hupper.1, hlow, ?_⟩
    have hadd : (c.val + ('a'.val - 'A'.val)).toNat = c.val.toNat + 32 := by
      rw [UInt32.toNat_add]
      exact Nat.mod_eq_of_lt (Nat.lt_of_le_of_lt (Nat.add_le_add_right hlow 32) (by decide))
    exact hadd
  next => exact Or.inl rfl

theorem toLower_utf8Size (c : Char) : c.toLower.utf8Size = c.utf8Size := by
  rcases toLower_cases c with hsame | ⟨-, hlow, hlower⟩
  · rw [hsame]
  · have hsmall : c.val ≤ 127 := UInt32.le_iff_toNat_le.mpr (Nat.le_trans hlow (by decide))
    have hsum : c.toLower.val ≤ 127 := by
      rw [UInt32.le_iff_toNat_le, hlower]
      exact Nat.add_le_add_right (Nat.le_trans hlow (by decide)) 32
    rw [Char.utf8Size_eq_one_iff.mpr hsum, Char.utf8Size_eq_one_iff.mpr hsmall]

theorem byteLen_eq_of_eqIgnoreAsciiCase {a b : List Char} (h : eqIgnoreAsciiCase a b = true) :
    byteLen a = byteLen b := by
  have hfold (text : List Char) : byteLen (text.map Char.toLower) = byteLen text := by
    induction text with
    | nil => rfl
    | cons c text ih => rw [List.map_cons, byteLen_cons, byteLen_cons, ih, toLower_utf8Size]
  rw [← hfold a, ← hfold b, of_decide_eq_true h]

theorem cutAt_append (front back : List Char) : cutAt (front ++ back) (byteLen front) = some (front, back) := by
  induction front with
  | nil => cases back <;> rfl
  | cons c front ih =>
    have hpos := c.utf8Size_pos
    rw [List.cons_append, byteLen_cons, cutAt, if_neg (by omega), if_neg (by omega), Nat.add_sub_cancel_left, ih]
    rfl

theorem cutAt_eq_some_iff {text front back : List Char} {offset : Nat} :
    cutAt text offset = some (front, back) ↔ text = front ++ back ∧ byteLen front = offset := by
  constructor
  · intro h
    induction text generalizing offset front with
    | nil =>
      rw [cutAt] at h
      split at h
      next hoffset =>
        cases h
        exact ⟨rfl, hoffset.symm⟩
      next => cases h
    | cons c text ih =>
      rw [cutAt] at h
      split at h
      next hoffset =>
        cases h
        exact ⟨rfl, hoffset.symm⟩
      next =>
        split at h
        next => cases h
        next hsize =>
          obtain ⟨⟨rest, _⟩, hrest, heq⟩ := Option.map_eq_some_iff.mp h
          cases heq
          obtain ⟨rfl, hlen⟩ := ih hrest
          refine ⟨rfl, ?_⟩
          rw [byteLen_cons]
          omega
  · rintro ⟨rfl, rfl⟩
    exact cutAt_append front back

theorem utf8ByteSize_eq (text : String) : text.utf8ByteSize = byteLen text.toList := by
  obtain ⟨chars, rfl⟩ := text.exists_eq_ofList
  rw [String.toList_ofList]
  induction chars with
  | nil => rfl
  | cons c chars ih =>
    rw [← List.singleton_append, String.ofList_append, String.utf8ByteSize_append, ih, byteLen_append,
      ← String.singleton_eq_ofList, String.utf8ByteSize_singleton]
    rfl

theorem isEmpty_text_iff {text : String} : text.isEmpty = true ↔ text.toList = [] := by
  rw [String.isEmpty, beq_iff_eq, utf8ByteSize_eq, byteLen_eq_zero_iff]

/-- The places where a text can be cut are the valid positions of the string. -/
theorem isSome_cutAt_iff {text : String} {offset : Nat} :
    (cutAt text.toList offset).isSome ↔ String.Pos.Raw.IsValid text ⟨offset⟩ := by
  rw [String.Pos.Raw.isValid_iff_exists_append, Option.isSome_iff_exists]
  constructor
  · rintro ⟨⟨front, back⟩, h⟩
    obtain ⟨htext, hlen⟩ := cutAt_eq_some_iff.mp h
    refine ⟨String.ofList front, String.ofList back, ?_, ?_⟩
    · rw [← String.ofList_append, ← htext, String.ofList_toList]
    · rw [String.Pos.Raw.ext_iff, String.byteIdx_rawEndPos, utf8ByteSize_eq, String.toList_ofList, hlen]
  · rintro ⟨front, back, rfl, hend⟩
    refine ⟨(front.toList, back.toList), cutAt_eq_some_iff.mpr ⟨String.toList_append, ?_⟩⟩
    rw [← utf8ByteSize_eq, ← String.byteIdx_rawEndPos, ← hend]

end TextSlices
