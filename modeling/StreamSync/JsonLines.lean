import StreamSync.Lib.JsonString
import StreamSync.Lib.LineText
import StreamSync.RustStd

namespace StreamSync

open JsonString LineText

/-- `{:04x}`. -/
def paddedHex (n : Nat) : List Char :=
  List.replicate (4 - (Nat.toDigits 16 n).length) '0' ++ Nat.toDigits 16 n

/-- What `write_json_string` writes for one character. -/
def writeJsonChar (c : Char) : List Char :=
  if c = '"' then ['\\', '"']
  else if c = '\\' then ['\\', '\\']
  else if c = '\n' then ['\\', 'n']
  else if c = '\r' then ['\\', 'r']
  else if c = '\t' then ['\\', 't']
  else if isControl c then '\\' :: 'u' :: paddedHex c.toNat
  else [c]

def writeJsonString (value : String) : List Char := '"' :: (value.toList.flatMap writeJsonChar ++ ['"'])

theorem hexFour_paddedHex : ∀ n < 160, ∃ a b c d, paddedHex n = [a, b, c, d] ∧ hexFour a b c d = some n := by
  have h : ∀ n < 160, (paddedHex n).length = 4 ∧
      hexFour ((paddedHex n).getD 0 '0') ((paddedHex n).getD 1 '0') ((paddedHex n).getD 2 '0')
        ((paddedHex n).getD 3 '0') = some n := by
    decide +kernel
  intro n hn
  obtain ⟨hlength, hhex⟩ := h n hn
  obtain ⟨a, b, c, d, hdigits⟩ := List.length_eq_four.mp hlength
  rw [hdigits] at hhex
  exact ⟨a, b, c, d, hdigits, hhex⟩

theorem toNat_lt_of_isControl {c : Char} (h : isControl c = true) : c.toNat < 160 := by
  unfold isControl at h
  simp only [Bool.or_eq_true, Bool.and_eq_true, decide_eq_true_eq] at h
  omega

theorem spells_writeJsonChar (c : Char) : Spells (writeJsonChar c) c := by
  fun_cases writeJsonChar c with
  | case1 h => subst h; exact spells_named rfl
  | case2 _ h => subst h; exact spells_named rfl
  | case3 _ _ h => subst h; exact spells_named rfl
  | case4 _ _ _ h => subst h; exact spells_named rfl
  | case5 _ _ _ _ h => subst h; exact spells_named rfl
  | case6 hquote hslash _ _ _ hcontrol =>
    have hlt := toNat_lt_of_isControl hcontrol
    obtain ⟨a, b, d, e, hdigits, hhex⟩ := hexFour_paddedHex c.toNat hlt
    have hspells := spells_codeUnit hhex (by omega)
    rwa [Char.ofNat_toNat, ← hdigits] at hspells
  | case7 hquote hslash _ _ _ hcontrol =>
    refine spells_self hquote hslash ?_
    unfold isControl at hcontrol
    simp only [Bool.or_eq_true, decide_eq_true_eq, not_or] at hcontrol
    omega

theorem readLiteral_writeJsonString (value : String) (rest : List Char) :
    readLiteral (writeJsonString value ++ rest) = some (value.toList, rest) := by
  unfold writeJsonString
  rw [List.cons_append, List.append_assoc]
  exact readLiteral_of_spells spells_writeJsonChar value.toList rest

/-- The text has no raw control character. -/
def Printable (text : List Char) : Prop := ∀ c ∈ text, isControl c = false

instance (text : List Char) : Decidable (Printable text) :=
  List.decidableBAll (fun c => isControl c = false) text

theorem printable_append {a b : List Char} (ha : Printable a) (hb : Printable b) : Printable (a ++ b) := by
  intro c hc
  rcases List.mem_append.mp hc with h | h
  · exact ha c h
  · exact hb c h

theorem printable_cons {c : Char} {text : List Char} (hc : isControl c = false) (h : Printable text) :
    Printable (c :: text) := by
  intro d hd
  rcases List.mem_cons.mp hd with rfl | hd
  · exact hc
  · exact h d hd

theorem printable_paddedHex : ∀ n < 160, Printable (paddedHex n) := by decide +kernel

theorem printable_writeJsonChar (c : Char) : Printable (writeJsonChar c) := by
  unfold writeJsonChar
  by_cases hcontrol : isControl c = true
  · have hdigits := printable_paddedHex c.toNat (toNat_lt_of_isControl hcontrol)
    have hescape : Printable ('\\' :: 'u' :: paddedHex c.toNat) :=
      printable_cons (by decide) (printable_cons (by decide) hdigits)
    rw [if_pos hcontrol]
    repeat' split
    all_goals first | exact hescape | decide
  · have hself : Printable [c] := by
      intro d hd
      cases List.mem_singleton.mp hd
      exact Bool.eq_false_iff.mpr hcontrol
    rw [if_neg hcontrol]
    repeat' split
    all_goals first | exact hself | decide

theorem printable_writeJsonString (value : String) : Printable (writeJsonString value) := by
  refine printable_cons (by decide) (printable_append ?_ (by decide))
  intro d hd
  obtain ⟨c, -, hc⟩ := List.mem_flatMap.mp hd
  exact printable_writeJsonChar c d hc

/-- A key as a writer spells it out, unescaped. -/
structure LogKey where
  text : String
  printable : Printable text.toList := by decide

def writeJsonKey (key : LogKey) : List Char := '"' :: (key.text.toList ++ ['"', ':'])

def writeJsonField (key : LogKey) (value : String) : List Char := writeJsonKey key ++ writeJsonString value

def writeOptionalJsonField (key : LogKey) (value : Option String) : List Char :=
  writeJsonKey key ++
    match value with
    | some value => writeJsonString value
    | none => "null".toList

def decimal : Int → List Char
  | .ofNat n => Nat.toDigits 10 n
  | .negSucc n => '-' :: Nat.toDigits 10 (n + 1)

/-- The kinds of field that the writers put into a record. -/
inductive LogField where
  | text (key : LogKey) (value : String)
  | optionalText (key : LogKey) (value : Option String)
  | number (key : LogKey) (value : Int)
  | optionalNumber (key : LogKey) (value : Option Nat)
  | flag (key : LogKey) (value : Bool)
  | detail (key : LogKey) (fields : List (LogKey × String))

def commaSeparated : List (List Char) → List Char
  | [] => []
  | [text] => text
  | text :: rest => text ++ ',' :: commaSeparated rest

def inBraces (fields : List (List Char)) : List Char := '{' :: (commaSeparated fields ++ ['}'])

def LogField.write : LogField → List Char
  | .text key value => writeJsonField key value
  | .optionalText key value => writeOptionalJsonField key value
  | .number key value => writeJsonKey key ++ decimal value
  | .optionalNumber key value =>
    writeJsonKey key ++
      match value with
      | some n => Nat.toDigits 10 n
      | none => "null".toList
  | .flag key value => writeJsonKey key ++ (if value then "true".toList else "false".toList)
  | .detail key fields => writeJsonKey key ++ inBraces (fields.map fun (key, value) => writeJsonField key value)

def recordText (fields : List LogField) : List Char := inBraces (fields.map LogField.write)

/-- What a writer adds to the log: one record, and the line feed of `writeln!`. -/
def writeRecord (fields : List LogField) : List Char := recordText fields ++ ['\n']

theorem printable_toDigits (n : Nat) : Printable (Nat.toDigits 10 n) := by
  intro c hc
  have hdigit := Nat.isDigit_of_mem_toDigits (by decide) (by decide) hc
  simp only [Char.isDigit, Bool.and_eq_true, decide_eq_true_eq, ge_iff_le, UInt32.le_iff_toNat_le] at hdigit
  have hlow : 48 ≤ c.toNat := hdigit.1
  have hhigh : c.toNat ≤ 57 := hdigit.2
  unfold isControl
  simp only [Bool.or_eq_false_iff, Bool.and_eq_false_iff, decide_eq_false_iff_not]
  omega

theorem printable_decimal (n : Int) : Printable (decimal n) := by
  cases n with
  | ofNat n => exact printable_toDigits n
  | negSucc n => exact printable_cons (by decide) (printable_toDigits _)

theorem printable_writeJsonKey (key : LogKey) : Printable (writeJsonKey key) :=
  printable_cons (by decide) (printable_append key.printable (by decide))

theorem printable_writeJsonField (key : LogKey) (value : String) : Printable (writeJsonField key value) :=
  printable_append (printable_writeJsonKey key) (printable_writeJsonString value)

theorem printable_inBraces {fields : List (List Char)} (h : ∀ text ∈ fields, Printable text) :
    Printable (inBraces fields) := by
  have hjoined : Printable (commaSeparated fields) := by
    induction fields with
    | nil => decide
    | cons text rest ih =>
      have htext := h text (by simp)
      cases rest with
      | nil => exact htext
      | cons next rest =>
        have hrest := ih fun other hother => h other (List.mem_cons_of_mem _ hother)
        exact printable_append htext (printable_cons (by decide) hrest)
  exact printable_cons (by decide) (printable_append hjoined (by decide))

theorem printable_write (field : LogField) : Printable field.write := by
  cases field with
  | text key value => exact printable_writeJsonField key value
  | optionalText key value =>
    refine printable_append (printable_writeJsonKey key) ?_
    cases value with
    | some value => exact printable_writeJsonString value
    | none => decide
  | number key value => exact printable_append (printable_writeJsonKey key) (printable_decimal value)
  | optionalNumber key value =>
    refine printable_append (printable_writeJsonKey key) ?_
    cases value with
    | some n => exact printable_toDigits n
    | none => decide
  | flag key value =>
    refine printable_append (printable_writeJsonKey key) ?_
    cases value <;> decide
  | detail key fields =>
    refine printable_append (printable_writeJsonKey key) (printable_inBraces fun text htext => ?_)
    obtain ⟨⟨key, value⟩, -, rfl⟩ := List.mem_map.mp htext
    exact printable_writeJsonField key value

theorem printable_recordText (fields : List LogField) : Printable (recordText fields) := by
  refine printable_inBraces fun text htext => ?_
  obtain ⟨field, -, rfl⟩ := List.mem_map.mp htext
  exact printable_write field

/-- A log is read back line by line as the records that were written. -/
theorem lines_writeRecords (records : List (List LogField)) :
    lines (records.flatMap writeRecord) = records.map recordText := by
  induction records with
  | nil => rfl
  | cons fields records ih =>
    have hprintable := printable_recordText fields
    have hlf : '\n' ∉ recordText fields := fun h => absurd (hprintable _ h) (by decide)
    have hcr : (recordText fields).getLast? ≠ some '\r' := fun h =>
      absurd (hprintable _ (List.mem_of_getLast? h)) (by decide)
    rw [List.flatMap_cons, List.map_cons, ← ih]
    unfold writeRecord
    rw [List.append_assoc, List.singleton_append]
    exact lines_line_append hlf hcr _

end StreamSync
