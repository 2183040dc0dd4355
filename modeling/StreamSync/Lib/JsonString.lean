import Mathlib.Data.List.Basic

namespace JsonString

/-- What a character or an escape of a string literal stands for. -/
inductive Item where
  | char (c : Char)
  | codeUnit (n : Nat)
deriving DecidableEq, Repr

def hexValue (c : Char) : Option Nat :=
  if '0' ≤ c ∧ c ≤ '9' then some (c.toNat - '0'.toNat)
  else if 'a' ≤ c ∧ c ≤ 'f' then some (c.toNat - 'a'.toNat + 10)
  else if 'A' ≤ c ∧ c ≤ 'F' then some (c.toNat - 'A'.toNat + 10)
  else none

def hexFour (a b c d : Char) : Option Nat := do
  let a ← hexValue a
  let b ← hexValue b
  let c ← hexValue c
  let d ← hexValue d
  pure (((a * 16 + b) * 16 + c) * 16 + d)

def namedEscape : Char → Option Char
  | '"' => some '"'
  | '\\' => some '\\'
  | '/' => some '/'
  | 'b' => some '\x08'
  | 'f' => some '\x0c'
  | 'n' => some '\n'
  | 'r' => some '\r'
  | 't' => some '\t'
  | _ => none

/-- The items of a literal after its opening quote, and what follows the closing one. -/
def items : List Char → Option (List Item × List Char)
  | [] => none
  | '"' :: rest => some ([], rest)
  | '\\' :: 'u' :: a :: b :: c :: d :: rest =>
    (hexFour a b c d).bind fun n => (items rest).map fun (more, after) => (.codeUnit n :: more, after)
  | '\\' :: e :: rest =>
    (namedEscape e).bind fun c => (items rest).map fun (more, after) => (.char c :: more, after)
  | c :: rest =>
    if c = '\\' ∨ c.toNat < 0x20 then none
    else (items rest).map fun (more, after) => (.char c :: more, after)

def isHighSurrogate (n : Nat) : Bool := 0xD800 ≤ n ∧ n ≤ 0xDBFF

def isLowSurrogate (n : Nat) : Bool := 0xDC00 ≤ n ∧ n ≤ 0xDFFF

/-- The characters of some items; surrogates count in pairs only. -/
def join : List Item → Option (List Char)
  | [] => some []
  | .char c :: rest => (join rest).map (c :: ·)
  | .codeUnit n :: rest =>
    if isHighSurrogate n then
      match rest with
      | .codeUnit low :: rest =>
        if isLowSurrogate low then
          (join rest).map (Char.ofNat (0x10000 + (n - 0xD800) * 0x400 + (low - 0xDC00)) :: ·)
        else none
      | _ => none
    else if isLowSurrogate n then none
    else (join rest).map (Char.ofNat n :: ·)

/-- A string literal of RFC 8259 at the start of a text, and what follows it. -/
def readLiteral : List Char → Option (List Char × List Char)
  | '"' :: rest => (items rest).bind fun (is, after) => (join is).map fun cs => (cs, after)
  | _ => none

theorem items_named {e c : Char} (h : namedEscape e = some c) (rest : List Char) :
    items ('\\' :: e :: rest) = (items rest).map fun (more, after) => (.char c :: more, after) := by
  have hu : e ≠ 'u' := by
    rintro rfl
    cases h
  rw [items.eq_def]
  split
  next heq => cases heq
  next heq => cases heq
  next heq =>
    cases heq
    exact absurd rfl hu
  next heq =>
    cases heq
    rw [h, Option.bind_some]
  next hnot heq =>
    cases heq
    exact absurd rfl (hnot _ _ rfl)

theorem items_codeUnit {a b c d : Char} {n : Nat} (h : hexFour a b c d = some n) (rest : List Char) :
    items ('\\' :: 'u' :: a :: b :: c :: d :: rest) =
      (items rest).map fun (more, after) => (.codeUnit n :: more, after) := by
  rw [items, h, Option.bind_some]

theorem items_char {c : Char} (hquote : c ≠ '"') (hslash : c ≠ '\\') (hplain : 0x20 ≤ c.toNat)
    (rest : List Char) : items (c :: rest) = (items rest).map fun (more, after) => (.char c :: more, after) := by
  rw [items.eq_def]
  split
  next heq => cases heq
  next heq =>
    cases heq
    exact absurd rfl hquote
  next heq =>
    cases heq
    exact absurd rfl hslash
  next heq =>
    cases heq
    exact absurd rfl hslash
  next heq =>
    cases heq
    refine if_neg ?_
    rintro (h | h)
    · exact hslash h
    · omega

theorem join_codeUnit {n : Nat} (h : n < 0xD800) (rest : List Item) :
    join (.codeUnit n :: rest) = (join rest).map (Char.ofNat n :: ·) := by
  have hhigh : isHighSurrogate n = false := decide_eq_false (by omega)
  have hlow : isLowSurrogate n = false := decide_eq_false (by omega)
  rw [join.eq_def]
  dsimp only
  rw [hhigh, hlow]
  rfl

/-- What stands for a character in a literal: read, it gives one item, and that item the character. -/
def Spells (spelling : List Char) (c : Char) : Prop :=
  ∃ item, (∀ rest, items (spelling ++ rest) = (items rest).map fun (more, after) => (item :: more, after)) ∧
    ∀ more, join (item :: more) = (join more).map (c :: ·)

theorem spells_named {e c : Char} (h : namedEscape e = some c) : Spells ['\\', e] c :=
  ⟨.char c, items_named h, fun _ => rfl⟩

theorem spells_codeUnit {a b c d : Char} {n : Nat} (h : hexFour a b c d = some n) (hn : n < 0xD800) :
    Spells ['\\', 'u', a, b, c, d] (Char.ofNat n) :=
  ⟨.codeUnit n, items_codeUnit h, join_codeUnit hn⟩

theorem spells_self {c : Char} (hquote : c ≠ '"') (hslash : c ≠ '\\') (hplain : 0x20 ≤ c.toNat) :
    Spells [c] c :=
  ⟨.char c, items_char hquote hslash hplain, fun _ => rfl⟩

/-- A writer that spells every character writes a literal that reads back, whatever follows it. -/
theorem readLiteral_of_spells {escape : Char → List Char} (h : ∀ c, Spells (escape c) c)
    (value rest : List Char) :
    readLiteral ('"' :: (value.flatMap escape ++ '"' :: rest)) = some (value, rest) := by
  have hitems : ∃ is, items (value.flatMap escape ++ '"' :: rest) = some (is, rest) ∧
      join is = some value := by
    induction value with
    | nil => exact ⟨[], rfl, rfl⟩
    | cons c value ih =>
      obtain ⟨is, his, hjoin⟩ := ih
      obtain ⟨item, hitem, hc⟩ := h c
      refine ⟨item :: is, ?_, ?_⟩
      · rw [List.flatMap_cons, List.append_assoc, hitem, his]
        rfl
      · rw [hc, hjoin]
        rfl
  obtain ⟨is, his, hjoin⟩ := hitems
  show (items (value.flatMap escape ++ '"' :: rest)).bind _ = _
  rw [his, Option.bind_some]
  dsimp only
  rw [hjoin]
  rfl

end JsonString
