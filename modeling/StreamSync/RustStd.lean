import StreamSync.Lib.Words

namespace StreamSync

open LineText Words

inductive IoErrorKind where
  | wouldBlock | timedOut | other (name : String)
deriving DecidableEq, Repr

/-- `io::Error`, by its kind and its message. -/
structure IoError where
  kind : IoErrorKind
  message : String
deriving DecidableEq, Repr

/-- `usize::MAX` of a 64-bit target. -/
def usizeMax : Nat := 0xFFFFFFFFFFFFFFFF

/-- `isize::MAX`, above which `Vec::with_capacity` panics. -/
def isizeMax : Nat := 0x7FFFFFFFFFFFFFFF

/-- The characters `str::trim` takes away. -/
def isWhitespace (c : Char) : Bool :=
  (0x09 ≤ c.val && c.val ≤ 0x0D) || c.val = 0x20 || c.val = 0x85 || c.val = 0xA0 || c.val = 0x1680
    || (0x2000 ≤ c.val && c.val ≤ 0x200A) || c.val = 0x2028 || c.val = 0x2029 || c.val = 0x202F
    || c.val = 0x205F || c.val = 0x3000

def isBlank (text : String) : Bool := text.toList.all isWhitespace

/-- `char::is_control`. -/
def isControl (c : Char) : Bool := c.toNat < 0x20 || (0x7F ≤ c.toNat && c.toNat ≤ 0x9F)

def splitWhitespace (text : String) : List String := (words isWhitespace text.toList).map String.ofList

def trimText (text : String) : String := String.ofList (trim isWhitespace text.toList)

/-- `str::parse::<usize>`, for which a sign in front may be a plus. -/
def parseUsize (text : String) : Option Nat :=
  let digits := (stripPrefix ['+'] text.toList).getD text.toList
  if digits = [] ∨ ¬digits.all Char.isDigit then none
  else
    let value := Nat.ofDigitChars 10 digits 0
    if value < 18446744073709551616 then some value else none

/-- `str::parse` at an unsigned type: digits with an optional plus sign, below the bound. -/
def parseUnsigned (bound : Nat) (text : List Char) : Option Nat :=
  let digits := if text.head? = some '+' then text.tail else text
  if digits.isEmpty then none
  else digits.foldlM (fun n c =>
    let next := n * 10 + (c.toNat - '0'.toNat)
    if c.isDigit ∧ next < bound then some next else none) 0

/-- The bytes of a string, as Rust's `as_bytes` gives them. -/
def asBytes (value : String) : List UInt8 := value.toByteArray.data.toList

theorem length_asBytes_replicate (n : Nat) :
    (asBytes (String.ofList (List.replicate n 'a'))).length = n := by
  have hone : 'a'.utf8Size = 1 := rfl
  unfold asBytes
  rw [String.toByteArray_ofList]
  simp [List.utf8Encode, hone]

/-- `Vec::resize`. -/
def resized (bytes : List UInt8) (length : Nat) (value : UInt8) : List UInt8 :=
  bytes.take length ++ List.replicate (length - bytes.length) value

def checkedSub {ε : Type} (a b : UInt64) (error : ε) : Except ε UInt64 :=
  if b ≤ a then .ok (a - b) else .error error

theorem checkedSub_of_le {ε : Type} {a b : UInt64} {error : ε} (h : b ≤ a) :
    checkedSub a b error = .ok (a - b) := if_pos h

theorem checkedSub_of_lt {ε : Type} {a b : UInt64} {error : ε} (h : a < b) :
    checkedSub a b error = .error error := if_neg (UInt64.not_le.mpr h)

/-- `i64::try_from` of a wide integer. -/
def tryI64 (value : Int) : Option Int64 :=
  if -9223372036854775808 ≤ value ∧ value ≤ 9223372036854775807 then some (Int64.ofInt value) else none

/-- `u32::checked_mul`. -/
def checkedMul (a b : Nat) : Option Nat := if a * b < UInt32.size then some (a * b) else none

theorem checkedMul_eq_some {m n : Nat} (h : m * n < UInt32.size) : checkedMul m n = some (m * n) := if_pos h

theorem checkedMul_eq_none {m n : Nat} (h : UInt32.size ≤ m * n) : checkedMul m n = none :=
  if_neg (Nat.not_lt.mpr h)

theorem eq_of_checkedMul {m n product : Nat} (h : checkedMul m n = some product) : product = m * n := by
  unfold checkedMul at h
  split at h
  next => exact (Option.some.inj h).symm
  next => cases h

end StreamSync
