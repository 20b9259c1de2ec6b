namespace GpuControl.Text

/-- Why a text is not a number of the wanted range. -/
inductive NumeralError where
  | empty
  | invalidDigit
  | tooLarge
  | tooSmall
deriving DecidableEq, Repr

def NumeralError.message : NumeralError → String
  | .empty => "cannot parse integer from empty string"
  | .invalidDigit => "invalid digit found in string"
  | .tooLarge => "number too large to fit in target type"
  | .tooSmall => "number too small to fit in target type"

/-- The value of a digit or letter, in either case, if it is below `radix`. -/
def digitValue? (radix : Nat) (c : Char) : Option Nat :=
  let value? :=
    if c.isDigit then some (c.toNat - '0'.toNat)
    else if 'a' ≤ c ∧ c ≤ 'z' then some (c.toNat - 'a'.toNat + 10)
    else if 'A' ≤ c ∧ c ≤ 'Z' then some (c.toNat - 'A'.toNat + 10)
    else none
  value?.filter (· < radix)

/-- Appends the digits `cs` to the number `value` and stops with `overflow` at the first digit that
takes it past `largest`. Of two faults the first is reported, and on one character not being a digit
wins over being too large. -/
def readDigits (radix largest : Nat) (overflow : NumeralError) :
    Nat → List Char → Except NumeralError Nat
  | value, [] => .ok value
  | value, c :: cs =>
    match digitValue? radix c with
    | none => .error .invalidDigit
    | some digit =>
      if value * radix + digit ≤ largest then
        readDigits radix largest overflow (value * radix + digit) cs
      else .error overflow

/-- A number from 0 to `largest`: an optional plus sign and at least one digit. -/
def readNat (radix largest : Nat) : List Char → Except NumeralError Nat
  | [] => .error .empty
  | ['+'] => .error .invalidDigit
  | '+' :: cs => readDigits radix largest .tooLarge 0 cs
  | cs => readDigits radix largest .tooLarge 0 cs

/-- A decimal number of a signed word of 64 bits: an optional sign and at least one digit. -/
def readInt64 : List Char → Except NumeralError Int
  | ['-'] => .error .invalidDigit
  | '-' :: cs => (readDigits 10 0x8000000000000000 .tooSmall 0 cs).map fun n => -(n : Int)
  | cs => (readNat 10 0x7FFFFFFFFFFFFFFF cs).map Int.ofNat

/-- A decimal number of one byte. -/
def readUInt8 (cs : List Char) : Except NumeralError UInt8 :=
  (readNat 10 (UInt8.size - 1) cs).map UInt8.ofNat

/-- A decimal number of 32 bits. -/
def readUInt32 (cs : List Char) : Except NumeralError UInt32 :=
  (readNat 10 (UInt32.size - 1) cs).map UInt32.ofNat

end GpuControl.Text
