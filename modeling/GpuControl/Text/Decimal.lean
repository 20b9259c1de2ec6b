namespace GpuControl.Text

/-- The nearest whole number to `num / den`; a tie goes to the even neighbour. -/
def roundDiv (num den : Nat) : Nat :=
  let q := num / den
  let twice := 2 * (num % den)
  if twice < den then q
  else if den < twice then q + 1
  else q + q % 2

/-- The digits of a fraction without sign and the power of ten that they count. At least one digit
stands before or after the point. -/
structure Decimal where
  digits : Nat
  exponent : Int
deriving DecidableEq, Repr

/-- The number whose decimal digits are `cs`. -/
def digitsValue (cs : List Char) : Nat :=
  cs.foldl (fun value c => value * 10 + (c.toNat - '0'.toNat)) 0

/-- The exponent that follows the digits: nothing, or `e`, an optional sign and digits. -/
def readExponent : List Char → Option Int
  | [] => some 0
  | c :: cs =>
    if c ≠ 'e' ∧ c ≠ 'E' then none
    else
      let (negative, digits) := match cs with
        | '-' :: cs => (true, cs)
        | '+' :: cs => (false, cs)
        | cs => (false, cs)
      if digits.isEmpty ∨ !digits.all Char.isDigit then none
      else some (if negative then -(digitsValue digits : Int) else digitsValue digits)

/-- Reads a fraction without sign. -/
def Decimal.read (cs : List Char) : Option Decimal :=
  let whole := cs.takeWhile Char.isDigit
  let rest := cs.dropWhile Char.isDigit
  let (places, rest) := match rest with
    | '.' :: rest => (rest.takeWhile Char.isDigit, rest.dropWhile Char.isDigit)
    | rest => ([], rest)
  if whole.isEmpty && places.isEmpty then none
  else (readExponent rest).map fun e => ⟨digitsValue (whole ++ places), e - places.length⟩

/-- The order of magnitude from which on a decimal is beyond every finite 32-bit float, or, below
zero, is too small to differ from zero by one. -/
def Decimal.magnitudeLimit : Int := 64

/-- The nearest 32-bit float; nothing for a number beyond the finite ones. -/
def Decimal.toFloat32? (d : Decimal) : Option Float32 :=
  let magnitude : Int := (Nat.toDigits 10 d.digits).length + d.exponent
  if d.digits = 0 ∨ magnitude < -Decimal.magnitudeLimit then some 0
  else if Decimal.magnitudeLimit < magnitude then none
  else some (Float32.ofScientific d.digits (decide (d.exponent < 0)) d.exponent.natAbs)

/-- Reads an optionally signed fraction as the nearest 32-bit float. -/
def readFloat32 (cs : List Char) : Option Float32 :=
  match cs with
  | '-' :: cs => ((Decimal.read cs).bind Decimal.toFloat32?).map fun x => -x
  | '+' :: cs => (Decimal.read cs).bind Decimal.toFloat32?
  | cs => (Decimal.read cs).bind Decimal.toFloat32?

/-- The value of a finite non-negative float as a fraction: significand times a power of two, over
a power of two. -/
def float32Fraction (x : Float32) : Nat × Nat :=
  let bits : Nat := x.toBits.toNat
  let exponent : Nat := bits / 0x800000 % 0x100
  let field : Nat := bits % 0x800000
  let significand : Nat := if exponent = 0 then field else field + 0x800000
  let shift : Int := (if exponent = 0 then 1 else (exponent : Int)) - 150
  (significand <<< shift.toNat, 1 <<< (-shift).toNat)

/-- A finite non-negative float with two places. -/
def twoPlaces (x : Float32) : String :=
  let (num, den) := float32Fraction x
  let hundredths := roundDiv (num * 100) den
  let places := Nat.toDigits 10 (hundredths % 100)
  String.ofList (Nat.toDigits 10 (hundredths / 100) ++
    ['.'] ++ List.replicate (2 - places.length) '0' ++ places)

end GpuControl.Text
