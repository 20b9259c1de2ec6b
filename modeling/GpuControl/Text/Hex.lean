namespace GpuControl.Text

/-- The lower-case digits of `n`, without leading zeros. -/
def hexDigits (n : Nat) : List Char := Nat.toDigits 16 n

/-- The digits of `n` with zeros in front, up to `width` digits. -/
def hexDigitsPadded (width n : Nat) : List Char :=
  let digits := hexDigits n
  List.replicate (width - digits.length) '0' ++ digits

/-- The digits of `n` behind the mark `0x`. -/
def hex (n : Nat) : String := "0x" ++ String.ofList (hexDigits n)

/-- At least `width` digits behind the mark `0x`. -/
def hexPadded (width n : Nat) : String := "0x" ++ String.ofList (hexDigitsPadded width n)

/-- At least `width` lower-case digits and no mark. -/
def hexField (width n : Nat) : String := String.ofList (hexDigitsPadded width n)

/-- At least `width` upper-case digits and no mark. -/
def upperHexField (width n : Nat) : String :=
  String.ofList ((hexDigitsPadded width n).map Char.toUpper)

end GpuControl.Text
