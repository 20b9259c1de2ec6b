import GpuControl.Text.Numeral
import GpuControl.Text.Quoted

namespace GpuControl.CommandLine

open Text

/-- Drops the mark `0x` from the front as often as it stands there, with `x` as the letter. -/
def dropMarks (x : Char) : List Char → List Char
  | '0' :: c :: cs => if c = x then dropMarks x cs else '0' :: c :: cs
  | cs => cs

/-- An error that shows the text it is about. -/
def aboutText (what : String) (text : List Char) (e : NumeralError) : String :=
  s!"{what} {quoted text}: {e.message}"

/-- A register offset: hexadecimal, with or without its mark. -/
def readOffset (text : List Char) : Except String Nat :=
  (readNat 16 (UInt64.size - 1) (dropMarks 'X' (dropMarks 'x' text))).mapError
    (aboutText "invalid hex offset" text)

/-- A bus or device number: hexadecimal behind the mark `0x`, else decimal. -/
def readPlace (text : List Char) : Except String Nat :=
  let number := match text with
    | '0' :: 'x' :: digits => readNat 16 (UInt8.size - 1) digits
    | digits => readNat 10 (UInt8.size - 1) digits
  number.mapError (aboutText "invalid number" text)

end GpuControl.CommandLine
