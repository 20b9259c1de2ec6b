import GpuControl.Text.Hex
import GpuControl.Text.Printable

namespace GpuControl.Text

/-- How one character stands inside the quotes: a quote and a backslash behind a backslash, the
common controls by short escapes, and what is not printable by its number. -/
def quoteChar (c : Char) : List Char :=
  match c with
  | '\x00' => ['\\', '0']
  | '\t' => ['\\', 't']
  | '\n' => ['\\', 'n']
  | '\r' => ['\\', 'r']
  | '"' => ['\\', '"']
  | '\\' => ['\\', '\\']
  | c =>
    if isPrintable c then [c] else ['\\', 'u', '\x7b'] ++ hexDigits c.toNat ++ ['\x7d']

/-- The text between double quotes, every character written by `quoteChar`. -/
def quoted (cs : List Char) : String :=
  String.ofList ('"' :: (cs.flatMap quoteChar ++ ['"']))

end GpuControl.Text
