namespace GpuControl.Shell

/-- What the characters from here on belong to. -/
inductive SequencePart where
  /-- No sequence. -/
  | text
  /-- An escape, perhaps with an intermediate character behind it. -/
  | escape (intermediate : Bool)
  /-- A control sequence, up to a letter. -/
  | control
  /-- What stands before a device control string, up to a character from `bound` on. -/
  | device (bound : Nat)
  /-- A string, up to its terminator. -/
  | string
  /-- A command to the operating system, up to a bell. -/
  | command
deriving DecidableEq, Repr

/-- White space that is a control. -/
def isBlankControl (c : Char) : Bool := c == '\t' || c == '\n' || c == '\x0c' || c == '\r'

/-- The byte that ends a string; it counts in the encoding of a character as well. -/
def stringTerminator : UInt8 := 0x9C

namespace SequencePart

/-- What the printable ASCII character with code `n` starts or ends. -/
def next (n : Nat) : SequencePart → SequencePart
  | text => text
  | escape intermediate =>
    if n < 0x30 then escape true
    else if intermediate then text
    else
      match Char.ofNat n with
      | '[' => control
      | ']' => command
      | 'P' => device 0x40
      | 'X' | '^' | '_' => string
      | _ => text
  | control => if 0x40 ≤ n then text else control
  | device bound =>
    if bound ≤ n then string else if n < 0x30 then device 0x30 else device 0x3C
  | string => string
  | command => command

/-- The part that follows a character. Some controls act in every part. -/
def after (part : SequencePart) (c : Char) : SequencePart :=
  match c with
  | '\x1b' => escape false
  | '\x18' | '\x1a' => text
  | c =>
    if 0x20 ≤ c.toNat ∧ c.toNat < 0x7F then part.next c.toNat
    else if part = command ∧ c = '\x07' then text
    else if part = string ∧ stringTerminator ∈ String.utf8EncodeChar c then text
    else part

/-- Whether a character of this part is shown: text, and white space in the parts that only
printable characters end. -/
def shows (part : SequencePart) (c : Char) : Bool :=
  match part with
  | text => isBlankControl c || (0x20 ≤ c.toNat && c.toNat ≠ 0x7F)
  | escape _ | control => isBlankControl c
  | _ => false

end SequencePart

/-- The text from a part on. White space inside a sequence interrupts it: all is shown up to the
next control, with which the sequence goes on unless a character beyond ASCII came between. -/
def plainFrom (interrupted : Bool) (part : SequencePart) : List Char → List Char
  | [] => []
  | c :: cs =>
    if part.shows c || interrupted && SequencePart.text.shows c then
      c :: plainFrom true (if 0x7F < c.toNat then .text else part) cs
    else plainFrom false (part.after c) cs

/-- The text as it is shown where no terminal reads it: without the sequences that steer a terminal,
which start with an escape, and without controls other than white space. -/
def plain (cs : List Char) : List Char := plainFrom false .text cs

end GpuControl.Shell
