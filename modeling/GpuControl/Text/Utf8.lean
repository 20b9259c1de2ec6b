namespace GpuControl.Text

/-- What is shown for bytes that are no text. -/
def replacementChar : Char := '\ufffd'

/-- The beginning of a character in UTF-8. -/
structure CharStart where
  /-- Bytes that still have to follow. -/
  missing : Nat
  /-- The bits so far. -/
  bits : Nat
  /-- Bounds of the next byte. -/
  low : UInt8 := 0x80
  high : UInt8 := 0xBF
deriving DecidableEq, Repr

/-- What a byte begins: a whole character, or the start of one. -/
def charStart (b : UInt8) : Except Char CharStart :=
  if b < 0x80 then .error (Char.ofNat b.toNat)
  else if b < 0xC2 then .error replacementChar
  else if b < 0xE0 then .ok { missing := 1, bits := b.toNat - 0xC0 }
  else if b < 0xF0 then
    .ok { missing := 2, bits := b.toNat - 0xE0
          low := if b = 0xE0 then 0xA0 else 0x80
          high := if b = 0xED then 0x9F else 0xBF }
  else if b < 0xF5 then
    .ok { missing := 3, bits := b.toNat - 0xF0
          low := if b = 0xF0 then 0x90 else 0x80
          high := if b = 0xF4 then 0x8F else 0xBF }
  else .error replacementChar

/-- The characters that one more byte completes, and what it leaves begun. A beginning that is not
carried on, like a byte that begins nothing, is shown as one replacement character. -/
def decodeByte (begun : Option CharStart) (b : UInt8) : List Char × Option CharStart :=
  let fresh : List Char × Option CharStart :=
    match charStart b with
    | .error c => ([c], none)
    | .ok start => ([], some start)
  match begun with
  | none => fresh
  | some start =>
    if start.low ≤ b ∧ b ≤ start.high then
      let bits := start.bits * 0x40 + (b.toNat - 0x80)
      if start.missing = 1 then ([Char.ofNat bits], none)
      else ([], some { missing := start.missing - 1, bits })
    else (replacementChar :: fresh.1, fresh.2)

def decodeFrom (begun : Option CharStart) : List UInt8 → List Char
  | [] => if begun.isSome then [replacementChar] else []
  | b :: bs =>
    let (cs, begun) := decodeByte begun b
    cs ++ decodeFrom begun bs

/-- Bytes as text. -/
def decodeShown (bytes : List UInt8) : String := String.ofList (decodeFrom none bytes)

end GpuControl.Text
