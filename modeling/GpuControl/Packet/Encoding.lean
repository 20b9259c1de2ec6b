import GpuControl.Error
import GpuControl.Packet.Header

namespace GpuControl

/-- A command for the command processor. -/
inductive Packet where
  /-- A pause of `words` words; none at all for zero. -/
  | nop (words : Nat)
  /-- Writes `values` to the shader registers from byte offset `offset` on. -/
  | setRegisters (offset : Nat) (values : List UInt32)
  /-- Starts a grid of `x * y * z` workgroups. -/
  | dispatch (x y z initiator : UInt32)
  /-- Makes caches and memory agree over the whole address space. -/
  | acquire (flags : UInt32)
deriving DecidableEq, Repr

/-- Index of the shader register at a byte offset: its distance from the base in dwords, which has
to fit a word. -/
def registerIndex (base offset : Nat) : Except DriverError UInt32 :=
  if offset < base ∨ offset % 4 ≠ 0 ∨ UInt32.size ≤ (offset - base) / 4 then
    .error (.invalidRegister offset base)
  else .ok (UInt32.ofNat ((offset - base) / 4))

/-- The flags that invalidate caches before the next dispatch. -/
def acquireInvalidate : UInt32 := 0x80000000

/-- The flags that wait for earlier work to finish. -/
def acquireWait : UInt32 := 0

/-- The size field that stands for the whole address space. -/
def acquireFullRange : UInt32 := 0xFFFFFFFF

/-- Clocks between two looks, in units of sixteen. -/
def acquirePollInterval : UInt32 := 0x0A

/-- The initiator bit that enables the compute shader. -/
def computeShaderEnable : UInt32 := 1

/-- The sum as far as a 64-bit count can hold it. -/
def saturatingAdd (a b : Nat) : Nat := min (a + b) (UInt64.size - 1)

namespace Packet

/-- Length in words, header included. -/
def length : Packet → Nat
  | nop words => words
  | setRegisters _ values => 2 + values.length
  | dispatch .. => 5
  | acquire .. => 7

def opcode : Packet → Opcode
  | nop _ => .nop
  | setRegisters .. => .setShReg
  | dispatch .. => .dispatchDirect
  | acquire _ => .acquireMem

/-- The words after the header; only a register write can fail. -/
def payload (shBase : Nat) : Packet → Except DriverError (List UInt32)
  | nop words => .ok (List.replicate (words - 1) 0)
  | setRegisters offset values => (registerIndex shBase offset).map (· :: values)
  | dispatch x y z initiator => .ok [x, y, z, initiator ||| computeShaderEnable]
  | acquire flags => .ok [flags, acquireFullRange, 0, 0, 0, acquirePollInterval]

/-- A register write names a register; any other packet is free of this. -/
def checkRegister (shBase : Nat) : Packet → Except DriverError Unit
  | setRegisters offset _ => (registerIndex shBase offset).map fun _ => ()
  | _ => .ok ()

/-- The words of the packet. A bad register is reported before an excessive length. -/
def words (shBase : Nat) (p : Packet) : Except DriverError (List UInt32) :=
  match p.checkRegister shBase with
  | .error e => .error e
  | .ok _ =>
    if p.length = 0 then .ok []
    else if maxPacketWords < p.length then .error (.encodingOverflow p.length maxPacketWords)
    else (p.payload shBase).map (type3Header p.opcode.code p.length :: ·)

end Packet

/-- Puts `words` into the buffer from position `start` on. -/
def writeWords (buffer : Array UInt32) (start : Nat) : List UInt32 → Array UInt32
  | [] => buffer
  | w :: ws => writeWords (buffer.setIfInBounds start w) (start + 1) ws

@[simp] theorem size_writeWords (buffer : Array UInt32) (start : Nat) (words : List UInt32) :
    (writeWords buffer start words).size = buffer.size := by
  induction words generalizing buffer start with
  | nil => rfl
  | cons w ws ih => simp [writeWords, ih]

/-- Writes the packet, whole or not at all, into the buffer from position `start` on and returns the
position after it. An empty packet fits everywhere. -/
def Packet.encodeAt (shBase : Nat) (p : Packet) (buffer : Array UInt32) (start : Nat) :
    Except DriverError Nat × Array UInt32 :=
  match p.words shBase with
  | .error e => (.error e, buffer)
  | .ok [] => (.ok start, buffer)
  | .ok words =>
    if start + words.length ≤ buffer.size then
      (.ok (start + words.length), writeWords buffer start words)
    else (.error (.encodingOverflow (saturatingAdd start words.length) buffer.size), buffer)

end GpuControl
