namespace GpuControl

/-- The type of every packet that is written here. -/
def packetType3 : UInt32 := 3

/-- The bits of the count field, in place zero. -/
def packetCountMask : UInt32 := 0x3FFF

/-- The longest packet that a header can describe, in words. -/
def maxPacketWords : Nat := packetCountMask.toNat + 1

/-- Opcodes of type-3 packets. -/
inductive Opcode where
  /-- Does nothing; the payload is ignored. -/
  | nop
  /-- Starts a grid of workgroups. -/
  | dispatchDirect
  /-- Makes caches and memory agree. -/
  | acquireMem
  /-- Writes consecutive shader registers. -/
  | setShReg
deriving DecidableEq, Repr

def Opcode.code : Opcode → UInt8
  | nop => 0x10
  | dispatchDirect => 0x15
  | acquireMem => 0x58
  | setShReg => 0x76

/-- The header of a type-3 packet of `count` words, the header among them. -/
def type3Header (code : UInt8) (count : Nat) : UInt32 :=
  packetType3 <<< 30 ||| ((UInt32.ofNat count - 1) &&& packetCountMask) <<< 16 |||
    code.toUInt32 <<< 8

/-- The fields of a header word: the type in bits 30 and 31, one word less than the packet has in
bits 16 to 29, and the opcode in bits 8 to 15. -/
structure PacketHeader where
  packetType : UInt8
  /-- Words of the whole packet. -/
  count : Nat
  opcode : UInt8
deriving DecidableEq, Repr

namespace PacketHeader

def decode (word : UInt32) : PacketHeader where
  packetType := (word >>> 30).toUInt8
  count := ((word >>> 16) &&& packetCountMask).toNat + 1
  opcode := (word >>> 8).toUInt8

/-- The headers met when a word list is walked from packet to packet. -/
def walk : List UInt32 → List PacketHeader
  | [] => []
  | word :: words => decode word :: walk (words.drop ((decode word).count - 1))
termination_by words => words.length
decreasing_by
  rw [List.length_drop, List.length_cons]
  omega

end PacketHeader

end GpuControl
