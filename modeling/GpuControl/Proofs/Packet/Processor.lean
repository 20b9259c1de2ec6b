import GpuControl.Proofs.Packet.Image

namespace GpuControl

/-- The shader registers by index. -/
abbrev ShaderRegisters := Nat → UInt32

/-- Index of the shader register at a byte offset. -/
def shaderIndex (shBase offset : Nat) : Nat := (offset - shBase) / 4

/-- The register four bytes further on has the next index. -/
theorem shaderIndex_add_four {shBase offset : Nat} (hbase : shBase ≤ offset) :
    shaderIndex shBase (offset + 4) = shaderIndex shBase offset + 1 := by
  unfold shaderIndex
  omega

/-- Different registers at or above the base have different indices. -/
theorem shaderIndex_inj {shBase o o' : Nat} (hbase : shBase ≤ o) (haligned : o % 4 = 0)
    (hbase' : shBase ≤ o') (haligned' : o' % 4 = 0)
    (hindex : shaderIndex shBase o = shaderIndex shBase o') : o = o' := by
  unfold shaderIndex at hindex
  omega

namespace ShaderRegisters

def set (r : ShaderRegisters) (index : Nat) (value : UInt32) : ShaderRegisters :=
  fun i => if i = index then value else r i

/-- Stores values at consecutive indices. -/
def store (r : ShaderRegisters) (index : Nat) : List UInt32 → ShaderRegisters
  | [] => r
  | v :: vs => (r.set index v).store (index + 1) vs

/-- Makes single writes, given by byte offset, the first of the list first. -/
def apply (shBase : Nat) (r : ShaderRegisters) (writes : List (Nat × UInt32)) : ShaderRegisters :=
  writes.foldl (fun r w => r.set (shaderIndex shBase w.1) w.2) r

@[simp] theorem set_self (r : ShaderRegisters) (index : Nat) (value : UInt32) :
    r.set index value index = value := if_pos rfl

theorem set_of_ne (r : ShaderRegisters) {i index : Nat} (hne : i ≠ index) (value : UInt32) :
    r.set index value i = r i := if_neg hne

theorem apply_append (shBase : Nat) (r : ShaderRegisters) (ws ws' : List (Nat × UInt32)) :
    r.apply shBase (ws ++ ws') = (r.apply shBase ws).apply shBase ws' := List.foldl_append

variable {shBase : Nat} {writes : List (Nat × UInt32)}

/-- A register that no write names keeps its value. -/
theorem apply_of_untouched {r : ShaderRegisters} {i : Nat}
    (huntouched : ∀ w ∈ writes, shaderIndex shBase w.1 ≠ i) : r.apply shBase writes i = r i := by
  induction writes generalizing r with
  | nil => rfl
  | cons w ws ih =>
    change (r.set (shaderIndex shBase w.1) w.2).apply shBase ws i = r i
    rw [ih fun w' hw' => huntouched w' (List.mem_cons_of_mem w hw'),
      set_of_ne r (huntouched w List.mem_cons_self).symm]

/-- Among writes to different registers each is the last one to its own. -/
theorem apply_of_mem {r : ShaderRegisters} {offset : Nat} {value : UInt32}
    (hvalid : ∀ w ∈ writes, shBase ≤ w.1 ∧ w.1 % 4 = 0) (hdistinct : (writes.map (·.1)).Nodup)
    (hmem : (offset, value) ∈ writes) :
    r.apply shBase writes (shaderIndex shBase offset) = value := by
  induction writes generalizing r with
  | nil => cases hmem
  | cons w ws ih =>
    obtain ⟨hhead, htail⟩ := List.nodup_cons.1 hdistinct
    change (r.set (shaderIndex shBase w.1) w.2).apply shBase ws _ = value
    rcases List.mem_cons.1 hmem with rfl | hmem
    · obtain ⟨hbase, haligned⟩ := hvalid _ List.mem_cons_self
      have hlater : ∀ w' ∈ ws, shaderIndex shBase w'.1 ≠ shaderIndex shBase offset := by
        intro w' hw' hindex
        obtain ⟨hbase', haligned'⟩ := hvalid w' (List.mem_cons_of_mem _ hw')
        have hoffset := shaderIndex_inj hbase' haligned' hbase haligned hindex
        exact hhead (List.mem_map.2 ⟨w', hw', hoffset⟩)
      rw [apply_of_untouched hlater, set_self]
    · exact ih (fun w' hw' => hvalid w' (List.mem_cons_of_mem w hw')) htail hmem

end ShaderRegisters

/-- What a command processor is told to do beyond its registers. -/
inductive ProcessorEvent where
  | acquire (flags : UInt32)
  /-- A grid, with the registers as they were when it was started. -/
  | dispatch (x y z initiator : UInt32) (registers : ShaderRegisters)

structure CommandProcessor where
  registers : ShaderRegisters
  events : List ProcessorEvent := []

namespace CommandProcessor

def record (c : CommandProcessor) (event : ProcessorEvent) : CommandProcessor :=
  { c with events := c.events ++ [event] }

/-- The payload is an index and the values to store from there on. -/
def setRegisters (c : CommandProcessor) : List UInt32 → Option CommandProcessor
  | index :: values => some { c with registers := c.registers.store index.toNat values }
  | [] => none

def dispatch (c : CommandProcessor) : List UInt32 → Option CommandProcessor
  | [x, y, z, initiator] => some (c.record (.dispatch x y z initiator c.registers))
  | _ => none

def acquire (c : CommandProcessor) : List UInt32 → Option CommandProcessor
  | flags :: _ => some (c.record (.acquire flags))
  | [] => none

/-- Executes one packet; `none` for an opcode or a payload that means nothing. -/
def execute (c : CommandProcessor) (code : UInt8) (payload : List UInt32) :
    Option CommandProcessor :=
  if code = 0x10 then some c
  else if code = 0x15 then c.dispatch payload
  else if code = 0x58 then c.acquire payload
  else if code = 0x76 then c.setRegisters payload
  else none

/-- Executes the packets of a word list to its end; `none` where a packet is not of type 3 or
reaches beyond the end. -/
def replay (c : CommandProcessor) : List UInt32 → Option CommandProcessor
  | [] => some c
  | word :: words =>
    let header := PacketHeader.decode word
    if header.packetType = 3 ∧ header.count - 1 ≤ words.length then
      (c.execute header.opcode (words.take (header.count - 1))).bind fun c =>
        c.replay (words.drop (header.count - 1))
    else none
termination_by words => words.length
decreasing_by
  rw [List.length_drop, List.length_cons]
  omega

/-- What a packet asks for. -/
def perform (shBase : Nat) (c : CommandProcessor) : Packet → CommandProcessor
  | .nop _ => c
  | .setRegisters offset values =>
    { c with registers := c.registers.store (shaderIndex shBase offset) values }
  | .dispatch x y z initiator => c.record (.dispatch x y z (initiator ||| 1) c.registers)
  | .acquire flags => c.record (.acquire flags)

end CommandProcessor

namespace Packet

/-- Values for consecutive registers, each with its byte offset. -/
def writesFrom (offset : Nat) : List UInt32 → List (Nat × UInt32)
  | [] => []
  | v :: vs => (offset, v) :: writesFrom (offset + 4) vs

/-- The single register writes of a packet. -/
def writes : Packet → List (Nat × UInt32)
  | setRegisters offset values => writesFrom offset values
  | _ => []

theorem valid_of_mem_writesFrom {shBase offset : Nat} {values : List UInt32} {w : Nat × UInt32}
    (hbase : shBase ≤ offset) (haligned : offset % 4 = 0) (hw : w ∈ writesFrom offset values) :
    shBase ≤ w.1 ∧ w.1 % 4 = 0 := by
  induction values generalizing offset with
  | nil => cases hw
  | cons v vs ih =>
    rcases List.mem_cons.1 hw with rfl | hw
    · exact ⟨hbase, haligned⟩
    · exact ih (by omega) (by omega) hw

/-- All writes of a packet go to registers at or above the base if its first does. -/
theorem valid_of_mem_writes {shBase : Nat} {p : Packet} (hregister : p.NamesRegister shBase)
    {w : Nat × UInt32} (hw : w ∈ p.writes) : shBase ≤ w.1 ∧ w.1 % 4 = 0 := by
  cases p with
  | setRegisters offset values =>
    obtain ⟨hbase, haligned, -⟩ := hregister
    exact valid_of_mem_writesFrom hbase haligned hw
  | nop _ => cases hw
  | dispatch _ _ _ _ => cases hw
  | acquire _ => cases hw

end Packet

/-- Storing values from an index on is writing them one by one. -/
theorem ShaderRegisters.store_eq_apply {shBase offset : Nat} (hbase : shBase ≤ offset)
    (values : List UInt32) (r : ShaderRegisters) :
    r.store (shaderIndex shBase offset) values =
      r.apply shBase (Packet.writesFrom offset values) := by
  induction values generalizing offset r with
  | nil => rfl
  | cons v vs ih =>
    rw [store, ← shaderIndex_add_four hbase, ih (by omega)]
    rfl

namespace CommandProcessor

variable {shBase : Nat}

/-- A packet changes the shader registers by its writes alone. -/
theorem registers_perform {p : Packet} (hregister : p.NamesRegister shBase)
    (c : CommandProcessor) :
    (c.perform shBase p).registers = c.registers.apply shBase p.writes := by
  cases p with
  | setRegisters offset values =>
    exact ShaderRegisters.store_eq_apply hregister.1 values c.registers
  | nop _ => rfl
  | dispatch _ _ _ _ => rfl
  | acquire _ => rfl

theorem registers_foldl_perform {packets : List Packet}
    (hregister : ∀ p ∈ packets, p.NamesRegister shBase) (c : CommandProcessor) :
    (packets.foldl (perform shBase) c).registers =
      c.registers.apply shBase (packets.flatMap Packet.writes) := by
  induction packets generalizing c with
  | nil => rfl
  | cons p ps ih =>
    rw [List.foldl_cons, ih fun q hq => hregister q (List.mem_cons_of_mem p hq),
      registers_perform (hregister p List.mem_cons_self), List.flatMap_cons,
      ShaderRegisters.apply_append]

/-- The processor understands what the encoder puts behind a header. -/
theorem execute_payload {p : Packet} {payload : List UInt32}
    (hregister : p.NamesRegister shBase) (hpayload : p.payload shBase = .ok payload)
    (c : CommandProcessor) :
    c.execute p.opcode.code payload = some (c.perform shBase p) := by
  cases p with
  | nop words => rfl
  | setRegisters offset values =>
    obtain ⟨hbase, haligned, hsize⟩ := hregister
    rw [Packet.payload, Packet.registerIndex_eq_ok hbase haligned hsize] at hpayload
    cases hpayload
    have hindex : (UInt32.ofNat ((offset - shBase) / 4)).toNat = shaderIndex shBase offset :=
      UInt32.toNat_ofNat_of_lt' hsize
    change some { c with registers := c.registers.store (UInt32.toNat _) values } = _
    rw [hindex]
    rfl
  | dispatch x y z initiator =>
    cases hpayload
    rfl
  | acquire flags =>
    cases hpayload
    rfl

/-- The processor performs the packet in front and goes on behind it. -/
theorem replay_image_append {p : Packet} (hregister : p.NamesRegister shBase)
    (hlength : p.length ≤ maxPacketWords) (c : CommandProcessor) (rest : List UInt32) :
    c.replay (p.image shBase ++ rest) = (c.perform shBase p).replay rest := by
  by_cases hzero : p.length = 0
  · have hnop : c.perform shBase p = c := by
      cases p with
      | nop words => rfl
      | setRegisters offset values =>
        rw [Packet.length] at hzero
        omega
      | dispatch _ _ _ _ => cases hzero
      | acquire _ => cases hzero
    rw [Packet.image_of_length_eq_zero shBase hzero, hnop, List.nil_append]
  · have hpos : 0 < p.length := Nat.pos_of_ne_zero hzero
    obtain ⟨payload, hpayload, hcount, himage⟩ := Packet.image_eq_cons hregister hpos
    rw [himage, List.cons_append, replay, decode_headerWord p.opcode.code hpos hlength]
    simp only [List.take_left' hcount, List.drop_left' hcount,
      execute_payload hregister hpayload]
    have hfits : p.length - 1 ≤ (payload ++ rest).length := by
      rw [List.length_append]
      omega
    rw [if_pos ⟨trivial, hfits⟩, Option.bind_some]

/-- Replaying the images of packets is performing the packets, whatever they are. -/
theorem replay_flatMap_image {packets : List Packet}
    (hwell : ∀ p ∈ packets, p.NamesRegister shBase ∧ p.length ≤ maxPacketWords)
    (c : CommandProcessor) :
    c.replay (packets.flatMap (Packet.image shBase)) =
      some (packets.foldl (perform shBase) c) := by
  induction packets generalizing c with
  | nil => rw [List.flatMap_nil, replay, List.foldl_nil]
  | cons p ps ih =>
    obtain ⟨hregister, hlength⟩ := hwell p List.mem_cons_self
    rw [List.flatMap_cons, replay_image_append hregister hlength,
      ih fun q hq => hwell q (List.mem_cons_of_mem p hq), List.foldl_cons]

end CommandProcessor

end GpuControl
