import Mathlib.Algebra.Ring.Nat
import GpuControl.Packet.CommandStream

namespace GpuControl

/-- The header word of a type-3 packet of `count` words. -/
def headerWord (code : UInt8) (count : Nat) : UInt32 :=
  UInt32.ofNat (2 ^ 30 * 3 + 2 ^ 16 * (count - 1) + 2 ^ 8 * code.toNat)

theorem toNat_headerWord (code : UInt8) {count : Nat} (hcount : count ≤ maxPacketWords) :
    (headerWord code count).toNat = 2 ^ 30 * 3 + 2 ^ 16 * (count - 1) + 2 ^ 8 * code.toNat := by
  have hmax : maxPacketWords = 16384 := rfl
  have hcode := code.toNat_lt
  rw [headerWord, UInt32.toNat_ofNat']
  exact Nat.mod_eq_of_lt (by omega)

/-- The shifts and masks of the encoder put the fields of a header where they belong. -/
theorem type3Header_eq (code : UInt8) {count : Nat} (hpos : 0 < count)
    (hcount : count ≤ maxPacketWords) : type3Header code count = headerWord code count := by
  have hmax : maxPacketWords = 16384 := rfl
  have hcode := code.toNat_lt
  have hfield : (UInt32.ofNat count - 1).toNat = count - 1 := by
    rw [UInt32.toNat_sub_of_le]
    · rw [UInt32.toNat_ofNat', Nat.mod_eq_of_lt (by omega)]
      rfl
    · rw [UInt32.le_iff_toNat_le, UInt32.toNat_ofNat', Nat.mod_eq_of_lt (by omega)]
      exact hpos
  have hmask : ((UInt32.ofNat count - 1) &&& packetCountMask).toNat = count - 1 := by
    rw [UInt32.toNat_and, hfield]
    change (count - 1) &&& (2 ^ 14 - 1) = count - 1
    rw [Nat.and_two_pow_sub_one_eq_mod, Nat.mod_eq_of_lt (by omega)]
  have htype : (packetType3 <<< 30).toNat = 2 ^ 30 * 3 := by decide
  have hlength : (((UInt32.ofNat count - 1) &&& packetCountMask) <<< 16).toNat =
      2 ^ 16 * (count - 1) := by
    rw [UInt32.toNat_shiftLeft, hmask, Nat.shiftLeft_eq]
    change (count - 1) * 2 ^ 16 % 2 ^ 32 = _
    omega
  have hopcode : (code.toUInt32 <<< 8).toNat = 2 ^ 8 * code.toNat := by
    rw [UInt32.toNat_shiftLeft, UInt8.toNat_toUInt32, Nat.shiftLeft_eq]
    change code.toNat * 2 ^ 8 % 2 ^ 32 = _
    omega
  -- The three fields share no bit, so joining them is adding them.
  have hlow : 2 ^ 16 * (count - 1) ||| 2 ^ 8 * code.toNat =
      2 ^ 16 * (count - 1) + 2 ^ 8 * code.toNat :=
    (Nat.two_pow_add_eq_or_of_lt (by omega) _).symm
  have hjoin : 2 ^ 30 * 3 ||| (2 ^ 16 * (count - 1) + 2 ^ 8 * code.toNat) =
      2 ^ 30 * 3 + (2 ^ 16 * (count - 1) + 2 ^ 8 * code.toNat) :=
    (Nat.two_pow_add_eq_or_of_lt (by omega) _).symm
  apply UInt32.toNat_inj.1
  rw [toNat_headerWord code hcount, type3Header, UInt32.toNat_or, UInt32.toNat_or, htype, hlength,
    hopcode, Nat.or_assoc, hlow, hjoin, Nat.add_assoc]

/-- A header is read back, its type included. -/
theorem decode_headerWord (code : UInt8) {count : Nat} (hpos : 0 < count)
    (hcount : count ≤ maxPacketWords) :
    PacketHeader.decode (headerWord code count) = ⟨3, count, code⟩ := by
  have hmax : maxPacketWords = 16384 := rfl
  have hcode := code.toNat_lt
  have hword := toNat_headerWord code hcount
  have htype : (headerWord code count >>> 30).toUInt8 = 3 := by
    apply UInt8.toNat_inj.1
    rw [UInt32.toNat_toUInt8, UInt32.toNat_shiftRight, hword]
    change _ >>> 30 % 2 ^ 8 = 3
    rw [Nat.shiftRight_eq_div_pow]
    omega
  have hlength : ((headerWord code count >>> 16) &&& packetCountMask).toNat + 1 = count := by
    rw [UInt32.toNat_and, UInt32.toNat_shiftRight, hword]
    change (_ >>> 16 &&& (2 ^ 14 - 1)) + 1 = count
    rw [Nat.and_two_pow_sub_one_eq_mod, Nat.shiftRight_eq_div_pow]
    omega
  have hopcode : (headerWord code count >>> 8).toUInt8 = code := by
    apply UInt8.toNat_inj.1
    rw [UInt32.toNat_toUInt8, UInt32.toNat_shiftRight, hword]
    change _ >>> 8 % 2 ^ 8 = code.toNat
    rw [Nat.shiftRight_eq_div_pow]
    omega
  rw [PacketHeader.decode, htype, hlength, hopcode]

namespace Packet

/-- The packet names a register of the shader register space; only a register write can fail to. -/
def NamesRegister (shBase : Nat) : Packet → Prop
  | setRegisters offset _ =>
    shBase ≤ offset ∧ offset % 4 = 0 ∧ (offset - shBase) / 4 < UInt32.size
  | _ => True

instance (shBase : Nat) : (p : Packet) → Decidable (p.NamesRegister shBase)
  | setRegisters _ _ => inferInstanceAs (Decidable (_ ∧ _ ∧ _))
  | nop _ | dispatch .. | acquire _ => inferInstanceAs (Decidable True)

/-- The packet as words. A pause of no words has none, any other pause is filled with zeros. -/
def image (shBase : Nat) : Packet → List UInt32
  | nop 0 => []
  | nop (words + 1) => headerWord 0x10 (words + 1) :: List.replicate words 0
  | setRegisters offset values =>
    headerWord 0x76 (2 + values.length) :: UInt32.ofNat ((offset - shBase) / 4) :: values
  | dispatch x y z initiator => [headerWord 0x15 5, x, y, z, initiator ||| 1]
  | acquire flags => [headerWord 0x58 7, flags, 0xFFFFFFFF, 0, 0, 0, 0x0A]

/-- The packet's header, if it has one. -/
def header? (p : Packet) : Option PacketHeader :=
  if p.length = 0 then none else some ⟨3, p.length, p.opcode.code⟩

/-- The image of a packet is as long as the packet says. -/
@[simp] theorem length_image (shBase : Nat) (p : Packet) :
    (p.image shBase).length = p.length := by
  cases p with
  | nop words =>
    cases words with
    | zero => rfl
    | succ words => simp only [image, length, List.length_cons, List.length_replicate]
  | setRegisters offset values =>
    simp only [image, length, List.length_cons]
    omega
  | dispatch x y z initiator => rfl
  | acquire flags => rfl

theorem registerIndex_eq_ok {shBase offset : Nat} (hbase : shBase ≤ offset)
    (haligned : offset % 4 = 0) (hsize : (offset - shBase) / 4 < UInt32.size) :
    registerIndex shBase offset = .ok (UInt32.ofNat ((offset - shBase) / 4)) :=
  if_neg (by omega)

/-- An offset has an index if it names a register. -/
theorem exists_registerIndex_iff {shBase offset : Nat} {values : List UInt32} :
    (∃ index, registerIndex shBase offset = .ok index) ↔
      (setRegisters offset values).NamesRegister shBase := by
  constructor
  · rintro ⟨index, hindex⟩
    unfold registerIndex at hindex
    split at hindex
    · cases hindex
    · unfold NamesRegister
      omega
  · rintro ⟨hbase, haligned, hsize⟩
    exact ⟨_, registerIndex_eq_ok hbase haligned hsize⟩

theorem checkRegister_of_names {shBase : Nat} {p : Packet} (hregister : p.NamesRegister shBase) :
    p.checkRegister shBase = .ok () := by
  cases p with
  | setRegisters offset values =>
    obtain ⟨hbase, haligned, hsize⟩ := hregister
    rw [checkRegister, registerIndex_eq_ok hbase haligned hsize]
    rfl
  | nop _ => rfl
  | dispatch _ _ _ _ => rfl
  | acquire _ => rfl

/-- A register write names a register if its offset has an index; any other packet does anyway. -/
theorem namesRegister_iff {shBase : Nat} {p : Packet} :
    p.NamesRegister shBase ↔ ∀ offset values, p = .setRegisters offset values →
      ∃ index, registerIndex shBase offset = .ok index := by
  cases p with
  | setRegisters offset values =>
    rw [← exists_registerIndex_iff]
    constructor
    · rintro hindex _ _ ⟨⟩
      exact hindex
    · exact fun hindex => hindex offset values rfl
  | nop _ => exact ⟨nofun, fun _ => trivial⟩
  | dispatch _ _ _ _ => exact ⟨nofun, fun _ => trivial⟩
  | acquire _ => exact ⟨nofun, fun _ => trivial⟩

/-- An offset that names no register is refused with the offset and the base. -/
theorem registerIndex_eq_error {shBase offset : Nat} {values : List UInt32}
    (hregister : ¬(setRegisters offset values).NamesRegister shBase) :
    registerIndex shBase offset = .error (.invalidRegister offset shBase) := by
  apply if_pos
  unfold NamesRegister at hregister
  omega

theorem checkRegister_of_not_names {shBase offset : Nat} {values : List UInt32}
    (hregister : ¬(setRegisters offset values).NamesRegister shBase) :
    (setRegisters offset values).checkRegister shBase =
      .error (.invalidRegister offset shBase) := by
  rw [checkRegister, registerIndex_eq_error hregister]
  rfl

/-- A packet that is not empty is its header and what the encoder puts behind it. -/
theorem image_eq_cons {shBase : Nat} {p : Packet} (hregister : p.NamesRegister shBase)
    (hpos : 0 < p.length) :
    ∃ payload, p.payload shBase = .ok payload ∧ payload.length = p.length - 1 ∧
      p.image shBase = headerWord p.opcode.code p.length :: payload := by
  suffices himage : ∃ payload, p.payload shBase = .ok payload ∧
      p.image shBase = headerWord p.opcode.code p.length :: payload by
    obtain ⟨payload, hpayload, himage⟩ := himage
    have hcount := length_image shBase p
    rw [himage, List.length_cons] at hcount
    exact ⟨payload, hpayload, by omega, himage⟩
  cases p with
  | nop words =>
    obtain ⟨words, rfl⟩ : ∃ n, words = n + 1 := ⟨words - 1, (Nat.sub_add_cancel hpos).symm⟩
    exact ⟨_, rfl, rfl⟩
  | setRegisters offset values =>
    obtain ⟨hbase, haligned, hsize⟩ := hregister
    refine ⟨_, ?_, rfl⟩
    rw [payload, registerIndex_eq_ok hbase haligned hsize]
    rfl
  | dispatch x y z initiator => exact ⟨_, rfl, rfl⟩
  | acquire flags => exact ⟨_, rfl, rfl⟩

theorem image_of_length_eq_zero (shBase : Nat) {p : Packet} (hlength : p.length = 0) :
    p.image shBase = [] := by
  rw [← List.length_eq_zero_iff, length_image, hlength]

/-- The encoder spells the packet. -/
theorem words_eq_image {shBase : Nat} {p : Packet} (hregister : p.NamesRegister shBase)
    (hlength : p.length ≤ maxPacketWords) : p.words shBase = .ok (p.image shBase) := by
  simp only [Packet.words, checkRegister_of_names hregister]
  by_cases hzero : p.length = 0
  · rw [if_pos hzero, image_of_length_eq_zero shBase hzero]
  · have hpos : 0 < p.length := Nat.pos_of_ne_zero hzero
    obtain ⟨payload, hpayload, -, himage⟩ := image_eq_cons hregister hpos
    rw [if_neg hzero, if_neg (Nat.not_lt.2 hlength), hpayload, himage,
      type3Header_eq p.opcode.code hpos hlength]
    rfl

/-- A packet that no header can describe is refused. -/
theorem words_of_too_long {shBase : Nat} {p : Packet} (hregister : p.NamesRegister shBase)
    (hlength : maxPacketWords < p.length) :
    p.words shBase = .error (.encodingOverflow p.length maxPacketWords) := by
  have hzero : p.length ≠ 0 := by omega
  simp only [Packet.words, checkRegister_of_names hregister]
  rw [if_neg hzero, if_pos hlength]

/-- So is a write to what is no register, however long it is. -/
theorem words_of_not_names {shBase offset : Nat} {values : List UInt32}
    (hregister : ¬(setRegisters offset values).NamesRegister shBase) :
    (setRegisters offset values).words shBase = .error (.invalidRegister offset shBase) := by
  simp only [Packet.words, checkRegister_of_not_names hregister]

/-- The walk reads the packet's own header and goes on behind the packet. -/
theorem walk_image_append {shBase : Nat} {p : Packet} (hregister : p.NamesRegister shBase)
    (hlength : p.length ≤ maxPacketWords) (rest : List UInt32) :
    PacketHeader.walk (p.image shBase ++ rest) =
      p.header?.toList ++ PacketHeader.walk rest := by
  by_cases hzero : p.length = 0
  · rw [image_of_length_eq_zero shBase hzero, header?, if_pos hzero]
    rfl
  · have hpos : 0 < p.length := Nat.pos_of_ne_zero hzero
    obtain ⟨payload, -, hpayload, himage⟩ := image_eq_cons hregister hpos
    rw [himage, List.cons_append, PacketHeader.walk, decode_headerWord p.opcode.code hpos hlength,
      header?, if_neg hzero]
    simp only [Option.toList_some, List.singleton_append, List.drop_left' hpayload]

end Packet

end GpuControl
