import GpuControl.Proofs.Packet.Buffer
import GpuControl.Proofs.Packet.Processor

namespace GpuControl

variable {shBase offset : Nat} {index : UInt32}

theorem registerIndex_eq_ok_iff :
    registerIndex shBase offset = .ok index ↔
      shBase ≤ offset ∧ offset % 4 = 0 ∧ shaderIndex shBase offset = index.toNat := by
  unfold registerIndex shaderIndex
  constructor
  · intro hindex
    split at hindex
    · cases hindex
    next hvalid =>
      cases hindex
      rw [UInt32.toNat_ofNat_of_lt' (by omega)]
      omega
  · rintro ⟨hbase, haligned, hindex⟩
    have hlt := index.toNat_lt
    have hsize : UInt32.size = 2 ^ 32 := rfl
    rw [if_neg (by omega), hindex, UInt32.ofNat_toNat]

/-- An index leads back to the offset exactly if the base is a multiple of a dword. -/
theorem registerIndex_round_trip_iff (hindex : registerIndex shBase offset = .ok index) :
    shBase + 4 * index.toNat = offset ↔ shBase % 4 = 0 := by
  obtain ⟨hbase, haligned, hindex⟩ := registerIndex_eq_ok_iff.1 hindex
  unfold shaderIndex at hindex
  omega

/-- No two offsets share an index. -/
theorem registerIndex_inj {other : Nat} (hindex : registerIndex shBase offset = .ok index)
    (hother : registerIndex shBase other = .ok index) : offset = other := by
  obtain ⟨hbase, haligned, hindex⟩ := registerIndex_eq_ok_iff.1 hindex
  obtain ⟨hbase', haligned', hother⟩ := registerIndex_eq_ok_iff.1 hother
  exact shaderIndex_inj hbase haligned hbase' haligned' (hindex.trans hother.symm)

/-- Stored values take the indices from the first on, one each. -/
theorem ShaderRegisters.store_eq (r : ShaderRegisters) (index : Nat) (values : List UInt32)
    (i : Nat) :
    r.store index values i = if index ≤ i then values[i - index]?.getD (r i) else r i := by
  induction values generalizing r index with
  | nil => simp [store]
  | cons v vs ih =>
    rw [store, ih]
    rcases Nat.lt_trichotomy i index with hlt | rfl | hgt
    · rw [if_neg (by omega), if_neg (by omega), set_of_ne r (by omega)]
    · rw [if_neg (by omega), if_pos (Nat.le_refl i), set_self, Nat.sub_self]
      rfl
    · have hsub : i - index = i - (index + 1) + 1 := by omega
      rw [if_pos (by omega), if_pos (by omega), set_of_ne r (by omega), hsub,
        List.getElem?_cons_succ]

/-- The registers after the values were written at byte offsets `offset`, `offset + 4` and so on. -/
def ShaderRegisters.overwritten (r : ShaderRegisters) (shBase offset : Nat)
    (values : List UInt32) : ShaderRegisters := fun i =>
  let place := shBase + 4 * i
  if offset ≤ place then values[(place - offset) / 4]?.getD (r i) else r i

theorem ShaderRegisters.store_eq_overwritten (hshBase : shBase % 4 = 0) (hbase : shBase ≤ offset)
    (haligned : offset % 4 = 0) (r : ShaderRegisters) (values : List UInt32) :
    r.store (shaderIndex shBase offset) values = r.overwritten shBase offset values := by
  funext i
  have hstart : shBase + 4 * shaderIndex shBase offset = offset := by
    unfold shaderIndex
    omega
  have hplace : (shBase + 4 * i - offset) / 4 = i - shaderIndex shBase offset := by omega
  have hle : shaderIndex shBase offset ≤ i ↔ offset ≤ shBase + 4 * i := by omega
  rw [store_eq, overwritten, hplace]
  exact if_congr hle rfl rfl

/-- A register write that was placed into a buffer is one that the processor carries out. -/
theorem Packet.replay_placed {values : List UInt32} {buffer after : Array UInt32}
    {start stop : Nat}
    (hplaced : (setRegisters offset values).encodeAt shBase buffer start = (.ok stop, after))
    (c : CommandProcessor) :
    shBase ≤ offset ∧ offset % 4 = 0 ∧
      c.replay (after.extract start stop).toList =
        some (c.perform shBase (.setRegisters offset values)) := by
  have hne : setRegisters offset values ≠ .nop 0 := nofun
  have hok : ((setRegisters offset values).encodeAt shBase buffer start).1 = .ok stop := by
    rw [hplaced]
  obtain ⟨hlength, hroom, hregister⟩ := (encodeAt_ok_iff hne).1 ⟨stop, hok⟩
  obtain ⟨hstop, -, hbuffer, -⟩ := encodeAt_placed hne hok
  have hafter : after = writeWords buffer start ((setRegisters offset values).image shBase) :=
    (congrArg Prod.snd hplaced).symm.trans hbuffer
  rw [← length_image shBase] at hstop hroom
  have hwords : (after.extract start stop).toList = (setRegisters offset values).image shBase := by
    rw [hafter, hstop]
    exact extract_writeWords hroom
  have hreplay := CommandProcessor.replay_image_append hregister hlength c []
  rw [List.append_nil, CommandProcessor.replay] at hreplay
  exact ⟨hregister.1, hregister.2.1, hwords ▸ hreplay⟩

/-- Two offsets never share an index. An index leads back to its offset exactly if the base is a
multiple of a dword, and then a register write, wherever it was placed, overwrites the registers at
the offsets from its own on, a dword apart, and no others. -/
theorem registerIndex_exact (shBase : Nat) :
    (∀ offset other index, registerIndex shBase offset = .ok index →
      registerIndex shBase other = .ok index → offset = other) ∧
    (∀ offset index, registerIndex shBase offset = .ok index →
      (shBase + 4 * index.toNat = offset ↔ shBase % 4 = 0)) ∧
    (shBase % 4 = 0 → ∀ offset values buffer start stop after,
      (Packet.setRegisters offset values).encodeAt shBase buffer start = (.ok stop, after) →
      ∀ c : CommandProcessor, c.replay (after.extract start stop).toList =
        some { c with registers := c.registers.overwritten shBase offset values }) := by
  refine ⟨fun _ _ _ => registerIndex_inj, fun _ _ => registerIndex_round_trip_iff, ?_⟩
  intro hshBase offset values buffer start stop after hplaced c
  obtain ⟨hbase, haligned, hreplay⟩ := Packet.replay_placed hplaced c
  rw [hreplay, CommandProcessor.perform,
    ShaderRegisters.store_eq_overwritten hshBase hbase haligned]

/-- From a base between two dwords, the low word of the program address is counted to the place two
bytes before its register. -/
theorem registerIndex_astray_sample :
    registerIndex 0x2C02 0x2E30 = .ok 0x8B ∧ 0x2C02 + 4 * (0x8B : UInt32).toNat ≠ 0x2E30 := by
  decide

end GpuControl
