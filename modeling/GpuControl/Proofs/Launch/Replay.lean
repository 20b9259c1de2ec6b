import GpuControl.Proofs.Launch.Encode
import GpuControl.Proofs.Packet.Processor
import GpuControl.Proofs.Window.Bar

namespace GpuControl

/-- The two program words hold a program address that is a multiple of 256. -/
theorem join_program_words {program : UInt64} (haligned : program.toNat % 256 = 0) :
    (program >>> programHighShift).toUInt32.toUInt64 <<< 40 |||
      (program >>> programLowShift).toUInt32.toUInt64 <<< 8 = program := by
  have hlt := program.toNat_lt
  apply join_parts 40
  · rw [UInt64.toNat_shiftLeft, UInt32.toNat_toUInt64, UInt64.toNat_toUInt32,
      UInt64.toNat_shiftRight, Nat.shiftLeft_eq, Nat.shiftRight_eq_div_pow]
    change program.toNat / 2 ^ 40 % 2 ^ 32 * 2 ^ 40 % 2 ^ 64 = _
    omega
  · rw [UInt64.toNat_shiftLeft, UInt32.toNat_toUInt64, UInt64.toNat_toUInt32,
      UInt64.toNat_shiftRight, Nat.shiftLeft_eq, Nat.shiftRight_eq_div_pow]
    change program.toNat / 2 ^ 8 % 2 ^ 32 * 2 ^ 8 % 2 ^ 64 = _
    omega

namespace LaunchDescriptor

/-- Byte offsets of the registers that a launch writes. -/
def writtenOffsets (compute : ComputeLayout) (l : LaunchDescriptor) : List Nat :=
  [compute.pgmLo, compute.pgmLo + 4, compute.pgmRsrc1, compute.pgmRsrc1 + 4,
    compute.numThreadX, compute.numThreadX + 4, compute.numThreadX + 8] ++
  match l.args with
  | none => []
  | some _ => [compute.userData0, compute.userData0 + 4]

/-- The writes of a launch to single registers. -/
def writes (compute : ComputeLayout) (l : LaunchDescriptor) : List (Nat × UInt32) :=
  (l.packets compute).flatMap Packet.writes

/-- What a launch writes, register by register: program, resources, threads and, if there are any,
arguments. -/
theorem writes_eq (compute : ComputeLayout) (l : LaunchDescriptor) :
    l.writes compute =
      [(compute.pgmLo, (l.program >>> programLowShift).toUInt32),
        (compute.pgmLo + 4, (l.program >>> programHighShift).toUInt32),
        (compute.pgmRsrc1, l.resources.rsrc1), (compute.pgmRsrc1 + 4, l.resources.rsrc2),
        (compute.numThreadX, l.threads.x), (compute.numThreadX + 4, l.threads.y),
        (compute.numThreadX + 8, l.threads.z)] ++
      match l.args with
      | none => []
      | some args => [(compute.userData0, args.toUInt32),
          (compute.userData0 + 4, (args >>> 32).toUInt32)] := by
  unfold writes packets argumentPackets
  cases l.args <;> rfl

theorem map_fst_writes (compute : ComputeLayout) (l : LaunchDescriptor) :
    (l.writes compute).map (·.1) = l.writtenOffsets compute := by
  rw [writes_eq]
  unfold writtenOffsets
  cases l.args <;> rfl

/-- Performed packet by packet, a launch writes its registers, invalidates the caches, starts one
grid on the registers as they are then and waits for it. -/
theorem foldl_perform_packets (shBase : Nat) (compute : ComputeLayout) (l : LaunchDescriptor)
    (initial : ShaderRegisters) :
    (l.packets compute).foldl (CommandProcessor.perform shBase) { registers := initial } =
      let registers :=
        ((l.packets compute).foldl (CommandProcessor.perform shBase)
          { registers := initial }).registers
      { registers
        events := [.acquire 0x80000000,
          .dispatch l.workgroups.x l.workgroups.y l.workgroups.z 1 registers, .acquire 0] } := by
  have hinitiator : (0 : UInt32) ||| 1 = 1 := by decide
  unfold packets argumentPackets
  cases l.args <;>
    simp only [List.cons_append, List.nil_append, List.append_nil, List.foldl_cons, List.foldl_nil,
      CommandProcessor.perform, CommandProcessor.record, hinitiator] <;>
    rfl

theorem program_mod_of_validate {l : LaunchDescriptor} {u : Unit} (hvalid : l.validate = .ok u) :
    l.program.toNat % 256 = 0 :=
  (validate_eq_ok_iff.1 hvalid).1

end LaunchDescriptor

namespace Dispatcher

/-- Whatever the registers of a command processor hold, replaying an accepted launch starts one grid
between an invalidation and a wait, and nothing else. The grid finds the program, its resources, the
shape of a group and the arguments in their registers and every other register as it was. -/
theorem replay_encode {d : Dispatcher} {l : LaunchDescriptor} {stream : CommandStream}
    (hdistinct : (l.writtenOffsets d.map.compute).Nodup) (hencode : d.encode l = .ok stream)
    (initial : ShaderRegisters) :
    let compute := d.map.compute
    let index := shaderIndex d.map.shBase
    ∃ registers : ShaderRegisters,
      CommandProcessor.replay { registers := initial } stream.words = some
        { registers
          events := [.acquire 0x80000000,
            .dispatch l.workgroups.x l.workgroups.y l.workgroups.z 1 registers, .acquire 0] } ∧
      (registers (index (compute.pgmLo + 4))).toUInt64 <<< 40 |||
        (registers (index compute.pgmLo)).toUInt64 <<< 8 = l.program ∧
      registers (index compute.pgmRsrc1) = l.resources.rsrc1 ∧
      registers (index (compute.pgmRsrc1 + 4)) = l.resources.rsrc2 ∧
      registers (index compute.numThreadX) = l.threads.x ∧
      registers (index (compute.numThreadX + 4)) = l.threads.y ∧
      registers (index (compute.numThreadX + 8)) = l.threads.z ∧
      (∀ args, l.args = some args →
        (registers (index (compute.userData0 + 4))).toUInt64 <<< 32 |||
          (registers (index compute.userData0)).toUInt64 = args) ∧
      ∀ i, (∀ offset ∈ l.writtenOffsets compute, index offset ≠ i) →
        registers i = initial i := by
  intro compute index
  obtain ⟨hvalid, hwords, hwell⟩ := encode_ok hencode
  have hregister : ∀ p ∈ l.packets compute, p.NamesRegister d.map.shBase :=
    fun p hp => (hwell p hp).1
  have hwrites : ∀ w ∈ l.writes compute, d.map.shBase ≤ w.1 ∧ w.1 % 4 = 0 := by
    intro w hw
    obtain ⟨p, hp, hw⟩ := List.mem_flatMap.1 hw
    exact Packet.valid_of_mem_writes (hregister p hp) hw
  let registers := initial.apply d.map.shBase (l.writes compute)
  have hread {offset : Nat} {value : UInt32} (hmem : (offset, value) ∈ l.writes compute) :
      registers (index offset) = value :=
    ShaderRegisters.apply_of_mem hwrites (by rw [l.map_fst_writes]; exact hdistinct) hmem
  rw [l.writes_eq compute] at hread
  have hprogramLow : registers (index compute.pgmLo) =
      (l.program >>> programLowShift).toUInt32 := hread (by simp)
  have hprogramHigh : registers (index (compute.pgmLo + 4)) =
      (l.program >>> programHighShift).toUInt32 := hread (by simp)
  refine ⟨registers, ?_, ?_, ?_, ?_, ?_, ?_, ?_, ?_, ?_⟩
  · rw [hwords, CommandProcessor.replay_flatMap_image hwell, l.foldl_perform_packets,
      CommandProcessor.registers_foldl_perform hregister]
    rfl
  · rw [hprogramLow, hprogramHigh,
      join_program_words (LaunchDescriptor.program_mod_of_validate hvalid)]
  · exact hread (by simp)
  · exact hread (by simp)
  · exact hread (by simp)
  · exact hread (by simp)
  · exact hread (by simp)
  · intro args hargs
    rw [hargs] at hread
    have hlow : registers (index compute.userData0) = args.toUInt32 := hread (by simp)
    have hhigh : registers (index (compute.userData0 + 4)) = (args >>> 32).toUInt32 :=
      hread (by simp)
    rw [hlow, hhigh, join_dwords]
  · intro i huntouched
    apply ShaderRegisters.apply_of_untouched
    intro w hw
    apply huntouched
    rw [← l.map_fst_writes]
    exact List.mem_map_of_mem hw

/-- A processor whose registers are all zero runs the sample launch. -/
theorem replay_encode_sample :
    (sampleLaunch.writtenOffsets sample.map.compute).Nodup ∧
    ∃ stream registers, sample.encode sampleLaunch = .ok stream ∧
      CommandProcessor.replay { registers := fun _ => 0 } stream.words = some
        { registers
          events := [.acquire 0x80000000, .dispatch 4 2 1 1 registers, .acquire 0] } ∧
      (registers 0x8D).toUInt64 <<< 40 ||| (registers 0x8C).toUInt64 <<< 8 =
        0x0123456789ABCD00 := by
  have hdistinct : (sampleLaunch.writtenOffsets sample.map.compute).Nodup := by decide
  obtain ⟨stream, hencode⟩ := exists_encode_sample
  obtain ⟨registers, hreplay, hprogram, -⟩ := replay_encode hdistinct hencode fun _ => 0
  exact ⟨hdistinct, stream, registers, hencode, hreplay, hprogram⟩

end Dispatcher

end GpuControl
