import GpuControl.Launch.Dispatcher
import GpuControl.Proofs.Packet.Stream
import GpuControl.Proofs.Window.Bar

namespace GpuControl

theorem Dims.hasZero_eq_false_iff {d : Dims} : d.hasZero = false ↔ ∀ n ∈ d.toList, n ≠ 0 := by
  rw [hasZero, ← Bool.not_eq_true, List.contains_iff_mem]
  exact ⟨fun hzero n hn h => hzero (h ▸ hn), fun hall hzero => hall 0 hzero rfl⟩

/-- A launch is valid if its program is aligned and no dimension is zero. -/
theorem LaunchDescriptor.validate_eq_ok_iff {l : LaunchDescriptor} :
    l.validate = .ok () ↔ l.program.toNat % 256 = 0 ∧
      ∀ n ∈ l.threads.toList ++ l.workgroups.toList, n ≠ 0 := by
  have haligned : isAligned l.program programAlignment = true ↔ l.program.toNat % 256 = 0 :=
    isAligned_iff (show programAlignment.toNat = 2 ^ 8 by decide)
  rw [← haligned, List.forall_mem_append, ← Dims.hasZero_eq_false_iff, ← Dims.hasZero_eq_false_iff]
  unfold validate
  cases isAligned l.program programAlignment <;> cases l.threads.hasZero <;>
    cases l.workgroups.hasZero <;> simp

/-- A launch that is encoded is valid, and its packets have been appended. -/
theorem LaunchDescriptor.encodeInto_ok {map : RegisterMap} {l : LaunchDescriptor}
    {s s' : CommandStream} {u : Unit} (hinto : l.encodeInto map s = (.ok u, s')) :
    l.validate = .ok () ∧ s.appendAll (l.packets map.compute) = (.ok (), s') := by
  unfold encodeInto at hinto
  cases hvalid : l.validate with
  | error e =>
    rw [hvalid] at hinto
    cases hinto
  | ok u =>
    rw [hvalid] at hinto
    exact ⟨rfl, hinto⟩

namespace Dispatcher

variable {d : Dispatcher} {l : LaunchDescriptor} {stream : CommandStream}

theorem encodeInto_of_encode_ok (hencode : d.encode l = .ok stream) :
    l.encodeInto d.map d.stream = (.ok (), stream) := by
  unfold encode at hencode
  cases hresult : l.encodeInto d.map d.stream with
  | mk result s =>
    rw [hresult] at hencode
    cases result with
    | error e => cases hencode
    | ok u =>
      cases hencode
      rfl

theorem encodeInto_of_encode_error {e : DriverError} (hencode : d.encode l = .error e) :
    ∃ s, l.encodeInto d.map d.stream = (.error e, s) := by
  unfold encode at hencode
  cases hresult : l.encodeInto d.map d.stream with
  | mk result s =>
    rw [hresult] at hencode
    cases result with
    | error e' =>
      cases hencode
      exact ⟨s, rfl⟩
    | ok u => cases hencode

/-- An accepted launch is valid, and its stream holds its packets, all of them well formed. -/
theorem encode_ok (hencode : d.encode l = .ok stream) :
    l.validate = .ok () ∧
      stream.words = (l.packets d.map.compute).flatMap (Packet.image d.map.shBase) ∧
      ∀ p ∈ l.packets d.map.compute,
        p.NamesRegister d.map.shBase ∧ p.length ≤ maxPacketWords := by
  obtain ⟨hvalid, happend⟩ := LaunchDescriptor.encodeInto_ok (encodeInto_of_encode_ok hencode)
  obtain ⟨hwords, -, hwell⟩ := CommandStream.appendAll_ok happend
  have hempty : d.stream.words = [] := List.take_zero
  rw [hempty, List.nil_append] at hwords
  exact ⟨hvalid, hwords, hwell⟩

/-- Every launch starts with a pause. -/
theorem words_encode_ne_nil (hencode : d.encode l = .ok stream) : stream.words ≠ [] := by
  obtain ⟨-, hwords, -⟩ := encode_ok hencode
  intro hempty
  have hnone : (l.packets d.map.compute).flatMap (Packet.image d.map.shBase) = [] :=
    hwords.symm.trans hempty
  have hpause : Packet.nop alignmentNopWords ∈ l.packets d.map.compute :=
    List.mem_append_left _ (List.mem_append_left _ List.mem_cons_self)
  cases List.flatMap_eq_nil_iff.1 hnone _ hpause

section Sink

variable {σ : Type} {sink : CommandSink σ} {state : σ}

/-- The sink hears nothing of a launch that cannot be encoded. -/
theorem launch_of_encode_error {e : DriverError} (hencode : d.encode l = .error e) :
    d.launch sink l state = (.error e, state) := by
  obtain ⟨s, hinto⟩ := encodeInto_of_encode_error hencode
  simp only [launch, submitWith, hinto]

/-- Once a launch is encoded, only its stream matters. -/
theorem launch_of_encode_ok (hencode : d.encode l = .ok stream) :
    d.launch sink l state = d.submitWith sink (fun _ => (.ok (), stream)) state := by
  simp only [launch, submitWith, encodeInto_of_encode_ok hencode]

end Sink

/-- The known chips' compute ring, with room for any launch. -/
def sample : Dispatcher := ⟨defaultComputeRing, 64, .gfx10⟩

/-- A launch with arguments, its program high up in device memory. -/
def sampleLaunch : LaunchDescriptor where
  program := 0x0123456789ABCD00
  threads := ⟨64, 1, 1⟩
  workgroups := ⟨4, 2, 1⟩
  args := some 0x123456700

/-- The sample launch fits into the sample dispatcher's stream. -/
theorem exists_encode_sample : ∃ stream, sample.encode sampleLaunch = .ok stream := by
  have hok : (sample.encode sampleLaunch).isOk = true := by decide +kernel
  cases hencode : sample.encode sampleLaunch with
  | ok stream => exact ⟨stream, rfl⟩
  | error e =>
    rw [hencode] at hok
    cases hok

end Dispatcher

end GpuControl
