import GpuControl.Device
import GpuControl.Proofs.Launch.Encode
import GpuControl.Proofs.Ring.Doorbell

namespace GpuControl

namespace Device

@[simp] theorem rings_with_pointers (d : Device) (pointers : WritePointers) :
    { d with pointers }.rings = d.rings := rfl

/-- Everything that a launch can come to. -/
inductive LaunchOutcome (l : LaunchDescriptor) (d : Device) (m : Memory) :
    Except DriverError DispatchReceipt × Device × Memory → Prop
  | unencodable {e : DriverError} (hencode : d.dispatcher.encode l = .error e) :
    LaunchOutcome l d m (.error e, d, m)
  | refused {stream : CommandStream} {e : DriverError}
    (hencode : d.dispatcher.encode l = .ok stream)
    (why : d.rings.Refusal d.config.computeRing stream.words ⟨m, d.pointers⟩ e) :
    LaunchOutcome l d m (.error e, d, m)
  | launched {stream : CommandStream} {status : RingStatus} {m' : Memory} {ptr : UInt32}
    (hencode : d.dispatcher.encode l = .ok stream)
    (hstatus : d.rings.status ⟨m, d.pointers⟩ d.config.computeRing = .ok status)
    (henabled : status.enabled = true) (hreach : d.rings.Reachable status)
    (hptr : ptr = d.rings.pointerAfter ⟨m, d.pointers⟩ status stream.words.length)
    (hcopied : (d.rings.store status).Copied
      (RingAccess.writePtr ⟨m, d.pointers⟩ status).toNat stream.words m m') :
    LaunchOutcome l d m (.ok ⟨d.config.computeRing, stream.length, ptr⟩,
      { d with pointers := (d.pointers.set d.config.computeRing ptr).set d.config.computeRing ptr },
      d.rings.announced d.config.computeRing ptr m')

/-- The doorbell cannot fail after the submission: both ask for the same ring. -/
theorem launch_outcome (l : LaunchDescriptor) (d : Device) (m : Memory) :
    LaunchOutcome l d m (launch l d m) := by
  cases hencode : d.dispatcher.encode l with
  | error e =>
    rw [launch, Dispatcher.launch_of_encode_error hencode]
    exact .unencodable hencode
  | ok stream =>
    have houtcome := d.rings.submit_outcome d.config.computeRing stream.words ⟨m, d.pointers⟩
    have hring : d.dispatcher.ring = d.config.computeRing := rfl
    rw [launch, Dispatcher.launch_of_encode_ok hencode]
    simp only [Dispatcher.submitWith, sink, hring]
    generalize d.rings.submit d.config.computeRing stream.words ⟨m, d.pointers⟩ = result
      at houtcome
    cases houtcome with
    | refused why => exact .refused hencode why
    | nothing _ _ hwords => exact absurd hwords (Dispatcher.words_encode_ne_nil hencode)
    | @copied status m' hstatus henabled _ hreach _ hcopied =>
      have hid := (RingAccess.status_spec hstatus).1
      simp only [rings_with_pointers, RingAccess.ringDoorbell_of_lt _ _ hid]
      exact .launched hencode hstatus henabled hreach rfl hcopied

/-- A launch is all or nothing. If it fails, memory and write pointers are as before. If it
succeeds, the compute ring holds the encoded words from its old write pointer on, the receipt's
write pointer is announced in the ring's register, in its doorbell slot and among the host's
pointers, and no other byte and no other pointer has changed. -/
theorem launch_all_or_nothing {d : Device} (hdisjoint : d.rings.WindowsDisjoint)
    (l : LaunchDescriptor) (m : Memory) :
    let ring := d.config.computeRing
    let wptr := d.rings.wptrOffset ring
    let slot := d.rings.slotOffset ring
    (∀ e d' m', launch l d m = (.error e, d', m') → d' = d ∧ m' = m) ∧
    ∀ receipt d' m', launch l d m = (.ok receipt, d', m') →
      ∃ stream status, d.dispatcher.encode l = .ok stream ∧
        d.rings.status ⟨m, d.pointers⟩ ring = .ok status ∧ d.rings.Reachable status ∧
        let store := d.rings.store status
        let old := ((d.pointers.get ring).getD (d.registers.read32 m wptr)).toNat
        store.words m' old receipt.words = stream.words ∧
        receipt.ring = ring ∧ receipt.words = stream.words.length ∧
        receipt.writePtr.toNat = (old + receipt.words) % store.slots ∧
        d' = { d with pointers := d'.pointers } ∧
        d'.pointers.get ring = some receipt.writePtr ∧
        (∀ other, other ≠ ring → d'.pointers.get other = d.pointers.get other) ∧
        (d.registers.window.Admits wptr 4 →
          d.registers.window.read32 m' wptr = some receipt.writePtr) ∧
        (∀ doorbell, d.doorbell = some doorbell → doorbell.window.Admits (slot doorbell) 4 →
          doorbell.window.read32 m' (slot doorbell) = some receipt.writePtr) ∧
        ∀ c, (∀ i < receipt.words, ¬c.Within (store.slot (old + i)) 4) →
          (d.registers.window.Admits wptr 4 → ¬c.Within (d.registers.window.cell wptr) 4) →
          (∀ doorbell, d.doorbell = some doorbell → doorbell.window.Admits (slot doorbell) 4 →
            ¬c.Within (doorbell.window.cell (slot doorbell)) 4) →
          m'.byte c = m.byte c := by
  intro ring wptr slot
  have houtcome := launch_outcome l d m
  constructor
  · intro e d' m' hlaunch
    rw [hlaunch] at houtcome
    cases houtcome with
    | unencodable => exact ⟨rfl, rfl⟩
    | refused => exact ⟨rfl, rfl⟩
  · intro receipt d' m' hlaunch
    rw [hlaunch] at houtcome
    cases houtcome with
    | @launched stream status copied ptr hencode hstatus _ hreach hptr hcopied =>
      rw [RingAccess.writePtr_eq hstatus] at hcopied
      have hnext := hreach.toNat_pointerAfter ⟨m, d.pointers⟩ stream.words.length
      rw [← hptr, RingAccess.writePtr_eq hstatus] at hnext
      refine ⟨stream, status, hencode, hstatus, hreach, ?_, rfl, ?_, ?_, rfl, ?_, ?_, ?_, ?_, ?_⟩
      · change (d.rings.store status).words _ _ stream.length = stream.words
        rw [RingStore.words_congr_of_sameBytes hreach.visible
          (RingAccess.sameBytes_announced_aperture hdisjoint _ _ copied),
          ← stream.length_words]
        exact hcopied.lands
      · exact stream.length_words.symm
      · rw [stream.length_words] at hnext
        exact hnext
      · exact WritePointers.get_set_self _ _ _
      · intro other hne
        change ((d.pointers.set ring ptr).set ring ptr).get other = _
        rw [WritePointers.get_set_of_ne _ _ hne, WritePointers.get_set_of_ne _ _ hne]
      · intro hadmits
        exact RingAccess.read32_announced_register hdisjoint hadmits ptr copied
      · intro doorbell hdoorbell hadmits
        exact RingAccess.read32_announced_slot hdoorbell hadmits ptr copied
      · intro c hwords hregister hslot
        change ∀ i < stream.length, _ at hwords
        rw [← stream.length_words] at hwords
        exact (RingAccess.byte_announced ptr copied hregister hslot).trans (hcopied.frame c hwords)

/-- A device behind the sample windows. -/
def sample : Device where
  info := ⟨⟨3, 0, 0⟩, amdVendorId, 0x73BF, 0x03000000, "sample"⟩
  config := { ringMargin := 0, maxStreamWords := 64 }
  registers := RingAccess.sample.registers
  aperture := RingAccess.sample.aperture
  doorbell := RingAccess.sample.doorbell
  link := none

/-- Nothing stands against the sample launch in a ring of sixty-four dwords. -/
theorem exists_launch_sample : ∃ receipt d' m',
    launch Dispatcher.sampleLaunch sample (RingMemory.sample 256).memory =
      (.ok receipt, d', m') := by
  obtain ⟨stream, hencode⟩ := Dispatcher.exists_encode_sample
  have hlength : stream.words.length = 38 := by
    rw [(Dispatcher.encode_ok hencode).2.1, length_flatMap_image]
    decide
  have hstatus := RingAccess.status_sample 256
  have houtcome := launch_outcome Dispatcher.sampleLaunch sample (RingMemory.sample 256).memory
  generalize launch _ _ _ = result at houtcome
  cases houtcome with
  | launched => exact ⟨_, _, _, rfl⟩
  | unencodable herror => cases hencode.symm.trans herror
  | refused hencode' why =>
    cases hencode.symm.trans hencode'
    cases why with
    | invalid hid => exact absurd hid (by decide)
    | disabled hstatus' hdisabled =>
      cases hstatus.symm.trans hstatus'
      cases hdisabled
    | unreachable hstatus' _ _ hreach =>
      cases hstatus.symm.trans hstatus'
      exact absurd (by decide) hreach
    | full hstatus' _ _ _ hfull =>
      cases hstatus.symm.trans hstatus'
      rw [hlength] at hfull
      exact absurd hfull (by decide)

/-- The words go around the end of the ring. -/
theorem launch_all_or_nothing_sample :
    sample.rings.WindowsDisjoint ∧
    ∃ receipt d' m' stream,
      launch Dispatcher.sampleLaunch sample (RingMemory.sample 256).memory =
        (.ok receipt, d', m') ∧
      sample.dispatcher.encode Dispatcher.sampleLaunch = .ok stream ∧
      (sample.rings.store ⟨1, 0x100, 13, 29, 256, true⟩).words m' 29 receipt.words =
        stream.words ∧
      d'.pointers.get 1 = some receipt.writePtr := by
  have hdisjoint : sample.rings.WindowsDisjoint := RingAccess.windowsDisjoint_sample
  obtain ⟨receipt, d', m', hlaunch⟩ := exists_launch_sample
  obtain ⟨stream, status, hencode, hstatus, -, hwords, -, -, -, -, hpointer, -⟩ :=
    (launch_all_or_nothing hdisjoint Dispatcher.sampleLaunch _).2 receipt d' m' hlaunch
  have hwptr : sample.registers.read32 (RingMemory.sample 256).memory 0xC20C = 29 :=
    RingAccess.read32_sample 256 (i := 2) (by decide)
  cases (RingAccess.status_sample 256).symm.trans hstatus
  refine ⟨hdisjoint, receipt, d', m', stream, hlaunch, hencode, ?_, hpointer⟩
  change (sample.rings.store _).words m'
    (sample.registers.read32 (RingMemory.sample 256).memory 0xC20C).toNat _ = _ at hwords
  rw [hwptr] at hwords
  exact hwords

end Device

end GpuControl
