import GpuControl.Proofs.Device.Advisory
import GpuControl.Proofs.Device.Mappings
import GpuControl.Proofs.Memory.Views
import GpuControl.Proofs.Ring.Doorbell
import GpuControl.Proofs.Window.Bar

namespace GpuControl

theorem DoorbellWindow.toNat_barBase {d : DoorbellWindow}
    (hlt : d.window.phys.toNat + d.barOffset < UInt64.size) :
    d.barBase.toNat = d.window.phys.toNat + d.barOffset := by
  rw [barBase, UInt64.toNat_add,
    UInt64.toNat_ofNat_of_lt' (Nat.lt_of_le_of_lt (Nat.le_add_left _ _) hlt)]
  exact Nat.mod_eq_of_lt hlt

/-- The granule of a base that was read from one word. -/
theorem toNat_granule (word : UInt32) :
    (UInt64.ofNat (word.toNat / 16 * 16 / 0x10000 * 0x10000)).toNat =
      word.toNat / 16 * 16 / 0x10000 * 0x10000 := by
  have hlt := word.toNat_lt
  apply UInt64.toNat_ofNat_of_lt'
  change _ < 2 ^ 64
  omega

namespace Platform

variable {σ : Type} {p : Platform σ} {s : σ} {addr : PciAddress} {config : DriverConfig}

/-- There are doorbells if their register has a base, the granule of that base can be mapped and the
mapping reaches the base. -/
theorem mapDoorbell_eq_some_iff {b : Bar} (hread : p.readBar s addr .doorbell = .ok b)
    {granule : UInt64} (hgranule : alignDown b.base WindowKind.doorbell.alignment = granule)
    {d : DoorbellWindow} :
    (p.mapDoorbell s addr config).1 = some d ↔
      b.base ≠ 0 ∧ ∃ mapping, (p.mapPhysical s granule config.doorbellSize).1 = .ok mapping ∧
        b.base.toNat - granule.toNat < mapping.len ∧
        d = ⟨⟨.doorbell, granule, mapping⟩, b.base.toNat - granule.toNat⟩ := by
  have haligned : isAligned granule WindowKind.doorbell.alignment = true := by
    rw [← hgranule]
    exact WindowKind.doorbell.isAligned_alignDown
  have hle : granule ≤ b.base := by
    rw [← hgranule, UInt64.le_iff_toNat_le, WindowKind.toNat_alignDown_alignment]
    exact Nat.div_mul_le_self _ _
  simp only [mapDoorbell, hread, hgranule]
  split
  · next hzero => exact ⟨nofun, fun h => absurd hzero h.1⟩
  next hbase =>
  rw [and_iff_right hbase]
  split
  -- The granule cannot be mapped.
  · next hmap =>
    refine ⟨nofun, fun ⟨mapping, hmapping, hreach, _⟩ => ?_⟩
    have hwindow := mapWindow_eq_ok_iff.2
      ⟨haligned, mapping, hmapping, Nat.zero_lt_of_lt hreach, rfl⟩
    cases hwindow.symm.trans (congrArg Prod.fst hmap)
  next hmap =>
  obtain ⟨-, mapping, hmapping, -, rfl⟩ := mapWindow_eq_ok_iff.1 (congrArg Prod.fst hmap)
  split
  -- The mapping ends before the base, so it is given back.
  · next hwrap =>
    refine ⟨nofun, fun ⟨mapping', hmapping', hreach, _⟩ => ?_⟩
    cases hmapping.symm.trans hmapping'
    cases hwrap.symm.trans (DoorbellWindow.wrap_eq_ok_iff.2 ⟨hle, hreach, rfl⟩)
  · next hwrap =>
    obtain ⟨-, hreach, rfl⟩ := DoorbellWindow.wrap_eq_ok_iff.1 hwrap
    constructor
    · rintro ⟨⟩
      exact ⟨mapping, hmapping, hreach, rfl⟩
    · rintro ⟨mapping', hmapping', -, rfl⟩
      cases hmapping.symm.trans hmapping'
      rfl

end Platform

namespace RingAccess

variable {rings : RingAccess} {id : UInt8}

/-- What ringing a doorbell does where the registers lie as on the known chips: the host's pointer
is set, the register and the slot take the word if their windows have them, and nothing else
changes. -/
structure Announces (rings : RingAccess) (id : UInt8) (ptr : UInt32) (s s' : RingMemory) :
    Prop where
  pointer : s'.pointers.get id = some ptr
  pointers : ∀ other, other ≠ id → s'.pointers.get other = s.pointers.get other
  register : rings.registers.window.Takes (0xC10C + 0x100 * id.toNat) ptr s.memory s'.memory
  slot : ∀ d, rings.doorbell = some d →
    d.window.Takes (d.barOffset + 4 * id.toNat) ptr s.memory s'.memory
  frame : ∀ c, ¬rings.registers.window.Owns c →
    (∀ d, rings.doorbell = some d → ¬d.window.Owns c) → s'.memory.byte c = s.memory.byte c

theorem ringCount_gfx10 (hmap : rings.map = .gfx10) : rings.map.ringCount = 8 := by
  rw [hmap]
  rfl

theorem slotOffset_gfx10 (hmap : rings.map = .gfx10) (id : UInt8) (d : DoorbellWindow) :
    rings.slotOffset id d = d.barOffset + 4 * id.toNat := by
  rw [slotOffset, hmap]
  change id.toNat * 4 + d.barOffset = _
  omega

/-- A doorbell of a ring that the map knows always comes to an announcement. -/
theorem announces_ringDoorbell (hmap : rings.map = .gfx10)
    (hdisjoint : ∀ d, rings.doorbell = some d → d.window.Disjoint rings.registers.window)
    (haligned : ∀ d, rings.doorbell = some d → d.barOffset % 4 = 0) (hid : id < 8) (ptr : UInt32)
    (s : RingMemory) :
    ∃ s', rings.ringDoorbell id ptr s = (.ok (), s') ∧ rings.Announces id ptr s s' := by
  have hcount : id < rings.map.ringCount := by
    rw [ringCount_gfx10 hmap]
    exact hid
  have hwptr : rings.wptrOffset id = 0xC10C + 0x100 * id.toNat := by
    rw [wptrOffset_gfx10 hmap, ringBlock_gfx10 hmap]
    omega
  refine ⟨_, ringDoorbell_of_lt ptr s hcount, ?_⟩
  constructor
  case pointer => exact WritePointers.get_set_self _ _ _
  case pointers => exact fun other hne => WritePointers.get_set_of_ne _ _ hne
  case register =>
    rw [← hwptr]
    exact takes_announced_registers hdisjoint (by omega) ptr s.memory
  case slot =>
    intro d hd
    have hslot := slotOffset_gfx10 hmap id d
    have hoffset := haligned d hd
    rw [← hslot]
    exact takes_announced_slot hd (hdisjoint d hd) (by omega) ptr s.memory
  case frame =>
    intro c hregisters hdoorbell
    apply byte_announced
    · exact fun hadmits hin => hregisters (Window.owns_of_within hadmits.2 hin)
    · exact fun d hd hadmits hin => hdoorbell d hd (Window.owns_of_within hadmits.2 hin)

end RingAccess

namespace SimulatedBus

variable {bus : SimulatedBus} {phys : UInt64}

/-- What was mapped before does not matter. -/
theorem mapPhysical_events (bus : SimulatedBus) (events : List MappingEvent) (phys : UInt64)
    (len : Nat) :
    (({ bus with events } : SimulatedBus).mapPhysical phys len).1 =
      (bus.mapPhysical phys len).1 := by
  have hlocate : ({ bus with events } : SimulatedBus).locate phys len = bus.locate phys len := rfl
  simp only [mapPhysical, hlocate]
  split
  · rfl
  split
  · rfl
  split <;> rfl

/-- A word that a window took can be seen from outside at its physical address. -/
theorem Sound.peek32_of_takes (hsound : bus.Sound) {w : Window} {offset : Nat} {value : UInt32}
    {m m' : Memory} (hlocate : bus.locate phys w.len = some w.mapping.start)
    (htakes : w.Takes offset value m m') (hinside : w.Contains offset 4) {addr : UInt64}
    (haddr : addr.toNat = phys.toNat + offset) (haligned : addr.toNat % 4 = 0) :
    bus.peek32 m' addr = .ok value := by
  rw [Window.Takes, if_pos hinside] at htakes
  rw [hsound.peek32_eq hlocate hinside haddr haligned]
  exact congrArg Except.ok htakes.1

/-- Every base address register of a function can be read, whether the function is there or not. -/
theorem exists_readConfig_eq_ok (bus : SimulatedBus) (addr : PciAddress) (kind : WindowKind) :
    ∃ word, bus.readConfig addr kind.configOffset = .ok word := by
  have hoffset : kind.configOffset.toNat % 4 = 0 ∧ kind.configOffset.toNat / 4 < configWords := by
    cases kind <;> decide
  rw [readConfig, dif_pos hoffset]
  split
  · exact ⟨_, rfl⟩
  · exact ⟨_, rfl⟩

theorem faulty_nil : faulty [] = platform := by
  simp only [faulty, Platform.withConfigFaults, List.not_mem_nil, if_false]

end SimulatedBus

namespace Device

variable {bus after : SimulatedBus} {m : Memory} {selector : DeviceSelector}
  {config : DriverConfig} {d : Device}

/-- Opening a device moves no region of memory. -/
theorem regions_init (hinit : init SimulatedBus.platform m selector config bus = (.ok d, after)) :
    after.regions = bus.regions := by
  obtain ⟨_, _, hlogs, -, -⟩ := SimulatedBus.balanced_init [] m selector config bus
  rw [SimulatedBus.faulty_nil, hinit] at hlogs
  exact hlogs.regions_eq

/-- By the time the doorbells are mapped, two windows are on record and nothing else has changed. -/
theorem doorbell_of_init
    (hinit : init SimulatedBus.platform m selector config bus = (.ok d, after)) :
    d.config = config ∧ ∃ events,
      (SimulatedBus.platform.mapDoorbell { bus with events } d.info.address config).1 =
        d.doorbell := by
  have houtcome := init_outcome SimulatedBus.platform m selector config bus
  rw [hinit] at houtcome
  cases houtcome with
  | opened _ _ hregisters haperture hdoorbell =>
    obtain ⟨-, -, -, hfirst⟩ :=
      SimulatedBus.mapPhysical_ok (Platform.mapPhysical_of_mapWindow hregisters)
    obtain ⟨-, -, -, hsecond⟩ :=
      SimulatedBus.mapPhysical_ok (Platform.mapPhysical_of_mapWindow haperture)
    subst hfirst hsecond
    exact ⟨rfl, _, congrArg Prod.fst hdoorbell⟩

/-- The doorbells of an opened device, told from the word in their base address register. -/
theorem doorbell_eq_some_iff
    (hinit : init SimulatedBus.platform m selector config bus = (.ok d, after)) {word : UInt32}
    (hword : bus.readConfig d.info.address WindowKind.doorbell.configOffset = .ok word)
    {doorbell : DoorbellWindow} :
    let base := word.toNat / 16 * 16
    let granule := base / 0x10000 * 0x10000
    d.doorbell = some doorbell ↔
      base ≠ 0 ∧ ∃ mapping,
        (bus.mapPhysical (.ofNat granule) config.doorbellSize).1 = .ok mapping ∧
          base - granule < config.doorbellSize ∧
          doorbell = ⟨⟨.doorbell, .ofNat granule, mapping⟩, base - granule⟩ := by
  intro base granule
  obtain ⟨-, events, hdoorbell⟩ := doorbell_of_init hinit
  have hread : SimulatedBus.platform.readBar { bus with events } d.info.address .doorbell =
      .ok (.decode .doorbell word none) := Platform.readBar_of_dword rfl hword
  have hbase : (Bar.decode .doorbell word none).base.toNat = base := by
    have haddress := Bar.toNat_address word none
    rwa [Option.getD_none, UInt32.toNat_zero, Nat.zero_mul, Nat.zero_add] at haddress
  have hgranule_toNat : (UInt64.ofNat granule).toNat = granule := toNat_granule word
  have hgranule : alignDown (Bar.decode .doorbell word none).base WindowKind.doorbell.alignment =
      .ofNat granule := by
    rw [← UInt64.toNat_inj, WindowKind.toNat_alignDown_alignment, hbase, hgranule_toNat]
    rfl
  have hzero : (Bar.decode .doorbell word none).base ≠ 0 ↔ base ≠ 0 := by
    rw [← hbase, ne_eq, ← UInt64.toNat_inj]
    rfl
  have hmapping : (SimulatedBus.platform.mapPhysical { bus with events } (.ofNat granule)
      config.doorbellSize).1 = (bus.mapPhysical (.ofNat granule) config.doorbellSize).1 :=
    bus.mapPhysical_events events _ _
  rw [← hdoorbell, Platform.mapDoorbell_eq_some_iff hread hgranule, hbase, hgranule_toNat, hmapping,
    hzero]
  refine and_congr_right fun _ => exists_congr fun mapping => and_congr_right fun hmap => ?_
  obtain ⟨-, hlen, -⟩ := SimulatedBus.mapPhysical_ok (Prod.ext hmap rfl)
  rw [hlen]

/-- Whether a device has doorbells: their register holds a base, the granule behind it can be
mapped, and the mapping reaches the base. -/
theorem isSome_doorbell_iff
    (hinit : init SimulatedBus.platform m selector config bus = (.ok d, after)) {word : UInt32}
    (hword : bus.readConfig d.info.address WindowKind.doorbell.configOffset = .ok word) :
    let base := word.toNat / 16 * 16
    let granule := base / 0x10000 * 0x10000
    d.doorbell.isSome ↔ base ≠ 0 ∧ 0 < config.doorbellSize ∧
      (∃ mapping, (bus.mapPhysical (.ofNat granule) config.doorbellSize).1 = .ok mapping) ∧
      base - granule < config.doorbellSize := by
  intro base granule
  rw [Option.isSome_iff_exists]
  constructor
  · rintro ⟨doorbell, hdoorbell⟩
    obtain ⟨hbase, mapping, hmapping, hreach, -⟩ :=
      (doorbell_eq_some_iff hinit hword).1 hdoorbell
    exact ⟨hbase, Nat.zero_lt_of_lt hreach, ⟨mapping, hmapping⟩, hreach⟩
  · rintro ⟨hbase, -, ⟨mapping, hmapping⟩, hreach⟩
    exact ⟨_, (doorbell_eq_some_iff hinit hword).2 ⟨hbase, mapping, hmapping, hreach, rfl⟩⟩

/-- Where an opened device's doorbells are, and where their bytes are kept. -/
theorem doorbell_located
    (hinit : init SimulatedBus.platform m selector config bus = (.ok d, after)) {word : UInt32}
    (hword : bus.readConfig d.info.address WindowKind.doorbell.configOffset = .ok word)
    {doorbell : DoorbellWindow} (hdoorbell : d.doorbell = some doorbell) :
    let base := word.toNat / 16 * 16
    let granule := base / 0x10000 * 0x10000
    doorbell.barBase.toNat = base ∧ doorbell.barOffset = base - granule ∧
      doorbell.window.len = config.doorbellSize ∧
      after.locate (.ofNat granule) doorbell.window.len = some doorbell.window.mapping.start := by
  intro base granule
  have hlt := word.toNat_lt
  have hgranule : (UInt64.ofNat granule).toNat = granule := toNat_granule word
  obtain ⟨-, mapping, hmap, -, rfl⟩ := (doorbell_eq_some_iff hinit hword).1 hdoorbell
  obtain ⟨-, hlen, hlocate, -⟩ := SimulatedBus.mapPhysical_ok (Prod.ext hmap rfl)
  refine ⟨?_, rfl, hlen, ?_⟩
  · have hsum : (UInt64.ofNat granule).toNat + (base - granule) = base := by omega
    rw [DoorbellWindow.toNat_barBase, hsum]
    change (UInt64.ofNat granule).toNat + (base - granule) < 2 ^ 64
    omega
  · change after.locate _ mapping.len = some mapping.start
    rw [hlen]
    simp only [SimulatedBus.locate, regions_init hinit] at hlocate ⊢
    exact hlocate

/-- A ring's slot is seen from outside at the base and one dword further for each ring before. -/
theorem peek32_slot
    (hinit : init SimulatedBus.platform m selector config bus = (.ok d, after)) {word : UInt32}
    (hword : bus.readConfig d.info.address WindowKind.doorbell.configOffset = .ok word)
    {id : UInt8} {ptr : UInt32} {s s' : RingMemory} (hannounces : d.rings.Announces id ptr s s')
    (hsome : d.doorbell.isSome) (hsound : after.Sound) :
    let base := word.toNat / 16 * 16
    let granule := base / 0x10000 * 0x10000
    base + 4 * id.toNat + 4 ≤ granule + config.doorbellSize →
      after.peek32 s'.memory (.ofNat (base + 4 * id.toNat)) = .ok ptr := by
  intro base granule hreach
  obtain ⟨doorbell, hdoorbell⟩ := Option.isSome_iff_exists.1 hsome
  obtain ⟨-, hoffset, hlen, hlocate⟩ := doorbell_located hinit hword hdoorbell
  have hle : granule ≤ base := Nat.div_mul_le_self _ _
  have hinside : doorbell.window.Contains (doorbell.barOffset + 4 * id.toNat) 4 := by
    rw [Window.Contains, hoffset, hlen]
    omega
  have haddress : (UInt64.ofNat (base + 4 * id.toNat)).toNat = base + 4 * id.toNat := by
    have hlt := word.toNat_lt
    have hid := id.toNat_lt
    exact UInt64.toNat_ofNat_of_lt' (show base + 4 * id.toNat < 2 ^ 64 by omega)
  have hgranule : (UInt64.ofNat granule).toNat = granule := toNat_granule word
  refine hsound.peek32_of_takes hlocate (hannounces.slot doorbell hdoorbell) hinside ?_ ?_
  · rw [haddress, hgranule]
    omega
  · rw [haddress]
    omega

/-- A doorbell hits its ring's slot or nothing. The device has doorbells if their register has a
base, memory can be mapped at the granule of that base and the mapping reaches the base. Ringing for
a ring that exists stores the pointer in the ring's dword, counted from the base, if the mapping has
it, and in the ring's write pointer register, if the register window has that; no other byte
changes, and nothing at all for a ring that does not exist. -/
theorem doorbell_slot_or_nothing (hmap : config.registers = .gfx10)
    (hinit : init SimulatedBus.platform m selector config bus = (.ok d, after))
    (hdisjoint : ∀ doorbell, d.doorbell = some doorbell →
      doorbell.window.Disjoint d.registers.window) :
    ∃ word, bus.readConfig d.info.address WindowKind.doorbell.configOffset = .ok word ∧
      let base := word.toNat / 16 * 16
      let granule := base / 0x10000 * 0x10000
      let size := config.doorbellSize
      (d.doorbell.isSome ↔ base ≠ 0 ∧ 0 < size ∧
        (∃ mapping, (bus.mapPhysical (.ofNat granule) size).1 = .ok mapping) ∧
        base - granule < size) ∧
      (∀ doorbell, d.doorbell = some doorbell →
        doorbell.barBase.toNat = base ∧ doorbell.barOffset = base - granule ∧
          doorbell.window.len = size ∧
          ∀ i < size, after.Keeps (doorbell.window.cell i) (granule + i)) ∧
      ∀ id ptr s,
        (id < 8 → ∃ s', d.rings.ringDoorbell id ptr s = (.ok (), s') ∧
          d.rings.Announces id ptr s s' ∧
          (d.doorbell.isSome → after.Sound → base + 4 * id.toNat + 4 ≤ granule + size →
            after.peek32 s'.memory (.ofNat (base + 4 * id.toNat)) = .ok ptr)) ∧
        (8 ≤ id → d.rings.ringDoorbell id ptr s = (.error (.invalidRing id 8), s)) := by
  obtain ⟨word, hword⟩ := bus.exists_readConfig_eq_ok d.info.address .doorbell
  refine ⟨word, hword, ?_⟩
  intro base granule size
  have hrings : d.rings.map = .gfx10 := by
    rw [← hmap, ← (doorbell_of_init hinit).1]
    rfl
  refine ⟨isSome_doorbell_iff hinit hword, ?_, fun id ptr s => ⟨fun hid => ?_, fun hid => ?_⟩⟩
  · intro doorbell hdoorbell
    obtain ⟨hbase, hoffset, hlen, hlocate⟩ := doorbell_located hinit hword hdoorbell
    refine ⟨hbase, hoffset, hlen, fun i hi => ?_⟩
    rw [hlen] at hlocate
    have hkeeps := SimulatedBus.keeps_of_locate hlocate hi
    rwa [toNat_granule] at hkeeps
  · have haligned : ∀ doorbell, d.rings.doorbell = some doorbell → doorbell.barOffset % 4 = 0 := by
      intro doorbell hdoorbell
      obtain ⟨-, hoffset, -⟩ := doorbell_located hinit hword hdoorbell
      omega
    obtain ⟨s', hring, hannounces⟩ :=
      RingAccess.announces_ringDoorbell hrings hdisjoint haligned hid ptr s
    exact ⟨s', hring, hannounces, peek32_slot hinit hword hannounces⟩
  · rw [← RingAccess.ringCount_gfx10 hrings] at hid ⊢
    exact RingAccess.ringDoorbell_of_le ptr s hid

/-- The doorbells' register points 16 bytes before the end of what is mapped for it, flags set. -/
def narrowBus : SimulatedBus :=
  sampleBus.setConfig ⟨3, 0, 0⟩ WindowKind.doorbell.configOffset 0xF010FFF7

theorem narrowBus_sound : narrowBus.Sound :=
  SimulatedBus.sound_of_ranges (show narrowBus.regions =
    [(0xF0000000, 0x10000), (0xE0000000, 0x100000), (0xF0100000, 0x10000)].map fun range =>
      .ofLength range.1 range.2 from rfl)
    (by decide) (by decide)

theorem exists_opened_narrow_sample :
    ∃ d after, init SimulatedBus.platform .empty (.at 3 0) sampleSettings narrowBus =
        (.ok d, after) ∧ d.info.address = ⟨3, 0, 0⟩ ∧ d.doorbell.isSome ∧
      ∀ doorbell, d.doorbell = some doorbell →
        doorbell.window.Disjoint d.registers.window := by
  refine ⟨_, _, (InitOutcome.opened rfl rfl rfl rfl rfl
    (RegisterBlock.read32_empty_ne_sentinel (by decide)) rfl).eq_init, rfl, rfl, ?_⟩
  rintro doorbell ⟨⟩ c ⟨hdoorbell, -⟩ ⟨hregisters, -⟩
  cases hdoorbell.symm.trans hregisters

/-- The last slot that is there is that of ring 3. -/
theorem doorbell_slot_or_nothing_sample :
    sampleSettings.registers = .gfx10 ∧
    ∃ d after, init SimulatedBus.platform .empty (.at 3 0) sampleSettings narrowBus =
        (.ok d, after) ∧
      (∀ doorbell, d.doorbell = some doorbell →
        doorbell.window.Disjoint d.registers.window) ∧
      ∃ s', d.rings.ringDoorbell 3 7 ⟨.empty, {}⟩ = (.ok (), s') ∧
        after.peek32 s'.memory 0xF010FFFC = .ok 7 := by
  obtain ⟨d, after, hinit, haddress, hsome, hdisjoint⟩ := exists_opened_narrow_sample
  obtain ⟨word, hword, -, -, hrings⟩ := doorbell_slot_or_nothing rfl hinit hdisjoint
  have hregister : narrowBus.readConfig ⟨3, 0, 0⟩ WindowKind.doorbell.configOffset =
      .ok 0xF010FFF7 := rfl
  rw [haddress] at hword
  cases hword.symm.trans hregister
  obtain ⟨s', hring, -, hpeek⟩ := (hrings 3 7 ⟨.empty, {}⟩).1 (by decide)
  have hsound : after.Sound := by
    have hregions := regions_init hinit
    exact ⟨hregions ▸ narrowBus_sound.disjoint, hregions ▸ narrowBus_sound.base_mod,
      hregions ▸ narrowBus_sound.size_mod⟩
  exact ⟨rfl, d, after, hinit, hdisjoint, s', hring, hpeek hsome hsound (by decide)⟩

end Device

end GpuControl
