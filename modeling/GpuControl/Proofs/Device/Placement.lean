import GpuControl.Proofs.Device.Opening
import GpuControl.Proofs.Discovery.Placed
import GpuControl.Proofs.Memory.Views
import GpuControl.Proofs.Platform.LinkQuery

namespace GpuControl

namespace SimulatedBus

variable {bus : SimulatedBus} {phys : UInt64} {len : Nat} {kind : WindowKind}

/-- Memory that is there can be mapped as a window, whatever was mapped before. -/
theorem Sound.mapWindow_eq_ok (hsound : bus.Sound) (hdenied : phys ∉ bus.denied)
    (hbacked : bus.Backed phys len) (hlen : 0 < len)
    (haligned : isAligned phys kind.alignment = true) (events : List MappingEvent) :
    ∃ start, bus.locate phys len = some start ∧
      platform.mapWindow { bus with events } kind phys len =
        (.ok ⟨kind, phys, ⟨phys, start, len⟩⟩, { bus with events := .mapped phys :: events }) := by
  obtain ⟨start, hlocate⟩ := exists_locate_iff.2 hbacked
  obtain ⟨r, hr, hin, hoffset⟩ := exists_region_of_locate hlocate
  have hmod : start.offset % 8 = 0 := by
    have hbase := hsound.base_mod r (List.mem_of_getElem? hr)
    have hphys := WindowKind.mod_of_isAligned haligned (show 8 ∣ 4096 by decide)
    omega
  have hcheck : Window.checkAlignment kind phys = .ok () := if_pos haligned
  have hmap : ({ bus with events } : SimulatedBus).mapPhysical phys len =
      (.ok ⟨phys, start, len⟩, { bus with events := .mapped phys :: events }) := by
    have hlocate' : ({ bus with events } : SimulatedBus).locate phys len = some start := hlocate
    rw [mapPhysical, if_neg hdenied]
    simp only [hlocate', if_neg (not_not_intro hmod)]
  have hwrap : Window.wrap kind phys ⟨phys, start, len⟩ = .ok ⟨kind, phys, ⟨phys, start, len⟩⟩ :=
    Window.wrap_eq_ok_iff.2 ⟨haligned, hlen, rfl⟩
  have houtcome := Platform.MapOutcome.mapped (p := platform) hcheck hmap hwrap
  exact ⟨start, hlocate, houtcome.eq_mapWindow⟩

/-- A window shows the dwords that lie behind it. -/
theorem LiveWindow.read32_eq_peek32 (hsound : bus.Sound) (w : LiveWindow bus) (m : Memory)
    {offset : Nat} (hserves : w.Serves 4 offset 4) (hbase : w.base % 4 = 0)
    (hend : w.base + w.window.len ≤ UInt64.size) :
    ∃ value, w.window.read32 m offset = some value ∧
      bus.peek32 m (w.window.mapping.phys + UInt64.ofNat offset) = .ok value := by
  refine ⟨m.loadDword (w.window.cell offset), if_pos hserves, ?_⟩
  have hoffset : (w.window.mapping.phys + UInt64.ofNat offset).toNat = w.base + offset := by
    have hlt : w.base + offset < UInt64.size := by
      have := hserves.2
      omega
    rw [UInt64.toNat_add, UInt64.toNat_ofNat_of_lt' (Nat.lt_of_le_of_lt (Nat.le_add_left _ _) hlt)]
    exact Nat.mod_eq_of_lt hlt
  have haligned : (w.base + offset) % 4 = 0 := by
    have hoffset_mod := hserves.1
    omega
  exact hsound.peek32_eq w.located hserves.2 hoffset (hoffset ▸ haligned) m

end SimulatedBus

/-- The windows of the layout keep their rules and do not overlap, and the status register is one of
the registers. -/
structure BusLayout.Placeable (l : BusLayout) : Prop extends BusLayout.Encodable l where
  doorbell_ne : l.doorbell ≠ 0
  size_pos : ∀ kind, 0 < l.size kind
  status_le : 0x8014 ≤ l.registerSize
  end_le : ∀ kind, (l.base kind).toNat + l.size kind ≤ UInt64.size
  apart : ∀ kind other, kind ≠ other →
    (l.base kind).toNat + l.size kind ≤ (l.base other).toNat ∨
      (l.base other).toNat + l.size other ≤ (l.base kind).toNat

/-- The window has the base and the length, and shows the memory there. -/
structure Window.LiesAt (w : Window) (bus : SimulatedBus) (base : UInt64) (len : Nat) : Prop where
  phys_eq : w.phys = base
  len_eq : w.len = len
  read32_eq : ∀ m offset, offset % 4 = 0 → offset + 4 ≤ len →
    ∃ value, w.read32 m offset = some value ∧ bus.peek32 m (base + UInt64.ofNat offset) = .ok value

/-- What is read from outside the driver depends on the regions alone. -/
theorem SimulatedBus.peek32_congr {bus after : SimulatedBus}
    (hregions : after.regions = bus.regions) : after.peek32 = bus.peek32 := by
  funext m phys
  simp only [peek32, dwordCell, locate, hregions]

/-- A window stays where it lies as long as the regions do. -/
theorem Window.LiesAt.of_regions_eq {w : Window} {bus after : SimulatedBus} {base : UInt64}
    {len : Nat} (hlies : w.LiesAt bus base len) (hregions : after.regions = bus.regions) :
    w.LiesAt after base len :=
  ⟨hlies.phys_eq, hlies.len_eq, SimulatedBus.peek32_congr hregions ▸ hlies.read32_eq⟩

/-- The device's windows are those of the layout. -/
structure Device.LiesAt (d : Device) (bus : SimulatedBus) (l : BusLayout) : Prop where
  registers : d.registers.window.LiesAt bus l.registers l.registerSize
  aperture : d.aperture.window.LiesAt bus l.aperture l.apertureSize
  doorbell : ∃ w, d.doorbell = some ⟨w, 0⟩ ∧ w.LiesAt bus l.doorbell l.doorbellSize

namespace BusLayout.Placeable

variable {l : BusLayout} (hplaceable : l.Placeable)
include hplaceable

/-- A layout that can be placed has bases that suit their windows. -/
theorem isAligned_base (kind : WindowKind) : isAligned (l.base kind) kind.alignment = true :=
  kind.isAligned_alignment_iff.2 (hplaceable.aligned kind)

theorem base_mod (kind : WindowKind) {n : Nat} (hn : n ∣ 4096) : (l.base kind).toNat % n = 0 :=
  WindowKind.mod_of_isAligned (hplaceable.isAligned_base kind) hn

end BusLayout.Placeable

namespace SimulatedBus

/-- There is one display controller on the bus and nothing else, as it was put there. -/
structure Bears (bus : SimulatedBus) (addr : PciAddress) (deviceId : UInt16) (l : BusLayout) :
    Prop where
  image : bus.image? addr = some (gpuImage deviceId l)
  alone : ∀ other, other ≠ addr → bus.image? other = none
  regions : bus.regions =
    [.registers, .aperture, .doorbell].map fun kind => .ofLength (l.base kind) (l.size kind)
  denied : bus.denied = []
  link : bus.link = none
  linkFailures : bus.linkFailures = 0

/-- Putting a display controller on an empty bus leaves it alone there. -/
theorem bears_addGpu (addr : PciAddress) (deviceId : UInt16) (l : BusLayout) :
    (({} : SimulatedBus).addGpu addr deviceId l).Bears addr deviceId l where
  image := image?_addGpu_self rfl deviceId l
  alone _ hne := image?_addGpu_of_ne hne deviceId l
  regions := rfl
  denied := rfl
  link := rfl
  linkFailures := rfl

/-- A bus without a link says so at once, and no retry is spent on it. -/
theorem queryLink_of_link_none (bus : SimulatedBus) (hlink : bus.link = none)
    (hfailures : bus.linkFailures = 0) (addr : PciAddress) (retries : UInt32) :
    platform.queryLink bus addr retries =
      (none, { bus with linkQueries := bus.linkQueries + 1 }) := by
  have hquestions : bus.questions retries = 1 := by
    rw [questions, hfailures]
    exact congrArg (· + 1) (Nat.zero_min _)
  rw [queryLink_eq, hquestions, asked, hfailures, hlink, ite_self]
  rfl

section Placed

variable {bus : SimulatedBus} {addr : PciAddress} {deviceId : UInt16} {l : BusLayout}
  (hbears : bus.Bears addr deviceId l) (hplaceable : l.Placeable)
include hbears

theorem Bears.backed (kind : WindowKind) : bus.Backed (l.base kind) (l.size kind) := by
  refine ⟨_, ?_, MemoryRegion.ofLength_contains _ _⟩
  rw [hbears.regions]
  exact List.mem_map_of_mem (by cases kind <;> decide)

theorem Bears.queryLink_eq (events : List MappingEvent) (retries : UInt32) :
    platform.queryLink { bus with events } addr retries =
      (none, { bus with events, linkQueries := bus.linkQueries + 1 }) :=
  queryLink_of_link_none { bus with events } hbears.link hbears.linkFailures addr retries

include hplaceable

/-- The three windows of a layout that can be placed share no address. -/
theorem Bears.sound : bus.Sound := by
  have hdistinct : [WindowKind.registers, .aperture, .doorbell].Pairwise (· ≠ ·) := by decide
  have hregions : bus.regions = ([WindowKind.registers, .aperture, .doorbell].map fun kind =>
      (l.base kind, l.size kind)).map fun range => .ofLength range.1 range.2 := hbears.regions
  refine sound_of_ranges hregions ?_ ?_
  · intro range hrange
    obtain ⟨kind, -, rfl⟩ := List.mem_map.1 hrange
    exact hplaceable.base_mod kind (by decide)
  · exact List.pairwise_map.2 (hdistinct.imp fun hne => hplaceable.apart _ _ hne)

/-- Each of the three windows is mapped where the layout has it. -/
theorem Bears.mapWindow_eq_ok (kind : WindowKind) (events : List MappingEvent) :
    ∃ w, platform.mapWindow { bus with events } kind (l.base kind) (l.size kind) =
        (.ok w, { bus with events := .mapped (l.base kind) :: events }) ∧
      w.LiesAt bus (l.base kind) (l.size kind) := by
  have hsound := hbears.sound hplaceable
  have hdenied : l.base kind ∉ bus.denied := by
    rw [hbears.denied]
    exact List.not_mem_nil
  obtain ⟨start, hlocate, hmap⟩ := hsound.mapWindow_eq_ok hdenied (hbears.backed kind)
    (hplaceable.size_pos kind) (hplaceable.isAligned_base kind) events
  refine ⟨_, hmap, rfl, rfl, fun m offset haligned hfits => ?_⟩
  exact LiveWindow.read32_eq_peek32 hsound ⟨_, hlocate⟩ m ⟨haligned, hfits⟩
    (hplaceable.base_mod kind (by decide)) (hplaceable.end_le kind)

/-- The base address registers lead back to the layout, whether or not misaligned bases are
refused. -/
theorem Bears.windowBases_eq (strict : Bool) :
    platform.windowBases bus addr strict = .ok (l.registers, l.aperture) := by
  obtain ⟨raw, hregisters⟩ := readBar_gpu hplaceable.toEncodable hbears.image .registers
  obtain ⟨raw', haperture⟩ := readBar_gpu hplaceable.toEncodable hbears.image .aperture
  have hbase (kind : WindowKind) (raw : UInt64) :
      Bar.mapBase ⟨kind, raw, l.base kind⟩ strict = .ok (l.base kind) :=
    Bar.mapBase_of_isAligned (hplaceable.isAligned_base kind) strict
  simp only [Platform.windowBases, hregisters, haperture, hbase]
  rfl

/-- The doorbells' base starts the granule that is mapped for it. -/
theorem Bears.mapDoorbell_eq {config : DriverConfig} (hsize : config.doorbellSize = l.doorbellSize)
    (events : List MappingEvent) :
    ∃ w, platform.mapDoorbell { bus with events } addr config =
        (some ⟨w, 0⟩, { bus with events := .mapped l.doorbell :: events }) ∧
      w.LiesAt bus l.doorbell l.doorbellSize := by
  obtain ⟨raw, hbar⟩ := readBar_gpu hplaceable.toEncodable hbears.image .doorbell
  obtain ⟨w, hmap, hlies⟩ := hbears.mapWindow_eq_ok hplaceable .doorbell events
  refine ⟨w, ?_, hlies⟩
  have hbar' : platform.readBar { bus with events } addr .doorbell =
      .ok ⟨.doorbell, raw, l.doorbell⟩ := hbar
  have hgranule : alignDown l.doorbell WindowKind.doorbell.alignment = l.doorbell :=
    alignDown_of_isAligned (hplaceable.isAligned_base .doorbell)
  have hwrap : DoorbellWindow.wrap w l.doorbell = .ok ⟨w, 0⟩ := by
    have hphys : w.phys = l.doorbell := hlies.phys_eq
    have hpos : 0 < w.len := hlies.len_eq ▸ hplaceable.size_pos .doorbell
    simp only [DoorbellWindow.wrap, hphys, Nat.sub_self, hpos, UInt64.le_refl, and_true, if_true]
  simp only [BusLayout.base, BusLayout.size] at hmap
  simp only [Platform.mapDoorbell, hbar', if_neg hplaceable.doorbell_ne, hgranule, hsize, hmap,
    hwrap]

/-- Opening the device goes well at every stage. -/
theorem Bears.init_outcome (hslot : addr ∈ PciAddress.slots) (strict : Bool) (m : Memory) :
    let config := { l.driverConfig with strictAlignment := strict }
    ∃ status, bus.peek32 m (l.registers + 0x8010) = .ok status ∧
      (status = sentinel →
        (Device.init platform m .first config bus).1 = .error (.poisonedRead 0x8010 sentinel)) ∧
      (status ≠ sentinel →
        ∃ d after, Device.init platform m .first config bus = (.ok d, after) ∧
          d.info = gpuInfo addr deviceId ∧ d.LiesAt after l) := by
  intro config
  have hselect : platform.select bus .first = .ok (gpuInfo addr deviceId) :=
    scanFirst_gpu hslot hbears.image hbears.alone
  have hbases : platform.windowBases bus (gpuInfo addr deviceId).address config.strictAlignment =
      .ok (l.registers, l.aperture) := hbears.windowBases_eq hplaceable strict
  -- What was mapped before is only in the record, so all three windows are asked of one bus.
  obtain ⟨registers, hregisters, hregisters_lies⟩ :=
    hbears.mapWindow_eq_ok hplaceable .registers bus.events
  obtain ⟨aperture, haperture, haperture_lies⟩ :=
    hbears.mapWindow_eq_ok hplaceable .aperture (.mapped l.registers :: bus.events)
  obtain ⟨doorbell, hdoorbell, hdoorbell_lies⟩ :=
    hbears.mapDoorbell_eq hplaceable (show config.doorbellSize = l.doorbellSize from rfl)
      (.mapped l.aperture :: .mapped l.registers :: bus.events)
  obtain ⟨status, hread, hpeek⟩ :=
    hregisters_lies.read32_eq m 0x8010 (by decide) hplaceable.status_le
  have hstatus : RegisterBlock.read32 ⟨registers⟩ m config.registers.status = status := by
    rw [RegisterBlock.read32]
    exact congrArg (·.getD sentinel) hread
  refine ⟨status, hpeek, fun hsentinel => ?_, fun hne => ?_⟩
  · have hpoisoned := Device.InitOutcome.poisoned hselect hbases hregisters haperture hdoorbell
      (hstatus.trans hsentinel)
    exact congrArg Prod.fst hpoisoned.eq_init
  · have hopened := Device.InitOutcome.opened hselect hbases hregisters haperture hdoorbell
      (hstatus ▸ hne) (hbears.queryLink_eq _ config.linkRetries)
    exact ⟨_, _, hopened.eq_init, rfl, hregisters_lies.of_regions_eq rfl,
      haperture_lies.of_regions_eq rfl, doorbell, rfl, hdoorbell_lies.of_regions_eq rfl⟩

end Placed

/-- The only display controller on a bus is opened unless its status register reads all ones, and
the device is where the layout put it. -/
theorem init_placed {bus device : UInt8} (hdevice : device.toNat < PciAddress.devicesPerBus)
    {l : BusLayout} (hplaceable : l.Placeable) (deviceId : UInt16) (strict : Bool) (m : Memory) :
    let addr : PciAddress := ⟨bus, device, 0⟩
    let sim := ({} : SimulatedBus).addGpu addr deviceId l
    let config := { l.driverConfig with strictAlignment := strict }
    ∃ status, sim.peek32 m (l.registers + 0x8010) = .ok status ∧
      (status = sentinel →
        (Device.init platform m .first config sim).1 = .error (.poisonedRead 0x8010 sentinel)) ∧
      (status ≠ sentinel →
        ∃ d after, Device.init platform m .first config sim = (.ok d, after) ∧
          d.info = gpuInfo addr deviceId ∧ d.LiesAt after l) :=
  (bears_addGpu _ deviceId l).init_outcome hplaceable (PciAddress.mem_slots_iff.2 hdevice) strict m

/-- Windows of odd lengths, one of which ends with the address space. -/
def oddLayout : BusLayout where
  registers := 0x123456789000
  registerSize := 0x8015
  aperture := 0xFFFFFFFFF0000000
  apertureSize := 0x10000000
  doorbell := 0x10000
  doorbellSize := 3

/-- Sizes need not be whole granules, and the address space may end with a window. -/
theorem oddLayout_placeable : oddLayout.Placeable where
  aligned := by
    intro kind
    cases kind <;> decide
  doorbell_lt := by decide
  doorbell_ne := by decide
  size_pos := by
    intro kind
    cases kind <;> decide
  status_le := by decide
  end_le := by
    intro kind
    cases kind <;> decide
  apart := by
    intro kind other
    cases kind <;> cases other <;> decide

theorem init_placed_sample :
    (31 : UInt8).toNat < PciAddress.devicesPerBus ∧ oddLayout.Placeable ∧
    ∃ d after, Device.init platform .empty .first
        { oddLayout.driverConfig with strictAlignment := true }
        (({} : SimulatedBus).addGpu ⟨3, 31, 0⟩ 0x73BF oddLayout) = (.ok d, after) ∧
      d.info.deviceId = 0x73BF ∧ d.LiesAt after oddLayout := by
  have hdevice : (31 : UInt8).toNat < PciAddress.devicesPerBus := by decide
  obtain ⟨status, hpeek, -, hopened⟩ :=
    @init_placed 3 31 hdevice oddLayout oddLayout_placeable 0x73BF true .empty
  have hzero : (({} : SimulatedBus).addGpu ⟨3, 31, 0⟩ 0x73BF oddLayout).peek32 .empty
      (oddLayout.registers + 0x8010) = .ok 0 := by
    rw [(shows_empty _).peek32_eq, if_neg (by decide), if_pos (by decide)]
    exact congrArg _ (by decide)
  cases hpeek.symm.trans hzero
  obtain ⟨d, after, hinit, hinfo, hlies⟩ := hopened (by decide)
  exact ⟨hdevice, oddLayout_placeable, d, after, hinit, hinfo ▸ rfl, hlies⟩

end SimulatedBus

end GpuControl
