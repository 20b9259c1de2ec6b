import GpuControl.Device
import GpuControl.Platform.SimulatedBus

namespace GpuControl

theorem Window.isAligned_of_checkAlignment {kind : WindowKind} {phys : UInt64}
    (hcheck : Window.checkAlignment kind phys = .ok ()) :
    isAligned phys kind.alignment = true := by
  unfold checkAlignment at hcheck
  split at hcheck
  · assumption
  · cases hcheck

/-- A window can be made of a mapping if its base is aligned and the mapping is not empty. -/
theorem Window.wrap_eq_ok_iff {kind : WindowKind} {phys : UInt64} {mapping : Mapping} {w : Window} :
    Window.wrap kind phys mapping = .ok w ↔
      isAligned phys kind.alignment = true ∧ 0 < mapping.len ∧ w = ⟨kind, phys, mapping⟩ := by
  constructor
  · intro hwrap
    unfold Window.wrap at hwrap
    split at hwrap
    · cases hwrap
    next hcheck =>
    split at hwrap
    · cases hwrap
    next hlen =>
    cases hwrap
    exact ⟨isAligned_of_checkAlignment hcheck, Nat.pos_of_ne_zero hlen, rfl⟩
  · rintro ⟨haligned, hlen, rfl⟩
    have hcheck : Window.checkAlignment kind phys = .ok () := if_pos haligned
    simp only [Window.wrap, hcheck, if_neg (Nat.ne_of_gt hlen)]

theorem Window.wrap_ok {kind : WindowKind} {phys : UInt64} {mapping : Mapping} {w : Window}
    (hwrap : Window.wrap kind phys mapping = .ok w) : w = ⟨kind, phys, mapping⟩ :=
  (wrap_eq_ok_iff.1 hwrap).2.2

/-- Doorbells can be made of a granule that reaches from below their base to beyond it. -/
theorem DoorbellWindow.wrap_eq_ok_iff {window : Window} {barBase : UInt64} {d : DoorbellWindow} :
    DoorbellWindow.wrap window barBase = .ok d ↔
      window.phys ≤ barBase ∧ barBase.toNat - window.phys.toNat < window.len ∧
        d = ⟨window, barBase.toNat - window.phys.toNat⟩ := by
  simp only [DoorbellWindow.wrap, ← and_assoc]
  split
  · next hinside =>
    rw [and_iff_right hinside, Except.ok.injEq]
    exact eq_comm
  · next houtside => exact ⟨nofun, fun h => absurd h.1 houtside⟩

theorem DoorbellWindow.wrap_ok {window : Window} {barBase : UInt64} {d : DoorbellWindow}
    (hwrap : DoorbellWindow.wrap window barBase = .ok d) : d.window = window := by
  obtain ⟨-, -, rfl⟩ := wrap_eq_ok_iff.1 hwrap
  rfl

/-- Registers in memory that was never written are not taken for unreachable ones. -/
theorem RegisterBlock.read32_empty_ne_sentinel {w : Window} {offset : Nat}
    (hadmits : w.Admits offset 4) : RegisterBlock.read32 ⟨w⟩ .empty offset ≠ sentinel := by
  rw [read32, Window.read32, if_pos hadmits]
  simp only [Memory.loadDword, Memory.load, Memory.byte_empty]
  decide

namespace Platform

variable {σ : Type} {p : Platform σ} {s : σ} {kind : WindowKind} {phys : UInt64} {len : Nat}

/-- Everything that mapping a window can come to. -/
inductive MapOutcome (p : Platform σ) (s : σ) (kind : WindowKind) (phys : UInt64) (len : Nat) :
    Except DriverError Window × σ → Prop
  | misaligned {e : DriverError} (halign : Window.checkAlignment kind phys = .error e) :
    MapOutcome p s kind phys len (.error e, s)
  | refused {e : PlatformError} {after : σ} (halign : Window.checkAlignment kind phys = .ok ())
    (hmap : p.mapPhysical s phys len = (.error e, after)) :
    MapOutcome p s kind phys len (.error (.mappingFailed kind phys len e.text), after)
  | discarded {mapping : Mapping} {after : σ} {e : DriverError}
    (halign : Window.checkAlignment kind phys = .ok ())
    (hmap : p.mapPhysical s phys len = (.ok mapping, after))
    (hwrap : Window.wrap kind phys mapping = .error e) :
    MapOutcome p s kind phys len (.error e, p.unmap after mapping)
  | mapped {mapping : Mapping} {after : σ} {w : Window}
    (halign : Window.checkAlignment kind phys = .ok ())
    (hmap : p.mapPhysical s phys len = (.ok mapping, after))
    (hwrap : Window.wrap kind phys mapping = .ok w) :
    MapOutcome p s kind phys len (.ok w, after)

/-- Mapping a window always comes to one of these. -/
theorem map_outcome (p : Platform σ) (s : σ) (kind : WindowKind) (phys : UInt64) (len : Nat) :
    MapOutcome p s kind phys len (p.mapWindow s kind phys len) := by
  unfold mapWindow
  split
  · next halign => exact .misaligned halign
  next halign =>
  split
  · next hmap => exact .refused halign hmap
  next hmap =>
  split
  · next hwrap => exact .discarded halign hmap hwrap
  next hwrap =>
  exact .mapped halign hmap hwrap

/-- A window comes to one thing only, so an outcome with its reasons determines the call. -/
theorem MapOutcome.eq_mapWindow {result : Except DriverError Window × σ}
    (houtcome : MapOutcome p s kind phys len result) :
    p.mapWindow s kind phys len = result := by
  cases houtcome with
  | misaligned halign => simp only [mapWindow, halign]
  | refused halign hmap => simp only [mapWindow, halign, hmap]
  | discarded halign hmap hwrap => simp only [mapWindow, halign, hmap, hwrap]
  | mapped halign hmap hwrap => simp only [mapWindow, halign, hmap, hwrap]

/-- Behind a window there is a mapping that the platform granted. -/
theorem mapPhysical_of_mapWindow {w : Window} {after : σ}
    (hmap : p.mapWindow s kind phys len = (.ok w, after)) :
    p.mapPhysical s phys len = (.ok w.mapping, after) := by
  have houtcome := p.map_outcome s kind phys len
  rw [hmap] at houtcome
  cases houtcome with
  | mapped _ hmap hwrap =>
    rw [Window.wrap_ok hwrap]
    exact hmap

/-- A window is had if and only if its base is aligned and the platform grants a mapping that is not
empty. -/
theorem mapWindow_eq_ok_iff {w : Window} :
    (p.mapWindow s kind phys len).1 = .ok w ↔
      isAligned phys kind.alignment = true ∧
        ∃ mapping, (p.mapPhysical s phys len).1 = .ok mapping ∧ 0 < mapping.len ∧
          w = ⟨kind, phys, mapping⟩ := by
  have houtcome := p.map_outcome s kind phys len
  generalize p.mapWindow s kind phys len = result at houtcome
  cases houtcome with
  | misaligned halign =>
    refine ⟨nofun, fun ⟨haligned, _⟩ => ?_⟩
    rw [Window.checkAlignment, if_pos haligned] at halign
    cases halign
  | refused _ hmap =>
    rw [hmap]
    exact ⟨nofun, fun ⟨_, _, hmapping, _⟩ => nomatch hmapping⟩
  | discarded _ hmap hwrap =>
    rw [hmap]
    refine ⟨nofun, fun ⟨haligned, mapping, hmapping, hlen, _⟩ => ?_⟩
    cases hmapping
    cases hwrap.symm.trans (Window.wrap_eq_ok_iff.2 ⟨haligned, hlen, rfl⟩)
  | mapped _ hmap hwrap =>
    obtain ⟨haligned, hlen, rfl⟩ := Window.wrap_eq_ok_iff.1 hwrap
    rw [hmap]
    constructor
    · rintro ⟨⟩
      exact ⟨haligned, _, rfl, hlen, rfl⟩
    · rintro ⟨-, _, ⟨⟩, -, rfl⟩
      rfl

/-- The granule in which the doorbells lie, if configuration space tells. -/
def doorbellGranule (p : Platform σ) (s : σ) (addr : PciAddress) : List UInt64 :=
  match p.readBar s addr .doorbell with
  | .error _ => []
  | .ok bar => if bar.base = 0 then [] else [alignDown bar.base WindowKind.doorbell.alignment]

end Platform

namespace Device

variable {σ : Type} {p : Platform σ} {m : Memory} {selector : DeviceSelector}
  {config : DriverConfig} {s : σ}

/-- The bases behind the windows, in the order in which they are given back. -/
def bases (d : Device) : List UInt64 := d.windows.map (·.mapping.phys)

/-- Registers, aperture and the doorbells' granule: what an opening maps if nothing goes wrong. -/
def plannedBases (p : Platform σ) (selector : DeviceSelector) (config : DriverConfig) (s : σ) :
    List UInt64 :=
  match p.select s selector with
  | .error _ => []
  | .ok info =>
    match p.windowBases s info.address config.strictAlignment with
    | .error _ => []
    | .ok (registersBase, apertureBase) =>
      [registersBase, apertureBase] ++ p.doorbellGranule s info.address

/-- The device as it is once its windows are mapped. -/
def assembled (info : PciDevice) (config : DriverConfig) (registers aperture : Window)
    (doorbell : Option DoorbellWindow) : Device where
  info := info
  config := config
  registers := ⟨registers⟩
  aperture := ⟨aperture, info.vramBytes⟩
  doorbell := doorbell
  link := none

/-- Everything that opening a device can come to. -/
inductive InitOutcome (p : Platform σ) (m : Memory) (selector : DeviceSelector)
    (config : DriverConfig) (s : σ) : Except DriverError Device × σ → Prop
  | unselected {e : DriverError} (hselect : p.select s selector = .error e) :
    InitOutcome p m selector config s (.error e, s)
  | baseless {info : PciDevice} {e : DriverError} (hselect : p.select s selector = .ok info)
    (hbases : p.windowBases s info.address config.strictAlignment = .error e) :
    InitOutcome p m selector config s (.error e, s)
  | noRegisters {info : PciDevice} {registersBase apertureBase : UInt64} {e : DriverError}
    {after : σ} (hselect : p.select s selector = .ok info)
    (hbases : p.windowBases s info.address config.strictAlignment =
      .ok (registersBase, apertureBase))
    (hregisters : p.mapWindow s .registers registersBase config.registerWindowSize =
      (.error e, after)) :
    InitOutcome p m selector config s (.error e, after)
  | noAperture {info : PciDevice} {registersBase apertureBase : UInt64} {registers : Window}
    {s₁ s₂ : σ} {e : DriverError} (hselect : p.select s selector = .ok info)
    (hbases : p.windowBases s info.address config.strictAlignment =
      .ok (registersBase, apertureBase))
    (hregisters : p.mapWindow s .registers registersBase config.registerWindowSize =
      (.ok registers, s₁))
    (haperture : p.mapWindow s₁ .aperture apertureBase config.apertureSize = (.error e, s₂)) :
    InitOutcome p m selector config s (.error e, p.unmap s₂ registers.mapping)
  | poisoned {info : PciDevice} {registersBase apertureBase : UInt64}
    {registers aperture : Window} {doorbell : Option DoorbellWindow} {s₁ s₂ s₃ : σ}
    (hselect : p.select s selector = .ok info)
    (hbases : p.windowBases s info.address config.strictAlignment =
      .ok (registersBase, apertureBase))
    (hregisters : p.mapWindow s .registers registersBase config.registerWindowSize =
      (.ok registers, s₁))
    (haperture : p.mapWindow s₁ .aperture apertureBase config.apertureSize = (.ok aperture, s₂))
    (hdoorbell : p.mapDoorbell s₂ info.address config = (doorbell, s₃))
    (hstatus : RegisterBlock.read32 ⟨registers⟩ m config.registers.status = sentinel) :
    InitOutcome p m selector config s
      (.error (.poisonedRead config.registers.status sentinel),
        p.unmapAll s₃ (assembled info config registers aperture doorbell).windows)
  | opened {info : PciDevice} {registersBase apertureBase : UInt64}
    {registers aperture : Window} {doorbell : Option DoorbellWindow} {s₁ s₂ s₃ s₄ : σ}
    {link : Option PcieLink} (hselect : p.select s selector = .ok info)
    (hbases : p.windowBases s info.address config.strictAlignment =
      .ok (registersBase, apertureBase))
    (hregisters : p.mapWindow s .registers registersBase config.registerWindowSize =
      (.ok registers, s₁))
    (haperture : p.mapWindow s₁ .aperture apertureBase config.apertureSize = (.ok aperture, s₂))
    (hdoorbell : p.mapDoorbell s₂ info.address config = (doorbell, s₃))
    (hstatus : RegisterBlock.read32 ⟨registers⟩ m config.registers.status ≠ sentinel)
    (hlink : p.queryLink s₃ info.address config.linkRetries = (link, s₄)) :
    InitOutcome p m selector config s
      (.ok { assembled info config registers aperture doorbell with link }, s₄)

/-- Opening a device always comes to one of these. -/
theorem init_outcome (p : Platform σ) (m : Memory) (selector : DeviceSelector)
    (config : DriverConfig) (s : σ) :
    InitOutcome p m selector config s (init p m selector config s) := by
  unfold init
  split
  · next hselect => exact .unselected hselect
  next info hselect =>
  split
  · next hbases => exact .baseless hselect hbases
  next hbases =>
  split
  · next hregisters => exact .noRegisters hselect hbases hregisters
  next hregisters =>
  split
  · next haperture => exact .noAperture hselect hbases hregisters haperture
  next s₂ haperture =>
  split
  next hdoorbell =>
  dsimp only
  split
  · next hstatus =>
    rw [hstatus]
    exact .poisoned hselect hbases hregisters haperture hdoorbell hstatus
  next hstatus =>
  exact .opened hselect hbases hregisters haperture hdoorbell hstatus rfl

/-- An opening comes to one thing only. -/
theorem InitOutcome.eq_init {result : Except DriverError Device × σ}
    (houtcome : InitOutcome p m selector config s result) :
    init p m selector config s = result := by
  cases houtcome with
  | unselected hselect => simp only [init, hselect]
  | baseless hselect hbases => simp only [init, hselect, hbases]
  | noRegisters hselect hbases hregisters => simp only [init, hselect, hbases, hregisters]
  | noAperture hselect hbases hregisters haperture =>
    simp only [init, hselect, hbases, hregisters, haperture]
  | poisoned hselect hbases hregisters haperture hdoorbell hstatus =>
    simp only [init, hselect, hbases, hregisters, haperture, hdoorbell, hstatus, if_true]
    rfl
  | opened hselect hbases hregisters haperture hdoorbell hstatus hlink =>
    simp only [init, hselect, hbases, hregisters, haperture, hdoorbell, hstatus, if_false, hlink]
    rfl

/-- A bus with one device. -/
def sampleBus : SimulatedBus := .withGpu 3 0 0x731F

def sampleSettings : DriverConfig := BusLayout.driverConfig {}

end Device

end GpuControl
