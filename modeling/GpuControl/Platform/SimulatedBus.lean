import GpuControl.Config.Settings
import GpuControl.Pci.Identity
import GpuControl.Platform.Interface
import GpuControl.Platform.WordAccess

namespace GpuControl

/-- Words of configuration space of one function. -/
def configWords : Nat := 64

abbrev ConfigImage := Vector UInt32 configWords

/-- A run of simulated physical memory. -/
structure MemoryRegion where
  base : UInt64
  /-- Length in bytes, a multiple of 8. -/
  size : Nat
deriving DecidableEq, Repr

/-- A region of at least `len` bytes. -/
def MemoryRegion.ofLength (base : UInt64) (len : Nat) : MemoryRegion := ⟨base, (len + 7) / 8 * 8⟩

/-- The `len` bytes from `phys` on lie in the region. -/
def MemoryRegion.Contains (r : MemoryRegion) (phys : UInt64) (len : Nat) : Prop :=
  r.base ≤ phys ∧ phys.toNat - r.base.toNat + len ≤ r.size

instance (r : MemoryRegion) (phys : UInt64) (len : Nat) : Decidable (r.Contains phys len) :=
  inferInstanceAs (Decidable (_ ∧ _))

/-- A mapping was taken or given back. -/
inductive MappingEvent where
  | mapped (phys : UInt64)
  | unmapped (phys : UInt64)
deriving DecidableEq, Repr

/-- A bus made of tables: images of configuration space and regions of physical memory. Faults can
be scripted, and every mapping taken or given back is recorded. -/
structure SimulatedBus where
  config : List (PciAddress × ConfigImage) := []
  /-- In the order in which they were added; the first that holds a range serves it. -/
  regions : List MemoryRegion := []
  /-- Bases that cannot be mapped. -/
  denied : List UInt64 := []
  link : Option PcieLink := none
  /-- Link queries that will fail before one succeeds. -/
  linkFailures : UInt32 := 0
  /-- Link queries so far; the count starts again at zero after 2³² of them. -/
  linkQueries : UInt32 := 0
  /-- The level last asked for. -/
  performance : Option PerformanceLevel := none
  /-- Latest first. -/
  events : List MappingEvent := []

/-- Where the three windows of a simulated device lie. -/
structure BusLayout where
  registers : UInt64 := 0xF0000000
  registerSize : Nat := 64 * 1024
  aperture : UInt64 := 0xE0000000
  apertureSize : Nat := 1024 * 1024
  doorbell : UInt64 := 0xF0100000
  doorbellSize : Nat := 64 * 1024
deriving DecidableEq, Repr

/-- The default settings with window sizes that fit the layout. -/
def BusLayout.driverConfig (l : BusLayout) : DriverConfig :=
  DriverConfig.withWindowSizes {} l.registerSize l.apertureSize l.doorbellSize

/-- Why an access to simulated memory from outside the driver fails. -/
inductive BusFault where
  | unaligned (phys : UInt64)
  | unalignedQword (phys : UInt64)
  | unbacked (phys : UInt64)
deriving DecidableEq, Repr

def BusFault.message : BusFault → String
  | unaligned phys => s!"unaligned access at {Text.hex phys.toNat}"
  | unalignedQword phys => s!"unaligned qword poke at {Text.hex phys.toNat}"
  | unbacked phys => s!"no simulated memory at {Text.hex phys.toNat}"

namespace SimulatedBus

/-- The configuration image of a function, if it is on the bus. -/
def image? (bus : SimulatedBus) (addr : PciAddress) : Option ConfigImage := bus.config.lookup addr

/-- Changes the image of a function, which is put on the bus with an empty image if need be. -/
def updateImage (bus : SimulatedBus) (addr : PciAddress) (f : ConfigImage → ConfigImage) :
    SimulatedBus :=
  let image := f ((bus.image? addr).getD (Vector.replicate configWords 0))
  { bus with config := (addr, image) :: bus.config.filter (·.1 != addr) }

/-- Writes the configuration word that holds `offset`; beyond the image nothing is written. -/
def setConfig (bus : SimulatedBus) (addr : PciAddress) (offset : UInt16) (value : UInt32) :
    SimulatedBus :=
  bus.updateImage addr fun image => image.setIfInBounds (offset.toNat / 4) value

/-- Writes both words of a 64-bit base address register. -/
def setBar64 (bus : SimulatedBus) (addr : PciAddress) (offset : UInt16) (value : UInt64) :
    SimulatedBus :=
  (bus.setConfig addr offset value.toUInt32).setConfig addr (offset + 4) (value >>> 32).toUInt32

/-- Puts a function with the given id and class words on the bus. -/
def addFunction (bus : SimulatedBus) (addr : PciAddress) (idWord classWord : UInt32) :
    SimulatedBus :=
  (bus.setConfig addr idOffset idWord).setConfig addr classOffset classWord

/-- Backs at least `len` bytes from `phys` on with memory. -/
def addMemory (bus : SimulatedBus) (phys : UInt64) (len : Nat) : SimulatedBus :=
  { bus with regions := bus.regions ++ [.ofLength phys len] }

/-- Puts a display controller with its three windows on the bus: two 64-bit memory registers, the
aperture's prefetchable, and a 32-bit one for the doorbells. -/
def addGpu (bus : SimulatedBus) (addr : PciAddress) (deviceId : UInt16) (layout : BusLayout) :
    SimulatedBus :=
  let idWord := deviceId.toUInt32 <<< 16 ||| amdVendorId.toUInt32
  let classWord := displayClass.toUInt32 <<< 24 ||| 0xC1
  let bus := bus.addFunction addr idWord classWord
  let bus := bus.setBar64 addr WindowKind.registers.configOffset (layout.registers ||| 0x4)
  let bus := bus.setBar64 addr WindowKind.aperture.configOffset (layout.aperture ||| 0xC)
  let bus := bus.setConfig addr WindowKind.doorbell.configOffset layout.doorbell.toUInt32
  let bus := bus.addMemory layout.registers layout.registerSize
  let bus := bus.addMemory layout.aperture layout.apertureSize
  bus.addMemory layout.doorbell layout.doorbellSize

/-- A bus with one device in the default layout. -/
def withGpu (bus device : UInt8) (deviceId : UInt16) : SimulatedBus :=
  ({} : SimulatedBus).addGpu ⟨bus, device, 0⟩ deviceId {}

/-- Where the `len` bytes from `phys` on are kept: in the first region that holds them all. -/
def locate (bus : SimulatedBus) (phys : UInt64) (len : Nat) : Option Cell :=
  (bus.regions.zipIdx.find? fun (region, _) => region.Contains phys len).map fun (region, i) =>
    ⟨i, phys.toNat - region.base.toNat⟩

/-- Physical bases in the order in which their mappings were given back. -/
def unmapLog (bus : SimulatedBus) : List UInt64 :=
  bus.events.reverse.filterMap fun
    | .mapped _ => none
    | .unmapped phys => some phys

/-- Physical bases in the order in which they were mapped. -/
def mapLog (bus : SimulatedBus) : List UInt64 :=
  bus.events.reverse.filterMap fun
    | .mapped phys => some phys
    | .unmapped _ => none

/-- Mappings taken and not given back. -/
def liveMappings (bus : SimulatedBus) : Nat := bus.mapLog.length - bus.unmapLog.length

/-- The place of an aligned dword. -/
def dwordCell (bus : SimulatedBus) (phys : UInt64) : Except BusFault Cell :=
  if phys % 4 ≠ 0 then .error (.unaligned phys)
  else
    match bus.locate phys 4 with
    | none => .error (.unbacked phys)
    | some cell => .ok cell

def peek32 (bus : SimulatedBus) (m : Memory) (phys : UInt64) : Except BusFault UInt32 :=
  (bus.dwordCell phys).map m.loadDword

def poke32 (bus : SimulatedBus) (m : Memory) (phys : UInt64) (value : UInt32) :
    Except BusFault Unit × Memory :=
  match bus.dwordCell phys with
  | .error e => (.error e, m)
  | .ok cell => (.ok (), m.storeDword cell value)

/-- Writes the low dword and then the high one. -/
def poke64 (bus : SimulatedBus) (m : Memory) (phys : UInt64) (value : UInt64) :
    Except BusFault Unit × Memory :=
  if phys % 8 ≠ 0 then (.error (.unalignedQword phys), m)
  else
    match bus.poke32 m phys value.toUInt32 with
    | (.error e, m) => (.error e, m)
    | (.ok _, m) => bus.poke32 m (phys + 4) (value >>> 32).toUInt32

/-- Simulated memory from outside the driver. -/
def words (bus : SimulatedBus) : WordAccess Memory BusFault where
  peek32 := bus.peek32
  poke32 := bus.poke32
  poke64 := bus.poke64

def readConfig (bus : SimulatedBus) (addr : PciAddress) (offset : UInt16) :
    Except PlatformError UInt32 :=
  if h : offset.toNat % 4 = 0 ∧ offset.toNat / 4 < configWords then
    match bus.image? addr with
    | none => .ok absentWord
    | some image => .ok image[offset.toNat / 4]
  else .error ⟨.invalidInput, s!"bad config offset {Text.hex offset.toNat}"⟩

def mapPhysical (bus : SimulatedBus) (phys : UInt64) (len : Nat) :
    Except PlatformError Mapping × SimulatedBus :=
  if phys ∈ bus.denied then
    (.error ⟨.permissionDenied, s!"mapping at {Text.hex phys.toNat} denied"⟩, bus)
  else
    match bus.locate phys len with
    | none =>
      (.error ⟨.invalidInput,
        s!"no simulated memory for {Text.hex phys.toNat}+{Text.hex len}"⟩, bus)
    | some cell =>
      if cell.offset % 8 ≠ 0 then
        (.error ⟨.invalidInput,
          s!"mapping base {Text.hex phys.toNat} not 8-byte aligned"⟩, bus)
      else (.ok ⟨phys, cell, len⟩, { bus with events := .mapped phys :: bus.events })

def unmap (bus : SimulatedBus) (mapping : Mapping) : SimulatedBus :=
  { bus with events := .unmapped mapping.phys :: bus.events }

def linkStatus (bus : SimulatedBus) : Except PlatformError PcieLink × SimulatedBus :=
  let bus := { bus with linkQueries := bus.linkQueries + 1 }
  if 0 < bus.linkFailures then
    (.error ⟨.other, "link training in progress"⟩,
      { bus with linkFailures := bus.linkFailures - 1 })
  else
    match bus.link with
    | none => (.error ⟨.unsupported, "no simulated link"⟩, bus)
    | some link => (.ok link, bus)

def setPerformanceLevel (bus : SimulatedBus) (addr : PciAddress) (level : PerformanceLevel) :
    Except PlatformError Unit × SimulatedBus :=
  match bus.image? addr with
  | none => (.error ⟨.notFound, s!"no function at {addr.text}"⟩, bus)
  | some _ => (.ok (), { bus with performance := some level })

/-- The bus as a platform. -/
def platform : Platform SimulatedBus where
  name := "sim"
  readConfig := readConfig
  mapPhysical := mapPhysical
  unmap := unmap
  linkStatus := fun bus _ => bus.linkStatus
  setPerformanceLevel := setPerformanceLevel

/-- The bus as a platform that can neither report a link nor set a level. -/
def barePlatform : Platform SimulatedBus where
  name := "bare"
  readConfig := readConfig
  mapPhysical := mapPhysical
  unmap := unmap

end SimulatedBus

end GpuControl
