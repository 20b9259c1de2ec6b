import GpuControl.Platform.SimulatedBus
import GpuControl.Proofs.Discovery.Congruence
import GpuControl.Proofs.Window.Bar

namespace GpuControl

/-- A scan looks at function 0 of the first thirty-two devices of every bus. -/
theorem PciAddress.mem_slots {a : PciAddress} :
    a ∈ slots ↔ a.device.toNat < devicesPerBus ∧ a.function = 0 := by
  simp only [slots, List.mem_flatMap, List.mem_map, List.mem_range]
  constructor
  · rintro ⟨i, -, j, hj, rfl⟩
    rw [UInt8.toNat_ofNat']
    exact ⟨Nat.lt_of_le_of_lt (Nat.mod_le _ _) hj, rfl⟩
  · obtain ⟨bus, device, function⟩ := a
    rintro ⟨hdevice, rfl⟩
    refine ⟨bus.toNat, bus.toNat_lt, device.toNat, hdevice, ?_⟩
    rw [UInt8.ofNat_toNat, UInt8.ofNat_toNat]

theorem PciAddress.mem_slots_iff {bus device : UInt8} :
    (⟨bus, device, 0⟩ : PciAddress) ∈ slots ↔ device.toNat < devicesPerBus :=
  mem_slots.trans (and_iff_left rfl)

/-- The only controller in a slot is the first. -/
theorem Platform.scanFirst_of_only {σ : Type} {p : Platform σ} {s : σ} {addr : PciAddress}
    {d : PciDevice} (hslot : addr ∈ PciAddress.slots)
    (hcontroller : p.controllerAt? s addr = some d)
    (honly : ∀ other, other ≠ addr → p.controllerAt? s other = none) :
    p.scanFirst s = .ok d := by
  unfold scanFirst
  cases hfound : PciAddress.slots.findSome? (p.controllerAt? s) with
  | none =>
    have hnone := List.findSome?_eq_none_iff.1 hfound addr hslot
    cases hnone.symm.trans hcontroller
  | some e =>
    obtain ⟨other, -, hother⟩ := List.exists_of_findSome?_eq_some hfound
    have heq : other = addr := by
      by_contra hne
      cases (honly other hne).symm.trans hother
    subst heq
    cases hother.symm.trans hcontroller
    rfl

namespace SimulatedBus

variable {bus : SimulatedBus} {addr other : PciAddress} {image : ConfigImage}
  {deviceId : UInt16} {l : BusLayout}

/-- An update finds the image as it was, or an empty one. -/
theorem image?_updateImage_self (bus : SimulatedBus) (addr : PciAddress)
    (f : ConfigImage → ConfigImage) : (bus.updateImage addr f).image? addr =
      some (f ((bus.image? addr).getD (Vector.replicate configWords 0))) := by
  simp [image?, updateImage]

/-- Other functions keep their images. -/
theorem image?_updateImage_of_ne (hne : other ≠ addr) (f : ConfigImage → ConfigImage) :
    (bus.updateImage addr f).image? other = bus.image? other := by
  have hkept (entries : List (PciAddress × ConfigImage)) :
      (entries.filter (·.1 != addr)).lookup other = entries.lookup other := by
    induction entries with
    | nil => rfl
    | cons entry entries ih =>
      obtain ⟨key, image⟩ := entry
      by_cases hkey : key = addr
      · have hother : (other == key) = false := beq_false_of_ne (hkey ▸ hne)
        rw [List.filter_cons_of_neg (by simp [hkey]), ih, List.lookup_cons, hother]
      · rw [List.filter_cons_of_pos (by simpa using hkey), List.lookup_cons, List.lookup_cons, ih]
  rw [image?, updateImage, List.lookup_cons, beq_false_of_ne hne]
  exact hkept bus.config

theorem readConfig_of_image? (himage : bus.image? addr = some image) {offset : UInt16}
    (haligned : offset.toNat % 4 = 0) (hlt : offset.toNat / 4 < configWords) :
    bus.readConfig addr offset = .ok (image.get ⟨offset.toNat / 4, hlt⟩) := by
  rw [readConfig, dif_pos ⟨haligned, hlt⟩, himage]
  rfl

def gpuIdWord (deviceId : UInt16) : UInt32 := deviceId.toUInt32 <<< 16 ||| amdVendorId.toUInt32

def gpuClassWord : UInt32 := displayClass.toUInt32 <<< 24 ||| 0xC1

/-- The image of a display controller. -/
def gpuImage (deviceId : UInt16) (l : BusLayout) : ConfigImage :=
  let registers := l.registers ||| 0x4
  let aperture := l.aperture ||| 0xC
  (((((((Vector.replicate configWords 0).setIfInBounds 0 (gpuIdWord deviceId)).setIfInBounds 2
    gpuClassWord).setIfInBounds 4 registers.toUInt32).setIfInBounds 5
    (registers >>> 32).toUInt32).setIfInBounds 6 aperture.toUInt32).setIfInBounds 7
    (aperture >>> 32).toUInt32).setIfInBounds 9 l.doorbell.toUInt32

/-- A display controller that is put on the bus has the image of its layout. -/
theorem image?_addGpu_self (habsent : bus.image? addr = none) (deviceId : UInt16) (l : BusLayout) :
    (bus.addGpu addr deviceId l).image? addr = some (gpuImage deviceId l) := by
  have hmemory (bus : SimulatedBus) (phys : UInt64) (len : Nat) :
    (bus.addMemory phys len).image? addr = bus.image? addr := rfl
  simp only [addGpu, addFunction, setBar64, setConfig, hmemory, image?_updateImage_self,
    Option.getD_some, habsent, Option.getD_none]
  rfl

theorem image?_addGpu_of_ne (hne : other ≠ addr) (deviceId : UInt16) (l : BusLayout) :
    (bus.addGpu addr deviceId l).image? other = bus.image? other := by
  have hmemory (bus : SimulatedBus) (phys : UInt64) (len : Nat) :
    (bus.addMemory phys len).image? other = bus.image? other := rfl
  simp only [addGpu, addFunction, setBar64, setConfig, hmemory, image?_updateImage_of_ne hne]

/-- Setting a word of an image sets that word alone. -/
theorem get_setIfInBounds (image : ConfigImage) (i : Nat) (value : UInt32) {j : Nat}
    (hj : j < configWords) :
    (image.setIfInBounds i value).get ⟨j, hj⟩ = if i = j then value else image.get ⟨j, hj⟩ :=
  Vector.getElem_setIfInBounds hj

/-- The words that discovery reads of a display controller. -/
theorem gpu_words (himage : bus.image? addr = some (gpuImage deviceId l)) :
    bus.readConfig addr idOffset = .ok (gpuIdWord deviceId) ∧
    bus.readConfig addr classOffset = .ok gpuClassWord ∧
    bus.readConfig addr 0x10 = .ok (l.registers ||| 0x4).toUInt32 ∧
    bus.readConfig addr 0x14 = .ok ((l.registers ||| 0x4) >>> 32).toUInt32 ∧
    bus.readConfig addr 0x18 = .ok (l.aperture ||| 0xC).toUInt32 ∧
    bus.readConfig addr 0x1C = .ok ((l.aperture ||| 0xC) >>> 32).toUInt32 ∧
    bus.readConfig addr 0x24 = .ok l.doorbell.toUInt32 := by
  refine ⟨?_, ?_, ?_, ?_, ?_, ?_, ?_⟩ <;>
    · rw [readConfig_of_image? himage (by decide) (by decide)]
      simp [gpuImage, get_setIfInBounds, idOffset, classOffset]

theorem splitIdWord_gpuIdWord (deviceId : UInt16) :
    splitIdWord (gpuIdWord deviceId) = (amdVendorId, deviceId) := by
  have hlt := deviceId.toNat_lt
  have hvendor : amdVendorId.toUInt32.toNat = 0x1002 := by decide
  have hword : (gpuIdWord deviceId).toNat = 2 ^ 16 * deviceId.toNat + 0x1002 := by
    have hshift : deviceId.toNat <<< 16 % 2 ^ 32 = 2 ^ 16 * deviceId.toNat := by
      rw [Nat.shiftLeft_eq]
      omega
    rw [gpuIdWord, UInt32.toNat_or, UInt32.toNat_shiftLeft, UInt16.toNat_toUInt32, hvendor]
    change deviceId.toNat <<< 16 % 2 ^ 32 ||| 0x1002 = _
    rw [hshift, ← Nat.two_pow_add_eq_or_of_lt (by decide)]
  have hid : amdVendorId.toNat = 0x1002 := rfl
  rw [splitIdWord_eq_iff, hword, hid]
  omega

/-- What discovery says of a display controller. -/
def gpuInfo (addr : PciAddress) (deviceId : UInt16) : PciDevice :=
  ⟨addr, amdVendorId, deviceId, gpuClassWord, Chip.displayName deviceId⟩

/-- A display controller is identified by the ids that were put into its image. -/
theorem identify_gpu (himage : bus.image? addr = some (gpuImage deviceId l)) :
    platform.identify bus addr = .ok (some (gpuInfo addr deviceId)) := by
  obtain ⟨hid, hclass, -⟩ := gpu_words himage
  have hsplit := splitIdWord_gpuIdWord deviceId
  have hvendor : (splitIdWord (gpuIdWord deviceId)).1 = amdVendorId := by rw [hsplit]
  -- Neither of the two words that are nobody's has the vendor in its low half.
  have hpresent : ¬(gpuIdWord deviceId = absentWord ∨ gpuIdWord deviceId = 0) := by
    rintro (habsent | hzero)
    · rw [habsent] at hvendor
      exact absurd hvendor (by decide)
    · rw [hzero] at hvendor
      exact absurd hvendor (by decide)
  rw [not_or] at hpresent
  exact Platform.identify_eq_some_iff.2
    ⟨rfl, ⟨_, hid, hpresent.2, hpresent.1, hsplit⟩, hclass, rfl⟩

/-- A function without an image is nobody. -/
theorem identify_of_absent (habsent : bus.image? addr = none) :
    platform.identify bus addr = .ok none := by
  have hread : bus.readConfig addr idOffset = .ok absentWord := by
    rw [readConfig, dif_pos (by decide), habsent]
  rw [Platform.identify, Platform.configWord_eq_ok hread]
  rfl

/-- A display controller that is alone on its bus is the first. -/
theorem scanFirst_gpu (hslot : addr ∈ PciAddress.slots)
    (himage : bus.image? addr = some (gpuImage deviceId l))
    (honly : ∀ other, other ≠ addr → bus.image? other = none) :
    platform.scanFirst bus = .ok (gpuInfo addr deviceId) := by
  apply Platform.scanFirst_of_only hslot
  · have hdisplay : (gpuInfo addr deviceId).isAmdDisplay = true :=
      show (amdVendorId == amdVendorId && baseClass gpuClassWord == displayClass) = true by decide
    simp only [Platform.controllerAt?, identify_gpu himage, hdisplay, if_true]
  · intro other hne
    rw [Platform.controllerAt?, identify_of_absent (honly other hne)]

end SimulatedBus

namespace BusLayout

def base (l : BusLayout) : WindowKind → UInt64
  | .registers => l.registers
  | .aperture => l.aperture
  | .doorbell => l.doorbell

def size (l : BusLayout) : WindowKind → Nat
  | .registers => l.registerSize
  | .aperture => l.apertureSize
  | .doorbell => l.doorbellSize

/-- The bases are aligned as their windows ask, and the doorbells' fits its register. -/
structure Encodable (l : BusLayout) : Prop where
  aligned : ∀ kind, (l.base kind).toNat % kind.alignment.toNat = 0
  doorbell_lt : l.doorbell.toNat < UInt32.size

end BusLayout

namespace SimulatedBus

/-- Every window's register gives back the base that was put in it. -/
theorem readBar_gpu {bus : SimulatedBus} {addr : PciAddress} {deviceId : UInt16} {l : BusLayout}
    (hencodable : l.Encodable) (himage : bus.image? addr = some (gpuImage deviceId l))
    (kind : WindowKind) :
    ∃ raw, platform.readBar bus addr kind = .ok ⟨kind, raw, l.base kind⟩ := by
  obtain ⟨-, -, hregisters, hregisters', haperture, haperture', hdoorbell⟩ := gpu_words himage
  have hmod : (l.base kind).toNat % 16 = 0 :=
    WindowKind.mod_of_isAligned (kind.isAligned_alignment_iff.2 (hencodable.aligned kind))
      (by decide)
  have hbar {low : UInt32} {high : Option UInt32} (hbase : Bar.address low high = l.base kind) :
      Bar.decode kind low high = ⟨kind, Bar.joinWords low high, l.base kind⟩ := by
    rw [Bar.decode, hbase]
  cases kind with
  | registers =>
    have hread : platform.readBar bus addr .registers = .ok (.decode .registers _ (some _)) :=
      Platform.readBar_of_dwords rfl hregisters hregisters'
    exact ⟨_, hread.trans (congrArg _ (hbar (Bar.address_dwords hmod (by decide))))⟩
  | aperture =>
    have hread : platform.readBar bus addr .aperture = .ok (.decode .aperture _ (some _)) :=
      Platform.readBar_of_dwords rfl haperture haperture'
    exact ⟨_, hread.trans (congrArg _ (hbar (Bar.address_dwords hmod (by decide))))⟩
  | doorbell =>
    have hread : platform.readBar bus addr .doorbell = .ok (.decode .doorbell _ none) :=
      Platform.readBar_of_dword rfl hdoorbell
    exact ⟨_, hread.trans (congrArg _ (hbar (Bar.address_dword hmod hencodable.doorbell_lt)))⟩

end SimulatedBus

end GpuControl
