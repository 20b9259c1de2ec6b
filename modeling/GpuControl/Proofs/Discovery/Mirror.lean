import GpuControl.Platform.SimulatedBus
import GpuControl.Platform.Sysfs
import GpuControl.Proofs.Discovery.Congruence
import GpuControl.Proofs.Memory.Access
import GpuControl.Proofs.Text.Numeral

namespace GpuControl

namespace Text

/-- A byte always takes two hexadecimal digits, so the fields of an address stand at fixed
places. -/
theorem length_hexDigitsPadded : ∀ n < 256, (hexDigitsPadded 2 n).length = 2 := by
  decide +kernel

/-- What is written is read back. -/
theorem readNat_hexDigitsPadded {largest n : Nat} (width : Nat) (hn : n ≤ largest) :
    readNat 16 largest (hexDigitsPadded width n) = .ok n := by
  have hdigits : Numeral 16 (hexDigitsPadded width n) n :=
    (numeral_toDigits (by decide) n).zeros_append _
  exact (readNat_eq_ok_iff (by decide)).2 ⟨_, .inl rfl, hdigits, hn⟩

end Text

namespace PciAddress

variable {a b : PciAddress}

theorem toList_text (a : PciAddress) : a.text.toList =
    Text.hexDigitsPadded 2 a.bus.toNat ++
      ':' :: (Text.hexDigitsPadded 2 a.device.toNat ++
        '.' :: Nat.toDigits 10 a.function.toNat) := by
  simp [text, Text.hexField, toString, Nat.repr]

/-- Different addresses have different texts: bus, device and function are read back from them. -/
theorem text_inj : a.text = b.text ↔ a = b := by
  refine ⟨fun htext => ?_, congrArg text⟩
  have hlength (n : UInt8) : (Text.hexDigitsPadded 2 n.toNat).length = 2 :=
    Text.length_hexDigitsPadded _ n.toNat_lt
  have hhex {m n : UInt8} (h : Text.hexDigitsPadded 2 m.toNat = Text.hexDigitsPadded 2 n.toNat) :
      m = n := by
    have hread := Text.readNat_hexDigitsPadded 2 (Nat.le_pred_of_lt m.toNat_lt)
    rw [h, Text.readNat_hexDigitsPadded 2 (Nat.le_pred_of_lt n.toNat_lt)] at hread
    exact UInt8.toNat_inj.1 (Except.ok.inj hread.symm)
  have hdecimal {m n : UInt8} (h : Nat.toDigits 10 m.toNat = Nat.toDigits 10 n.toNat) : m = n := by
    have hread := congrArg (Nat.ofDigitChars 10 · 0) h
    simp only [Nat.ofDigitChars_ten_toDigits] at hread
    exact UInt8.toNat_inj.1 hread
  -- Both fields before the marks have two digits, so the texts are cut at the same places.
  have hlist := congrArg String.toList htext
  rw [toList_text, toList_text] at hlist
  obtain ⟨hbus, hrest⟩ := List.append_inj hlist ((hlength _).trans (hlength _).symm)
  obtain ⟨hdevice, hrest⟩ :=
    List.append_inj (List.cons.inj hrest).2 ((hlength _).trans (hlength _).symm)
  have hfunction := (List.cons.inj hrest).2
  obtain ⟨bus, device, function⟩ := a
  obtain ⟨bus', device', function'⟩ := b
  cases hhex hbus
  cases hhex hdevice
  cases hdecimal hfunction
  rfl

theorem treeName_inj : a.treeName = b.treeName ↔ a = b := by
  refine ⟨fun hname => text_inj.1 ?_, congrArg treeName⟩
  have hlist := congrArg String.toList hname
  simp only [treeName, String.toList_append] at hlist
  exact String.toList_inj.1 (List.append_cancel_left hlist)

end PciAddress

/-- Nothing is found at a path that has no entry, none below it and none on the way to it. -/
theorem FileTree.openFile_of_apart {t : FileTree} {path : FilePath}
    (hlookup : t.entries.lookup path = none)
    (hapart : ∀ entry ∈ t.entries, ¬path.isPrefixOf entry.1 ∧ ¬entry.1.isPrefixOf path) :
    t.openFile path = .error .noSuchFile := by
  have hnode : t.node? path = none := by
    rw [node?, hlookup]
    refine if_neg fun hany => ?_
    obtain ⟨entry, hentry, hbelow⟩ := List.any_eq_true.1 hany
    exact (hapart entry hentry).1 hbelow
  have hmissing : t.missing path = .noSuchFile := by
    refine if_neg fun hany => ?_
    obtain ⟨entry, hentry, hthrough⟩ := List.any_eq_true.1 hany
    have honWay := (Bool.and_eq_true_iff.1 (Bool.and_eq_true_iff.1 hthrough).1).1
    exact (hapart entry hentry).2 honWay
  rw [openFile, hnode]
  exact congrArg _ hmissing

def ConfigImage.bytes (image : ConfigImage) : List UInt8 := LittleEndian.dwords image.toList

namespace SysfsHost

variable {host : SysfsHost} {bus : SimulatedBus} {addr a b : PciAddress}

def configPath (host : SysfsHost) (addr : PciAddress) : FilePath :=
  host.deviceDir addr ++ ["config"]

/-- No two functions share a directory. -/
theorem deviceDir_inj : host.deviceDir a = host.deviceDir b ↔ a = b := by
  simp [deviceDir, PciAddress.treeName_inj]

theorem configPath_inj : host.configPath a = host.configPath b ↔ a = b := by
  rw [configPath, configPath, List.append_cancel_right_eq, deviceDir_inj]

/-- Paths of configuration files are equally long, so none leads through another. -/
theorem length_configPath : (host.configPath a).length = (host.configPath b).length := by
  simp [configPath, deviceDir]

/-- The configuration files are the images of the functions on the bus, and there are no others. -/
def Mirrors (host : SysfsHost) (bus : SimulatedBus) : Prop :=
  ∀ addr, host.tree.read (host.configPath addr) =
    match bus.image? addr with
    | some image => .ok image.bytes
    | none => .error .noSuchFile

/-- A word cut out of the file is the word of the image. -/
theorem Mirrors.readConfig_eq (hmirrors : host.Mirrors bus) (addr : PciAddress) {offset : UInt16}
    (haligned : offset.toNat % 4 = 0) (hlt : offset.toNat < 256) :
    host.readConfig addr offset = bus.readConfig addr offset := by
  have hin : offset.toNat % 4 = 0 ∧ offset.toNat / 4 < configWords :=
    ⟨haligned, Nat.div_lt_of_lt_mul hlt⟩
  have hread := hmirrors addr
  rw [readConfig, SimulatedBus.readConfig, dif_pos hin]
  unfold configPath at hread
  rw [hread]
  cases bus.image? addr with
  | none => rfl
  | some image =>
    have hi : offset.toNat / 4 < image.toList.length := by
      rw [Vector.length_toList]
      exact hin.2
    have hoffset : 4 * (offset.toNat / 4) = offset.toNat := by omega
    have hword := LittleEndian.word_of_dwords hi
    rw [hoffset, Vector.getElem_toList] at hword
    simp only [ConfigImage.bytes, hword, LittleEndian.length_dword, if_pos,
      LittleEndian.toDword_dword]

/-- Functions are identified by words that both show. -/
theorem Mirrors.identify_eq (hmirrors : host.Mirrors bus) (addr : PciAddress) :
    platform.identify host addr = SimulatedBus.platform.identify bus addr :=
  Platform.identify_congr (hmirrors.readConfig_eq addr (by decide) (by decide))
    (hmirrors.readConfig_eq addr (by decide) (by decide))

/-- Base address registers are words of the image, so both show the same. -/
theorem Mirrors.readBar_eq (hmirrors : host.Mirrors bus) (addr : PciAddress) (kind : WindowKind) :
    platform.readBar host addr kind = SimulatedBus.platform.readBar bus addr kind := by
  have hlow : ∀ kind : WindowKind,
      kind.configOffset.toNat % 4 = 0 ∧ kind.configOffset.toNat < 256 := by
    intro kind
    cases kind <;> decide
  have hhigh : ∀ kind : WindowKind,
      (kind.configOffset + 4).toNat % 4 = 0 ∧ (kind.configOffset + 4).toNat < 256 := by
    intro kind
    cases kind <;> decide
  exact Platform.readBar_congr (hmirrors.readConfig_eq addr (hlow kind).1 (hlow kind).2) fun _ =>
    hmirrors.readConfig_eq addr (hhigh kind).1 (hhigh kind).2

/-- On a system that mirrors a bus, configuration space reads as on the bus and all of discovery
finds the same, or fails in the same way. -/
theorem Mirrors.discovery_eq (hmirrors : host.Mirrors bus) :
    (∀ addr (offset : UInt16), offset.toNat % 4 = 0 → offset.toNat < 256 →
      platform.readConfig host addr offset = SimulatedBus.platform.readConfig bus addr offset) ∧
    (∀ addr, platform.identify host addr = SimulatedBus.platform.identify bus addr) ∧
    platform.enumerate host = SimulatedBus.platform.enumerate bus ∧
    platform.scanFirst host = SimulatedBus.platform.scanFirst bus ∧
    (∀ selector, platform.select host selector = SimulatedBus.platform.select bus selector) ∧
    (∀ addr kind, platform.readBar host addr kind = SimulatedBus.platform.readBar bus addr kind) ∧
    ∀ a b, host.deviceDir a = host.deviceDir b ↔ a = b :=
  ⟨fun addr _ haligned hlt => hmirrors.readConfig_eq addr haligned hlt, hmirrors.identify_eq,
    Platform.enumerate_congr hmirrors.identify_eq, Platform.scanFirst_congr hmirrors.identify_eq,
    Platform.select_congr hmirrors.identify_eq, hmirrors.readBar_eq, fun _ _ => deviceDir_inj⟩

/-- A display controller with its sound function. -/
def twoFunctions : SimulatedBus :=
  (SimulatedBus.withGpu 3 0 0x731F).addFunction ⟨3, 0, 1⟩ 0xAB381002 0x04030000

/-- A system with the configuration files of a bus. -/
def ofBus (kernel : Kernel) (root : String) (bus : SimulatedBus) : SysfsHost where
  root := root
  tree := ⟨bus.config.map fun (addr, image) =>
    (({ root } : SysfsHost).configPath addr, .file image.bytes)⟩

/-- The tree has a configuration file where the bus has an image, and none elsewhere. -/
theorem lookup_ofBus (kernel : Kernel) (root : String) (bus : SimulatedBus) (addr : PciAddress) :
    (ofBus kernel root bus).tree.entries.lookup ((ofBus kernel root bus).configPath addr) =
      (bus.image? addr).map fun image => .file image.bytes := by
  change (bus.config.map fun (addr, image) =>
    (({ root } : SysfsHost).configPath addr, FileNode.file image.bytes)).lookup
      (({ root } : SysfsHost).configPath addr) = (bus.config.lookup addr).map _
  induction bus.config with
  | nil => rfl
  | cons entry rest ih =>
    obtain ⟨other, image⟩ := entry
    by_cases heq : addr = other
    · subst heq
      simp
    · have hne : ({ root } : SysfsHost).configPath addr ≠ ({ root } : SysfsHost).configPath other :=
        mt configPath_inj.1 heq
      simp only [List.map_cons, List.lookup_cons, beq_false_of_ne heq, beq_false_of_ne hne, ih]

theorem isPrefixOf_configPath :
    (host.configPath a).isPrefixOf (host.configPath b) = true ↔ a = b := by
  rw [List.isPrefixOf_iff_prefix]
  refine ⟨fun hwithin => configPath_inj.1 (hwithin.eq_of_length length_configPath), ?_⟩
  rintro rfl
  exact List.prefix_rfl

/-- There is a system like every bus. -/
theorem ofBus_mirrors (kernel : Kernel) (root : String) (bus : SimulatedBus) :
    (ofBus kernel root bus).Mirrors bus := by
  intro addr
  have hlookup := lookup_ofBus kernel root bus addr
  rw [FileTree.read]
  cases himage : bus.image? addr with
  | some image =>
    rw [himage] at hlookup
    rw [FileTree.openFile, FileTree.node?, hlookup]
    rfl
  | none =>
    rw [himage] at hlookup
    rw [FileTree.openFile_of_apart hlookup]
    intro entry hentry
    obtain ⟨⟨other, image⟩, hmem, rfl⟩ := List.mem_map.1 hentry
    have hne : addr ≠ other := bne_iff_ne.1 (List.lookup_eq_none_iff.1 himage _ hmem)
    exact ⟨mt isPrefixOf_configPath.1 hne, mt isPrefixOf_configPath.1 hne.symm⟩

/-- A kernel that refuses no mapping. -/
abbrev willingKernel : Kernel where
  refusal? _ _ _ := none

/-- The display controller and its sound function are found on the system, and a function that is
absent reads as all ones. -/
theorem discovery_eq_sample :
    (ofBus willingKernel "/sys" twoFunctions).Mirrors twoFunctions ∧
    platform.readConfig (ofBus willingKernel "/sys" twoFunctions) ⟨3, 0, 1⟩ 8 = .ok 0x04030000 ∧
    platform.readConfig (ofBus willingKernel "/sys" twoFunctions) ⟨3, 0, 2⟩ 8 = .ok absentWord ∧
    platform.readBar (ofBus willingKernel "/sys" twoFunctions) ⟨3, 0, 0⟩ .aperture =
      .ok ⟨.aperture, 0xE000000C, 0xE0000000⟩ := by
  have hmirrors := ofBus_mirrors willingKernel "/sys" twoFunctions
  obtain ⟨hreadConfig, -, -, -, -, hreadBar, -⟩ := Mirrors.discovery_eq hmirrors
  exact ⟨hmirrors, (hreadConfig _ _ (by decide) (by decide)).trans rfl,
    (hreadConfig _ _ (by decide) (by decide)).trans rfl, (hreadBar _ _).trans rfl⟩

end SysfsHost

end GpuControl
