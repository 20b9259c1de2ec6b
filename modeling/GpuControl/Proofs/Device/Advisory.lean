import GpuControl.Platform.SimulatedBus
import GpuControl.Proofs.Device.Opening
import GpuControl.Proofs.Discovery.Congruence
import GpuControl.Proofs.Memory.Access

namespace GpuControl

/-- Both fail, with the same error, or both succeed, with related results. -/
inductive SameOutcome {ε α β : Type} (related : α → β → Prop) : Except ε α → Except ε β → Prop
  | failed (e : ε) : SameOutcome related (.error e) (.error e)
  | succeeded {a : α} {b : β} (h : related a b) : SameOutcome related (.ok a) (.ok b)

namespace SameOutcome

variable {ε α β : Type} {related : α → β → Prop} {a : α} {e : ε} {result : Except ε β}

theorem eq_error (h : SameOutcome related (.error e) result) : result = .error e := by
  cases h with
  | failed => rfl

/-- If one result is a success, so is the other, with a related value. -/
theorem exists_eq_ok (h : SameOutcome related (.ok a) result) :
    ∃ b, result = .ok b ∧ related a b := by
  cases h with
  | succeeded h => exact ⟨_, rfl, h⟩

end SameOutcome

/-- Mappings of one length, wherever they are, with the same bytes behind them. -/
structure Mapping.Alike (m m' : Memory) (a b : Mapping) : Prop where
  len_eq : b.len = a.len
  load_eq : m'.load b.start b.len = m.load a.start a.len

/-- Windows of one kind, base and length, with the same bytes behind them. -/
structure Window.Alike (m m' : Memory) (a b : Window) : Prop where
  kind_eq : b.kind = a.kind
  phys_eq : b.phys = a.phys
  mapping : a.mapping.Alike m m' b.mapping

/-- Devices that differ in doorbells and link at most. -/
structure Device.Alike (m m' : Memory) (d e : Device) : Prop where
  info_eq : e.info = d.info
  config_eq : e.config = d.config
  registers : d.registers.window.Alike m m' e.registers.window
  aperture : d.aperture.window.Alike m m' e.aperture.window
  totalBytes_eq : e.aperture.totalBytes = d.aperture.totalBytes
  pointers_eq : e.pointers = d.pointers

variable {m m' : Memory}

/-- Windows that are alike refuse the same reads and answer the others alike. -/
theorem Window.Alike.read32_eq {a b : Window} (halike : a.Alike m m' b) (offset : Nat) :
    b.read32 m' offset = a.read32 m offset := by
  have hlen : b.len = a.len := halike.mapping.len_eq
  have hadmits : b.Admits offset 4 ↔ a.Admits offset 4 := by
    rw [Admits, Contains, hlen]
    rfl
  by_cases hfits : a.Admits offset 4
  · have hload : m'.load (b.cell offset) 4 = m.load (a.cell offset) 4 := by
      rw [cell, cell, Memory.load_advance m' _ (hadmits.2 hfits).2, Memory.load_advance m _ hfits.2]
      exact congrArg (fun bytes => (bytes.drop offset).take 4) halike.mapping.load_eq
    rw [read32, read32, if_pos (hadmits.2 hfits), if_pos hfits, Memory.loadDword, hload]
    rfl
  · rw [read32, read32, if_neg (mt hadmits.1 hfits), if_neg hfits]

theorem RegisterBlock.read32_eq_of_alike {a b : Window} (halike : a.Alike m m' b) (offset : Nat) :
    RegisterBlock.read32 ⟨b⟩ m' offset = RegisterBlock.read32 ⟨a⟩ m offset := by
  rw [RegisterBlock.read32, RegisterBlock.read32, halike.read32_eq]

/-- Mappings that are alike are refused together or become windows that are alike. -/
theorem Window.wrap_alike {a b : Mapping} (halike : a.Alike m m' b) (kind : WindowKind)
    (phys : UInt64) :
    SameOutcome (Window.Alike m m') (Window.wrap kind phys a) (Window.wrap kind phys b) := by
  unfold wrap
  rw [halike.len_eq]
  split
  · exact .failed _
  · split
    · exact .failed _
    · exact .succeeded ⟨rfl, rfl, halike⟩

namespace Platform

variable {σ τ : Type} {p : Platform σ} {q : Platform τ} {s : σ} {t : τ}

/-- Configuration space reads alike, but for the doorbells' base address register. -/
def SameConfig (p : Platform σ) (q : Platform τ) (s : σ) (t : τ) : Prop :=
  ∀ addr offset, offset ≠ WindowKind.doorbell.configOffset →
    q.readConfig t addr offset = p.readConfig s addr offset

/-- The words that tell who a function is are among those that read the same. -/
theorem SameConfig.identify_eq (hconfig : p.SameConfig q s t) (addr : PciAddress) :
    q.identify t addr = p.identify s addr :=
  identify_congr (hconfig addr _ (by decide)) (hconfig addr _ (by decide))

/-- A selector finds the same function on both platforms. -/
theorem SameConfig.select_eq (hconfig : p.SameConfig q s t) (selector : DeviceSelector) :
    q.select t selector = p.select s selector :=
  select_congr hconfig.identify_eq selector

/-- Only the doorbell's register may read differently. -/
theorem SameConfig.readBar_eq (hconfig : p.SameConfig q s t) (addr : PciAddress)
    {kind : WindowKind} (hkind : kind ≠ .doorbell) :
    q.readBar t addr kind = p.readBar s addr kind := by
  cases kind with
  | doorbell => exact absurd rfl hkind
  | registers =>
    exact readBar_congr (hconfig addr _ (by decide)) fun _ => hconfig addr _ (by decide)
  | aperture =>
    exact readBar_congr (hconfig addr _ (by decide)) fun _ => hconfig addr _ (by decide)

/-- The bases of registers and aperture do not depend on the doorbell's register. -/
theorem SameConfig.windowBases_eq (hconfig : p.SameConfig q s t) (addr : PciAddress)
    (strict : Bool) : q.windowBases t addr strict = p.windowBases s addr strict := by
  rw [windowBases, windowBases, hconfig.readBar_eq addr (by decide),
    hconfig.readBar_eq addr (by decide)]

/-- A request for memory is answered alike. -/
def SameAnswer (m m' : Memory) (p : Platform σ) (q : Platform τ) (s : σ) (t : τ) (phys : UInt64)
    (len : Nat) : Prop :=
  SameOutcome (Mapping.Alike m m') (p.mapPhysical s phys len).1 (q.mapPhysical t phys len).1

/-- The same answer to a request for physical memory makes windows that are alike. -/
theorem SameAnswer.mapWindow {phys : UInt64} {len : Nat}
    (hanswer : SameAnswer m m' p q s t phys len) (kind : WindowKind) :
    SameOutcome (Window.Alike m m') (p.mapWindow s kind phys len).1
      (q.mapWindow t kind phys len).1 := by
  have houtcome := p.map_outcome s kind phys len
  generalize p.mapWindow s kind phys len = result at houtcome
  unfold SameAnswer at hanswer
  cases houtcome with
  | misaligned halign =>
    rw [(MapOutcome.misaligned (p := q) halign).eq_mapWindow]
    exact .failed _
  | refused halign hmap =>
    rw [hmap] at hanswer
    have hmap' : q.mapPhysical t phys len = (.error _, _) := Prod.ext hanswer.eq_error rfl
    rw [(MapOutcome.refused halign hmap').eq_mapWindow]
    exact .failed _
  | discarded halign hmap hwrap =>
    rw [hmap] at hanswer
    obtain ⟨mapping, hok, halike⟩ := hanswer.exists_eq_ok
    have hwrap' := Window.wrap_alike halike kind phys
    rw [hwrap] at hwrap'
    rw [(MapOutcome.discarded halign (Prod.ext hok rfl) hwrap'.eq_error).eq_mapWindow]
    exact .failed _
  | mapped halign hmap hwrap =>
    rw [hmap] at hanswer
    obtain ⟨mapping, hok, halike⟩ := hanswer.exists_eq_ok
    have hwrap' := Window.wrap_alike halike kind phys
    rw [hwrap] at hwrap'
    obtain ⟨w, hw, halike'⟩ := hwrap'.exists_eq_ok
    rw [(MapOutcome.mapped halign (Prod.ext hok rfl) hw).eq_mapWindow]
    exact .succeeded halike'

end Platform

namespace Device

variable {σ τ : Type} {p : Platform σ} {q : Platform τ} {s : σ} {t : τ}

/-- What an opening asks the two platforms they answer alike, but for what it asks about doorbells
and link: nothing is said of the doorbells' base address register, of the request for their granule
and of the link. -/
structure AgreeButForDoorbell (m m' : Memory) (p : Platform σ) (q : Platform τ)
    (selector : DeviceSelector) (config : DriverConfig) (s : σ) (t : τ) : Prop where
  sameConfig : p.SameConfig q s t
  registers : ∀ {info registersBase apertureBase}, p.select s selector = .ok info →
    p.windowBases s info.address config.strictAlignment = .ok (registersBase, apertureBase) →
    p.SameAnswer m m' q s t registersBase config.registerWindowSize
  /-- The aperture is asked for once the registers are mapped. -/
  aperture : ∀ {info registersBase apertureBase a b s₁ t₁}, p.select s selector = .ok info →
    p.windowBases s info.address config.strictAlignment = .ok (registersBase, apertureBase) →
    p.mapPhysical s registersBase config.registerWindowSize = (.ok a, s₁) →
    q.mapPhysical t registersBase config.registerWindowSize = (.ok b, t₁) →
    p.SameAnswer m m' q s₁ t₁ apertureBase config.apertureSize

section Agreeing

variable {selector : DeviceSelector} {config : DriverConfig} {info : PciDevice}
  {registersBase apertureBase : UInt64} {registers aperture : Window} {s₁ s₂ : σ}

theorem AgreeButForDoorbell.select_eq {result : Except DriverError PciDevice}
    (hagree : AgreeButForDoorbell m m' p q selector config s t)
    (hselect : p.select s selector = result) : q.select t selector = result :=
  (hagree.sameConfig.select_eq selector).trans hselect

theorem AgreeButForDoorbell.windowBases_eq {result : Except DriverError (UInt64 × UInt64)}
    (hagree : AgreeButForDoorbell m m' p q selector config s t)
    (hbases : p.windowBases s info.address config.strictAlignment = result) :
    q.windowBases t info.address config.strictAlignment = result :=
  (hagree.sameConfig.windowBases_eq _ _).trans hbases

/-- If one platform maps the registers, so does the other. -/
theorem AgreeButForDoorbell.exists_registers
    (hagree : AgreeButForDoorbell m m' p q selector config s t)
    (hselect : p.select s selector = .ok info)
    (hbases : p.windowBases s info.address config.strictAlignment =
      .ok (registersBase, apertureBase))
    (hregisters : p.mapWindow s .registers registersBase config.registerWindowSize =
      (.ok registers, s₁)) :
    ∃ registers' t₁, q.mapWindow t .registers registersBase config.registerWindowSize =
      (.ok registers', t₁) ∧ registers.Alike m m' registers' := by
  have hanswer := (hagree.registers hselect hbases).mapWindow .registers
  rw [hregisters] at hanswer
  obtain ⟨registers', hok, halike⟩ := hanswer.exists_eq_ok
  exact ⟨registers', _, Prod.ext hok rfl, halike⟩

/-- After the registers, the platforms also agree about the aperture. -/
theorem AgreeButForDoorbell.mapAperture {registers' : Window} {t₁ : τ}
    (hagree : AgreeButForDoorbell m m' p q selector config s t)
    (hselect : p.select s selector = .ok info)
    (hbases : p.windowBases s info.address config.strictAlignment =
      .ok (registersBase, apertureBase))
    (hregisters : p.mapWindow s .registers registersBase config.registerWindowSize =
      (.ok registers, s₁))
    (hregisters' : q.mapWindow t .registers registersBase config.registerWindowSize =
      (.ok registers', t₁)) :
    SameOutcome (Window.Alike m m') (p.mapWindow s₁ .aperture apertureBase config.apertureSize).1
      (q.mapWindow t₁ .aperture apertureBase config.apertureSize).1 :=
  (hagree.aperture hselect hbases (Platform.mapPhysical_of_mapWindow hregisters)
    (Platform.mapPhysical_of_mapWindow hregisters')).mapWindow .aperture

/-- The windows that cannot be done without. -/
theorem AgreeButForDoorbell.exists_windows
    (hagree : AgreeButForDoorbell m m' p q selector config s t)
    (hselect : p.select s selector = .ok info)
    (hbases : p.windowBases s info.address config.strictAlignment =
      .ok (registersBase, apertureBase))
    (hregisters : p.mapWindow s .registers registersBase config.registerWindowSize =
      (.ok registers, s₁))
    (haperture : p.mapWindow s₁ .aperture apertureBase config.apertureSize =
      (.ok aperture, s₂)) :
    ∃ registers' aperture' t₁ t₂,
      q.mapWindow t .registers registersBase config.registerWindowSize = (.ok registers', t₁) ∧
      q.mapWindow t₁ .aperture apertureBase config.apertureSize = (.ok aperture', t₂) ∧
      registers.Alike m m' registers' ∧ aperture.Alike m m' aperture' := by
  obtain ⟨registers', t₁, hregisters', halike⟩ :=
    hagree.exists_registers hselect hbases hregisters
  have hanswer := hagree.mapAperture hselect hbases hregisters hregisters'
  rw [haperture] at hanswer
  obtain ⟨aperture', hok, halike'⟩ := hanswer.exists_eq_ok
  exact ⟨registers', aperture', t₁, _, hregisters', Prod.ext hok rfl, halike, halike'⟩

/-- Doorbells and link decide nothing. Two platforms that agree on configuration space, but for the
doorbells' base address register, and on the answers to the requests for registers and aperture,
either both refuse to open the device, with the same error, or both open it, with the same identity
and settings and with windows of the same bases and lengths. -/
theorem init_alike (hagree : AgreeButForDoorbell m m' p q selector config s t) :
    SameOutcome (Device.Alike m m') (init p m selector config s).1
      (init q m' selector config t).1 := by
  have houtcome := init_outcome p m selector config s
  generalize init p m selector config s = result at houtcome
  cases houtcome with
  | unselected hselect =>
    rw [(InitOutcome.unselected (hagree.select_eq hselect)).eq_init]
    exact .failed _
  | baseless hselect hbases =>
    rw [(InitOutcome.baseless (hagree.select_eq hselect)
      (hagree.windowBases_eq hbases)).eq_init]
    exact .failed _
  | noRegisters hselect hbases hregisters =>
    have hanswer := (hagree.registers hselect hbases).mapWindow .registers
    rw [hregisters] at hanswer
    rw [(InitOutcome.noRegisters (hagree.select_eq hselect) (hagree.windowBases_eq hbases)
      (Prod.ext hanswer.eq_error rfl)).eq_init]
    exact .failed _
  | noAperture hselect hbases hregisters haperture =>
    obtain ⟨registers', t₁, hregisters', -⟩ := hagree.exists_registers hselect hbases hregisters
    have hanswer := hagree.mapAperture hselect hbases hregisters hregisters'
    rw [haperture] at hanswer
    rw [(InitOutcome.noAperture (hagree.select_eq hselect) (hagree.windowBases_eq hbases)
      hregisters' (Prod.ext hanswer.eq_error rfl)).eq_init]
    exact .failed _
  -- From here on the doorbells and the link of the other platform are whatever they are.
  | poisoned hselect hbases hregisters haperture _ hstatus =>
    obtain ⟨registers', aperture', t₁, t₂, hregisters', haperture', halike, -⟩ :=
      hagree.exists_windows hselect hbases hregisters haperture
    rw [← RegisterBlock.read32_eq_of_alike halike] at hstatus
    rw [(InitOutcome.poisoned (hagree.select_eq hselect) (hagree.windowBases_eq hbases)
      hregisters' haperture' rfl hstatus).eq_init]
    exact .failed _
  | opened hselect hbases hregisters haperture _ hstatus _ =>
    obtain ⟨registers', aperture', t₁, t₂, hregisters', haperture', halike, halike'⟩ :=
      hagree.exists_windows hselect hbases hregisters haperture
    rw [← RegisterBlock.read32_eq_of_alike halike] at hstatus
    rw [(InitOutcome.opened (hagree.select_eq hselect) (hagree.windowBases_eq hbases)
      hregisters' haperture' rfl hstatus rfl).eq_init]
    exact .succeeded ⟨rfl, rfl, halike, halike', rfl, rfl⟩

end Agreeing

/-- The same bus as one whose doorbell register cannot be read; its link is being trained. -/
def sampleFaulty : Platform SimulatedBus :=
  SimulatedBus.platform.withConfigFaults [(⟨3, 0, 0⟩, WindowKind.doorbell.configOffset)]

def sampleTraining : SimulatedBus := { sampleBus with linkFailures := 9 }

/-- A failing doorbell register and a link in training are all that tells the two apart. -/
theorem agreeButForDoorbell_sample :
    AgreeButForDoorbell .empty .empty SimulatedBus.platform sampleFaulty (.at 3 0) sampleSettings
      sampleBus sampleTraining where
  sameConfig := by
    intro addr offset hoffset
    exact if_neg fun hfault => hoffset (Prod.ext_iff.1 (List.mem_singleton.1 hfault)).2
  registers := by
    intro info registersBase apertureBase hselect hbases
    cases hselect
    cases hbases
    exact .succeeded ⟨rfl, rfl⟩
  aperture := by
    intro info registersBase apertureBase a b s₁ t₁ hselect hbases hmap hmap'
    cases hselect
    cases hbases
    cases hmap
    cases hmap'
    exact .succeeded ⟨rfl, rfl⟩

theorem exists_opened_sample :
    ∃ d after, init SimulatedBus.platform .empty (.at 3 0) sampleSettings sampleBus =
      (.ok d, after) ∧ d.doorbell.isSome :=
  ⟨_, _, (InitOutcome.opened rfl rfl rfl rfl rfl
    (RegisterBlock.read32_empty_ne_sentinel (by decide)) rfl).eq_init, rfl⟩

theorem exists_opened_without_doorbell_sample :
    ∃ d after, init sampleFaulty .empty (.at 3 0) sampleSettings sampleTraining =
      (.ok d, after) ∧ d.doorbell = none :=
  ⟨_, _, (InitOutcome.opened rfl rfl rfl rfl rfl
    (RegisterBlock.read32_empty_ne_sentinel (by decide)) rfl).eq_init, rfl⟩

/-- One of the two devices has doorbells and the other has none. -/
theorem init_alike_sample :
    AgreeButForDoorbell .empty .empty SimulatedBus.platform sampleFaulty (.at 3 0) sampleSettings
      sampleBus sampleTraining ∧
    ∃ d e, (init SimulatedBus.platform .empty (.at 3 0) sampleSettings sampleBus).1 = .ok d ∧
      (init sampleFaulty .empty (.at 3 0) sampleSettings sampleTraining).1 = .ok e ∧
      d.Alike .empty .empty e ∧ d.doorbell.isSome ∧ e.doorbell = none := by
  obtain ⟨d, _, hinit, hdoorbell⟩ := exists_opened_sample
  obtain ⟨e, _, hinit', hnone⟩ := exists_opened_without_doorbell_sample
  have halike := init_alike agreeButForDoorbell_sample
  rw [hinit, hinit'] at halike ⊢
  cases halike with
  | succeeded halike =>
    exact ⟨agreeButForDoorbell_sample, d, e, rfl, rfl, halike, hdoorbell, hnone⟩

end Device

end GpuControl
