import GpuControl.Proofs.Device.Opening
import GpuControl.Proofs.Discovery.Congruence
import GpuControl.Proofs.Memory.Physical
import GpuControl.Proofs.Platform.LinkQuery
import Mathlib.Algebra.Ring.Nat

namespace GpuControl

namespace SimulatedBus

/-- The bus as a platform with reads of some configuration words failing. -/
def faulty (faults : List (PciAddress × UInt16)) : Platform SimulatedBus :=
  platform.withConfigFaults faults

/-- Between the two states the bases `mapped` were mapped and the bases `released` given back.
Configuration space and the layout of memory did not change. -/
structure Logs (before after : SimulatedBus) (mapped released : List UInt64) : Prop where
  config_eq : after.config = before.config
  regions_eq : after.regions = before.regions
  mapLog_eq : after.mapLog = before.mapLog ++ mapped
  unmapLog_eq : after.unmapLog = before.unmapLog ++ released

/-- Between the two states the first few of the bases `planned` were mapped, in their order. Those
of `held` are still there, the last one first, and before them the others were given back. -/
def Balanced (before after : SimulatedBus) (planned held : List UInt64) : Prop :=
  ∃ mapped released, Logs before after mapped released ∧ released ++ held = mapped.reverse ∧
    mapped <+: planned

variable {faults : List (PciAddress × UInt16)} {before bus after : SimulatedBus}
  {mapped released mapped' released' planned planned' held : List UInt64}

theorem Logs.refl (bus : SimulatedBus) : Logs bus bus [] [] :=
  ⟨rfl, rfl, (List.append_nil _).symm, (List.append_nil _).symm⟩

/-- What two stretches of a run map and give back is put together in order. -/
theorem Logs.trans (hfirst : Logs before bus mapped released)
    (hsecond : Logs bus after mapped' released') :
    Logs before after (mapped ++ mapped') (released ++ released') where
  config_eq := hsecond.config_eq.trans hfirst.config_eq
  regions_eq := hsecond.regions_eq.trans hfirst.regions_eq
  mapLog_eq := by rw [hsecond.mapLog_eq, hfirst.mapLog_eq, List.append_assoc]
  unmapLog_eq := by rw [hsecond.unmapLog_eq, hfirst.unmapLog_eq, List.append_assoc]

/-- Mapping and unmapping do not change what the base address registers read as. -/
theorem Logs.readBar_eq (hlogs : Logs before after mapped released) (addr : PciAddress)
    (kind : WindowKind) :
    (faulty faults).readBar after addr kind = (faulty faults).readBar before addr kind := by
  have hread (offset : UInt16) : (faulty faults).readConfig after addr offset =
      (faulty faults).readConfig before addr offset := by
    simp only [faulty, Platform.withConfigFaults, platform, readConfig, image?, hlogs.config_eq]
  exact Platform.readBar_congr (hread _) fun _ => hread _

theorem Balanced.refl (bus : SimulatedBus) (planned : List UInt64) : Balanced bus bus planned [] :=
  ⟨[], [], .refl bus, rfl, List.nil_prefix⟩

/-- More may be planned than was mapped. -/
theorem Balanced.extend (hbalanced : Balanced before after planned held)
    (hplanned : planned <+: planned') : Balanced before after planned' held := by
  obtain ⟨mapped, released, hlogs, hheld, hmapped⟩ := hbalanced
  exact ⟨mapped, released, hlogs, hheld, hmapped.trans hplanned⟩

/-- What was mapped before and not given back is held until last. -/
theorem Balanced.prepend (hlogs : Logs before bus mapped [])
    (hbalanced : Balanced bus after planned held) :
    Balanced before after (mapped ++ planned) (held ++ mapped.reverse) := by
  obtain ⟨mapped', released, hlogs', hheld, hmapped⟩ := hbalanced
  refine ⟨_, _, hlogs.trans hlogs', ?_, (List.prefix_append_right_inj mapped).2 hmapped⟩
  rw [List.nil_append, ← List.append_assoc, hheld, List.reverse_append]

/-- Giving back the latest of what is held keeps the balance. -/
theorem Balanced.release (hbalanced : Balanced before bus planned (released ++ held))
    (hlogs : Logs bus after [] released) : Balanced before after planned held := by
  obtain ⟨mapped, released', hlogs', hheld, hmapped⟩ := hbalanced
  refine ⟨_, _, hlogs'.trans hlogs, ?_, ?_⟩
  · rw [List.append_assoc, hheld, List.append_nil]
  · rwa [List.append_nil]

/-- A mapping that is granted adds its base to the log. -/
theorem logs_mapPhysical {phys : UInt64} {len : Nat} {mapping : Mapping}
    (hmap : bus.mapPhysical phys len = (.ok mapping, after)) :
    mapping.phys = phys ∧ Logs bus after [phys] [] := by
  obtain ⟨hphys, -, -, rfl⟩ := mapPhysical_ok hmap
  exact ⟨hphys, rfl, rfl, by simp [mapLog], by simp [unmapLog]⟩

/-- A mapping that is refused leaves no trace. -/
theorem eq_of_mapPhysical_error {phys : UInt64} {len : Nat} {e : PlatformError}
    (hmap : bus.mapPhysical phys len = (.error e, after)) : after = bus := by
  unfold mapPhysical at hmap
  split at hmap
  · cases hmap
    rfl
  split at hmap
  · cases hmap
    rfl
  split at hmap <;> cases hmap
  rfl

theorem logs_unmap (bus : SimulatedBus) (mapping : Mapping) :
    Logs bus (bus.unmap mapping) [] [mapping.phys] :=
  ⟨rfl, rfl, by simp [unmap, mapLog], by simp [unmap, unmapLog]⟩

theorem Balanced.unmap {mapping : Mapping}
    (hbalanced : Balanced before bus planned (mapping.phys :: held)) :
    Balanced before (bus.unmap mapping) planned held :=
  Balanced.release hbalanced (logs_unmap bus mapping)

/-- Windows are given back in the order in which they are listed. -/
theorem logs_unmapAll (faults : List (PciAddress × UInt16)) (bus : SimulatedBus)
    (windows : List Window) :
    Logs bus ((faulty faults).unmapAll bus windows) [] (windows.map (·.mapping.phys)) := by
  induction windows generalizing bus with
  | nil => exact .refl bus
  | cons w windows ih => exact (logs_unmap bus w.mapping).trans (ih _)

/-- A question for the link maps nothing and gives nothing back. -/
theorem logs_linkStatus (bus : SimulatedBus) : Logs bus bus.linkStatus.2 [] [] := by
  rw [linkStatus_snd]
  exact ⟨rfl, rfl, (List.append_nil _).symm, (List.append_nil _).symm⟩

/-- Nor does any number of them. -/
theorem logs_queryLinkUpTo (faults : List (PciAddress × UInt16)) (addr : PciAddress)
    (attempts : Nat) (bus : SimulatedBus) :
    Logs bus ((faulty faults).queryLinkUpTo addr attempts bus).2 [] [] := by
  induction attempts generalizing bus with
  | zero => exact .refl bus
  | succ attempts ih =>
    have hlogs := logs_linkStatus bus
    have hquery : (faulty faults).linkStatus bus addr = bus.linkStatus := rfl
    unfold Platform.queryLinkUpTo
    rw [hquery]
    generalize bus.linkStatus = answer at hlogs
    split
    · exact hlogs
    · split
      · exact hlogs
      · exact hlogs.trans (ih _)

theorem logs_queryLink {addr : PciAddress} {retries : UInt32} {link : Option PcieLink}
    (hlink : (faulty faults).queryLink bus addr retries = (link, after)) :
    Logs bus after [] [] := by
  have hlogs := logs_queryLinkUpTo faults addr (retries.toNat + 1) bus
  rw [Platform.queryLink] at hlink
  rw [hlink] at hlogs
  exact hlogs

theorem logs_mapWindow {kind : WindowKind} {phys : UInt64} {len : Nat} {w : Window}
    (hmap : (faulty faults).mapWindow bus kind phys len = (.ok w, after)) :
    w.mapping.phys = phys ∧ Logs bus after [phys] [] :=
  logs_mapPhysical (Platform.mapPhysical_of_mapWindow hmap)

/-- A window that cannot be had leaves nothing mapped. -/
theorem balanced_of_mapWindow_error {kind : WindowKind} {phys : UInt64} {len : Nat}
    {e : DriverError} (hmap : (faulty faults).mapWindow bus kind phys len = (.error e, after)) :
    Balanced bus after [phys] [] := by
  have houtcome := (faulty faults).map_outcome bus kind phys len
  rw [hmap] at houtcome
  cases houtcome with
  | misaligned => exact .refl bus _
  | refused _ hmap =>
    rw [eq_of_mapPhysical_error hmap]
    exact .refl bus _
  | discarded _ hmap' _ =>
    obtain ⟨hphys, hlogs⟩ := logs_mapPhysical hmap'
    have hheld := Balanced.prepend hlogs (.refl _ [])
    rw [← hphys] at hheld ⊢
    exact hheld.unmap

/-- The doorbells' granule is held if there are doorbells. If not, it was never mapped or has been
given back. -/
theorem balanced_mapDoorbell {addr : PciAddress} {config : DriverConfig}
    {doorbell : Option DoorbellWindow}
    (hdoorbell : (faulty faults).mapDoorbell bus addr config = (doorbell, after)) :
    Balanced bus after ((faulty faults).doorbellGranule bus addr)
      ((doorbell.map (·.window)).toList.map (·.mapping.phys)) := by
  unfold Platform.mapDoorbell at hdoorbell
  unfold Platform.doorbellGranule
  cases hbar : (faulty faults).readBar bus addr .doorbell with
  | error e =>
    rw [hbar] at hdoorbell
    cases hdoorbell
    exact .refl bus _
  | ok bar =>
    rw [hbar] at hdoorbell
    dsimp only at hdoorbell ⊢
    split at hdoorbell
    · cases hdoorbell
      exact .refl bus _
    next hbase =>
    rw [if_neg hbase]
    split at hdoorbell
    · next hmap =>
      cases hdoorbell
      exact balanced_of_mapWindow_error hmap
    next window s hmap =>
    obtain ⟨hphys, hlogs⟩ := logs_mapWindow hmap
    have hheld := Balanced.prepend hlogs (.refl s [])
    rw [← hphys] at hheld ⊢
    split at hdoorbell
    · cases hdoorbell
      exact hheld.unmap
    · next hwrap =>
      cases hdoorbell
      rw [Option.map_some, DoorbellWindow.wrap_ok hwrap]
      exact hheld

theorem Logs.doorbellGranule_eq {before : SimulatedBus} {mapped released : List UInt64}
    (hlogs : Logs before after mapped released) (addr : PciAddress) :
    (faulty faults).doorbellGranule after addr = (faulty faults).doorbellGranule before addr := by
  simp only [Platform.doorbellGranule, hlogs.readBar_eq]

/-- Nothing is given back while all goes well. -/
theorem balanced_windows {info : PciDevice} {config : DriverConfig}
    {registersBase apertureBase : UInt64} {registers aperture : Window}
    {doorbell : Option DoorbellWindow} {s₁ s₂ : SimulatedBus}
    (hregisters : (faulty faults).mapWindow bus .registers registersBase
      config.registerWindowSize = (.ok registers, s₁))
    (haperture : (faulty faults).mapWindow s₁ .aperture apertureBase config.apertureSize =
      (.ok aperture, s₂))
    (hdoorbell : (faulty faults).mapDoorbell s₂ info.address config = (doorbell, after)) :
    Balanced bus after
      ([registersBase, apertureBase] ++ (faulty faults).doorbellGranule bus info.address)
      (Device.assembled info config registers aperture doorbell).bases := by
  obtain ⟨hregistersBase, hlogs⟩ := logs_mapWindow hregisters
  obtain ⟨hapertureBase, hlogs'⟩ := logs_mapWindow haperture
  have hboth := hlogs.trans hlogs'
  rw [← hboth.doorbellGranule_eq]
  have hbalanced := Balanced.prepend hboth (balanced_mapDoorbell hdoorbell)
  rw [← hregistersBase, ← hapertureBase] at hbalanced ⊢
  rw [Device.bases, Device.windows, List.map_append]
  exact hbalanced

/-- Whatever an opening comes to, it holds what its device holds, and has given back the rest. -/
theorem balanced_init (faults : List (PciAddress × UInt16)) (m : Memory)
    (selector : DeviceSelector) (config : DriverConfig) (bus : SimulatedBus) :
    let p := faulty faults
    let result := Device.init p m selector config bus
    Balanced bus result.2 (Device.plannedBases p selector config bus)
      (result.1.toOption.elim [] Device.bases) := by
  intro p result
  have houtcome : Device.InitOutcome p m selector config bus result := Device.init_outcome ..
  generalize result = result at houtcome
  unfold Device.plannedBases
  cases houtcome with
  | unselected => exact .refl bus _
  | baseless => exact .refl bus _
  | noRegisters hselect hbases hregisters =>
    simp only [hselect, hbases]
    exact (balanced_of_mapWindow_error hregisters).extend (List.prefix_append _ _)
  | noAperture hselect hbases hregisters haperture =>
    simp only [hselect, hbases]
    obtain ⟨hphys, hlogs⟩ := logs_mapWindow hregisters
    have hheld := Balanced.prepend hlogs (balanced_of_mapWindow_error haperture)
    rw [← hphys] at hheld ⊢
    exact hheld.unmap.extend (List.prefix_append _ _)
  | poisoned hselect hbases hregisters haperture hdoorbell =>
    simp only [hselect, hbases]
    have hheld := balanced_windows hregisters haperture hdoorbell
    rw [← List.append_nil (Device.bases _)] at hheld
    exact hheld.release (logs_unmapAll faults _ _)
  | opened hselect hbases hregisters haperture hdoorbell _ hlink =>
    simp only [hselect, hbases]
    have hheld := balanced_windows hregisters haperture hdoorbell
    rw [← List.nil_append (Device.bases _)] at hheld
    exact hheld.release (logs_queryLink hlink)

end SimulatedBus

/-- An opening that was tried, and what has become of it. -/
structure OpeningAttempt where
  /-- The bases that it was to map, in order. -/
  planned : List UInt64
  /-- The bases that it mapped, in order. -/
  mapped : List UInt64
  /-- The bases that it, or closing its device, gave back, in order. -/
  released : List UInt64
  /-- Its device, while that is open. -/
  device : Option Device

namespace OpeningAttempt

def held (a : OpeningAttempt) : List UInt64 := a.device.elim [] Device.bases

/-- Windows of the open device. -/
def windowCount (a : OpeningAttempt) : Nat :=
  match a.device with
  | none => 0
  | some d => 2 + if d.doorbell.isSome then 1 else 0

/-- A device holds one mapping for each of its windows. -/
theorem length_held (a : OpeningAttempt) : a.held.length = a.windowCount := by
  obtain ⟨_, _, _, _ | d⟩ := a
  · rfl
  · simp only [held, windowCount, Option.elim_some, Device.bases, Device.windows,
      List.length_map, List.length_append]
    cases d.doorbell <;> rfl

/-- What is not held was given back, the last one first, and all that was mapped was planned. -/
structure Settled (a : OpeningAttempt) : Prop where
  released_append_held : a.released ++ a.held = a.mapped.reverse
  mapped_prefix : a.mapped <+: a.planned

end OpeningAttempt

/-- A simulated bus on which devices are opened and closed. -/
structure OpeningHistory where
  bus : SimulatedBus
  memory : Memory
  /-- In the order in which they were made. -/
  attempts : List OpeningAttempt := []

inductive OpeningAction where
  /-- A device is opened, while some configuration reads fail. -/
  | init (faults : List (PciAddress × UInt16)) (selector : DeviceSelector)
    (config : DriverConfig)
  /-- The device of the `i`-th attempt is closed, if it is open. -/
  | close (i : Nat)

namespace OpeningHistory

def step (h : OpeningHistory) : OpeningAction → OpeningHistory
  | .init faults selector config =>
    let p := SimulatedBus.faulty faults
    let (result, bus) := Device.init p h.memory selector config h.bus
    let attempt : OpeningAttempt := {
      planned := Device.plannedBases p selector config h.bus
      mapped := bus.mapLog.drop h.bus.mapLog.length
      released := bus.unmapLog.drop h.bus.unmapLog.length
      device := result.toOption }
    { h with bus, attempts := h.attempts ++ [attempt] }
  | .close i =>
    match h.attempts[i]? with
    | none => h
    | some a =>
      match a.device with
      | none => h
      | some d =>
        let bus := d.close SimulatedBus.platform h.bus
        let released := a.released ++ bus.unmapLog.drop h.bus.unmapLog.length
        { h with bus, attempts := h.attempts.set i { a with released, device := none } }

def run (h : OpeningHistory) (actions : List OpeningAction) : OpeningHistory :=
  actions.foldl step h

/-- The windows of all open devices. -/
def openWindows (h : OpeningHistory) : Nat := (h.attempts.map (·.windowCount)).sum

/-- All that is mapped belongs to an open device, and every attempt is settled. -/
structure Accounted (start h : OpeningHistory) : Prop where
  config_eq : h.bus.config = start.bus.config
  regions_eq : h.bus.regions = start.bus.regions
  memory_eq : h.memory = start.memory
  settled : ∀ a ∈ h.attempts, a.Settled
  length_mapLog : h.bus.mapLog.length = h.bus.unmapLog.length + h.openWindows

variable {start h : OpeningHistory}

/-- Replacing an entry of a list moves a sum over it by the difference. -/
theorem sum_map_set {α : Type} (f : α → Nat) {l : List α} {i : Nat} {a : α}
    (ha : l[i]? = some a) (b : α) :
    ((l.set i b).map f).sum + f a = (l.map f).sum + f b := by
  induction l generalizing i with
  | nil => cases ha
  | cons x l ih =>
    cases i with
    | zero =>
      cases ha
      simp only [List.set_cons_zero, List.map_cons, List.sum_cons]
      omega
    | succ i =>
      have hsum := ih ha
      simp only [List.set_cons_succ, List.map_cons, List.sum_cons]
      omega

/-- The step for an opening, failed or not: what it leaves mapped is what its device holds. -/
theorem Accounted.init (haccounted : Accounted start h)
    (faults : List (PciAddress × UInt16)) (selector : DeviceSelector) (config : DriverConfig) :
    Accounted start (h.step (.init faults selector config)) := by
  obtain ⟨mapped, released, hlogs, hheld, hplanned⟩ :=
    SimulatedBus.balanced_init faults h.memory selector config h.bus
  let attempt : OpeningAttempt := {
    planned := Device.plannedBases (SimulatedBus.faulty faults) selector config h.bus
    mapped, released
    device := (Device.init (SimulatedBus.faulty faults) h.memory selector config
      h.bus).1.toOption }
  -- The logs only grow, so what the attempt cuts off them is what this call has added.
  have hstep : h.step (.init faults selector config) =
      { h with
        bus := (Device.init (SimulatedBus.faulty faults) h.memory selector config h.bus).2
        attempts := h.attempts ++ [attempt] } := by
    simp only [step, hlogs.mapLog_eq, hlogs.unmapLog_eq, List.drop_left]
    rfl
  have hcount : mapped.length = released.length + attempt.windowCount := by
    rw [← attempt.length_held, ← List.length_append, ← List.length_reverse, ← hheld]
    rfl
  rw [hstep]
  constructor
  · exact hlogs.config_eq.trans haccounted.config_eq
  · exact hlogs.regions_eq.trans haccounted.regions_eq
  · exact haccounted.memory_eq
  · intro a ha
    rcases List.mem_append.1 ha with hold | hnew
    · exact haccounted.settled a hold
    · rw [List.mem_singleton.1 hnew]
      exact ⟨hheld, hplanned⟩
  · have hlength := haccounted.length_mapLog
    simp only [openWindows, hlogs.mapLog_eq, hlogs.unmapLog_eq, List.length_append,
      List.map_append, List.map_cons, List.map_nil, List.sum_append, List.sum_singleton]
      at hlength ⊢
    omega

/-- The step for a closing: all windows of the device are given back, and it is settled. -/
theorem Accounted.close (haccounted : Accounted start h) (i : Nat) :
    Accounted start (h.step (.close i)) := by
  simp only [step]
  split
  · exact haccounted
  next a ha =>
  split
  · exact haccounted
  next d hd =>
  have hlogs : SimulatedBus.Logs h.bus (d.close SimulatedBus.platform h.bus) [] d.bases :=
    SimulatedBus.logs_unmapAll [] h.bus d.windows
  have hheld : a.held = d.bases := by
    rw [OpeningAttempt.held, hd, Option.elim_some]
  simp only [hlogs.unmapLog_eq, List.drop_left]
  constructor
  · exact hlogs.config_eq.trans haccounted.config_eq
  · exact hlogs.regions_eq.trans haccounted.regions_eq
  · exact haccounted.memory_eq
  · intro b hb
    rcases List.mem_or_eq_of_mem_set hb with hold | rfl
    · exact haccounted.settled b hold
    · obtain ⟨hreleased, hplanned⟩ := haccounted.settled a (List.mem_of_getElem? ha)
      rw [hheld] at hreleased
      exact ⟨(List.append_nil _).trans hreleased, hplanned⟩
  · have hlength := haccounted.length_mapLog
    have hsum := sum_map_set (·.windowCount) ha
      { a with released := a.released ++ d.bases, device := none }
    have hcount : a.windowCount = d.bases.length := by
      rw [← a.length_held, hheld]
    have hnone : OpeningAttempt.windowCount
        { a with released := a.released ++ d.bases, device := none } = 0 := rfl
    simp only [openWindows, hlogs.mapLog_eq, hlogs.unmapLog_eq, List.length_append,
      List.append_nil, hcount, hnone] at hsum hlength ⊢
    omega

/-- By induction on the actions, every run from an accounted history ends in one. -/
theorem Accounted.run (haccounted : Accounted start h) (actions : List OpeningAction) :
    Accounted start (h.run actions) := by
  induction actions generalizing h with
  | nil => exact haccounted
  | cons action actions ih =>
    cases action with
    | init faults selector config => exact ih (haccounted.init faults selector config)
    | close i => exact ih (haccounted.close i)

theorem accounted_start (bus : SimulatedBus) (memory : Memory) :
    Accounted ⟨bus, memory, []⟩ ⟨{ bus with events := [] }, memory, []⟩ :=
  ⟨rfl, rfl, rfl, fun _ ha => absurd ha List.not_mem_nil, rfl⟩

/-- A step adds to the logs and takes nothing away. -/
theorem logs_step (h : OpeningHistory) (action : OpeningAction) :
    ∃ mapped released, SimulatedBus.Logs h.bus (h.step action).bus mapped released := by
  cases action with
  | init faults selector config =>
    obtain ⟨mapped, released, hlogs, -⟩ :=
      SimulatedBus.balanced_init faults h.memory selector config h.bus
    exact ⟨mapped, released, hlogs⟩
  | close i =>
    simp only [step]
    split
    · exact ⟨[], [], .refl h.bus⟩
    · split
      · exact ⟨[], [], .refl h.bus⟩
      · exact ⟨[], _, SimulatedBus.logs_unmapAll [] h.bus _⟩

/-- On a bus on which nothing is mapped, devices are opened and closed in whatever order, and
openings fail wherever they may. What is mapped is what the open devices hold: registers, aperture
and perhaps doorbells. Every opening that has failed or whose device is closed has given back the
bases it mapped, the last one first; an open device holds those that it has not given back, in the
order in which closing will. A failing opening leaves as much mapped as there was, and nothing ever
changes configuration space or memory. -/
theorem mappings_balanced (bus : SimulatedBus) (memory : Memory) (actions : List OpeningAction) :
    let h := run ⟨{ bus with events := [] }, memory, []⟩ actions
    h.bus.liveMappings = (h.attempts.map fun a => match a.device with
      | none => 0
      | some d => 2 + if d.doorbell.isSome then 1 else 0).sum ∧
    h.bus.unmapLog.length ≤ h.bus.mapLog.length ∧
    (∀ a ∈ h.attempts, a.released ++ a.held = a.mapped.reverse ∧ a.mapped <+: a.planned) ∧
    (∀ action, h.bus.mapLog <+: (h.step action).bus.mapLog ∧
      h.bus.unmapLog <+: (h.step action).bus.unmapLog) ∧
    (∀ faults selector config e after,
      Device.init (SimulatedBus.faulty faults) h.memory selector config h.bus = (.error e, after) →
      after.liveMappings = h.bus.liveMappings) ∧
    (∀ addr offset, h.bus.readConfig addr offset = bus.readConfig addr offset) ∧
    ∀ phys len, (h.bus.locate phys len).map (h.memory.load · len) =
      (bus.locate phys len).map (memory.load · len) := by
  intro h
  have haccounted : Accounted ⟨bus, memory, []⟩ h := (accounted_start bus memory).run actions
  refine ⟨?_, ?_, ?_, ?_, ?_, ?_, ?_⟩
  · rw [SimulatedBus.liveMappings, haccounted.length_mapLog, Nat.add_sub_cancel_left]
    rfl
  · rw [haccounted.length_mapLog]
    exact Nat.le_add_right _ _
  · intro a ha
    obtain ⟨hreleased, hmapped⟩ := haccounted.settled a ha
    exact ⟨hreleased, hmapped⟩
  · intro action
    obtain ⟨mapped, released, hlogs⟩ := h.logs_step action
    rw [hlogs.mapLog_eq, hlogs.unmapLog_eq]
    exact ⟨List.prefix_append _ _, List.prefix_append _ _⟩
  · intro faults selector config e after hinit
    obtain ⟨mapped, released, hlogs, hheld, -⟩ :=
      SimulatedBus.balanced_init faults h.memory selector config h.bus
    rw [hinit] at hlogs hheld
    have hlength := congrArg List.length hheld
    simp only [Except.toOption, Option.elim_none, List.append_nil, List.length_reverse] at hlength
    simp only [SimulatedBus.liveMappings, hlogs.mapLog_eq, hlogs.unmapLog_eq, List.length_append]
    omega
  · intro addr offset
    simp only [SimulatedBus.readConfig, SimulatedBus.image?, haccounted.config_eq]
  · intro phys len
    rw [haccounted.memory_eq]
    simp only [SimulatedBus.locate, haccounted.regions_eq]

/-- A bus with one device, whose doorbells begin in the middle of their granule. -/
def offCentreBus (events : List MappingEvent) (queries : UInt32) : SimulatedBus :=
  { Device.sampleBus.setConfig ⟨3, 0, 0⟩ WindowKind.doorbell.configOffset 0xF0108000 with
    events, linkQueries := queries }

/-- So little of the granule that the doorbells lie behind it. -/
def shortSettings : DriverConfig := { Device.sampleSettings with doorbellSize := 0x1000 }

/-- More than there is of the aperture. -/
def wideSettings : DriverConfig := { Device.sampleSettings with apertureSize := 0x200000 }

/-- All three windows are mapped, and closing gives them back in the opposite order. -/
theorem exists_opened_offCentre (events : List MappingEvent) (queries : UInt32) :
    ∃ d after,
      Device.init (SimulatedBus.faulty []) .empty (.at 3 0) Device.sampleSettings
        (offCentreBus events queries) = (.ok d, after) ∧
      after = offCentreBus
        ([.mapped 0xF0100000, .mapped 0xE0000000, .mapped 0xF0000000] ++ events) (queries + 1) ∧
      ∀ events queries,
        d.close SimulatedBus.platform (offCentreBus events queries) = offCentreBus
          ([.unmapped 0xF0000000, .unmapped 0xE0000000, .unmapped 0xF0100000] ++ events) queries :=
  ⟨_, _, (Device.InitOutcome.opened rfl rfl rfl rfl rfl
    (RegisterBlock.read32_empty_ne_sentinel (by decide)) rfl).eq_init, rfl, fun _ _ => rfl⟩

/-- The granule is mapped, found to be of no use and given back at once. -/
theorem exists_opened_short (events : List MappingEvent) (queries : UInt32) :
    ∃ d after,
      Device.init (SimulatedBus.faulty []) .empty (.at 3 0) shortSettings
        (offCentreBus events queries) = (.ok d, after) ∧
      after = offCentreBus ([.unmapped 0xF0100000, .mapped 0xF0100000, .mapped 0xE0000000,
        .mapped 0xF0000000] ++ events) (queries + 1) ∧
      d.bases = [0xE0000000, 0xF0000000] :=
  ⟨_, _, (Device.InitOutcome.opened rfl rfl rfl rfl rfl
    (RegisterBlock.read32_empty_ne_sentinel (by decide)) rfl).eq_init, rfl, rfl⟩

/-- The registers are mapped before the aperture is refused. -/
theorem exists_refused_wide (events : List MappingEvent) (queries : UInt32) :
    ∃ e after,
      Device.init (SimulatedBus.faulty []) .empty (.at 3 0) wideSettings
        (offCentreBus events queries) = (.error e, after) ∧
      after = offCentreBus ([.unmapped 0xF0000000, .mapped 0xF0000000] ++ events) queries :=
  ⟨_, _, (Device.InitOutcome.noAperture rfl rfl rfl rfl).eq_init, rfl⟩

/-- A device is opened with all its windows, then without its doorbells, whose granule is given back
at once, and then not at all, for want of aperture. Last the first is closed. -/
theorem mappings_balanced_sample :
    let h := run ⟨offCentreBus [] 0, .empty, []⟩
      [.init [] (.at 3 0) Device.sampleSettings, .init [] (.at 3 0) shortSettings,
        .init [] (.at 3 0) wideSettings, .close 0]
    h.attempts.map (·.mapped) = [[0xF0000000, 0xE0000000, 0xF0100000],
      [0xF0000000, 0xE0000000, 0xF0100000], [0xF0000000]] ∧
    h.attempts.map (·.released) =
      [[0xF0100000, 0xE0000000, 0xF0000000], [0xF0100000], [0xF0000000]] ∧
    h.attempts.map (·.held) = [[], [0xE0000000, 0xF0000000], []] ∧
    h.bus.unmapLog = [0xF0100000, 0xF0000000, 0xF0100000, 0xE0000000, 0xF0000000] ∧
    h.bus.liveMappings = 2 ∧ h.openWindows = 2 := by
  intro h
  choose d _ hfirst hafter hclose using exists_opened_offCentre
  choose e _ hsecond hafter' hbases using exists_opened_short
  choose _ _ hthird hafter'' using exists_refused_wide
  let all : List UInt64 := [0xF0000000, 0xE0000000, 0xF0100000]
  obtain ⟨left, hleft, hattempts, hbus⟩ : ∃ left, left.bases = [0xE0000000, 0xF0000000] ∧
      h.attempts = [⟨all, all, all.reverse, none⟩, ⟨all, all, [0xF0100000], some left⟩,
        ⟨all, [0xF0000000], [0xF0000000], none⟩] ∧
      h.bus = offCentreBus
        ([.unmapped 0xF0000000, .unmapped 0xE0000000, .unmapped 0xF0100000] ++
          [.unmapped 0xF0000000, .mapped 0xF0000000] ++
          [.unmapped 0xF0100000, .mapped 0xF0100000, .mapped 0xE0000000, .mapped 0xF0000000] ++
          [.mapped 0xF0100000, .mapped 0xE0000000, .mapped 0xF0000000]) 2 := by
    simp only [h, run, List.foldl_cons, List.foldl_nil, step, hfirst, hafter, hsecond, hafter',
      hthird, hafter'', List.nil_append, List.cons_append, List.getElem?_cons_zero,
      Except.toOption, hclose]
    exact ⟨_, hbases _ _, rfl, rfl⟩
  have hlive : h.bus.liveMappings = 2 := by rw [hbus]; rfl
  have hopen : h.bus.liveMappings = h.openWindows :=
    (mappings_balanced (offCentreBus [] 0) .empty
      [.init [] (.at 3 0) Device.sampleSettings, .init [] (.at 3 0) shortSettings,
        .init [] (.at 3 0) wideSettings, .close 0]).1
  refine ⟨?_, ?_, ?_, ?_, hlive, hopen.symm.trans hlive⟩
  · rw [hattempts]
    rfl
  · rw [hattempts]
    rfl
  · rw [hattempts]
    simp only [List.map_cons, List.map_nil, OpeningAttempt.held, Option.elim_some,
      Option.elim_none, hleft]
  · rw [hbus]
    rfl

end OpeningHistory

end GpuControl
