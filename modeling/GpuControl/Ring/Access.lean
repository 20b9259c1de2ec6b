import GpuControl.Launch.Dispatcher
import GpuControl.Ring.Status
import GpuControl.Window.Aperture
import GpuControl.Window.Doorbell

namespace GpuControl

/-- The host's own write pointers, where one was set. They run ahead of the registers, so words
submitted twice before a doorbell follow each other. -/
structure WritePointers where
  entries : List (UInt8 × UInt32) := []
deriving DecidableEq, Repr

namespace WritePointers

def get (p : WritePointers) (id : UInt8) : Option UInt32 := p.entries.lookup id

def set (p : WritePointers) (id : UInt8) (ptr : UInt32) : WritePointers :=
  ⟨(id, ptr) :: p.entries.filter (·.1 != id)⟩

@[simp] theorem get_set_self (p : WritePointers) (id : UInt8) (ptr : UInt32) :
    (p.set id ptr).get id = some ptr := by
  simp [get, set]

theorem get_set_of_ne (p : WritePointers) {id other : UInt8} (ptr : UInt32) (hne : other ≠ id) :
    (p.set id ptr).get other = p.get other := by
  have hhead : (other == id) = false := by simpa using hne
  simp only [get, set, List.lookup_cons, hhead]
  induction p.entries with
  | nil => rfl
  | cons entry entries ih =>
    obtain ⟨key, value⟩ := entry
    by_cases hkey : key = id
    · have hother : (other == key) = false := by simpa [hkey] using hne
      simp [hkey, List.lookup_cons, hhead, ih]
    · simp [hkey, List.lookup_cons, ih]

@[simp] theorem set_set (p : WritePointers) (id : UInt8) (first second : UInt32) :
    (p.set id first).set id second = p.set id second := by
  simp [set, List.filter_filter]

end WritePointers

/-- The windows and the layout through which rings are driven. -/
structure RingAccess where
  registers : RegisterBlock
  aperture : Aperture
  doorbell : Option DoorbellWindow
  map : RegisterMap
  /-- Bytes kept free in every ring. -/
  margin : UInt32
deriving DecidableEq, Repr

/-- What ring operations change. -/
structure RingMemory where
  memory : Memory
  pointers : WritePointers

namespace RingAccess

def status (rings : RingAccess) (s : RingMemory) (id : UInt8) : Except DriverError RingStatus :=
  rings.registers.ringStatus s.memory rings.map id

/-- The host's write pointer of a ring, or the register's if the host has set none. -/
def writePtr (s : RingMemory) (status : RingStatus) : UInt32 :=
  (s.pointers.get status.id).getD status.writePtr

/-- Free bytes, with the words submitted but not yet announced counted as used. -/
def freeBytes (rings : RingAccess) (s : RingMemory) (id : UInt8) : Except DriverError UInt32 :=
  (rings.status s id).map fun status =>
    freeSpace status.readPtr (writePtr s status) status.size rings.margin

/-- The ring's memory, which is video memory, is a whole number of dwords, at least one, and all of
it is visible. -/
def Reachable (rings : RingAccess) (status : RingStatus) : Prop :=
  0 < status.size.toNat ∧ status.size.toNat % 4 = 0 ∧
    rings.aperture.Contains status.base.toNat status.size.toNat

instance (rings : RingAccess) (status : RingStatus) : Decidable (rings.Reachable status) :=
  inferInstanceAs (Decidable (_ ∧ _ ∧ _))

/-- Copies words into ring `id` at its write pointer and returns the pointer after them. The device
does not see them before the doorbell. -/
def submit (rings : RingAccess) (id : UInt8) (words : List UInt32) (s : RingMemory) :
    Except DriverError UInt32 × RingMemory :=
  match rings.status s id with
  | .error e => (.error e, s)
  | .ok status =>
    let writePtr := writePtr s status
    let free := freeSpace status.readPtr writePtr status.size rings.margin
    let requested := words.length * 4
    if !status.enabled then (.error (.ringDisabled id), s)
    else if words.isEmpty then (.ok writePtr, s)
    else if ¬rings.Reachable status then (.error (.ringUnreachable id status.base status.size), s)
    else if free.toNat < requested then (.error (.ringFull id requested free.toNat), s)
    else
      let offset := (ringOffset writePtr status.size).toNat
      match rings.aperture.writeRing s.memory status.base.toNat status.size.toNat offset words with
      | (false, m) =>
        (.error (.ringUnreachable id status.base status.size), { s with memory := m })
      | (true, m) =>
        let next := UInt32.ofNat ((offset + requested) % status.size.toNat / 4)
        (.ok next, ⟨m, s.pointers.set id next⟩)

/-- Announces a write pointer: it goes to the ring's register and, if there is a doorbell window, to
the ring's slot there. -/
def ringDoorbell (rings : RingAccess) (id : UInt8) (writePtr : UInt32) (s : RingMemory) :
    Except DriverError Unit × RingMemory :=
  match rings.map.checkRing id with
  | .error e => (.error e, s)
  | .ok _ =>
    let place := rings.map.ringBlock id + rings.map.ring.wptr
    let m := rings.registers.write32 s.memory place writePtr
    let m := match rings.doorbell with
      | none => m
      | some doorbell => (doorbell.ring m (id.toNat * rings.map.doorbellStride) writePtr).getD m
    (.ok (), ⟨m, s.pointers.set id writePtr⟩)

/-- Rings as the destination of launches. -/
def sink (rings : RingAccess) : CommandSink RingMemory := ⟨rings.submit, rings.ringDoorbell⟩

end RingAccess

end GpuControl
