import GpuControl.Device

namespace GpuControl

/-- What a client can hold. -/
inductive Held where
  | device (d : Device)
  | mapping (m : Mapping)
  | window (w : Window)
  | registers (r : RegisterBlock)
  | aperture (a : Aperture)
  | doorbell (d : DoorbellWindow)

namespace Held

/-- The mappings behind an object, in the order in which they are given back. -/
def mappings : Held → List Mapping
  | device d => d.windows.map (·.mapping)
  | mapping m => [m]
  | window w => [w.mapping]
  | registers r => [r.window.mapping]
  | aperture a => [a.window.mapping]
  | doorbell d => [d.window.mapping]

end Held

/-- A platform with its host and its memory, and the objects that clients took from it, each under a
name. An object that is closed, replaced or spoilt by a failed step gives its mappings back. -/
structure Session (σ : Type) where
  platform : Platform σ
  host : σ
  memory : Memory := {}
  objects : List (String × Held) := []
  /-- Write pointers that clients keep for rings of their own. -/
  pointers : List (String × WritePointers) := []

namespace Session

variable {σ : Type}

def find? (s : Session σ) (name : String) : Option Held := s.objects.lookup name

/-- Gives the mappings of an object back. -/
def release (s : Session σ) (o : Held) : Session σ :=
  { s with host := o.mappings.foldl s.platform.unmap s.host }

/-- The session without the object of a name; its mappings stay. -/
def forget (s : Session σ) (name : String) : Session σ :=
  { s with objects := s.objects.filter (·.1 != name) }

/-- Puts an object in the place of another that it is made of. -/
def replace (s : Session σ) (name : String) (o : Held) : Session σ :=
  { s with objects := (name, o) :: (s.forget name).objects }

/-- Holds an object under a name. The object held so far is released once the new one is there. -/
def hold (s : Session σ) (name : String) (o : Held) : Session σ :=
  match s.find? name with
  | some old => (s.replace name o).release old
  | none => s.replace name o

/-- Closes an object and says whether there was one. -/
def close (s : Session σ) (name : String) : Bool × Session σ :=
  match s.find? name with
  | none => (false, s)
  | some o => (true, (s.forget name).release o)

def mapPhysical (s : Session σ) (name : String) (phys : UInt64) (len : Nat) :
    Except PlatformError Mapping × Session σ :=
  match s.platform.mapPhysical s.host phys len with
  | (.error e, host) => (.error e, { s with host })
  | (.ok m, host) => (.ok m, { s with host }.hold name (.mapping m))

def mapWindow (s : Session σ) (name : String) (kind : WindowKind) (phys : UInt64) (len : Nat) :
    Except DriverError Window × Session σ :=
  match s.platform.mapWindow s.host kind phys len with
  | (.error e, host) => (.error e, { s with host })
  | (.ok w, host) => (.ok w, { s with host }.hold name (.window w))

def openDevice (s : Session σ) (name : String) (selector : DeviceSelector)
    (config : DriverConfig) : Except DriverError Device × Session σ :=
  match Device.init s.platform s.memory selector config s.host with
  | (.error e, host) => (.error e, { s with host })
  | (.ok d, host) => (.ok d, { s with host }.hold name (.device d))

/-- Makes an object out of the one held under a name; that one is lost if it cannot be done. -/
def convert {α : Type} (s : Session σ) (name : String) (old : Held)
    (made : Except DriverError α) (wrap : α → Held) : Except DriverError α × Session σ :=
  match made with
  | .error e => (.error e, (s.forget name).release old)
  | .ok a => (.ok a, s.replace name (wrap a))

/-- Makes a window of the mapping held under a name; nothing, if there is no mapping. -/
def wrapWindow (s : Session σ) (name : String) (kind : WindowKind) (phys : UInt64) :
    Option (Except DriverError Unit × Session σ) :=
  match s.find? name with
  | some (.mapping m) =>
    let (result, s) := s.convert name (.mapping m) (Window.wrap kind phys m) .window
    some (result.map fun _ => (), s)
  | _ => none

/-- Makes a register block of the window held under a name. -/
def asRegisters (s : Session σ) (name : String) : Option (Except DriverError Unit × Session σ) :=
  match s.find? name with
  | some (.window w) => some (.ok (), s.replace name (.registers ⟨w⟩))
  | _ => none

/-- Makes an aperture of the window held under a name. -/
def asAperture (s : Session σ) (name : String) (totalBytes : UInt64) :
    Option (Except DriverError Unit × Session σ) :=
  match s.find? name with
  | some (.window w) => some (.ok (), s.replace name (.aperture ⟨w, totalBytes⟩))
  | _ => none

/-- Makes a doorbell window of the window held under a name, and returns it. -/
def asDoorbell (s : Session σ) (name : String) (barBase : UInt64) :
    Option (Except DriverError DoorbellWindow × Session σ) :=
  match s.find? name with
  | some (.window w) =>
    some (s.convert name (.window w) (DoorbellWindow.wrap w barBase) .doorbell)
  | _ => none

/-- The doorbell window held under a name, if that is what is held there. -/
def doorbell? (s : Session σ) (name : String) : Option DoorbellWindow :=
  match s.find? name with
  | some (.doorbell d) => some d
  | _ => none

/-- The rings behind the register block and the aperture held under the given names. Where no
doorbell window is held, the rings have none. -/
def rings? (s : Session σ) (registers aperture : String) (doorbell : Option String)
    (map : RegisterMap) (margin : UInt32) : Option RingAccess :=
  match s.find? registers, s.find? aperture with
  | some (.registers r), some (.aperture a) => some ⟨r, a, doorbell.bind s.doorbell?, map, margin⟩
  | _, _ => none

/-- The write pointers kept under a name; none is set at first. -/
def pointersOf (s : Session σ) (name : String) : WritePointers :=
  (s.pointers.lookup name).getD {}

/-- What ring operations with the write pointers of a name work on. -/
def ringMemory (s : Session σ) (pointers : String) : RingMemory :=
  ⟨s.memory, s.pointersOf pointers⟩

def withRingMemory (s : Session σ) (pointers : String) (r : RingMemory) : Session σ :=
  { s with memory := r.memory, pointers := (pointers, r.pointers) :: s.pointers }

/-- The session after its device of a name and its memory were changed. -/
def withDevice (s : Session σ) (name : String) (d : Device) (memory : Memory) : Session σ :=
  { s with memory }.replace name (.device d)

end Session

end GpuControl
