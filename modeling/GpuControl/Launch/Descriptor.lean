import GpuControl.Bar
import GpuControl.Config.RegisterMap
import GpuControl.Launch.Resources
import GpuControl.Packet.CommandStream

namespace GpuControl

/-- A triple of counts in x, y and z. -/
structure Dims where
  x : UInt32
  y : UInt32
  z : UInt32
deriving DecidableEq, Repr

namespace Dims

def toList (d : Dims) : List UInt32 := [d.x, d.y, d.z]

def text (d : Dims) : String := s!"[{d.x.toNat}, {d.y.toNat}, {d.z.toNat}]"

/-- Some count is zero. -/
def hasZero (d : Dims) : Bool := d.toList.contains 0

/-- The number of points in the box. -/
def volume (d : Dims) : Nat := d.x.toNat * d.y.toNat * d.z.toNat

end Dims

/-- A program with its resources and the grid to run it on. -/
structure LaunchDescriptor where
  /-- Device address of the program. -/
  program : UInt64
  resources : ResourceDescriptor := {}
  /-- Threads in a group. -/
  threads : Dims
  /-- Groups in the grid. -/
  workgroups : Dims
  /-- Device address of the arguments. -/
  args : Option UInt64 := none
deriving DecidableEq, Repr

/-- Programs start on a multiple of this many bytes. -/
def programAlignment : UInt64 := 256

/-- The program registers hold the address from this bit on. -/
def programLowShift : UInt64 := 8

/-- The high program register holds the address from this bit on. -/
def programHighShift : UInt64 := 40

/-- Words of the pause in front of a launch. -/
def alignmentNopWords : Nat := 2

namespace LaunchDescriptor

/-- Refuses a misaligned program, then a thread count of zero, then a group count of zero. -/
def validate (l : LaunchDescriptor) : Except DriverError Unit :=
  if !isAligned l.program programAlignment then
    .error (.alignmentViolation "program" l.program programAlignment)
  else if l.threads.hasZero then
    .error (.invalidLaunch ("zero thread dimension " ++ l.threads.text))
  else if l.workgroups.hasZero then
    .error (.invalidLaunch ("zero workgroup dimension " ++ l.workgroups.text))
  else .ok ()

/-- Threads in the whole grid. -/
def totalThreads (l : LaunchDescriptor) : Nat := l.threads.volume * l.workgroups.volume

/-- The packet that points the program at its arguments. -/
def argumentPackets (compute : ComputeLayout) (l : LaunchDescriptor) : List Packet :=
  match l.args with
  | none => []
  | some args => [.setRegisters compute.userData0 [args.toUInt32, (args >>> 32).toUInt32]]

/-- The packets of a launch: program, resources, group shape and arguments are set, caches are
invalidated, the grid is started and waited for. -/
def packets (compute : ComputeLayout) (l : LaunchDescriptor) : List Packet :=
  [.nop alignmentNopWords,
    .setRegisters compute.pgmLo
      [(l.program >>> programLowShift).toUInt32, (l.program >>> programHighShift).toUInt32],
    .setRegisters compute.pgmRsrc1 [l.resources.rsrc1, l.resources.rsrc2],
    .setRegisters compute.numThreadX l.threads.toList] ++
  l.argumentPackets compute ++
  [.acquire acquireInvalidate,
    .dispatch l.workgroups.x l.workgroups.y l.workgroups.z 0,
    .acquire acquireWait]

/-- Appends the packets of a valid launch to the stream. -/
def encodeInto (map : RegisterMap) (l : LaunchDescriptor) (s : CommandStream) :
    Except DriverError Unit × CommandStream :=
  match l.validate with
  | .error e => (.error e, s)
  | .ok _ => s.appendAll (l.packets map.compute)

end LaunchDescriptor

end GpuControl
