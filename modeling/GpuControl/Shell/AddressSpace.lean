import GpuControl.Platform.Sysfs

namespace GpuControl.Shell

/-- Where a mapping lies in the address space of the program that holds it. -/
inductive MappingSide where
  | aboveProgram
  | belowProgram
deriving DecidableEq, Repr

/-- Bytes of address space that a program finds free on one of its sides. -/
def MappingSide.room : MappingSide → Nat
  | aboveProgram => 0x290000000000
  | belowProgram => 0x555555544000

/-- Bytes of a memory page; mappings consist of whole ones. -/
def pageSize : Nat := 4096

/-- Bytes of the pages that `len` bytes take. -/
def pagedSize (len : Nat) : Nat := (len + (pageSize - 1)) / pageSize * pageSize

/-- The mappings that a program holds, each with the side on which it lies. -/
abbrev HeldMappings := List (Mapping × MappingSide)

/-- Bytes of address space that the mappings on one side take. -/
def HeldMappings.bytesOn (held : HeldMappings) (side : MappingSide) : Nat :=
  held.foldl (fun n (mapping, itsSide) =>
    if itsSide = side then n + pagedSize mapping.len else n) 0

/-- The side on which a mapping goes, the upper one if it has room. -/
def HeldMappings.sideFor? (held : HeldMappings) (size : Nat) : Option MappingSide :=
  [MappingSide.aboveProgram, .belowProgram].find? fun side => held.bytesOn side + size ≤ side.room

/-- What a program holds after the given events, the latest first. -/
def HeldMappings.after : List KernelEvent → HeldMappings
  | [] => []
  | .mapped mapping :: events =>
    let held := HeldMappings.after events
    match held.sideFor? (pagedSize mapping.len) with
    | some side => (mapping, side) :: held
    | none => held
  | .unmapped mapping :: events => (HeldMappings.after events).eraseP (·.1 = mapping)

/-- The kernel that stands below the program where it is run on a tree of files: it maps whole pages
of the device, as far as a file can reach and address space is left. -/
instance : Kernel where
  refusal? events phys len :=
    if phys.toNat % pageSize ≠ 0 then some .invalidArgument
    else if ((HeldMappings.after events).sideFor? (pagedSize len)).isNone then some .cannotAllocate
    else if maxFileOffset < phys.toNat + pagedSize len then some .valueTooLarge
    else none

end GpuControl.Shell
