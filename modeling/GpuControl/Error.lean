import GpuControl.Text.Hex
import GpuControl.Window.Kind

namespace GpuControl

open Text

/-- The classes of failure that a platform reports. -/
inductive PlatformErrorKind where
  | notFound
  | permissionDenied
  | alreadyExists
  | invalidInput
  | invalidData
  | isADirectory
  | notADirectory
  | outOfMemory
  | unexpectedEof
  | unsupported
  | uncategorized
  | other
deriving DecidableEq, Repr

/-- A failure reported by a platform: its class and its text. -/
structure PlatformError where
  kind : PlatformErrorKind
  text : String
deriving DecidableEq, Repr

namespace PlatformError

/-- A failure that the operating system reports by number. -/
def ofSystem (kind : PlatformErrorKind) (name : String) (number : Nat) : PlatformError :=
  ⟨kind, s!"{name} (os error {number})"⟩

def noSuchFile : PlatformError := ofSystem .notFound "No such file or directory" 2
def cannotAllocate : PlatformError := ofSystem .outOfMemory "Cannot allocate memory" 12
def fileExists : PlatformError := ofSystem .alreadyExists "File exists" 17
def notADirectory : PlatformError := ofSystem .notADirectory "Not a directory" 20
def isADirectory : PlatformError := ofSystem .isADirectory "Is a directory" 21
def invalidArgument : PlatformError := ofSystem .invalidInput "Invalid argument" 22
def valueTooLarge : PlatformError :=
  ofSystem .uncategorized "Value too large for defined data type" 75
def endOfFile : PlatformError := ⟨.unexpectedEof, "failed to fill whole buffer"⟩
def invalidText : PlatformError := ⟨.invalidData, "stream did not contain valid UTF-8"⟩

end PlatformError

/-- Why a driver operation failed, with the data that its message shows. -/
inductive DriverError where
  /-- No display controller answers, at the given place if bus and device are given. -/
  | deviceNotFound (bus device : Option UInt8)
  | alignmentViolation (what : String) (address alignment : UInt64)
  | mappingFailed (kind : WindowKind) (phys : UInt64) (len : Nat) (reason : String)
  /-- The status register reads as all ones, so reads do not reach the device. -/
  | poisonedRead (offset : Nat) (value : UInt32)
  /-- A packet or stream needs more words than there are. -/
  | encodingOverflow (needed capacity : Nat)
  | ringFull (ring : UInt8) (requested free : Nat)
  | ringDisabled (ring : UInt8)
  | timedOut (milliseconds : Nat)
  | invalidRing (ring count : UInt8)
  | invalidRegister (offset base : Nat)
  | invalidLaunch (reason : String)
  /-- The ring's memory is not wholly inside the visible aperture. -/
  | ringUnreachable (ring : UInt8) (base : UInt64) (size : UInt32)
  | configRead (address : String) (offset : UInt16) (reason : String)
  | platform (error : PlatformError)
deriving DecidableEq, Repr

namespace DriverError

def message : DriverError → String
  | deviceNotFound bus device =>
    let place := match bus, device with
      | some b, some d => s!" at {hexField 2 b.toNat}:{hexField 2 d.toNat}.0"
      | _, _ => ""
    s!"No AMD display controller found{place}"
  | alignmentViolation what address alignment =>
    s!"{what} address {hex address.toNat} is not aligned to {hex alignment.toNat}"
  | mappingFailed kind phys len reason =>
    s!"Failed to map {kind.text} window at {hex phys.toNat} ({hex len} bytes): {reason}"
  | poisonedRead offset value =>
    s!"Register {hex offset} read back {hexPadded 8 value.toNat}; " ++
      "mapping is not reaching the device"
  | encodingOverflow needed capacity =>
    s!"Command stream overflow: {needed} words needed, capacity {capacity}"
  | ringFull ring requested free =>
    s!"Ring {ring.toNat} full: {requested} bytes requested, {free} free"
  | ringDisabled ring => s!"Ring {ring.toNat} is disabled"
  | timedOut milliseconds => s!"Operation timeout after {milliseconds}ms"
  | invalidRing ring count =>
    s!"Ring id {ring.toNat} out of range (have {count.toNat} rings)"
  | invalidRegister offset base =>
    s!"Register offset {hex offset} is not a dword offset at or above {hex base}"
  | invalidLaunch reason => s!"Invalid launch: {reason}"
  | ringUnreachable ring base size =>
    s!"Ring {ring.toNat} at GPU address {hex base.toNat} ({hex size.toNat} bytes) " ++
      "is outside the visible aperture"
  | configRead address offset reason =>
    s!"Config read at {address} offset {hex offset.toNat} failed: {reason}"
  | platform error => s!"I/O error: {error.text}"

/-- No device answered a scan of the whole bus. -/
def notFound : DriverError := deviceNotFound none none

/-- A wait of the given length ended without success; the length is shown in whole milliseconds, at
most those of a 64-bit count. -/
def ofTimeout (nanoseconds : Nat) : DriverError :=
  timedOut (min (nanoseconds / 1000000) (UInt64.size - 1))

/-- The same call may succeed later with nothing else changed: the ring drains, the device
goes idle. -/
def isRetryable : DriverError → Bool
  | ringFull .. | timedOut .. => true
  | _ => false

end DriverError

end GpuControl
