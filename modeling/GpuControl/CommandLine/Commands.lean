import GpuControl.Device
import GpuControl.Platform.Sysfs

namespace GpuControl.CommandLine

open Text

/-- What the program can be asked for. -/
inductive Command where
  | scan
  | info
  | status
  | ring (id : UInt8)
  | peek (offset : Nat)
  | waitIdle (timeoutMilliseconds : Nat)
  | reset (confirmed : Bool)
  | performance (level : PerformanceLevel)
  | vramCheck
deriving DecidableEq, Repr

/-- A command and the place of the device it is for. -/
structure Invocation where
  bus : Option UInt8
  device : Option UInt8
  command : Command
deriving DecidableEq, Repr

/-- A command that failed: what it was doing, and the cause if that is another failure. -/
structure Failure where
  message : String
  cause : Option String := none
deriving DecidableEq, Repr

/-- The report of a failure. -/
def Failure.report (f : Failure) : String :=
  let cause := match f.cause with
    | none => ""
    | some cause => s!"\n\nCaused by:\n    {cause}"
  s!"Error: {f.message}{cause}\n"

def Failure.ofDriver (e : DriverError) : Failure := ⟨e.message, none⟩

/-- What a command prints and how it ends. -/
structure Outcome where
  exitCode : Nat
  stdout : String
  stderr : String
deriving DecidableEq, Repr

/-- The text of a command up to its end or its failure. -/
structure Answer where
  lines : List String := []
  failure : Option Failure := none
deriving DecidableEq, Repr

def Answer.outcome (a : Answer) : Outcome where
  exitCode := if a.failure.isSome then 1 else 0
  stdout := String.join (a.lines.map (· ++ "\n"))
  stderr := (a.failure.map Failure.report).getD ""

def Answer.fail (f : Failure) : Answer := { failure := some f }

/-- The machine as a command finds it. -/
structure Machine where
  host : SysfsHost
  memory : Memory

/-- Lists the display controllers with their chips and memory. -/
def scan (host : SysfsHost) : Answer :=
  let devices := SysfsHost.platform.enumerate host
  { lines := s!"AMD display controllers: {devices.length}" :: devices.flatMap fun device => [
      "  " ++ device.text,
      s!"     chip {device.chip.text}  VRAM {device.vramBytes.toNat / Device.mebibyte} MB"] }

def info (machine : Machine) (d : Device) : Answer :=
  let vram := d.aperture.info
  let access := d.verifyAccess SysfsHost.platform machine.host machine.memory
  { lines := [
      d.summary,
      s!"VRAM: {vram.totalBytes.toNat / Device.mebibyte} MB total, " ++
        s!"{vram.visibleBytes / Device.mebibyte} MB visible",
      "Doorbell: " ++ if d.doorbell.isSome then "mapped" else "not mapped",
      "Access check: " ++ if access then "ok" else "FAILED"] }

/-- The lines of several rings up to the first that has no register block. -/
def ringLines (machine : Machine) (d : Device) : List UInt8 → Answer
  | [] => {}
  | id :: ids =>
    match d.registers.ringStatus machine.memory d.config.registers id with
    | .error e => .fail (.ofDriver e)
    | .ok status =>
      let rest := ringLines machine d ids
      { rest with lines := status.text :: rest.lines }

def status (machine : Machine) (d : Device) : Answer :=
  let map := d.config.registers
  let activity := d.registers.computeActivity machine.memory map
  let rings := ringLines machine d [graphicsRing, defaultComputeRing]
  { rings with lines := [
      s!"GRBM_STATUS : {(d.registers.status machine.memory map).text}",
      s!"GRBM_STATUS2: {hexPadded 8 (d.registers.status2 machine.memory map).toNat}",
      s!"Compute     : {activity.computeUnits.toNat} CUs, {activity.wavefronts.toNat} waves, " ++
        s!"{activity.utilization.toNat}% busy"] ++ rings.lines }

def ring (machine : Machine) (d : Device) (id : UInt8) : Answer :=
  match d.registers.ringStatus machine.memory d.config.registers id with
  | .error e => .fail (.ofDriver e)
  | .ok status => { lines := [
      s!"Ring {id.toNat}",
      s!"  state   : {status.state.text}",
      s!"  base    : {hex status.base.toNat}",
      s!"  size    : {status.size.toNat} bytes",
      s!"  rptr    : {status.readPtr.toNat}",
      s!"  wptr    : {status.writePtr.toNat}",
      s!"  free    : {(status.freeBytes d.config.ringMargin).toNat} bytes"] }

def peek (machine : Machine) (d : Device) (offset : Nat) : Answer :=
  let value := d.registers.read32 machine.memory offset
  { lines := [s!"[{hexPadded 4 offset}] = {hexPadded 8 value.toNat}"] }

/-- Where the test pattern goes in video memory. -/
def checkOffset : Nat := 0x1000

/-- Words of the test pattern. -/
def checkWords : Nat := 256

/-- The test pattern: consecutive words from a seed on. -/
def checkPattern : List UInt32 :=
  (List.range checkWords).map fun i => 0xDEADBEEF + UInt32.ofNat i

/-- What reading the pattern back comes to. -/
def comparePattern (pattern back : List UInt32) : Answer :=
  let pairs := (pattern.zip back).zipIdx
  match pairs.filter fun ((wrote, read), _) => wrote != read with
  | [] => { lines := [s!"VRAM check passed: {checkWords} words at {hex checkOffset}"] }
  | differing@(((wrote, read), first) :: _) =>
    .fail ⟨s!"{differing.length} of {pattern.length} words differ; first at word {first}: " ++
      s!"wrote {hexPadded 8 wrote.toNat}, read {hexPadded 8 read.toNat}", none⟩

/-- Writes the test pattern to video memory and reads it back. -/
def vramCheck (m : Memory) (d : Device) : Answer × Memory :=
  let (written, m) := d.aperture.writeNumbers m 4 checkOffset (checkPattern.map UInt32.toNat)
  if written ≠ checkPattern.length then
    (.fail ⟨s!"VRAM write at {hex checkOffset} outside the visible aperture", none⟩, m)
  else
    let back := (d.aperture.readNumbers m 4 checkOffset checkWords).getD
      (List.replicate checkWords 0)
    (comparePattern checkPattern (back.map UInt32.ofNat), m)

/-- What a command does on an open device. Nothing if it never ends: waiting for a busy device
without a timeout while nothing changes the registers. -/
def perform (describeElapsed : Nat → String) (machine : Machine) (d : Device) :
    Command → Option (Answer × Machine)
  | .scan => some (scan machine.host, machine)
  | .info => some (info machine d, machine)
  | .status => some (status machine d, machine)
  | .ring id => some (ring machine d id, machine)
  | .peek offset => some (peek machine d offset, machine)
  | .waitIdle timeout =>
    (d.registers.waitForIdle machine.memory d.config.registers (timeout * 1000000)).map
      fun result =>
        match result with
        | .error e => (.fail (.ofDriver e), machine)
        | .ok wait =>
          let elapsed := describeElapsed wait.elapsedNanoseconds
          ({ lines := [s!"Idle after {wait.polls} polls ({elapsed})"] }, machine)
  | .reset _ =>
    let memory := d.registers.softReset machine.memory d.config.registers
    let status := d.registers.status memory d.config.registers
    some ({ lines := [s!"Soft reset pulsed. Status now {status.text}"] }, { machine with memory })
  | .performance level =>
    let (applied, host) := SysfsHost.platform.requestLevel machine.host d.info.address level
    let line :=
      if applied then s!"Performance level set to {level.text}"
      else s!"Performance level {level.text} not applied (see log with RUST_LOG=warn)"
    some ({ lines := [line] }, { machine with host })
  | .vramCheck =>
    let (answer, memory) := vramCheck machine.memory d
    some (answer, { machine with memory })

/-- Why a command is refused before any device is opened. -/
def refusal : Command → Option Failure
  | .peek offset =>
    if offset % 4 = 0 then none
    else some ⟨s!"register offset {hex offset} is not dword aligned", none⟩
  | .reset false =>
    some ⟨"soft reset aborts all in-flight GPU work; pass --yes to confirm", none⟩
  | _ => none

/-- Opens the device, performs the command and closes the device. -/
def performOpened (describeElapsed : Nat → String) (config : DriverConfig) (machine : Machine)
    (invocation : Invocation) : Option (Answer × Machine) :=
  let selector := DeviceSelector.ofLocation invocation.bus invocation.device
  match Device.init SysfsHost.platform machine.memory selector config machine.host with
  | (.error e, host) =>
    some (.fail ⟨"GPU initialization failed (root and /dev/mem access required)",
      some e.message⟩, { machine with host })
  | (.ok d, host) =>
    (perform describeElapsed { machine with host } d invocation.command).map
      fun (answer, machine) =>
        (answer, { machine with host := d.close SysfsHost.platform machine.host })

/-- Performs a command: one that needs no device at once, one that is refused not at all, and any
other on the device that the invocation names. -/
def execute (environment : String → Option String) (describeElapsed : Nat → String)
    (machine : Machine) (invocation : Invocation) : Option (Outcome × Machine) :=
  let root := (environment "NAVI_SYSFS_ROOT").getD "/sys"
  let machine := { machine with host := { machine.host with root } }
  if invocation.command = .scan then some ((scan machine.host).outcome, machine)
  else
    match refusal invocation.command with
    | some failure => some ((Answer.fail failure).outcome, machine)
    | none =>
      (performOpened describeElapsed (.fromLookup environment) machine invocation).map
        fun (answer, machine) => (answer.outcome, machine)

end GpuControl.CommandLine
