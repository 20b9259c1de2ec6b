import GpuControl.Config.RegisterMap
import GpuControl.Text.Blank
import GpuControl.Text.Numeral
import GpuControl.Window.Kind

namespace GpuControl

open Text

/-- The smallest margin of a ring: one dword. -/
def minRingMargin : UInt32 := 4

/-- A margin as it is used: raised to one dword if it is smaller. -/
def atLeastOneDword (margin : UInt32) : UInt32 := max margin minRingMargin

/-- By default the pause is a whole number of microseconds. -/
def defaultPollNanoseconds : Fin 1000 := 0

/-- The settings of the driver. -/
structure DriverConfig where
  /-- Ring that takes compute launches. -/
  computeRing : UInt8 := defaultComputeRing
  /-- Bytes kept free in every ring, so that equal pointers always mean an empty one. -/
  ringMargin : UInt32 := 32
  /-- Capacity of a launch's command stream, in words. -/
  maxStreamWords : Nat := 256
  /-- Whole microseconds of the pause between two looks at the status register. -/
  pollMicroseconds : Nat := 1000
  /-- Nanoseconds of that pause beyond the whole microseconds. -/
  pollNanoseconds : Fin 1000 := defaultPollNanoseconds
  /-- Further attempts after the first to read the link at start. -/
  linkRetries : UInt32 := 1
  /-- Refuse a misaligned base address instead of rounding it down. -/
  strictAlignment : Bool := false
  registerWindowSize : Nat := WindowKind.registers.size.toNat
  apertureSize : Nat := WindowKind.aperture.size.toNat
  doorbellSize : Nat := WindowKind.doorbell.size.toNat
  registers : RegisterMap := .gfx10
deriving DecidableEq, Repr

namespace DriverConfig

/-- The pause between two looks at the status register, in nanoseconds. -/
def pollInterval (config : DriverConfig) : Nat :=
  1000 * config.pollMicroseconds + config.pollNanoseconds

def withComputeRing (config : DriverConfig) (ring : UInt8) : DriverConfig :=
  { config with computeRing := ring }

def withRingMargin (config : DriverConfig) (margin : UInt32) : DriverConfig :=
  { config with ringMargin := atLeastOneDword margin }

def withMaxStreamWords (config : DriverConfig) (words : Nat) : DriverConfig :=
  { config with maxStreamWords := words }

def withPollInterval (config : DriverConfig) (nanoseconds : Nat) : DriverConfig :=
  { config with
    pollMicroseconds := nanoseconds / 1000, pollNanoseconds := Fin.ofNat 1000 nanoseconds }

def withLinkRetries (config : DriverConfig) (retries : UInt32) : DriverConfig :=
  { config with linkRetries := retries }

def withStrictAlignment (config : DriverConfig) (strict : Bool) : DriverConfig :=
  { config with strictAlignment := strict }

def withWindowSizes (config : DriverConfig) (registers aperture doorbell : Nat) : DriverConfig :=
  { config with
    registerWindowSize := registers, apertureSize := aperture, doorbellSize := doorbell }

def withRegisters (config : DriverConfig) (registers : RegisterMap) : DriverConfig :=
  { config with registers := registers }

end DriverConfig

/-- Reads a yes or no, in any case and with blanks around it. -/
def readSwitch (text : List Char) : Option Bool :=
  let word := String.ofList ((trim text).map Char.toLower)
  if word ∈ ["1", "true", "yes", "on"] then some true
  else if word ∈ ["0", "false", "no", "off"] then some false
  else none

/-- The value of a variable, if it is set and `read` accepts it without the blanks around it. -/
def numericVariable {α : Type} (read : List Char → Except NumeralError α)
    (value : Option String) : Option α :=
  value.bind fun text => (read (trim text.toList)).toOption

/-- The settings that the variables of `lookup` ask for. Each variable sets one field, and one that
is unset or does not read as a value of its field leaves the default. -/
def DriverConfig.fromLookup (lookup : String → Option String) : DriverConfig :=
  let defaults : DriverConfig := {}
  { defaults with
    computeRing :=
      (numericVariable readUInt8 (lookup "NAVI_COMPUTE_RING")).getD defaults.computeRing
    ringMargin :=
      ((numericVariable readUInt32 (lookup "NAVI_RING_MARGIN")).map atLeastOneDword).getD
        defaults.ringMargin
    maxStreamWords :=
      (numericVariable (readNat 10 (UInt64.size - 1)) (lookup "NAVI_MAX_STREAM_WORDS")).getD
        defaults.maxStreamWords
    pollMicroseconds :=
      (numericVariable (readNat 10 (UInt64.size - 1)) (lookup "NAVI_POLL_INTERVAL_US")).getD
        defaults.pollMicroseconds
    linkRetries :=
      (numericVariable readUInt32 (lookup "NAVI_LINK_RETRIES")).getD defaults.linkRetries
    strictAlignment :=
      ((lookup "NAVI_STRICT_ALIGNMENT").bind fun text => readSwitch text.toList).getD
        defaults.strictAlignment }

end GpuControl
