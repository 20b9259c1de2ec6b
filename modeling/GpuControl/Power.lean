import GpuControl.Text.Blank
import GpuControl.Text.Quoted

namespace GpuControl

/-- What a platform can be asked to run a device at. -/
inductive PerformanceLevel where
  /-- Clocks pinned high. -/
  | high
  /-- Clocks managed by the device. -/
  | auto
deriving DecidableEq, Repr

namespace PerformanceLevel

def text : PerformanceLevel → String
  | high => "high"
  | auto => "auto"

/-- Reads a level in any case and with blanks around it. -/
def read (text : List Char) : Except String PerformanceLevel :=
  let word := (Text.trim text).map Char.toLower
  if word = high.text.toList then .ok high
  else if word = auto.text.toList then .ok auto
  else
    .error ("unknown performance level " ++ Text.quoted word ++ " (expected high or auto)")

end PerformanceLevel

end GpuControl
