import GpuControl.Error
import GpuControl.Text.Blank
import GpuControl.Text.Decimal
import GpuControl.Text.Numeral
import GpuControl.Text.Quoted

namespace GpuControl

/-- The link of a function, which is shown to the user and decides nothing. -/
structure PcieLink where
  generation : UInt8
  lanes : UInt8
  /-- Signalling rate of a lane, in GT/s. -/
  speed : Float32
  /-- Bandwidth in one direction after line coding, in GB/s. -/
  bandwidth : Float32

namespace PcieLink

/-- Signalling rate of a generation; an unknown one counts as the first. -/
def generationSpeed (generation : UInt8) : Float32 :=
  if generation = 2 then 5.0
  else if generation = 3 then 8.0
  else if generation = 4 then 16.0
  else if generation = 5 then 32.0
  else 2.5

/-- The share of the rate that carries data: 8 bits in 10 for the first two generations, 128 in 130
from the third on. -/
def lineEfficiency (generation : UInt8) : Float32 :=
  if 3 ≤ generation then 128.0 / 130.0 else 0.8

def ofWidth (generation lanes : UInt8) : PcieLink :=
  let speed := generationSpeed generation
  ⟨generation, lanes, speed,
    speed * lineEfficiency generation / 8.0 * Float32.ofNat lanes.toNat⟩

def text (l : PcieLink) : String :=
  s!"x{l.lanes.toNat} Gen{l.generation.toNat} ({Text.twoPlaces l.bandwidth} GB/s)"

/-- The rates by which a generation is recognised. -/
def rates : List (Float32 × UInt8) := [(2.5, 1), (5.0, 2), (8.0, 3), (16.0, 4), (32.0, 5)]

/-- The generation whose rate is the text's first word, give or take a hundredth. -/
def generationOfText (text : List Char) : Option UInt8 :=
  (Text.readFloat32 (Text.firstWord text)).bind fun gts =>
    (rates.find? fun (rate, _) => (gts - rate).abs < 0.01).map (·.2)

/-- The link that a speed text and a width text describe. -/
def ofTexts (speed width : List Char) : Except PlatformError PcieLink :=
  match generationOfText speed with
  | none =>
    .error ⟨.invalidData, "unrecognised link speed " ++ Text.quoted (Text.trim speed)⟩
  | some generation =>
    match Text.readUInt8 (Text.trim width) with
    | .error e =>
      .error ⟨.invalidData,
        "bad link width " ++ Text.quoted (Text.trim width) ++ ": " ++ e.message⟩
    | .ok lanes => .ok (ofWidth generation lanes)

end PcieLink

end GpuControl
