import GpuControl.Packet.Encoding

namespace GpuControl

/-- Packets one after the other in a buffer of fixed capacity. Words from before a `clear` stay in
the buffer until they are written over. -/
structure CommandStream where
  buffer : Array UInt32
  /-- Words encoded so far. -/
  length : Nat
  /-- Base of the shader registers. -/
  shBase : Nat
  length_le : length ≤ buffer.size

namespace CommandStream

/-- An empty stream of `capacity` words. -/
def new (capacity shBase : Nat) : CommandStream :=
  ⟨Array.replicate capacity 0, 0, shBase, Nat.zero_le _⟩

def capacity (s : CommandStream) : Nat := s.buffer.size

/-- Words that still fit. -/
def remaining (s : CommandStream) : Nat := s.capacity - s.length

def isEmpty (s : CommandStream) : Bool := s.length == 0

/-- The encoded words. -/
def words (s : CommandStream) : List UInt32 := s.buffer.toList.take s.length

/-- The headers of the encoded packets. -/
def headers (s : CommandStream) : List PacketHeader := PacketHeader.walk s.words

/-- Forgets everything encoded. -/
def clear (s : CommandStream) : CommandStream := { s with length := 0, length_le := Nat.zero_le _ }

/-- Appends one packet, or fails and leaves the stream as it was. -/
def append (s : CommandStream) (p : Packet) : Except DriverError Unit × CommandStream :=
  match p.words s.shBase with
  | .error e => (.error e, s)
  | .ok words =>
    if h : s.length + words.length ≤ s.buffer.size then
      (.ok (), { s with
        buffer := writeWords s.buffer s.length words
        length := s.length + words.length
        length_le := by simpa using h })
    else
      (.error (.encodingOverflow (saturatingAdd s.length words.length) s.buffer.size), s)

/-- Appends packets up to the first that fails; those before it stay. -/
def appendAll (s : CommandStream) : List Packet → Except DriverError Unit × CommandStream
  | [] => (.ok (), s)
  | p :: ps =>
    match s.append p with
    | (.error e, s) => (.error e, s)
    | (.ok _, s) => s.appendAll ps

/-- What a client does to a stream: it succeeds or fails, and the stream is what it leaves. -/
abbrev Edit := CommandStream → Except DriverError Unit × CommandStream

/-- Makes edits up to the first that fails. -/
def inTurn : List Edit → Edit
  | [] => fun s => (.ok (), s)
  | edit :: edits => fun s =>
    match edit s with
    | (.error e, s) => (.error e, s)
    | (.ok _, s) => inTurn edits s

end CommandStream

end GpuControl
