import GpuControl.Error

namespace GpuControl

/-- What stands at a path: a file with its bytes, a directory, or the device that shows physical
memory. -/
inductive FileNode where
  | file (bytes : List UInt8)
  | directory
  /-- Physical memory: the first `size` bytes of its region 0. The tree holds none of them. -/
  | memory (size : Nat)
deriving DecidableEq, Repr

/-- The largest offset in a file. -/
def maxFileOffset : Nat := 0x7FFFFFFFFFFFFFFF

/-- The names on the way to a file. -/
abbrev FilePath := List String

/-- The names in a path text; repeated separators count once. -/
def FilePath.ofText (text : String) : FilePath :=
  (text.splitOn "/").filter fun name => !name.isEmpty && name != "."

/-- The named files and directories. Directories above them exist without being named. -/
structure FileTree where
  entries : List (FilePath × FileNode) := []
deriving DecidableEq, Repr

namespace FileTree

/-- What a path leads to. -/
def node? (t : FileTree) (path : FilePath) : Option FileNode :=
  match t.entries.lookup path with
  | some node => some node
  | none =>
    if t.entries.any fun (other, _) => path.isPrefixOf other then some .directory else none

/-- Why nothing can be found at a path: it leads through a file, or it ends nowhere. -/
def missing (t : FileTree) (path : FilePath) : PlatformError :=
  let throughFile := t.entries.any fun (other, node) =>
    other.isPrefixOf path && other != path && node != .directory
  if throughFile then .notADirectory else .noSuchFile

/-- The file or device at a path. -/
def openFile (t : FileTree) (path : FilePath) : Except PlatformError FileNode :=
  match t.node? path with
  | some .directory => .error .isADirectory
  | some node => .ok node
  | none => .error (t.missing path)

/-- The bytes of a file. -/
def read (t : FileTree) (path : FilePath) : Except PlatformError (List UInt8) :=
  match t.openFile path with
  | .error e => .error e
  | .ok (.file bytes) => .ok bytes
  | .ok _ => .ok []

/-- Bytes as text. -/
def textOf (bytes : List UInt8) : Except PlatformError String :=
  match String.fromUTF8? ⟨bytes.toArray⟩ with
  | none => .error .invalidText
  | some text => .ok text

/-- The text of a file. -/
def readText (t : FileTree) (path : FilePath) : Except PlatformError String :=
  match t.read path with
  | .error e => .error e
  | .ok bytes => textOf bytes

/-- Puts a file or a directory at a path. -/
def put (t : FileTree) (path : FilePath) (node : FileNode) : FileTree :=
  ⟨(path, node) :: t.entries.filter (·.1 != path)⟩

/-- Replaces what is at a path, which may not be a directory; a new file needs a directory. -/
def replace (t : FileTree) (path : FilePath) (node : FileNode) :
    Except PlatformError Unit × FileTree :=
  match t.node? path with
  | some .directory => (.error .isADirectory, t)
  | some _ => (.ok (), t.put path node)
  | none =>
    match t.node? path.dropLast with
    | some .directory => (.ok (), t.put path node)
    | _ => (.error (t.missing path), t)

/-- Makes a directory and those above it; one that exists is kept. -/
def makeDirectory (t : FileTree) (path : FilePath) : Except PlatformError Unit × FileTree :=
  match t.node? path with
  | some .directory => (.ok (), t)
  | some _ => (.error .fileExists, t)
  | none =>
    if t.missing path = .notADirectory then (.error .notADirectory, t)
    else (.ok (), t.put path .directory)

end FileTree

end GpuControl
