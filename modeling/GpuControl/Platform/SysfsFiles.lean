import GpuControl.Memory.Image
import GpuControl.Platform.Sysfs
import GpuControl.Platform.WordAccess
import GpuControl.Text.Utf8

namespace GpuControl.SysfsHost

/-- Whether a path text ends with a dot: it then means what its names lead to as a directory. -/
def endsWithDot (text : String) : Bool :=
  ((text.splitOn "/").filter fun name => !name.isEmpty).getLast? == some "."

/-- Whether only a directory can be meant by the end of a path text. -/
def meansDirectory (text : String) : Bool := text.endsWith "/" || endsWithDot text

/-- Fails where no directory is. -/
def demandDirectory (tree : FileTree) (place : FilePath) : Except PlatformError Unit :=
  match tree.node? place with
  | some .directory => .ok ()
  | some _ => .error .notADirectory
  | none => .error (tree.missing place)

/-- Where names lead from a directory. To leave a directory by `..` it has to be there. -/
def follow (tree : FileTree) (place : FilePath) : List String → Except PlatformError FilePath
  | [] => .ok place
  | name :: names =>
    if name = ".." then
      match demandDirectory tree place with
      | .error e => .error e
      | .ok _ => follow tree place.dropLast names
    else follow tree (place ++ [name]) names

/-- Where names lead from a directory, after every directory on the way was made. -/
def enter (tree : FileTree) (place : FilePath) :
    List String → Except PlatformError FilePath × FileTree
  | [] => (.ok place, tree)
  | name :: names =>
    if name = ".." then enter tree place.dropLast names
    else
      match tree.makeDirectory (place ++ [name]) with
      | (.error e, tree) => (.error (if names.isEmpty then e else .notADirectory), tree)
      | (.ok _, tree) => enter tree (place ++ [name]) names

/-- The path of the root, and the tree in which it is there. -/
def enterRoot (host : SysfsHost) : FilePath × FileTree :=
  let root := FilePath.ofText host.root
  (root, (host.tree.makeDirectory root).2)

/-- What a path holds once `bytes` were written to it. -/
def nodeFor (host : SysfsHost) (path : FilePath) (bytes : List UInt8) : FileNode :=
  if path = host.memoryPath then .memory bytes.length else .file bytes

/-- Replaces the content of the file at a path. What is written to the memory device becomes the
content of physical memory. -/
def writeAt (host : SysfsHost) (m : Memory) (path : FilePath) (bytes : List UInt8) :
    Except PlatformError Unit × SysfsHost × Memory :=
  match host.tree.replace path (host.nodeFor path bytes) with
  | (.error e, _) => (.error e, host, m)
  | (.ok _, tree) =>
    let m := if path = host.memoryPath then Memory.ofImage ⟨bytes.toArray⟩ else m
    (.ok (), { host with tree }, m)

/-- Writes a file below the root and makes the directories above it. -/
def writeFile (host : SysfsHost) (m : Memory) (text : String) (bytes : List UInt8) :
    Except PlatformError Unit × SysfsHost × Memory :=
  let names := FilePath.ofText text
  let (root, tree) := host.enterRoot
  match enter tree root names.dropLast with
  | (.error e, tree) => (.error e, { host with tree }, m)
  | (.ok place, tree) =>
    let host := { host with tree }
    match follow tree place names.getLast?.toList with
    | .error e => (.error e, host, m)
    | .ok path =>
      if endsWithDot text then
        ((demandDirectory tree path).bind fun _ => .error .isADirectory, host, m)
      else if meansDirectory text then (.error .isADirectory, host, m)
      else host.writeAt m path bytes

/-- Makes a directory below the root and those above it. What a text with a dot at its end leads to
has to be there already. -/
def makeDirectory (host : SysfsHost) (text : String) : Except PlatformError Unit × SysfsHost :=
  let names := FilePath.ofText text
  let (root, tree) := host.enterRoot
  if endsWithDot text then
    match enter tree root names.dropLast with
    | (.error _, tree) => (.error .notADirectory, { host with tree })
    | (.ok place, tree) =>
      let path := follow tree place names.getLast?.toList
      (path.bind (demandDirectory tree), { host with tree })
  else
    let (result, tree) := enter tree root names
    (result.map fun _ => (), { host with tree })

/-- The bytes of a file below the root. -/
def readBytes (host : SysfsHost) (m : Memory) (text : String) :
    Except PlatformError (List UInt8) :=
  let (root, tree) := host.enterRoot
  match (follow tree root (FilePath.ofText text)).bind tree.openFile with
  | .error e => .error e
  | .ok node =>
    if meansDirectory text then .error .notADirectory
    else
      match node with
      | .memory size => .ok (m.load ⟨0, 0⟩ size)
      | .file bytes => .ok bytes
      | .directory => .error .isADirectory

/-- The content of a file below the root, whether it is text or not. -/
def readShown (host : SysfsHost) (m : Memory) (text : String) : Except PlatformError String :=
  (host.readBytes m text).map Text.decodeShown

/-- The size of the memory device, when `offset` is one that a file can have. -/
def memorySize (host : SysfsHost) (offset : UInt64) : Except PlatformError Nat :=
  match host.tree.openFile host.memoryPath with
  | .error e => .error e
  | .ok node =>
    if maxFileOffset < offset.toNat then .error .invalidArgument
    else
      match node with
      | .memory size => .ok size
      | _ => .ok 0

/-- Reads a dword of the memory device, which must not end before it does. -/
def peek32 (host : SysfsHost) (m : Memory) (offset : UInt64) : Except PlatformError UInt32 :=
  match host.memorySize offset with
  | .error e => .error e
  | .ok size =>
    if offset.toNat + 4 ≤ size then .ok (m.loadDword ⟨0, offset.toNat⟩) else .error .endOfFile

/-- Writes bytes to the memory device, which grows to hold them. -/
def pokeBytes (host : SysfsHost) (m : Memory) (offset : UInt64) (bytes : List UInt8) :
    Except PlatformError Unit × SysfsHost × Memory :=
  match host.memorySize offset with
  | .error e => (.error e, host, m)
  | .ok size =>
    let tree :=
      if offset.toNat + bytes.length ≤ size then host.tree
      else host.tree.put host.memoryPath (.memory (offset.toNat + bytes.length))
    (.ok (), { host with tree }, m.store ⟨0, offset.toNat⟩ bytes)

/-- Physical memory through the memory device. -/
def words : WordAccess (SysfsHost × Memory) PlatformError where
  peek32 := fun (host, m) => host.peek32 m
  poke32 := fun (host, m) offset word => host.pokeBytes m offset (LittleEndian.dword word)
  poke64 := fun (host, m) offset word => host.pokeBytes m offset (LittleEndian.qword word)

end GpuControl.SysfsHost
