import GpuControl.Shell.ControlSequence

namespace GpuControl.Shell

/-- A part of a message that stands out. -/
inductive Emphasis where
  /-- The kind of a message. -/
  | heading
  /-- What is written as it stands. -/
  | literal
  /-- What is wrong. -/
  | invalid
deriving DecidableEq, Repr

namespace Emphasis

/-- The sequence that sets a part off. -/
def start : Emphasis → String
  | heading => "\x1b[1m\x1b[31m"
  | literal => "\x1b[1m"
  | invalid => "\x1b[33m"

/-- The sequence after a part that was set off. -/
def reset : String := "\x1b[0m"

/-- A part of a message, with styles or without. -/
def apply (e : Emphasis) (styled : Bool) (text : String) : String :=
  if styled then e.start ++ text ++ reset else String.ofList (plain text.toList)

end Emphasis

/-- Whether messages are styled though no terminal reads them: if the environment demands it and
does not forbid it. A variable that is set to nothing counts as unset. -/
def stylesForced (environment : String → Option String) : Bool :=
  let holds (name : String) : Bool := (environment name).any fun value => !value.isEmpty
  holds "CLICOLOR_FORCE" && !holds "NO_COLOR"

end GpuControl.Shell
