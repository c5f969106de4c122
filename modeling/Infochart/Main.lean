import Infochart.Command.Run

/-!
# The command

Reads what a run needs, shows what it says, and writes what it gives. Notices go to the standard error
unless the log level is quieter than a warning.
-/

namespace Infochart.Command

def faultOf : IO.Error → Files.Fault
  | .noFileOrDirectory .. => .missing
  | e => .other (toString e)

/-- The text of a file, or what is wrong with it. -/
def readPath (path : String) : IO (Except Files.Fault String) := do
  try
    return Files.decode (← IO.FS.readBinFile path)
  catch e =>
    return .error (faultOf e)

/-- The text of the standard input, or what is wrong with it. -/
def readStdin : IO (Except Files.Fault String) := do
  try
    return Files.decode (← (← IO.getStdin).readBinToEnd)
  catch e =>
    return .error (faultOf e)

def readSources (a : Arguments) : IO Sources := do
  let paths := [a.config, a.sheet, a.input].filterMap id
  let files ← paths.mapM fun path => return (path, ← readPath path)
  let stdin ← if a.base = .stdin then readStdin else pure (.ok "")
  return ⟨stdin, fun path => (files.lookup path).getD (.error .missing)⟩

/-- Writes the output of a run. Pictures in pixels are not drawn here. -/
def write (o : Output) : IO (Option Files.Fault) := do
  try
    match o.content, o.path with
    | .text s, some path => IO.FS.writeFile path s; return none
    | .text s, none => IO.print s; return none
    | .picture _ _, _ => return some (.other "pictures in pixels are not drawn by this command")
  catch e =>
    return some (faultOf e)

def usage : String :=
  "usage: infochart [-i FILE | -t TEMPLATE] [-s SHEET] [-o FILE] [-e svg|png|json] [-c FILE]\n"
    ++ "                 [-w WIDTH] [-H HEIGHT] [--layers | --validate] [--log-level LEVEL]"

def runWith (args : List String) : IO UInt32 := do
  match Arguments.ofList? args with
  | none =>
    IO.eprintln usage
    return 2
  | some a =>
    let outcome := run (← readSources a) a
    if !(["off", "error"].contains a.logLevel) then
      outcome.notices.forM fun notice => IO.eprintln notice
    let fault ← match outcome.output with
      | some o => write o
      | none => pure none
    match outcome.failureAfter fault with
    | some f =>
      IO.eprintln ("error: " ++ f.message)
      return 1
    | none => return 0

end Infochart.Command

/-- Runs the command with the arguments of the process. -/
def main (args : List String) : IO UInt32 :=
  Infochart.Command.runWith args
