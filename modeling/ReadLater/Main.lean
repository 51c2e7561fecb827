import ReadLater.Command.Run
import ReadLater.Config.File
import Std.Time.Zoned

/-! # The program -/

namespace ReadLater.Main

/-- What went wrong with a file. -/
def fileError : IO.Error → Command.FileError
  | .noFileOrDirectory .. => .notFound
  | .inappropriateType _ code _ => if code = 20 then .notDirectory else .isDirectory
  | .invalidArgument _ 36 _ => .nameTooLong
  | e => .other (toString e)

/-- The text of a file, or why there is none. -/
def readText (path : String) : IO (Except Command.FileError String) := do
  try
    match String.fromUTF8? (← IO.FS.readBinFile path) with
    | some text => return .ok text
    | none => return .error .notText
  catch e => return .error (fileError e)

/-- Prints an error, and gives the exit code for it. -/
def fail (e : Command.CommandError) : IO UInt32 := do
  IO.eprint (Command.errorText e)
  return 1

/-- The path of the configuration: a variable of the environment, or a place in the user's files. -/
def configPath : IO (Option String) := do
  if let some path ← IO.getEnv "READSHELF_CONFIG" then return some path
  if let some directory ← IO.getEnv "XDG_CONFIG_HOME" then
    return some (directory ++ "/readshelf/config.toml")
  return (← IO.getEnv "HOME").map (· ++ "/.config/readshelf/config.toml")

def readConfig : IO Config := do
  match ← configPath with
  | none => return {}
  | some path =>
    match ← readText path with
    | .ok text => return .ofFile text
    | .error _ => return {}

/-- The present instant on the local clock. -/
def now : IO Time.Moment := do
  let t ← Std.Time.DateTime.now
  let since := t.timestamp.val
  let nanos := since.nano.val.toNat
  if h : nanos < 2 * Time.nanosPerSecond then
    return ⟨⟨since.second.val, nanos, h⟩, t.offset.second.val⟩
  else return ⟨.ofSeconds since.second.val, t.offset.second.val⟩

def run (invocation : Command.Invocation) : IO UInt32 := do
  let snapshot ← match invocation.library? with
    | some path => readText path
    | none => pure (.error .notFound)
  match invocation.run ⟨← readConfig, ← now, snapshot⟩ with
  | .error e => fail e
  | .ok output =>
    if let (some path, some text) := (invocation.library?, output.written) then
      try IO.FS.writeFile path text
      catch e => return ← fail (.unwritten path (fileError e))
    IO.print output.text
    return 0

end ReadLater.Main

def main (args : List String) : IO UInt32 := do
  match ReadLater.Command.Invocation.ofArguments? args with
  | some invocation => ReadLater.Main.run invocation
  | none =>
    IO.eprint ReadLater.Command.usage
    return 2
