import TreeWatch.Program
import Std.Async.Signal

/-!
# The outer layer

The program on the real disk: texts go to standard output, notes and failures to standard
error, and an interrupt from the keyboard asks the monitor to stop.
-/

namespace TreeWatch.OuterLayer

open System

def ioError (e : IO.Error) : IoError :=
  match e with
  | .noFileOrDirectory _ code details => ⟨.notFound, worded details code⟩
  | .permissionDenied _ code details => ⟨.permissionDenied, worded details code⟩
  | .inappropriateType _ code details => ⟨.other, worded details code⟩
  | .invalidArgument _ code details => ⟨.other, worded details code⟩
  | .resourceExhausted _ code details => ⟨.other, worded details code⟩
  | .otherError code details => ⟨.other, worded details code⟩
  | e => ⟨.other, toString e⟩
where
  /-- A refusal with its number, which may be given as a negative one. -/
  worded (details : String) (code : UInt32) : String :=
    details.capitalize ++ " (os error " ++ toString (min code (0 - code)) ++ ")"

def ask {α β : Type} (act : IO α) (f : α → β) : IO (Except IoError β) := do
  match ← act.toBaseIO with
  | .ok a => return .ok (f a)
  | .error e => return .error (ioError e)

def attributes (d : IO.FS.Metadata) : Attributes :=
  ⟨d.type == .dir, d.type == .symlink, d.byteSize,
    .ofSeconds d.modified.sec d.modified.nsec.toNat, false⟩

/-- More directories than can be nested in one another on any path. -/
def depthLimit : Nat := 4096

def files : FileSystem IO where
  metadata p := ask (FilePath.metadata p.text) attributes
  linkMetadata p := ask (FilePath.symlinkMetadata p.text) attributes
  list p := ask (FilePath.readDir p.text) fun entries =>
    entries.toList.map fun e => p.child e.fileName
  contents _ := none
  depthLimit := depthLimit

def note (level : Level) (r : Remark) : IO Unit := do
  if level.admits r.level then IO.eprintln r.line

def readText (p : Path) : IO (Except IoError String) := do
  match ← ask (IO.FS.readBinFile p.text) String.fromUTF8? with
  | .ok (some text) => return .ok text
  | .ok none => return .error ⟨.other, "stream did not contain valid UTF-8"⟩
  | .error e => return .error e

/-- How long an interrupt may go unnoticed, in milliseconds. -/
def nap : Nat := 50

/-- Sleeps, and says whether a task has finished in the meantime. -/
partial def sleep {α : Type} (interrupt : Task α) (millis : Nat) : IO Bool := do
  if ← IO.hasFinished interrupt then return true
  else if millis = 0 then return false
  else
    IO.sleep (min nap millis).toUInt32
    sleep interrupt (millis - nap)

/-- Runs a cycle after every interval until a task has finished. -/
partial def cycle {α : Type} (interrupt : Task α) (host : Host IO) (r : RunningMonitor) :
    IO RunningMonitor := do
  let interval := r.monitor.interval
  if ← sleep interrupt interval.millis then return r
  else cycle interrupt host (← r.wait host interval)

def runUntilInterrupted (host : Host IO) (r : RunningMonitor) : IO RunningMonitor := do
  let waiter ← Std.Async.Signal.Waiter.mk .sigint false
  cycle (← waiter.wait) host r

def world (level : Level) : World IO where
  files := files
  note := note level
  readText := readText
  canonical p := ask (IO.FS.realPath p.text) fun q => ⟨toString q⟩
  current := return ⟨toString (← IO.currentDir)⟩
  print := IO.print
  runUntilStopped := runUntilInterrupted

def usage : String :=
  "\n".intercalate
    ["Report file and directory changes by polling directory snapshots.",
      "",
      "Usage: pollwatch [OPTIONS]",
      "",
      "Options:",
      "      --config <PATH>      Path to the config file [default: Pollwatch.toml]",
      "      --log-level <LEVEL>  Logging level: error, warn, info, debug, trace",
      "      --dry-run            Print the resolved observers, then exit",
      "      --snapshot           Print the trees of all observed roots, then exit",
      "      --sort <KEY>         Ordering of the trees: name, size, modified",
      "      --reverse            Reverse the ordering of the trees",
      "      --dirs-first         List directories before files",
      "  -h, --help               Print help",
      "  -V, --version            Print version"]

def usageMessage : UsageError → String
  | .invalidValue => "an option has a value that it cannot have, or none"
  | .unknownArgument => "an argument was not expected"
  | .repeated => "an option cannot be used more than once"
  | .unneededValue => "an option that takes no value was given one"

def run (o : TreeWatch.Options) : IO UInt32 := do
  let level := Level.chosen o.level (← IO.getEnv "POLLWATCH_LOG")
  match ← Program.run (world level) o with
  | .ok () => return 0
  | .error f =>
    IO.eprintln ("pollwatch error: " ++ ": ".intercalate f.chain)
    return 1

end TreeWatch.OuterLayer

def main (args : List String) : IO UInt32 := do
  match TreeWatch.CommandLine.parse args with
  | .ok (.run o) => TreeWatch.OuterLayer.run o
  | .ok .help => do
    IO.println TreeWatch.OuterLayer.usage
    return 0
  | .ok .version => do
    IO.println "pollwatch 0.1.0"
    return 0
  | .error e => do
    IO.eprintln ("error: " ++ TreeWatch.OuterLayer.usageMessage e)
    return 2
