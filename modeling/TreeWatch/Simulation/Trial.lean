import TreeWatch.Program
import TreeWatch.Simulation.Disk

/-!
# Trials

The program runs on a simulated disk, on which a script changes things while time passes. A
trial keeps what was printed and noted.
-/

namespace TreeWatch

/-- A step of a script: some time passes, and then the disk changes. -/
structure ScriptStep where
  wait : Duration
  removed : List Path
  added : List Disk.Deposit

/-- Everything that a trial keeps. -/
structure Trial where
  disk : Disk
  printed : String := ""
  notes : List Remark := []

namespace Trial

abbrev Act := StateM Trial

def note (r : Remark) : Act Unit := modify fun t => { t with notes := t.notes ++ [r] }

def print (s : String) : Act Unit := modify fun t => { t with printed := t.printed ++ s }

def ask : Act Disk := return (← get).disk

def change (s : ScriptStep) : Act Unit :=
  modify fun t => { t with disk := (s.removed.foldl Disk.remove t.disk).depositAll s.added }

def play (host : Host Act) : List ScriptStep → RunningMonitor → Act RunningMonitor
  | [], r => return r
  | s :: script, r => do
    let r ← r.wait host s.wait
    change s
    play host script r

def lastWait : Duration := .ofMillis 1

/-- What the program needs, from a trial: it is asked to stop shortly after the script ends. -/
def world (script : List ScriptStep) : World Act where
  files := Disk.fileSystem ask fun _ => none
  note := note
  readText p := return (← ask).readText p
  canonical p := return (← ask).canonical p
  current := return Disk.pathOf (← ask).current
  print := print
  runUntilStopped host r := do
    let r ← play host script r
    r.wait host lastWait

def run (d : Disk) (script : List ScriptStep) (o : Options) : Except Failure Unit × Trial :=
  (Program.run (world script) o).run { disk := d }

end Trial

end TreeWatch
