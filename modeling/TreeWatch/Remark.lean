import TreeWatch.Event
import TreeWatch.FileSystem
import TreeWatch.Level

/-!
# Remarks

What is noted down along the way, from details to warnings, and how each note is worded: its
level, a text, and the named facts that go with it.
-/

namespace TreeWatch

inductive Remark where
  | rootMissing (root : Path)
  | vanished (path : Path)
  | unstatable (path : Path) (problem : IoError)
  | unlistable (dir : Path) (problem : IoError)
  | notSelected (path : Path) (problem : IoError)
  | initialized (root : Path) (present : Bool) (entries : Nat)
  | captureFailed (root : Path) (problem : String)
  | checked (root : Path) (events : Nat)
  | destroyed (root : Path)
  | listenerFailed (root : Path) (hook problem : String)
  | alteration (label : String) (event : Event)
  | checkFailed (root : Path) (problem : String)
  | cycleDone (checked events failures : Nat)
  | monitorStarted (observers millis : Nat)
  | baselineFailed (root : Path) (problem : String)
  | monitorStopped
  | configRead (path : Path) (observers : Nat)
  | dryRunDone
  | observing (observer : String)
  | shutdownRequested
  | allDestroyed (observers : Nat)

namespace Remark

def level : Remark → Level
  | rootMissing _ => .debug
  | vanished _ => .debug
  | unstatable _ _ => .warn
  | unlistable _ _ => .warn
  | notSelected _ _ => .debug
  | initialized _ _ _ => .info
  | captureFailed _ _ => .warn
  | checked _ _ => .debug
  | destroyed _ => .debug
  | listenerFailed _ _ _ => .warn
  | alteration _ _ => .info
  | checkFailed _ _ => .warn
  | cycleDone _ _ _ => .debug
  | monitorStarted _ _ => .info
  | baselineFailed _ _ => .warn
  | monitorStopped => .info
  | configRead _ _ => .debug
  | dryRunDone => .debug
  | observing _ => .info
  | shutdownRequested => .info
  | allDestroyed _ => .debug

def message : Remark → String
  | rootMissing _ => "observed root does not exist"
  | vanished _ => "entry vanished during capture"
  | unstatable _ _ => "cannot stat entry; skipping"
  | unlistable _ _ => "cannot list directory; treating it as empty for this cycle"
  | notSelected _ _ => "cannot stat path; not filtered in"
  | initialized _ _ _ => "observer initialized"
  | captureFailed _ _ => "capture failed; keeping previous snapshot"
  | checked _ _ => "check complete"
  | destroyed _ => "observer destroyed"
  | listenerFailed _ _ _ => "listener failed"
  | alteration _ _ => "alteration"
  | checkFailed _ _ => "observer check failed"
  | cycleDone _ _ _ => "monitor cycle complete"
  | monitorStarted _ _ => "monitor started"
  | baselineFailed _ _ => "initial snapshot failed; retrying on the first cycle"
  | monitorStopped => "monitor stopped"
  | configRead _ _ => "config parsed"
  | dryRunDone => "dry-run complete (nothing observed)"
  | observing _ => "observing"
  | shutdownRequested => "shutdown requested"
  | allDestroyed _ => "all observers destroyed"

def fields : Remark → List (String × String)
  | rootMissing root => [("root", root.quoted)]
  | vanished path => [("path", path.quoted)]
  | unstatable path problem => [("path", path.quoted), ("error", problem.message)]
  | unlistable dir problem => [("dir", dir.quoted), ("error", problem.message)]
  | notSelected path problem => [("path", path.quoted), ("error", problem.message)]
  | initialized root present entries =>
    [("root", root.text), ("exists", toString present), ("entries", toString entries)]
  | captureFailed root problem => [("root", root.text), ("error", problem)]
  | checked root events => [("root", root.text), ("events", toString events)]
  | destroyed root => [("root", root.text)]
  | listenerFailed root hook problem =>
    [("root", root.text), ("hook", hook), ("error", problem)]
  | alteration label event =>
    [("observer", label), ("event", event.kind.text), ("path", event.entry.path.text)]
  | checkFailed root problem => [("root", root.text), ("error", problem)]
  | cycleDone total events failures =>
    [("checked", toString total), ("events", toString events), ("failures", toString failures)]
  | monitorStarted observers millis =>
    [("observers", toString observers), ("interval_ms", toString millis)]
  | baselineFailed root problem => [("root", root.text), ("error", problem)]
  | monitorStopped => []
  | configRead path observers => [("path", path.text), ("observers", toString observers)]
  | dryRunDone => []
  | observing observer => [("observer", observer)]
  | shutdownRequested => []
  | allDestroyed observers => [("observers", toString observers)]

def line (r : Remark) : String :=
  r.level.heading ++ " " ++ r.message
    ++ String.join (r.fields.map fun (k, v) => " " ++ k ++ "=" ++ v)

end Remark

abbrev Journal (m : Type → Type) := Remark → m Unit

end TreeWatch
