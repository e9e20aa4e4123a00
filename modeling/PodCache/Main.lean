import PodCache.CommandLine
import PodCache.Replay.Run

/-!
# The program

Replays the events of a file as the command line says. Without an output file the
report goes to standard output. A replay at which the machine stops has an exit code
of its own.
-/

namespace PodCache

/-- The files of the machine. -/
def fileStorage : Replay.Storage IO where
  read path := try return some (← IO.FS.readBinFile path) catch _ => return none
  write path text := try IO.FS.writeFile path text; return true catch _ => return false

/-- How the program is called. -/
def usage : String :=
  "Usage: replay --input <FILE> [--output <FILE>] [--strict] [--log-path <DIR>]"

/-- What underlies a failed replay, if that is not said by the failure itself. -/
def Replay.ReplayError.cause? : Replay.ReplayError → Option String
  | .rejected r => some r.cause.message
  | _ => none

/-- Runs a replay and reports on it. -/
def runReplay (args : CommandLine.ReplayArgs) : IO UInt32 := do
  match ← Replay.run fileStorage args.input args.output args.strict with
  | .ok report =>
    if args.output.isNone then IO.println report.toText
    return 0
  | .error e =>
    IO.eprintln s!"Error: {e.message}"
    if let some cause := e.cause? then IO.eprintln s!"Caused by: {cause}"
    return 1
  | .stop =>
    IO.eprintln "attempt to negate with overflow"
    return 101

end PodCache

/-- Runs the command that the arguments ask for. -/
def main (args : List String) : IO UInt32 := do
  let defaults : PodCache.CommandLine.Defaults := {
    input := ← IO.getEnv "CRI_RESMGR_REPLAY_INPUT"
    logPath := ← IO.getEnv "CRI_RESMGR_LOG_PATH" }
  match PodCache.CommandLine.parse defaults args with
  | .ok (.replay args) => PodCache.runReplay args
  | .error .displayHelp => do
    IO.println PodCache.usage
    return 0
  | .error .displayVersion => do
    IO.println "0.1.0"
    return 0
  | .error e => do
    IO.eprintln s!"error: {e.name}\n{PodCache.usage}"
    return 2
