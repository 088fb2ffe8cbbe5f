import Biblio.Server.Console
import Biblio.Server.Startup
import Std.Time.DateTime.Timestamp

/-!
# The command line

The program starts a server with the configuration that its environment names.  Then it answers the
requests on its standard input, one in a line, until the input ends.  Nobody can be reached from here,
and the store lasts as long as the program.
-/

set_option autoImplicit false

namespace Biblio
namespace Server

/-- The variables of the process, as far as the system lists them. -/
def processBindings : IO (List (String × String)) := do
  try
    let block ← IO.FS.readBinFile "/proc/self/environ"
    return ((String.fromUTF8? block).map Environment.ofBlock).getD []
  catch _ => return []

/-- What stands at a path. -/
def fileAt (path : String) : IO Config.File := do
  try
    let bytes ← IO.FS.readBinFile path
    return match String.fromUTF8? bytes with
      | some content => .text content
      | none => .binary
  catch
    | .noFileOrDirectory .. => return .missing
    | _ => return .folder

/-- The wall clock. -/
def wallClock : IO Moment := do
  let t ← Std.Time.Timestamp.now
  let nanos := t.toNanosecondsSinceUnixEpoch.val
  return ⟨nanos.fdiv Span.second, (nanos.fmod Span.second).toNat⟩

/-- From an instant on the wall clock goes along with the running clock. -/
def inStep (now : Instant) (wall : Moment) : Runtime := { wallAt := fun t => some (wall.add (t - now)) }

/-- Writes lines of the log. -/
def write (lines : List LogLine) : IO Unit := lines.forM fun l => IO.println l.render

/-- Answers the requests on the standard input. -/
partial def answerAll (input : IO.FS.Stream) (server : Running Unit) : IO Unit := do
  let line ← input.getLine
  if line.isEmpty then return
  match Console.request? line with
  | none => answerAll input server
  | some request =>
    let now ← IO.monoNanosNow
    let wall ← wallClock
    let start := { server.state with now := now, wall := wall, runtime := inStep now wall }
    let (result, state) := ((Http.serve server.service server.config request).run).run start
    IO.sleep ((state.now - now) / Span.millisecond).toUInt32
    IO.println (match result with
      | .ok response => Console.render response
      | .error e => e.message)
    answerAll input { server with state := state }

/-- Starts a server and answers requests; the exit code is 1 if the start fails. -/
def run : IO UInt32 := do
  let bindings ← processBindings
  let path := configPath bindings
  let config := Config.load path (← fileAt path) bindings
  let state : State Unit := { now := ← IO.monoNanosNow, wall := ← wallClock, world := () }
  let start := Server.start path config (fun _ => .ok {}) (fun _ => OpenLibrary.Network.down) state
  write start.log
  match start.result with
  | .error _ => return 1
  | .ok server =>
    answerAll (← IO.getStdin) server
    write farewell
    return 0

end Server
end Biblio

def main : IO UInt32 := Biblio.Server.run
