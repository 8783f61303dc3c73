import Barometer.CommandLine.Program
import Std.Time.DateTime.Timestamp

/-!
# The command line

Reads the files and variables that the program asks for, and prints what it answers.
-/

namespace Barometer.CommandLine

/-- The text of a file, or why it cannot be had. -/
def readFile (path : String) : IO (Except FileFault String) := do
  try
    let octets ← IO.FS.readBinFile path
    return match String.fromUTF8? octets with
      | some text => .ok text
      | none => .error .notText
  catch e =>
    return .error <| match e with
      | .inappropriateType _ code _ => if code = 21 then .directory else .throughFile
      | .permissionDenied .. => .forbidden
      | _ => .absent

/-- The current time. -/
def currentTime : IO Timestamp := do
  let t ← Std.Time.Timestamp.now
  let nanoseconds := t.toNanosecondsSinceUnixEpoch.val
  let seconds := nanoseconds.fdiv 1000000000
  return {
    day := seconds.fdiv 86400
    second := (seconds.fmod 86400).toNat
    nano := (nanoseconds.fmod 1000000000).toNat }

/-- What the databases of this program say. -/
def words : Store.Cause → String → String
  | .absent, path => "unable to open database file: " ++ path
  | .foreign, path => "file is not a database: " ++ path
  | .rejected, statement => "cannot be run: " ++ statement
  | .overflow, _ => "integer overflow"
  | .register, statement => "not a register of imports: " ++ statement

def surroundings : Surroundings IO where
  read := readFile
  valueOf name := IO.getEnv name
  now := currentTime
  complaint := words

end Barometer.CommandLine

def main (args : List String) : IO UInt32 := do
  let outcome ← Barometer.CommandLine.run Barometer.CommandLine.surroundings args
  IO.print outcome.output
  if let some line := outcome.error then IO.eprintln line
  return outcome.code.toUInt32
