import OffHours.Program
import Std.Time.Date
import Std.Time.DateTime.Timestamp

/-!
# The command line

Reads the environment, the files and the clock, and hands them to the program. There is no
network here: every request finds that its server cannot be reached.
-/

open OffHours

namespace OffHours.Main

/-- The variables that the program looks at. -/
def watched : List String :=
  [Environment.subscription, Environment.simulate, Environment.accessToken,
    Environment.directory, Environment.host, Outlets.mailName, Outlets.mailPassword]

/-- The variables that are set. -/
def environment : IO Environment := do
  let values ← watched.mapM fun name => do return (name, ← IO.getEnv name)
  return fun name => (values.lookup name).join

/-- What is found at a path. -/
def fileState (path : String) : IO FileState := do
  try
    return .content (← IO.FS.readFile path)
  catch error =>
    match error with
    | .noFileOrDirectory _ _ _ => return .absent
    | .inappropriateType _ code details => return .unreadable (reason code details)
    | .permissionDenied _ code details => return .unreadable (reason code details)
    | other => return .unreadable (toString other)
where
  /-- Why a file cannot be read, with the number of the system. -/
  reason (code : UInt32) (details : String) : String :=
    details ++ " (os error " ++ toString code ++ ")"

/-- The files that the arguments lead to. -/
def files (environment : Environment) (arguments : List String) : IO Files := do
  match CommandLine.Command.ofArguments arguments with
  | .ok (.sweep options) =>
    let directory := Program.directory environment options
    let paths := [Settings.path directory, Secrets.path directory]
    let states ← paths.mapM fun path => do return (path, ← fileState path)
    return fun path => (states.lookup path).getD .absent
  | _ => return fun _ => .absent

/-- The instant of the clock. -/
def now : IO Instant := do
  let time ← Std.Time.Timestamp.now
  let date := Std.Time.PlainDate.ofEpochDay time.toDaysSinceUnixEpoch
  let second := (time.toSecondsSinceUnixEpoch.val % 86400).toNat
  let found := Instant.ofNumbers? date.year.toInt date.month.val.toNat date.day.val.toNat
    (second / 3600) (second / 60 % 60) (second % 60)
  match found with
  | some instant => return instant
  | none => throw (IO.userError "the clock shows no instant of the calendar")

/-- A random byte at its place, with the marks of a random identifier. -/
def marked (byte : UInt8 × Nat) : UInt8 :=
  if byte.2 = 6 then (byte.1 &&& 0x0f) ||| 0x40
  else if byte.2 = 8 then (byte.1 &&& 0x3f) ||| 0x80
  else byte.1

/-- A name for the run, made of random bytes. -/
def runId : IO String := do
  let bytes ← IO.getRandomBytes 16
  let digits := (bytes.toList.zipIdx.map marked).flatMap fun byte =>
    [Nat.digitChar (byte.toNat / 16), Nat.digitChar (byte.toNat % 16)]
  let part (start size : Nat) := String.ofList ((digits.drop start).take size)
  return "-".intercalate [part 0 8, part 8 4, part 12 4, part 16 4, part 20 12]

end OffHours.Main

/-- Run the program, print what it shows, and return its exit code. -/
def main (arguments : List String) : IO UInt32 := do
  let environment ← Main.environment
  let surroundings : Surroundings Unit :=
    { environment
      files := ← Main.files environment arguments
      server := Http.unreachable
      relay := .offline
      runId := ← Main.runId
      now := ← Main.now }
  let ending := Program.run surroundings arguments ⟨(), []⟩
  for entry in ending.log do
    if entry.level ≠ .debug then IO.println entry.line
  IO.print ending.output
  IO.eprint ending.errors
  return UInt32.ofNat ending.code
