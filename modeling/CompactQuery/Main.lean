import CompactQuery.Command.Needs

/-!
# The command line

Gathers the surroundings of a run, prints its outcome and answers with its status. Files are read
before the run, as far as it may ask for them, and the input only for a run that gets that far.
-/

namespace CompactQuery.Command

/-- Why the system refuses to read something, from the number of its error, which may come with a
minus sign, and the words for it. -/
def refusal (code : UInt32) (details : String) : ReadFailure :=
  match code.toInt32.toInt.natAbs with
  | 2 => .missing
  | 13 => .denied
  | 20 => .notFolder
  | 21 => .folder
  | 36 => .nameTooLong
  | n => .other (details ++ " (os error " ++ Nat.repr n ++ ")")

/-- Why something cannot be read. -/
def readFailure : IO.Error → ReadFailure
  | .noFileOrDirectory _ code details => refusal code details
  | .invalidArgument _ code details => refusal code details
  | .permissionDenied _ code details => refusal code details
  | .resourceExhausted _ code details => refusal code details
  | .inappropriateType _ code details => refusal code details
  | .noSuchThing _ code details => refusal code details
  | .illegalOperation code details => refusal code details
  | .hardwareFault code details => refusal code details
  | .otherError code details => refusal code details
  | error => .other (toString error)

/-- A reading, with its failure as a value. -/
def attempt (reading : IO ByteArray) : IO (Except ReadFailure ByteArray) := do
  try
    pure (.ok (← reading))
  catch error => pure (.error (readFailure error))

/-- Whether anything is found at a path. A link that leads nowhere is nothing, and so is what lies
behind a folder that may not be searched. -/
def isFound (path : Path) : IO Bool := do
  try
    let _ ← IO.FS.realPath path.text
    pure true
  catch _ => pure false

/-- All that is left to read of a stream. -/
partial def readAll (stream : IO.FS.Stream) (sofar : ByteArray) : IO ByteArray := do
  let more ← stream.read 65536
  if more.isEmpty then pure sofar else readAll stream (sofar ++ more)

/-- The values of the variables that matter. What the system has on record of its users is not
looked up. -/
def environment : IO Environment := do
  let pairs ← Environment.names.filterMapM fun name => do
    pure ((← IO.getEnv name).map fun value => (name, value))
  pure (.ofPairs pairs)

/-- The surroundings of a run with these arguments. -/
def surroundings (arguments : List String) : IO Surroundings := do
  let environment ← environment
  let terminal ← (← IO.getStdout).isTty
  match Invocation.ofArguments? environment.settings arguments with
  | .error _ => pure (.ofFiles environment terminal (.ok .empty) [])
  | .ok invocation =>
    let files ← (invocation.paths environment).mapM fun path => do
      pure (path, ← attempt (IO.FS.readBinFile path.text))
    let found ← (usualSettings environment).filterM isFound
    let here := { Surroundings.ofFiles environment terminal (.ok .empty) files with
      holds := fun path => path ∈ found }
    if invocation.readsInput here then
      pure { here with input := ← attempt (readAll (← IO.getStdin) .empty) }
    else pure here

/-- Runs the program where it stands, and answers with the status. -/
def runHere (arguments : List String) : IO UInt32 := do
  let outcome := run (← surroundings arguments) arguments
  (← IO.getStderr).putStr outcome.messages
  (← IO.getStdout).putStr outcome.output
  pure (.ofNat outcome.status)

end CompactQuery.Command

/-- The entry point. -/
def main (arguments : List String) : IO UInt32 := CompactQuery.Command.runHere arguments
