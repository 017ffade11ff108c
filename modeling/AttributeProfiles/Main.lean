import AttributeProfiles.CommandLine.Run

/-!
# The program

The outermost layer reads the files that an invocation names and the standard input, and leaves
everything else to the command line's pure functions.
-/

namespace AttributeProfiles

/-- Why the operating system does not give the content of a file. -/
def ReadFault.ofFailure : IO.Error → ReadFault
  | .noFileOrDirectory .. => .missing
  | .inappropriateType _ 21 _ => .isADirectory
  | .inappropriateType .. => .notADirectory
  | .permissionDenied .. => .refused "Permission denied (os error 13)"
  | failure => .refused failure.toString

def readFile (path : String) : IO (Except ReadFault ByteArray) := do
  match ← (IO.FS.readBinFile path).toBaseIO with
  | .ok content => pure (.ok content)
  | .error failure => pure (.error (ReadFault.ofFailure failure))

namespace CommandLine

def Command.input? : Command → Option String
  | .toInternal _ input | .fromInternal _ input => some input
  | _ => none

def gatherFiles (i : Invocation) : IO Files := do
  let names := i.config :: i.command.input?.toList.filter (· ≠ "-")
  let contents ← names.mapM fun name => do pure (name, ← readFile name)
  pure fun path => (contents.lookup path).getD (.error .missing)

def gatherInput (i : Invocation) : IO (Except ReadFault ByteArray) := do
  if i.command.input? = some "-" then
    let content ← (← IO.getStdin).readBinToEnd
    pure (.ok content)
  else pure (.ok .empty)

end CommandLine

end AttributeProfiles

open AttributeProfiles AttributeProfiles.CommandLine in
def main (arguments : List String) : IO UInt32 := do
  let outcome ← match request? arguments with
    | some (.run invocation) => do
      pure (invocation.run (← gatherFiles invocation) (← gatherInput invocation))
    | _ => pure (run arguments (fun _ => .error .missing) (.ok .empty))
  (← IO.getStdout).putStr outcome.output
  (← IO.getStderr).putStr outcome.errorOutput
  pure outcome.exitCode.toUInt32
