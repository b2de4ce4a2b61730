import LineBasic.CommandLine.Session

/-!
# The command

Connects a session with the standard streams, the environment and the file
system. A run is taken turn by turn, so that everything written appears before
the program waits for input.
-/

namespace LineBasic.CommandLine

/-- The number of a fault that the system reported, which may come negated. -/
def faultNumber (code : UInt32) : UInt32 := if code < 0x80000000 then code else 0 - code

/-- The contents of a file on disk. -/
def readFromDisk (path : String) : IO (Except ReadFault (List UInt8)) := do
  if path.toList.contains '\x00' then return .error .nulInName
  try
    return .ok (← IO.FS.readBinFile path).toList
  catch
    | .noFileOrDirectory .. => return .error .notFound
    | .inappropriateType _ code _ =>
      return .error (if faultNumber code = 20 then .notFolder else .isFolder)
    | .invalidArgument _ code _ =>
      return .error (if faultNumber code = 36 then .nameTooLong
        else .other "Invalid argument (os error 22)")
    | .permissionDenied .. => return .error (.other "Permission denied (os error 13)")
    | fault => return .error (.other (toString fault))

/-- The bytes of the next line of a stream, its line feed included. -/
partial def arrivingLine (stream : IO.FS.Stream) (soFar : List UInt8) : IO (List UInt8) := do
  match (← stream.read 1).toList with
  | [byte] =>
    if byte == Terminal.lineFeed then return (byte :: soFar).reverse
    else arrivingLine stream (byte :: soFar)
  | _ => return soFar.reverse

/-- Takes turns until the run ends. `shown` is how much of what the next turn
writes has been shown already: a turn that had to wait for input is taken again
once the input is there, and writes the same prompt again. -/
partial def converse (p : Program) (config : Config) (filter : LogFilter)
    (machine : Machine Terminal) (turn : Turn) (shown : Nat) : IO UInt32 := do
  let (input, output, errors) := (← IO.getStdin, ← IO.getStdout, ← IO.getStderr)
  let console := turn.machine.console
  output.putStr (String.ofList (console.output.toList.drop shown))
  if console.starved then
    output.flush
    let line ← arrivingLine input []
    let fed : Terminal := { machine.console with input := line, closed := line.isEmpty }
    let machine := { machine with console := fed }
    converse p config filter machine (Turn.next p config machine) console.output.length
  else
    errors.putStr (filter.render turn.events)
    match turn.ending with
    | some (.ok _) => return 0
    | some (.error failure) =>
      errors.putStr (runFailureText failure (turn.machine.lineNumber p))
      return failureCode
    | none =>
      let machine := { turn.machine with console := { console with output := "" } }
      converse p config filter machine (Turn.next p config machine) 0

def serve (file : String) (config : Config) (filter : LogFilter) : IO UInt32 := do
  let errors ← IO.getStderr
  match loadSource file (← readFromDisk file) with
  | .error failure =>
    errors.putStr (loadFailureText failure)
    return failureCode
  | .ok source =>
    errors.putStr (filter.render [.loaded file source.utf8ByteSize])
    let p := Program.ofString source
    let machine : Machine Terminal := { console := { closed := false } }
    converse p config filter machine (Turn.first p config machine) 0

end LineBasic.CommandLine

open LineBasic.CommandLine in
def main (arguments : List String) : IO UInt32 := do
  match request? arguments with
  | none =>
    IO.eprintln "Usage: small-basic [OPTIONS] <FILE>"
    return refusalCode
  | some .help =>
    IO.print helpText
    return 0
  | some .version =>
    IO.print versionText
    return 0
  | some (.run file config trace) =>
    serve file config (logFilter trace (← IO.getEnv "RUST_LOG"))
