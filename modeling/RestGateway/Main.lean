import RestGateway.Relay
import RestGateway.ServeCommand
import Std.Time.DateTime.Timestamp

/-!
# The program

`serve` starts the server and `call` makes a call. Both talk to the network through the lines of
their standard input and output.
-/
namespace RestGateway.Program

/-- The exit code when the server cannot count as many calls as it should let in. -/
def tooManyCalls : UInt32 := 101

def usage : String := "usage: serve [OPTIONS] | call [OPTIONS] <COMMAND>\n"

def fileProblem : IO.Error → Config.FileProblem
  | .noFileOrDirectory .. => .notFound
  | .inappropriateType .. => .isDirectory
  | .permissionDenied .. => .denied
  | e => .other e.toString

def readFile (path : String) : IO (Except Config.FileProblem (List UInt8)) := do
  if path.toList.contains '\x00' then return .error .nulInName
  try
    return .ok (← IO.FS.readBinFile path).toList
  catch e => return .error (fileProblem e)

def readLine : IO String := do (← IO.getStdin).getLine

def writeLine (line : String) : IO Unit := do
  let output ← IO.getStdout
  output.putStrLn line
  output.flush

/-- Answers requests until the input ends. -/
partial def answerAll (s : Server) : IO Unit := do
  let line ← readLine
  if line.isEmpty then return
  match Relay.inbound? line with
  | none => writeLine Relay.unreadableLine
  | some i =>
    let now ← Std.Time.Timestamp.now
    let fresh ← IO.getRandomBytes 16
    let turn := Relay.turn s now.toMillisecondsSinceUnixEpoch.val.toNat
      (RequestId.ofBytes fresh.toList) i
    let exchange ← match turn.message with
      | some m => do
        writeLine (Relay.sendLine m)
        pure (Relay.exchange (← readLine))
      | none => pure .unreachable
    writeLine (turn.finish exchange)
  answerAll s

def serve (args : List String) : IO UInt32 := do
  match ServeCommand.read args with
  | none =>
    IO.eprint usage
    return 2
  | some (.help h) =>
    IO.print h.text
    return 0
  | some (.act line) =>
    let contents ← match line.value? "config" with
      | some path => readFile path
      | none => pure (.error .notFound)
    match ServeCommand.start (fun _ => contents) line with
    | .error e =>
      IO.eprint e.output
      return 1
    | .ok (c, g) =>
      match Server.ofConfig? c g with
      | none => return tooManyCalls
      | some s =>
        answerAll s
        return 0

def call (args : List String) : IO UInt32 := do
  match CallCommand.read args with
  | none =>
    IO.eprint usage
    return 2
  | some (.help h) =>
    IO.print h.text
    return 0
  | some (.act parsed) =>
    let reply ← match CallCommand.sent parsed with
      | .error _ => pure none
      | .ok sent => do
        writeLine (Relay.callLine sent)
        pure (Relay.reply? (← readLine))
    let ending := CallCommand.run (fun _ => reply) parsed
    IO.print ending.output
    IO.eprint (ending.errorOutput "no answer")
    return UInt32.ofNat ending.exitCode

end RestGateway.Program

def main (args : List String) : IO UInt32 :=
  match args with
  | "serve" :: rest => RestGateway.Program.serve rest
  | "call" :: rest => RestGateway.Program.call rest
  | _ => do
    IO.eprint RestGateway.Program.usage
    return 2
