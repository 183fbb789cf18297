import PayBridge.Watch.Command

/-! The program around the command: it reads the environment and the files, prints, and lets time pass.
It has no connection to a node. Every lookup fails, so a watch ends when its looks are used up. -/
namespace PayBridge.Main

open PayBridge.Watch

def readEnvironment : IO Environment := do
  try
    let bytes ← IO.FS.readBinFile "/proc/self/environ"
    let text := (String.fromUTF8? bytes).getD ""
    pure ((Text.pieces '\x00' text.toList).filterMap fun entry =>
      (Text.cutAt? '=' entry).map fun (name, value) => (String.ofList name, String.ofList value))
  catch _ => pure []

def readFile (path : String) : IO FileState := do
  try
    let bytes ← IO.FS.readBinFile path
    pure (.content bytes.toList)
  catch
    | .noFileOrDirectory .. => pure .absent
    | .inappropriateType .. => pure .directory
    | reason => pure (.unreadable (toString reason))

def readVariables (environment : Environment) : IO Environment := do
  match ← readFile ".env" with
  | .content bytes =>
    pure (((Text.ofUtf8? bytes).map fun text =>
      VariableFile.load environment (String.ofList text)).getD environment)
  | _ => pure environment

def pause (duration : Nat) : IO Unit := IO.sleep (min duration (2 ^ 32 - 1)).toUInt32

/-- A ledger that nobody can ask. -/
def unreachable : Source := fun _ => ⟨0, .page (.failure "no connection to the node")⟩

partial def follow (now asked : Nat) (loop : PollLoop) : IO Outcome := do
  pause (loop.stage.due - now)
  let step := loop.fire unreachable asked
  match step.effects.findSome? outcomeOf?, step.loop with
  | some (outcome, _), _ => pure outcome
  | none, some next => follow (max now loop.stage.due) step.asked next
  | none, none => pure .cancelled

def run (arguments : List String) : IO Nat := do
  let environment ← readVariables (← readEnvironment)
  let random ← IO.rand 0 (2 ^ 64 - 1)
  let file ← match Arguments.read environment arguments with
    | .ok arguments => readFile arguments.config
    | .error _ => pure .absent
  let invocation : Invocation := ⟨arguments, environment, fun _ => file, random⟩
  match invocation.plan with
  | .error cause =>
    IO.print (cause.text environment)
    if cause.exitStatus = 2 then
      IO.eprintln "error: the arguments cannot be read; try '--help'"
    if invocation.verbosity.shows .error then
      for message in cause.message? do
        IO.eprintln ("paylink-watch failed: " ++ message)
    pure cause.exitStatus
  | .ok plan =>
    IO.print plan.text
    (← IO.getStdout).flush
    let outcome ← follow 0 0 (PollLoop.start 0 plan.request.memo plan.config.schedule)
    pure outcome.exitStatus

end PayBridge.Main

def main (arguments : List String) : IO UInt32 := do
  pure (← PayBridge.Main.run arguments).toUInt32
