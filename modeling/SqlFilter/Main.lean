import SqlFilter.Command.Run

set_option autoImplicit false

/-! # The command

The outermost layer: it fetches the bytes that a run reads and writes the texts that the run leaves
behind.
-/

namespace SqlFilter

/-- All bytes of a stream that are left, after those read so far. -/
partial def readRest (stream : IO.FS.Stream) (before : ByteArray) : IO ByteArray := do
  let chunk ← stream.read 65536
  if chunk.isEmpty then
    return before
  else
    readRest stream (before ++ chunk)

/-- The reason for an error of the system. -/
def reasonOf : IO.Error → FileError
  | .noFileOrDirectory .. => .notFound
  | .inappropriateType none _ _ => .isDirectory
  | .inappropriateType (some _) _ _ => .notDirectory
  | .invalidArgument (some _) _ _ => .nameTooLong
  | e => .other (toString e)

/-- The bytes of the source of a run. -/
def fetch (settings : Settings) : IO (Except FileError ByteArray) :=
  try
    match settings.input with
    | some path => return .ok (← IO.FS.readBinFile path)
    | none => return .ok (← readRest (← IO.getStdin) .empty)
  catch e =>
    return .error (reasonOf e)

end SqlFilter

open SqlFilter in
/-- Runs the command with the given arguments. -/
def main (arguments : List String) : IO UInt32 := do
  let outcome ←
    match Request.ofArguments arguments with
    | .ok (.run settings) => do
      let spec ← IO.getEnv "RUST_LOG"
      let source ← fetch settings
      pure (settings.run spec source)
    | _ => pure (runCommand arguments ⟨.empty, fun _ => .error .notFound, none⟩)
  (← IO.getStdout).putStr outcome.stdout
  (← IO.getStderr).putStr outcome.stderr
  return UInt32.ofNat outcome.exit
