import WireSketch.Command.Run

/-! The command on the files and streams of the system. -/
namespace WireSketch

open Command

def faultOf (e : IO.Error) : FileFault :=
  match e with
  | .noFileOrDirectory .. | .noSuchThing .. => .notFound
  | .inappropriateType _ n words => ⟨n.toNat, words⟩
  | .permissionDenied _ n words => ⟨n.toNat, words⟩
  | .invalidArgument _ n words => ⟨n.toNat, words⟩
  | .resourceExhausted _ n words => ⟨n.toNat, words⟩
  | e => ⟨5, toString e⟩

def attempt {α : Type} (action : IO α) : IO (Except FileFault α) := do
  try
    return .ok (← action)
  catch e =>
    return .error (faultOf e)

partial def readAll (stream : IO.FS.Stream) (taken : ByteArray) : IO ByteArray := do
  let bytes ← stream.read 65536
  if bytes.isEmpty then return taken else readAll stream (taken ++ bytes)

/-- A rough measure that reads no fonts: each character is half as wide as the size of the text. -/
def roughGauge : Gauge where
  State := Unit
  start := ()
  measure text size _ := do return Float.ofNat text.length * (← (size.toFloat : Except Fault Float)) * 0.5

/-- The files and the standard streams of the system. -/
def systemHost : Host IO where
  isTerminal := do (← IO.getStdin).isTty
  readInput := do readAll (← IO.getStdin) .empty
  readFile path := attempt (IO.FS.readBinFile path)
  writeFile path content := attempt (IO.FS.writeBinFile path content)
  gauge := roughGauge

end WireSketch

open WireSketch in
def main (args : List String) : IO UInt32 := do
  let debug := (← IO.getEnv "BYTEFIELD_DEBUG") == some "1"
  let reply ← Command.run systemHost debug args
  (← IO.getStdout).write reply.output
  let errors ← IO.getStderr
  errors.putStr reply.errors
  if let some p := reply.details then errors.putStrLn (toString (repr p))
  return reply.status.toUInt32
