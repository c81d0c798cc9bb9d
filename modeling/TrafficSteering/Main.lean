import TrafficSteering.CommandLine.Outcome

open TrafficSteering CommandLine

def fileFault : IO.Error → FileFault
  | .noFileOrDirectory _ _ _ => .absent
  | .inappropriateType _ 21 _ => .isDirectory
  | .inappropriateType _ _ _ => .notDirectory
  | .permissionDenied _ _ _ => .denied
  | e => .other (toString e)

def readFile (name : String) : IO (Except FileFault String) := do
  try
    let bytes ← IO.FS.readBinFile name
    match String.fromUTF8? bytes with
    | some text => return .ok text
    | none => return .error .notText
  catch e => return .error (fileFault e)

def readEnvironment : IO Invocation.Environment := do
  let found ← Invocation.variableNames.mapM fun name ↦ do
    return (← IO.getEnv name).map (name, ·)
  return found.filterMap id

def main (args : List String) : IO UInt32 := do
  let env ← readEnvironment
  let file ← match (Invocation.parse env args).bind Invocation.file with
    | some name => readFile name
    | none => pure (.error .absent)
  let surroundings : Surroundings Unit :=
    { fileContent := fun _ ↦ file, ids := numberedId, peer := .unreachable, start := () }
  let outcome := run surroundings env args
  IO.print outcome.printed
  match outcome.failure with
  | some failure => IO.eprintln failure.text
  | none => pure ()
  return outcome.exitCode.toUInt32
