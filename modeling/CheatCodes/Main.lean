import CheatCodes.Command.Run
/-!
The program: it reads the configuration file that its arguments name, runs and ends.
-/
open CheatCodes CheatCodes.Command

def readContents (path : String) : IO (Except FileError ByteArray) := do
  try
    return .ok (← IO.FS.readBinFile path)
  catch
    | .noFileOrDirectory .. => return .error .notFound
    | .inappropriateType _ 20 _ => return .error .notDirectory
    | .inappropriateType _ 21 _ => return .error .isDirectory
    | .invalidArgument _ 36 _ => return .error .nameTooLong
    | e => return .error (.refused (toString e))

def main (line : List String) : IO UInt32 := do
  let contents ←
    match Arguments.read line with
    | .ok { config := some path, .. } => readContents path
    | _ => pure (.error .notFound)
  let outcome := run line fun _ => contents
  IO.print outcome.output
  IO.eprint outcome.errors
  return outcome.code.toUInt32
