import PlayScaffold.CommandLine.Outcome

/-!
# The program

Answers the questions of a run from the disk, prints what the run prints, and turns failures into
exit codes: that of the failure where a command fails, 2 where the command line is used wrongly.
-/

namespace PlayScaffold

/-- The number of a system error, which may come negated. -/
def errorNumber (code : UInt32) : Nat := min code.toNat (0 - code).toNat

/-- The fault behind a system error. -/
def faultOf : IO.Error → FileFault
  | .noFileOrDirectory _ code reason | .permissionDenied _ code reason
  | .inappropriateType _ code reason | .otherError code reason =>
    .ofCode (errorNumber code) reason
  | e => .other (toString e) 0

def readFromDisk (path : String) : IO Contents := do
  match ← (IO.FS.readBinFile path).toBaseIO with
  | .ok bytes => return .ok bytes
  | .error e => return .error (faultOf e)

/-- The files below a directory on the disk, by their paths from there. -/
partial def filesOnDisk (directory start : String) : IO (List (String × Contents)) := do
  match ← (do (← IO.FS.realPath directory).readDir).toBaseIO with
  | .error _ => return []
  | .ok found =>
    let files ← found.toList.mapM fun e => do
      let path := directory ++ "/" ++ e.fileName
      if ← e.path.isDir then filesOnDisk path (start ++ e.fileName ++ "/")
      else return [(start ++ e.fileName, ← readFromDisk path)]
    return files.flatten

def disk : Files IO := ⟨readFromDisk, (filesOnDisk · "")⟩

end PlayScaffold

open PlayScaffold in
def main (args : List String) : IO UInt32 := do
  let stdout ← IO.getStdout
  let stderr ← IO.getStderr
  match Request.parse? args with
  | none =>
    stderr.putStr (Request.unlines Request.generalHelp)
    return 2
  | some request =>
    match ← (request.run disk).run with
    | .ok text =>
      stdout.putStr text
      return 0
    | .error failure =>
      match failure.context? with
      | some context =>
        stderr.putStr ("Error: " ++ context ++ "\n\nCaused by:\n    " ++ failure.cause ++ "\n")
      | none => stderr.putStr (failure.cause ++ "\n")
      return UInt32.ofNat failure.exitCode
