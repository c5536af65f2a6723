-- SUMMARY: The command line as a program.
import BlockLang.CommandLine.Run

/-!
## The program

Reads the files that the command line names, and prints what `CommandLine.Request.run` says.
-/

namespace BlockLang.CommandLine

/-- The reason that an error of the operating system gives, without the path. -/
def failureReason : IO.Error → String
  | .noFileOrDirectory _ code details | .inappropriateType _ code details
  | .permissionDenied _ code details => details ++ " (os error " ++ toString code ++ ")"
  | error => toString error

def readFileContent (path : String) : IO FileContent := do
  match ← (IO.FS.Handle.mk path .read).toBaseIO with
  | .error error => return .unopened (failureReason error)
  | .ok handle =>
    match ← handle.readBinToEnd.toBaseIO with
    | .error error => return .unread (failureReason error)
    | .ok bytes => return .bytes bytes

end BlockLang.CommandLine

open BlockLang.CommandLine in
def main (words : List String) : IO UInt32 := do
  let request := Request.ofWords words
  let contents ← request.paths.mapM fun path => return (path, ← readFileContent path)
  let outcome := request.run fun path => (contents.lookup path).getD (.unopened "not read")
  IO.print outcome.stdout
  IO.eprint outcome.stderr
  return UInt32.ofNat outcome.exitCode
