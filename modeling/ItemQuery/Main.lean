import ItemQuery.Command.Run

/-! The command line program.

Queries go to the standard output, log lines to the standard error, diagnostic ones only
when asked for. There is no transport for fetching prices here, so requests fail.
-/

set_option autoImplicit false

namespace ItemQuery

def FileError.ofError : IO.Error → FileError
  | .noFileOrDirectory .. => .notFound
  | .inappropriateType _ code _ => if code = 21 then .isDirectory else .notDirectory
  | .invalidArgument _ code _ => if code = 22 then .nulInPath else .nameTooLong
  | cause => .other cause.toString

def readFileText (path : String) : IO (Except FileError String) := do
  try
    let bytes ← IO.FS.readBinFile path
    match String.fromUTF8? bytes with
    | some text => return .ok text
    | none => return .error .notText
  catch cause => return .error (.ofError cause)

def isFilePresent (path : String) : IO Bool := do
  try
    discard (IO.FS.Handle.mk path .read)
    return true
  catch _ => return false

def machine (diagnostics : Bool) : Host IO where
  readText := readFileText
  isPresent := isFilePresent
  send _ := pure none
  environment? name := IO.getEnv name
  log line :=
    if line.level.isDiagnostic && !diagnostics then pure ()
    else IO.eprintln (line.level.label ++ " " ++ line.text)

end ItemQuery

def main (arguments : List String) : IO UInt32 := do
  let diagnostics := (← IO.getEnv "ITEM_QUERY_TRACE").isSome
  let exit ← ItemQuery.Command.execute (ItemQuery.machine diagnostics) arguments
  IO.print exit.output
  return UInt32.ofNat exit.code
