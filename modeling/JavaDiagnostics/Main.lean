import JavaDiagnostics.Command

set_option autoImplicit false

open JavaDiagnostics

def readSettings (path : String) : IO (Option ByteArray) := do
  try
    return some (← IO.FS.readBinFile path)
  catch _ =>
    return none

def main (arguments : List String) : IO UInt32 := do
  let invocation := Command.Invocation.read arguments
  let content ← match invocation.settingsPath? with
    | some path => readSettings path
    | none => pure none
  let result := invocation.result content
  IO.print result.output
  IO.eprint result.complaint
  return result.exit
