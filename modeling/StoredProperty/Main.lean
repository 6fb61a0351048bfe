import StoredProperty.Log.Output
import StoredProperty.Program

/-!
The settings program: its argument is the user who signs in; the variables `STOWAGE_LOG` and `STOWAGE_LOG_FORMAT` give
the filter and the format of the log.
-/

open StoredProperty

def main (args : List String) : IO UInt32 := do
  let env : Program.Environment :=
    { filter := ← IO.getEnv "STOWAGE_LOG", format := ← IO.getEnv "STOWAGE_LOG_FORMAT" }
  let outcome := Program.run env args
  for line in outcome.lines do
    IO.println (line.output (Program.config env).format)
  return outcome.status
