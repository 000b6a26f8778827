import LeasePlan.Command.Run

open LeasePlan

/-- The variables that settings come from, as far as they are set. -/
def readEnvironment : IO Environment :=
  [Settings.verboseVariable, Settings.jsonLogsVariable, Settings.configFileVariable].filterMapM
    fun name => do return (← IO.getEnv name).map fun value => (name, value)

/-- A tree with the one file that is read, if there is such a file. -/
def readTree (path : Option Path) : IO FileTree := do
  match path with
  | none => return ⟨[]⟩
  | some p =>
    try
      return ⟨[(p, .bytes (← IO.FS.readBinFile p.text).toList)]⟩
    catch
      | .inappropriateType .. => return ⟨[(p, .directory)]⟩
      | _ => return ⟨[]⟩

/-- A console as wide as it is said to be; the parameters of handlers are not evaluated. -/
def readConsole : IO Console := do
  let columns := (← IO.getEnv "COLUMNS").bind String.toNat?
  return ⟨columns.getD 80, fun _ => none⟩

def main (arguments : List String) : IO UInt32 := do
  let request := Request.ofArguments arguments
  let env ← readEnvironment
  let files ← readTree (request.file? env)
  match request.run (← readConsole) files env with
  | .ok o =>
    IO.print o.output
    return o.exit.toUInt32
  | .error e =>
    IO.eprintln e.message.lossy
    return 1
