import LeasePlan.Document.Scalar
import LeasePlan.Fault.Failure
import LeasePlan.File.Path
import LeasePlan.Text.LowerCase

namespace LeasePlan

abbrev Environment := List (String × String)

def Environment.lookup? (env : Environment) (name : String) : Option String :=
  (env.reverse.find? fun v => v.1.toList.map Text.lower = name.toList.map Text.lower).map Prod.snd

structure Settings where
  verbose : Bool
  jsonLogs : Bool
  configFile : Option Path
deriving DecidableEq

namespace Settings

def verboseVariable : String := "DHCP_TOPO_VERBOSE"

def jsonLogsVariable : String := "DHCP_TOPO_JSON_LOGS"

def configFileVariable : String := "DHCP_TOPO_CONFIG_FILE"

/-- A truth value for a field, false where its variable is not set. -/
def flag (env : Environment) (field variableName : String) : Checked Bool :=
  match env.lookup? variableName with
  | none => .ok false
  | some s => (Data.text s).readBool.under field

def read (env : Environment) : Checked Settings :=
  (Checked.both (flag env "verbose" verboseVariable)
      (flag env "json_logs" jsonLogsVariable)).map fun (verbose, jsonLogs) =>
    { verbose, jsonLogs, configFile := (env.lookup? configFileVariable).map Path.ofString }

def ofEnvironment (env : Environment) : Except Failure Settings := Failure.ofChecked (read env)

end Settings

end LeasePlan
