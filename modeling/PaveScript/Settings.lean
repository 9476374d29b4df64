import PaveScript.Json
import PaveScript.Statement.Json

/-!
# Settings

The settings of an engine. Those that a session starts with are also those that a reset comes back
to.
-/

namespace PaveScript

/-- The settings of an engine. -/
structure Settings where
  safeInput : Bool := true
  debug : Bool := false
  precision : Int := -1
  resolution : Double := Decimal.toDouble false ⟨1, -2⟩
  granularity : Double := .zero
  depth : Int := 0
  varSelect : Int := 1
  bp : Bool := false
  pavingMode : PavingMode := .std
  /-- The file that output goes to; the empty name is standard output. -/
  output : String := ""
deriving DecidableEq, Inhabited

def Settings.json (s : Settings) : Json :=
  .object [("safe_input", .bool s.safeInput), ("debug", .bool s.debug),
    ("precision", .int s.precision), ("resolution", .double s.resolution),
    ("granularity", .double s.granularity), ("depth", .int s.depth),
    ("var_select", .int s.varSelect), ("bp", .bool s.bp),
    ("paving_mode", .string s.pavingMode.name), ("output", .string s.output)]

end PaveScript
