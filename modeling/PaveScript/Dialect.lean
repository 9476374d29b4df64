import PaveScript.Script
import PaveScript.Smt.Command

/-!
# Dialects

The two languages that an input can be written in, under one reading function.
-/

namespace PaveScript

/-- The language of an input. -/
inductive Dialect where
  /-- Statements; approximate numbers are accepted only when safe input is off. -/
  | statements (safe : Bool)
  /-- Commands in parentheses. -/
  | smt
deriving DecidableEq, Inhabited

namespace Dialect

/-- What an input consists of. -/
inductive Item where
  | statement (s : Statement)
  | command (c : Smt.Command)
deriving DecidableEq, Inhabited

/-- The item as a document. -/
def Item.json : Item → Json
  | statement s => s.json
  | command c => c.json

/-- The statement that an item is, if it is one. -/
def Item.statement? : Item → Option Statement
  | statement s => some s
  | command _ => none

/-- The name of a dialect. -/
def name : Dialect → String
  | statements _ => "kodiak"
  | smt => "smt"

/-- Reads a whole input. The first error of any kind fails it. -/
def read [Text.Normalizer] (dialect : Dialect) (text : String) : Except Error (List Item) :=
  match dialect with
  | statements safe => ((Script.ofText text).readAll safe).1.map (·.map .statement)
  | smt => (Smt.readAll text).map (·.map .command)

/-- What a trace tells about reading an input. -/
def trace [Text.Normalizer] (dialect : Dialect) (text : String) : List String :=
  match dialect with
  | statements safe =>
    let script := Script.ofText text
    if !script.pending.isEmpty then script.scan.trace
    else
      match script.readAll safe with
      | (.ok _, _) => script.scan.trace
      | (.error _, rest) => script.scan.trace ++ [rest.resyncTrace]
  | smt => []

end Dialect

end PaveScript
