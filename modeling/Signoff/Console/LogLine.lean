import Signoff.Console.LogFilter
import Signoff.Text.Quoted

namespace Signoff.Console

/-- These are the parts of the program that write into the log. -/
inductive Source where
  | demo
  | schema
  | rules
  | expenses
deriving DecidableEq

def Source.name : Source → String
  | demo => "seeder"
  | schema => "sea_orm_migration::migrator"
  | rules => "spendflow_db::repositories::approval_rule"
  | expenses => "spendflow_db::repositories::workflow"

/-- The values of a line are shown texts under their names. -/
structure LogLine where
  level : Store.Level
  source : Source
  message : String
  values : List (String × String)
deriving DecidableEq

namespace LogLine

def writeValue (named : String × String) : String :=
  " " ++ named.1 ++ "=" ++ named.2

def write (line : LogLine) : String :=
  line.level.name ++ " " ++ line.source.name ++ ": " ++ line.message ++
    String.join (line.values.map writeValue)

def showValue : Store.Value → String
  | .number number => Numeral.writeInt number
  | .text text => text

/-- Rules and expenses have a source of their own. -/
def ofEntry (entry : Store.Entry) : LogLine where
  level := entry.level
  source := if entry.isAboutRules then .rules else .expenses
  message := entry.message
  values := entry.values.map fun (name, value) => (name, showValue value)

def ofDemo (message : String) (values : List (String × String)) : LogLine :=
  ⟨.info, .demo, message, values⟩

def ofSchema (message : String) : LogLine :=
  ⟨.info, .schema, message, []⟩

/-- The message is a field as well. -/
def fields (line : LogLine) : List String :=
  "message" :: line.values.map (·.1)

end LogLine

/-- These are the texts of the lines that a filter shows. -/
def LogFilter.shown (filter : LogFilter) (lines : List LogLine) : List String :=
  (lines.filter fun line => filter.shows line.level line.source.name line.fields).map
    LogLine.write

end Signoff.Console
