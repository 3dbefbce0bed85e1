import Signoff.Settings.Basic
import Signoff.Wire.Basic

namespace Signoff.Wire

/-- Variables are texts. -/
def variables? (json : Json) : Option (List (String × String)) :=
  json.object?.bind fun members => members.mapM fun (name, value) =>
    value.string?.map fun text => (name, text)

def writeSettings (settings : Settings) : Json :=
  .object [
    ("database", .object [
      ("url", .string settings.databaseUrl),
      ("max_connections", .ofNat settings.maxConnections),
      ("min_connections", .ofNat settings.minConnections)]),
    ("workflow", .object [("event_buffer", .ofNat settings.eventBuffer)]),
    ("logging", .object [("filter", .string settings.logFilter)])]

end Signoff.Wire
