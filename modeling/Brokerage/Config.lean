import Brokerage.Wire.ToJson
import Brokerage.Wire.OfJson

/-!
# Configuration

* `Config`: where a broker listens, and what it asks of its platforms.
* `Config.load`: the configuration that variables give; what is not given has a default.
* `Config.toVariables`: variables that give a configuration.
-/

namespace Brokerage

open Wire (Shape Message)

/-- The configuration of a broker. -/
structure Config where
  host : String := "0.0.0.0"
  port : UInt16 := 8080
  logLevel : String := "info"
  /-- The version of the protocol that platforms have to speak, `*` for any. -/
  apiVersion : String := "*"
  /-- Where metrics are served, if they are. -/
  metricsAddress : Option Net.SocketAddress := none
deriving DecidableEq, Repr

/-- A variable whose value is of no use. -/
structure ConfigFault where
  name : String
  value : String
deriving DecidableEq, Repr

/-- The words for a fault. -/
def ConfigFault.message (f : ConfigFault) : String :=
  "Invalid value for " ++ f.name ++ ": " ++ f.value

namespace Config

/-- The names of the variables. -/
def hostVariable : String := "BROKER_HOST"

@[inherit_doc hostVariable]
def portVariable : String := "BROKER_PORT"

@[inherit_doc hostVariable]
def logLevelVariable : String := "BROKER_LOG_LEVEL"

@[inherit_doc hostVariable]
def apiVersionVariable : String := "BROKER_API_VERSION"

@[inherit_doc hostVariable]
def metricsVariable : String := "BROKER_METRICS_ADDR"

/-- The port that decimal digits write, perhaps behind a plus sign. -/
def parsePort? (s : String) : Option UInt16 :=
  let digits := match s.toList with
    | '+' :: rest => rest
    | cs => cs
  match Net.SocketAddress.number 10 65536 none digits with
  | some (n, []) => some (.ofNat n)
  | _ => none

/-- Reads a variable that may be missing. -/
def readVariable (lookup : String → Option String) (name : String) (blank : α)
    (parse : String → Option α) : Except ConfigFault α :=
  match lookup name with
  | none => .ok blank
  | some value =>
    match parse value with
    | some a => .ok a
    | none => .error ⟨name, value⟩

/-- **The configuration that variables give.** Any text is a host, a level or a version. -/
def load (lookup : String → Option String) : Except ConfigFault Config :=
  match readVariable lookup portVariable 8080 parsePort? with
  | .error e => .error e
  | .ok port =>
    match readVariable lookup metricsVariable none
        (fun s => (Net.SocketAddress.parse? s).map some) with
    | .error e => .error e
    | .ok metricsAddress =>
      .ok {
        host := (lookup hostVariable).getD "0.0.0.0"
        port
        logLevel := (lookup logLevelVariable).getD "info"
        apiVersion := (lookup apiVersionVariable).getD "*"
        metricsAddress }

/-- Variables that give the configuration. -/
def toVariables (c : Config) : List (String × String) :=
  [(hostVariable, c.host), (portVariable, toString c.port.toNat), (logLevelVariable, c.logLevel),
    (apiVersionVariable, c.apiVersion)] ++
    (match c.metricsAddress with
      | some a => [(metricsVariable, a.render)]
      | none => [])

/-- Where the broker listens. -/
def bindAddress (c : Config) : String := c.host ++ ":" ++ toString c.port.toNat

end Config

instance : Message Config where
  shape := .record "BrokerConfig" <|
    .cons "host" .text .required <|
    .cons "port" .port .required <|
    .cons "log_level" .text .required <|
    .cons "api_version" .text .required <|
    .cons "metrics_addr" (.optional .address) .required .nil
  ofValue := fun (host, port, logLevel, apiVersion, metricsAddress, _) =>
    ⟨host, port, logLevel, apiVersion, metricsAddress⟩
  toValue := fun c => (c.host, c.port, c.logLevel, c.apiVersion, c.metricsAddress, ())

end Brokerage
