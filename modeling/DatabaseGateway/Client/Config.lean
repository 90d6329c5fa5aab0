import DatabaseGateway.Client.Error
import DatabaseGateway.Config.Connect
import DatabaseGateway.Text.Numeral

/-!
The settings of a client, as an application writes them or as its environment gives them. They are
checked in full before the host is called.
-/

namespace DatabaseGateway.Client

structure ClientConfig where
  host : String
  /-- The protocol's own port unless given. -/
  port : Option UInt16 := none
  database : String
  username : String
  password : Option String := none
  protocol : Protocol := .postgres
  poolSize : Option UInt32 := none
  deriving DecidableEq, Repr, Inhabited

def variablePrefix : String := "WARPGRID_DB_"

namespace ClientConfig

def fieldNames : List String :=
  ["host", "port", "database", "username", "password", "protocol", "pool_size"]

def ofDocument? (d : Document) : Option ClientConfig := do
  let field ← d.fields? fieldNames 0
  return {
    host := ← (← field "host").text?
    port := ← Document.optional? Document.word16? (field "port")
    database := ← (← field "database").text?
    username := ← (← field "username").text?
    password := ← Document.optional? Document.text? (field "password")
    protocol := ← Document.withDefault? Protocol.ofDocument? .postgres (field "protocol")
    poolSize := ← Document.optional? Document.word32? (field "pool_size") }

def toDocument (c : ClientConfig) : Document :=
  .table [
    ("host", .text c.host), ("port", .ofOption (fun n => .natural n.toNat) c.port),
    ("database", .text c.database), ("username", .text c.username),
    ("password", .ofOption .text c.password), ("protocol", .text c.protocol.name),
    ("pool_size", .ofOption (fun n => .natural n.toNat) c.poolSize)]

def refused (detail : String) : ClientError := ⟨.connect, .host (.invalidConfig detail)⟩

/-- A number among the variables, with blanks allowed around it. -/
def number? (bound : Nat) (text : String) : Option Nat :=
  Text.unsigned? bound (Text.trim text.toList)

/-- Reads the settings from variables. `NAME` and `USER` stand in for `DATABASE` and `USERNAME`.
Nothing is checked here but the protocol and the numbers. -/
def ofVariables (bindings : List (String × String)) : Except ClientError ClientConfig := do
  let get := fun name => bindings.lookup (variablePrefix ++ name)
  let protocol ← match get "PROTOCOL" with
    | none => pure .postgres
    | some text => (Protocol.parse text).mapError fun e => ⟨.connect, .host e⟩
  let port ← match get "PORT" with
    | none => pure none
    | some text =>
      match number? UInt16.size text with
      | some n => pure (some (UInt16.ofNat n))
      | none => throw (refused s!"port '{text}' is not a number in 1..=65535")
  let poolSize ← match get "POOL_SIZE" with
    | none => pure none
    | some text =>
      match number? UInt32.size text with
      | some n => pure (some (UInt32.ofNat n))
      | none => throw (refused s!"pool size '{text}' is not a number")
  return {
    host := (get "HOST").getD ""
    port
    database := ((get "DATABASE").or (get "NAME")).getD ""
    username := ((get "USERNAME").or (get "USER")).getD ""
    password := get "PASSWORD"
    protocol
    poolSize }

/-- Reads the settings from a process environment, of which only the gateway's variables count. -/
def ofEnvironment (bindings : List (String × String)) : Except ClientError ClientConfig :=
  ofVariables (bindings.filter fun (name, _) => variablePrefix.isPrefixOf name)

def request (c : ClientConfig) : ConnectConfig where
  protocol := c.protocol
  host := c.host
  port := c.port.getD c.protocol.defaultPort
  database := c.database
  user := c.username
  password := c.password
  poolSize := c.poolSize.getD defaultPoolSize

def toConnectConfig (c : ClientConfig) : Except ClientError ConnectConfig :=
  match c.request.validate with
  | .ok _ => .ok c.request
  | .error e => .error ⟨.connect, .host e⟩

/-- The settings as diagnostics show them, without the password. -/
def summary (c : ClientConfig) : String :=
  let number := Text.optional (fun n : Nat => toString n)
  Text.record "DbConfig" [
    ("host", Text.quoted c.host), ("port", number (c.port.map UInt16.toNat)),
    ("database", Text.quoted c.database), ("username", Text.quoted c.username),
    ("password", Text.redacted c.password), ("protocol", c.protocol.label),
    ("pool_size", number (c.poolSize.map UInt32.toNat))] false

end ClientConfig

end DatabaseGateway.Client
