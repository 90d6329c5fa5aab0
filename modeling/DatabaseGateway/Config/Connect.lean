import DatabaseGateway.Config.Protocol
import DatabaseGateway.Text.Blank
import DatabaseGateway.Text.Record

/-!
What a guest asks for when it connects, and the faults that are found before any traffic.
-/

namespace DatabaseGateway

def defaultPoolSize : UInt32 := 10

structure ConnectConfig where
  protocol : Protocol := .postgres
  host : String
  port : UInt16
  database : String
  user : String
  password : Option String := none
  poolSize : UInt32 := defaultPoolSize
  deriving DecidableEq, Repr, Inhabited

inductive ConnectFault where
  | blankHost | zeroPort | emptyDatabase | emptyUser | zeroPoolSize
  deriving DecidableEq, Repr

def ConnectFault.detail : ConnectFault → String
  | blankHost => "host must not be empty"
  | zeroPort => "port must be between 1 and 65535"
  | emptyDatabase => "database must not be empty"
  | emptyUser => "user must not be empty"
  | zeroPoolSize => "pool_size must be greater than zero"

namespace ConnectConfig

/-- The first fault of a request, in the order host, port, database, user, pool size. -/
def fault? (c : ConnectConfig) : Option ConnectFault :=
  if Text.trim c.host.toList = [] then some .blankHost
  else if c.port = 0 then some .zeroPort
  else if c.database = "" then some .emptyDatabase
  else if c.user = "" then some .emptyUser
  else if c.poolSize = 0 then some .zeroPoolSize
  else none

def validate (c : ConnectConfig) : Except GatewayError Unit :=
  match c.fault? with
  | none => .ok ()
  | some fault => .error (.invalidConfig fault.detail)

def fieldNames : List String :=
  ["protocol", "host", "port", "database", "user", "password", "pool_size"]

def ofDocument? (d : Document) : Option ConnectConfig := do
  let field ← d.fields? fieldNames 0
  return {
    protocol := ← Document.withDefault? Protocol.ofDocument? .postgres (field "protocol")
    host := ← (← field "host").text?
    port := ← (← field "port").word16?
    database := ← (← field "database").text?
    user := ← (← field "user").text?
    password := ← Document.optional? Document.text? (field "password")
    poolSize := ← Document.withDefault? Document.word32? defaultPoolSize (field "pool_size") }

def toDocument (c : ConnectConfig) : Document :=
  .table [
    ("protocol", .text c.protocol.name), ("host", .text c.host),
    ("port", .natural c.port.toNat), ("database", .text c.database), ("user", .text c.user),
    ("password", .ofOption .text c.password), ("pool_size", .natural c.poolSize.toNat)]

def summary (c : ConnectConfig) : String :=
  Text.record "ConnectConfig" [
    ("protocol", c.protocol.label), ("host", Text.quoted c.host),
    ("port", toString c.port.toNat), ("database", Text.quoted c.database),
    ("user", Text.quoted c.user), ("password", Text.redacted c.password),
    ("pool_size", toString c.poolSize.toNat)] false

end ConnectConfig

/-- What the connections of one pool have in common. -/
structure PoolKey where
  protocol : Protocol
  host : String
  port : UInt16
  database : String
  user : String
  deriving DecidableEq, Repr, Inhabited

namespace PoolKey

def ofConfig (c : ConnectConfig) : PoolKey :=
  ⟨c.protocol, c.host, c.port, c.database, c.user⟩

def address (k : PoolKey) : String :=
  let port := toString k.port.toNat
  s!"{k.host}:{port}"

def text (k : PoolKey) : String :=
  k.protocol.name ++ "://" ++ k.user ++ "@" ++ k.address ++ "/" ++ k.database

end PoolKey

end DatabaseGateway
