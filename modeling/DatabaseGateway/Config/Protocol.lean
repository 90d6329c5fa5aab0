import DatabaseGateway.Config.Document
import DatabaseGateway.Error

/-!
The wire protocols that the gateway carries.
-/

namespace DatabaseGateway

/-- A wire protocol. It chooses the pool of a connection, the handshake and the liveness probe. -/
inductive Protocol where
  | postgres | mysql | redis
  deriving DecidableEq, Repr, Inhabited

namespace Protocol

def defaultPort : Protocol → UInt16
  | postgres => 5432
  | mysql => 3306
  | redis => 6379

def name : Protocol → String
  | postgres => "postgres"
  | mysql => "mysql"
  | redis => "redis"

def label : Protocol → String
  | postgres => "Postgres"
  | mysql => "Mysql"
  | redis => "Redis"

def ofName? : String → Option Protocol
  | "postgres" => some postgres
  | "mysql" | "MySQL" => some mysql
  | "redis" => some redis
  | _ => none

/-- The protocol a document names: by a text, or by a table whose only entry has that name and no
value. -/
def ofDocument? : Document → Option Protocol
  | .text s => ofName? s
  | .table [(s, .null)] => ofName? s
  | _ => none

def parse (text : String) : Except GatewayError Protocol :=
  let small := text.map Char.toLower
  if small = "postgres" || small = "postgresql" || small = "pg" then .ok postgres
  else if small = "mysql" then .ok mysql
  else if small = "redis" then .ok redis
  else .error (.invalidConfig s!"unknown protocol '{small}'")

end Protocol

end DatabaseGateway
