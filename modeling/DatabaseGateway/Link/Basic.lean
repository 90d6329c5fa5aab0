import DatabaseGateway.Link.Mysql
import DatabaseGateway.Link.Postgres
import DatabaseGateway.Link.Redis

/-!
A link: a byte stream together with the protocol that the gateway itself speaks on it. Guests'
bytes pass through; the gateway logs in, probes, and brings sessions back to their first state
between two guests.
-/

namespace DatabaseGateway

variable {σ : Type}

/-- The protocol spoken on a link, with what the gateway keeps for it. -/
inductive Link where
  /-- Bytes alone. -/
  | plain
  | postgres (authenticated : Bool) (limit : Nat)
  | mysql
  | redis (authenticated : Bool) (login : Redis.Login)
  deriving DecidableEq, Repr

namespace Link

def authenticated : Link → Bool
  | postgres a _ => a
  | redis a _ => a
  | plain | mysql => false

def openRedis (t : Transport σ) (key : PoolKey) (password : Option String) (world : σ) :
    Except GatewayError Link × σ :=
  match Redis.selectIndex key.database with
  | .error e => (.error e, world)
  | .ok index =>
    let login : Redis.Login := ⟨key.user, password, index⟩
    let (result, world) := Redis.logIn t login world
    (result.map fun _ => redis password.isSome login, world)

/-- Opens a Postgres link, logging in unless that is left to the guest. -/
def openPostgres (t : Transport σ) (key : PoolKey) (password : Option String)
    (hostHandshake : Bool) (limit : Nat) (world : σ) : Except GatewayError Link × σ :=
  if hostHandshake then
    let (result, world) := Postgres.startup t key password limit world
    (result.map fun _ => postgres true limit, world)
  else (.ok (postgres false limit), world)

def openFor (t : Transport σ) (key : PoolKey) (password : Option String) (hostHandshake : Bool)
    (limit : Nat) (world : σ) : Except GatewayError Link × σ :=
  match key.protocol with
  | .postgres => openPostgres t key password hostHandshake limit world
  | .mysql => (.ok mysql, world)
  | .redis => openRedis t key password world

/-- Carries out a check under a deadline for each receive. If the check succeeds the usual deadline
has to be brought back as well. -/
def timed (t : Transport σ) (timeout : Duration) (check : σ → Bool × σ) (world : σ) : Bool × σ :=
  match t.setReadTimeout (some timeout) world with
  | (.error _, world) => (false, world)
  | (.ok _, world) =>
    match check world with
    | (false, world) => (false, world)
    | (true, world) =>
      match t.setReadTimeout none world with
      | (.ok _, world) => (true, world)
      | (.error _, world) => (false, world)

/-- Probes a link: whether it can be handed to another guest as far as can be told. -/
def ping (t : Transport σ) (timeout : Duration) (world : σ) : Link → Bool × σ
  | plain | postgres false _ => t.ping timeout world
  | postgres true limit => timed t timeout (Postgres.probe t limit) world
  | mysql => timed t timeout (Mysql.probe t) world
  | redis .. => timed t timeout (Redis.probe t) world

/-- Brings a session back to the state it was first handed out in. A link on which a guest logged
in cannot be brought back. -/
def reset (t : Transport σ) (timeout : Duration) (world : σ) : Link → Bool × σ
  | redis _ login => timed t timeout (fun world =>
      match Redis.restore t login world with
      | (.ok _, world) => (true, world)
      | (.error _, world) => (false, world)) world
  | link => (link.authenticated, world)

/-- Closes a link, taking leave of a Postgres server that the gateway logged in to. -/
def close (t : Transport σ) (world : σ) : Link → σ
  | postgres true _ => t.close (t.send Wire.FrontendMessage.terminate.encode world).2
  | _ => t.close world

def summary (inner : String) : Link → String
  | plain => inner
  | postgres authenticated _ => Text.record "PostgresBackend" [
      ("inner", inner), ("authenticated", Text.flag authenticated)] false
  | mysql => Text.record "MysqlBackend" [("inner", inner)] false
  | redis authenticated login => Text.record "RedisBackend" [
      ("inner", inner), ("authenticated", Text.flag authenticated),
      ("user", Text.quoted login.user),
      ("db_index", Text.optional (fun n : Nat => toString n) login.index)] true

end Link

end DatabaseGateway
