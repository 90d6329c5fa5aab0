import DatabaseGateway.Client.Capability
import DatabaseGateway.Client.Config

/-!
A guest's connection. Once it is closed, by the guest or after a failed call, every further call
fails without reaching the host.
-/

namespace DatabaseGateway.Client

variable {σ : Type}

structure Connection where
  handle : Handle
  closed : Bool := false
  deriving DecidableEq, Repr

namespace Connection

def openWith (cap : Capability σ) (config : ClientConfig) (world : σ) :
    Except ClientError Connection × σ :=
  match config.toConnectConfig with
  | .error e => (.error e, world)
  | .ok request =>
    match cap.connect request world with
    | (.error e, world) => (.error ⟨.connect, .host e⟩, world)
    | (.ok handle, world) => (.ok { handle }, world)

/-- Closes a connection after a failure. How that goes does not matter to the guest. -/
def abandon (cap : Capability σ) (c : Connection) (world : σ) : Connection × σ :=
  ({ c with closed := true }, (cap.close c.handle world).2)

def send (cap : Capability σ) (c : Connection) (data : Bytes) (world : σ) :
    Except ClientError Nat × Connection × σ :=
  if c.closed then (.error (.alreadyClosed .send), c, world)
  else match cap.send c.handle data world with
    | (.ok n, world) => (.ok n, c, world)
    | (.error e, world) => (.error ⟨.send, .host e⟩, c.abandon cap world)

/-- Sends all bytes, again and again what the host has not accepted yet. -/
def sendAll (cap : Capability σ) (c : Connection) (data : Bytes) (world : σ) :
    Except ClientError Unit × Connection × σ :=
  match data with
  | [] => (.ok (), c, world)
  | b :: bs =>
    match c.send cap (b :: bs) world with
    | (.error e, c, world) => (.error e, c, world)
    | (.ok 0, c, world) =>
      (.error ⟨.send, .host (.closed "host accepted no bytes")⟩, c.abandon cap world)
    | (.ok (n + 1), c, world) => sendAll cap c (bs.drop n) world
termination_by data.length
decreasing_by simp only [List.length_drop, List.length_cons]; omega

def recv (cap : Capability σ) (c : Connection) (most : Nat) (world : σ) :
    Except ClientError Bytes × Connection × σ :=
  if c.closed then (.error (.alreadyClosed .recv), c, world)
  else match cap.recv c.handle most world with
    | (.ok bytes, world) => (.ok bytes, c, world)
    | (.error e, world) => (.error ⟨.recv, .host e⟩, c.abandon cap world)

def close (cap : Capability σ) (c : Connection) (world : σ) :
    Except ClientError Unit × Connection × σ :=
  if c.closed then (.error (.alreadyClosed .close), c, world)
  else
    let (result, world) := cap.close c.handle world
    (result.mapError fun e => ⟨.close, .host e⟩, { c with closed := true }, world)

/-- Lets go of a connection, giving it back if that has not been done. -/
def drop (cap : Capability σ) (c : Connection) (world : σ) : σ :=
  if c.closed then world else (cap.close c.handle world).2

def summary (c : Connection) : String :=
  Text.record "Connection" [
    ("handle", toString c.handle), ("closed", Text.flag c.closed)] true

end Connection

end DatabaseGateway.Client
