import DatabaseGateway.Client.Session

/-!
A guest's database variable, which holds nothing, a connection or a session, and everything that a
guest can do with it. What is replaced or let go of is given back to the host.
-/

namespace DatabaseGateway.Client

variable {σ : Type}

inductive Slot where
  | empty
  | connection (c : Connection)
  | session (s : Session)
  deriving DecidableEq, Repr

inductive Action where
  | openConnection (config : ClientConfig)
  | openSession (config : ClientConfig)
  /-- Opens a session and logs in from the guest's side. -/
  | startSession (config : ClientConfig)
  | send (data : Bytes)
  | sendAll (data : Bytes)
  | recv (most : Nat)
  | close
  | drop
  | toSession
  | toConnection
  | closeSession
  | simpleQuery (sql : String)
  | query (sql : String) (params : List (Option String))
  | execute (sql : String) (params : List (Option String))
  | parameter (name : String)
  | status
  deriving DecidableEq, Repr

inductive Output where
  | nothing
  | count (n : Nat)
  | bytes (bs : Bytes)
  | results (rs : List QueryResult)
  | result (r : QueryResult)
  | rows (n : Nat)
  | text (s : Option String)
  | status (s : Option Wire.TransactionStatus)
  deriving DecidableEq, Repr

inductive Refusal where
  | failed (error : ClientError)
  /-- The variable does not hold what the action needs. -/
  | missing
  /-- The action needs a connection and the variable holds a session. -/
  | holdsSession
  /-- There is no session to close. -/
  | noSession
  deriving DecidableEq, Repr

namespace Slot

def drop (cap : Capability σ) (slot : Slot) (world : σ) : σ :=
  match slot with
  | empty => world
  | connection c => c.drop cap world
  | session s => s.drop cap world

/-- Puts a new object in place of the old one, which is let go of; after a failure the old one
stays. -/
def replace (cap : Capability σ) (slot : Slot) (opened : Except ClientError Slot × σ) :
    Except Refusal Output × Slot × σ :=
  match opened with
  | (.error e, world) => (.error (.failed e), slot, world)
  | (.ok new, world) => (.ok .nothing, new, slot.drop cap world)

def onConnection (slot : Slot) (world : σ)
    (call : Connection → σ → Except ClientError Output × Connection × σ) :
    Except Refusal Output × Slot × σ :=
  match slot with
  | empty => (.error .missing, slot, world)
  | session _ => (.error .holdsSession, slot, world)
  | connection c =>
    let (result, c, world) := call c world
    (result.mapError .failed, connection c, world)

def onSession (slot : Slot) (world : σ)
    (call : Session → σ → Except ClientError Output × Session × σ) :
    Except Refusal Output × Slot × σ :=
  match slot with
  | session s =>
    let (result, s, world) := call s world
    (result.mapError .failed, session s, world)
  | _ => (.error .missing, slot, world)

def perform (cap : Capability σ) (action : Action) (slot : Slot) (world : σ) :
    Except Refusal Output × Slot × σ :=
  match action with
  | .openConnection config =>
    let (opened, world) := Connection.openWith cap config world
    replace cap slot (opened.map connection, world)
  | .openSession config =>
    let (opened, world) := Session.connect cap config world
    replace cap slot (opened.map session, world)
  | .startSession config =>
    let (opened, world) := Session.connectWithStartup cap config world
    replace cap slot (opened.map session, world)
  | .send data => onConnection slot world fun c world =>
    let (result, c, world) := c.send cap data world
    (result.map .count, c, world)
  | .sendAll data => onConnection slot world fun c world =>
    let (result, c, world) := c.sendAll cap data world
    (result.map fun _ => .nothing, c, world)
  | .recv most => onConnection slot world fun c world =>
    let (result, c, world) := c.recv cap most world
    (result.map .bytes, c, world)
  | .close => onConnection slot world fun c world =>
    let (result, c, world) := c.close cap world
    (result.map fun _ => .nothing, c, world)
  | .drop => (.ok .nothing, empty, slot.drop cap world)
  | .toSession =>
    match slot with
    | connection c => (.ok .nothing, session { connection := c }, world)
    | _ => (.ok .nothing, empty, slot.drop cap world)
  | .toConnection =>
    match slot with
    | session s => (.ok .nothing, connection s.connection, world)
    | _ => (.ok .nothing, empty, slot.drop cap world)
  | .closeSession =>
    match slot with
    | session s =>
      let (result, world) := s.close cap world
      ((result.map fun _ => .nothing).mapError .failed, empty, world)
    | _ => (.error .noSession, empty, slot.drop cap world)
  | .simpleQuery sql => onSession slot world fun s world =>
    let (result, s, world) := s.simpleQuery cap sql world
    (result.map .results, s, world)
  | .query sql params => onSession slot world fun s world =>
    let (result, s, world) := s.query cap sql params world
    (result.map .result, s, world)
  | .execute sql params => onSession slot world fun s world =>
    let (result, s, world) := s.execute cap sql params world
    (result.map .rows, s, world)
  | .parameter name =>
    onSession slot world fun s world => (.ok (.text (s.parameter? name)), s, world)
  | .status => onSession slot world fun s world => (.ok (.status s.status), s, world)

end Slot

end DatabaseGateway.Client
