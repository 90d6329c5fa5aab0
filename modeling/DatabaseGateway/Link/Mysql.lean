import DatabaseGateway.Link.Transport

/-!
The MySQL side of a link. A packet has three bytes of length, low byte first, a sequence byte and
its payload. The probe is the ping command, which a live session answers with a payload that
starts with zero.
-/

namespace DatabaseGateway.Mysql

variable {σ : Type}

def pingPacket : Bytes := [1, 0, 0, 0, 14]

def headerSize : Nat := 4

def receiveAtLeast (t : Transport σ) (need : Nat) (have' : Bytes) (world : σ) :
    Except GatewayError Bytes × σ :=
  if need ≤ have'.length then (.ok have', world)
  else match t.recv (need - have'.length) world with
    | (.error e, world) => (.error e, world)
    | (.ok [], world) => (.error (.closed "mysql server closed the connection"), world)
    | (.ok (b :: bs), world) => receiveAtLeast t need (have' ++ b :: bs) world
termination_by need - have'.length
decreasing_by simp; omega

def readPacket (t : Transport σ) (world : σ) : Except GatewayError Bytes × σ :=
  match receiveAtLeast t headerSize [] world with
  | (.error e, world) => (.error e, world)
  | (.ok start, world) =>
    match receiveAtLeast t (headerSize + Bytes.leValue (start.take 3)) start world with
    | (.error e, world) => (.error e, world)
    | (.ok packet, world) => (.ok (packet.drop headerSize), world)

def probe (t : Transport σ) (world : σ) : Bool × σ :=
  match t.send pingPacket world with
  | (.error _, world) => (false, world)
  | (.ok _, world) =>
    match readPacket t world with
    | (.error _, world) => (false, world)
    | (.ok payload, world) => (payload.head? == some 0, world)

end DatabaseGateway.Mysql
