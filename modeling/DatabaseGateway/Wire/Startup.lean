import DatabaseGateway.Wire.Frame

/-!
The first packet of a Postgres connection. It has no tag: a length that counts itself, a code, and
for a startup the session's parameters as pairs of strings up to an empty key.
-/

namespace DatabaseGateway.Wire

def protocolVersion : Int32 := 196608

def sslRequestCode : Int32 := 80877103

inductive StartupPacket where
  | startup (version : Int32) (params : List (String × String))
  | sslRequest
  deriving DecidableEq, Repr

namespace StartupPacket

def putParams (params : List (String × String)) : Bytes :=
  params.flatMap (fun (key, value) => putText key ++ putText value) ++ [0]

/-- A body behind a length that counts itself. -/
def measured (body : Bytes) : Bytes := Bytes.be 4 (body.length + 4) ++ body

def encodeParams (params : List (String × String)) : Bytes :=
  measured (putInt32 protocolVersion ++ putParams params)

def encodeLogin (user database : String) : Bytes :=
  encodeParams [("user", user), ("database", database)]

def encodeSslRequest : Bytes := measured (putInt32 sslRequestCode)

/-- Parameters up to an empty key. Each takes at least one byte, so that `fuel` need not exceed the
length of the packet. -/
def readParams : (fuel : Nat) → Reader (List (String × String))
  | 0 => do
    let _ ← Reader.text
    return []
  | fuel + 1 => do
    let key ← Reader.text
    if key = "" then return []
    let value ← Reader.text
    let others ← readParams fuel
    return (key, value) :: others

def reader : Reader StartupPacket := do
  let version ← Reader.int32
  if version = sslRequestCode then
    Reader.finish
    return .sslRequest
  else if version ≠ protocolVersion then throw (.unsupportedVersion version.toInt)
  else
    let c ← get
    let params ← readParams c.rest.length
    Reader.finish
    return .startup version params

/-- The first packet of a buffer and the bytes it takes up, if it is all there. -/
def decode : Bytes → Except WireError (Option (StartupPacket × Nat))
  | a :: b :: c :: d :: rest =>
    let length := (UInt32.ofNat (Bytes.beValue [a, b, c, d])).toInt32.toInt
    if length < 8 then .error (.invalidLength 0 length)
    else
      let body := length.toNat - 4
      if defaultMaxFrameSize < body then .error (.frameTooLarge 0 body defaultMaxFrameSize)
      else
        let payload := rest.take body
        if payload.length < body then .ok none
        else match Reader.decode "StartupMessage" reader payload with
          | .error e => .error e
          | .ok packet => .ok (some (packet, length.toNat))
  | _ => .ok none

def param? (key : String) : StartupPacket → Option String
  | startup _ params => params.lookup key
  | sslRequest => none

def user? (p : StartupPacket) : Option String := p.param? "user"

def database? (p : StartupPacket) : Option String := p.param? "database"

end StartupPacket

end DatabaseGateway.Wire
