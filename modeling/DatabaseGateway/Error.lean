/-!
The errors of the gateway: what went wrong between a guest and its database, and the kind under
which the guest is told.
-/

namespace DatabaseGateway

/-- Why a call of the gateway failed. Each cause but the last carries its detail in words. -/
inductive GatewayError where
  /-- The settings were refused before any traffic. -/
  | invalidConfig (detail : String)
  /-- No connection could be opened, or none is being opened any more. -/
  | connectionRefused (detail : String)
  /-- A deadline passed. -/
  | timeout (detail : String)
  /-- The peer did not keep to its protocol. -/
  | protocol (detail : String)
  /-- All connections of the pool are taken. -/
  | poolExhausted (detail : String)
  /-- The connection, or the handle that stood for it, is gone. -/
  | closed (detail : String)
  /-- The handle was never issued. -/
  | invalidHandle (handle : Nat)
  deriving DecidableEq, Repr, Inhabited

/-- The kinds of failure that a guest can tell apart. -/
inductive ErrorKind where
  | connectionRefused | timeout | protocolError | poolExhausted | closed | invalidConfig
  deriving DecidableEq, Repr

def ErrorKind.name : ErrorKind → String
  | connectionRefused => "connection-refused"
  | timeout => "timeout"
  | protocolError => "protocol-error"
  | poolExhausted => "pool-exhausted"
  | closed => "closed"
  | invalidConfig => "invalid-config"

namespace GatewayError

/-- The kind of an error. A handle that was never issued looks like a closed one to a guest. -/
def kind : GatewayError → ErrorKind
  | invalidConfig _ => .invalidConfig
  | connectionRefused _ => .connectionRefused
  | timeout _ => .timeout
  | protocol _ => .protocolError
  | poolExhausted _ => .poolExhausted
  | closed _ | invalidHandle _ => .closed

def message : GatewayError → String
  | invalidConfig detail => s!"invalid config: {detail}"
  | connectionRefused detail => s!"connection refused: {detail}"
  | timeout detail => s!"timed out: {detail}"
  | protocol detail => s!"protocol error: {detail}"
  | poolExhausted detail => s!"connection pool exhausted: {detail}"
  | closed detail => s!"connection closed: {detail}"
  | invalidHandle handle => s!"invalid handle: {handle}"

def handleClosed (handle : Nat) : GatewayError :=
  .closed s!"handle {handle} is closed"

end GatewayError

end DatabaseGateway
