import DatabaseGateway.Error
import DatabaseGateway.Wire.Backend

/-!
The one error type of the client: which operation failed, and why.
-/

namespace DatabaseGateway.Client

inductive Operation where
  | connect | send | recv | close | query
  deriving DecidableEq, Repr

def Operation.name : Operation → String
  | connect => "connect"
  | send => "send"
  | recv => "recv"
  | close => "close"
  | query => "query"

structure ServerError where
  severity : String
  code : String
  message : String
  detail : Option String
  hint : Option String
  deriving DecidableEq, Repr

namespace ServerError

def ofReport (r : Wire.Report) : ServerError where
  severity := (r.severity?).getD "ERROR"
  code := (r.code?).getD ""
  message := (r.message?).getD ""
  detail := r.detail?
  hint := r.hint?

def text (e : ServerError) : String := s!"{e.severity}: {e.message} ({e.code})"

end ServerError

inductive Cause where
  | host (error : GatewayError)
  | server (error : ServerError)
  | codec (error : Wire.WireError)
  deriving DecidableEq, Repr

def Cause.text : Cause → String
  | host e => e.message
  | server e => "server error " ++ e.text
  | codec e => "bad server response: " ++ e.text

structure ClientError where
  operation : Operation
  cause : Cause
  deriving DecidableEq, Repr

namespace ClientError

def alreadyClosed (op : Operation) : ClientError :=
  ⟨op, .host (.closed "connection already closed")⟩

def ofReport (op : Operation) (r : Wire.Report) : ClientError := ⟨op, .server (.ofReport r)⟩

def kind? (e : ClientError) : Option ErrorKind :=
  match e.cause with
  | .host error => some error.kind
  | _ => none

def sqlstate? (e : ClientError) : Option String :=
  match e.cause with
  | .server error => some error.code
  | _ => none

def isClosed (e : ClientError) : Bool := e.kind? == some .closed

/-- Whether the operation may succeed later: the pool was full, the server refused, or a deadline
passed. -/
def isTransient (e : ClientError) : Bool :=
  e.kind? == some .poolExhausted || e.kind? == some .connectionRefused ||
    e.kind? == some .timeout

def text (e : ClientError) : String :=
  e.operation.name ++ " failed: " ++ e.cause.text

end ClientError

end DatabaseGateway.Client
