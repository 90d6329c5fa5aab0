import DatabaseGateway.Config.Toml.Reader
import DatabaseGateway.Config.Toml.Writer
import DatabaseGateway.Text.Record

/-!
The `database_proxy` table of a deployment's settings file: its fields as they are written, read
from a document and written back as TOML.
-/

namespace DatabaseGateway

/-- The settings of the gateway as a deployment writes them. What is left out keeps its default;
spans of time are texts. -/
structure ProxyTable where
  enabled : Option Bool := none
  maxPoolSize : Option UInt32 := none
  idleTimeout : Option String := none
  healthCheckInterval : Option String := none
  connectTimeout : Option String := none
  recvTimeout : Option String := none
  probeTimeout : Option String := none
  probeOnCheckout : Option Bool := none
  probeOnCheckin : Option Bool := none
  tls : Option Bool := none
  verifyCertificates : Option Bool := none
  drainTimeout : Option String := none
  maxFrameSize : Option Nat := none
  hostHandshake : Option Bool := none
  deriving DecidableEq, Repr, Inhabited

namespace ProxyTable

def fieldNames : List String :=
  ["enabled", "max_pool_size", "idle_timeout", "health_check_interval", "connect_timeout",
    "recv_timeout", "probe_timeout", "probe_on_checkout", "probe_on_checkin", "tls",
    "verify_certificates", "drain_timeout", "max_frame_size", "host_handshake"]

/-- Reads the table from a document. Fields of other names are passed over. -/
def ofDocument? (d : Document) : Option ProxyTable := do
  let field ← d.fields? fieldNames fieldNames.length
  let flag := fun name => Document.optional? Document.flag? (field name)
  let text := fun name => Document.optional? Document.text? (field name)
  return {
    enabled := ← flag "enabled"
    maxPoolSize := ← Document.optional? Document.word32? (field "max_pool_size")
    idleTimeout := ← text "idle_timeout"
    healthCheckInterval := ← text "health_check_interval"
    connectTimeout := ← text "connect_timeout"
    recvTimeout := ← text "recv_timeout"
    probeTimeout := ← text "probe_timeout"
    probeOnCheckout := ← flag "probe_on_checkout"
    probeOnCheckin := ← flag "probe_on_checkin"
    tls := ← flag "tls"
    verifyCertificates := ← flag "verify_certificates"
    drainTimeout := ← text "drain_timeout"
    maxFrameSize := ← Document.optional? (Document.natural? UInt64.size) (field "max_frame_size")
    hostHandshake := ← flag "host_handshake" }

/-- Reads the table from a settings file. A list there may go on after the last field. -/
def ofEntry? : Document → Option ProxyTable
  | .list items => ofDocument? (.list (items.take fieldNames.length))
  | d => ofDocument? d

/-- Reads the table out of a whole settings file, which may have none. -/
def ofFile? (d : Document) : Option (Option ProxyTable) := do
  let field ← d.fields? ["database_proxy"] 1
  Document.optional? ofEntry? (field "database_proxy")

def parse? (text : String) : Option (Option ProxyTable) :=
  Toml.parse? text >>= ofFile?

def toDocument (t : ProxyTable) : Document :=
  let flag := Document.ofOption Document.flag
  let text := Document.ofOption Document.text
  .table [
    ("enabled", flag t.enabled),
    ("max_pool_size", .ofOption (fun n => .natural n.toNat) t.maxPoolSize),
    ("idle_timeout", text t.idleTimeout),
    ("health_check_interval", text t.healthCheckInterval),
    ("connect_timeout", text t.connectTimeout),
    ("recv_timeout", text t.recvTimeout),
    ("probe_timeout", text t.probeTimeout),
    ("probe_on_checkout", flag t.probeOnCheckout),
    ("probe_on_checkin", flag t.probeOnCheckin),
    ("tls", flag t.tls),
    ("verify_certificates", flag t.verifyCertificates),
    ("drain_timeout", text t.drainTimeout),
    ("max_frame_size", .ofOption .natural t.maxFrameSize),
    ("host_handshake", flag t.hostHandshake)]

def line? (name : String) (value : Document) : Option String :=
  let text? := match value with
    | .flag b => some (Text.flag b)
    | .integer n => some (toString n)
    | .text s => some (Toml.written s)
    | _ => none
  text?.map fun text => name ++ " = " ++ text ++ "\n"

def lines (t : ProxyTable) : List String :=
  match t.toDocument with
  | .table entries => entries.filterMap fun (name, value) => line? name value
  | _ => []

/-- A settings file with this table or without one. Whole numbers of TOML have a sign and 64 bits,
so a frame size beyond them cannot be written. -/
def render? : Option ProxyTable → Option String
  | none => some ""
  | some t =>
    if t.maxFrameSize.any (Toml.integerBound ≤ ·) then none
    else some ("[database_proxy]\n" ++ String.join t.lines)

end ProxyTable

end DatabaseGateway
