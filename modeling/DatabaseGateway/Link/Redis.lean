import DatabaseGateway.Link.Transport
import DatabaseGateway.Text.Blank
import DatabaseGateway.Text.Numeral
import DatabaseGateway.Text.Utf8

/-!
The Redis side of a link: logging in with a password and selecting a database, bringing a session
back to that state with RESET, and probing it with PING.
-/

namespace DatabaseGateway.Redis

variable {σ : Type}

def lineBound : Nat := 4096

def lineEnd : Bytes := [13, 10]

/-- A command as an array of strings, each behind its length in bytes. -/
def command (args : List String) : Bytes :=
  let arg := fun (s : String) =>
    let bytes := Text.encode s
    Text.encode ("$" ++ toString bytes.length) ++ lineEnd ++ bytes ++ lineEnd
  Text.encode ("*" ++ toString args.length) ++ lineEnd ++ args.flatMap arg

def readLineFrom (t : Transport σ) (line : Bytes) (world : σ) :
    Except GatewayError Bytes × σ :=
  if lineEnd.isSuffixOf line then (.ok line, world)
  else if lineBound < line.length then (.error (.protocol "redis reply line too long"), world)
  else match t.recv lineBound world with
    | (.error e, world) => (.error e, world)
    | (.ok [], world) => (.error (.closed "redis server closed the connection"), world)
    | (.ok (b :: bs), world) => readLineFrom t (line ++ b :: bs) world
termination_by lineBound + 1 - line.length
decreasing_by simp; omega

def readLine (t : Transport σ) (world : σ) : Except GatewayError Bytes × σ :=
  readLineFrom t [] world

def shown (reply : Bytes) : String :=
  String.ofList (Text.trimEnd (Text.lossyChars reply))

structure Login where
  user : String := ""
  password : Option String := none
  index : Option Nat := none
  deriving DecidableEq, Repr

/-- The command that presents a password. The default user is not named. -/
def auth (user password : String) : Bytes :=
  if user = "" || user = "default" then command ["AUTH", password]
  else command ["AUTH", user, password]

def exchange (t : Transport σ) (request : Bytes) (world : σ) : Except GatewayError Bytes × σ :=
  match t.send request world with
  | (.error e, world) => (.error e, world)
  | (.ok _, world) => readLine t world

def expectOk (t : Transport σ) (request : Bytes) (refusal : String → GatewayError) (world : σ) :
    Except GatewayError Unit × σ :=
  match exchange t request world with
  | (.error e, world) => (.error e, world)
  | (.ok reply, world) =>
    if (Text.encode "+OK").isPrefixOf reply then (.ok (), world)
    else (.error (refusal (shown reply)), world)

def present (t : Transport σ) (l : Login) (world : σ) : Except GatewayError Unit × σ :=
  match l.password with
  | none => (.ok (), world)
  | some password =>
    expectOk t (auth l.user password)
      (fun reply => .connectionRefused s!"redis AUTH rejected: {reply}") world

/-- Selects the database, unless it is the one that sessions start on. -/
def select (t : Transport σ) (l : Login) (world : σ) : Except GatewayError Unit × σ :=
  match l.index with
  | none => (.ok (), world)
  | some index =>
    expectOk t (command ["SELECT", toString index])
      (fun reply => .protocol s!"redis SELECT {index} failed: {reply}") world

def logIn (t : Transport σ) (l : Login) (world : σ) : Except GatewayError Unit × σ :=
  match present t l world with
  | (.error e, world) => (.error e, world)
  | (.ok _, world) => select t l world

/-- The index of a database by its name, unless it is the one that sessions start on. -/
def selectIndex (database : String) : Except GatewayError (Option Nat) :=
  if database = "" then .ok none
  else match Text.unsigned? UInt32.size database.toList with
    | some n => .ok (if n = 0 then none else some n)
    | none =>
      .error (.invalidConfig s!"redis database must be a numeric index, got '{database}'")

def restore (t : Transport σ) (l : Login) (world : σ) : Except GatewayError Unit × σ :=
  match exchange t (Text.encode "RESET\r\n") world with
  | (.error e, world) => (.error e, world)
  | (.ok reply, world) =>
    if reply = Text.encode "+RESET\r\n" then logIn t l world
    else
      let detail := shown reply
      (.error (.protocol s!"redis RESET failed: {detail}"), world)

def probe (t : Transport σ) (world : σ) : Bool × σ :=
  match exchange t (Text.encode "PING\r\n") world with
  | (.ok reply, world) => (reply == Text.encode "+PONG\r\n", world)
  | (.error _, world) => (false, world)

end DatabaseGateway.Redis
