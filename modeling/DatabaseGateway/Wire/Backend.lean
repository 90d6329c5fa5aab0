import DatabaseGateway.Wire.Frame

/-!
The messages that a Postgres server sends.
-/

namespace DatabaseGateway.Wire

inductive Authentication where
  | ok
  | cleartextPassword
  | md5Password (a b c d : UInt8)
  /-- Any other method, by its code. What comes with it is not kept. -/
  | other (code : Int32)
  deriving DecidableEq, Repr

namespace Authentication

def code : Authentication → Int32
  | ok => 0
  | cleartextPassword => 3
  | md5Password .. => 5
  | other n => n

def salt : Authentication → Option Bytes
  | md5Password a b c d => some [a, b, c, d]
  | _ => none

end Authentication

inductive TransactionStatus where
  | idle
  | inTransaction
  | failed
  deriving DecidableEq, Repr

namespace TransactionStatus

def toByte : TransactionStatus → UInt8
  | idle => 'I'.toUInt8
  | inTransaction => 'T'.toUInt8
  | failed => 'E'.toUInt8

def ofByte? (b : UInt8) : Option TransactionStatus :=
  if b = 'I'.toUInt8 then some idle
  else if b = 'T'.toUInt8 then some inTransaction
  else if b = 'E'.toUInt8 then some failed
  else none

def label : TransactionStatus → String
  | idle => "Idle"
  | inTransaction => "InTransaction"
  | failed => "Failed"

end TransactionStatus

structure Field where
  name : String
  tableOid : UInt32 := 0
  columnId : Int16 := 0
  typeOid : UInt32
  typeLength : Int16 := -1
  typeModifier : Int32 := -1
  /-- Zero for text, one for binary. -/
  format : Int16 := 0
  deriving DecidableEq, Repr

/-- The values of one row. A null value differs from an empty one. -/
abbrev Row := List (Option Bytes)

namespace Row

def ofTexts (texts : List (Option String)) : Row := texts.map (Option.map Text.encode)

def isNull (row : Row) (i : Nat) : Bool := row[i]? == some none

/-- The text of a column, unless it is null, missing or no text. -/
def text? (row : Row) (i : Nat) : Option String := do Text.decode? (← (← row[i]?))

def toTexts : Row → Except WireError (List (Option String))
  | [] => .ok []
  | none :: row => do return none :: (← toTexts row)
  | some bytes :: row =>
    match Text.decode? bytes with
    | none => .error (.malformed "DataRow" .invalidUtf8)
    | some s => do return some s :: (← toTexts row)

end Row

/-- The fields of an error or a notice, each under its code, in the order of the wire. -/
abbrev Report := List (UInt8 × String)

namespace Report

def ofParts (severity code message : String) : Report :=
  [('S'.toUInt8, severity), ('C'.toUInt8, code), ('M'.toUInt8, message)]

def field? (r : Report) (code : UInt8) : Option String := r.lookup code

/-- The severity, in the server's language if it gives one. -/
def severity? (r : Report) : Option String :=
  (r.field? 'S'.toUInt8).or (r.field? 'V'.toUInt8)

def code? (r : Report) : Option String := r.field? 'C'.toUInt8

def message? (r : Report) : Option String := r.field? 'M'.toUInt8

def detail? (r : Report) : Option String := r.field? 'D'.toUInt8

def hint? (r : Report) : Option String := r.field? 'H'.toUInt8

def text (r : Report) : String :=
  let tail := match r.code? with
    | none => ""
    | some code => " (" ++ code ++ ")"
  (r.severity?).getD "ERROR" ++ ": " ++ (r.message?).getD "<no message>" ++ tail

end Report

inductive BackendMessage where
  | authentication (request : Authentication)
  | parameterStatus (name value : String)
  | backendKeyData (process secret : Int32)
  | readyForQuery (status : TransactionStatus)
  | parseComplete
  | bindComplete
  | rowDescription (fields : List Field)
  | dataRow (row : Row)
  | commandComplete (tag : String)
  | emptyQueryResponse
  | errorResponse (report : Report)
  | noticeResponse (report : Report)
  deriving DecidableEq, Repr

namespace BackendMessage

def letter : BackendMessage → Char
  | authentication _ => 'R'
  | parameterStatus .. => 'S'
  | backendKeyData .. => 'K'
  | readyForQuery _ => 'Z'
  | parseComplete => '1'
  | bindComplete => '2'
  | rowDescription _ => 'T'
  | dataRow _ => 'D'
  | commandComplete _ => 'C'
  | emptyQueryResponse => 'I'
  | errorResponse _ => 'E'
  | noticeResponse _ => 'N'

def putField (f : Field) : Bytes :=
  putText f.name ++ putWord32 f.tableOid ++ putInt16 f.columnId ++ putWord32 f.typeOid ++
    putInt16 f.typeLength ++ putInt32 f.typeModifier ++ putInt16 f.format

def putReport (r : Report) : Bytes :=
  r.flatMap (fun (code, value) => code :: putText value) ++ [0]

def payload : BackendMessage → Bytes
  | authentication request => putInt32 request.code ++ request.salt.getD []
  | parameterStatus name value => putText name ++ putText value
  | backendKeyData process secret => putInt32 process ++ putInt32 secret
  | readyForQuery status => [status.toByte]
  | parseComplete | bindComplete | emptyQueryResponse => []
  | rowDescription fields => putCount fields.length ++ fields.flatMap putField
  | dataRow row => putCount row.length ++ row.flatMap putValue
  | commandComplete tag => putText tag
  | errorResponse report | noticeResponse report => putReport report

def frame (m : BackendMessage) : Frame := ⟨m.letter.toUInt8, m.payload⟩

def encode (m : BackendMessage) : Bytes := m.frame.encode

namespace Reader

open Wire.Reader

def authentication : Reader Authentication := do
  let code ← int32
  if code = 0 then finish; return .ok
  else if code = 3 then finish; return .cleartextPassword
  else if code = 5 then
    let a ← take 4
    finish
    match a with
    | [a, b, c, d] => return .md5Password a b c d
    | _ => throw (.short 4 4 a.length)
  else return .other code

def parameterStatus : Reader BackendMessage := do
  let name ← text
  let value ← text
  finish
  return .parameterStatus name value

def backendKeyData : Reader BackendMessage := do
  let process ← int32
  let secret ← int32
  finish
  return .backendKeyData process secret

def readyForQuery : Reader BackendMessage := do
  let b ← byte
  finish
  match TransactionStatus.ofByte? b with
  | some status => return .readyForQuery status
  | none => throw (.unknownStatus b)

def field : Reader Field := do
  return {
    name := ← text
    tableOid := ← word32
    columnId := ← int16
    typeOid := ← word32
    typeLength := ← int16
    typeModifier := ← int32
    format := ← int16 }

def rowDescription : Reader BackendMessage := do
  let fields ← counted field
  finish
  return .rowDescription fields

def dataRow : Reader BackendMessage := do
  let row ← counted value
  finish
  return .dataRow row

def commandComplete : Reader BackendMessage := do
  let tag ← text
  finish
  return .commandComplete tag

/-- Fields up to a zero byte in the place of a code. Each field takes at least one byte, so that
`fuel` need not exceed the length of the payload. -/
def reportFields : (fuel : Nat) → Reader Report
  | 0 => do
    let _ ← byte
    return []
  | fuel + 1 => do
    let code ← byte
    if code = 0 then return []
    let value ← text
    let others ← reportFields fuel
    return (code, value) :: others

def report : Reader Report := do
  let c ← get
  let fields ← reportFields c.rest.length
  finish
  return fields

end Reader

/-- Reads the payload of a message by the tag of its frame. Tags of no message here give none. -/
def decode (tag : UInt8) (payload : Bytes) : Except WireError (Option BackendMessage) :=
  if tag = 'R'.toUInt8 then
    (Wire.Reader.decode "Authentication" Reader.authentication payload).map
      (some <| authentication ·)
  else if tag = 'S'.toUInt8 then
    (Wire.Reader.decode "ParameterStatus" Reader.parameterStatus payload).map some
  else if tag = 'K'.toUInt8 then
    (Wire.Reader.decode "BackendKeyData" Reader.backendKeyData payload).map some
  else if tag = 'Z'.toUInt8 then
    (Wire.Reader.decode "ReadyForQuery" Reader.readyForQuery payload).map some
  else if tag = '1'.toUInt8 then .ok (some parseComplete)
  else if tag = '2'.toUInt8 then .ok (some bindComplete)
  else if tag = 'I'.toUInt8 then .ok (some emptyQueryResponse)
  else if tag = 'T'.toUInt8 then
    (Wire.Reader.decode "RowDescription" Reader.rowDescription payload).map some
  else if tag = 'D'.toUInt8 then
    (Wire.Reader.decode "DataRow" Reader.dataRow payload).map some
  else if tag = 'C'.toUInt8 then
    (Wire.Reader.decode "CommandComplete" Reader.commandComplete payload).map some
  else if tag = 'E'.toUInt8 then
    (Wire.Reader.decode "ErrorResponse" Reader.report payload).map (some <| errorResponse ·)
  else if tag = 'N'.toUInt8 then
    (Wire.Reader.decode "NoticeResponse" Reader.report payload).map (some <| noticeResponse ·)
  else .ok none

def parse (limit : Nat) (buffer : Bytes) : Except WireError (Parsed BackendMessage) :=
  parseFrames decode limit buffer

def next (d : Decoder) : Except WireError (Option BackendMessage) × Decoder :=
  Decoder.next decode d

end BackendMessage

end DatabaseGateway.Wire
