import DatabaseGateway.Wire.Frame

/-!
The messages that a Postgres client sends after its first packet. Values travel as text: the
gateway's own clients give no formats, which servers read as "all text".
-/

namespace DatabaseGateway.Wire

inductive FrontendMessage where
  | query (sql : String)
  | parse (name sql : String) (paramTypes : List UInt32)
  | bind (portal statement : String) (paramFormats : List Int16) (params : List (Option Bytes))
      (resultFormats : List Int16)
  | execute (portal : String) (maxRows : Int32)
  /-- Asks about a statement, under the target `S`, or a portal, under `P`. -/
  | describe (target : UInt8) (name : String)
  | sync
  | password (password : String)
  | terminate
  deriving DecidableEq, Repr

namespace FrontendMessage

def letter : FrontendMessage → Char
  | query _ => 'Q'
  | parse .. => 'P'
  | bind .. => 'B'
  | execute .. => 'E'
  | describe .. => 'D'
  | sync => 'S'
  | password _ => 'p'
  | terminate => 'X'

def putFormats (formats : List Int16) : Bytes :=
  putCount formats.length ++ formats.flatMap putInt16

def payload : FrontendMessage → Bytes
  | query sql => putText sql
  | parse name sql types =>
    putText name ++ putText sql ++ putCount types.length ++ types.flatMap putWord32
  | bind portal statement formats params results =>
    putText portal ++ putText statement ++ putFormats formats ++ putCount params.length ++
      params.flatMap putValue ++ putFormats results
  | execute portal maxRows => putText portal ++ putInt32 maxRows
  | describe target name => target :: putText name
  | password p => putText p
  | sync | terminate => []

def frame (m : FrontendMessage) : Frame := ⟨m.letter.toUInt8, m.payload⟩

def encode (m : FrontendMessage) : Bytes := m.frame.encode

def encodeAll (ms : List FrontendMessage) : Bytes := ms.flatMap encode

def bindTexts (portal statement : String) (params : List (Option Bytes)) : FrontendMessage :=
  .bind portal statement [] params []

def extendedQuery (sql : String) (params : List (Option String)) : List FrontendMessage :=
  [.parse "" sql [], bindTexts "" "" (params.map (Option.map Text.encode)), .execute "" 0, .sync]

/-- A query with parameters that also asks for the names of the result's columns. -/
def describedQuery (sql : String) (params : List (Option String)) : List FrontendMessage :=
  [.parse "" sql [], bindTexts "" "" (params.map (Option.map Text.encode)),
    .describe 'P'.toUInt8 "", .execute "" 0, .sync]

namespace Reader

open Wire.Reader

def query : Reader FrontendMessage := do
  let sql ← text
  finish
  return .query sql

def parse : Reader FrontendMessage := do
  let name ← text
  let sql ← text
  let types ← counted word32
  finish
  return .parse name sql types

def bind : Reader FrontendMessage := do
  let portal ← text
  let statement ← text
  let formats ← counted int16
  let params ← counted value
  let results ← counted int16
  finish
  return .bind portal statement formats params results

def execute : Reader FrontendMessage := do
  let portal ← text
  let maxRows ← int32
  finish
  return .execute portal maxRows

def describe : Reader FrontendMessage := do
  let target ← byte
  if target = 'S'.toUInt8 || target = 'P'.toUInt8 then
    let name ← text
    finish
    return .describe target name
  else throw (.unknownTarget target)

def password : Reader FrontendMessage := do
  let p ← text
  finish
  return .password p

end Reader

/-- Reads the payload of a message by the tag of its frame. Tags of no message here give none. -/
def decode (tag : UInt8) (payload : Bytes) : Except WireError (Option FrontendMessage) :=
  if tag = 'Q'.toUInt8 then (Wire.Reader.decode "Query" Reader.query payload).map some
  else if tag = 'P'.toUInt8 then (Wire.Reader.decode "Parse" Reader.parse payload).map some
  else if tag = 'B'.toUInt8 then (Wire.Reader.decode "Bind" Reader.bind payload).map some
  else if tag = 'E'.toUInt8 then (Wire.Reader.decode "Execute" Reader.execute payload).map some
  else if tag = 'D'.toUInt8 then (Wire.Reader.decode "Describe" Reader.describe payload).map some
  else if tag = 'S'.toUInt8 then .ok (some sync)
  else if tag = 'X'.toUInt8 then .ok (some terminate)
  else if tag = 'p'.toUInt8 then
    (Wire.Reader.decode "PasswordMessage" Reader.password payload).map some
  else .ok none

/-- Decodes every complete message of a buffer, which starts behind the first packet. -/
def parseAll (buffer : Bytes) : Except WireError (Parsed FrontendMessage) :=
  parseFrames decode defaultMaxFrameSize buffer

end FrontendMessage

end DatabaseGateway.Wire
