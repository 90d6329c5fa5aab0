import DatabaseGateway.Wire.Backend

/-!
A conversation with a server: bytes are received piece by piece, and every message among them is
handled in turn, until one of them ends the conversation. What is left in the decoder then belongs
to whatever comes next.
-/

namespace DatabaseGateway.Wire

/-- What a message leads to: more messages are awaited, or the conversation is over. -/
inductive Turn (γ β : Type) where
  | more (state : γ)
  | done (outcome : β)

inductive Ending (β ε : Type) where
  /-- A message ended it. -/
  | finished (outcome : β)
  /-- The bytes are no messages. -/
  | garbled (error : WireError)
  /-- Receiving failed. -/
  | broken (error : ε)
  /-- No more bytes come. -/
  | hungUp

abbrev Handler (γ β σ : Type) := BackendMessage → γ → σ → Turn γ β × σ

variable {γ β ε σ : Type}

/-- Handles the messages of a buffer, until one of them is the last, none is complete, or the bytes
are refused. -/
def handleFrom (handle : Handler γ β σ) (limit : Nat) (buffer : Bytes) (state : γ) (world : σ) :
    Except WireError (Turn γ β) × Bytes × σ :=
  match h : Decoder.nextFrom BackendMessage.decode limit buffer with
  | (.error e, rest) => (.error e, rest, world)
  | (.ok none, rest) => (.ok (.more state), rest, world)
  | (.ok (some message), rest) =>
    match handle message state world with
    | (.done outcome, world) => (.ok (.done outcome), rest, world)
    | (.more state, world) =>
      have := Decoder.length_nextFrom_lt h
      handleFrom handle limit rest state world
termination_by buffer.length

def handleBuffered (handle : Handler γ β σ) (d : Decoder) (state : γ) (world : σ) :
    Except WireError (Turn γ β) × Decoder × σ :=
  if 0 < d.missing then (.ok (.more state), d, world)
  else match handleFrom handle d.limit d.buffer state world with
    | (.ok (.more state), rest, world) => (.ok (.more state), d.await rest, world)
    | (result, rest, world) => (result, d.keep rest, world)

/-- Holds a conversation, receiving non-empty pieces at most `patience` times. -/
def converse (receive : σ → Except ε Bytes × σ) (handle : Handler γ β σ) :
    (patience : Nat) → Decoder → γ → σ → Ending β ε × Decoder × σ
  | patience, d, state, world =>
    match handleBuffered handle d state world with
    | (.error e, d, world) => (.garbled e, d, world)
    | (.ok (.done outcome), d, world) => (.finished outcome, d, world)
    | (.ok (.more state), d, world) =>
      match receive world with
      | (.error e, world) => (.broken e, d, world)
      | (.ok [], world) => (.hungUp, d, world)
      | (.ok (b :: bs), world) =>
        match patience with
        | 0 => (.hungUp, d, world)
        | patience + 1 => converse receive handle patience (d.feed (b :: bs)) state world

end DatabaseGateway.Wire
