import DatabaseGateway.Bytes
import DatabaseGateway.Duration

/-!
A byte stream to a server, as the protocols on top of it see it.
-/

namespace DatabaseGateway

/-- The calls of a byte stream, over the world that it lives in. -/
structure Transport (σ : Type) where
  /-- Sends bytes and says how many were taken. -/
  send : Bytes → σ → Except GatewayError Nat × σ
  /-- Receives at most so many bytes; none at the end of the stream. -/
  recv : (most : Nat) → σ → Except GatewayError Bytes × σ
  /-- Whether the stream is alive, as far as can be told within a span of time. -/
  ping : Duration → σ → Bool × σ
  /-- Sets how long a receive may wait; none brings back the usual span. -/
  setReadTimeout : Option Duration → σ → Except GatewayError Unit × σ
  close : σ → σ
  /-- A bound on how often a receive can still give bytes. -/
  patience : σ → Nat

end DatabaseGateway
