import DatabaseGateway.Bytes
import DatabaseGateway.Config.Connect
import DatabaseGateway.Handle.Registry

/-!
What a host offers a guest: four calls, and nothing else. The host's state is a world that each
call may change.
-/

namespace DatabaseGateway

/-- The four calls of a host, over its world. -/
structure Capability (σ : Type) where
  /-- Asks for a connection. -/
  connect : ConnectConfig → σ → Except GatewayError Handle × σ
  /-- Sends bytes and says how many were accepted. -/
  send : Handle → Bytes → σ → Except GatewayError Nat × σ
  /-- Receives at most so many bytes; none when no more will come. -/
  recv : Handle → (most : Nat) → σ → Except GatewayError Bytes × σ
  /-- Gives a connection back. -/
  close : Handle → σ → Except GatewayError Unit × σ
  /-- A bound on how often the host can still answer a receive with bytes. -/
  patience : σ → Nat

end DatabaseGateway
