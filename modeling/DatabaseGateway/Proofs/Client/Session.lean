import DatabaseGateway.Client.Session
import DatabaseGateway.Proofs.Wire.Conversation
import DatabaseGateway.Proofs.Wire.Frontend

/-!
A session's conversation, as a conversation whose world is the session together with the host: how
it receives, and what its ending leads to.
-/

namespace DatabaseGateway.Client.Session

open Wire

variable {σ α β : Type} {cap : Capability σ} {s s' : Session} {world world' : σ}

abbrev Handling (α β σ : Type) :=
  BackendMessage → α → Session → σ → Turn α (Except ClientError β) × Session × σ

def Handling.handler (handle : Handling α β σ) : Handler α (Except ClientError β) (Session × σ) :=
  fun message state (s, world) => handle message state s world

def receive (cap : Capability σ) : Session × σ → Except ClientError Bytes × Session × σ :=
  fun (s, world) =>
    let (bytes, connection, world) := s.connection.recv cap receiveSize world
    (bytes, { s with connection }, world)

def conclude (cap : Capability σ) (op : Operation) :
    Ending (Except ClientError β) ClientError → Session → σ → Except ClientError β × Session × σ
  | .finished result, s, world => (result, s, world)
  | .broken e, s, world => (.error e, s, world)
  | .garbled e, s, world => s.fail cap ⟨op, .codec e⟩ world
  | .hungUp, s, world => s.fail cap (hungUp op) world

theorem receive_eq_iff {answer : Except ClientError Bytes} :
    receive cap (s, world) = (answer, s', world') ↔
      ∃ c, s.connection.recv cap receiveSize world = (answer, c, world') ∧
        s' = { s with connection := c } := by
  rcases hheard : s.connection.recv cap receiveSize world with ⟨bytes, c, w⟩
  simp only [receive, hheard]
  constructor
  · rintro ⟨⟩
    exact ⟨c, rfl, rfl⟩
  · rintro ⟨_, ⟨⟩, rfl⟩
    rfl

theorem converse_eq {op : Operation} {handle : Handling α β σ} {state : α} {d : Decoder}
    {ending : Ending (Except ClientError β) ClientError}
    (hran : Wire.converse (receive cap) handle.handler (cap.patience world) s.decoder state
      (s, world) = (ending, d, s', world')) :
    converse cap op handle state s world =
      conclude cap op ending { s' with decoder := d } world' := by
  unfold converse
  extract_lets receive'
  have hsame : receive' = receive cap := rfl
  rw [hsame]
  unfold Handling.handler at hran
  rw [hran]
  cases ending <;> rfl

end DatabaseGateway.Client.Session
