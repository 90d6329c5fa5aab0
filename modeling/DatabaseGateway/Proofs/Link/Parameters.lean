import DatabaseGateway.Link.Postgres
import DatabaseGateway.Link.ScriptedSocket
import DatabaseGateway.Proofs.Wire.Conversation
import DatabaseGateway.Proofs.Wire.Startup

/-!
What a server is told when the gateway logs in for a guest: one packet with the names of the user
and the database, and the password whenever the server asks for it.

The packet is a row of texts, each ended by a zero byte, and a request is accepted whatever bytes
its names have. Names without zero bytes are read as they were asked for (`login_as_asked`). With
zero bytes a guest can add any parameter of a session that it likes (`login_with_parameter`).
-/

namespace DatabaseGateway

open Wire

variable {σ : Type}

def Transport.recorded (t : Transport σ) : Transport (σ × List Bytes) where
  send data := fun (world, log) =>
    let (answer, world) := t.send data world
    (answer, world, log ++ [data])
  recv most := fun (world, log) =>
    let (answer, world) := t.recv most world
    (answer, world, log)
  ping span := fun (world, log) =>
    let (alive, world) := t.ping span world
    (alive, world, log)
  setReadTimeout span := fun (world, log) =>
    let (answer, world) := t.setReadTimeout span world
    (answer, world, log)
  close := fun (world, log) => (t.close world, log)
  patience := fun (world, _) => t.patience world

namespace Postgres

variable {t : Transport σ} {password : Option String} {w w' : σ × List Bytes}

/-- What was sent between two states of a stream with a record is the password and nothing else. -/
def Passwords (password : Option String) (w w' : σ × List Bytes) : Prop :=
  ∃ later, w'.2 = w.2 ++ later ∧
    ∀ data ∈ later, ∃ p, password = some p ∧ data = (FrontendMessage.password p).encode

theorem Passwords.refl : Passwords password w w := ⟨[], by simp, by simp⟩

theorem Passwords.trans {w'' : σ × List Bytes} (hfirst : Passwords password w w')
    (hsecond : Passwords password w' w'') : Passwords password w w'' := by
  obtain ⟨later, hlog, hown⟩ := hfirst
  obtain ⟨later', hlog', hown'⟩ := hsecond
  refine ⟨later ++ later', by rw [hlog', hlog, List.append_assoc], fun data hmem => ?_⟩
  exact (List.mem_append.1 hmem).elim (hown data) (hown' data)

theorem passwords_of_recv {most : Nat} {answer : Except GatewayError Bytes}
    (hheard : t.recorded.recv most w = (answer, w')) : Passwords password w w' := by
  cases hheard
  exact ⟨[], by simp, by simp⟩

theorem passwords_of_send {p : String} {answer : Except GatewayError Nat}
    (hsent : t.recorded.send (FrontendMessage.password p).encode w = (answer, w')) :
    Passwords (some p) w w' := by
  cases hsent
  exact ⟨[_], rfl, by simp⟩

theorem passwords_of_startupMessage {message : BackendMessage}
    {turn : Turn Unit (Except GatewayError Unit)}
    (hhandled : startupMessage t.recorded password message w = (turn, w')) :
    Passwords password w w' := by
  unfold startupMessage at hhandled
  split at hhandled
  case h_2 =>
    split at hhandled
    · cases hhandled
      exact .refl
    · split at hhandled <;> next hsent =>
        cases hhandled
        exact passwords_of_send hsent
  all_goals
    cases hhandled
    exact .refl

/-- A login sends its packet first, and then nothing but the password. -/
theorem startup_sends (t : Transport σ) (key : PoolKey) (password : Option String) (limit : Nat)
    (w : σ × List Bytes) :
    ∃ later, (startup t.recorded key password limit w).2.2 =
        w.2 ++ StartupPacket.encodeLogin key.user key.database :: later ∧
      ∀ data ∈ later, ∃ p, password = some p ∧ data = (FrontendMessage.password p).encode := by
  rcases hsent : t.recorded.send (StartupPacket.encodeLogin key.user key.database) w with
    ⟨answer, w₁⟩
  have hfirst : w₁.2 = w.2 ++ [StartupPacket.encodeLogin key.user key.database] := by
    cases hsent
    rfl
  suffices hbehind : Passwords password w₁ (startup t.recorded key password limit w).2 by
    obtain ⟨later, hlog, hown⟩ := hbehind
    exact ⟨later, by rw [hlog, hfirst, List.append_assoc]; rfl, hown⟩
  unfold startup
  rw [hsent]
  cases answer with
  | error e => exact .refl
  | ok n =>
      have hkeeps : Keeps (t.recorded.recv receiveSize)
          (fun message (_ : Unit) world => startupMessage t.recorded password message world)
          (fun _ => Passwords password w₁) (fun _ => Passwords password w₁) :=
        { more := fun hbefore hhandled => hbefore.trans (passwords_of_startupMessage hhandled)
          finished := fun hbefore hhandled => hbefore.trans (passwords_of_startupMessage hhandled)
          garbled := id
          broken := fun hbefore hheard => hbefore.trans (passwords_of_recv hheard)
          hungUp := fun hbefore hheard => hbefore.trans (passwords_of_recv hheard)
          fed := fun hbefore hheard => hbefore.trans (passwords_of_recv hheard) }
      have hended := hkeeps.converse (t.recorded.patience w₁) { limit } () .refl
      rcases hran : converse (t.recorded.recv receiveSize)
        (fun message (_ : Unit) world => startupMessage t.recorded password message world)
        (t.recorded.patience w₁) { limit } () w₁ with ⟨ending, d, w₂⟩
      rw [hran] at hended
      simp only [hran]
      cases ending <;> exact hended

end Postgres

namespace ConnectConfig

/-- The server reads from a login what was asked for: the user, the database and nothing else, and
the password if there is one. -/
def LoginAsAsked (c : ConnectConfig) : Prop :=
  let packet := StartupPacket.encodeLogin c.user c.database
  StartupPacket.decode packet = .ok (some
      (.startup protocolVersion [("user", c.user), ("database", c.database)], packet.length)) ∧
    ∀ p, c.password = some p → FrontendMessage.parseAll (FrontendMessage.password p).encode =
      .ok ⟨[.password p], (FrontendMessage.password p).encode.length⟩

/-- The names and the password of a request have no zero bytes and are not too large. -/
@[mk_iff]
structure Plain (c : ConnectConfig) : Prop where
  user : NulFree c.user
  database : NulFree c.database
  within : (StartupPacket.encodeLogin c.user c.database).length ≤ defaultMaxFrameSize + 4
  password : ∀ p, c.password = some p →
    NulFree p ∧ (Text.encode p).length + 1 ≤ defaultMaxFrameSize

variable {c : ConnectConfig}

theorem named_login_iff {user database : String} :
    (∀ param ∈ [("user", user), ("database", database)], StartupPacket.Named param) ↔
      NulFree user ∧ NulFree database := by
  have huser : NulFree "user" := by decide
  have hdatabase : NulFree "database" := by decide
  simp [StartupPacket.Named, huser, hdatabase]

theorem parseAll_password_iff {p : String} :
    FrontendMessage.parseAll (FrontendMessage.password p).encode =
        .ok ⟨[.password p], (FrontendMessage.password p).encode.length⟩ ↔
      NulFree p ∧ (Text.encode p).length + 1 ≤ defaultMaxFrameSize := by
  have hone : FrontendMessage.encodeAll [.password p] = (FrontendMessage.password p).encode :=
    List.flatMap_singleton ..
  rw [FrontendMessage.parseAll_eq_iff (hone ▸ List.prefix_rfl), hone, List.forall_mem_singleton,
    FrontendMessage.representable_iff]
  simp [FrontendMessage.Worded, FrontendMessage.payload, putText]

theorem loginAsAsked_iff : c.LoginAsAsked ↔ c.Plain := by
  rw [LoginAsAsked, StartupPacket.encodeLogin, StartupPacket.decode_encodeParams_iff,
    named_login_iff, plain_iff, and_assoc, and_assoc]
  simp only [parseAll_password_iff]
  rfl

/-- What stands behind a zero byte in the name of the user is read as a parameter of its own. -/
theorem encodeLogin_parameter (user key value database : String) :
    StartupPacket.encodeLogin (user ++ "\x00" ++ key ++ "\x00" ++ value) database =
      StartupPacket.encodeParams [("user", user), (key, value), ("database", database)] := by
  have hzero : Text.encode "\x00" = [0] := rfl
  simp [StartupPacket.encodeLogin, StartupPacket.encodeParams, StartupPacket.putParams, putText,
    Text.encode_append, hzero]

theorem validate_eq_ok_iff : c.validate = .ok () ↔
    Text.trim c.host.toList ≠ [] ∧ c.port ≠ 0 ∧ c.database ≠ "" ∧ c.user ≠ "" ∧ c.poolSize ≠ 0 := by
  unfold validate
  fun_cases fault? c <;> simp_all

/-- Whatever parameter a guest likes, there is a request for it that is accepted. -/
theorem login_with_parameter {key value : String} (hvalid : c.validate = .ok ())
    (huser : NulFree c.user) (hdatabase : NulFree c.database)
    (hnamed : StartupPacket.Named (key, value))
    (hwithin : (StartupPacket.encodeParams
      [("user", c.user), (key, value), ("database", c.database)]).length ≤
        defaultMaxFrameSize + 4) :
    ∃ user, { c with user }.validate = .ok () ∧
      ∃ used, StartupPacket.decode (StartupPacket.encodeLogin user c.database) = .ok (some
        (.startup protocolVersion [("user", c.user), (key, value), ("database", c.database)],
          used)) := by
  have hnames := named_login_iff.2 ⟨huser, hdatabase⟩
  have hall : ∀ param ∈ [("user", c.user), (key, value), ("database", c.database)],
      StartupPacket.Named param := by
    simp only [List.forall_mem_cons] at hnames ⊢
    exact ⟨hnames.1, hnamed, hnames.2⟩
  have hread := StartupPacket.decode_encodeParams_iff.2 ⟨hall, hwithin⟩
  rw [← encodeLogin_parameter] at hread
  obtain ⟨host, hport, hdatabase, -, hpoolSize⟩ := validate_eq_ok_iff.1 hvalid
  exact ⟨c.user ++ "\x00" ++ key ++ "\x00" ++ value,
    validate_eq_ok_iff.2 ⟨host, hport, hdatabase, by simp, hpoolSize⟩, _, hread⟩

end ConnectConfig

/-- A login for a request sends the packet with its names, and then at most the password. The server
reads from these what was asked for exactly if the request is plain. -/
theorem login_as_asked (t : Transport σ) (c : ConnectConfig) (limit : Nat) (w : σ × List Bytes) :
    (∃ later, (Postgres.startup t.recorded (.ofConfig c) c.password limit w).2.2 =
        w.2 ++ StartupPacket.encodeLogin c.user c.database :: later ∧
      ∀ data ∈ later, ∃ p, c.password = some p ∧ data = (FrontendMessage.password p).encode) ∧
    (c.LoginAsAsked ↔ c.Plain) :=
  ⟨Postgres.startup_sends t (.ofConfig c) c.password limit w, ConnectConfig.loginAsAsked_iff⟩

/-- The name of a user that brings the options of its session along. -/
theorem exists_not_loginAsAsked :
    let c : ConnectConfig :=
      { host := "db", port := 5432, database := "shop", user := "app\x00options\x00-c role=root" }
    c.validate = .ok () ∧
      StartupPacket.decode (StartupPacket.encodeLogin c.user c.database) = .ok (some
        (.startup protocolVersion
          [("user", "app"), ("options", "-c role=root"), ("database", "shop")], 53)) ∧
      ¬ c.LoginAsAsked := by
  intro c
  have hspelled : c.user = "app" ++ "\x00" ++ "options" ++ "\x00" ++ "-c role=root" := rfl
  refine ⟨ConnectConfig.validate_eq_ok_iff.2 (by decide +kernel), ?_, fun hasked => ?_⟩
  · have hnamed : ∀ param ∈ [("user", "app"), ("options", "-c role=root"), ("database", "shop")],
        StartupPacket.Named param := by decide
    rw [hspelled, ConnectConfig.encodeLogin_parameter]
    exact StartupPacket.decode_encodeParams_iff.2 ⟨hnamed, by decide⟩
  · exact absurd (ConnectConfig.loginAsAsked_iff.1 hasked).user (by decide)

end DatabaseGateway
