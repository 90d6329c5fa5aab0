import DatabaseGateway.Link.Tcp
import DatabaseGateway.Proofs.Link.Commands
import DatabaseGateway.Proofs.Wire.Conversation

/-!
When the settings get the blame for a link that could not be opened.

Whatever a machine's sockets and the server behind them do, it is reported as an error of the
connection or of the protocol. Of the settings themselves only one thing is looked at, and that
before any traffic: the name of a Redis database has to denote a number. So a dial without
encryption blames the settings if the name does not, and for no other reason
(`Dialer.dial_blames_iff`).
-/

namespace DatabaseGateway

open Wire

variable {σ α β : Type}

def Blameless (result : Except GatewayError α) : Prop :=
  ∀ e, result = .error e → e.kind ≠ .invalidConfig

section Blameless

variable {result : Except GatewayError α} {e : GatewayError}

@[simp] theorem blameless_ok (a : α) : Blameless (.ok a) := nofun

@[simp] theorem blameless_error_iff :
    Blameless (.error e : Except GatewayError α) ↔ e.kind ≠ .invalidConfig := by
  simp [Blameless]

theorem not_blameless_iff :
    ¬ Blameless result ↔ ∃ e, result = .error e ∧ e.kind = .invalidConfig := by
  simp [Blameless]

theorem Blameless.map (h : Blameless result) (f : α → β) : Blameless (result.map f) := by
  cases result with
  | ok a => exact blameless_ok _
  | error e => exact blameless_error_iff.2 (blameless_error_iff.1 h)

theorem Blameless.kind_ne {ran : Except GatewayError α × σ} {world : σ} (h : Blameless ran.1)
    (hfailed : ran = (.error e, world)) : e.kind ≠ .invalidConfig :=
  h e (congrArg Prod.fst hfailed)

theorem Blameless.rethrown {ran : Except GatewayError α × σ} {world : σ} (h : Blameless ran.1)
    (hfailed : ran = (.error e, world)) : Blameless (.error e : Except GatewayError β) :=
  blameless_error_iff.2 (h.kind_ne hfailed)

theorem blameless_mapError {ε : Type} {f : ε → GatewayError}
    (hnames : ∀ x, (f x).kind ≠ .invalidConfig) (result : Except ε α) :
    Blameless (result.mapError f) := by
  cases result with
  | ok a => exact blameless_ok a
  | error x => exact blameless_error_iff.2 (hnames x)

end Blameless

/-- A stream whose errors are not errors in the settings. -/
structure Transport.Blameless (t : Transport σ) : Prop where
  send : ∀ data world, DatabaseGateway.Blameless (t.send data world).1
  recv : ∀ most world, DatabaseGateway.Blameless (t.recv most world).1
  setReadTimeout : ∀ span world, DatabaseGateway.Blameless (t.setReadTimeout span world).1

structure Dialer.Blameless (d : Dialer σ) : Prop where
  transport : d.transport.Blameless
  connect : ∀ key world, DatabaseGateway.Blameless (d.connect key world).1

/-! ### Sockets -/

namespace Tcp

variable (s : Sockets σ)

theorem kind_streamError (call : String) (f : SocketFault) :
    (streamError call f).kind ≠ .invalidConfig := by
  unfold streamError
  split <;> simp [GatewayError.kind]

theorem kind_connectError (target : String) (f : SocketFault) :
    (connectError target f).kind ≠ .invalidConfig := by
  unfold connectError
  split <;> simp [GatewayError.kind]

theorem blameless_setReadTimeout (span : Duration) (world : σ) :
    Blameless (setReadTimeout s span world).1 :=
  blameless_mapError (kind_streamError _) _

/-- The address that is connected to decides, and if there is none, the last fault. -/
theorem blameless_connectFirst (timeout : Duration) (target : String) (last : Option SocketFault)
    (addresses : List String) (world : σ) :
    Blameless (connectFirst s timeout target last addresses world).1 := by
  fun_induction connectFirst s timeout target last addresses world with
  | case1 world fault => exact blameless_error_iff.2 (kind_connectError target fault)
  | case2 world => simp [GatewayError.kind]
  | case3 last world address addresses connected world' hran =>
      exact blameless_setReadTimeout s timeout world'
  | case4 last world address addresses fault world' hfailed ih => exact ih

theorem blameless_openStream (timeout : Duration) (key : PoolKey) (world : σ) :
    Blameless (openStream s timeout key world).1 := by
  unfold openStream
  dsimp only
  split
  · exact blameless_connectFirst s timeout _ none _ _
  · simp [GatewayError.kind]

theorem blameless_transport (recvTimeout : Duration) : (transport s recvTimeout).Blameless where
  send _ _ := blameless_mapError (kind_streamError _) _
  recv _ _ := blameless_mapError (kind_streamError _) _
  setReadTimeout _ _ := blameless_setReadTimeout s _ _

theorem blameless_plain (recvTimeout connectTimeout : Duration) :
    (plain s recvTimeout connectTimeout).Blameless where
  transport := blameless_transport s recvTimeout
  connect key world := by
    unfold plain
    dsimp only
    split
    · next hfailed => exact (blameless_openStream s connectTimeout key world).rethrown hfailed
    · exact blameless_setReadTimeout s recvTimeout _

end Tcp

/-! ### Links -/

namespace Redis

variable {t : Transport σ} (h : t.Blameless)

include h

theorem blameless_readLineFrom (line : Bytes) (world : σ) :
    Blameless (readLineFrom t line world).1 := by
  fun_induction readLineFrom t line world with
  | case1 line world hends => exact blameless_ok line
  | case2 line world hgoesOn hmuch => simp [GatewayError.kind]
  | case3 line world hgoesOn hfew e world' hfailed => exact (h.recv _ world).rethrown hfailed
  | case4 line world hgoesOn hfew world' hended => simp [GatewayError.kind]
  | case5 line world hgoesOn hfew b bs world' hheard ih => exact ih

theorem blameless_exchange (request : Bytes) (world : σ) :
    Blameless (exchange t request world).1 := by
  unfold exchange
  split
  · next hfailed => exact (h.send request world).rethrown hfailed
  · exact blameless_readLineFrom h [] _

theorem blameless_expectOk (request : Bytes) {refusal : String → GatewayError}
    (hnames : ∀ reply, (refusal reply).kind ≠ .invalidConfig) (world : σ) :
    Blameless (expectOk t request refusal world).1 := by
  unfold expectOk
  split
  · next hfailed => exact (blameless_exchange h request world).rethrown hfailed
  · split
    · exact blameless_ok ()
    · exact blameless_error_iff.2 (hnames _)

theorem blameless_logIn (l : Login) (world : σ) : Blameless (logIn t l world).1 := by
  have hpresents : Blameless (present t l world).1 := by
    unfold present
    split
    · exact blameless_ok ()
    · exact blameless_expectOk h _ (by simp [GatewayError.kind]) world
  unfold logIn
  split
  · next hfailed => exact hpresents.rethrown hfailed
  · unfold select
    split
    · exact blameless_ok ()
    · exact blameless_expectOk h _ (by simp [GatewayError.kind]) _

end Redis

namespace Postgres

variable {t : Transport σ} (h : t.Blameless)

include h

/-- No message of the server, and no answer to one, puts an end to a login with the blame on the
settings. -/
theorem blameless_startupMessage {password : Option String} {message : BackendMessage}
    {world world' : σ} {result : Except GatewayError Unit}
    (hended : startupMessage t password message world = (.done result, world')) :
    Blameless result := by
  unfold startupMessage at hended
  split at hended
  case h_2 =>
    split at hended
    · cases hended
      simp [GatewayError.kind]
    · split at hended
      · next hfailed =>
          cases hended
          exact (h.send _ world).rethrown hfailed
      · cases hended
  all_goals
    cases hended
    try simp [GatewayError.kind]

def BlamelessEnd : Ending (Except GatewayError Unit) GatewayError → Prop
  | .finished result => Blameless result
  | .broken e => e.kind ≠ .invalidConfig
  | .garbled _ | .hungUp => True

/-- A login ends with what a message came to, or with the stream. -/
theorem blamelessEnd_converse (password : Option String) (patience : Nat) (d : Decoder)
    (world : σ) :
    BlamelessEnd (converse (t.recv receiveSize)
      (fun message (_ : Unit) world => startupMessage t password message world)
      patience d () world).1 := by
  have hkeeps : Keeps (t.recv receiveSize)
      (fun message (_ : Unit) world => startupMessage t password message world)
      (fun _ _ => True) (fun ending _ => BlamelessEnd ending) :=
    { more := fun _ _ => trivial
      finished := fun _ hended => blameless_startupMessage h hended
      garbled := fun _ => trivial
      broken := fun _ hfailed => (h.recv _ _).kind_ne hfailed
      hungUp := fun _ _ => trivial
      fed := fun _ _ => trivial }
  exact hkeeps.converse patience d () trivial

theorem blameless_startup (key : PoolKey) (password : Option String) (limit : Nat) (world : σ) :
    Blameless (startup t key password limit world).1 := by
  unfold startup
  split
  · next hfailed => exact (h.send _ world).rethrown hfailed
  · next world' hsent =>
      have hended := blamelessEnd_converse h password (t.patience world') { limit } world'
      split
      next ending d world'' hran =>
        rw [hran] at hended
        cases ending with
        | finished result => exact hended
        | broken e => exact blameless_error_iff.2 hended
        | garbled | hungUp => simp [GatewayError.kind]

end Postgres

namespace Link

variable {t : Transport σ} (h : t.Blameless) (key : PoolKey) (password : Option String) (world : σ)

include h

theorem blameless_openPostgres (hostHandshake : Bool) (limit : Nat) :
    Blameless (openPostgres t key password hostHandshake limit world).1 := by
  unfold openPostgres
  split
  · exact (Postgres.blameless_startup h key password limit world).map _
  · exact blameless_ok _

theorem blameless_openRedis {index : Option Nat}
    (hselects : Redis.selectIndex key.database = .ok index) :
    Blameless (openRedis t key password world).1 := by
  unfold openRedis
  simp only [hselects]
  exact (Redis.blameless_logIn h _ world).map _

end Link

/-! ### Dials -/

namespace Redis

theorem selectIndex_refuses_iff {database : String} :
    (∃ e, selectIndex database = .error e) ↔ ∀ n, ¬ Denotes database n := by
  constructor
  · rintro ⟨e, hrefused⟩ n hdenotes
    have haccepted := selectIndex_eq_ok_iff.2 ⟨n, hdenotes, rfl⟩
    cases hrefused.symm.trans haccepted
  · intro hnameless
    cases hselected : selectIndex database with
    | error e => exact ⟨e, rfl⟩
    | ok index =>
        obtain ⟨n, hdenotes, -⟩ := selectIndex_eq_ok_iff.1 hselected
        exact absurd hdenotes (hnameless n)

theorem kind_of_selectIndex {database : String} {e : GatewayError}
    (hrefused : selectIndex database = .error e) : e.kind = .invalidConfig := by
  unfold selectIndex at hrefused
  split at hrefused
  · cases hrefused
  · split at hrefused <;> cases hrefused
    rfl

end Redis

namespace Dialer

variable {d : Dialer σ} {s : DialSettings} {protocol : Option Protocol} {key : PoolKey}
  {password : Option String} {world : σ}

/-- A name that denotes no number is refused before the stream is opened. -/
theorem dial_of_refused {e : GatewayError} (hrefused : Redis.selectIndex key.database = .error e) :
    d.dial s (some .redis) key password world = (.error e, world) := by
  simp [dial, hrefused, Except.map]

section Blameless

variable (h : d.Blameless)

include h

theorem blameless_stream (hplain : s.useTls = false) :
    DatabaseGateway.Blameless (d.stream s protocol key world).1 := by
  unfold stream
  split
  · next hfailed => exact (h.connect key world).rethrown hfailed
  · simp [hplain]

theorem blameless_timed {openLink : σ → Except GatewayError Link × σ}
    (hopens : ∀ world, DatabaseGateway.Blameless (openLink world).1) :
    DatabaseGateway.Blameless (d.timed s openLink world).1 := by
  unfold timed
  split
  · next hfailed => exact (h.transport.setReadTimeout _ world).rethrown hfailed
  · split
    · next hfailed => exact (hopens _).rethrown hfailed
    · split
      · next hfailed => exact (h.transport.setReadTimeout _ _).rethrown hfailed
      · exact blameless_ok _

theorem blameless_link
    (hselects : protocol = some .redis → ∃ index, Redis.selectIndex key.database = .ok index) :
    DatabaseGateway.Blameless (d.link s protocol key password world).1 := by
  unfold link
  split
  · exact blameless_ok _
  · exact blameless_ok _
  · have hopens (world : σ) := Link.blameless_openPostgres h.transport key password world
      s.hostHandshake s.maxFrameSize
    dsimp only
    split
    · exact blameless_timed h hopens
    · exact hopens world
  · obtain ⟨index, hselects⟩ := hselects rfl
    exact blameless_timed h fun world =>
      Link.blameless_openRedis h.transport key password world hselects

theorem blameless_dial (hplain : s.useTls = false)
    (hselects : protocol = some .redis → ∃ index, Redis.selectIndex key.database = .ok index) :
    DatabaseGateway.Blameless (d.dial s protocol key password world).1 := by
  have hchecked : (if protocol = some .redis
      then (Redis.selectIndex key.database).map fun _ => () else .ok ()) = .ok () := by
    split
    · next hredis =>
        obtain ⟨index, hselects⟩ := hselects hredis
        rw [hselects]
        rfl
    · rfl
  unfold dial
  simp only [hchecked]
  split
  · next hfailed => exact (blameless_stream h hplain).rethrown hfailed
  · exact blameless_link h hselects

/-- A dial blames the settings if the name of a Redis database denotes no number, and for no other
reason. -/
theorem dial_blames_iff (hplain : s.useTls = false) :
    (∃ e, (d.dial s protocol key password world).1 = .error e ∧ e.kind = .invalidConfig) ↔
      protocol = some .redis ∧ ∀ n, ¬ Redis.Denotes key.database n := by
  rw [← Redis.selectIndex_refuses_iff, ← not_blameless_iff]
  constructor
  · intro hblames
    refine Classical.byContradiction fun hother =>
      hblames (blameless_dial h hplain fun hredis => ?_)
    cases hselected : Redis.selectIndex key.database with
    | error e => exact absurd ⟨hredis, e, hselected⟩ hother
    | ok index => exact ⟨index, rfl⟩
  · rintro ⟨rfl, e, hrefused⟩
    rw [dial_of_refused hrefused, blameless_error_iff]
    exact not_not_intro (Redis.kind_of_selectIndex hrefused)

end Blameless

end Dialer

namespace Tcp

variable (t : Transport σ) (recvTimeout connectTimeout : Duration) (key : PoolKey) (world : σ)

theorem connect_plain_offline :
    (plain .offline recvTimeout connectTimeout).connect key world =
      (Dialer.unreachable t).connect key world := by
  have hwording : ": " ++ "Network is unreachable (os error 101)" =
      ": Network is unreachable (os error 101)" := by decide
  simp only [plain, openStream, Sockets.offline, connectFirst, connectError, SocketFault.late,
    Dialer.unreachable, Bool.false_eq_true, if_false, String.append_assoc, toString, hwording]

/-- Without a network, a dial comes to the same as one that tries nothing. -/
theorem dial_plain_offline (s : DialSettings) (protocol : Option Protocol)
    (password : Option String) :
    (plain .offline recvTimeout connectTimeout).dial s protocol key password world =
      (Dialer.unreachable t).dial s protocol key password world := by
  unfold Dialer.dial
  dsimp only
  split
  · rfl
  · simp only [Dialer.stream, connect_plain_offline t]
    rfl

end Tcp

end DatabaseGateway
