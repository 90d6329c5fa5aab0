import DatabaseGateway.Client.Config
import DatabaseGateway.Proofs.Link.Refusals
import DatabaseGateway.Proofs.Pool.Service

/-!
When a request that was accepted is turned away with the blame on its settings.

A request is looked at before any call of the host, and again by the gateway. Behind that the only
errors that blame the settings are those of dials (`Traffic.Told` is the invariant), and a dial
without encryption blames the name of a Redis database that denotes no number. This could have been
seen before, but is not: the request is accepted, and turned away by the gateway
(`only_misnamed_blamed`).
-/

namespace DatabaseGateway

/-- The request is for a Redis database, and its name denotes no number. -/
def ConnectConfig.Misnamed (r : ConnectConfig) : Prop :=
  r.protocol = .redis ∧ ∀ n, ¬ Redis.Denotes r.database n

/-- The ways in which dials without encryption fail. -/
inductive Tcp.Fails (config : PoolConfig) (key : PoolKey) (password : Option String) :
    GatewayError → Prop
  | dialed {σ : Type} (s : Sockets σ) (world : σ) {e : GatewayError}
      (failed : (dial s config key password world).1 = .error e) : Fails config key password e
  /-- The thread of a dial is lost. -/
  | lost (detail : String) :
      Fails config key password (.connectionRefused s!"connect task failed: {detail}")

def Move.FailsBy (fails : PoolKey → Option String → GatewayError → Prop) : Move → Prop
  | resume _ (.dial key password) (.dialed (.error e)) _ _ => fails key password e
  | _ => True

def Move.refusal? : Move → Option (Order × GatewayError)
  | resume op _ _ (.done (.error e)) _ => op.order?.map fun order => (order, e)
  | _ => none

namespace Traffic

def FailsBy (t : Traffic) (fails : PoolKey → Option String → GatewayError → Prop) : Prop :=
  ∀ m ∈ t.log, m.FailsBy fails

def refusal? (t : Traffic) : Option (Order × GatewayError) := t.log.head?.bind Move.refusal?

/-- If a request is to be turned away with the blame on its settings, it was told so by a dial. -/
def Told (t : Traffic) (fails : PoolKey → Option String → GatewayError → Prop) : Prop :=
  ∀ order e, .checkout order (.refunding e) ∈ t.flights → e.kind = .invalidConfig →
    fails order.key order.request.password e

end Traffic

/-- Whatever sockets and servers do, the request is not turned away with the blame on its
settings. -/
def ConnectConfig.NeverBlamed (config : PoolConfig) (r : ConnectConfig) : Prop :=
  ∀ t order e, Traffic.Reachable config t → t.FailsBy (Tcp.Fails config) →
    t.refusal? = some (order, e) → order.request = r → e.kind ≠ .invalidConfig

/-! ### Dials -/

namespace Tcp

variable {config : PoolConfig} {r : ConnectConfig} {e : GatewayError}

theorem Fails.misnamed (hunencrypted : config.useTls = false)
    (h : Fails config (.ofConfig r) r.password e) (hblames : e.kind = .invalidConfig) :
    r.Misnamed := by
  cases h with
  | dialed s world hfailed =>
      have hplain := blameless_plain s config.recvTimeout config.connectTimeout
      have hblamed : ∃ e, (dial s config (.ofConfig r) r.password world).1 = .error e ∧
          e.kind = .invalidConfig := ⟨e, hfailed, hblames⟩
      rw [dial, Dialer.dial_blames_iff hplain hunencrypted] at hblamed
      exact ⟨Option.some.inj hblamed.1, hblamed.2⟩
  | lost => cases hblames

/-- If the name denotes no number, every dial is refused, with no call of any socket. -/
theorem exists_dial_eq (config : PoolConfig) (hmisnamed : r.Misnamed) :
    ∃ e : GatewayError, e.kind = .invalidConfig ∧
      ∀ {σ : Type} (s : Sockets σ) (world : σ),
        dial s config (.ofConfig r) r.password world = (.error e, world) := by
  obtain ⟨hredis, hnameless⟩ := hmisnamed
  obtain ⟨e, hrefused⟩ := Redis.selectIndex_refuses_iff.2 hnameless
  have hprotocol : (PoolKey.ofConfig r).protocol = .redis := hredis
  refine ⟨e, Redis.kind_of_selectIndex hrefused, fun s world => ?_⟩
  rw [dial, hprotocol]
  exact Dialer.dial_of_refused hrefused

end Tcp

/-! ### Errors that blame the settings -/

theorem Registry.blameless_insert {α : Type} (registry : Registry α) (owner : InstanceId)
    (item : α) : Blameless (registry.insert owner item) := by
  unfold insert
  dsimp only
  split
  · simp [GatewayError.kind]
  · split
    · exact blameless_ok _
    · split
      · simp [GatewayError.kind]
      · exact blameless_ok _

theorem Gateway.blameless_issue (g : Gateway) (owner : InstanceId) (conn : PooledConnection) :
    Blameless (g.issue owner conn) := by
  unfold issue
  cases hinserted : g.registry.insert owner conn.key with
  | error e =>
      have hinserts := g.registry.blameless_insert owner conn.key e hinserted
      exact blameless_error_iff.2 hinserts
  | ok issued => exact blameless_ok _

namespace Checkout

def error? : Next Checkout (Except GatewayError Handle) → Option GatewayError
  | .stage (.refunding e) | .done (.error e) => some e
  | _ => none

/-- How a request comes to an error in its settings in a step. -/
inductive Blames (order : Order) (e : GatewayError) :
    Checkout → Reply → Next Checkout (Except GatewayError Handle) → Prop
  /-- The look at the request finds a fault. -/
  | invalid {reply : Reply} (refused : order.request.validate = .error e) :
      Blames order e .screen reply (.done (.error e))
  /-- Its dial says so. -/
  | dialed : Blames order e .dialing (.dialed (.error e)) (.stage (.refunding e))
  /-- It has come to this error before, and its room is given back. -/
  | refunded {reply : Reply} : Blames order e (.refunding e) reply (.done (.error e))

variable {g : Gateway} {now : Instant} {order : Order} {reply : Reply} {stage : Checkout}
  {e : GatewayError}

/-- There is no other way to an error in the settings. -/
theorem blames_of_error? (hcomes : error? (stage.resume g now order reply).next = some e)
    (hblames : e.kind = .invalidConfig) :
    Blames order e stage reply (stage.resume g now order reply).next := by
  cases stage with
  | screen =>
      cases hlooked : order.request.validate with
      | error e' =>
          simp only [resume, hlooked, error?] at hcomes ⊢
          cases hcomes
          exact .invalid hlooked
      | ok =>
          simp only [resume, hlooked] at hcomes
          split at hcomes <;> cases hcomes
          cases hblames
  | inspect =>
      cases hpresent : g.pool? order.key with
      | none =>
          simp only [resume, hpresent, error?] at hcomes
          cases hcomes
      | some pool =>
          rcases hacquired : pool.acquire with ⟨found, pool'⟩
          cases found with
          | idle conn =>
              simp only [resume, hpresent, inspectPool, hacquired] at hcomes
              split at hcomes <;> cases hcomes
          | room | swept =>
              simp only [resume, hpresent, inspectPool, hacquired, error?] at hcomes
              cases hcomes
          | full =>
              simp only [resume, hpresent, inspectPool, hacquired, error?] at hcomes
              cases hcomes
              cases hblames
  | probing conn =>
      unfold resume at hcomes
      dsimp only at hcomes
      split at hcomes <;> cases hcomes
  | dialing =>
      unfold resume at hcomes ⊢
      dsimp only at hcomes ⊢
      split at hcomes <;> cases hcomes
      · exact .dialed
      · cases hblames
  | refunding =>
      cases hcomes
      exact .refunded
  | entering conn =>
      unfold resume at hcomes
      dsimp only at hcomes
      split at hcomes <;> cases hcomes
      next hfailed => exact absurd hblames (g.blameless_issue _ _ _ hfailed)
  | locate | await | discarding => cases hcomes

end Checkout

namespace Operation

variable {g : Gateway} {now : Instant} {reply : Reply} {op : Operation} {order : Order}
  {stage : Checkout} {e : GatewayError}

theorem eq_of_order? (hsees : op.order? = some order) :
    (∃ stage, op = checkout order stage) ∨ ∃ owner, op = guarded owner (.checkout order) := by
  unfold order? at hsees
  split at hsees <;> cases hsees
  · exact .inl ⟨_, rfl⟩
  · exact .inr ⟨_, rfl⟩

theorem next_of_checkout
    (hends : ((checkout order stage).resume g now reply).next = .done (.error e)) :
    (stage.resume g now order reply).next = .done (.error e) := by
  obtain ⟨result, hended, hsame⟩ := exists_done_of_checkout hends
  cases result with
  | ok handle => cases hsame
  | error e' =>
      cases hsame
      exact hended

/-- To a guest that is gone, nothing is said about its settings. -/
theorem kind_of_guarded {owner : InstanceId} {call : Call}
    (hends : ((guarded owner call).resume g now reply).next = .done (.error e)) :
    e.kind ≠ .invalidConfig := by
  unfold resume at hends
  dsimp only at hends
  split at hends <;> cases hends
  simp [retiredError, GatewayError.kind]

end Operation

theorem Move.eq_of_refusal? {m : Move} {order : Order} {e : GatewayError}
    (h : m.refusal? = some (order, e)) : ∃ op demand reply closed,
      m = resume op demand reply (.done (.error e)) closed ∧ op.order? = some order := by
  unfold refusal? at h
  split at h
  · next op demand reply e' closed =>
      obtain ⟨order', hsees, hsame⟩ := Option.map_eq_some_iff.mp h
      obtain ⟨rfl, rfl⟩ := Prod.mk.inj hsame
      exact ⟨op, demand, reply, closed, rfl, hsees⟩
  · cases h

theorem Move.failsBy_of_foretold {fails : PoolKey → Option String → GatewayError → Prop}
    {passes : Nat → Bool} {e : GatewayError} {m : Move} (htold : m.Foretold ⟨passes, .error e⟩)
    (hpossible : ∀ key password, .called (.dial key password) ∈ m.effects → fails key password e) :
    m.FailsBy fails := by
  unfold FailsBy
  split
  · next key password e' next closed =>
      cases htold
      exact hpossible key password (by simp [effects, Demand.effects])
  · trivial

namespace Traffic

variable {config : PoolConfig} {t t' : Traffic} {order : Order} {e : GatewayError}
  {fails : PoolKey → Option String → GatewayError → Prop}

theorem Step.failsBy (hstep : Step t t') (hfails : t'.FailsBy fails) : t.FailsBy fails := by
  obtain ⟨m, hlog, -⟩ := hstep.log
  intro m' hm'
  exact hfails m' (hlog ▸ List.mem_cons_of_mem m hm')

theorem Step.told (hstep : Step t t') (h : t.Told fails) (hfails : t'.FailsBy fails) :
    t'.Told fails := by
  cases hstep with
  | @begin op hinitial =>
      intro order e hop
      rcases List.mem_append.mp hop with hop | hop
      · exact h order e hop
      · rw [← List.mem_singleton.mp hop] at hinitial
        generalize hop' : Operation.checkout order (.refunding e) = op' at hinitial
        cases hinitial with
        | call call => cases call <;> cases hop'
        | guarded | retire => cases hop'
  | attach | settle => exact h
  | @resume before after op now reply hflights hadmits =>
      intro order e hop hblames
      rcases mem_flights_resume hflights hop with hop | hnext
      · exact h order e hop hblames
      · generalize hop' : Operation.checkout order (.refunding e) = op' at hnext
        cases Operation.follows_resume hnext with
        | checkout order' stage stage' =>
            obtain ⟨rfl, rfl⟩ := Operation.checkout.inj hop'
            rcases Progress.mem_stages_lift hnext with ⟨s, hs, hmem⟩ | ⟨r, -, hr⟩
            · obtain ⟨-, rfl⟩ := Operation.checkout.inj (List.mem_singleton.mp hmem)
              have hblames := Checkout.blames_of_error? (by rw [hs]; rfl) hblames
              rw [hs] at hblames
              -- The dial has failed in this step, and with this error.
              cases hblames
              exact hfails _ List.mem_cons_self
            · cases hr
        | guarded owner call => cases call <;> cases hop'
        | _ => cases hop'

theorem Reachable.told (h : Reachable config t) (hfails : t.FailsBy fails) : t.Told fails := by
  induction h with
  | refl => intro order e hop; cases hop
  | tail _ hstep ih => exact hstep.told (ih (hstep.failsBy hfails)) hfails

/-- A request that is turned away with the blame on its settings is faulty, or its dial has failed
so. -/
theorem Reachable.refusal (h : Reachable config t) (hfails : t.FailsBy fails)
    (hrefusal : t.refusal? = some (order, e)) (hblames : e.kind = .invalidConfig) :
    order.request.validate = .error e ∨ fails order.key order.request.password e := by
  rcases h.last with rfl | ⟨t₀, h₀, hstep⟩
  · cases hrefusal
  have htold := h₀.told (hstep.failsBy hfails)
  cases hstep with
  | begin | attach | settle => cases hrefusal
  | @resume before after op now reply hflights hadmits =>
      obtain ⟨_, _, _, _, hmove, hsees⟩ := Move.eq_of_refusal? hrefusal
      obtain ⟨rfl, -, -, hends, -⟩ := Move.resume.inj hmove
      rcases Operation.eq_of_order? hsees with ⟨stage, rfl⟩ | ⟨owner, rfl⟩
      · have hdone := Operation.next_of_checkout hends
        have hblames := Checkout.blames_of_error? (by rw [hdone]; rfl) hblames
        rw [hdone] at hblames
        cases hblames with
        | invalid hrefused => exact .inl hrefused
        | refunded => exact .inr (htold order e (mem_flights hflights) hblames)
      · exact absurd hblames (Operation.kind_of_guarded hends)

/-- The first request is turned away with the error of its dial, if the dial fails. -/
theorem exists_refusal (hsize : 0 < config.maxSize) {r : ConnectConfig}
    (hvalid : r.validate = .ok ()) (hfails : fails (.ofConfig r) r.password e) :
    ∃ t, Reachable config t ∧ t.FailsBy fails ∧ t.refusal? = some (⟨1, r⟩, e) := by
  let order : Order := ⟨1, r⟩
  let pool : Pool := { capacity := min r.poolSize.toNat config.maxSize }
  have hpool : ((init config).gateway.ensurePool order.key r.poolSize.toNat).pool? order.key =
      some pool := by
    rw [Gateway.pool?_ensurePool, if_pos rfl]
    rfl
  have hroom : pool.total < pool.capacity :=
    Nat.lt_min.mpr ⟨ConnectConfig.poolSize_pos hvalid, hsize⟩
  have hrun : RunsTo ⟨fun _ => true, .error e⟩ [] (init config).gateway (.checkout order .screen)
      [.called (.dial order.key r.password)] _ (.error e) :=
    Checkout.runsTo_screen hvalid rfl
      (Checkout.runsTo_inspect_room hpool rfl hroom (Checkout.runsTo_dialing_error rfl rfl))
  obtain ⟨moves, hsolo, htold, heffects⟩ := hrun.runs 0
  obtain ⟨t, h, -, -, hlog, -⟩ := Solo.run .refl rfl (.call (.checkout order)) hsolo
  refine ⟨t, h, fun m hm => ?_, ?_⟩
  · rw [hlog] at hm
    rcases List.mem_append.mp hm with hm | hm
    · refine Move.failsBy_of_foretold (htold m hm) fun key password hcalled => ?_
      -- There has been one dial, the one for the request.
      have hcall : .called (.dial key password) ∈ effectsOf moves :=
        List.mem_flatMap.mpr ⟨m, List.mem_reverse.mpr hm, hcalled⟩
      rw [heffects, List.mem_singleton] at hcall
      cases hcall
      exact hfails
    · obtain rfl := List.mem_singleton.mp hm
      trivial
  · obtain ⟨stage, demand, reply, closed, rest, hmoves⟩ := hsolo.answer
    rw [refusal?, hlog, hmoves]
    rfl

end Traffic

/-! ### Requests that were accepted -/

variable {config : PoolConfig} {r : ConnectConfig}

theorem ConnectConfig.not_neverBlamed (hroom : 0 < config.maxSize) (hvalid : r.validate = .ok ())
    (hmisnamed : r.Misnamed) : ¬ r.NeverBlamed config := by
  obtain ⟨e, hblames, hrefused⟩ := Tcp.exists_dial_eq config hmisnamed
  have hfails : Tcp.Fails config (.ofConfig r) r.password e :=
    .dialed .offline () (by rw [hrefused])
  obtain ⟨t, hreachable, hfailsBy, hrefusal⟩ := Traffic.exists_refusal hroom hvalid hfails
  exact fun hnever => hnever t _ e hreachable hfailsBy hrefusal rfl hblames

theorem ConnectConfig.neverBlamed (hunencrypted : config.useTls = false)
    (hvalid : r.validate = .ok ()) (hnamed : ¬ r.Misnamed) : r.NeverBlamed config := by
  rintro t order e hreachable hfailsBy hrefusal rfl hblames
  rcases hreachable.refusal hfailsBy hrefusal hblames with hinvalid | hfails
  · cases hinvalid.symm.trans hvalid
  · exact hnamed (hfails.misnamed hunencrypted hblames)

theorem Client.ClientConfig.validate_of_toConnectConfig {c : ClientConfig}
    (haccepted : c.toConnectConfig = .ok r) : r.validate = .ok () := by
  unfold toConnectConfig at haccepted
  split at haccepted <;> cases haccepted
  assumption

open Client in
/-- A request that a client's settings were accepted for, on its way through a gateway that does not
encrypt. If it is for a Redis database whose name denotes no number, every dial for it is refused
with the blame on the settings, with no call of any socket, and so is the request, unless the
gateway has no room for any. No other request is ever turned away with the blame on its settings,
whatever sockets and servers do. -/
theorem only_misnamed_blamed {c : ClientConfig} (hunencrypted : config.useTls = false)
    (haccepted : c.toConnectConfig = .ok r) :
    (r.Misnamed →
      (∃ e : GatewayError, e.kind = .invalidConfig ∧ ∀ {σ : Type} (s : Sockets σ) (world : σ),
        Tcp.dial s config (.ofConfig r) r.password world = (.error e, world)) ∧
      (0 < config.maxSize → ¬ r.NeverBlamed config)) ∧
    (¬ r.Misnamed →
      (∀ {σ : Type} (s : Sockets σ) (world : σ),
        Blameless (Tcp.dial s config (.ofConfig r) r.password world).1) ∧
      r.NeverBlamed config) := by
  have hvalid := ClientConfig.validate_of_toConnectConfig haccepted
  constructor
  · intro hmisnamed
    exact ⟨Tcp.exists_dial_eq config hmisnamed,
      fun hroom => ConnectConfig.not_neverBlamed hroom hvalid hmisnamed⟩
  · intro hnamed
    refine ⟨fun s world e hfailed hblames => ?_, ConnectConfig.neverBlamed hunencrypted hvalid
      hnamed⟩
    exact hnamed ((Tcp.Fails.dialed s world hfailed).misnamed hunencrypted hblames)

namespace Client

def cacheConfig (database : String) : ClientConfig :=
  { host := "cache", database, username := "u", protocol := .redis }

theorem only_misnamed_blamed_numbered :
    (cacheConfig "+7").toConnectConfig = .ok (cacheConfig "+7").request ∧
      (cacheConfig "+7").request.NeverBlamed {} := by
  have haccepted : (cacheConfig "+7").toConnectConfig = .ok (cacheConfig "+7").request := rfl
  have hdenotes : Redis.Denotes "+7" 7 := Redis.denotes_iff.2 (.inr rfl)
  have hnamed : ¬ (cacheConfig "+7").request.Misnamed := fun hmisnamed => hmisnamed.2 7 hdenotes
  exact ⟨haccepted, ((only_misnamed_blamed rfl haccepted).2 hnamed).2⟩

/-- A name that is no number is accepted by the client, and refused by the gateway. -/
theorem exists_accepted_blamed :
    (cacheConfig "app").toConnectConfig = .ok (cacheConfig "app").request ∧
      (∀ {σ : Type} (s : Sockets σ) (world : σ),
        Tcp.dial s {} (.ofConfig (cacheConfig "app").request) none world =
          (.error (.invalidConfig "redis database must be a numeric index, got 'app'"), world)) ∧
      ¬ (cacheConfig "app").request.NeverBlamed {} := by
  have hrefused : Redis.selectIndex "app" =
      .error (.invalidConfig "redis database must be a numeric index, got 'app'") := rfl
  have hmisnamed : (cacheConfig "app").request.Misnamed :=
    ⟨rfl, Redis.selectIndex_refuses_iff.1 ⟨_, hrefused⟩⟩
  exact ⟨rfl, fun s world => Dialer.dial_of_refused hrefused,
    ConnectConfig.not_neverBlamed (by decide) rfl hmisnamed⟩

end Client

end DatabaseGateway
