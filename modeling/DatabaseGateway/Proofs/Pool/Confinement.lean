import DatabaseGateway.Proofs.Pool.Edit
import DatabaseGateway.Proofs.Pool.Ownership
import DatabaseGateway.Proofs.Pool.Solo

/-!
What a handle is good for. The handle is all that a guest needs in order to use a connection: no
call asks for whom the handle was issued. But a call is confined to its handle. It reaches the
connection behind this handle and leaves all else alone; and with a handle that is not live, or from
a guest that is gone, it reaches nothing at all.
-/

namespace DatabaseGateway

def Call.handle? : Call → Option Handle
  | use handle _ | release handle => some handle
  | checkout _ | teardown _ | reap | sweep | drain => none

def Demand.socket? : Demand → Option Nat
  | .check socket _ _ | .send socket _ | .recv socket _ => some socket
  | .nothing | .dial .. | .notice | .pause _ => none

def Operation.reached (op : Operation) (g : Gateway) (now : Instant) (reply : Reply) : List Nat :=
  (op.demand g).socket?.toList ++ (op.resume g now reply).closed.map (·.socket)

/-- What a call with a handle can come to, stage by stage. -/
inductive Operation.Wields (handle : Handle) : Operation → Prop
  | guarded (guest : InstanceId) {call : Call} (hcall : call.handle? = some handle) :
      Wields handle (guarded guest call)
  | exchange (use : Use) (stage : Exchange) : Wields handle (exchange handle use stage)
  | release : Wields handle (release handle)
  | returning (key : PoolKey) (stage : CheckIn) :
      Wields handle (returning { current := ⟨handle, key⟩, stage } .done)

theorem Operation.wields_ofCall {handle : Handle} {call : Call}
    (hcall : call.handle? = some handle) : (ofCall call).Wields handle := by
  cases call with
  | use handle' use =>
      obtain rfl := Option.some.inj hcall
      exact .exchange use .fetch
  | release handle' =>
      obtain rfl := Option.some.inj hcall
      exact .release
  | checkout | teardown | reap | sweep | drain => cases hcall

theorem Operation.Wields.follows {handle : Handle} {op op' : Operation} (h : op.Wields handle)
    (hfollows : op.Follows op') : op'.Wields handle := by
  cases h with
  | guarded guest hcall =>
      cases hfollows with
      | guarded => exact wields_ofCall hcall
  | exchange use stage =>
      cases hfollows with
      | exchange => exact .exchange use .transfer
  | release =>
      cases hfollows with
      | release _ key => exact .returning key .taking
  | returning key stage =>
      cases hfollows with
      | goesOn _ _ _ => exact .returning key _
      | takesNext _ hwaiting => cases hwaiting

/-! ### Calls that are refused -/

/-- The next step of an operation is its last: it calls on nobody, changes nothing, and fails with
the kind `closed`. -/
structure Operation.Refused (op : Operation) (g : Gateway) : Prop where
  demand : op.demand g = .nothing
  resume : ∃ e : GatewayError, e.kind = .closed ∧
    ∀ now reply, op.resume g now reply = { gateway := g, next := .done (.error e) }

/-- A stage of a call finds its guest gone, its handle not live, or the connection taken from the
handle. -/
def Operation.Barred (g : Gateway) : Operation → Prop
  | guarded guest _ => guest ∈ g.tornDown
  | exchange handle _ .fetch | release handle => g.registry.find? handle = none
  | exchange handle _ .transfer => g.held? handle = none
  | _ => False

theorem Operation.Barred.refused {op : Operation} {g : Gateway} (h : op.Barred g) :
    op.Refused g := by
  unfold Barred at h
  split at h
  · next guest call =>
      refine ⟨rfl, retiredError, rfl, fun now reply => ?_⟩
      simp [Operation.resume, h]
  · next handle use =>
      refine ⟨rfl, g.registry.deadHandle handle, Registry.kind_deadHandle _ _, fun now reply => ?_⟩
      simp [Operation.resume, Exchange.resume, Progress.lift, Registry.get_of_find?_eq_none h,
        Except.map]
  · next handle =>
      refine ⟨rfl, g.registry.deadHandle handle, Registry.kind_deadHandle _ _, fun now reply => ?_⟩
      simp [Operation.resume, Registry.remove_of_find?_eq_none h]
  · next handle use =>
      refine ⟨?_, .handleClosed handle, rfl, fun now reply => ?_⟩
      · simp [Operation.demand, Exchange.demand, h]
      · simp [Operation.resume, Exchange.resume, Progress.lift, h, Except.map]
  · exact h.elim

/-- A call with a handle is refused for no other reason. -/
theorem Operation.Wields.refused_iff {handle : Handle} {op : Operation} (h : op.Wields handle)
    (g : Gateway) : op.Refused g ↔ op.Barred g := by
  refine ⟨fun hrefused => ?_, Barred.refused⟩
  obtain ⟨e, -, hresume⟩ := hrefused.resume
  -- A refusal is the same for every reply. This one would let a use of the connection succeed.
  have hnext := congrArg Progress.next (hresume 0 (.sent (.ok 0)))
  cases h with
  | guarded guest =>
      by_contra hbarred
      have hmem : guest ∉ g.tornDown := hbarred
      simp [Operation.resume, hmem] at hnext
  | exchange use stage =>
      cases stage with
      | fetch =>
          show g.registry.find? handle = none
          cases hfind : g.registry.find? handle with
          | none => rfl
          | some entry =>
              simp [Operation.resume, Exchange.resume, Progress.lift, Registry.get, hfind] at hnext
      | transfer =>
          show g.held? handle = none
          cases hheld : g.held? handle with
          | none => rfl
          | some conn =>
              simp [Operation.resume, Exchange.resume, Progress.lift, hheld, Exchange.outcome,
                Except.map] at hnext
  | release =>
      show g.registry.find? handle = none
      cases hfind : g.registry.find? handle with
      | none => rfl
      | some entry =>
          obtain ⟨registry, hremove⟩ := Registry.remove_of_find?_eq_some hfind
          simp [Operation.resume, hremove, takeBack, CheckIns.ofList?, CheckIns.returned] at hnext
  | returning key stage =>
      rw [Operation.resume, Progress.lift] at hnext
      rcases CheckIns.resume_next (g := g) { current := ⟨handle, key⟩, stage } with
        ⟨stage', -, h⟩ | ⟨current, waiting, hcons, -⟩ | ⟨-, h⟩
      · rw [h] at hnext
        cases hnext
      · cases hcons
      · rw [h] at hnext
        cases hnext

/-! ### Calls that are carried out -/

/-- A step that is confined to a handle. It opens no connection. It changes no entry of the table
and nothing that is held but for this handle, and no pool but that which the connection goes back
to. -/
structure Operation.Confined (handle : Handle) (op : Operation) (g : Gateway) (now : Instant)
    (reply : Reply) : Prop where
  dials : ∀ key password, op.demand g ≠ .dial key password
  entries : ∀ other, other ≠ handle →
    (op.resume g now reply).gateway.registry.find? other = g.registry.find? other
  held : ∀ other, other ≠ handle → (op.resume g now reply).gateway.held? other = g.held? other
  pools : ∀ key, (∀ stage, op ≠ returning { current := ⟨handle, key⟩, stage } .done) →
    (op.resume g now reply).gateway.pool? key = g.pool? key
  rest : { (op.resume g now reply).gateway with
    registry := g.registry, pools := g.pools, held := g.held } = g

theorem CheckIn.held?_resume {g : Gateway} {now : Instant} {reply : Reply} (r : Returned)
    (stage : CheckIn) {other : Handle} (hother : other ≠ r.handle) :
    (stage.resume g now r reply).gateway.held? other = g.held? other := by
  cases stage with
  | taking =>
      unfold resume
      dsimp only
      split
      · rfl
      · exact (g.held?_takeHeld r.handle other).trans (if_neg hother)
  | judging conn =>
      unfold resume
      dsimp only
      split <;> rfl
  | checking conn => rfl
  | settling conn =>
      cases conn with
      | none => rfl
      | some conn =>
          unfold resume
          dsimp only
          split <;> rfl

theorem Exchange.held?_resume {g : Gateway} {now : Instant} {reply : Reply} {handle : Handle}
    (stage : Exchange) {other : Handle} (hother : other ≠ handle) :
    (stage.resume g now handle reply).gateway.held? other = g.held? other := by
  cases stage with
  | fetch =>
      unfold resume
      dsimp only
      split <;> rfl
  | transfer =>
      unfold resume
      dsimp only
      split
      · rfl
      · exact (g.held?_updateHeld handle other _).trans (if_neg hother)

/-- What is taken back goes to the pool that it was checked out from. -/
theorem CheckIn.pool?_resume_of_ne {g : Gateway} {now : Instant} {reply : Reply} (r : Returned)
    (stage : CheckIn) {key : PoolKey} (hkey : key ≠ r.key) :
    (stage.resume g now r reply).gateway.pool? key = g.pool? key := by
  rw [stage.pool?_resume r key, Gateway.pool?_edited]
  cases stage with
  | settling conn =>
      cases conn with
      | none => exact if_neg hkey
      | some conn =>
          by_cases hdraining : g.draining <;> simp [edit, hdraining, hkey]
  | taking | judging | checking => rfl

theorem Operation.Confined.of_gateway_eq {handle : Handle} {op : Operation} {g : Gateway}
    {now : Instant} {reply : Reply} (hdials : ∀ key password, op.demand g ≠ .dial key password)
    (h : (op.resume g now reply).gateway = g) : op.Confined handle g now reply := by
  refine ⟨hdials, ?_, ?_, ?_, ?_⟩ <;> simp [h]

theorem Operation.Wields.demand_ne_dial {handle : Handle} {op : Operation} (h : op.Wields handle)
    (g : Gateway) (key : PoolKey) (password : Option String) :
    op.demand g ≠ .dial key password := by
  intro hdemand
  rcases op.demand_cases g with ⟨order, rfl⟩ | ⟨_, use, conn, -, -, hcall⟩ | hhousekeeping
  · cases h
  · rcases Exchange.call_cases g.config conn use with heq | ⟨_, heq⟩ | ⟨_, heq⟩ <;>
      rw [hcall, heq] at hdemand <;> cases hdemand
  · rw [hdemand] at hhousekeeping
    exact hhousekeeping

/-- Every step of a call with a handle is confined to the handle. -/
theorem Operation.Wields.confined {handle : Handle} {op : Operation} (h : op.Wields handle)
    {g : Gateway} (hr : g.registry.Sound) (now : Instant) (reply : Reply) :
    op.Confined handle g now reply := by
  have hdials := h.demand_ne_dial g
  cases h with
  | guarded guest =>
      refine .of_gateway_eq hdials ?_
      unfold resume
      dsimp only
      split <;> rfl
  | exchange use stage =>
      have hframe : { (stage.resume g now handle reply).gateway with held := g.held } = g :=
        stage.resume_frame handle
      refine ⟨hdials, fun other _ => ?_, fun other hother => stage.held?_resume hother,
        fun key _ => stage.pool?_resume handle key, ?_⟩
      · exact congrArg (·.registry.find? other) hframe
      · exact congrArg (fun g' : Gateway =>
          { g' with registry := g.registry, pools := g.pools, held := g.held }) hframe
  | release =>
      cases hremove : g.registry.remove handle with
      | error e => exact .of_gateway_eq hdials (by simp [resume, hremove])
      | ok taken =>
          obtain ⟨entry, registry⟩ := taken
          have hyields := Registry.remove_yields hremove
          have hgateway : ((Operation.release handle).resume g now reply).gateway =
              { g with registry } := by
            simp [resume, hremove]
          refine ⟨hdials, fun other hother => ?_, fun other _ => ?_, fun key _ => ?_, ?_⟩ <;>
            rw [hgateway]
          · exact hyields.find?_eq hr (by simpa using hother)
          · rfl
          · rfl
  | returning key stage =>
      have hframe : { (stage.resume g now ⟨handle, key⟩ reply).gateway with
          pools := g.pools, held := g.held } = g :=
        stage.resume_frame ⟨handle, key⟩
      refine ⟨hdials, fun other _ => ?_, fun other hother => ?_, fun key' hkey => ?_, ?_⟩
      · exact congrArg (·.registry.find? other) hframe
      · exact stage.held?_resume ⟨handle, key⟩ hother
      · exact stage.pool?_resume_of_ne ⟨handle, key⟩ fun heq => hkey stage (heq ▸ rfl)
      · exact congrArg (fun g' : Gateway =>
          { g' with registry := g.registry, pools := g.pools, held := g.held }) hframe

/-! ### The connections that are reached -/

/-- A connection that no other handle has and that does not wait in a pool. -/
def Gateway.Apart (g : Gateway) (handle : Handle) (socket : Nat) : Prop :=
  (∀ other conn, g.held? other = some conn → conn.socket = socket → other = handle) ∧
    ∀ key pool, g.pool? key = some pool → ∀ conn ∈ pool.idle, conn.socket ≠ socket

theorem CheckIn.reached {g : Gateway} {now : Instant} {reply : Reply} {r : Returned}
    {stage : CheckIn} {socket : Nat}
    (h : socket ∈ (stage.demand g).socket?.toList ++
      (stage.resume g now r reply).closed.map (·.socket)) :
    ∃ conn, .line r.key conn ∈ stage.duties r ∧ conn.socket = socket := by
  cases stage with
  | taking =>
      unfold resume at h
      dsimp only at h
      split at h <;> cases h
  | judging conn =>
      unfold resume at h
      dsimp only at h
      split at h
      · exact ⟨conn, Multiset.mem_singleton_self _, (List.mem_singleton.mp h).symm⟩
      · cases h
  | checking conn =>
      refine ⟨conn, Multiset.mem_singleton_self _, ?_⟩
      rcases List.mem_append.mp h with h | h
      · unfold demand PooledConnection.check at h
        dsimp only at h
        split at h
        · exact (List.mem_singleton.mp h).symm
        · cases h
      · obtain ⟨conn', hconn, rfl⟩ := List.mem_map.mp h
        have hcasualty : conn' ∈ conn.casualty reply := hconn
        unfold PooledConnection.casualty at hcasualty
        split at hcasualty
        · cases hcasualty
        · cases hcasualty
        · rw [List.mem_singleton.mp hcasualty]
  | settling conn =>
      cases conn with
      | none => cases h
      | some conn =>
          unfold resume at h
          dsimp only at h
          split at h
          · exact ⟨conn, Multiset.mem_singleton_self _, (List.mem_singleton.mp h).symm⟩
          · cases h

theorem Exchange.closed_resume {g : Gateway} {now : Instant} {reply : Reply} {handle : Handle}
    (stage : Exchange) : (stage.resume g now handle reply).closed = [] := by
  cases stage with
  | fetch =>
      unfold resume
      dsimp only
      split <;> rfl
  | transfer =>
      unfold resume
      dsimp only
      split <;> rfl

/-- What a call with a handle reaches is what the handle has, or what has been taken from it. -/
theorem Operation.Wields.reached {handle : Handle} {op : Operation} (h : op.Wields handle)
    {g : Gateway} {now : Instant} {reply : Reply} {socket : Nat}
    (hsocket : socket ∈ op.reached g now reply) :
    (∃ conn, g.held? handle = some conn ∧ conn.socket = socket) ∨
      ∃ key conn, .line key conn ∈ op.duties ∧ conn.socket = socket := by
  cases h with
  | guarded guest =>
      unfold Operation.reached resume at hsocket
      dsimp only at hsocket
      split at hsocket <;> cases hsocket
  | release =>
      unfold Operation.reached resume at hsocket
      dsimp only at hsocket
      split at hsocket <;> cases hsocket
  | exchange use stage =>
      left
      have hclosed : ((Operation.exchange handle use stage).resume g now reply).closed = [] :=
        stage.closed_resume
      rw [Operation.reached, hclosed, List.map_nil, List.append_nil] at hsocket
      cases stage with
      | fetch => cases hsocket
      | transfer =>
          cases hheld : g.held? handle with
          | none => simp [demand, Exchange.demand, hheld, Demand.socket?] at hsocket
          | some conn =>
              refine ⟨conn, rfl, ?_⟩
              have hdemand : (Operation.exchange handle use .transfer).demand g =
                  Exchange.call g.config conn use := by
                simp [demand, Exchange.demand, hheld]
              rw [hdemand] at hsocket
              rcases Exchange.call_cases g.config conn use with heq | ⟨_, heq⟩ | ⟨_, heq⟩ <;>
                rw [heq] at hsocket
              · cases hsocket
              · exact (List.mem_singleton.mp hsocket).symm
              · exact (List.mem_singleton.mp hsocket).symm
  | returning key stage =>
      obtain ⟨conn, hline, heq⟩ := CheckIn.reached (r := ⟨handle, key⟩) hsocket
      exact .inr ⟨key, conn, Multiset.mem_add.mpr (.inl hline), heq⟩

namespace Traffic

variable {config : PoolConfig} {t : Traffic}

theorem Invariant.apart_of_held (h : t.Invariant) {handle : Handle} {conn : PooledConnection}
    (hconn : t.gateway.held? handle = some conn) : t.gateway.Apart handle conn.socket := by
  refine ⟨fun other conn' hconn' hsocket => h.holder_unique hconn hconn' hsocket, ?_⟩
  intro key pool hpool conn' hidle hsocket
  obtain ⟨⟨-, -, hdisjoint⟩, -, -⟩ := h.placed_nodup
  have hheld := Gateway.mem_heldSockets hconn
  exact Multiset.disjoint_left.mp hdisjoint (Gateway.mem_idleSockets hpool hidle) (hsocket ▸ hheld)

/-- A connection in the hands of an operation is neither held nor idle. -/
theorem Invariant.apart_of_line (h : t.Invariant) (handle : Handle) {key : PoolKey}
    {conn : PooledConnection} (hline : .line key conn ∈ t.duties) :
    t.gateway.Apart handle conn.socket := by
  obtain ⟨-, -, hdisjoint⟩ := h.placed_nodup
  have hsocket := Duty.mem_sockets hline
  have hneither := Multiset.disjoint_right.mp hdisjoint hsocket
  rw [Multiset.mem_add, not_or] at hneither
  refine ⟨fun other conn' hconn' heq => ?_, fun key' pool hpool conn' hidle heq => ?_⟩
  · exact (hneither.2 (heq ▸ Gateway.mem_heldSockets hconn')).elim
  · exact hneither.1 (heq ▸ Gateway.mem_idleSockets hpool hidle)

theorem Invariant.apart_of_reached (h : t.Invariant) {handle : Handle} {op : Operation}
    (hop : op ∈ t.flights) (hwields : op.Wields handle) {now : Instant} {reply : Reply}
    {socket : Nat} (hsocket : socket ∈ op.reached t.gateway now reply) :
    t.gateway.Apart handle socket := by
  rcases hwields.reached hsocket with ⟨conn, hconn, rfl⟩ | ⟨key, conn, hline, rfl⟩
  · exact h.apart_of_held hconn
  · exact h.apart_of_line handle (mem_duties hop hline)

end Traffic

/-! ### Runs of calls -/

def Move.Silent : Move → Prop
  | resume _ demand _ _ closed => demand = .nothing ∧ closed = []
  | begin _ | attach => True
  | settle .. => False

/-- A call that has failed with the kind `closed` and has done nothing else. -/
structure TurnedAway (g : Gateway) (moves : List Move) (g' : Gateway) (result : Operation.Result) :
    Prop where
  failed : ∃ e : GatewayError, result = .error e ∧ e.kind = .closed
  unchanged : g' = g
  silent : ∀ m ∈ moves, m.Silent

/-- The call of a guest is turned away, unless something comes in between. -/
def Traffic.TurnsAway (t : Traffic) (guest : InstanceId) (call : Call) : Prop :=
  (∃ moves g' result, Solo t.opened t.gateway (.guarded guest call) moves g' result) ∧
    ∀ moves g' result, Solo t.opened t.gateway (.guarded guest call) moves g' result →
      TurnedAway t.gateway moves g' result

namespace Solo

variable {opened : List Nat} {g g' : Gateway} {op : Operation} {guest : InstanceId} {call : Call}
  {handle : Handle} {moves : List Move} {result : Operation.Result}

theorem turnedAway (h : op.Refused g) (hsolo : Solo opened g op moves g' result) :
    TurnedAway g moves g' result := by
  obtain ⟨e, hkind, hresume⟩ := h.resume
  obtain ⟨rfl, rfl, rfl⟩ := eq_of_done h.demand hresume hsolo
  refine ⟨⟨e, rfl, hkind⟩, rfl, fun m hm => ?_⟩
  rw [List.mem_singleton.mp hm]
  exact ⟨rfl, rfl⟩

theorem exists_of_refused (opened : List Nat) (h : op.Refused g) :
    ∃ moves g' result, Solo opened g op moves g' result := by
  obtain ⟨e, -, hresume⟩ := h.resume
  have hadmits : (op.demand g).Admits opened .proceed := h.demand ▸ .nothing
  exact ⟨_, _, _, .last 0 .proceed _ hadmits (hresume 0 .proceed) rfl⟩

/-- The call of a guest that is there comes to what the call comes to, whoever the guest is. -/
theorem guarded_iff (hguest : guest ∉ g.tornDown) :
    Solo opened g (.guarded guest call) moves g' result ↔
      ∃ rest, moves = rest ++
          [.resume (.guarded guest call) .nothing .proceed (.stage (.ofCall call)) []] ∧
        Solo opened g (.ofCall call) rest g' result := by
  have hresume : ∀ now reply, (Operation.guarded guest call).resume g now reply =
      { gateway := g, next := .stage (.ofCall call) } := by
    intro now reply
    simp [Operation.resume, hguest]
  constructor
  · exact of_stage rfl hresume
  · rintro ⟨rest, rfl, hrest⟩
    exact .step 0 .proceed _ .nothing (hresume 0 .proceed) rfl hrest

/-- Every call with a live handle can succeed. -/
theorem ofCall_accepted {entry : Entry PoolKey} {conn : PooledConnection} (opened : List Nat)
    (hcall : call.handle? = some handle) (hfind : g.registry.find? handle = some entry)
    (hheld : g.held? handle = some conn) :
    ∃ moves g' answer, Solo opened g (.ofCall call) moves g' (.ok answer) := by
  cases call with
  | use handle' use =>
      obtain rfl := Option.some.inj hcall
      obtain ⟨reply, usage, hadmits, houtcome⟩ := exists_reply g.config conn use opened
      obtain ⟨moves, g', hsolo⟩ := Solo.use hfind hheld hadmits 0
      rw [houtcome] at hsolo
      exact ⟨moves, g', .usage usage, hsolo⟩
  | release handle' =>
      obtain rfl := Option.some.inj hcall
      obtain ⟨registry, hremove⟩ := Registry.remove_of_find?_eq_some hfind
      have hout : (Operation.release handle').resume g 0 .proceed =
          { gateway := { g with registry }
            next := .stage (.returning { current := ⟨handle', entry.item⟩ } .done) } := by
        simp [Operation.resume, hremove, Operation.takeBack, CheckIns.ofList?, CheckIns.returned]
      obtain ⟨moves, g', hrest⟩ := returns ⟨handle', entry.item⟩ .taking opened { g with registry }
      exact ⟨_, g', .done, .step 0 .proceed _ .nothing hout rfl hrest⟩
  | checkout | teardown | reap | sweep | drain => cases hcall

end Solo

namespace Traffic

variable {config : PoolConfig} {t : Traffic}

theorem Reachable.exists_accepted (h : Reachable config t) {guest : InstanceId} {call : Call}
    {handle : Handle} {entry : Entry PoolKey} (hcall : call.handle? = some handle)
    (hguest : guest ∉ t.gateway.tornDown)
    (hfind : t.gateway.registry.find? handle = some entry) :
    ∃ moves g' answer, Solo t.opened t.gateway (.guarded guest call) moves g' (.ok answer) := by
  have htabled := h.invariant.coherent.tabled
  obtain ⟨conn, hheld, -⟩ := htabled.held?_of_entry (htabled.sound.find?_eq_some_iff.mp hfind)
  obtain ⟨moves, g', answer, hsolo⟩ := Solo.ofCall_accepted t.opened hcall hfind hheld
  exact ⟨_, g', answer, (Solo.guarded_iff hguest).mpr ⟨moves, rfl, hsolo⟩⟩

/-- A call with a handle is turned away if its guest is gone or the handle is not live, and for no
other reason. -/
theorem Reachable.turnsAway_iff (h : Reachable config t) {guest : InstanceId} {call : Call}
    {handle : Handle} (hcall : call.handle? = some handle) :
    t.TurnsAway guest call ↔
      guest ∈ t.gateway.tornDown ∨ t.gateway.registry.find? handle = none := by
  by_cases hguest : guest ∈ t.gateway.tornDown
  · have hrefused : (Operation.guarded guest call).Refused t.gateway :=
      Operation.Barred.refused hguest
    refine iff_of_true ⟨Solo.exists_of_refused _ hrefused, fun moves g' result hsolo => ?_⟩
      (.inl hguest)
    exact hsolo.turnedAway hrefused
  · cases hfind : t.gateway.registry.find? handle with
    | some entry =>
        -- One run that succeeds shows that the call is not turned away.
        refine iff_of_false (fun hturns => ?_) (by simp [hguest])
        obtain ⟨moves, g', answer, hsolo⟩ := h.exists_accepted hcall hguest hfind
        obtain ⟨e, heq, -⟩ := (hturns.2 moves g' _ hsolo).failed
        cases heq
    | none =>
        have hrefused : (Operation.ofCall call).Refused t.gateway := by
          apply Operation.Barred.refused
          cases call with
          | use | release =>
              obtain rfl := Option.some.inj hcall
              exact hfind
          | checkout | teardown | reap | sweep | drain => cases hcall
        refine iff_of_true ⟨?_, fun moves g' result hsolo => ?_⟩ (.inr rfl)
        · obtain ⟨moves, g', result, hsolo⟩ := Solo.exists_of_refused t.opened hrefused
          exact ⟨_, g', result, (Solo.guarded_iff hguest).mpr ⟨moves, rfl, hsolo⟩⟩
        · obtain ⟨rest, rfl, hrest⟩ := (Solo.guarded_iff hguest).mp hsolo
          obtain ⟨hfailed, hunchanged, hsilent⟩ := hrest.turnedAway hrefused
          refine ⟨hfailed, hunchanged, fun m hm => ?_⟩
          rcases List.mem_append.mp hm with hm | hm
          · exact hsilent m hm
          · rw [List.mem_singleton.mp hm]
            exact ⟨rfl, rfl⟩

end Traffic

/-! ### Confinement -/

/-- Calls with a handle, by whichever guest, are good for this handle and for nothing else. -/
structure Traffic.Confinement (t : Traffic) (handle : Handle) : Prop where
  /-- A call is turned away if its guest is gone or the handle is not live, and for no other
  reason. -/
  turnsAway : ∀ guest call, call.handle? = some handle →
    (t.TurnsAway guest call ↔
      guest ∈ t.gateway.tornDown ∨ t.gateway.registry.find? handle = none)
  /-- Any other call can succeed. -/
  accepts : ∀ guest call, call.handle? = some handle → guest ∉ t.gateway.tornDown →
    t.gateway.registry.find? handle ≠ none →
    ∃ moves g' answer, Solo t.opened t.gateway (.guarded guest call) moves g' (.ok answer)
  /-- It comes to the same for every guest that is there. -/
  impartial : ∀ guest call, guest ∉ t.gateway.tornDown → ∀ moves g' result,
    Solo t.opened t.gateway (.guarded guest call) moves g' result ↔
      ∃ rest, moves = rest ++
          [.resume (.guarded guest call) .nothing .proceed (.stage (.ofCall call)) []] ∧
        Solo t.opened t.gateway (.ofCall call) rest g' result
  /-- Once the handle has been issued and is not live any more, it will never be live again. -/
  final : handle ∈ t.issued → t.gateway.registry.find? handle = none →
    ∀ t', Relation.ReflTransGen Step t t' → t'.gateway.registry.find? handle = none
  /-- Whatever comes in between, what follows on a call with the handle is a call with it. -/
  wields : ∀ op : Operation, op.Wields handle → ∀ now reply,
    ∀ op' ∈ (op.resume t.gateway now reply).next.stages, op'.Wields handle
  /-- Each of its steps is refused if it finds the guest gone, the handle not live, or the
  connection taken from the handle, and for no other reason. -/
  refused : ∀ op : Operation, op.Wields handle → (op.Refused t.gateway ↔ op.Barred t.gateway)
  /-- No step changes what other handles stand for or hold, or a pool that the connection does not
  go back to; and none reaches a connection that another handle has or that waits in a pool. -/
  confined : ∀ op ∈ t.flights, op.Wields handle → ∀ now reply,
    op.Confined handle t.gateway now reply ∧
      ∀ socket ∈ op.reached t.gateway now reply, t.gateway.Apart handle socket

/-- Handles are confined, in every state that a gateway can come to. -/
theorem handle_confinement {config : PoolConfig} {t : Traffic} (h : Traffic.Reachable config t)
    (handle : Handle) : t.Confinement handle where
  turnsAway _ _ hcall := h.turnsAway_iff hcall
  accepts guest call hcall hguest hlive := by
    obtain ⟨entry, hfind⟩ := Option.ne_none_iff_exists'.mp hlive
    exact h.exists_accepted hcall hguest hfind
  impartial _ _ hguest _ _ _ := Solo.guarded_iff hguest
  final hissued hdead _ hsteps := h.dead_forever hissued hdead hsteps
  wields _ hwields _ _ _ hnext := hwields.follows (Operation.follows_resume hnext)
  refused _ hwields := hwields.refused_iff t.gateway
  confined op hop hwields now reply := by
    refine ⟨hwields.confined h.invariant.coherent.tabled.sound now reply, fun socket hsocket => ?_⟩
    exact h.invariant.apart_of_reached hop hwields hsocket

def strangerRun : List Traffic.Turn :=
  [.attach, .attach, .begin (.guarded 1 (.checkout ⟨1, sampleRequest⟩)), .resume 0 0 .proceed,
    .resume 0 0 .proceed, .resume 0 0 .proceed, .resume 0 0 .proceed, .resume 0 0 (.dialed (.ok 0)),
    .resume 0 0 .proceed]

theorem handle_confinement_stranger :
    ∃ t, (Traffic.init {}).play? strangerRun = some t ∧
      (∃ moves g' answer, Solo t.opened t.gateway (.guarded 2 (.release (Handle.make 0 1))) moves g'
        (.ok answer)) ∧
      t.TurnsAway 2 (.release (Handle.make 0 2)) := by
  have hplay : (Traffic.init {}).play? strangerRun =
      some (((Traffic.init {}).play? strangerRun).get rfl) := rfl
  have hreachable := Traffic.reachable_of_play? .refl hplay
  refine ⟨_, hplay, ?_, ?_⟩
  · exact (handle_confinement hreachable (Handle.make 0 1)).accepts 2 (.release _) rfl (by decide)
      (by decide)
  · exact ((handle_confinement hreachable (Handle.make 0 2)).turnsAway 2 (.release _) rfl).mpr
      (.inr (by decide))

/-- A live handle is good for the guest that it was issued to and for no other. -/
def Traffic.OwnersOnly (t : Traffic) : Prop :=
  ∀ handle entry, t.gateway.registry.find? handle = some entry →
    ∀ guest, 0 < guest → guest ≤ t.gateway.instances → guest ≠ entry.owner →
      ∀ call : Call, call.handle? = some handle → t.TurnsAway guest call

/-- The second guest sends on the connection of the first. -/
theorem exists_not_ownersOnly :
    ∃ t, (Traffic.init {}).play? strangerRun = some t ∧ Traffic.Reachable {} t ∧
      (∃ entry, t.gateway.registry.find? (Handle.make 0 1) = some entry ∧ entry.owner = 1) ∧
      (∃ moves g', Solo t.opened t.gateway (.guarded 2 (.use (Handle.make 0 1) (.send [1]))) moves
        g' (.ok (.usage (.sent 1)))) ∧
      ¬ t.OwnersOnly := by
  have hplay : (Traffic.init {}).play? strangerRun =
      some (((Traffic.init {}).play? strangerRun).get rfl) := rfl
  generalize hrun : ((Traffic.init {}).play? strangerRun).get rfl = t at hplay
  have hfind : t.gateway.registry.find? (Handle.make 0 1) =
      some ⟨1, 1, .ofConfig sampleRequest⟩ := by
    rw [← hrun]
    decide
  obtain ⟨conn, hheld⟩ : ∃ conn, t.gateway.held? (Handle.make 0 1) = some conn := by
    rw [← Option.isSome_iff_exists, ← hrun]
    decide
  have hguest : 2 ∉ t.gateway.tornDown := by
    rw [← hrun]
    decide
  have hattached : 2 ≤ t.gateway.instances := by
    rw [← hrun]
    decide
  have hadmits : (Exchange.call t.gateway.config conn (.send [1])).Admits t.opened
      (.sent (.ok 1)) :=
    .sent
  obtain ⟨moves, g', hsend⟩ := Solo.use hfind hheld hadmits 0
  have hguarded : Solo t.opened t.gateway (.guarded 2 (.use (Handle.make 0 1) (.send [1]))) _ g'
      (.ok (.usage (.sent 1))) := (Solo.guarded_iff hguest).mpr ⟨moves, rfl, hsend⟩
  refine ⟨t, hplay, Traffic.reachable_of_play? .refl hplay, ⟨_, hfind, rfl⟩, ⟨_, g', hguarded⟩, ?_⟩
  intro howners
  have hturns := howners _ _ hfind 2 (by decide) hattached (by decide) (.use _ (.send [1])) rfl
  obtain ⟨e, heq, -⟩ := (hturns.2 _ _ _ hguarded).failed
  cases heq

end DatabaseGateway
