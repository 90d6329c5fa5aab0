import DatabaseGateway.Link.Dial
import DatabaseGateway.Network.Basic
import DatabaseGateway.Proofs.Pool.Ownership
import DatabaseGateway.Proofs.Pool.Standing

/-!
No connection goes from one guest to the next unless its session has been brought back to the start
in between. The life of a connection is read off the log: the handles that it was issued under, how
the calls of guests on it ended, and the checks that brought it back. A connection that waits has
not failed a guest and was brought back last of all; so every handle but the first is issued for a
connection that has just been brought back.
-/

namespace DatabaseGateway

inductive Episode where
  /-- It is handed out. -/
  | issued (h : Handle)
  /-- A guest's call on it succeeds. -/
  | used
  /-- A guest's call on it fails, or finds that the server has hung up. -/
  | broken
  /-- Its session is brought back to the start. -/
  | renewed
  deriving DecidableEq

def Episode.handle? : Episode → Option Handle
  | issued h => some h
  | used | broken | renewed => none

def Reply.episode? : Reply → Option Episode
  | .sent (.ok _) | .received (.ok (_ :: _)) => some .used
  | .sent (.error _) | .received (.error _) | .received (.ok []) => some .broken
  | .proceed | .dialed _ | .checked _ | .overrun => none

def Move.episode? (socket : Nat) : Move → Option Episode
  | resume (.checkout _ (.entering conn)) _ _ (.done (.ok (.handle h))) _ =>
    if conn.socket = socket then some (.issued h) else none
  | resume _ (.send called _) reply _ _ | resume _ (.recv called _) reply _ _ =>
    if called = socket then reply.episode? else none
  | resume _ (.check checked true _) (.checked true) _ _ =>
    if checked = socket then some .renewed else none
  | _ => none

/-- What has happened to a connection so far, the latest first. -/
def Traffic.life (t : Traffic) (socket : Nat) : List Episode :=
  t.log.filterMap (Move.episode? socket)

/-! ### Lives -/

def Unbroken (life : List Episode) : Prop := .broken ∉ life

/-- No call of a guest has failed, and after all that happened the session was brought back. -/
structure Renewed (life : List Episode) : Prop where
  last : life.head? = some .renewed
  unbroken : Unbroken life

/-- The connection is handed out for the first time, or after it has been brought back. -/
def Regular : List Episode → Prop
  | [] => True
  | .issued _ :: life => (life = [] ∨ Renewed life) ∧ Regular life
  | _ :: life => Regular life

theorem Regular.of_append {later earlier : List Episode} (h : Regular (later ++ earlier)) :
    Regular earlier := by
  induction later with
  | nil => exact h
  | cons e later ih =>
      cases e with
      | issued => exact ih h.2
      | used | broken | renewed => exact ih h

/-- A connection that is never brought back is handed out once. -/
theorem Regular.length_handles_le {life : List Episode} (h : Regular life)
    (hrenewed : .renewed ∉ life) : (life.filterMap Episode.handle?).length ≤ 1 := by
  induction life with
  | nil => exact Nat.zero_le _
  | cons e life ih =>
      have hrest : .renewed ∉ life := fun hmem => hrenewed (List.mem_cons_of_mem e hmem)
      cases e with
      | issued handle =>
          obtain ⟨rfl | hlife, -⟩ := h
          · exact Nat.le_refl _
          · exact absurd (List.mem_of_head? hlife.last) hrest
      | used | broken | renewed => exact ih h hrest

/-- What is known of a connection by how far it is on its way. -/
def Standing.Holds (conn : PooledConnection) (life : List Episode) : Standing → Prop
  | waiting => conn.holding = .idle ∧ conn.healthy = true ∧ Renewed life
  | ready => life = [] ∨ Renewed life
  | used => conn.healthy = true → Unbroken life
  | unbroken => conn.healthy = true ∧ Unbroken life
  | renewed => conn.healthy = true ∧ Renewed life

/-! ### One step -/

/-- An operation has a connection in its hands, or is a guest's use of the handle that has it. -/
def Operation.Reaches (g : Gateway) (op : Operation) (socket : Nat) : Prop :=
  (∃ standing conn, op.standing? = some (standing, conn) ∧ conn.socket = socket) ∨
    ∃ handle use conn, op = exchange handle use .transfer ∧ g.held? handle = some conn ∧
      conn.socket = socket

def Operation.move (op : Operation) (g : Gateway) (now : Instant) (reply : Reply) : Move :=
  .resume op (op.demand g) reply (op.resume g now reply).next (op.resume g now reply).closed

section Resume

variable {g : Gateway} {op : Operation} {now : Instant} {reply : Reply}

/-- What can happen to a connection in a step: it is handed out, or a guest calls on it, or its
check has brought it back. -/
theorem Operation.episode?_cases {socket : Nat} {e : Episode}
    (h : (op.move g now reply).episode? socket = some e) :
    (∃ order conn handle, op = checkout order (.entering conn) ∧ conn.socket = socket ∧
        (op.resume g now reply).next = .done (.ok (.handle handle)) ∧ e = .issued handle) ∨
      (∃ handle use conn, op = exchange handle use .transfer ∧ g.held? handle = some conn ∧
        conn.socket = socket ∧ reply.episode? = some e) ∨
      ∃ conn, op.standing? = some (.unbroken, conn) ∧ conn.socket = socket ∧
        reply = .checked true ∧ e = .renewed := by
  have hguest : (op.demand g).guestSocket? = some socket → reply.episode? = some e →
      ∃ handle use conn, op = exchange handle use .transfer ∧ g.held? handle = some conn ∧
        conn.socket = socket ∧ reply.episode? = some e := by
    intro hdemand he
    obtain ⟨handle, use, conn, hop, hheld, hsocket⟩ := guestSocket?_demand hdemand
    exact ⟨handle, use, conn, hop, hheld, hsocket, he⟩
  unfold Move.episode? at h
  split at h
  · next order conn demand reply' handle closed heq =>
      injection heq with hop hdemand hreply hnext
      split at h
      · next hsocket =>
          exact .inl ⟨order, conn, handle, hop, hsocket, hnext, (Option.some.inj h).symm⟩
      · cases h
  · next called data reply' next closed _ heq =>
      injection heq with hop hdemand hreply
      split at h
      · next hsocket =>
          refine .inr (.inl (hguest ?_ (hreply ▸ h)))
          rw [hdemand, ← hsocket]
          rfl
      · cases h
  · next called most reply' next closed _ heq =>
      injection heq with hop hdemand hreply
      split at h
      · next hsocket =>
          refine .inr (.inl (hguest ?_ (hreply ▸ h)))
          rw [hdemand, ← hsocket]
          rfl
      · cases h
  · next checked probe next closed _ heq =>
      injection heq with hop hdemand hreply
      split at h
      · next hsocket =>
          obtain ⟨conn, hstanding, hconn⟩ := demand_reset hdemand
          exact .inr (.inr ⟨conn, hstanding, hconn.trans hsocket, hreply,
            (Option.some.inj h).symm⟩)
      · cases h
  · cases h

/-- Something happens only to a connection that the operation reaches. -/
theorem Operation.episode?_eq_none {socket : Nat} (h : ¬ op.Reaches g socket) :
    (op.move g now reply).episode? socket = none := by
  rw [Option.eq_none_iff_forall_ne_some]
  intro e he
  rcases op.episode?_cases he with ⟨order, conn, handle, rfl, hsocket, -, -⟩ |
    ⟨handle, use, conn, hop, hheld, hsocket, -⟩ | ⟨conn, hstanding, hsocket, -, -⟩
  · exact h (.inl ⟨.ready, conn, rfl, hsocket⟩)
  · exact h (.inr ⟨handle, use, conn, hop, hheld, hsocket⟩)
  · exact h (.inl ⟨.unbroken, conn, hstanding, hsocket⟩)

/-- Nothing happens to a connection in the hands of an operation, unless it is about to be handed
out or to be brought back. -/
theorem Operation.episode?_of_standing {standing : Standing} {conn : PooledConnection}
    (h : op.standing? = some (standing, conn)) (hready : standing ≠ .ready)
    (hunbroken : standing ≠ .unbroken) (socket : Nat) :
    (op.move g now reply).episode? socket = none := by
  rw [Option.eq_none_iff_forall_ne_some]
  intro e he
  rcases op.episode?_cases he with ⟨order, conn', handle, rfl, -, -, -⟩ |
    ⟨handle, use, conn', rfl, -, -, -⟩ | ⟨conn', hstanding, -, -, -⟩
  · cases h
    exact hready rfl
  · cases h
  · cases h.symm.trans hstanding
    exact hunbroken rfl

theorem Operation.episode?_checked {conn : PooledConnection}
    (h : op.standing? = some (.unbroken, conn)) (hhealthy : conn.healthy = true) :
    (op.move g now (.checked true)).episode? conn.socket = some .renewed := by
  have hdemand := op.demand_unbroken h hhealthy g
  unfold move
  rw [hdemand]
  unfold Move.episode?
  split
  · next heq =>
      injection heq with hop
      rw [hop] at h
      cases h
  · next heq => cases heq
  · next heq => cases heq
  · next heq =>
      injection heq with _ hcheck
      injection hcheck with hsocket
      exact if_pos hsocket.symm
  · next hne => exact (hne _ _ _ _ _ rfl).elim

theorem Reply.outcome_of_broken (h : reply.episode? = some .broken) :
    (Exchange.outcome reply).2 = false := by
  unfold episode? at h
  split at h <;> cases h <;> rfl

end Resume

theorem Operation.Initial.standing? {op : Operation} (h : op.Initial) :
    op.standing? = none := by
  cases h with
  | call call => cases call <;> rfl
  | guarded => rfl
  | retire => rfl

namespace Traffic

variable {config : PoolConfig} {t t' : Traffic}

/-! ### Everything happens in one place -/

theorem Invariant.line_apart (h : t.Invariant) {key : PoolKey} {conn : PooledConnection}
    (hline : .line key conn ∈ t.duties) :
    conn.socket ∉ t.gateway.idleSockets ∧ conn.socket ∉ t.gateway.heldSockets := by
  have hneither := Multiset.disjoint_right.mp h.placed_nodup.2.2 (Duty.mem_sockets hline)
  rwa [Multiset.mem_add, not_or] at hneither

section Acting

variable {before after : List Operation} {op : Operation} {now : Instant} {reply : Reply}

theorem Invariant.not_reaches_idle (h : t.Invariant) (hop : op ∈ t.flights) {key : PoolKey}
    {pool : Pool} (hpool : t.gateway.pool? key = some pool) {conn : PooledConnection}
    (hconn : conn ∈ pool.idle) : ¬ op.Reaches t.gateway conn.socket := by
  have hidle := Gateway.mem_idleSockets hpool hconn
  rintro (⟨standing, conn', hstanding, hsocket⟩ | ⟨handle, use, conn', -, hheld, hsocket⟩)
  · obtain ⟨key', hline⟩ := op.line_of_standing? hstanding
    exact (h.line_apart (mem_duties hop hline)).1 (hsocket ▸ hidle)
  · exact Multiset.disjoint_left.mp h.placed_nodup.1.2.2 hidle
      (hsocket ▸ Gateway.mem_heldSockets hheld)

theorem Invariant.not_reaches_held (h : t.Invariant) (hop : op ∈ t.flights)
    {x : Handle × PooledConnection} (hx : x ∈ t.gateway.held)
    (hother : ∀ use, op = .exchange x.1 use .transfer → t.gateway.held? x.1 = none) :
    ¬ op.Reaches t.gateway x.2.socket := by
  have hheld : t.gateway.held? x.1 = some x.2 := lookup_of_mem h.coherent.tabled.handles hx
  rintro (⟨standing, conn, hstanding, hsocket⟩ | ⟨handle, use, conn, rfl, hconn, hsocket⟩)
  · obtain ⟨key, hline⟩ := op.line_of_standing? hstanding
    exact (h.line_apart (mem_duties hop hline)).2 (hsocket ▸ Gateway.mem_heldSockets hheld)
  · obtain rfl := h.holder_unique hheld hconn hsocket
    rw [hother use rfl] at hheld
    cases hheld

/-- No operation reaches the connection in the hands of another one. -/
theorem Invariant.not_reaches_other (h : t.Invariant) (hflights : t.flights = before ++ op :: after)
    {op' : Operation} (hop' : op' ∈ before ++ after) {standing : Standing} {conn : PooledConnection}
    (hstanding : op'.standing? = some (standing, conn)) :
    ¬ op.Reaches t.gateway conn.socket := by
  obtain ⟨key, hline⟩ := op'.line_of_standing? hstanding
  have hflight : op' ∈ t.flights := mem_flights_other hflights hop'
  rintro (⟨standing', conn', hstanding', hsocket⟩ | ⟨handle, use, conn', -, hheld, hsocket⟩)
  · -- No connection is in the hands of two operations.
    obtain ⟨key', hline'⟩ := op.line_of_standing? hstanding'
    have hnodup := h.placed_nodup.2.1
    rw [duties_of_flights hflights, Duty.tally_add, Multiset.nodup_add] at hnodup
    obtain ⟨front, back, hsplit⟩ := List.append_of_mem hop'
    have hrest : .line key conn ∈ ((before ++ after).map Operation.duties).sum := by
      rw [hsplit, List.map_append, List.map_cons, List.sum_append, List.sum_cons]
      exact Multiset.mem_add.mpr (.inr (Multiset.mem_add.mpr (.inl hline)))
    exact Multiset.disjoint_left.mp hnodup.2.2 (Duty.mem_sockets hline')
      (hsocket ▸ Duty.mem_sockets hrest)
  · exact (h.line_apart (mem_duties hflight hline)).2
      (hsocket ▸ Gateway.mem_heldSockets hheld)

theorem placed_of_reaches (hop : op ∈ t.flights) {socket : Nat}
    (hreaches : op.Reaches t.gateway socket) : socket ∈ t.gateway.placed t.duties := by
  rcases hreaches with ⟨standing, conn, hstanding, rfl⟩ | ⟨handle, use, conn, -, hheld, rfl⟩
  · obtain ⟨key, hline⟩ := op.line_of_standing? hstanding
    exact Multiset.mem_add.mpr (.inr (Duty.mem_sockets (mem_duties hop hline)))
  · exact Multiset.mem_add.mpr (.inl (Multiset.mem_add.mpr (.inr (Gateway.mem_heldSockets hheld))))

theorem Invariant.not_reaches_unopened (h : t.Invariant) (hop : op ∈ t.flights) {socket : Nat}
    (hsocket : socket ∉ t.opened) : ¬ op.Reaches t.gateway socket :=
  fun hreaches => hsocket (h.opened_of_placed (placed_of_reaches hop hreaches))

end Acting

/-! ### The invariant -/

/-- What is known of a connection holds wherever the connection is. -/
structure Tended (t : Traffic) : Prop where
  idle : ∀ key pool, t.gateway.pool? key = some pool →
    ∀ conn ∈ pool.idle, Standing.waiting.Holds conn (t.life conn.socket)
  held : ∀ x ∈ t.gateway.held, Standing.used.Holds x.2 (t.life x.2.socket)
  hands : ∀ op ∈ t.flights, ∀ standing conn, op.standing? = some (standing, conn) →
    standing.Holds conn (t.life conn.socket)
  unopened : ∀ socket, socket ∉ t.opened → t.life socket = []
  regular : ∀ socket, Regular (t.life socket)

theorem life_cons {m : Move} (hlog : t'.log = m :: t.log) {socket : Nat}
    (h : m.episode? socket = none) : t'.life socket = t.life socket := by
  unfold life
  rw [hlog, List.filterMap_cons_none h]

theorem life_cons_some {m : Move} (hlog : t'.log = m :: t.log) {socket : Nat} {e : Episode}
    (h : m.episode? socket = some e) : t'.life socket = e :: t.life socket := by
  unfold life
  rw [hlog, List.filterMap_cons_some h]

/-- A move in which nothing happens to any connection. -/
theorem Tended.congr (h : t.Tended)
    (hpool : ∀ key, t'.gateway.pool? key = t.gateway.pool? key)
    (hheld : t'.gateway.held = t.gateway.held)
    (hflights : ∀ op ∈ t'.flights, op ∈ t.flights ∨ op.standing? = none)
    (hopened : t'.opened = t.opened) {m : Move} (hlog : t'.log = m :: t.log)
    (hm : ∀ socket, m.episode? socket = none) : t'.Tended := by
  have hlife : ∀ socket, t'.life socket = t.life socket := fun socket => life_cons hlog (hm socket)
  refine ⟨?_, ?_, ?_, ?_, ?_⟩
  · simpa only [hlife, hpool] using h.idle
  · simpa only [hlife, hheld] using h.held
  · intro op hop standing conn hstanding
    rw [hlife]
    rcases hflights op hop with hmem | hnone
    · exact h.hands op hmem standing conn hstanding
    · rw [hnone] at hstanding
      cases hstanding
  · simpa only [hlife, hopened] using h.unopened
  · simpa only [hlife] using h.regular

theorem Tended.init (config : PoolConfig) : (init config).Tended where
  idle _ _ hpool := nomatch hpool
  held _ hx := nomatch hx
  hands _ hop := nomatch hop
  unopened _ _ := rfl
  regular _ := trivial

section Acting

variable {before after : List Operation} {op : Operation} {now : Instant} {reply : Reply}

theorem Tended.resume_idle (h : t.Tended) (hinv : t.Invariant) (hop : op ∈ t.flights)
    (hlog : t'.log = op.move t.gateway now reply :: t.log)
    {key : PoolKey} {pool : Pool}
    (hpool : (op.resume t.gateway now reply).gateway.pool? key = some pool)
    {conn : PooledConnection} (hconn : conn ∈ pool.idle) :
    Standing.waiting.Holds conn (t'.life conn.socket) := by
  rcases op.mem_idle_resume hpool hconn with ⟨pool', hpool', hconn'⟩ | hwaiting |
    ⟨conn', hrenewed, rfl⟩
  · rw [life_cons hlog (op.episode?_eq_none (hinv.not_reaches_idle hop hpool' hconn'))]
    exact h.idle key pool' hpool' conn hconn'
  · rw [life_cons hlog (op.episode?_of_standing hwaiting (by simp) (by simp) _)]
    exact h.hands op hop _ _ hwaiting
  · rw [life_cons hlog (op.episode?_of_standing hrenewed (by simp) (by simp) _)]
    exact ⟨rfl, h.hands op hop _ _ hrenewed⟩

theorem Tended.resume_held (h : t.Tended) (hinv : t.Invariant) (hop : op ∈ t.flights)
    (hlog : t'.log = op.move t.gateway now reply :: t.log) {x : Handle × PooledConnection}
    (hx : x ∈ (op.resume t.gateway now reply).gateway.held) :
    Standing.used.Holds x.2 (t'.life x.2.socket) := by
  rcases op.mem_held_resume hx with ⟨hold, hother⟩ | ⟨use, conn, rfl, hconn, heq⟩ |
    ⟨order, conn, rfl, -, heq⟩
  · rw [life_cons hlog (op.episode?_eq_none (hinv.not_reaches_held hop hold hother))]
    exact h.held x hold
  · rw [heq]
    intro hhealthy
    dsimp only at hhealthy ⊢
    rw [Bool.and_eq_true] at hhealthy
    have hunbroken : Unbroken (t.life conn.socket) := h.held _ hconn hhealthy.1
    cases he : ((Operation.exchange x.1 use .transfer).move t.gateway now reply).episode?
        conn.socket with
    | none =>
        rw [life_cons hlog he]
        exact hunbroken
    | some e =>
        rw [life_cons_some hlog he]
        rcases Operation.episode?_cases he with ⟨_, _, _, heq, -⟩ | ⟨-, -, -, -, -, -, hreply⟩ |
          ⟨_, hstanding, -⟩
        · cases heq
        · intro hmem
          rcases List.mem_cons.mp hmem with rfl | hmem
          · rw [Reply.outcome_of_broken hreply] at hhealthy
            cases hhealthy.2
          · exact hunbroken hmem
        · cases hstanding
  · rw [heq]
    intro _
    dsimp only
    have hready : Unbroken (t.life conn.socket) := by
      rcases h.hands _ hop .ready conn rfl with hnew | hrenewed
      · rw [hnew]
        exact List.not_mem_nil
      · exact hrenewed.unbroken
    cases he : ((Operation.checkout order (.entering conn)).move t.gateway now reply).episode?
        conn.socket with
    | none =>
        rw [life_cons hlog he]
        exact hready
    | some e =>
        rw [life_cons_some hlog he]
        rcases Operation.episode?_cases he with ⟨_, _, _, -, -, -, rfl⟩ | ⟨_, _, _, heq, -⟩ |
          ⟨_, hstanding, -⟩
        · intro hmem
          rcases List.mem_cons.mp hmem with hissued | hmem
          · cases hissued
          · exact hready hmem
        · cases heq
        · cases hstanding

theorem Tended.resume_hands (h : t.Tended) (hinv : t.Invariant) (hop : op ∈ t.flights)
    (hadmits : (op.demand t.gateway).Admits t.opened reply)
    (hlog : t'.log = op.move t.gateway now reply :: t.log) {op' : Operation}
    (hnext : op' ∈ (op.resume t.gateway now reply).next.stages) {standing : Standing}
    {conn : PooledConnection} (hstanding : op'.standing? = some (standing, conn)) :
    standing.Holds conn (t'.life conn.socket) := by
  cases op.arrives hnext hstanding with
  | picked hor hpool hconn =>
      rw [life_cons hlog (op.episode?_eq_none (hinv.not_reaches_idle hop hpool hconn))]
      have hwaiting := h.idle _ _ hpool conn hconn
      rcases hor with rfl | ⟨rfl, -⟩
      · exact hwaiting
      · exact .inr hwaiting.2.2
  | taken hreturns hheld =>
      have hmem := mem_of_lookup hheld
      rw [life_cons hlog (op.episode?_eq_none (hinv.not_reaches_held hop hmem ?_))]
      · exact h.held _ hmem
      · rintro use rfl
        cases hreturns
  | opened hopened =>
      have hfresh := hadmits.fresh _ hopened
      rw [life_cons hlog (op.episode?_eq_none (hinv.not_reaches_unopened hop hfresh))]
      exact .inl (h.unopened _ hfresh)
  | passed hor hwaiting hreply =>
      rw [life_cons hlog (op.episode?_of_standing hwaiting (by simp) (by simp) _)]
      have hholds := h.hands op hop _ _ hwaiting
      rcases hor with rfl | rfl
      · exact hholds
      · exact .inr hholds.2.2
  | judged hused hhealthy =>
      rw [life_cons hlog (op.episode?_of_standing hused (by simp) (by simp) _)]
      exact ⟨hhealthy, h.hands op hop _ _ hused hhealthy⟩
  | checked hunbroken hreply =>
      subst hreply
      obtain ⟨hhealthy, hlife⟩ := h.hands op hop _ _ hunbroken
      rw [life_cons_some hlog (op.episode?_checked hunbroken hhealthy)]
      refine ⟨hhealthy, rfl, fun hmem => ?_⟩
      rcases List.mem_cons.mp hmem with heq | hmem
      · cases heq
      · exact hlife hmem

theorem Tended.resume_regular (h : t.Tended) (hop : op ∈ t.flights)
    (hlog : t'.log = op.move t.gateway now reply :: t.log) (socket : Nat) :
    Regular (t'.life socket) := by
  cases he : (op.move t.gateway now reply).episode? socket with
  | none =>
      rw [life_cons hlog he]
      exact h.regular socket
  | some e =>
      rw [life_cons_some hlog he]
      rcases op.episode?_cases he with ⟨order, conn, handle, rfl, rfl, -, rfl⟩ |
        ⟨-, -, -, -, -, -, hreply⟩ | ⟨-, -, -, -, rfl⟩
      · exact ⟨h.hands _ hop .ready conn rfl, h.regular _⟩
      · have hregular := h.regular socket
        unfold Reply.episode? at hreply
        split at hreply <;> cases hreply <;> exact hregular
      · exact h.regular socket

end Acting

theorem Step.tended (hstep : Step t t') (hinv : t.Invariant) (h : t.Tended) : t'.Tended := by
  cases hstep with
  | @begin op hinitial =>
      refine h.congr (fun _ => rfl) rfl (fun op' hop' => ?_) rfl rfl fun _ => rfl
      rcases List.mem_append.mp hop' with hmem | hmem
      · exact .inl hmem
      · exact .inr (List.mem_singleton.mp hmem ▸ hinitial.standing?)
  | attach => exact h.congr (fun _ => rfl) rfl (fun _ => .inl) rfl rfl fun _ => rfl
  | settle => exact h.congr (fun _ => rfl) rfl (fun _ => .inl) rfl rfl fun _ => rfl
  | @resume before after op now reply hflights hadmits =>
      have hop : op ∈ t.flights := by simp [hflights]
      have hlog : (t.resume before op after now reply).log =
          op.move t.gateway now reply :: t.log := rfl
      refine ⟨fun key pool hpool conn hconn => h.resume_idle hinv hop hlog hpool hconn,
        fun x hx => h.resume_held hinv hop hlog hx, ?_, ?_, h.resume_regular hop hlog⟩
      · intro op' hop' standing conn hstanding
        have hmem : op' ∈ before ++ (op.resume t.gateway now reply).next.stages ++ after := hop'
        rw [List.mem_append, List.mem_append, or_assoc] at hmem
        have hother : op' ∈ before ++ after → standing.Holds conn
            ((t.resume before op after now reply).life conn.socket) := by
          intro hmem
          rw [life_cons hlog (op.episode?_eq_none (hinv.not_reaches_other hflights hmem hstanding))]
          exact h.hands op' (mem_flights_other hflights hmem) standing conn hstanding
        rcases hmem with hmem | hnext | hmem
        · exact hother (List.mem_append_left _ hmem)
        · exact h.resume_hands hinv hop hadmits hlog hnext hstanding
        · exact hother (List.mem_append_right _ hmem)
      · intro socket hsocket
        have hunopened : socket ∉ t.opened := fun hmem =>
          hsocket (List.mem_append_right _ hmem)
        rw [life_cons hlog (op.episode?_eq_none (hinv.not_reaches_unopened hop hunopened))]
        exact h.unopened socket hunopened

theorem Reachable.tended (h : Reachable config t) : t.Tended := by
  induction h with
  | refl => exact .init config
  | tail h hstep ih => exact hstep.tended (Reachable.invariant h) ih

end Traffic

/-! ### Connections that cannot be brought back -/

/-- A check that asks for a reset and is passed has brought the session back. -/
theorem Network.reset_of_checked {σ : Type} {n : Network σ} {socket : Nat}
    {timeout timeout' : Duration} {probe : Bool} {world world' : σ}
    (h : (n.complete timeout' (n.check socket timeout true probe world).1.value world').1 =
      .checked true) : (n.reset socket timeout world).1 = true := by
  unfold check at h
  rw [if_pos rfl] at h
  split at h
  · cases h
  · next heq => rw [heq]

/-- A link that the gateway did not log in to itself cannot be brought back, unless it is one to a
Redis server. -/
theorem Dialer.reset_dial {σ : Type} {d : Dialer σ} {s : DialSettings} {protocol : Option Protocol}
    {key : PoolKey} {password : Option String} {world world' : σ} {link : Link}
    (h : d.dial s protocol key password world = (.ok link, world'))
    (hredis : protocol ≠ some .redis)
    (hpostgres : protocol = some .postgres → s.hostHandshake = false) :
    link.authenticated = false ∧ ∀ timeout w, link.reset d.transport timeout w = (false, w) := by
  have hopened : ∃ w w', d.link s protocol key password w = (.ok link, w') := by
    unfold dial at h
    dsimp only at h
    split at h
    · cases h
    · split at h
      · cases h
      · next w _ => exact ⟨w, world', h⟩
  obtain ⟨w, w', hlink⟩ := hopened
  unfold Dialer.link at hlink
  split at hlink
  · cases hlink
    exact ⟨rfl, fun _ _ => rfl⟩
  · cases hlink
    exact ⟨rfl, fun _ _ => rfl⟩
  · have hhost := hpostgres rfl
    simp only [hhost, Link.openPostgres] at hlink
    cases hlink
    exact ⟨rfl, fun _ _ => rfl⟩
  · exact absurd rfl hredis

namespace Traffic

variable {config : PoolConfig} {t : Traffic}

/-- The checks of a connection are carried out on a network, in whatever state it is when they begin
and when they end. -/
def CheckedOn {σ : Type} (t : Traffic) (n : Network σ) (socket : Nat) : Prop :=
  ∀ op probe next closed,
    .resume op (.check socket true probe) (.checked true) next closed ∈ t.log →
      ∃ timeout world world',
        (n.complete timeout (n.check socket timeout true probe world).1.value world').1 =
          .checked true

def handlesOf (t : Traffic) (socket : Nat) : List Handle :=
  (t.life socket).filterMap Episode.handle?

theorem exists_reset {socket : Nat} (h : .renewed ∈ t.life socket) :
    ∃ op probe next closed,
      .resume op (.check socket true probe) (.checked true) next closed ∈ t.log := by
  obtain ⟨m, hm, he⟩ := List.mem_filterMap.mp h
  have hcall : ∀ reply : Reply, reply.episode? ≠ some .renewed := by
    intro reply
    unfold Reply.episode?
    split <;> simp
  unfold Move.episode? at he
  split at he
  · split at he <;> cases he
  · split at he
    · exact absurd he (hcall _)
    · cases he
  · split at he
    · exact absurd he (hcall _)
    · cases he
  · split at he
    · next hsocket => exact ⟨_, _, _, _, hsocket ▸ hm⟩
    · cases he
  · cases he

/-- How connections go from one guest to the next. -/
structure Recycling (t : Traffic) : Prop where
  /-- A connection that waits has not failed a guest, and it was brought back after all that guests
  did with it. -/
  idle : ∀ key pool, t.gateway.pool? key = some pool → ∀ conn ∈ pool.idle,
    conn.holding = .idle ∧ conn.healthy = true ∧ Renewed (t.life conn.socket)
  /-- A connection is handed out for the first time, or right after it has been brought back. -/
  reissued : ∀ socket later handle earlier, t.life socket = later ++ .issued handle :: earlier →
    earlier = [] ∨ Renewed earlier
  /-- To bring a connection back is to reset its session with success. -/
  reset : ∀ {σ : Type} (n : Network σ) (socket : Nat), t.CheckedOn n socket →
    .renewed ∈ t.life socket → ∃ timeout world, (n.reset socket timeout world).1 = true
  /-- A connection that the network never brings back is handed out once. -/
  single : ∀ {σ : Type} (n : Network σ) (socket : Nat), t.CheckedOn n socket →
    (∀ timeout world, (n.reset socket timeout world).1 = false) → (t.handlesOf socket).length ≤ 1
  /-- Such are plain links, links to MySQL servers, and links to Postgres servers on which guests
  log in themselves. -/
  passive : ∀ {σ τ : Type} (n : Network σ) (d : Dialer τ) (s : DialSettings)
    (protocol : Option Protocol) (key : PoolKey) (password : Option String) (world world' : τ)
    (link : Link) (socket : Nat), d.dial s protocol key password world = (.ok link, world') →
    protocol ≠ some .redis → (protocol = some .postgres → s.hostHandshake = false) →
    link.authenticated = false ∧
      (t.CheckedOn n socket →
        (∀ timeout w, ∃ v,
          (n.reset socket timeout w).1 = (link.reset d.transport timeout v).1) →
        (t.handlesOf socket).length ≤ 1)

theorem CheckedOn.reset {σ : Type} {n : Network σ} {socket : Nat} (h : t.CheckedOn n socket)
    (hrenewed : .renewed ∈ t.life socket) :
    ∃ timeout world, (n.reset socket timeout world).1 = true := by
  obtain ⟨op, probe, next, closed, hmem⟩ := exists_reset hrenewed
  obtain ⟨timeout, world, world', hcomplete⟩ := h op probe next closed hmem
  exact ⟨timeout, world, Network.reset_of_checked hcomplete⟩

theorem Reachable.length_handlesOf_le (h : Reachable config t) {σ : Type} {n : Network σ}
    {socket : Nat} (hchecked : t.CheckedOn n socket)
    (hreset : ∀ timeout world, (n.reset socket timeout world).1 = false) :
    (t.handlesOf socket).length ≤ 1 := by
  refine (h.tended.regular socket).length_handles_le fun hrenewed => ?_
  obtain ⟨timeout, world, htrue⟩ := hchecked.reset hrenewed
  rw [hreset] at htrue
  cases htrue

end Traffic

/-- Connections are used again only after a reset. What waits in a pool is idle and healthy, has
never failed a guest, and was brought back to its start after its last guest; so it is handed out a
second time only in this case, and a link that cannot be brought back is handed out once. -/
theorem reuse_after_reset {config : PoolConfig} {t : Traffic} (h : Traffic.Reachable config t) :
    t.Recycling where
  idle key pool hpool conn hconn := h.tended.idle key pool hpool conn hconn
  reissued socket later handle earlier hlife := by
    have hregular := h.tended.regular socket
    rw [hlife] at hregular
    exact hregular.of_append.1
  reset n socket := Traffic.CheckedOn.reset
  single n socket := h.length_handlesOf_le
  passive n d s protocol key password world world' link socket hdial hredis hpostgres := by
    obtain ⟨hauthenticated, hlink⟩ := Dialer.reset_dial hdial hredis hpostgres
    refine ⟨hauthenticated, fun hchecked hsame => ?_⟩
    refine h.length_handlesOf_le hchecked fun timeout w => ?_
    obtain ⟨v, heq⟩ := hsame timeout w
    rw [heq, hlink]

/-- Of two connections, one serves two guests and waits for the next. The other one finds that the
server has hung up, and is closed when it comes back. -/
def recycledRun : List Traffic.Turn :=
  [.begin (.checkout ⟨1, sampleRequest⟩ .screen), .resume 0 0 .proceed, .resume 0 0 .proceed,
    .resume 0 0 .proceed, .resume 0 0 (.dialed (.ok 0)), .resume 0 0 .proceed,
    .begin (.checkout ⟨1, sampleRequest⟩ .screen), .resume 0 0 .proceed, .resume 0 0 .proceed,
    .resume 0 0 .proceed, .resume 0 0 (.dialed (.ok 1)), .resume 0 0 .proceed,
    .begin (.exchange (Handle.make 0 1) (.send [120]) .fetch), .resume 0 0 .proceed,
    .resume 0 0 (.sent (.ok 1)),
    .begin (.exchange (Handle.make 1 2) (.recv 8) .fetch), .resume 0 0 .proceed,
    .resume 0 0 (.received (.ok [])),
    .begin (.release (Handle.make 0 1)), .resume 0 0 .proceed, .resume 0 0 .proceed,
    .resume 0 0 .proceed, .resume 0 0 (.checked true), .resume 0 0 .proceed,
    .begin (.release (Handle.make 1 2)), .resume 0 0 .proceed, .resume 0 0 .proceed,
    .resume 0 0 .proceed, .resume 0 0 .proceed,
    .begin (.checkout ⟨2, sampleRequest⟩ .screen), .resume 0 0 .proceed, .resume 0 0 .proceed,
    .resume 0 0 .proceed, .resume 0 0 (.checked true), .resume 0 0 .proceed,
    .begin (.release (Handle.make 1 3)), .resume 0 0 .proceed, .resume 0 0 .proceed,
    .resume 0 0 .proceed, .resume 0 0 (.checked true), .resume 0 0 .proceed]

theorem reuse_after_reset_twice :
    ∃ t, (Traffic.init {}).play? recycledRun = some t ∧ Traffic.Reachable {} t ∧ t.Recycling ∧
      t.gateway.pools.map (·.2.idle.map (·.socket)) = [[0]] ∧
      t.life 0 = [.renewed, .issued (Handle.make 1 3), .renewed, .used,
        .issued (Handle.make 0 1)] ∧
      t.life 1 = [.broken, .issued (Handle.make 1 2)] := by
  have hplay : (Traffic.init {}).play? recycledRun =
      some (((Traffic.init {}).play? recycledRun).get rfl) := rfl
  have hreachable := Traffic.reachable_of_play? .refl hplay
  refine ⟨_, hplay, hreachable, reuse_after_reset hreachable, ?_, ?_, ?_⟩
  · decide +kernel
  · decide +kernel
  · decide +kernel

end DatabaseGateway
