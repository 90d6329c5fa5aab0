import DatabaseGateway.Proofs.Pool.Lines

/-!
How a connection comes to its end. Connections are closed at many stages, some of them after a call
on the connection, and a check that was given up may close one later on. What is done to a
connection is read off the log, with the call of a move before its closing. A connection that was
closed is in no place any more, and operations reach only what is in a place; so nothing is done to
it after that, and it is not closed again.
-/

namespace DatabaseGateway

inductive Deed where
  /-- The call that is demanded: to send, to receive, or to bring the session back and probe it. -/
  | called (demand : Demand)
  /-- What remains of a check that was given up. -/
  | lingered
  | closed
  deriving DecidableEq

namespace Move

def closed : Move → List Nat
  | resume _ _ _ _ closed => closed.map (·.socket)
  | settle socket false => [socket]
  | settle _ true | begin _ | attach => []

/-- The connection that is dropped without being closed, if any: nobody waits for its check any
more, and it has passed. -/
def dropped : Move → List Nat
  | settle socket true => [socket]
  | settle _ false | resume .. | begin _ | attach => []

def calls (socket : Nat) : Move → List Deed
  | resume _ demand _ _ _ => if demand.socket? = some socket then [.called demand] else []
  | settle stray _ => if stray = socket then [.lingered] else []
  | begin _ | attach => []

/-- What is done to a connection in a move, the latest first: a connection is closed after its
call has come back. -/
def deeds (socket : Nat) (m : Move) : List Deed :=
  List.replicate (m.closed.count socket) .closed ++ m.calls socket

/-- Whether the reply in a move is that a deadline has passed: that of a dial, or that of a check,
which bringing the session back and probing it share. -/
def overran : Move → Bool
  | resume _ _ .overrun _ _ => true
  | _ => false

end Move

namespace Traffic

def closed (t : Traffic) : List Nat := t.log.flatMap Move.closed

def dropped (t : Traffic) : List Nat := t.log.flatMap Move.dropped

def deeds (t : Traffic) (socket : Nat) : List Deed := t.log.flatMap (Move.deeds socket)

def overran (t : Traffic) : Bool := t.log.any Move.overran

end Traffic

/-! ### Deeds of a move -/

theorem Move.not_closed_calls (m : Move) (socket : Nat) : .closed ∉ m.calls socket := by
  cases m with
  | begin | attach => exact List.not_mem_nil
  | resume | settle =>
      unfold calls
      split <;> simp

theorem Move.closed_mem_deeds {m : Move} {socket : Nat} :
    .closed ∈ m.deeds socket ↔ socket ∈ m.closed := by
  rw [deeds, List.mem_append, or_iff_left (m.not_closed_calls socket), List.mem_replicate,
    and_iff_left rfl, ← Nat.pos_iff_ne_zero, List.count_pos_iff]

theorem Move.closed_append_dropped (m : Move) : m.closed ++ m.dropped = m.ended := by
  cases m with
  | begin | attach => rfl
  | resume => exact List.append_nil _
  | settle socket passed => cases passed <;> rfl

theorem Demand.strayed_of_overran {op : Operation} {demand : Demand} {reply : Reply}
    {next : Next Operation Operation.Result} {closed : List PooledConnection}
    (hinTime : (Move.resume op demand reply next closed).overran = false) :
    demand.strayed reply = [] := by
  unfold strayed
  split
  · cases hinTime
  · rfl

namespace Traffic

variable {config : PoolConfig} {t t' : Traffic} {m : Move} {socket : Nat}

theorem closed_mem_deeds : .closed ∈ t.deeds socket ↔ socket ∈ t.closed := by
  simp only [deeds, closed, List.mem_flatMap, Move.closed_mem_deeds]

theorem closed_append_dropped (t : Traffic) : (t.closed ++ t.dropped).Perm t.ended := by
  unfold closed dropped ended
  rw [← funext Move.closed_append_dropped]
  exact List.flatMap_append_perm t.log Move.closed Move.dropped

theorem mem_ended : socket ∈ t.ended ↔ socket ∈ t.closed ∨ socket ∈ t.dropped := by
  rw [← t.closed_append_dropped.mem_iff, List.mem_append]

/-! ### The end of a connection -/

theorem Invariant.ended_nodup (h : t.Invariant) : t.ended.Nodup := by
  have hopened : (↑t.opened : Multiset Nat).Nodup := h.opened
  rw [h.accounted, Multiset.nodup_add, Multiset.nodup_add] at hopened
  exact hopened.2.1.2.1

/-- A connection that has come to its end is in no place. -/
theorem Invariant.ended_iff (h : t.Invariant) (hopened : socket ∈ t.opened) :
    socket ∈ t.ended ↔ socket ∉ t.sites.map (·.2) := by
  rw [h.sites_perm.mem_iff]
  simp [Traffic.live, hopened]

theorem Invariant.not_ended_of_site (h : t.Invariant)
    (hplaced : socket ∈ t.gateway.placed t.duties + ↑t.strays) : socket ∉ t.ended := by
  rw [← h.sites_eq, Multiset.mem_coe, h.sites_perm.mem_iff] at hplaced
  simpa using (List.mem_filter.mp hplaced).2

theorem Step.calls_eq_nil (hstep : Step t t') (h : t.Invariant) (hlog : t'.log = m :: t.log)
    (hended : socket ∈ t.ended) : m.calls socket = [] := by
  cases hstep with
  | begin | attach =>
      obtain rfl := (List.cons.inj hlog).1
      rfl
  | resume hflights =>
      obtain rfl := (List.cons.inj hlog).1
      refine if_neg fun hcalled => h.not_ended_of_site (Multiset.mem_add.mpr (.inl ?_)) hended
      exact placed_of_reaches (mem_flights hflights) (Operation.reaches_of_called hcalled)
  | settle hstrays =>
      obtain rfl := (List.cons.inj hlog).1
      refine if_neg ?_
      rintro rfl
      refine h.not_ended_of_site (Multiset.mem_add.mpr (.inr ?_)) hended
      rw [hstrays]
      exact List.mem_append_right _ List.mem_cons_self

/-- What a move closes or drops has not come to its end before, and it does so once. -/
theorem Step.ends_nodup (hstep : Step t t') (h : t.Invariant) (hlog : t'.log = m :: t.log) :
    (m.closed ++ m.dropped ++ t.ended).Nodup := by
  have hnodup := (hstep.invariant h).ended_nodup
  rwa [Traffic.ended, hlog, List.flatMap_cons, ← m.closed_append_dropped] at hnodup

theorem Step.deeds_eq_nil (hstep : Step t t') (h : t.Invariant) (hlog : t'.log = m :: t.log)
    (hended : socket ∈ t.ended) : m.deeds socket = [] := by
  have hunclosed : socket ∉ m.closed := fun hclosed =>
    (List.nodup_append.mp (hstep.ends_nodup h hlog)).2.2 socket (List.mem_append_left _ hclosed)
      socket hended rfl
  rw [Move.deeds, List.count_eq_zero.mpr hunclosed, hstep.calls_eq_nil h hlog hended]
  rfl

theorem Step.count_closed_le (hstep : Step t t') (h : t.Invariant) (hlog : t'.log = m :: t.log)
    (socket : Nat) : m.closed.count socket ≤ 1 :=
  List.nodup_iff_count_le_one.mp (hstep.ends_nodup h hlog).of_append_left.of_append_left socket

/-- In a step only the last thing that is done to a connection can be that it is closed. -/
theorem Step.closed_last (hstep : Step t t') (h : t.Invariant)
    (hlast : .closed ∉ (t.deeds socket).tail) : .closed ∉ (t'.deeds socket).tail := by
  obtain ⟨m, hlog, -⟩ := hstep.log
  have hdeeds : t'.deeds socket = m.deeds socket ++ t.deeds socket := by
    rw [Traffic.deeds, hlog, List.flatMap_cons]
    rfl
  by_cases hended : socket ∈ t.ended
  · rw [hdeeds, hstep.deeds_eq_nil h hlog hended]
    exact hlast
  · -- The connection has not been closed before, and the move does not close it twice.
    have hbefore : .closed ∉ m.calls socket ++ t.deeds socket := by
      rw [List.mem_append, not_or, closed_mem_deeds]
      exact ⟨m.not_closed_calls socket, fun hclosed => hended (mem_ended.mpr (.inl hclosed))⟩
    rw [hdeeds, Move.deeds, List.append_assoc]
    obtain hzero | hone : m.closed.count socket = 0 ∨ m.closed.count socket = 1 := by
      have := hstep.count_closed_le h hlog socket
      omega
    · rw [hzero]
      exact fun hclosed => hbefore (List.mem_of_mem_tail hclosed)
    · rw [hone]
      exact hbefore

theorem Reachable.closed_last (h : Reachable config t) (socket : Nat) :
    .closed ∉ (t.deeds socket).tail := by
  induction h with
  | refl => exact List.not_mem_nil
  | tail h hstep ih => exact hstep.closed_last (Reachable.invariant h) ih

/-- As long as no deadline is overrun, no connection is left to a check and none is dropped. -/
theorem Reachable.strays_of_overran (h : Reachable config t) (hpunctual : t.overran = false) :
    t.strays = [] ∧ t.dropped = [] := by
  induction h with
  | refl => exact ⟨rfl, rfl⟩
  | tail h hstep ih =>
      cases hstep with
      | begin | attach => exact ih hpunctual
      | resume =>
          obtain ⟨hinTime, hpunctual⟩ := Bool.or_eq_false_iff.mp hpunctual
          obtain ⟨hstrays, hdropped⟩ := ih hpunctual
          refine ⟨?_, hdropped⟩
          show _ ++ _ = []
          rw [hstrays, Demand.strayed_of_overran hinTime]
          rfl
      | settle hstrays =>
          obtain ⟨hempty, -⟩ := ih hpunctual
          rw [hempty] at hstrays
          cases (List.append_eq_nil_iff.mp hstrays.symm).2

/-- Connections are closed once, and that is the last thing that is done to them. -/
structure ClosedOnce (t : Traffic) : Prop where
  /-- After a connection has been closed, nothing is done to it. -/
  last : ∀ socket later earlier, t.deeds socket = later ++ .closed :: earlier → later = []
  once : ∀ socket, (t.deeds socket).count .closed ≤ 1
  /-- A connection that was opened has been closed if it is in no place any more, unless it was
  dropped. -/
  accounted : ∀ socket ∈ t.opened,
    (.closed ∈ t.deeds socket ↔ socket ∉ t.dropped ∧ socket ∉ t.sites.map (·.2))
  /-- As long as no deadline is overrun, it has been closed exactly if it waits in no pool, no live
  handle has it, and no operation in flight. -/
  exactly : t.overran = false → ∀ socket ∈ t.opened,
    (.closed ∈ t.deeds socket ↔ socket ∉ t.placements.map (·.conn.socket))

theorem Reachable.closed_iff (h : Reachable config t) (hopened : socket ∈ t.opened) :
    .closed ∈ t.deeds socket ↔ socket ∉ t.dropped ∧ socket ∉ t.sites.map (·.2) := by
  have hends := h.invariant.ended_nodup
  rw [← t.closed_append_dropped.nodup_iff, List.nodup_append] at hends
  rw [closed_mem_deeds, ← h.invariant.ended_iff hopened, mem_ended]
  constructor
  · exact fun hclosed => ⟨fun hdropped => hends.2.2 socket hclosed socket hdropped rfl,
      .inl hclosed⟩
  · rintro ⟨hundropped, hclosed | hdropped⟩
    · exact hclosed
    · exact absurd hdropped hundropped

end Traffic

/-- Connections are closed once, in every state that a gateway can come to. -/
theorem closed_once {config : PoolConfig} {t : Traffic} (h : Traffic.Reachable config t) :
    t.ClosedOnce where
  last socket later earlier hdeeds := by
    cases later with
    | nil => rfl
    | cons deed later =>
        have hlast := h.closed_last socket
        rw [hdeeds] at hlast
        exact absurd (List.mem_append_right later List.mem_cons_self) hlast
  once socket := by
    have hlast := h.closed_last socket
    cases hdeeds : t.deeds socket with
    | nil => exact Nat.zero_le 1
    | cons deed earlier =>
        rw [hdeeds, List.tail_cons, ← List.count_eq_zero] at hlast
        rw [List.count_cons, hlast]
        split <;> decide
  accounted _ hopened := h.closed_iff hopened
  exactly hpunctual socket hopened := by
    obtain ⟨hstrays, hdropped⟩ := h.strays_of_overran hpunctual
    have hsites : t.sites.map (·.2) = t.placements.map (·.conn.socket) := by
      rw [Traffic.sites, hstrays, List.map_append, List.map_map]
      exact List.append_nil _
    rw [h.closed_iff hopened, hdropped, hsites]
    exact and_iff_right List.not_mem_nil

def checkedRun (reply : Reply) : List Traffic.Turn :=
  [.begin (.checkout ⟨1, sampleRequest⟩ .screen), .resume 0 0 .proceed, .resume 0 0 .proceed,
    .resume 0 0 .proceed, .resume 0 0 (.dialed (.ok 0)), .resume 0 0 .proceed,
    .begin (.checkout ⟨1, sampleRequest⟩ .screen), .resume 0 0 .proceed, .resume 0 0 .proceed,
    .resume 0 0 .proceed, .resume 0 0 (.dialed (.ok 1)), .resume 0 0 .proceed,
    .begin (.release (Handle.make 0 1)), .resume 0 0 .proceed, .resume 0 0 .proceed,
    .resume 0 0 .proceed, .resume 0 0 reply]

theorem closed_once_failed :
    ∃ t, (Traffic.init {}).play? (checkedRun (.checked false)) = some t ∧ t.overran = false ∧
      t.deeds 0 = [.closed, .called (.check 0 true true)] ∧ .closed ∉ t.deeds 1 := by
  have hplay : (Traffic.init {}).play? (checkedRun (.checked false)) =
      some (((Traffic.init {}).play? (checkedRun (.checked false))).get rfl) := rfl
  have hcloses := closed_once (Traffic.reachable_of_play? .refl hplay)
  refine ⟨_, hplay, rfl, rfl, fun hclosed => ?_⟩
  exact (hcloses.exactly rfl 1 (by decide)).mp hclosed (by decide)

/-- A check that is given up and passes after all lets the connection go without closing it. -/
example : ((Traffic.init {}).play? (checkedRun .overrun ++ [.settle 0 true])).map
    (fun t => (t.overran, t.deeds 0, t.dropped)) =
      some (true, [.lingered, .called (.check 0 true true)], [0]) := rfl

end DatabaseGateway
