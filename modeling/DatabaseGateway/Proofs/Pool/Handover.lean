import DatabaseGateway.Proofs.Link.Probe
import DatabaseGateway.Proofs.Pool.Accounting
import DatabaseGateway.Proofs.Pool.Lines

/-!
In which state a connection is handed to its next holder. Its line is followed from the holder that
gives it back to the one that gets it: through the check that takes it back, the sweeps while it
waits, and the probe before it is handed out. What these say of a line is all that the pools need
(`Vouching`); for a Postgres link the probe says that the session is clean, if it is carried out at
all and no guest has left a false answer to it behind.
-/

namespace DatabaseGateway

variable {σ : Type}

/-- What the checks on a network say. `Left` is how a holder leaves the line, and `Clean` is how the
next holder has to find it. -/
structure Vouching (n : Network σ) (timeout : Duration) (Left Clean : σ → Prop) : Prop where
  left : ∀ {world}, Clean world → Left world
  reset : ∀ {socket world world'}, Left world →
    n.vet socket timeout true false world = (.checked true, world') → Left world'
  probed : ∀ {socket reset world world'}, Left world →
    n.vet socket timeout reset true world = (.checked true, world') → Clean world'

/-- What is known of a line by how far its connection is on its way. `before` says whether it has
been handed out before. -/
def Standing.Finds (config : PoolConfig) (Left Clean : σ → Prop) (before : Prop) (world : σ) :
    Standing → Prop
  | waiting | renewed => Left world ∧ (config.probeOnCheckin = true → Clean world)
  | ready => before → Clean world
  | used | unbroken => True

namespace Traffic

variable {config : PoolConfig} {t t' : Traffic} {n : Network σ} {timeout : Duration}
  {Left Clean : σ → Prop}

def HandedOut (t : Traffic) (socket : Nat) : Prop := ∃ h, .issued h ∈ t.life socket

def OnLine (n : Network σ) (timeout : Duration) (Left : σ → Prop) (t : Traffic) (socket : Nat)
    (world : σ) : Prop :=
  Line n socket timeout Left (t.contacts socket) world

/-- What is known of the lines, wherever their connections are. -/
structure Overseen (config : PoolConfig) (n : Network σ) (timeout : Duration)
    (Left Clean : σ → Prop) (t : Traffic) : Prop where
  idle : ∀ {key pool conn world}, t.gateway.pool? key = some pool → conn ∈ pool.idle →
    t.OnLine n timeout Left conn.socket world →
    Standing.waiting.Finds config Left Clean (t.HandedOut conn.socket) world
  hands : ∀ {op standing conn world}, op ∈ t.flights → op.standing? = some (standing, conn) →
    t.OnLine n timeout Left conn.socket world →
    standing.Finds config Left Clean (t.HandedOut conn.socket) world

theorem Overseen.init (config : PoolConfig) :
    Overseen config n timeout Left Clean (init config) where
  idle hfound := nomatch hfound
  hands hflight := nomatch hflight

theorem OnLine.of_cons {m : Move} {socket : Nat} {world : σ} (hlog : t'.log = m :: t.log)
    (hapart : m.contact? socket = none) (hline : t'.OnLine n timeout Left socket world) :
    t.OnLine n timeout Left socket world := by
  rwa [OnLine, contacts_cons hlog hapart] at hline

/-- A move that no connection has a contact in, and in which none is handed out. -/
theorem Overseen.congr (hoverseen : Overseen config n timeout Left Clean t)
    (hpools : ∀ key, t'.gateway.pool? key = t.gateway.pool? key)
    (hflights : ∀ op ∈ t'.flights, op ∈ t.flights ∨ op.standing? = none) {m : Move}
    (hlog : t'.log = m :: t.log) (hsilent : ∀ socket, m.contact? socket = none)
    (hapart : ∀ socket, m.episode? socket = none) :
    Overseen config n timeout Left Clean t' := by
  have hhanded (socket) : t'.HandedOut socket ↔ t.HandedOut socket := by
    rw [HandedOut, HandedOut, life_cons hlog (hapart socket)]
  refine ⟨fun hfound hmem hline => ?_, fun hflight hstands hline => ?_⟩
  · rw [hpools] at hfound
    exact hoverseen.idle hfound hmem (hline.of_cons hlog (hsilent _))
  · obtain hold | hnone := hflights _ hflight
    · rw [hhanded]
      exact hoverseen.hands hold hstands (hline.of_cons hlog (hsilent _))
    · cases hnone.symm.trans hstands

theorem Invariant.opened_of_idle (hinvariant : t.Invariant) {key : PoolKey} {pool : Pool}
    {conn : PooledConnection} (hfound : t.gateway.pool? key = some pool) (hmem : conn ∈ pool.idle) :
    conn.socket ∈ t.opened :=
  hinvariant.opened_of_placed (Multiset.mem_add.mpr
    (.inl (Multiset.mem_add.mpr (.inl (Gateway.mem_idleSockets hfound hmem)))))

theorem Invariant.opened_of_standing (hinvariant : t.Invariant) {op : Operation}
    (hflight : op ∈ t.flights) {standing : Standing} {conn : PooledConnection}
    (hstands : op.standing? = some (standing, conn)) : conn.socket ∈ t.opened := by
  obtain ⟨key, hline⟩ := op.line_of_standing? hstands
  exact hinvariant.opened_of_line (mem_duties hflight hline)

section Resume

variable {op : Operation} {now : Instant} {reply : Reply} {conn : PooledConnection} {world : σ}

/-- A connection that waits after a step has waited before, or has been put back without a call. -/
theorem Overseen.resume_idle (hoverseen : Overseen config n timeout Left Clean t)
    (hinvariant : t.Invariant) (hflight : op ∈ t.flights)
    (hadmits : (op.demand t.gateway).Admits t.opened reply)
    (hlog : t'.log = op.move t.gateway now reply :: t.log) {key : PoolKey} {pool : Pool}
    (hfound : (op.resume t.gateway now reply).gateway.pool? key = some pool)
    (hmem : conn ∈ pool.idle) (hline : t'.OnLine n timeout Left conn.socket world) :
    Standing.waiting.Finds config Left Clean (t'.HandedOut conn.socket) world := by
  obtain ⟨pool₀, hfound₀, hmem₀⟩ | ⟨e, hedit, hputs⟩ := op.mem_idle_resume_puts hfound hmem
  · exact hoverseen.idle hfound₀ hmem₀ (hline.of_cons hlog (op.contact?_eq_none hadmits
      (hinvariant.opened_of_idle hfound₀ hmem₀)
      (hinvariant.not_reaches_idle hflight hfound₀ hmem₀)))
  · obtain ⟨-, hsilent, hstands⟩ := Operation.standing?_of_puts hedit hputs
    have huncalled : (op.demand t.gateway).socket? ≠ some conn.socket := by
      rw [hsilent]
      nofun
    obtain hwaits | ⟨conn, hrenewed, rfl⟩ := hstands
    · exact hoverseen.hands hflight hwaits (hline.of_cons hlog
        (hadmits.contact?_eq_none (hinvariant.opened_of_standing hflight hwaits) huncalled))
    · exact hoverseen.hands hflight hrenewed (hline.of_cons hlog
        (hadmits.contact?_eq_none (hinvariant.opened_of_standing hflight hrenewed) huncalled))

/-- A check that the connection in the operation's hands has passed was carried out on its line. -/
theorem OnLine.of_checked {standing : Standing}
    (hadmits : (op.demand t.gateway).Admits t.opened (.checked true))
    (hlog : t'.log = op.move t.gateway now (.checked true) :: t.log)
    (hstands : op.standing? = some (standing, conn))
    (hline : t'.OnLine n timeout Left conn.socket world) :
    ∃ reset probe before, standing.Checked t.gateway reset probe ∧
      t.OnLine n timeout Left conn.socket before ∧ (reset = true → Left before) ∧
      n.vet conn.socket timeout reset probe before = (.checked true, world) := by
  obtain ⟨reset, probe, hchecked, hcontact⟩ := op.contact?_checked hadmits hstands
  rw [OnLine, contacts_cons_some hlog hcontact] at hline
  cases hline with
  | checked hline hleft hvets => exact ⟨reset, probe, _, hchecked, hline, hleft, hvets⟩

/-- What is known of a connection that an operation has in its hands after a step follows from where
it comes from. -/
theorem Overseen.resume_hands (hvouching : Vouching n timeout Left Clean)
    (hsure : config.probeOnCheckin = true ∨ config.probeOnCheckout = true ∨
      ∀ world, Left world → Clean world)
    (hoverseen : Overseen config n timeout Left Clean t) (hreachable : Reachable config t)
    (hflight : op ∈ t.flights) (hadmits : (op.demand t.gateway).Admits t.opened reply)
    (hlog : t'.log = op.move t.gateway now reply :: t.log) {op' : Operation}
    (hnext : op' ∈ (op.resume t.gateway now reply).next.stages) {standing : Standing}
    (hstands : op'.standing? = some (standing, conn))
    (hline : t'.OnLine n timeout Left conn.socket world) :
    standing.Finds config Left Clean (t'.HandedOut conn.socket) world := by
  have hinvariant := hreachable.invariant
  have hsame : t.gateway.config = config := hreachable.founded.config_eq
  cases op.arrives hnext hstands with
  | picked hway hfound hmem =>
      obtain ⟨hleft, hprobed⟩ := hoverseen.idle hfound hmem (hline.of_cons hlog
        (op.contact?_eq_none hadmits (hinvariant.opened_of_idle hfound hmem)
          (hinvariant.not_reaches_idle hflight hfound hmem)))
      obtain rfl | ⟨rfl, hunprobed⟩ := hway
      · exact ⟨hleft, hprobed⟩
      · -- It is handed out without a probe, which it had when it was taken back.
        rw [hsame] at hunprobed
        rintro -
        obtain hcheckin | hcheckout | hclean := hsure
        · exact hprobed hcheckin
        · cases hunprobed.symm.trans hcheckout
        · exact hclean world hleft
  | taken => trivial
  | opened hopens =>
      have hfresh := hadmits.fresh _ hopens
      have hsilent : (op.move t.gateway now reply).episode? conn.socket = none :=
        op.episode?_eq_none (hinvariant.not_reaches_unopened hflight hfresh)
      rintro ⟨handle, hissued⟩
      rw [life_cons hlog hsilent, hreachable.tended.unopened _ hfresh] at hissued
      cases hissued
  | passed hway hwaits hpasses =>
      subst hpasses
      obtain ⟨_, _, before, ⟨⟩, hline, -, hvets⟩ := hline.of_checked hadmits hlog hwaits
      have hclean : Clean world := hvouching.probed (hoverseen.hands hflight hwaits hline).1 hvets
      obtain rfl | rfl := hway
      · exact ⟨hvouching.left hclean, fun _ => hclean⟩
      · exact fun _ => hclean
  | judged => trivial
  | checked hunbroken hpasses =>
      subst hpasses
      obtain ⟨_, _, before, ⟨⟩, hline, hleft, hvets⟩ := hline.of_checked hadmits hlog hunbroken
      rw [hsame] at hvets
      cases hprobe : config.probeOnCheckin with
      | true =>
          rw [hprobe] at hvets
          have hclean : Clean world := hvouching.probed (hleft rfl) hvets
          exact ⟨hvouching.left hclean, fun _ => hclean⟩
      | false =>
          rw [hprobe] at hvets
          exact ⟨hvouching.reset (hleft rfl) hvets, fun hprobed =>
            nomatch hprobe.symm.trans hprobed⟩

end Resume

theorem Step.overseen (hvouching : Vouching n timeout Left Clean)
    (hsure : config.probeOnCheckin = true ∨ config.probeOnCheckout = true ∨
      ∀ world, Left world → Clean world)
    (hstep : Step t t') (hreachable : Reachable config t)
    (hoverseen : Overseen config n timeout Left Clean t) :
    Overseen config n timeout Left Clean t' := by
  cases hstep with
  | @begin op hinitial =>
      refine hoverseen.congr (fun _ => rfl) (fun op' hflight => ?_) rfl (fun _ => rfl) fun _ => rfl
      obtain hold | hnew := List.mem_append.mp hflight
      · exact .inl hold
      · exact .inr (List.mem_singleton.mp hnew ▸ hinitial.standing?)
  | attach => exact hoverseen.congr (fun _ => rfl) (fun _ => .inl) rfl (fun _ => rfl) fun _ => rfl
  | settle => exact hoverseen.congr (fun _ => rfl) (fun _ => .inl) rfl (fun _ => rfl) fun _ => rfl
  | @resume before after op now reply hflights hadmits =>
      have hinvariant := hreachable.invariant
      have hflight : op ∈ t.flights := mem_flights hflights
      have hlog : (t.resume before op after now reply).log =
          op.move t.gateway now reply :: t.log := rfl
      refine ⟨fun hfound hmem hline => hoverseen.resume_idle hinvariant hflight hadmits hlog hfound
        hmem hline, fun {op' standing conn world} hflight' hstands hline => ?_⟩
      have hmem : op' ∈ before ++ (op.resume t.gateway now reply).next.stages ++ after := hflight'
      rw [List.mem_append, List.mem_append, or_assoc, or_left_comm, ← List.mem_append] at hmem
      obtain hnext | hother := hmem
      · exact hoverseen.resume_hands hvouching hsure hreachable hflight hadmits hlog hnext hstands
          hline
      · have hapart := hinvariant.not_reaches_other hflights hother hstands
        have hold := mem_flights_other hflights hother
        rw [HandedOut, life_cons hlog (op.episode?_eq_none hapart)]
        exact hoverseen.hands hold hstands (hline.of_cons hlog
          (op.contact?_eq_none hadmits (hinvariant.opened_of_standing hold hstands) hapart))

theorem Reachable.overseen (hvouching : Vouching n timeout Left Clean)
    (hsure : config.probeOnCheckin = true ∨ config.probeOnCheckout = true ∨
      ∀ world, Left world → Clean world)
    (hreachable : Reachable config t) : Overseen config n timeout Left Clean t := by
  induction hreachable with
  | refl => exact .init config
  | tail hbefore hstep ih => exact hstep.overseen hvouching hsure hbefore ih

/-- In some run, a connection is handed to a holder that is not its first, with its line in a given
state. -/
def HandedOver (config : PoolConfig) (n : Network σ) (timeout : Duration) (Left : σ → Prop)
    (socket : Nat) (world : σ) : Prop :=
  ∃ (t t' : Traffic) (handle : Handle), Reachable config t ∧ Step t t' ∧
    t'.life socket = .issued handle :: t.life socket ∧ t.HandedOut socket ∧
    t.OnLine n timeout Left socket world

/-- Whenever a connection is handed to a holder that is not its first, its line is clean. -/
def HandsOver (config : PoolConfig) (n : Network σ) (timeout : Duration) (Left Clean : σ → Prop) :
    Prop :=
  ∀ {socket : Nat} {world : σ}, HandedOver config n timeout Left socket world → Clean world

theorem Step.exists_ready (hstep : Step t t') {socket : Nat} {handle : Handle}
    (hissued : t'.life socket = .issued handle :: t.life socket) :
    ∃ op ∈ t.flights, ∃ conn, op.standing? = some (.ready, conn) ∧ conn.socket = socket := by
  have hissues {m : Move} (hlog : t'.log = m :: t.log) :
      m.episode? socket = some (.issued handle) := by
    cases hhappened : m.episode? socket with
    | none =>
        rw [life_cons hlog hhappened] at hissued
        exact absurd hissued.symm (List.cons_ne_self _ _)
    | some e =>
        rw [life_cons_some hlog hhappened] at hissued
        exact congrArg some (List.cons.inj hissued).1
  cases hstep with
  | begin | attach | settle => cases hissues rfl
  | @resume before after op now reply hflights hadmits =>
      have hhappened : (op.move t.gateway now reply).episode? socket = some (.issued handle) :=
        hissues rfl
      obtain ⟨order, conn, handle', rfl, hsame, -, -⟩ | ⟨handle', use, conn, -, -, -, hused⟩ |
        ⟨conn, -, -, -, hrenewed⟩ := op.episode?_cases hhappened
      · exact ⟨_, mem_flights hflights, conn, rfl, hsame⟩
      · unfold Reply.episode? at hused
        split at hused <;> cases hused
      · cases hrenewed

/-- What the checks say of a line, its next holder finds. -/
theorem handsOver_of_vouching (hvouching : Vouching n timeout Left Clean)
    (hsure : config.probeOnCheckin = true ∨ config.probeOnCheckout = true ∨
      ∀ world, Left world → Clean world) : HandsOver config n timeout Left Clean := by
  rintro socket world ⟨t, t', handle, hreachable, hstep, hissued, hbefore, hline⟩
  obtain ⟨op, hflight, conn, hstands, rfl⟩ := hstep.exists_ready hissued
  exact (hreachable.overseen hvouching hsure).hands hflight hstands hline hbefore

end Traffic

/-! ### Postgres -/

namespace Postgres

open Wire

section Vouching

variable {t : Transport σ} {unread : σ → Bytes} {status : σ → TransactionStatus} {limit : Nat}
  {timeout : Duration} {socket : Nat} {reset : Bool} {world : σ}

/-- The session on a Postgres link is not changed by a reset. -/
theorem vet_unprobed : ((Link.postgres true limit).network t).vet socket timeout reset false world =
    (.checked true, world) := by
  cases reset <;> rfl

theorem vet_probed : ((Link.postgres true limit).network t).vet socket timeout reset true world =
    (.checked (Link.ping t timeout world (.postgres true limit)).1,
      (Link.ping t timeout world (.postgres true limit)).2) := by
  cases reset <;> rfl

theorem clean_of_vet (horderly : Orderly t unread status) {world' : σ}
    (hleft : Unmistakable (unread world))
    (hvets : ((Link.postgres true limit).network t).vet socket timeout reset true world =
      (.checked true, world')) : Clean unread status world' := by
  rw [vet_probed] at hvets
  obtain ⟨hpassed, rfl⟩ := Prod.mk.inj hvets
  exact clean_of_ping horderly hleft (Prod.ext (Reply.checked.inj hpassed) rfl)

theorem Clean.unmistakable (hclean : Clean unread status world) : Unmistakable (unread world) := by
  rw [hclean.unread]
  exact unmistakable_nil

theorem vouching_unmistakable (horderly : Orderly t unread status) :
    Vouching ((Link.postgres true limit).network t) timeout
      (fun world => Unmistakable (unread world)) (Clean unread status) where
  left := Clean.unmistakable
  reset hleft hvets := by
    cases vet_unprobed.symm.trans hvets
    exact hleft
  probed hleft hvets := clean_of_vet horderly hleft hvets

theorem vouching_clean (horderly : Orderly t unread status) :
    Vouching ((Link.postgres true limit).network t) timeout (Clean unread status)
      (Clean unread status) where
  left := id
  reset hleft hvets := by
    cases vet_unprobed.symm.trans hvets
    exact hleft
  probed hleft hvets := clean_of_vet horderly hleft.unmistakable hvets

end Vouching

end Postgres

/-- A Postgres connection is handed over clean, with nothing unread and in no transaction, if it is
probed when it is taken back or before it is handed out, and if what its holders leave unread does
not pass for the answer to a probe. Without such a probe it is handed over as its holders leave it:
clean if they leave it clean. -/
theorem handsOver_clean (config : PoolConfig) {t : Transport σ} {unread : σ → Bytes}
    {status : σ → Wire.TransactionStatus} (horderly : Postgres.Orderly t unread status)
    (limit : Nat)
    (timeout : Duration) :
    (config.probeOnCheckin = true ∨ config.probeOnCheckout = true →
      Traffic.HandsOver config ((Link.postgres true limit).network t) timeout
        (fun world => Postgres.Unmistakable (unread world)) (Postgres.Clean unread status)) ∧
    Traffic.HandsOver config ((Link.postgres true limit).network t) timeout
      (Postgres.Clean unread status) (Postgres.Clean unread status) := by
  refine ⟨fun hprobes => ?_, ?_⟩
  · exact Traffic.handsOver_of_vouching (Postgres.vouching_unmistakable horderly)
      (or_assoc.1 (.inl hprobes))
  · exact Traffic.handsOver_of_vouching (Postgres.vouching_clean horderly)
      (.inr (.inr fun _ => id))

section Runs

open Wire

def Contact.turns : Contact → List Traffic.Turn
  | sent data result => [.begin (.exchange (Handle.make 0 1) (.send data) .fetch),
      .resume 0 0 .proceed, .resume 0 0 (.sent result)]
  | received most result => [.begin (.exchange (Handle.make 0 1) (.recv most) .fetch),
      .resume 0 0 .proceed, .resume 0 0 (.received result)]
  | opened | checked .. | overrun => []

/-- A guest uses a new connection and gives it back. Another guest asks for one, and gets it as soon
as the request goes on; before that, it may have been probed. -/
def reusedRun (uses : List Contact) (probed : Bool) : List Traffic.Turn :=
  [.begin (.checkout ⟨1, sampleRequest⟩ .screen), .resume 0 0 .proceed, .resume 0 0 .proceed,
    .resume 0 0 .proceed, .resume 0 0 (.dialed (.ok 0)), .resume 0 0 .proceed] ++
  uses.flatMap Contact.turns ++
  [.begin (.release (Handle.make 0 1)), .resume 0 0 .proceed, .resume 0 0 .proceed,
    .resume 0 0 .proceed, .resume 0 0 (.checked true), .resume 0 0 .proceed,
    .begin (.checkout ⟨2, sampleRequest⟩ .screen), .resume 0 0 .proceed, .resume 0 0 .proceed,
    .resume 0 0 .proceed] ++
  if probed then [.resume 0 0 (.checked true)] else []

/-- The contacts, the life so far and the life after one more step of the connection in such a
run. -/
def reusedView (config : PoolConfig) (uses : List Contact) (probed : Bool) :
    Option (List Contact × List Episode × Option (List Episode)) :=
  ((Traffic.init config).play? (reusedRun uses probed)).map fun t =>
    (t.contacts 0, t.life 0, (t.turn? (.resume 0 0 .proceed)).map (·.life 0))

theorem handedOver_of_view {config : PoolConfig} {uses contacts : List Contact} {probed : Bool}
    {life : List Episode} {handle : Handle}
    (hseen : reusedView config uses probed = some (contacts, life, some (.issued handle :: life)))
    (hbefore : ∃ h, .issued h ∈ life) {n : Network σ} {timeout : Duration} {Left : σ → Prop}
    {world : σ} (hline : Line n 0 timeout Left contacts world) :
    Traffic.HandedOver config n timeout Left 0 world := by
  obtain ⟨t, hplayed, hview⟩ := Option.map_eq_some_iff.1 hseen
  obtain ⟨rfl, hrest⟩ := Prod.mk.inj hview
  obtain ⟨rfl, hlast⟩ := Prod.mk.inj hrest
  obtain ⟨t', hturn, hissued⟩ := Option.map_eq_some_iff.1 hlast
  exact ⟨t, t', handle, Traffic.reachable_of_play? .refl hplayed, Traffic.step_iff.2 ⟨_, hturn⟩,
    hissued, hbefore, hline⟩

namespace Desk

def network : Network Desk :=
  (Link.postgres true defaultMaxFrameSize).network transport

/-- However many answers nobody has read, a probe is passed and changes nothing. -/
theorem vet_asked (queries : Nat) (socket : Nat) (timeout : Duration) (reset : Bool) :
    network.vet socket timeout reset true (asked queries) = (.checked true, asked queries) := by
  rw [network, Postgres.vet_probed, ping_asked]

def begun (unread : List BackendMessage) : Desk where
  unread := unread.flatMap BackendMessage.encode
  status := .inTransaction
  piece := 100

def begins : List BackendMessage :=
  [.commandComplete "BEGIN", .readyForQuery .inTransaction]

theorem send_begin : send (FrontendMessage.query "BEGIN").encode { piece := 100 } =
    (.ok 11, begun begins) := by
  rfl

theorem recv_begun : recv Postgres.receiveSize (begun begins) =
    (.ok (begins.flatMap BackendMessage.encode), begun []) := by
  rfl

def asks : Contact :=
  .sent (FrontendMessage.query "").encode (.ok 6)

def reads (answer : List BackendMessage) : Contact :=
  .received Postgres.receiveSize (.ok (answer.flatMap BackendMessage.encode))

end Desk

/-- One guest asks an empty query and reads the answer, and the next guest finds nothing. -/
theorem handsOver_clean_read :
    Traffic.HandedOver {} Desk.network ⟨0⟩ (fun d => Postgres.Unmistakable d.unread) 0
      (Desk.asked 0) ∧
    Postgres.Clean Desk.unread Desk.status (Desk.asked 0) := by
  have hseen : reusedView {} [Desk.asks, Desk.reads (Desk.nothing .idle)] true =
      some ([.checked false true true, .checked true true true,
          Desk.reads (Desk.nothing .idle), Desk.asks, .opened],
        [.renewed, .used, .used, .issued (Handle.make 0 1)],
        some [.issued (Handle.make 0 2), .renewed, .used, .used, .issued (Handle.make 0 1)]) := by
    decide +kernel
  have hhanded : Traffic.HandedOver {} Desk.network ⟨0⟩
      (fun d => Postgres.Unmistakable d.unread) 0 (Desk.asked 0) :=
    handedOver_of_view hseen ⟨Handle.make 0 1, by decide⟩ <|
      .checked (.checked (.received (.sent .opened (Desk.send_asked 0)) (Desk.recv_asked 0))
        (fun _ => Postgres.unmistakable_nil) (Desk.vet_asked 0 ..)) nofun (Desk.vet_asked 0 ..)
  exact ⟨hhanded, (handsOver_clean {} Desk.orderly defaultMaxFrameSize ⟨0⟩).1 (.inl rfl) hhanded⟩

/-- Without a probe, a guest gets a connection on which another guest has begun a transaction. With
both probes, it gets one on which another guest has asked three empty queries and has read nothing:
each probe takes one of the answers for the answer to itself, and the third one is still to come. -/
theorem exists_not_handsOver :
    Postgres.Orderly Desk.transport Desk.unread Desk.status ∧
    ¬ Traffic.HandsOver { probeOnCheckout := false, probeOnCheckin := false } Desk.network ⟨0⟩
      (fun _ => True) (Postgres.Clean Desk.unread Desk.status) ∧
    ¬ Traffic.HandsOver {} Desk.network ⟨0⟩
      (fun _ => True) (Postgres.Clean Desk.unread Desk.status) := by
  refine ⟨Desk.orderly, fun hclean => ?_, fun hclean => ?_⟩
  · have hseen : reusedView { probeOnCheckout := false, probeOnCheckin := false }
        [.sent (FrontendMessage.query "BEGIN").encode (.ok 11), Desk.reads Desk.begins] false =
        some ([.checked true false true, Desk.reads Desk.begins,
            .sent (FrontendMessage.query "BEGIN").encode (.ok 11), .opened],
          [.renewed, .used, .used, .issued (Handle.make 0 1)],
          some [.issued (Handle.make 0 2), .renewed, .used, .used,
            .issued (Handle.make 0 1)]) := by
      decide +kernel
    have hfound := hclean <| handedOver_of_view hseen ⟨Handle.make 0 1, by decide⟩ <|
      .checked (.received (.sent .opened Desk.send_begin) Desk.recv_begun) (fun _ => trivial)
        Postgres.vet_unprobed
    cases hfound.status
  · have hseen : reusedView {} [Desk.asks, Desk.asks, Desk.asks] true =
        some ([.checked false true true, .checked true true true,
            Desk.asks, Desk.asks, Desk.asks, .opened],
          [.renewed, .used, .used, .used, .issued (Handle.make 0 1)],
          some [.issued (Handle.make 0 2), .renewed, .used, .used, .used,
            .issued (Handle.make 0 1)]) := by
      decide +kernel
    have hfound := hclean <| handedOver_of_view hseen ⟨Handle.make 0 1, by decide⟩ <|
      .checked (.checked (.sent (.sent (.sent .opened (Desk.send_asked 0)) (Desk.send_asked 1))
          (Desk.send_asked 2)) (fun _ => trivial) (Desk.vet_asked 3 ..)) nofun (Desk.vet_asked 3 ..)
    cases hfound.unread

end Runs

end DatabaseGateway
