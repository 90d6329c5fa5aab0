import DatabaseGateway.Wire.Conversation
import DatabaseGateway.Proofs.Wire.Framing

/-!
How to reason about a conversation. `Upholds` is the rule for its loop: what holds while it goes on
is kept by every frame that is taken and by every piece that is received, and leads to what holds at
the end. No other proof about conversations looks into the loop.

A conversation that a message ends has a course: which frames were taken, and where pieces were
received. `Course` is the same conversation without the loop, its patience and the decoder's count
of missing bytes (`Course.of_converse`, `Course.converse`), so that two conversations are compared
by an induction on the course of one of them.
-/

namespace DatabaseGateway.Wire

variable {γ β ε σ : Type}

/-- What holds while a conversation goes on, by the receives that are left, the buffer, the state
and the world, and what holds at its end. -/
structure Upholds (receive : σ → Except ε Bytes × σ) (handle : Handler γ β σ) (limit : Nat)
    (During : Nat → Bytes → γ → σ → Prop) (After : Ending β ε → Bytes → σ → Prop) : Prop where
  skip : ∀ {patience buffer state world f rest}, During patience buffer state world →
    Frame.split limit buffer = .ok (some (f, rest)) →
    BackendMessage.decode f.tag f.payload = .ok none → During patience rest state world
  more : ∀ {patience buffer state world f rest message state' world'},
    During patience buffer state world → Frame.split limit buffer = .ok (some (f, rest)) →
    BackendMessage.decode f.tag f.payload = .ok (some message) →
    handle message state world = (.more state', world') → During patience rest state' world'
  finished : ∀ {patience buffer state world f rest message outcome world'},
    During patience buffer state world → Frame.split limit buffer = .ok (some (f, rest)) →
    BackendMessage.decode f.tag f.payload = .ok (some message) →
    handle message state world = (.done outcome, world') → After (.finished outcome) rest world'
  garbled : ∀ {patience buffer state world e}, During patience buffer state world →
    Refused BackendMessage.decode limit buffer e → After (.garbled e) buffer world
  broken : ∀ {patience buffer state world e world'}, During patience buffer state world →
    Frame.split limit buffer = .ok none → receive world = (.error e, world') →
    After (.broken e) buffer world'
  hungUp : ∀ {patience buffer state world world'}, During patience buffer state world →
    Frame.split limit buffer = .ok none → receive world = (.ok [], world') →
    After .hungUp buffer world'
  fed : ∀ {patience buffer state world b bs world'}, During (patience + 1) buffer state world →
    Frame.split limit buffer = .ok none → receive world = (.ok (b :: bs), world') →
    During patience (buffer ++ b :: bs) state world'
  /-- Bytes have come, but no patience is left for them. -/
  worn : ∀ {buffer state world b bs world'}, During 0 buffer state world →
    Frame.split limit buffer = .ok none → receive world = (.ok (b :: bs), world') →
    After .hungUp buffer world'

namespace Upholds

variable {receive : σ → Except ε Bytes × σ} {handle : Handler γ β σ} {limit : Nat}
  {During : Nat → Bytes → γ → σ → Prop} {After : Ending β ε → Bytes → σ → Prop} {patience : Nat}
  {buffer : Bytes} {state : γ} {world : σ}

/-- What is found in a buffer by a reader that takes one message, behind the frames that it passes
over. -/
theorem next (h : Upholds receive handle limit During After)
    (hstart : During patience buffer state world) :
    match Decoder.nextFrom BackendMessage.decode limit buffer with
    | (.error e, rest) =>
      During patience rest state world ∧ Refused BackendMessage.decode limit rest e
    | (.ok none, rest) => During patience rest state world ∧ Frame.split limit rest = .ok none
    | (.ok (some message), rest) => ∃ buffer' f, During patience buffer' state world ∧
        Frame.split limit buffer' = .ok (some (f, rest)) ∧
        BackendMessage.decode f.tag f.payload = .ok (some message) := by
  fun_induction Decoder.nextFrom BackendMessage.decode limit buffer with
  | case1 buffer e hsplit => exact ⟨hstart, .inl hsplit⟩
  | case2 buffer hsplit => exact ⟨hstart, hsplit⟩
  | case3 buffer f rest hsplit e hread => exact ⟨hstart, .inr ⟨f, rest, hsplit, hread⟩⟩
  | case4 buffer f rest hsplit message hread => exact ⟨buffer, f, hstart, hsplit, hread⟩
  | case5 buffer f rest hsplit hread hshorter ih => exact ih (h.skip hstart hsplit hread)

theorem handleFrom (h : Upholds receive handle limit During After)
    (hstart : During patience buffer state world) :
    match Wire.handleFrom handle limit buffer state world with
    | (.error e, rest, world') => After (.garbled e) rest world'
    | (.ok (.done outcome), rest, world') => After (.finished outcome) rest world'
    | (.ok (.more state'), rest, world') =>
      During patience rest state' world' ∧ Frame.split limit rest = .ok none := by
  fun_induction Wire.handleFrom handle limit buffer state world with
  | case1 buffer state world e rest hfound =>
      have htaken := h.next hstart
      rw [hfound] at htaken
      exact h.garbled htaken.1 htaken.2
  | case2 buffer state world rest hfound =>
      have htaken := h.next hstart
      rwa [hfound] at htaken
  | case3 buffer state world message rest hfound outcome world' hlast =>
      have htaken := h.next hstart
      rw [hfound] at htaken
      obtain ⟨buffer', f, hduring, hsplit, hread⟩ := htaken
      exact h.finished hduring hsplit hread hlast
  | case4 buffer state world message rest hfound state' world' hstep hshorter ih =>
      have htaken := h.next hstart
      rw [hfound] at htaken
      obtain ⟨buffer', f, hduring, hsplit, hread⟩ := htaken
      exact ih (h.more hduring hsplit hread hstep)

variable {d : Decoder}

theorem handleBuffered (h : Upholds receive handle d.limit During After) (hsound : d.Sound)
    (hstart : During patience d.buffer state world) :
    match Wire.handleBuffered handle d state world with
    | (result, d', world') => d'.Sound ∧ d'.limit = d.limit ∧
      match result with
      | .error e => After (.garbled e) d'.buffer world'
      | .ok (.done outcome) => After (.finished outcome) d'.buffer world'
      | .ok (.more state') =>
        During patience d'.buffer state' world' ∧ Frame.split d.limit d'.buffer = .ok none := by
  rcases Nat.eq_zero_or_pos d.missing with htold | hwaiting
  · rw [Wire.handleBuffered, if_neg (by omega)]
    have htaken := h.handleFrom hstart
    revert htaken
    generalize Wire.handleFrom handle d.limit d.buffer state world = result
    obtain ⟨_ | _ | _, rest, world'⟩ := result <;> intro htaken
    · exact ⟨d.sound_keep rest, rfl, htaken⟩
    · exact ⟨d.sound_await rest, rfl, htaken⟩
    · exact ⟨d.sound_keep rest, rfl, htaken⟩
  · -- Too few bytes have arrived for a frame, so that none is looked for.
    rw [Wire.handleBuffered, if_pos hwaiting]
    have hnone := hsound [] hwaiting
    rw [List.append_nil] at hnone
    exact ⟨hsound, rfl, hstart, hnone⟩

/-- The rule for the loop. -/
theorem converse (h : Upholds receive handle d.limit During After) (hsound : d.Sound)
    (hstart : During patience d.buffer state world) :
    match Wire.converse receive handle patience d state world with
    | (ending, d', world') => d'.Sound ∧ d'.limit = d.limit ∧ After ending d'.buffer world' := by
  fun_induction Wire.converse receive handle patience d state world with
  | case1 patience d state world e d' world' hfound =>
      have hhandled := h.handleBuffered hsound hstart
      rwa [hfound] at hhandled
  | case2 patience d state world outcome d' world' hfound =>
      have hhandled := h.handleBuffered hsound hstart
      rwa [hfound] at hhandled
  | case3 patience d state world state' d' world' hfound e world'' hreceived =>
      have hhandled := h.handleBuffered hsound hstart
      rw [hfound] at hhandled
      obtain ⟨hsound', hlimit', hduring, hwaits⟩ := hhandled
      exact ⟨hsound', hlimit', h.broken hduring hwaits hreceived⟩
  | case4 patience d state world state' d' world' hfound world'' hreceived =>
      have hhandled := h.handleBuffered hsound hstart
      rw [hfound] at hhandled
      obtain ⟨hsound', hlimit', hduring, hwaits⟩ := hhandled
      exact ⟨hsound', hlimit', h.hungUp hduring hwaits hreceived⟩
  | case5 d state world state' d' world' hfound b bs world'' hreceived =>
      have hhandled := h.handleBuffered hsound hstart
      rw [hfound] at hhandled
      obtain ⟨hsound', hlimit', hduring, hwaits⟩ := hhandled
      exact ⟨hsound', hlimit', h.worn hduring hwaits hreceived⟩
  | case6 d state world state' d' world' hfound b bs world'' hreceived patience ih =>
      have hhandled := h.handleBuffered hsound hstart
      rw [hfound] at hhandled
      obtain ⟨hsound', hlimit', hduring, hwaits⟩ := hhandled
      have hfed := h.fed hduring hwaits hreceived
      rw [← Decoder.buffer_feed] at hfed
      have hlimit : (d'.feed (b :: bs)).limit = d.limit := hlimit'
      have hlater := ih (hlimit ▸ h) (hsound'.feed (b :: bs)) hfed
      rwa [hlimit] at hlater

end Upholds

/-- What holds while a conversation goes on, whatever bytes have arrived, and what holds at its
end. -/
structure Keeps (receive : σ → Except ε Bytes × σ) (handle : Handler γ β σ)
    (During : γ → σ → Prop) (After : Ending β ε → σ → Prop) : Prop where
  more : ∀ {message state world state' world'}, During state world →
    handle message state world = (.more state', world') → During state' world'
  finished : ∀ {message state world outcome world'}, During state world →
    handle message state world = (.done outcome, world') → After (.finished outcome) world'
  garbled : ∀ {state world e}, During state world → After (.garbled e) world
  broken : ∀ {state world e world'}, During state world → receive world = (.error e, world') →
    After (.broken e) world'
  hungUp : ∀ {state world bytes world'}, During state world →
    receive world = (.ok bytes, world') → After .hungUp world'
  fed : ∀ {state world bytes world'}, During state world → receive world = (.ok bytes, world') →
    During state world'

namespace Keeps

variable {receive : σ → Except ε Bytes × σ} {handle : Handler γ β σ} {During : γ → σ → Prop}
  {After : Ending β ε → σ → Prop} {state : γ} {world : σ}

theorem handleFrom (h : Keeps receive handle During After) (limit : Nat) (buffer : Bytes)
    (hstart : During state world) :
    match Wire.handleFrom handle limit buffer state world with
    | (.error _, _, world') => ∃ state', During state' world'
    | (.ok (.done outcome), _, world') => After (.finished outcome) world'
    | (.ok (.more state'), _, world') => During state' world' := by
  fun_induction Wire.handleFrom handle limit buffer state world with
  | case1 buffer state world e rest hfound => exact ⟨state, hstart⟩
  | case2 buffer state world rest hfound => exact hstart
  | case3 buffer state world message rest hfound outcome world' hlast =>
      exact h.finished hstart hlast
  | case4 buffer state world message rest hfound state' world' hstep hshorter ih =>
      exact ih (h.more hstart hstep)

theorem handleBuffered (h : Keeps receive handle During After) (d : Decoder)
    (hstart : During state world) :
    match Wire.handleBuffered handle d state world with
    | (.error _, _, world') => ∃ state', During state' world'
    | (.ok (.done outcome), _, world') => After (.finished outcome) world'
    | (.ok (.more state'), _, world') => During state' world' := by
  unfold Wire.handleBuffered
  by_cases hwaiting : 0 < d.missing
  · rwa [if_pos hwaiting]
  · rw [if_neg hwaiting]
    have hhandled := h.handleFrom d.limit d.buffer hstart
    revert hhandled
    generalize Wire.handleFrom handle d.limit d.buffer state world = result
    obtain ⟨_ | _ | _, rest, world'⟩ := result <;> exact id

/-- The rule for the loop. -/
theorem converse (h : Keeps receive handle During After) (patience : Nat) (d : Decoder) (state : γ)
    (hstart : During state world) :
    match Wire.converse receive handle patience d state world with
    | (ending, _, world') => After ending world' := by
  fun_induction Wire.converse receive handle patience d state world with
  | case1 patience d state world e d' world' hfound =>
      have hhandled := h.handleBuffered d hstart
      rw [hfound] at hhandled
      obtain ⟨state', hduring⟩ := hhandled
      exact h.garbled hduring
  | case2 patience d state world outcome d' world' hfound =>
      have hhandled := h.handleBuffered d hstart
      rwa [hfound] at hhandled
  | case3 patience d state world state' d' world' hfound e world'' hreceived =>
      have hhandled := h.handleBuffered d hstart
      rw [hfound] at hhandled
      exact h.broken hhandled hreceived
  | case4 patience d state world state' d' world' hfound world'' hreceived =>
      have hhandled := h.handleBuffered d hstart
      rw [hfound] at hhandled
      exact h.hungUp hhandled hreceived
  | case5 d state world state' d' world' hfound b bs world'' hreceived =>
      have hhandled := h.handleBuffered d hstart
      rw [hfound] at hhandled
      exact h.hungUp hhandled hreceived
  | case6 d state world state' d' world' hfound b bs world'' hreceived patience ih =>
      have hhandled := h.handleBuffered d hstart
      rw [hfound] at hhandled
      exact ih (h.fed hhandled hreceived)

end Keeps

/-- Two conversations, the second over worlds of which the first sees a part: what it does not see
changes nothing of what is received and of how messages are handled. -/
structure Sees {τ : Type} (view : τ → σ) (receive : σ → Except ε Bytes × σ) (handle : Handler γ β σ)
    (receive' : τ → Except ε Bytes × τ) (handle' : Handler γ β τ) : Prop where
  receive : ∀ v, receive (view v) = (receive' v).map id view
  handle : ∀ message state v, handle message state (view v) = (handle' message state v).map id view

namespace Sees

variable {τ : Type} {view : τ → σ} {receive : σ → Except ε Bytes × σ} {handle : Handler γ β σ}
  {receive' : τ → Except ε Bytes × τ} {handle' : Handler γ β τ}

theorem handleFrom (hsees : Sees view receive handle receive' handle') (limit : Nat)
    (buffer : Bytes) (state : γ) (v : τ) :
    Wire.handleFrom handle limit buffer state (view v) =
      (Wire.handleFrom handle' limit buffer state v).map id (Prod.map id view) := by
  fun_induction Wire.handleFrom handle' limit buffer state v with
  | case1 buffer state v e rest hfound | case2 buffer state v rest hfound =>
      rw [Wire.handleFrom]
      split <;> simp_all
  | case3 buffer state v message rest hfound outcome v' hlast =>
      rw [Wire.handleFrom]
      split <;> simp_all [hsees.handle]
  | case4 buffer state v message rest hfound state' v' hstep hshorter ih =>
      rw [Wire.handleFrom]
      split <;> simp_all [hsees.handle]

theorem handleBuffered (hsees : Sees view receive handle receive' handle') (d : Decoder)
    (state : γ) (v : τ) :
    Wire.handleBuffered handle d state (view v) =
      (Wire.handleBuffered handle' d state v).map id (Prod.map id view) := by
  unfold Wire.handleBuffered
  split
  · rfl
  · rw [hsees.handleFrom]
    rcases Wire.handleFrom handle' d.limit d.buffer state v with ⟨_ | _ | _, rest, v'⟩ <;> rfl

/-- The first conversation is what is seen of the second. -/
theorem converse (hsees : Sees view receive handle receive' handle') (patience : Nat) (d : Decoder)
    (state : γ) (v : τ) :
    Wire.converse receive handle patience d state (view v) =
      (Wire.converse receive' handle' patience d state v).map id (Prod.map id view) := by
  fun_induction Wire.converse receive' handle' patience d state v with
  | case1 patience d state v e d' v' hfound | case2 patience d state v outcome d' v' hfound =>
      rw [Wire.converse, hsees.handleBuffered, hfound]
      rfl
  | case3 patience d state v state' d' v' hfound e v'' hreceived
  | case4 patience d state v state' d' v' hfound v'' hreceived
  | case5 d state v state' d' v' hfound b bs v'' hreceived =>
      rw [Wire.converse, hsees.handleBuffered, hfound]
      simp only [Prod.map_apply, id_eq, hsees.receive, hreceived]
  | case6 d state v state' d' v' hfound b bs v'' hreceived patience ih =>
      rw [Wire.converse, hsees.handleBuffered, hfound]
      simp only [Prod.map_apply, id_eq, hsees.receive, hreceived]
      exact ih

end Sees

/-- How a conversation goes until a message ends it: `pieces` pieces are received, the last message
gives `outcome`, and `rest` is left behind it. -/
inductive Course (receive : σ → Except ε Bytes × σ) (handle : Handler γ β σ) (limit : Nat) :
    (pieces : Nat) → Bytes → γ → σ → (outcome : β) → (rest : Bytes) → σ → Prop
  | skip {pieces : Nat} {buffer behind rest : Bytes} {state : γ} {world world' : σ} {outcome : β}
      {f : Frame} (split : Frame.split limit buffer = .ok (some (f, behind)))
      (read : BackendMessage.decode f.tag f.payload = .ok none)
      (later : Course receive handle limit pieces behind state world outcome rest world') :
      Course receive handle limit pieces buffer state world outcome rest world'
  | more {pieces : Nat} {buffer behind rest : Bytes} {state state' : γ} {world world' world'' : σ}
      {outcome : β} {f : Frame} {message : BackendMessage}
      (split : Frame.split limit buffer = .ok (some (f, behind)))
      (read : BackendMessage.decode f.tag f.payload = .ok (some message))
      (step : handle message state world = (.more state', world'))
      (later : Course receive handle limit pieces behind state' world' outcome rest world'') :
      Course receive handle limit pieces buffer state world outcome rest world''
  | done {buffer rest : Bytes} {state : γ} {world world' : σ} {outcome : β} {f : Frame}
      {message : BackendMessage} (split : Frame.split limit buffer = .ok (some (f, rest)))
      (read : BackendMessage.decode f.tag f.payload = .ok (some message))
      (last : handle message state world = (.done outcome, world')) :
      Course receive handle limit 0 buffer state world outcome rest world'
  | fed {pieces : Nat} {buffer rest : Bytes} {state : γ} {world world' world'' : σ} {outcome : β}
      {b : UInt8} {bs : Bytes} (waits : Frame.split limit buffer = .ok none)
      (received : receive world = (.ok (b :: bs), world'))
      (later : Course receive handle limit pieces (buffer ++ b :: bs) state world' outcome rest
        world'') :
      Course receive handle limit (pieces + 1) buffer state world outcome rest world''

namespace Course

variable {receive : σ → Except ε Bytes × σ} {handle : Handler γ β σ} {limit patience : Nat}
  {d d' : Decoder} {state : γ} {world world' : σ} {outcome : β} {rest : Bytes}

/-- A conversation that a message ended took its course. -/
theorem of_converse (hsound : d.Sound)
    (hran : Wire.converse receive handle patience d state world = (.finished outcome, d', world')) :
    d'.Sound ∧ d'.limit = d.limit ∧ ∃ pieces ≤ patience,
      Course receive handle d.limit pieces d.buffer state world outcome d'.buffer world' := by
  -- What is still to come of the course extends it from the start.
  let During (left : Nat) (buffer : Bytes) (now : γ) (w : σ) : Prop :=
    ∃ taken, taken + left = patience ∧ ∀ {pieces outcome rest w'},
      Course receive handle d.limit pieces buffer now w outcome rest w' →
      Course receive handle d.limit (taken + pieces) d.buffer state world outcome rest w'
  let After (ending : Ending β ε) (rest : Bytes) (w : σ) : Prop :=
    ∀ outcome, ending = .finished outcome → ∃ pieces ≤ patience,
      Course receive handle d.limit pieces d.buffer state world outcome rest w
  have hupholds : Upholds receive handle d.limit During After :=
    { skip := by
        rintro _ _ _ _ _ _ ⟨taken, hall, hextend⟩ hsplit hread
        exact ⟨taken, hall, fun hlater => hextend (.skip hsplit hread hlater)⟩
      more := by
        rintro _ _ _ _ _ _ _ _ _ ⟨taken, hall, hextend⟩ hsplit hread hstep
        exact ⟨taken, hall, fun hlater => hextend (.more hsplit hread hstep hlater)⟩
      finished := by
        rintro _ _ _ _ _ _ _ _ _ ⟨taken, hall, hextend⟩ hsplit hread hlast _ ⟨⟩
        exact ⟨taken, by omega, hextend (.done hsplit hread hlast)⟩
      garbled := fun _ _ _ hends => nomatch hends
      broken := fun _ _ _ _ hends => nomatch hends
      hungUp := fun _ _ _ _ hends => nomatch hends
      fed := by
        rintro _ _ _ _ _ _ _ ⟨taken, hall, hextend⟩ hwaits hreceived
        refine ⟨taken + 1, by omega, fun {pieces} _ _ _ hlater => ?_⟩
        have := hextend (.fed hwaits hreceived hlater)
        rwa [show taken + (pieces + 1) = taken + 1 + pieces by omega] at this
      worn := fun _ _ _ _ hends => nomatch hends }
  have hstart : During patience d.buffer state world :=
    ⟨0, Nat.zero_add _, fun {pieces} _ _ _ hcourse => by rwa [Nat.zero_add]⟩
  have hended := hupholds.converse hsound hstart
  rw [hran] at hended
  exact ⟨hended.1, hended.2.1, hended.2.2 outcome rfl⟩

variable {pieces : Nat} {buffer behind : Bytes} {f : Frame}

theorem of_split
    (hcourse : Course receive handle limit pieces buffer state world outcome rest world')
    (hsplit : Frame.split limit buffer = .ok (some (f, behind))) :
    (BackendMessage.decode f.tag f.payload = .ok none ∧
      Course receive handle limit pieces behind state world outcome rest world') ∨
    ∃ message, BackendMessage.decode f.tag f.payload = .ok (some message) ∧
      match handle message state world with
      | (.more state', next) =>
        Course receive handle limit pieces behind state' next outcome rest world'
      | (.done last, next) => last = outcome ∧ behind = rest ∧ next = world' := by
  cases hcourse with
  | skip hsplit' hread hlater =>
      cases hsplit.symm.trans hsplit'
      exact .inl ⟨hread, hlater⟩
  | more hsplit' hread hstep hlater =>
      cases hsplit.symm.trans hsplit'
      exact .inr ⟨_, hread, by rwa [hstep]⟩
  | done hsplit' hread hlast =>
      cases hsplit.symm.trans hsplit'
      exact .inr ⟨_, hread, by rw [hlast]; exact ⟨rfl, rfl, rfl⟩⟩
  | fed hwaits => cases hsplit.symm.trans hwaits

theorem of_waits
    (hcourse : Course receive handle limit pieces buffer state world outcome rest world')
    (hwaits : Frame.split limit buffer = .ok none) :
    ∃ left b bs next, pieces = left + 1 ∧ receive world = (.ok (b :: bs), next) ∧
      Course receive handle limit left (buffer ++ b :: bs) state next outcome rest world' := by
  cases hcourse with
  | skip hsplit | more hsplit | done hsplit => cases hsplit.symm.trans hwaits
  | fed _ hreceived hlater => exact ⟨_, _, _, _, rfl, hreceived, hlater⟩

theorem not_refused {e : WireError}
    (hcourse : Course receive handle limit pieces buffer state world outcome rest world') :
    ¬ Refused BackendMessage.decode limit buffer e := by
  rintro (hsplit | ⟨f, behind, hsplit, hread⟩)
  · cases hcourse with
    | skip hsplit' | more hsplit' | done hsplit' | fed hsplit' => cases hsplit.symm.trans hsplit'
  · obtain ⟨hread', -⟩ | ⟨message, hread', -⟩ := hcourse.of_split hsplit
    all_goals cases hread.symm.trans hread'

theorem keeps {α : Type} {view : σ → α}
    (hreceives : ∀ {w bytes w'}, receive w = (.ok bytes, w') → view w' = view w)
    (handles : ∀ message state w, view (handle message state w).2 = view w)
    (hcourse : Course receive handle limit pieces buffer state world outcome rest world') :
    view world' = view world := by
  induction hcourse with
  | skip _ _ _ ih => exact ih
  | @more _ _ _ _ state _ world _ _ _ _ message _ _ hstep _ ih =>
      have hsame := handles message state world
      rw [hstep] at hsame
      exact ih.trans hsame
  | @done _ _ state world _ _ _ message _ _ hlast =>
      have hsame := handles message state world
      rwa [hlast] at hsame
  | fed _ hreceived _ ih => exact ih.trans (hreceives hreceived)

/-- A conversation takes its course if it is patient enough for all pieces. -/
theorem converse (hsound : d.Sound)
    (hcourse : Course receive handle d.limit pieces d.buffer state world outcome rest world')
    (hpatient : pieces ≤ patience) :
    ∃ d', Wire.converse receive handle patience d state world = (.finished outcome, d', world') ∧
      d'.Sound ∧ d'.limit = d.limit ∧ d'.buffer = rest := by
  let During (left : Nat) (buffer : Bytes) (now : γ) (w : σ) : Prop :=
    ∃ pieces ≤ left, Course receive handle d.limit pieces buffer now w outcome rest world'
  let After (ending : Ending β ε) (buffer : Bytes) (w : σ) : Prop :=
    ending = .finished outcome ∧ buffer = rest ∧ w = world'
  have hupholds : Upholds receive handle d.limit During After :=
    { skip := by
        rintro _ _ _ _ _ _ ⟨pieces, hle, hcourse⟩ hsplit hread
        obtain ⟨-, hlater⟩ | ⟨message, hread', -⟩ := hcourse.of_split hsplit
        · exact ⟨pieces, hle, hlater⟩
        · cases hread.symm.trans hread'
      more := by
        rintro _ _ _ _ _ _ _ _ _ ⟨pieces, hle, hcourse⟩ hsplit hread hstep
        obtain ⟨hread', -⟩ | ⟨message, hread', hlater⟩ := hcourse.of_split hsplit
        · cases hread.symm.trans hread'
        · cases hread.symm.trans hread'
          rw [hstep] at hlater
          exact ⟨pieces, hle, hlater⟩
      finished := by
        rintro _ _ _ _ _ _ _ _ _ ⟨pieces, hle, hcourse⟩ hsplit hread hlast
        obtain ⟨hread', -⟩ | ⟨message, hread', hlater⟩ := hcourse.of_split hsplit
        · cases hread.symm.trans hread'
        · cases hread.symm.trans hread'
          rw [hlast] at hlater
          obtain ⟨rfl, hsame⟩ := hlater
          exact ⟨rfl, hsame⟩
      garbled := fun ⟨_, _, hcourse⟩ hrefused => absurd hrefused hcourse.not_refused
      broken := by
        rintro _ _ _ _ _ _ ⟨pieces, hle, hcourse⟩ hwaits hreceived
        obtain ⟨_, b, bs, _, -, hreceived', -⟩ := hcourse.of_waits hwaits
        cases hreceived.symm.trans hreceived'
      hungUp := by
        rintro _ _ _ _ _ ⟨pieces, hle, hcourse⟩ hwaits hreceived
        obtain ⟨_, b, bs, _, -, hreceived', -⟩ := hcourse.of_waits hwaits
        cases hreceived.symm.trans hreceived'
      fed := by
        rintro _ _ _ _ _ _ _ ⟨pieces, hle, hcourse⟩ hwaits hreceived
        obtain ⟨left, b, bs, _, rfl, hreceived', hlater⟩ := hcourse.of_waits hwaits
        cases hreceived.symm.trans hreceived'
        exact ⟨left, by omega, hlater⟩
      worn := by
        rintro _ _ _ _ _ _ ⟨pieces, hle, hcourse⟩ hwaits hreceived
        obtain ⟨left, b, bs, _, rfl, -⟩ := hcourse.of_waits hwaits
        omega }
  have hended := hupholds.converse hsound ⟨pieces, hpatient, hcourse⟩
  revert hended
  generalize Wire.converse receive handle patience d state world = ran
  obtain ⟨ending, d', w⟩ := ran
  rintro ⟨hsound', hlimit', rfl, rfl, rfl⟩
  exact ⟨d', rfl, hsound', hlimit', rfl⟩

end Course

/-- Frames that lead a conversation on from one state to another. Those without a message are passed
over. -/
inductive Leads (moves : BackendMessage → γ → γ → Prop) : List Frame → γ → γ → Prop
  | nil {state : γ} : Leads moves [] state state
  | skip {f : Frame} {fs : List Frame} {state state' : γ}
      (read : BackendMessage.decode f.tag f.payload = .ok none)
      (later : Leads moves fs state state') : Leads moves (f :: fs) state state'
  | move {f : Frame} {fs : List Frame} {message : BackendMessage} {state state' state'' : γ}
      (read : BackendMessage.decode f.tag f.payload = .ok (some message))
      (move : moves message state state') (later : Leads moves fs state' state'') :
      Leads moves (f :: fs) state state''

theorem Leads.exists_move {moves : BackendMessage → γ → γ → Prop} {fs : List Frame}
    {state state' : γ} (hleads : Leads moves fs state state') {f : Frame} (hmem : f ∈ fs)
    {message : BackendMessage}
    (hread : BackendMessage.decode f.tag f.payload = .ok (some message)) :
    ∃ st st', moves message st st' := by
  induction hleads with
  | nil => cases hmem
  | skip hnone _ ih =>
      obtain rfl | hmem := List.mem_cons.1 hmem
      · cases hnone.symm.trans hread
      · exact ih hmem
  | move hread' hmove _ ih =>
      obtain rfl | hmem := List.mem_cons.1 hmem
      · cases hread'.symm.trans hread
        exact ⟨_, _, hmove⟩
      · exact ih hmem

theorem Leads.readable {moves : BackendMessage → γ → γ → Prop} {fs : List Frame} {state state' : γ}
    (hleads : Leads moves fs state state') :
    ∀ f ∈ fs, ∃ message, BackendMessage.decode f.tag f.payload = .ok message := by
  induction hleads with
  | nil => simp
  | skip hread _ ih => exact List.forall_mem_cons.2 ⟨⟨_, hread⟩, ih⟩
  | move hread _ _ ih => exact List.forall_mem_cons.2 ⟨⟨_, hread⟩, ih⟩

/-- The frames on the way carry messages, each of which leads from one state to another. -/
theorem Leads.exists_conveys {moves : BackendMessage → γ → γ → Prop} {fs : List Frame}
    {state state' : γ} (hleads : Leads moves fs state state') :
    ∃ ms, Conveys BackendMessage.decode fs ms ∧ ∀ m ∈ ms, ∃ st st', moves m st st' := by
  induction hleads with
  | nil => exact ⟨[], .nil, by simp⟩
  | skip hread _ ih =>
      obtain ⟨ms, hconveys, heach⟩ := ih
      exact ⟨ms, .cons hread hconveys, heach⟩
  | move hread hmove _ ih =>
      obtain ⟨ms, hconveys, heach⟩ := ih
      exact ⟨_ :: ms, .cons hread hconveys, List.forall_mem_cons.2 ⟨⟨_, _, hmove⟩, heach⟩⟩

/-- Handling a message in a state can lead to another state. -/
def Moves (handle : Handler γ β σ) (message : BackendMessage) (state state' : γ) : Prop :=
  ∃ world world', handle message state world = (.more state', world')

/-- A stream begins with frames that lead a conversation on and then with one that ends it, in
`world'`; behind that is `rest`. -/
inductive Ended (handle : Handler γ β σ) (limit : Nat) (stream : Bytes) (state : γ) (outcome : β)
    (rest : Bytes) (world' : σ) : Prop
  | intro (fs : List Frame) (last : Frame) {message : BackendMessage} {state' : γ} {world : σ}
      (bytes : stream = fs.flatMap Frame.encode ++ (last.encode ++ rest))
      (legal : ∀ f ∈ fs, f.Legal limit) (legalLast : last.Legal limit)
      (leads : Leads (Moves handle) fs state state')
      (read : BackendMessage.decode last.tag last.payload = .ok (some message))
      (ends : handle message state' world = (.done outcome, world'))

def Hears (receive : σ → Except ε Bytes × σ) (unread : σ → Bytes) : Prop :=
  ∀ {world bytes world'}, receive world = (.ok bytes, world') →
    unread world = bytes ++ unread world'

namespace Course

variable {receive : σ → Except ε Bytes × σ} {handle : Handler γ β σ} {limit pieces : Nat}
  {buffer rest : Bytes} {state : γ} {world world' : σ} {outcome : β} {unread : σ → Bytes}

/-- A conversation takes frames off the front of the stream that it hears, and what is behind them
is still in the buffer or unread. -/
theorem ended
    (hcourse : Course receive handle limit pieces buffer state world outcome rest world')
    (hhears : Hears receive unread)
    (hstays : ∀ message state world, unread (handle message state world).2 = unread world) :
    Ended handle limit (buffer ++ unread world) state outcome (rest ++ unread world') world' := by
  induction hcourse with
  | skip hsplit hread _ ih =>
      obtain ⟨fs, last, hbytes, hlegal, hlegalLast, hleads, hread', hends⟩ := ih
      obtain ⟨hfirst, rfl⟩ := Frame.split_eq_some_iff.1 hsplit
      refine ⟨_ :: fs, last, ?_, List.forall_mem_cons.2 ⟨hfirst, hlegal⟩, hlegalLast,
        .skip hread hleads, hread', hends⟩
      rw [List.append_assoc, hbytes, List.flatMap_cons, List.append_assoc]
  | @more _ _ _ _ state _ world _ _ _ _ message hsplit hread hstep _ ih =>
      obtain ⟨fs, last, hbytes, hlegal, hlegalLast, hleads, hread', hends⟩ := ih
      obtain ⟨hfirst, rfl⟩ := Frame.split_eq_some_iff.1 hsplit
      refine ⟨_ :: fs, last, ?_, List.forall_mem_cons.2 ⟨hfirst, hlegal⟩, hlegalLast,
        .move hread ⟨_, _, hstep⟩ hleads, hread', hends⟩
      have hsame := hstays message state world
      rw [hstep] at hsame
      rw [List.append_assoc, ← hsame, hbytes, List.flatMap_cons, List.append_assoc]
  | @done _ _ state world _ _ _ message hsplit hread hlast =>
      obtain ⟨hfirst, rfl⟩ := Frame.split_eq_some_iff.1 hsplit
      refine ⟨[], _, ?_, by simp, hfirst, .nil, hread, hlast⟩
      have hsame := hstays message state world
      rw [hlast] at hsame
      rw [List.append_assoc, ← hsame]
      rfl
  | fed _ hreceived _ ih => rwa [hhears hreceived, ← List.append_assoc]

end Course

/-- What is given of a stream: as long as there is something to come, a piece of it. `Ahead stream`
holds of worlds that have `stream` ahead of them. -/
def Gives (receive : σ → Except ε Bytes × σ) (Ahead : Bytes → σ → Prop) : Prop :=
  ∀ stream world, Ahead stream world → stream ≠ [] → ∃ b bs stream' world',
    stream = b :: bs ++ stream' ∧ receive world = (.ok (b :: bs), world') ∧ Ahead stream' world'

namespace Course

variable {receive : σ → Except ε Bytes × σ} {handle : Handler γ β σ} {limit : Nat}
  {buffer stream after : Bytes} {state state' : γ} {world : σ} {outcome : β}
  {Ahead : Bytes → σ → Prop} {Done : Bytes → σ → Prop} {f : Frame} {fs : List Frame}

/-- Before a frame is complete, pieces are received, no more than there are bytes. -/
theorem await (hgives : Gives receive Ahead) (hlegal : f.Legal limit) (hahead : Ahead stream world)
    (hbytes : buffer ++ stream = f.encode ++ after) :
    ∃ k behind stream' world', k + stream'.length ≤ stream.length ∧ Ahead stream' world' ∧
      behind ++ stream' = after ∧ ∀ {n state outcome rest w},
        Course receive handle limit n (f.encode ++ behind) state world' outcome rest w →
        Course receive handle limit (n + k) buffer state world outcome rest w := by
  induction h : stream.length using Nat.strongRecOn generalizing buffer stream world with
  | ind size ih =>
      obtain ⟨lack, hencoded, rfl⟩ | ⟨behind, rfl, rfl⟩ := List.append_eq_append_iff.1 hbytes
      · by_cases hcomplete : lack = []
        · subst hcomplete
          refine ⟨0, [], after, world, by simp [← h], hahead, rfl, fun hcourse => ?_⟩
          rwa [hencoded, List.append_nil, List.append_nil] at hcourse
        · have hwaits := Frame.split_of_append_encode hlegal hencoded.symm hcomplete
          have hmore : lack ++ after ≠ [] :=
            fun hnone => hcomplete (List.append_eq_nil_iff.1 hnone).1
          obtain ⟨b, bs, stream', world₁, hpieces, hreceived, hahead'⟩ := hgives _ _ hahead hmore
          have hfewer : stream'.length < size := by
            rw [← h, hpieces, List.length_append, List.length_cons]
            omega
          have hbytes' : buffer ++ b :: bs ++ stream' = f.encode ++ after := by
            rw [List.append_assoc, ← hpieces, hbytes]
          obtain ⟨k, behind, stream'', world', hsmall, hahead'', hrest, hextend⟩ :=
            ih _ hfewer hahead' hbytes' rfl
          exact ⟨k + 1, behind, stream'', world', by omega, hahead'', hrest,
            fun hcourse => .fed hwaits hreceived (hextend hcourse)⟩
      · exact ⟨0, behind, stream, world, by simp [← h], hahead, rfl, id⟩

/-- If frames of the stream lead from a state to one in which a last frame ends the conversation,
the conversation takes a course. -/
theorem of_leads {moves : BackendMessage → γ → γ → Prop} {last : Frame} {message : BackendMessage}
    (hgives : Gives receive Ahead)
    (hgoes : ∀ m st st' stream w, moves m st st' → Ahead stream w →
      ∃ w', handle m st w = (.more st', w') ∧ Ahead stream w')
    (hends : ∀ stream w, Ahead stream w →
      ∃ w', handle message state' w = (.done outcome, w') ∧ Done stream w')
    (hlegal : ∀ f ∈ fs, f.Legal limit) (hlegalLast : last.Legal limit)
    (hleads : Leads moves fs state state')
    (hread : BackendMessage.decode last.tag last.payload = .ok (some message))
    (hahead : Ahead stream world)
    (hbytes : buffer ++ stream = fs.flatMap Frame.encode ++ (last.encode ++ after)) :
    ∃ n ≤ stream.length, ∃ rest stream' world',
      Course receive handle limit n buffer state world outcome rest world' ∧
        rest ++ stream' = after ∧ Done stream' world' := by
  induction hleads generalizing buffer stream world with
  | nil =>
      obtain ⟨k, behind, stream', world₁, hsmall, hahead', hrest, hextend⟩ :=
        await hgives hlegalLast hahead hbytes
      obtain ⟨world', hends', hdone⟩ := hends _ _ hahead'
      exact ⟨0 + k, by omega, behind, stream', world',
        hextend (.done (Frame.split_encode_append hlegalLast) hread hends'), hrest, hdone⟩
  | @skip f fs _ _ hnone _ ih =>
      obtain ⟨hfirst, hlegal⟩ := List.forall_mem_cons.1 hlegal
      rw [List.flatMap_cons, List.append_assoc] at hbytes
      obtain ⟨k, behind, stream', world₁, hsmall, hahead', hbytes', hextend⟩ :=
        await hgives hfirst hahead hbytes
      obtain ⟨n, hfew, rest, stream'', world', hcourse, hafter, hdone⟩ :=
        ih hends hlegal hahead' hbytes'
      exact ⟨n + k, by omega, rest, stream'', world',
        hextend (.skip (Frame.split_encode_append hfirst) hnone hcourse), hafter, hdone⟩
  | @move f fs m _ _ _ hread' hmove _ ih =>
      obtain ⟨hfirst, hlegal⟩ := List.forall_mem_cons.1 hlegal
      rw [List.flatMap_cons, List.append_assoc] at hbytes
      obtain ⟨k, behind, stream', world₁, hsmall, hahead', hbytes', hextend⟩ :=
        await hgives hfirst hahead hbytes
      obtain ⟨world₂, hstep, hahead₂⟩ := hgoes _ _ _ _ _ hmove hahead'
      obtain ⟨n, hfew, rest, stream'', world', hcourse, hafter, hdone⟩ :=
        ih hends hlegal hahead₂ hbytes'
      exact ⟨n + k, by omega, rest, stream'', world',
        hextend (.more (Frame.split_encode_append hfirst) hread' hstep hcourse), hafter, hdone⟩

end Course

/-- A second conversation, over a related world: what the first receives the second receives as
well, and where handling a message leads the first, it leads the second, except where the first is
over with another outcome. -/
structure Accompanies {ε' β' τ : Type} (receive : σ → Except ε Bytes × σ) (handle : Handler γ β σ)
    (outcome : β) (receive' : τ → Except ε' Bytes × τ) (handle' : Handler γ β' τ)
    (Related : σ → τ → Prop) (Last : σ → β' → τ → Prop) : Prop where
  fed : ∀ {w v b bs w'}, Related w v → receive w = (.ok (b :: bs), w') →
    ∃ v', receive' v = (.ok (b :: bs), v') ∧ Related w' v'
  more : ∀ {message state w v state' w'}, Related w v →
    handle message state w = (.more state', w') →
    ∃ v', handle' message state v = (.more state', v') ∧ Related w' v'
  done : ∀ {message state w v w'}, Related w v → handle message state w = (.done outcome, w') →
    ∃ outcome' v', handle' message state v = (.done outcome', v') ∧ Last w' outcome' v'

/-- The second conversation takes the course of the first, under a limit that is no lower. -/
theorem Accompanies.course {ε' β' τ : Type} {receive : σ → Except ε Bytes × σ}
    {handle : Handler γ β σ} {receive' : τ → Except ε' Bytes × τ} {handle' : Handler γ β' τ}
    {Related : σ → τ → Prop} {Last : σ → β' → τ → Prop} {limit limit' pieces : Nat}
    {buffer rest : Bytes} {state : γ} {w w' : σ} {v : τ} {outcome : β}
    (haccompanies : Accompanies receive handle outcome receive' handle' Related Last)
    (hlower : limit ≤ limit') (hrelated : Related w v)
    (hcourse : Course receive handle limit pieces buffer state w outcome rest w') :
    ∃ outcome' v', Course receive' handle' limit' pieces buffer state v outcome' rest v' ∧
      Last w' outcome' v' := by
  induction hcourse generalizing v with
  | skip hsplit hread _ ih =>
      obtain ⟨outcome', v', hcourse, hlast⟩ := ih haccompanies hrelated
      exact ⟨outcome', v', .skip (Frame.split_mono hlower hsplit) hread hcourse, hlast⟩
  | more hsplit hread hstep _ ih =>
      obtain ⟨v₁, hstep', hrelated⟩ := haccompanies.more hrelated hstep
      obtain ⟨outcome', v', hcourse, hlast⟩ := ih haccompanies hrelated
      exact ⟨outcome', v', .more (Frame.split_mono hlower hsplit) hread hstep' hcourse, hlast⟩
  | done hsplit hread hlast =>
      obtain ⟨outcome', v', hlast', hrelated⟩ := haccompanies.done hrelated hlast
      exact ⟨outcome', v', .done (Frame.split_mono hlower hsplit) hread hlast', hrelated⟩
  | fed hwaits hreceived _ ih =>
      obtain ⟨v₁, hreceived', hrelated⟩ := haccompanies.fed hrelated hreceived
      obtain ⟨outcome', v', hcourse, hlast⟩ := ih haccompanies hrelated
      exact ⟨outcome', v', .fed (Frame.split_mono hlower hwaits) hreceived' hcourse, hlast⟩

end DatabaseGateway.Wire
