import DatabaseGateway.Link.ScriptedSocket
import DatabaseGateway.Proofs.Link.Probe

/-!
How the gateway reads the replies of a Redis server.

A reply is one line, but what is received is a piece of the stream, and only its end is looked at to
see whether the reply is whole (`Redis.Taken`). So each read gives the next line if the stream is
cut behind every line (`Redis.ByLine`), and only then. Under this condition it does not matter for a
login, a reset or a ping how the stream is cut otherwise. However it is cut, at least one line is
taken for each command. Where several lines come in one piece, they are taken for one reply, and
lines that were unread before a reset can stand for the replies to it.
-/

namespace DatabaseGateway

variable {σ : Type}

/-- A stream on which the server's bytes come in pieces. Behind them it has ended, or fails. -/
def Transport.fed (t : Transport σ) (failure : Option GatewayError) :
    Transport (σ × List Bytes) where
  send data := fun (world, pieces) =>
    let (answer, world) := t.send data world
    (answer, world, pieces)
  recv _ := fun (world, pieces) =>
    match pieces with
    | [] => (failure.elim (.ok []) .error, world, [])
    | piece :: pieces => (.ok piece, world, pieces)
  ping span := fun (world, pieces) =>
    let (alive, world) := t.ping span world
    (alive, world, pieces)
  setReadTimeout span := fun (world, pieces) =>
    let (answer, world) := t.setReadTimeout span world
    (answer, world, pieces)
  close := fun (world, pieces) => (t.close world, pieces)
  patience := fun (_, pieces) => pieces.length

namespace Redis

/-! ### Lines and pieces -/

/-- A line: it ends with a line end, and no shorter start of it does. -/
def Line (line : Bytes) : Prop :=
  lineEnd <:+ line ∧ ∀ n < line.length, ¬ lineEnd <:+ line.take n

instance (line : Bytes) : Decidable (Line line) := inferInstanceAs (Decidable (_ ∧ _))

/-- A line comes first in pieces of its own, and before the last of them no more bytes have come
than a line is waited for. -/
def CutBehind (line : Bytes) (pieces left : List Bytes) : Prop :=
  ∃ front, pieces = front ++ left ∧ [] ∉ front ∧ front.flatten = line ∧
    front.dropLast.flatten.length ≤ lineBound

/-- Each line comes in pieces of its own. -/
inductive ByLine : List Bytes → List Bytes → Prop
  | nil : ByLine [] []
  | cons {line : Bytes} {lines pieces left : List Bytes} (whole : Line line)
      (cut : CutBehind line pieces left) (later : ByLine lines left) : ByLine (line :: lines) pieces

/-- What is taken for a reply behind `line`: whole pieces, until what has come ends a line. -/
inductive Taken : Bytes → List Bytes → Bytes → List Bytes → Prop
  | ends {line : Bytes} {pieces : List Bytes} (ends : lineEnd <:+ line) :
      Taken line pieces line pieces
  | more {line piece reply : Bytes} {pieces left : List Bytes} (goesOn : ¬ lineEnd <:+ line)
      (few : line.length ≤ lineBound) (later : Taken (line ++ piece) pieces reply left) :
      Taken line (piece :: pieces) reply left

section Pieces

variable {line reply done p : Bytes} {pieces left front lines : List Bytes}

theorem Line.ne_nil (hwhole : Line line) : line ≠ [] := by
  rintro rfl
  exact absurd hwhole.1 (by decide)

theorem Line.eq_of_prefix (hwhole : Line line) (hstart : p <+: line) (hends : lineEnd <:+ p) :
    p = line := by
  obtain hsame | hshorter := Nat.eq_or_lt_of_le hstart.length_le
  · exact hstart.eq_of_length hsame
  · rw [List.prefix_iff_eq_take.1 hstart] at hends
    exact absurd hends (hwhole.2 _ hshorter)

theorem Taken.ends_line (htaken : Taken line pieces reply left) : lineEnd <:+ reply := by
  induction htaken with
  | ends hends => exact hends
  | more _ _ _ ih => exact ih

/-- What is taken are the first pieces, and before the last of them there was room. -/
theorem Taken.exists_front (htaken : Taken line pieces reply left) :
    ∃ front, pieces = front ++ left ∧ reply = line ++ front.flatten ∧
      (front ≠ [] → line.length + front.dropLast.flatten.length ≤ lineBound) := by
  induction htaken with
  | ends => exact ⟨[], rfl, by simp, nofun⟩
  | @more line piece _ _ _ _ hfew _ ih =>
      obtain ⟨front, rfl, rfl, hroom⟩ := ih
      refine ⟨piece :: front, rfl, by rw [List.flatten_cons, List.append_assoc], fun _ => ?_⟩
      cases front with
      | nil => simpa using hfew
      | cons second front =>
          have hroom := hroom (List.cons_ne_nil second front)
          rw [List.length_append] at hroom
          simp only [List.dropLast_cons_cons, List.flatten_cons, List.length_append] at hroom ⊢
          omega

theorem taken_of_line (hwhole : Line (done ++ front.flatten)) (hfull : [] ∉ front)
    (hroom : front ≠ [] → done.length + front.dropLast.flatten.length ≤ lineBound) :
    Taken done (front ++ left) (done ++ front.flatten) left := by
  induction front generalizing done with
  | nil =>
      rw [List.flatten_nil, List.append_nil] at hwhole ⊢
      exact .ends hwhole.1
  | cons piece front ih =>
      rw [List.mem_cons, not_or] at hfull
      have hsome := List.length_pos_iff.2 (Ne.symm hfull.1)
      have hroom := hroom (List.cons_ne_nil piece front)
      -- What has come so far is a shorter start of the line, so it does not end it.
      have hshorter : done.length < (done ++ (piece :: front).flatten).length := by
        simp only [List.flatten_cons, List.length_append]
        omega
      have hgoesOn := hwhole.2 done.length hshorter
      rw [List.take_left] at hgoesOn
      rw [List.flatten_cons, ← List.append_assoc] at hwhole ⊢
      refine .more hgoesOn (by omega) (ih hwhole hfull.2 fun hmore => ?_)
      obtain ⟨second, front, rfl⟩ := List.exists_cons_of_ne_nil hmore
      simp only [List.dropLast_cons_cons, List.flatten_cons, List.length_append] at hroom ⊢
      omega

/-- A line is taken for the reply exactly if the stream is cut behind it. -/
theorem taken_line_iff (hwhole : Line line) (hfull : [] ∉ pieces) :
    Taken [] pieces line left ↔ CutBehind line pieces left := by
  constructor
  · intro htaken
    obtain ⟨front, rfl, hbytes, hroom⟩ := htaken.exists_front
    rw [List.nil_append] at hbytes
    have hsome : front ≠ [] := by
      rintro rfl
      exact hwhole.ne_nil hbytes
    exact ⟨front, rfl, fun hmem => hfull (List.mem_append_left _ hmem), hbytes.symm,
      by simpa using hroom hsome⟩
  · rintro ⟨front, rfl, hfull, rfl, hroom⟩
    have htaken : Taken [] (front ++ left) ([] ++ front.flatten) left :=
      taken_of_line hwhole hfull fun _ => by simpa using hroom
    exact htaken

theorem lineEnd_suffix_of_append {q : Bytes} (hwhole : lineEnd <:+ line)
    (hends : lineEnd <:+ line ++ q) (hsome : q ≠ []) : lineEnd <:+ q := by
  match q, hsome with
  | [b], _ =>
      -- One byte more would be the line feed, and the one before it is a line feed already.
      obtain ⟨before, rfl⟩ := hwhole
      obtain ⟨before', hsplit⟩ := hends
      rw [lineEnd, List.append_cons] at hsplit
      have hlast := congrArg List.getLast? (List.append_inj' hsplit rfl).1
      simp at hlast
  | b :: c :: q, _ =>
      exact List.suffix_of_suffix_length_le hends (List.suffix_append ..) (by simp [lineEnd])

/-- A start of lines that ends with a line end is a row of them. -/
theorem exists_lines_of_prefix (heach : ∀ line ∈ lines, Line line) (hstart : p <+: lines.flatten)
    (hends : lineEnd <:+ p) : ∃ taken unread, lines = taken ++ unread ∧ taken ≠ [] ∧
      p = taken.flatten := by
  induction lines generalizing p with
  | nil =>
      rw [List.flatten_nil, List.prefix_nil] at hstart
      subst hstart
      exact absurd hends (by decide)
  | cons line lines ih =>
      obtain ⟨hwhole, heach⟩ := List.forall_mem_cons.1 heach
      rw [List.flatten_cons] at hstart
      obtain hwithin | hbeyond := List.prefix_or_prefix_of_prefix hstart (List.prefix_append line _)
      · obtain rfl := hwhole.eq_of_prefix hwithin hends
        exact ⟨[p], lines, rfl, List.cons_ne_nil _ _, by simp⟩
      · obtain ⟨q, rfl⟩ := hbeyond
        by_cases hnone : q = []
        · subst hnone
          exact ⟨[line], lines, rfl, List.cons_ne_nil _ _, by simp⟩
        · have hends' := lineEnd_suffix_of_append hwhole.1 hends hnone
          obtain ⟨taken, unread, rfl, -, rfl⟩ :=
            ih heach ((List.prefix_append_right_inj line).1 hstart) hends'
          exact ⟨line :: taken, unread, rfl, List.cons_ne_nil _ _, by simp⟩

end Pieces

/-! ### Reading -/

/-- Reads, one after the other, give these lines. -/
def ReadsInTurn (t : Transport σ) : List Bytes → σ → Prop
  | [], _ => True
  | line :: lines, world =>
    ∃ world', readLine t world = (.ok line, world') ∧ ReadsInTurn t lines world'

section Reading

variable {t : Transport σ} {failure : Option GatewayError} {line reply : Bytes}
  {lines pieces left : List Bytes} {world : σ} {x y : σ × List Bytes}

theorem Taken.readLineFrom (htaken : Taken line pieces reply left) (hfull : [] ∉ pieces) :
    readLineFrom (t.fed failure) line (world, pieces) = (.ok reply, world, left) := by
  induction htaken with
  | ends hends => rw [Redis.readLineFrom, if_pos (List.isSuffixOf_iff_suffix.2 hends)]
  | @more line piece _ _ _ hgoesOn hfew _ ih =>
      rw [List.mem_cons, not_or] at hfull
      obtain ⟨b, bs, rfl⟩ := List.exists_cons_of_ne_nil (Ne.symm hfull.1)
      rw [Redis.readLineFrom, if_neg (mt List.isSuffixOf_iff_suffix.1 hgoesOn),
        if_neg (Nat.not_lt.2 hfew)]
      exact ih hfull.2

theorem taken_of_readLineFrom (hread : readLineFrom (t.fed failure) line x = (.ok reply, y)) :
    y.1 = x.1 ∧ Taken line x.2 reply y.2 := by
  fun_induction readLineFrom (t.fed failure) line x with
  | case1 line x hends =>
      cases hread
      exact ⟨rfl, .ends (List.isSuffixOf_iff_suffix.1 hends)⟩
  | case2 => cases hread
  | case3 => cases hread
  | case4 => cases hread
  | case5 line x hgoesOn hfew b bs x₁ hheard ih =>
      obtain ⟨world, _ | ⟨piece, pieces⟩⟩ := x
      · cases failure <;> cases hheard
      · cases hheard
        obtain ⟨hsame, htaken⟩ := ih hread
        exact ⟨hsame, .more (mt List.isSuffixOf_iff_suffix.2 hgoesOn) (Nat.not_lt.1 hfew) htaken⟩

theorem ByLine.full (hbyLine : ByLine lines pieces) : [] ∉ pieces := by
  induction hbyLine with
  | nil => exact List.not_mem_nil
  | cons _ hcut _ ih =>
      obtain ⟨front, rfl, hfull, -⟩ := hcut
      exact fun hmem => (List.mem_append.1 hmem).elim hfull ih

theorem ByLine.readLine (hbyLine : ByLine (line :: lines) pieces) :
    ∃ left, ByLine lines left ∧ ∀ (t : Transport σ) (failure : Option GatewayError) (world : σ),
      readLine (t.fed failure) (world, pieces) = (.ok line, world, left) := by
  have hfull := hbyLine.full
  cases hbyLine with
  | @cons _ _ _ left hwhole hcut hlater =>
      exact ⟨left, hlater, fun t failure world =>
        ((taken_line_iff hwhole hfull).2 hcut).readLineFrom hfull⟩

theorem readLine_nil : (readLine (t.fed failure) (world, [])).2 = (world, []) := by
  rw [readLine, readLineFrom, if_neg (by decide), if_neg (by decide)]
  cases failure <;> rfl

/-- Reads give the lines of a stream in turn exactly if the stream is cut behind each of them. -/
theorem readsInTurn_iff (heach : ∀ line ∈ lines, Line line) (hfull : [] ∉ pieces)
    (hbytes : pieces.flatten = lines.flatten) :
    ReadsInTurn (t.fed failure) lines (world, pieces) ↔ ByLine lines pieces := by
  constructor
  · intro hreads
    induction lines generalizing pieces with
    | nil =>
        cases pieces with
        | nil => exact .nil
        | cons piece pieces =>
            rw [List.flatten_cons, List.flatten_nil, List.append_eq_nil_iff] at hbytes
            exact absurd (by simp [hbytes.1]) hfull
    | cons line lines ih =>
        obtain ⟨hwhole, hothers⟩ := List.forall_mem_cons.1 heach
        obtain ⟨⟨world₁, left⟩, hread, hlater⟩ := hreads
        obtain ⟨rfl, htaken⟩ := taken_of_readLineFrom hread
        have hcut : CutBehind line pieces left := (taken_line_iff hwhole hfull).1 htaken
        obtain ⟨front, rfl, -, rfl, -⟩ := id hcut
        rw [List.flatten_append, List.flatten_cons] at hbytes
        exact .cons hwhole hcut (ih hothers (fun hmem => hfull (List.mem_append_right _ hmem))
          (List.append_cancel_left hbytes) hlater)
  · intro hbyLine
    clear heach hfull hbytes
    induction lines generalizing pieces with
    | nil => trivial
    | cons line lines ih =>
        obtain ⟨left, hlater, hread⟩ := hbyLine.readLine
        exact ⟨(world, left), hread t failure world, ih hlater⟩

end Reading

/-! ### Two cuts of the same lines -/

/-- Two streams that the same lines come on, each cut behind every line. -/
def Alike (x y : σ × List Bytes) : Prop :=
  x.1 = y.1 ∧ ∃ lines, ByLine lines x.2 ∧ ByLine lines y.2

def SameOutcome {β : Type} (r r' : β × σ × List Bytes) : Prop := r.1 = r'.1 ∧ Alike r.2 r'.2

section Alike

variable (t : Transport σ) (failure : Option GatewayError) {x y : σ × List Bytes}

theorem Alike.readLine (halike : Alike x y) :
    SameOutcome (readLine (t.fed failure) x) (readLine (t.fed failure) y) := by
  obtain ⟨world, pieces⟩ := x
  obtain ⟨world', pieces'⟩ := y
  obtain ⟨rfl, lines, hcut, hcut'⟩ := halike
  cases lines with
  | nil =>
      cases hcut
      cases hcut'
      refine ⟨rfl, ?_⟩
      rw [readLine_nil]
      exact ⟨rfl, [], .nil, .nil⟩
  | cons line lines =>
      obtain ⟨left, hlater, hread⟩ := hcut.readLine
      obtain ⟨left', hlater', hread'⟩ := hcut'.readLine
      rw [hread, hread']
      exact ⟨rfl, rfl, lines, hlater, hlater'⟩

theorem SameOutcome.elim {β : Type} {r r' : β × σ × List Bytes} (hsame : SameOutcome r r') :
    ∃ b x y, r = (b, x) ∧ r' = (b, y) ∧ Alike x y := by
  obtain ⟨b, x⟩ := r
  obtain ⟨b', y⟩ := r'
  obtain ⟨rfl, halike⟩ := hsame
  exact ⟨b, x, y, rfl, rfl, halike⟩

theorem Alike.send (data : Bytes) (halike : Alike x y) :
    SameOutcome ((t.fed failure).send data x) ((t.fed failure).send data y) := by
  obtain ⟨world, pieces⟩ := x
  obtain ⟨world', pieces'⟩ := y
  obtain ⟨rfl, hcuts⟩ := halike
  exact ⟨rfl, rfl, hcuts⟩

theorem Alike.setReadTimeout (span : Option Duration) (halike : Alike x y) :
    SameOutcome ((t.fed failure).setReadTimeout span x)
      ((t.fed failure).setReadTimeout span y) := by
  obtain ⟨world, pieces⟩ := x
  obtain ⟨world', pieces'⟩ := y
  obtain ⟨rfl, hcuts⟩ := halike
  exact ⟨rfl, rfl, hcuts⟩

theorem Alike.exchange (request : Bytes) (halike : Alike x y) :
    SameOutcome (exchange (t.fed failure) request x) (exchange (t.fed failure) request y) := by
  obtain ⟨answer, x₁, y₁, hsent, hsent', halike⟩ := (halike.send t failure request).elim
  simp only [Redis.exchange, hsent, hsent']
  cases answer with
  | error e => exact ⟨rfl, halike⟩
  | ok n => exact halike.readLine t failure

theorem Alike.expectOk (request : Bytes) (refusal : String → GatewayError) (halike : Alike x y) :
    SameOutcome (expectOk (t.fed failure) request refusal x)
      (expectOk (t.fed failure) request refusal y) := by
  obtain ⟨answer, x₁, y₁, hrun, hrun', halike⟩ := (halike.exchange t failure request).elim
  simp only [Redis.expectOk, hrun, hrun']
  cases answer with
  | error e => exact ⟨rfl, halike⟩
  | ok reply =>
      dsimp only
      split <;> exact ⟨rfl, halike⟩

theorem Alike.logIn (l : Login) (halike : Alike x y) :
    SameOutcome (logIn (t.fed failure) l x) (logIn (t.fed failure) l y) := by
  have hpresented : SameOutcome (present (t.fed failure) l x) (present (t.fed failure) l y) := by
    cases hgiven : l.password with
    | none =>
        simp only [present, hgiven]
        exact ⟨rfl, halike⟩
    | some password =>
        simp only [present, hgiven]
        exact halike.expectOk t failure ..
  obtain ⟨answer, x₁, y₁, hrun, hrun', halike⟩ := hpresented.elim
  simp only [Redis.logIn, hrun, hrun']
  cases answer with
  | error e => exact ⟨rfl, halike⟩
  | ok =>
      cases hgiven : l.index with
      | none =>
          simp only [select, hgiven]
          exact ⟨rfl, halike⟩
      | some index =>
          simp only [select, hgiven]
          exact halike.expectOk t failure ..

theorem Alike.timed (timeout : Duration) {check : σ × List Bytes → Bool × σ × List Bytes}
    (hchecks : ∀ {x y}, Alike x y → SameOutcome (check x) (check y)) (halike : Alike x y) :
    SameOutcome (Link.timed (t.fed failure) timeout check x)
      (Link.timed (t.fed failure) timeout check y) := by
  obtain ⟨answer, x₁, y₁, hset, hset', halike⟩ :=
    (halike.setReadTimeout t failure (some timeout)).elim
  simp only [Link.timed, hset, hset']
  cases answer with
  | error e => exact ⟨rfl, halike⟩
  | ok =>
      obtain ⟨passed, x₂, y₂, hchecked, hchecked', halike⟩ := (hchecks halike).elim
      simp only [hchecked, hchecked']
      cases passed with
      | false => exact ⟨rfl, halike⟩
      | true =>
          obtain ⟨answer, x₃, y₃, hback, hback', halike⟩ :=
            (halike.setReadTimeout t failure none).elim
          simp only [hback, hback']
          cases answer <;> exact ⟨rfl, halike⟩

theorem Alike.ping (authenticated : Bool) (l : Login) (timeout : Duration) (halike : Alike x y) :
    SameOutcome (Link.ping (t.fed failure) timeout x (.redis authenticated l))
      (Link.ping (t.fed failure) timeout y (.redis authenticated l)) := by
  refine halike.timed t failure timeout fun halike => ?_
  obtain ⟨answer, x₁, y₁, hrun, hrun', halike⟩ :=
    (halike.exchange t failure (Text.encode "PING\r\n")).elim
  simp only [probe, hrun, hrun']
  cases answer <;> exact ⟨rfl, halike⟩

theorem Alike.reset (authenticated : Bool) (l : Login) (timeout : Duration) (halike : Alike x y) :
    SameOutcome (Link.reset (t.fed failure) timeout x (.redis authenticated l))
      (Link.reset (t.fed failure) timeout y (.redis authenticated l)) := by
  refine halike.timed t failure timeout fun {x y} halike => ?_
  have hrestored : SameOutcome (restore (t.fed failure) l x) (restore (t.fed failure) l y) := by
    obtain ⟨answer, x₁, y₁, hrun, hrun', halike⟩ :=
      (halike.exchange t failure (Text.encode "RESET\r\n")).elim
    simp only [restore, hrun, hrun']
    cases answer with
    | error e => exact ⟨rfl, halike⟩
    | ok reply =>
        dsimp only
        split
        · exact halike.logIn t failure l
        · exact ⟨rfl, halike⟩
  obtain ⟨answer, x₁, y₁, hrun, hrun', halike⟩ := hrestored.elim
  simp only [hrun, hrun']
  cases answer <;> exact ⟨rfl, halike⟩

end Alike

/-! ### Lines and commands -/

def Login.commands (l : Login) : List (List String) :=
  (l.password.toList.map fun password =>
    if l.user = "" ∨ l.user = "default" then ["AUTH", password] else ["AUTH", l.user, password]) ++
  l.index.toList.map fun index => ["SELECT", toString index]

theorem exists_of_reset {t : Transport σ} {authenticated : Bool} {l : Login} {timeout : Duration}
    {world world' : σ}
    (hpassed : Link.reset t timeout world (.redis authenticated l) = (true, world')) :
    ∃ w₁ w₂, exchange t (Text.encode "RESET\r\n") (t.setReadTimeout (some timeout) world).2 =
        (.ok (Text.encode "+RESET\r\n"), w₁) ∧
      logIn t l w₁ = (.ok (), w₂) ∧ (t.setReadTimeout none w₂).2 = world' := by
  obtain ⟨w₀, w₂, rfl, hchecked, rfl⟩ := Postgres.exists_check_of_timed hpassed
  split at hchecked
  · next hrestored =>
      cases hchecked
      unfold restore at hrestored
      split at hrestored
      · cases hrestored
      · next hreplied =>
          split at hrestored
          · next hknown => exact ⟨_, w₂, hknown ▸ hreplied, hrestored, rfl⟩
          · cases hrestored
  · cases hchecked

/-- At least so many lines are taken off a stream of lines. -/
def Takes (n : Nat) (x y : σ × List Bytes) : Prop :=
  ∀ lines : List Bytes, (∀ line ∈ lines, Line line) → x.2.flatten = lines.flatten →
    ∃ taken unread : List Bytes, lines = taken ++ unread ∧ y.2.flatten = unread.flatten ∧
      n ≤ taken.length

section Takes

variable {t : Transport σ} {failure : Option GatewayError} {n m : Nat} {reply : Bytes}
  {x x' y y' z : σ × List Bytes} {l : Login}

theorem Takes.of_same (hsame : y.2 = x.2) : Takes 0 x y :=
  fun lines _ hbytes => ⟨[], lines, rfl, hsame ▸ hbytes, Nat.zero_le _⟩

theorem Takes.congr (htakes : Takes n x y) (hbefore : x'.2 = x.2) (hafter : y'.2 = y.2) :
    Takes n x' y' := by
  rw [Takes, hbefore, hafter]
  exact htakes

theorem Takes.trans (hfirst : Takes n x y) (hsecond : Takes m y z) : Takes (n + m) x z := by
  intro lines heach hbytes
  obtain ⟨taken, unread, rfl, hbytes, hmany⟩ := hfirst lines heach hbytes
  obtain ⟨taken', unread, rfl, hbytes, hmany'⟩ :=
    hsecond unread (fun line hmem => heach line (List.mem_append_right _ hmem)) hbytes
  exact ⟨taken ++ taken', unread, (List.append_assoc ..).symm, hbytes,
    List.length_append ▸ Nat.add_le_add hmany hmany'⟩

theorem takes_of_readLine (hread : readLine (t.fed failure) x = (.ok reply, y)) : Takes 1 x y := by
  intro lines heach hbytes
  obtain ⟨-, htaken⟩ := taken_of_readLineFrom hread
  obtain ⟨front, hpieces, hown, -⟩ := htaken.exists_front
  rw [List.nil_append] at hown
  subst hown
  rw [hpieces, List.flatten_append] at hbytes
  obtain ⟨first, unread, rfl, hsome, hsame⟩ :=
    exists_lines_of_prefix heach ⟨_, hbytes⟩ htaken.ends_line
  rw [hsame, List.flatten_append] at hbytes
  exact ⟨first, unread, rfl, List.append_cancel_left hbytes, List.length_pos_iff.2 hsome⟩

theorem takes_of_exchange {request : Bytes}
    (hrun : exchange (t.fed failure) request x = (.ok reply, y)) : Takes 1 x y := by
  unfold exchange at hrun
  split at hrun
  · cases hrun
  · next hsent => exact (takes_of_readLine hrun).congr (congrArg (·.2.2) hsent) rfl

theorem takes_of_expectOk {request : Bytes} {refusal : String → GatewayError}
    (hrun : expectOk (t.fed failure) request refusal x = (.ok (), y)) : Takes 1 x y := by
  unfold expectOk at hrun
  split at hrun
  · cases hrun
  · next hreplied =>
      split at hrun
      · cases hrun
        exact takes_of_exchange hreplied
      · cases hrun

/-- A login takes at least a line for each of its commands. -/
theorem takes_of_logIn (hrun : logIn (t.fed failure) l x = (.ok (), y)) :
    Takes l.commands.length x y := by
  have hpresents {y : σ × List Bytes} (hrun : present (t.fed failure) l x = (.ok (), y)) :
      Takes l.password.toList.length x y := by
    unfold present at hrun
    split at hrun <;> next hgiven =>
      rw [hgiven]
      first | exact takes_of_expectOk hrun | (cases hrun; exact .of_same rfl)
  have hselects {x : σ × List Bytes} (hrun : select (t.fed failure) l x = (.ok (), y)) :
      Takes l.index.toList.length x y := by
    unfold select at hrun
    split at hrun <;> next hgiven =>
      rw [hgiven]
      first | exact takes_of_expectOk hrun | (cases hrun; exact .of_same rfl)
  rw [Login.commands, List.length_append, List.length_map, List.length_map]
  unfold logIn at hrun
  split at hrun
  · cases hrun
  · next hpresented => exact (hpresents hpresented).trans (hselects hrun)

/-- A reset takes at least a line for itself and for each command of the login. -/
theorem takes_of_reset {authenticated : Bool} {timeout : Duration}
    (hpassed : Link.reset (t.fed failure) timeout x (.redis authenticated l) = (true, y)) :
    Takes (1 + l.commands.length) x y := by
  obtain ⟨x₁, x₂, hreplied, hran, rfl⟩ := exists_of_reset hpassed
  exact ((takes_of_exchange hreplied).trans (takes_of_logIn hran)).congr rfl rfl

theorem takes_of_ping {authenticated : Bool} {timeout : Duration}
    (hpassed : Link.ping (t.fed failure) timeout x (.redis authenticated l) = (true, y)) :
    Takes 1 x y := by
  obtain ⟨x₁, x₂, rfl, hprobed, rfl⟩ := Postgres.exists_check_of_timed hpassed
  unfold probe at hprobed
  split at hprobed
  · next hreplied =>
      obtain ⟨-, rfl⟩ := Prod.mk.inj hprobed
      exact (takes_of_exchange hreplied).congr rfl rfl
  · cases hprobed

end Takes

/-- Reads give a stream of lines one line at a time exactly if the stream is cut behind every line.
Then a login, a reset and a ping have the same outcome however it is cut otherwise. In any case a
reset and a ping that succeed have taken at least a line for each of their commands. -/
theorem replies_line_by_line (t : Transport σ) (failure : Option GatewayError) (world : σ)
    {lines pieces : List Bytes} (heach : ∀ line ∈ lines, Line line) (hfull : [] ∉ pieces)
    (hbytes : pieces.flatten = lines.flatten) :
    (ReadsInTurn (t.fed failure) lines (world, pieces) ↔ ByLine lines pieces) ∧
    (∀ pieces', ByLine lines pieces → ByLine lines pieces' →
      ∀ (authenticated : Bool) (l : Login) (timeout : Duration),
        SameOutcome (logIn (t.fed failure) l (world, pieces))
          (logIn (t.fed failure) l (world, pieces')) ∧
        SameOutcome (Link.reset (t.fed failure) timeout (world, pieces) (.redis authenticated l))
          (Link.reset (t.fed failure) timeout (world, pieces') (.redis authenticated l)) ∧
        SameOutcome (Link.ping (t.fed failure) timeout (world, pieces) (.redis authenticated l))
          (Link.ping (t.fed failure) timeout (world, pieces') (.redis authenticated l))) ∧
    ∀ (authenticated : Bool) (l : Login) (timeout : Duration) (x y : σ × List Bytes),
      Link.reset (t.fed failure) timeout (world, pieces) (.redis authenticated l) = (true, x) →
      Link.ping (t.fed failure) timeout x (.redis authenticated l) = (true, y) →
      ∃ taken unread : List Bytes, lines = taken ++ unread ∧ y.2.flatten = unread.flatten ∧
        1 + l.commands.length + 1 ≤ taken.length := by
  refine ⟨readsInTurn_iff heach hfull hbytes, fun pieces' hcut hcut' authenticated l timeout => ?_,
    fun authenticated l timeout x y hreset hping => ?_⟩
  · have halike : Alike (world, pieces) (world, pieces') := ⟨rfl, lines, hcut, hcut'⟩
    exact ⟨halike.logIn t failure l, halike.reset t failure authenticated l timeout,
      halike.ping t failure authenticated l timeout⟩
  · have htakes := (takes_of_reset hreset).trans (takes_of_ping hping)
    exact htakes lines heach hbytes

/-! ### A server -/

def accepting : Transport Unit where
  send data _ := (.ok data.length, ())
  recv _ _ := (.ok [], ())
  ping _ _ := (true, ())
  setReadTimeout _ _ := (.ok (), ())
  close _ := ()
  patience _ := 0

theorem exchange_piece (failure : Option GatewayError) (request : Bytes) {piece : Bytes}
    {pieces : List Bytes} (hends : lineEnd <:+ piece) :
    exchange (accepting.fed failure) request ((), piece :: pieces) = (.ok piece, (), pieces) := by
  have hsome : piece ≠ [] := by
    rintro rfl
    exact absurd hends (by decide)
  obtain ⟨b, bs, rfl⟩ := List.exists_cons_of_ne_nil hsome
  have hread : readLineFrom (accepting.fed failure) (b :: bs) ((), pieces) =
      (.ok (b :: bs), (), pieces) := by
    rw [readLineFrom, if_pos (List.isSuffixOf_iff_suffix.2 hends)]
  simp only [exchange, Transport.fed, accepting, readLine]
  rw [readLineFrom, if_neg (by decide), if_neg (by decide)]
  exact hread

theorem expectOk_piece (failure : Option GatewayError) (request : Bytes)
    (refusal : String → GatewayError) {piece : Bytes} {pieces : List Bytes}
    (hends : lineEnd <:+ piece) :
    expectOk (accepting.fed failure) request refusal ((), piece :: pieces) =
      (if (Text.encode "+OK").isPrefixOf piece then .ok () else .error (refusal (shown piece)),
        (), pieces) := by
  simp only [expectOk, exchange_piece failure request hends]
  split <;> rfl

namespace Replies

def ok : Bytes := Text.encode "+OK\r\n"

def unknown : Bytes := Text.encode "-ERR DB index is out of range\r\n"

def reset : Bytes := Text.encode "+RESET\r\n"

def pong : Bytes := Text.encode "+PONG\r\n"

def login : Login := ⟨"default", some "pw", some 3⟩

theorem logIn_apart : (logIn (accepting.fed none) login ((), [ok, unknown, ok])).1 =
    .error (.protocol "redis SELECT 3 failed: -ERR DB index is out of range") := by
  have hends : lineEnd <:+ ok ∧ lineEnd <:+ unknown := by decide
  have hgood : (Text.encode "+OK").isPrefixOf ok := by decide
  have hbad : (Text.encode "+OK").isPrefixOf unknown = false := by decide
  have hseen : shown unknown = "-ERR DB index is out of range" := by decide +kernel
  simp only [logIn, present, select, login, expectOk_piece none _ _ hends.1, hgood, if_true,
    expectOk_piece none _ _ hends.2, hbad, hseen]
  rfl

theorem logIn_together : (logIn (accepting.fed none) login ((), [ok ++ unknown, ok])).1 =
    .ok () := by
  have hends : lineEnd <:+ ok ++ unknown ∧ lineEnd <:+ ok := by decide
  have hgood : (Text.encode "+OK").isPrefixOf (ok ++ unknown) ∧
      (Text.encode "+OK").isPrefixOf ok := by decide
  simp only [logIn, present, select, login, expectOk_piece none _ _ hends.1, hgood, if_true,
    expectOk_piece none _ _ hends.2]

/-- A reset succeeds if the server agrees to it and the login behind it succeeds. -/
theorem reset_of_exchange {t : Transport σ} {authenticated : Bool} {l : Login} {w w₁ w' : σ}
    (timeout : Duration) (huntimed : ∀ span w, t.setReadTimeout span w = (.ok (), w))
    (hreplied : exchange t (Text.encode "RESET\r\n") w = (.ok reset, w₁))
    (hlogIn : logIn t l w₁ = (.ok (), w')) :
    Link.reset t timeout w (.redis authenticated l) = (true, w') := by
  have hrestored : restore t l w = (.ok (), w') := by
    rw [restore, hreplied]
    exact (if_pos rfl).trans hlogIn
  rw [Link.reset, Link.timed_eq huntimed, hrestored]

theorem reset_piece {pieces : List Bytes} (timeout : Duration) :
    Link.reset (accepting.fed none) timeout ((), reset :: pieces) (.redis false {}) =
      (true, (), pieces) :=
  reset_of_exchange timeout (fun _ _ => rfl) (exchange_piece none _ (by decide)) rfl

theorem ping_piece {pieces : List Bytes} (timeout : Duration) :
    Link.ping (accepting.fed none) timeout ((), pong :: pieces) (.redis false {}) =
      (true, (), pieces) := by
  have hends : lineEnd <:+ pong := by decide
  have hprobed : probe (accepting.fed none) ((), pong :: pieces) = (true, (), pieces) := by
    rw [probe, exchange_piece none _ hends]
    exact congrArg (·, (), pieces) (beq_self_eq_true pong)
  exact (Link.timed_eq (t := accepting.fed none) (fun _ _ => rfl) timeout _ _).trans hprobed

end Replies

open Replies in
/-- A reset and a ping whose replies come in three pieces read both of them, and nothing is left. -/
theorem replies_line_by_line_in_parts :
    let server := accepting.fed none
    let pieces := [reset.take 3, reset.drop 3, pong]
    ReadsInTurn server [reset, pong] ((), pieces) ∧
      ∃ x y, Link.reset server (.ofMillis 50) ((), pieces) (.redis false {}) = (true, x) ∧
        Link.ping server (.ofMillis 50) x (.redis false {}) = (true, y) ∧ y.2.flatten = [] := by
  intro server pieces
  have heach : ∀ line ∈ [reset, pong], Line line := by decide
  have hfull : [] ∉ pieces := by decide
  have hbytes : pieces.flatten = [reset, pong].flatten := rfl
  have hcut : ByLine [reset, pong] pieces :=
    .cons (by decide) ⟨[reset.take 3, reset.drop 3], rfl, by decide⟩
      (.cons (by decide) ⟨[pong], rfl, by decide⟩ .nil)
  have hapart : ByLine [reset, pong] [reset, pong] :=
    .cons (by decide) ⟨[reset], rfl, by decide⟩ (.cons (by decide) ⟨[pong], rfl, by decide⟩ .nil)
  obtain ⟨hreads, houtcomes, htakes⟩ := replies_line_by_line accepting none () heach hfull hbytes
  obtain ⟨-, hresets, -⟩ := houtcomes _ hcut hapart false {} (.ofMillis 50)
  obtain ⟨passed, x, x', hran, hran', halike⟩ := hresets.elim
  obtain ⟨rfl, rfl⟩ := Prod.mk.inj (hran'.symm.trans (reset_piece _))
  obtain ⟨passed, y, y', hpinged, hpinged', -⟩ :=
    (halike.ping accepting none false {} (.ofMillis 50)).elim
  obtain ⟨rfl, rfl⟩ := Prod.mk.inj (hpinged'.symm.trans (ping_piece _))
  obtain ⟨taken, unread, hlines, hleft, hmany⟩ := htakes false {} _ x y hran hpinged
  have hnone : unread = [] := by
    have hlength := congrArg List.length hlines
    rw [List.length_append] at hlength
    change 2 = _ at hlength
    change 2 ≤ _ at hmany
    exact List.length_eq_zero_iff.1 (by omega)
  exact ⟨hreads.2 hcut, x, y, hran, hpinged, by rw [hleft, hnone]; rfl⟩

open Replies in
/-- Where two lines come in one piece, a login takes both for one reply and its outcome is another
than where they come apart. A reset and a ping pass on replies that were unread before them, and
leave their own to the next holder. -/
theorem exists_not_lineByLine :
    let server := accepting.fed none
    let lines := [ok, unknown, ok]
    let together := [ok ++ unknown, ok]
    let behind := [reset, pong, reset, pong]
    (∀ line ∈ lines ++ behind, Line line) ∧ [] ∉ together ∧ together.flatten = lines.flatten ∧
      ¬ ReadsInTurn server lines ((), together) ∧
      (logIn server login ((), together)).1 = .ok () ∧
      (logIn server login ((), lines)).1 =
        .error (.protocol "redis SELECT 3 failed: -ERR DB index is out of range") ∧
      ∃ x y, Link.reset server (.ofMillis 50) ((), behind) (.redis false {}) = (true, x) ∧
        Link.ping server (.ofMillis 50) x (.redis false {}) = (true, y) ∧ y.2 = [reset, pong] := by
  refine ⟨by decide, by decide, rfl, ?_, logIn_together, logIn_apart, _, _, reset_piece _,
    ping_piece _, rfl⟩
  rintro ⟨x, hread, -⟩
  have hboth : readLine (accepting.fed none) ((), [ok ++ unknown, ok]) =
      (.ok (ok ++ unknown), (), [ok]) := exchange_piece none [] (by decide)
  have hone := congrArg Prod.fst (hread.symm.trans hboth)
  exact absurd (Except.ok.inj hone) (by decide)

end Redis

end DatabaseGateway
