import Mathlib.Data.Multiset.UnionInter
import DatabaseGateway.Client.Capability
import DatabaseGateway.Client.Error

/-!
What a host sees of its guests, and who answers for its handles.

`Custody held events held'` says that events are fit for someone who holds the handles `held` at
first and `held'` at last: a handle is used and closed only while it is held, an answer to a connect
puts one into custody, and closing takes one out. Nothing is said here of how guests get there.

If no handle was given out twice, the account of each one follows (`Custody.closedOnce`): given out,
used, closed, and not touched again.
-/

namespace DatabaseGateway

namespace Client

inductive HostEvent where
  | connected (request : ConnectConfig) (answer : Except GatewayError Handle)
  | sent (handle : Handle) (data : Bytes) (answer : Except GatewayError Nat)
  | received (handle : Handle) (most : Nat) (answer : Except GatewayError Bytes)
  | closed (handle : Handle) (answer : Except GatewayError Unit)
  deriving DecidableEq, Repr

namespace HostEvent

def handle? : HostEvent → Option Handle
  | connected .. => none
  | sent h .. | received h .. | closed h _ => some h

def given? : HostEvent → Option Handle
  | connected _ (.ok h) => some h
  | _ => none

def closed? : HostEvent → Option Handle
  | closed h _ => some h
  | _ => none

/-- What a guest is told of a call that failed, if it is not a close. -/
def failure? : HostEvent → Option ClientError
  | connected _ (.error e) => some ⟨.connect, .host e⟩
  | sent _ _ (.error e) => some ⟨.send, .host e⟩
  | received _ _ (.error e) => some ⟨.recv, .host e⟩
  | _ => none

end HostEvent

end Client

open Client (HostEvent)

def Capability.recorded {σ : Type} (cap : Capability σ) : Capability (σ × List HostEvent) where
  connect request := fun (world, log) =>
    let (answer, world) := cap.connect request world
    (answer, world, log ++ [.connected request answer])
  send handle data := fun (world, log) =>
    let (answer, world) := cap.send handle data world
    (answer, world, log ++ [.sent handle data answer])
  recv handle most := fun (world, log) =>
    let (answer, world) := cap.recv handle most world
    (answer, world, log ++ [.received handle most answer])
  close handle := fun (world, log) =>
    let (answer, world) := cap.close handle world
    (answer, world, log ++ [.closed handle answer])
  patience := fun (world, _) => cap.patience world

namespace Client

/-- Events that are fit for the holder of some handles. -/
inductive Custody : Multiset Handle → List HostEvent → Multiset Handle → Prop
  | nil {held : Multiset Handle} : Custody held [] held
  | given {held held' : Multiset Handle} {events : List HostEvent} {request : ConnectConfig}
      {h : Handle} (later : Custody (h ::ₘ held) events held') :
      Custody held (.connected request (.ok h) :: events) held'
  | refused {held held' : Multiset Handle} {events : List HostEvent} {request : ConnectConfig}
      {e : GatewayError} (later : Custody held events held') :
      Custody held (.connected request (.error e) :: events) held'
  | sent {held held' : Multiset Handle} {events : List HostEvent} {h : Handle} {data : Bytes}
      {answer : Except GatewayError Nat} (holds : h ∈ held) (later : Custody held events held') :
      Custody held (.sent h data answer :: events) held'
  | received {held held' : Multiset Handle} {events : List HostEvent} {h : Handle} {most : Nat}
      {answer : Except GatewayError Bytes} (holds : h ∈ held) (later : Custody held events held') :
      Custody held (.received h most answer :: events) held'
  | closed {held held' : Multiset Handle} {events : List HostEvent} {h : Handle}
      {answer : Except GatewayError Unit} (later : Custody held events held') :
      Custody (h ::ₘ held) (.closed h answer :: events) held'

def handlesGiven (events : List HostEvent) : List Handle := events.filterMap HostEvent.given?

/-- The account of a handle: it is given out, then closed once, and no call is made with it before
the one or after the other. -/
def ClosedOnce (h : Handle) (events : List HostEvent) : Prop :=
  ∃ before request during answer after,
    events = before ++ .connected request (.ok h) :: (during ++ .closed h answer :: after) ∧
    (∀ e ∈ before, e.handle? ≠ some h) ∧ (∀ e ∈ during, e.closed? ≠ some h) ∧
    ∀ e ∈ after, e.handle? ≠ some h

namespace Custody

variable {held held' held'' : Multiset Handle} {events events' : List HostEvent} {h : Handle}

theorem append (hfirst : Custody held events held') (hsecond : Custody held' events' held'') :
    Custody held (events ++ events') held'' := by
  induction hfirst with
  | nil => exact hsecond
  | given _ ih => exact .given (ih hsecond)
  | refused _ ih => exact .refused (ih hsecond)
  | sent hholds _ ih => exact .sent hholds (ih hsecond)
  | received hholds _ ih => exact .received hholds (ih hsecond)
  | closed _ ih => exact .closed (ih hsecond)

theorem beside (others : Multiset Handle) (hcustody : Custody held events held') :
    Custody (held + others) events (held' + others) := by
  induction hcustody with
  | nil => exact .nil
  | given _ ih => exact .given (by rwa [Multiset.cons_add] at ih)
  | refused _ ih => exact .refused ih
  | sent hholds _ ih => exact .sent (Multiset.mem_add.2 (.inl hholds)) ih
  | received hholds _ ih => exact .received (Multiset.mem_add.2 (.inl hholds)) ih
  | closed _ ih =>
      rw [Multiset.cons_add]
      exact .closed ih

/-- No call is made with a handle that is not held and not given out. -/
theorem untouched (hcustody : Custody held events held') (hapart : h ∉ held)
    (hnever : h ∉ handlesGiven events) : ∀ e ∈ events, e.handle? ≠ some h := by
  induction hcustody with
  | nil => simp
  | given _ ih =>
      obtain ⟨hother, hnever⟩ := not_or.1 (mt List.mem_cons.2 hnever)
      refine List.forall_mem_cons.2 ⟨nofun, ih ?_ hnever⟩
      exact mt Multiset.mem_cons.1 (not_or.2 ⟨hother, hapart⟩)
  | refused _ ih => exact List.forall_mem_cons.2 ⟨nofun, ih hapart hnever⟩
  | sent hholds _ ih | received hholds _ ih =>
      refine List.forall_mem_cons.2 ⟨?_, ih hapart hnever⟩
      rintro ⟨⟩
      exact hapart hholds
  | closed _ ih =>
      obtain ⟨hother, hapart⟩ := not_or.1 (mt Multiset.mem_cons.2 hapart)
      refine List.forall_mem_cons.2 ⟨?_, ih hapart hnever⟩
      rintro ⟨⟩
      exact hother rfl

theorem held_add_given (held : Multiset Handle) (h : Handle) (gs : List Handle) :
    held + ↑(h :: gs) = (h ::ₘ held) + ↑gs := by
  rw [← Multiset.cons_coe, Multiset.add_cons, Multiset.cons_add]

/-- A handle that is held at first and not at last is closed, and then not touched again. -/
theorem exists_closed (hcustody : Custody held events held')
    (hdistinct : (held + handlesGiven events).Nodup) (hfirst : h ∈ held) (hlast : h ∉ held') :
    ∃ during answer after, events = during ++ .closed h answer :: after ∧
      (∀ e ∈ during, e.closed? ≠ some h) ∧ ∀ e ∈ after, e.handle? ≠ some h := by
  induction hcustody with
  | nil => exact absurd hfirst hlast
  | given _ ih =>
      obtain ⟨during, answer, after, rfl, hopen', hrest⟩ :=
        ih (held_add_given .. ▸ hdistinct) (Multiset.mem_cons_of_mem hfirst) hlast
      exact ⟨_ :: during, answer, after, rfl, List.forall_mem_cons.2 ⟨nofun, hopen'⟩, hrest⟩
  | refused _ ih =>
      obtain ⟨during, answer, after, rfl, hopen', hrest⟩ := ih hdistinct hfirst hlast
      exact ⟨_ :: during, answer, after, rfl, List.forall_mem_cons.2 ⟨nofun, hopen'⟩, hrest⟩
  | sent _ _ ih | received _ _ ih =>
      obtain ⟨during, answer, after, rfl, hopen', hrest⟩ := ih hdistinct hfirst hlast
      exact ⟨_ :: during, answer, after, rfl, List.forall_mem_cons.2 ⟨nofun, hopen'⟩, hrest⟩
  | @closed held _ events g answer hlater ih =>
      rw [Multiset.cons_add, Multiset.nodup_cons, Multiset.mem_add, not_or] at hdistinct
      obtain ⟨⟨hapart, hnever⟩, hdistinct⟩ := hdistinct
      obtain rfl | hkept := Multiset.mem_cons.1 hfirst
      · exact ⟨[], answer, events, rfl, by simp, hlater.untouched hapart hnever⟩
      · obtain ⟨during, answer', after, rfl, hopen', hrest⟩ := ih hdistinct hkept hlast
        refine ⟨_ :: during, answer', after, rfl, List.forall_mem_cons.2 ⟨?_, hopen'⟩, hrest⟩
        rintro ⟨⟩
        exact hapart hkept

/-- If no handle was given out twice, every handle that was given out, and is not held at last, has
its account. -/
theorem closedOnce (hcustody : Custody held events held')
    (hdistinct : (held + handlesGiven events).Nodup) (hgiven : h ∈ handlesGiven events)
    (hlast : h ∉ held') : ClosedOnce h events := by
  induction hcustody with
  | nil => cases hgiven
  | @given held _ events request g hlater ih =>
      rw [show handlesGiven (.connected request (.ok g) :: events) = g :: handlesGiven events from
        rfl, held_add_given] at hdistinct
      obtain rfl | hgiven := List.mem_cons.1 hgiven
      · obtain ⟨during, answer, after, rfl, hopen', hrest⟩ :=
          hlater.exists_closed hdistinct (Multiset.mem_cons_self ..) hlast
        exact ⟨[], request, during, answer, after, rfl, by simp, hopen', hrest⟩
      · obtain ⟨before, request, during, answer, after, rfl, hunknown, hrest⟩ :=
          ih hdistinct hgiven hlast
        exact ⟨_ :: before, request, during, answer, after, rfl,
          List.forall_mem_cons.2 ⟨nofun, hunknown⟩, hrest⟩
  | refused _ ih =>
      obtain ⟨before, request, during, answer, after, rfl, hunknown, hrest⟩ :=
        ih hdistinct hgiven hlast
      exact ⟨_ :: before, request, during, answer, after, rfl,
        List.forall_mem_cons.2 ⟨nofun, hunknown⟩, hrest⟩
  | sent hholds _ ih | received hholds _ ih =>
      obtain ⟨before, request, during, answer, after, rfl, hunknown, hrest⟩ :=
        ih hdistinct hgiven hlast
      refine ⟨_ :: before, request, during, answer, after, rfl,
        List.forall_mem_cons.2 ⟨?_, hunknown⟩, hrest⟩
      rintro ⟨⟩
      exact Multiset.disjoint_left.1 (Multiset.nodup_add.1 hdistinct).2.2 hholds hgiven
  | @closed held _ events g answer _ ih =>
      rw [Multiset.cons_add, Multiset.nodup_cons, Multiset.mem_add, not_or] at hdistinct
      obtain ⟨⟨-, hnever⟩, hdistinct⟩ := hdistinct
      obtain ⟨before, request, during, answer, after, rfl, hunknown, hrest⟩ :=
        ih hdistinct hgiven hlast
      refine ⟨_ :: before, request, during, answer, after, rfl,
        List.forall_mem_cons.2 ⟨?_, hunknown⟩, hrest⟩
      rintro ⟨⟩
      exact hnever hgiven

end Custody

end Client

end DatabaseGateway
