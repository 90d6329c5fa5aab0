import DatabaseGateway.Proofs.Link.Login
import DatabaseGateway.Proofs.Link.Probe

/-!
What the gateway takes off a MySQL stream. A packet says in its header how long its payload is, and
the gateway never asks for more than what is missing of the header or of the payload. So it takes
the packet and nothing else, wherever the stream is cut, and the ping leaves the stream at the next
packet (`packet_read_exactly`).
-/

namespace DatabaseGateway

variable {σ : Type}

namespace Mysql

/-- A packet with a payload: the length of the payload in three bytes, low byte first, a sequence
byte, and the payload. -/
def Packet (payload packet : Bytes) : Prop :=
  ∃ low middle high sequence : UInt8, packet = low :: middle :: high :: sequence :: payload ∧
    payload.length = low.toNat + 256 * middle.toNat + 65536 * high.toNat

/-- A stream comes in pieces: each receive gives one of at least one byte and at most as many as are
asked for. Behind the stream there is its end or an error. `Ahead stream` holds of worlds that have
`stream` ahead of them. -/
structure Measured (t : Transport σ) (Ahead : Bytes → σ → Prop) : Prop where
  gives : ∀ {stream world} most, 0 < most → Ahead stream world → stream ≠ [] →
    ∃ b bs rest world', stream = b :: bs ++ rest ∧ (b :: bs).length ≤ most ∧
      t.recv most world = (.ok (b :: bs), world') ∧ Ahead rest world'
  ends : ∀ {world} most, Ahead [] world → ∀ b bs world', t.recv most world ≠ (.ok (b :: bs), world')

/-- The other calls of a ping succeed and take nothing off the stream. -/
structure Obliges (t : Transport σ) (Ahead : Bytes → σ → Prop) : Prop where
  send : ∀ {stream world}, Ahead stream world →
    ∃ n world', t.send pingPacket world = (.ok n, world') ∧ Ahead stream world'
  timeout : ∀ {stream world} span, Ahead stream world →
    ∃ world', t.setReadTimeout span world = (.ok (), world') ∧ Ahead stream world'

section Receiving

variable {t : Transport σ} {Ahead : Bytes → σ → Prop} {need most : Nat}
  {have' lack rest stream payload packet : Bytes} {world world' : σ}
  {answer : Except GatewayError Bytes}

theorem Measured.heard (hmeasured : Measured t Ahead) (hsome : 0 < most)
    (hahead : Ahead stream world)
    (hmore : stream ≠ []) (hheard : t.recv most world = (answer, world')) :
    ∃ b bs rest, answer = .ok (b :: bs) ∧ stream = b :: bs ++ rest ∧ (b :: bs).length ≤ most ∧
      Ahead rest world' := by
  obtain ⟨b, bs, rest, w, hbytes, hfew, hreceived, hbehind⟩ :=
    hmeasured.gives most hsome hahead hmore
  cases hreceived.symm.trans hheard
  exact ⟨b, bs, rest, rfl, hbytes, hfew, hbehind⟩

/-- What is missing is received, and nothing behind it. -/
theorem receiveAtLeast_of_lack (hmeasured : Measured t Ahead) (hahead : Ahead (lack ++ rest) world)
    (hsize : have'.length + lack.length = need) :
    ∃ world', receiveAtLeast t need have' world = (.ok (have' ++ lack), world') ∧
      Ahead rest world' := by
  -- While something is missing, the stream goes on with it.
  have hmore {have' lack : Bytes} (hmissing : ¬ need ≤ have'.length)
      (hsize : have'.length + lack.length = need) : lack ++ rest ≠ [] := by
    rintro hnone
    rw [(List.append_eq_nil_iff.1 hnone).1, List.length_nil] at hsize
    omega
  fun_induction receiveAtLeast t need have' world generalizing lack with
  | case1 have' world henough =>
      obtain rfl : lack = [] := List.eq_nil_of_length_eq_zero (by omega)
      exact ⟨world, by rw [List.append_nil], hahead⟩
  | case2 have' world hmissing e world' hheard =>
      obtain ⟨_, _, _, hanswer, -⟩ :=
        hmeasured.heard (by omega) hahead (hmore hmissing hsize) hheard
      cases hanswer
  | case3 have' world hmissing world' hheard =>
      obtain ⟨_, _, _, hanswer, -⟩ :=
        hmeasured.heard (by omega) hahead (hmore hmissing hsize) hheard
      cases hanswer
  | case4 have' world hmissing b bs world' hheard ih =>
      obtain ⟨b', bs', behind, hanswer, hbytes, hfew, hahead'⟩ :=
        hmeasured.heard (by omega) hahead (hmore hmissing hsize) hheard
      cases hanswer
      obtain ⟨lack, rfl⟩ : b :: bs <+: lack :=
        List.prefix_of_prefix_length_le ⟨behind, hbytes.symm⟩ ⟨rest, rfl⟩ (by omega)
      rw [List.append_assoc] at hbytes
      obtain rfl := List.append_cancel_left hbytes
      rw [List.length_append] at hsize
      obtain ⟨world'', hreceived, hahead''⟩ :=
        ih hahead' (by rw [List.length_append]; omega)
      exact ⟨world'', by rw [hreceived, List.append_assoc], hahead''⟩

theorem receiveAtLeast_of_short (hmeasured : Measured t Ahead) (hahead : Ahead stream world)
    (hsize : have'.length + stream.length < need) :
    ∃ e world', receiveAtLeast t need have' world = (.error e, world') := by
  fun_induction receiveAtLeast t need have' world generalizing stream with
  | case1 => omega
  | case2 have' world hmissing e world' hheard => exact ⟨e, world', rfl⟩
  | case3 have' world hmissing world' hheard => exact ⟨_, world', rfl⟩
  | case4 have' world hmissing b bs world' hheard ih =>
      by_cases hmore : stream = []
      · subst hmore
        exact absurd hheard (hmeasured.ends _ hahead b bs world')
      · obtain ⟨b', bs', behind, hanswer, rfl, -, hahead'⟩ :=
          hmeasured.heard (by omega) hahead hmore hheard
        cases hanswer
        rw [List.length_append] at hsize
        exact ih hahead' (by rw [List.length_append]; omega)

theorem leValue_header (low middle high sequence : UInt8) :
    Bytes.leValue ([low, middle, high, sequence].take 3) =
      low.toNat + 256 * middle.toNat + 65536 * high.toNat := by
  simp only [List.take_succ_cons, List.take_zero, Bytes.leValue]
  omega

theorem receiveAtLeast_header {low middle high sequence : UInt8} (hmeasured : Measured t Ahead)
    (hahead : Ahead (low :: middle :: high :: sequence :: rest) world) :
    ∃ world', receiveAtLeast t headerSize [] world =
      (.ok [low, middle, high, sequence], world') ∧ Ahead rest world' := by
  have hfront : Ahead ([low, middle, high, sequence] ++ rest) world := hahead
  exact receiveAtLeast_of_lack hmeasured hfront rfl

/-- The packet at the front of a stream is read, and nothing behind it. -/
theorem readPacket_of_packet (hmeasured : Measured t Ahead) (hfront : Packet payload packet)
    (hahead : Ahead (packet ++ rest) world) :
    ∃ world', readPacket t world = (.ok payload, world') ∧ Ahead rest world' := by
  obtain ⟨low, middle, high, sequence, rfl, hsize⟩ := hfront
  obtain ⟨w₁, hstart, hahead₁⟩ := receiveAtLeast_header hmeasured hahead
  have hmissing : [low, middle, high, sequence].length + payload.length =
      headerSize + payload.length := rfl
  obtain ⟨w₂, hwhole, hahead₂⟩ := receiveAtLeast_of_lack hmeasured hahead₁ hmissing
  refine ⟨w₂, ?_, hahead₂⟩
  simp only [readPacket, hstart, leValue_header, ← hsize, hwhole]
  rfl

theorem readPacket_of_short (hmeasured : Measured t Ahead) (hahead : Ahead stream world)
    (hshort : ∀ payload packet, Packet payload packet → ¬ packet <+: stream) :
    ∃ e world', readPacket t world = (.error e, world') := by
  by_cases hheader : stream.length < headerSize
  · have hmissing : ([] : Bytes).length + stream.length < headerSize := by
      rwa [List.length_nil, Nat.zero_add]
    obtain ⟨e, w₁, hfailed⟩ := receiveAtLeast_of_short hmeasured hahead hmissing
    exact ⟨e, w₁, by simp only [readPacket, hfailed]⟩
  · match stream, hahead, hshort, hheader with
    | low :: middle :: high :: sequence :: rest, hahead, hshort, _ =>
        obtain ⟨w₁, hstart, hahead₁⟩ := receiveAtLeast_header hmeasured hahead
        let size := low.toNat + 256 * middle.toNat + 65536 * high.toNat
        have hfew : rest.length < size := Nat.lt_of_not_le fun henough => by
          have hfront : Packet (rest.take size)
              (low :: middle :: high :: sequence :: rest.take size) :=
            ⟨low, middle, high, sequence, rfl, List.length_take_of_le henough⟩
          refine hshort _ _ hfront ⟨rest.drop size, ?_⟩
          simp only [List.cons_append, List.take_append_drop]
        have hmissing : [low, middle, high, sequence].length + rest.length < headerSize + size :=
          Nat.add_lt_add_left hfew headerSize
        obtain ⟨e, w₂, hfailed⟩ := receiveAtLeast_of_short hmeasured hahead₁ hmissing
        exact ⟨e, w₂, by simp only [readPacket, hstart, leValue_header]; rw [hfailed]⟩
    | [], _, _, henough | [_], _, _, henough | [_, _], _, _, henough | [_, _, _], _, _, henough =>
        exact absurd (by simp [headerSize]) henough

theorem probe_of_packet (hmeasured : Measured t Ahead) (hobliges : Obliges t Ahead)
    (hfront : Packet payload packet) (hahead : Ahead (packet ++ rest) world) :
    ∃ world', probe t world = (payload.head? == some 0, world') ∧ Ahead rest world' := by
  obtain ⟨n, w₁, hsent, hahead⟩ := hobliges.send hahead
  obtain ⟨w₂, hread, hbehind⟩ := readPacket_of_packet hmeasured hfront hahead
  exact ⟨w₂, by simp only [probe, hsent, hread], hbehind⟩

theorem probe_of_short (hmeasured : Measured t Ahead) (hobliges : Obliges t Ahead)
    (hahead : Ahead stream world)
    (hshort : ∀ payload packet, Packet payload packet → ¬ packet <+: stream) :
    ∃ world', probe t world = (false, world') := by
  obtain ⟨n, w₁, hsent, hahead⟩ := hobliges.send hahead
  obtain ⟨e, w₂, hfailed⟩ := readPacket_of_short hmeasured hahead hshort
  exact ⟨w₂, by simp only [probe, hsent, hfailed]⟩

end Receiving

/-- Of a stream that begins with a packet, the packet is read and all of it is taken, and what is
behind it is still ahead. A ping does the same and passes if the payload begins with a zero byte. Of
a stream that ends before its first packet does, no packet is read, and no ping passes. -/
theorem packet_read_exactly {t : Transport σ} {Ahead : Bytes → σ → Prop} {stream : Bytes}
    {world : σ} (hmeasured : Measured t Ahead) (hahead : Ahead stream world) :
    (∀ payload packet rest, Packet payload packet → stream = packet ++ rest →
      (∃ world', readPacket t world = (.ok payload, world') ∧ Ahead rest world') ∧
      (Obliges t Ahead → ∀ timeout, ∃ passed world',
        Link.ping t timeout world .mysql = (passed, world') ∧ Ahead rest world' ∧
          (passed = true ↔ ∃ more, payload = 0 :: more))) ∧
    ((∀ payload packet, Packet payload packet → ¬ packet <+: stream) →
      (∃ e world', readPacket t world = (.error e, world')) ∧
      (Obliges t Ahead → ∀ timeout, ∃ world',
        Link.ping t timeout world .mysql = (false, world'))) := by
  constructor
  · rintro payload packet rest hfront rfl
    refine ⟨readPacket_of_packet hmeasured hfront hahead, fun hobliges timeout => ?_⟩
    obtain ⟨world', hping, hbehind⟩ := Link.timed_of_check timeout
      (hobliges.timeout (some timeout) hahead) (probe_of_packet hmeasured hobliges hfront)
      fun _ hbehind => hobliges.timeout none hbehind
    refine ⟨_, world', hping, hbehind, ?_⟩
    rw [beq_iff_eq, List.head?_eq_some_iff]
  · intro hshort
    refine ⟨readPacket_of_short hmeasured hahead hshort, fun hobliges timeout => ?_⟩
    have hcheck {w : σ} (hahead : Ahead stream w) : ∃ w', probe t w = (false, w') ∧ True := by
      obtain ⟨w', hfailed⟩ := probe_of_short hmeasured hobliges hahead hshort
      exact ⟨w', hfailed, trivial⟩
    obtain ⟨world', hping, -⟩ := Link.timed_of_check timeout
      (hobliges.timeout (some timeout) hahead) hcheck nofun
    exact ⟨world', hping⟩

end Mysql

namespace ScriptedSocket

/-- A scripted stream gives these bytes in portions of the size asked for, and then nothing more in
time. Its other calls succeed. -/
def Portioned (stream : Bytes) (socket : ScriptedSocket) : Prop :=
  ∃ pieces : List Bytes, [] ∉ pieces ∧ stream = pieces.flatten ∧
    socket.recvs = pieces.map .measured ∧ socket.sends = [] ∧ socket.timeouts = []

/-- Of a piece that is larger than what is asked for, the front is given and the rest is kept. -/
theorem recv_front {socket : ScriptedSocket} {piece : Bytes} {later : List Supply} {most : Nat}
    (hlarge : most < piece.length) (hrecvs : socket.recvs = .measured piece :: later) :
    socket.recv most = (.ok (piece.take most),
      { socket.record (.recv most) with recvs := .measured (piece.drop most) :: later }) := by
  have hkept : (piece.drop most).isEmpty = false := by
    rw [List.isEmpty_eq_false_iff, ne_eq, List.drop_eq_nil_iff]
    omega
  simp [recv, record, hrecvs, hkept]

theorem measured : Mysql.Measured transport Portioned where
  gives := by
    rintro _ socket most hsome ⟨pieces, hfull, rfl, hrecvs, hothers⟩ hmore
    cases pieces with
    | nil => exact absurd rfl hmore
    | cons piece pieces =>
        rw [List.mem_cons, not_or] at hfull
        obtain ⟨b, bs, rfl⟩ := List.exists_cons_of_ne_nil (Ne.symm hfull.1)
        by_cases hfits : (b :: bs).length ≤ most
        · exact ⟨b, bs, pieces.flatten, _, rfl, hfits, recv_piece hfits hrecvs, pieces, hfull.2,
            rfl, rfl, hothers⟩
        · obtain ⟨most, rfl⟩ := Nat.exists_eq_add_one_of_ne_zero (Nat.ne_of_gt hsome)
          have hlarge := Nat.lt_of_not_le hfits
          refine ⟨b, bs.take most, bs.drop most ++ pieces.flatten, _, ?_, ?_,
            recv_front hlarge hrecvs, bs.drop most :: pieces, ?_, rfl, rfl, hothers⟩
          · rw [List.cons_append, ← List.append_assoc, List.take_append_drop, List.flatten_cons,
              List.cons_append]
          · simp only [List.length_cons, List.length_take]
            omega
          · rw [List.mem_cons, not_or]
            refine ⟨fun hnone => ?_, hfull.2⟩
            rw [List.length_cons] at hlarge
            have := List.drop_eq_nil_iff.1 hnone.symm
            omega
  ends := by
    rintro socket most ⟨pieces, hfull, hnone, hrecvs, -⟩ b bs socket' hheard
    cases pieces with
    | nil =>
        change recv most socket = _ at hheard
        simp only [recv, record, hrecvs, List.map_nil] at hheard
        cases hheard
    | cons piece pieces =>
        rw [List.flatten_cons] at hnone
        exact absurd (by simp [(List.append_eq_nil_iff.1 hnone.symm).1]) hfull

theorem obliges : Mysql.Obliges transport Portioned where
  send := by
    rintro _ socket ⟨pieces, hfull, hbytes, hrecvs, hsends, htimeouts⟩
    exact ⟨_, _, send_in_full hsends, pieces, hfull, hbytes, hrecvs, hsends, htimeouts⟩
  timeout := by
    rintro _ socket span ⟨pieces, hfull, hbytes, hrecvs, hsends, htimeouts⟩
    refine ⟨socket.record (.readTimeout span), ?_, pieces, hfull, hbytes, hrecvs, hsends, htimeouts⟩
    simp only [transport, setReadTimeout, record, htimeouts]

end ScriptedSocket

namespace Mysql

def healthy : Bytes := [0, 0, 0, 2, 0, 0, 0]

/-- A healthy answer that comes in portions, the last of which has bytes of the next packet. -/
def fragmented : List Bytes := [[7, 0], [0, 1, 0], [0, 0, 2, 0, 0, 0, 9, 9]]

theorem packet_read_exactly_fragmented :
    let socket : ScriptedSocket := { recvs := fragmented.map .measured }
    ScriptedSocket.Portioned fragmented.flatten socket ∧
      (∃ socket', readPacket ScriptedSocket.transport socket = (.ok healthy, socket') ∧
        ScriptedSocket.Portioned [9, 9] socket') ∧
      ∃ socket', Link.ping ScriptedSocket.transport (.ofMillis 50) socket .mysql = (true, socket') ∧
        ScriptedSocket.Portioned [9, 9] socket' := by
  intro socket
  have hahead : ScriptedSocket.Portioned fragmented.flatten socket :=
    ⟨fragmented, by decide, rfl, rfl, rfl, rfl⟩
  have hfront : Packet healthy ([7, 0, 0, 1] ++ healthy) := ⟨7, 0, 0, 1, rfl, by decide⟩
  obtain ⟨hwhole, -⟩ := packet_read_exactly ScriptedSocket.measured hahead
  obtain ⟨hread, hping⟩ := hwhole healthy _ [9, 9] hfront rfl
  obtain ⟨passed, socket', hran, hbehind, hiff⟩ := hping ScriptedSocket.obliges (.ofMillis 50)
  obtain rfl := hiff.2 ⟨_, rfl⟩
  exact ⟨hahead, hread, socket', hran, hbehind⟩

end Mysql

end DatabaseGateway
