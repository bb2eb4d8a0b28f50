import Kademlia.Proofs.Host.Channels
import Kademlia.Proofs.Wire.Size

/-!
# What a host does to its server

A server is asked to answer requests, whose arguments came in one datagram, and for the values it holds
itself. Nothing else happens to it while its host lives, and the limit for datagrams stays as it was
set up.
-/

namespace Kademlia

open Bencode Wire Exchange Service

/-! ### The limit of a multiplexer -/

namespace Exchange

variable (m : Multiplexer)

lemma Multiplexer.maxPacket_request (transport : Transport) (address : Address) (method : String)
    (arguments : Dict) (now : Nat) :
    (m.request transport address method arguments now).2.maxPacket = m.maxPacket := by
  unfold request
  split <;> rfl

lemma Multiplexer.maxPacket_call (transport : Transport) (self : Id) (address : Address)
    (expected : Option Id) (r : Request) (now : Nat) :
    (m.call transport self address expected r now).2.maxPacket = m.maxPacket := by
  unfold call
  cases r.arguments self with
  | ok arguments => exact m.maxPacket_request ..
  | error e => rfl

lemma Call.maxPacket_poll (c : Call) : (c.poll m).2.maxPacket = m.maxPacket := by
  obtain ⟨delivered, heq, -⟩ := m.collect_eq c.ticket
  have hpoll : (c.poll m).2 = (m.collect c.ticket).2 := by
    unfold poll
    split <;> simp_all
  rw [hpoll, heq]

lemma Multiplexer.maxPacket_handleDatagram {σ : Type} (transport : Transport) (respond : Responder σ)
    (d : Datagram) (state : σ) :
    (m.handleDatagram transport respond d state).1.maxPacket = m.maxPacket := by
  unfold handleDatagram
  split
  · rfl
  · split <;> rfl

end Exchange

namespace Lookup

lemma maxPacket_issue (site : Site) (asks : List Ask) (m : Multiplexer) :
    (issue site asks m).2.maxPacket = m.maxPacket := by
  induction asks generalizing m with
  | nil => rfl
  | cons a asks ih => exact (ih _).trans (m.maxPacket_call _ _ _ (some a.contact.id) _ _)

lemma maxPacket_step (site : Site) (s : Sweep) (f : Flight) (fs : List Flight) :
    (s.step site f fs).multiplexer.maxPacket = s.multiplexer.maxPacket := by
  have hpoll := f.call.maxPacket_poll s.multiplexer
  unfold Sweep.step
  split
  · next heq =>
    rw [heq] at hpoll
    exact hpoll
  · next heq =>
    rw [heq] at hpoll
    exact (maxPacket_issue ..).trans hpoll

lemma maxPacket_tick (l : Lookup) (site : Site) (m : Multiplexer) :
    (l.tick site m).2.1.maxPacket = m.maxPacket := by
  have hrun (s : Sweep) : (s.run site).multiplexer.maxPacket = s.multiplexer.maxPacket :=
    Sweep.run_keeps (P := fun s' => s'.multiplexer.maxPacket = s.multiplexer.maxPacket) rfl
      fun s' f fs _ h => (maxPacket_step site s' f fs).trans h
  exact hrun ⟨l, m, [], l.flights, []⟩

end Lookup

/-! ### Hosts -/

namespace Host

variable {σ : Type} {P : σ → Prop} {limit : Nat} {h : Host σ}

/-- Does a predicate outlast whatever a server is asked for? -/
structure Lasting [Server σ] (P : σ → Prop) : Prop where
  handle : ∀ now context query state, query.arguments.weight ≤ maxRead → P state →
    P (Server.handle now context query state).2
  localValues : ∀ key state, P state → P (Server.localValues key state).2

/-- The server is as a predicate says, and the limit for datagrams is this. -/
structure Serves (P : σ → Prop) (limit : Nat) (h : Host σ) : Prop where
  server : P h.server
  maxPacket : h.multiplexer.maxPacket = limit

namespace Serves

lemma probe (hs : h.Serves P limit) (transport : Transport) (address : Address)
    (waiter : Option Channel) : (h.probe transport address waiter).Serves P limit :=
  ⟨hs.server, (h.multiplexer.maxPacket_call transport h.id address none .ping h.clock).trans
    hs.maxPacket⟩

lemma settleProbe (hs : h.Serves P limit) (p : Probe) (result : Except CallError Ping.Answer) :
    (h.settleProbe p result).Serves P limit := by
  obtain ⟨table, parcels, heq, -⟩ := h.settleProbe_eq p result
  rw [heq]
  exact ⟨hs.server, hs.maxPacket⟩

lemma sweepProbes (hs : h.Serves P limit) (kept rest : List Probe) :
    (h.sweepProbes kept rest).Serves P limit := by
  have hpoll {h : Host σ} {p : Probe} {result : Option (Except CallError Ping.Answer)}
      {m : Multiplexer} (hs : h.Serves P limit)
      (heq : p.call.pollAs Ping.Answer h.multiplexer = (result, m)) :
      ({ h with multiplexer := m } : Host σ).Serves P limit := by
    refine ⟨hs.server, ?_⟩
    have hm := p.call.maxPacket_poll h.multiplexer
    rw [show (p.call.poll h.multiplexer).2 = m from congrArg Prod.snd heq] at hm
    exact hm.trans hs.maxPacket
  fun_induction Host.sweepProbes h kept rest with
  | case1 h kept => exact ⟨hs.server, hs.maxPacket⟩
  | case2 h kept p ps m heq ih => exact ih (hpoll hs heq)
  | case3 h kept p ps result m heq ih => exact ih ((hpoll hs heq).settleProbe p result)

lemma keep (hs : h.Serves P limit) (t : Task) : (h.keep t).Serves P limit :=
  ⟨hs.server, hs.maxPacket⟩

lemma tickTasks (hs : h.Serves P limit) (transport : Transport) :
    (h.tickTasks transport).Serves P limit := by
  apply List.foldlRecOn (motive := fun h : Host σ => h.Serves P limit)
  · exact ⟨hs.server, hs.maxPacket⟩
  · intro h hs t _
    unfold tickTask
    apply keep
    exact ⟨hs.server, (t.lookup.maxPacket_tick _ _).trans hs.maxPacket⟩

variable [Server σ]

lemma start (hP : Lasting P) (hs : h.Serves P limit) (transport : Transport) (goal : Lookup.Goal)
    (seeds : List Contact) (channel : Channel) :
    (h.start transport goal seeds channel).Serves P limit := by
  have hserver : P (h.known goal).2.server := by
    cases goal with
    | getValue key n => exact hP.localValues key h.server hs.server
    | _ => exact hs.server
  rw [start_eq]
  apply keep
  refine ⟨?_, (Lookup.maxPacket_issue ..).trans hs.maxPacket⟩
  dsimp only
  split <;> exact hserver

lemma find (hP : Lasting P) (hs : h.Serves P limit) (transport : Transport) (goal : Lookup.Goal)
    (seeds : Option (List Contact)) : (h.find transport goal seeds).2.Serves P limit := by
  have hopen : h.openChannel.2.Serves P limit := ⟨hs.server, hs.maxPacket⟩
  cases seeds <;> exact start hP hopen ..

lemma tickBootstrap (hP : Lasting P) (hs : h.Serves P limit) (transport : Transport) :
    (h.tickBootstrap transport).Serves P limit := by
  unfold Host.tickBootstrap
  split
  · split
    · exact hs
    · have hopen : h.openChannel.2.Serves P limit := ⟨hs.server, hs.maxPacket⟩
      have hstart := start hP hopen transport (.findNode h.id)
        (h.openChannel.2.table.closest h.id h.openChannel.2.k) h.openChannel.1
      exact ⟨hstart.server, hstart.maxPacket⟩
  · split
    · exact ⟨hs.server, hs.maxPacket⟩
    · exact hs
  · exact hs

lemma advance (hP : Lasting P) (hs : h.Serves P limit) (transport : Transport) (now : Nat) :
    (h.advance transport now).Serves P limit := by
  have hexpire : (h.expire now).Serves P limit := ⟨hs.server, hs.maxPacket⟩
  exact ((hexpire.sweepProbes [] h.probes).tickTasks transport).tickBootstrap hP transport

end Serves

variable [Server σ]

/-- What answering a request does to the server. -/
lemma server_respond (serverClock : Nat) (sender : Address) (query : Query) (table : Routing.Table)
    (server : σ) :
    (respond serverClock sender query (table, server)).1 =
        (Server.handle serverClock ⟨sender, table⟩ query server).1 ∧
      (respond serverClock sender query (table, server)).2.2 =
        (Server.handle serverClock ⟨sender, table⟩ query server).2 := by
  unfold respond
  dsimp only
  split <;> exact ⟨rfl, rfl⟩

/-- What is in a request came in one datagram, as far as that is read. -/
lemma weight_of_decode_take {bs : Bytes} {m : Message} {query : Query}
    (hm : Message.decode (bs.take maxRead) = .ok m) (hquery : m.body = .request query) :
    query.arguments.weight ≤ maxRead := by
  obtain ⟨-, hquery'⟩ := Message.length_of_decode hm
  exact (hquery' query hquery).2.trans (List.length_take_le ..)

lemma Serves.receive (hP : Lasting P) (hs : h.Serves P limit) (transport : Transport)
    (serverClock : Nat) (d : Datagram) : (h.receive transport serverClock d).Serves P limit := by
  constructor
  · show P (h.multiplexer.handleDatagram transport (respond serverClock)
      { d with bytes := d.bytes.take maxRead } (h.table, h.server)).2.2
    rcases h.multiplexer.handleDatagram_cases transport (respond serverClock)
      { d with bytes := d.bytes.take maxRead } (h.table, h.server) with
      hdrop | ⟨-, m, hm, ⟨query, hquery, hstate, -⟩ | ⟨reply, -, hstate, -⟩⟩
    · rw [hdrop]
      exact hs.server
    · rw [hstate, (server_respond serverClock _ query h.table h.server).2]
      exact hP.handle _ _ query _ (weight_of_decode_take hm hquery) hs.server
    · rw [hstate]
      exact hs.server
  · show (h.multiplexer.handleDatagram transport (respond serverClock)
      { d with bytes := d.bytes.take maxRead } (h.table, h.server)).1.maxPacket = limit
    rw [Multiplexer.maxPacket_handleDatagram]
    exact hs.maxPacket

/-- A request that is read is answered, if the transport takes the answer. -/
lemma outbox_receive_of_request (h : Host σ) (transport : Transport) (serverClock : Nat) {d : Datagram}
    {m : Message} {query : Query} (hport : d.peer.port ≠ 0)
    (hself : h.multiplexer.isSelf d.peer = false) (hopen : transport d.peer = none)
    (hm : Message.decode (d.bytes.take maxRead) = .ok m) (hquery : m.body = .request query) :
    (h.receive transport serverClock d).multiplexer.outbox = h.multiplexer.outbox ++ [⟨d.peer,
      Session.reply m.transaction (Server.handle serverClock ⟨d.peer, h.table⟩ query h.server).1
        h.multiplexer.maxPacket⟩] := by
  have haddress := h.multiplexer.address_session d.peer
  rw [← (server_respond serverClock d.peer query h.table h.server).1]
  simp only [Host.receive, Multiplexer.receive, Multiplexer.handleDatagram, hport, hself, hm,
    Session.handle, hquery, haddress, hopen, Multiplexer.record, Multiplexer.setSession,
    Bool.false_eq_true, or_self, if_false]

/-! ### Lives -/

namespace Life

variable {l : Life σ}

omit [Server σ] in
lemma serves_start {settings : Settings} {server : σ} (hserver : P server) (entropy : Entropy)
    (transport : Transport) :
    (start settings server entropy transport).host.Serves P settings.maxPacket := by
  apply List.foldlRecOn (motive := fun h : Host σ => h.Serves P settings.maxPacket)
  · exact ⟨hserver, rfl⟩
  · intro h hs address _
    exact hs.probe transport address none

lemma serves_perform (hP : Lasting P) (hs : l.host.Serves P limit) (op : Operation) :
    (l.perform op).host.Serves P limit := by
  cases op with
  | receive transport serverClock d => exact hs.receive hP transport serverClock d
  | advance transport now => exact hs.advance hP transport now
  | ping transport address =>
    have hopen : l.host.openChannel.2.Serves P limit := ⟨hs.server, hs.maxPacket⟩
    exact hopen.probe transport address _
  | find transport goal seeds => exact hs.find hP transport goal seeds
  | take channel => exact ⟨hs.server, hs.maxPacket⟩
  | flush => exact ⟨hs.server, hs.maxPacket⟩
  | stop => exact ⟨hs.server, hs.maxPacket⟩

/-- The predicate holds of the server and the limit stays, whatever happens. -/
theorem serves_after (hP : Lasting P) (hs : l.host.Serves P limit) (ops : List Operation) :
    (l.after ops).host.Serves P limit := by
  induction ops generalizing l with
  | nil => exact hs
  | cons op ops ih => exact ih (serves_perform hP hs op)

end Life

end Host

end Kademlia
