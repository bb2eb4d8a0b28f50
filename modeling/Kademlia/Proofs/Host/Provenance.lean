import Kademlia.Proofs.Host.Grounded

/-!
# No hearsay in the routing table

A host lives on whatever arrives, from anybody, and on whatever its user asks for. In every such life
each contact of the routing table can be traced back to one datagram: a request from its address,
under its identifier, that was answered, or a response from its address, under its identifier, to a
request that was sent there.
-/

namespace Kademlia.Host

open Bencode Wire Exchange Service

/-- What can happen to a host. -/
inductive Operation where
  /-- A datagram arrives. -/
  | receive (transport : Transport) (serverClock : Nat) (d : Datagram)
  /-- Everything that is under way goes on. -/
  | advance (transport : Transport) (now : Nat)
  | ping (transport : Transport) (address : Address)
  | find (transport : Transport) (goal : Lookup.Goal) (seeds : Option (List Contact))
  | take (channel : Channel)
  /-- What is to be sent leaves the host. -/
  | flush
  | stop

/-- A host in the course of its life, and what left it. -/
structure Life (σ : Type) where
  host : Host σ
  sent : List Datagram

/-- Is a call under way, for a ping or for a lookup? -/
def Holds {σ : Type} (h : Host σ) (c : Call) : Prop :=
  (∃ p ∈ h.probes, p.call = c) ∨ ∃ t ∈ h.tasks, ∃ f ∈ t.lookup.flights, f.call = c

namespace Life

variable {σ : Type} [Server σ]

/-- A host that was just set up. -/
def start (settings : Settings) (server : σ) (entropy : Entropy) (transport : Transport) : Life σ :=
  ⟨.new settings server entropy transport, []⟩

/-- Let something happen. -/
def perform (l : Life σ) : Operation → Life σ
  | .receive transport serverClock d => { l with host := l.host.receive transport serverClock d }
  | .advance transport now => { l with host := l.host.advance transport now }
  | .ping transport address => { l with host := (l.host.ping transport address).2 }
  | .find transport goal seeds => { l with host := (l.host.find transport goal seeds).2 }
  | .take channel => { l with host := (l.host.take channel).2 }
  | .flush =>
    let (sent, multiplexer) := l.host.multiplexer.takeOutbox
    ⟨{ l.host with multiplexer }, l.sent ++ sent⟩
  | .stop => { l with host := l.host.stop }

/-- Let things happen, the first one first. -/
def after (l : Life σ) (ops : List Operation) : Life σ :=
  ops.foldl perform l

lemma after_append (l : Life σ) (ops later : List Operation) :
    l.after (ops ++ later) = (l.after ops).after later :=
  List.foldl_append

/-- Does a datagram, taken in now, show that the node with an identifier is at its sender? Either it
is a request under that identifier, which the server answers, or it is a response under that
identifier and ends a transaction whose request was sent to its sender by a call which expects no
other node. -/
inductive Shows (l : Life σ) (serverClock : Nat) (d : Datagram) (id : Id) : Prop where
  | request (m : Message) (hm : Message.decode (d.bytes.take maxRead) = .ok m) (query : Query)
      (hquery : m.body = .request query) (hid : authorOf query.arguments = some id) (payload : Dict)
      (hanswer : (Server.handle serverClock ⟨d.peer, l.host.table⟩ query l.host.server).1 =
        .ok payload)
  | response (m : Message) (hm : Message.decode (d.bytes.take maxRead) = .ok m) (payload : Dict)
      (hpayload : m.body = .response payload) (hid : authorOf payload = some id) (t : Transaction)
      (ht : t ∈ l.host.multiplexer.transactions d.peer) (htransaction : t.id = m.transaction)
      (hsent : t.SentIn d.peer (l.sent ++ l.host.multiplexer.outbox)) (c : Call)
      (hheld : l.host.Holds c) (hticket : c.ticket = t.ticket) (hwelcomes : c.Welcomes id)

/-- Was there a datagram from an address that showed that the node with an identifier is there, and
that was not dropped for its sender? -/
def Vouched (l : Life σ) (ops : List Operation) (id : Id) (address : Address) : Prop :=
  ∃ before transport serverClock bytes rest,
    ops = before ++ .receive transport serverClock ⟨address, bytes⟩ :: rest ∧
    address.port ≠ 0 ∧ (l.after before).host.multiplexer.isSelf address = false ∧
    (l.after before).Shows serverClock ⟨address, bytes⟩ id

/-- A tick takes in the datagrams that arrived and then goes on. -/
lemma after_tick (l : Life σ) (transport : Transport) (serverClock now : Nat) (ds : List Datagram) :
    l.after (ds.map (.receive transport serverClock) ++ [.advance transport now]) =
      { l with host := l.host.tick transport serverClock now ds } := by
  have hreceive : l.after (ds.map (.receive transport serverClock)) =
      { l with host := l.host.receiveAll transport serverClock ds } := by
    induction ds generalizing l with
    | nil => rfl
    | cons d ds ih => exact ih (l.perform (.receive transport serverClock d))
  rw [after_append, hreceive]
  rfl

/-! ### One datagram -/

variable {V : Id → Address → Prop} {l : Life σ}

/-- Answering a request brings in its sender, if it names itself and is answered. -/
lemma mem_respond {serverClock : Nat} {sender : Address} {query : Query} {table : Routing.Table}
    {server : σ} {c : Contact}
    (hc : c ∈ (respond serverClock sender query (table, server)).2.1.contacts) :
    c ∈ table.contacts ∨ c.address = sender ∧ authorOf query.arguments = some c.id ∧
      ∃ payload, (Server.handle serverClock ⟨sender, table⟩ query server).1 = .ok payload := by
  unfold respond at hc
  dsimp only at hc
  split at hc
  · next payload id hanswer hid =>
    refine (Routing.Table.mem_add hc).imp_right fun hc => ?_
    rw [hc]
    exact ⟨rfl, hid, payload, hanswer⟩
  · exact .inl hc

/-- A datagram brings in nobody but whom it shows to be at its sender. -/
lemma receive (hg : l.host.Grounded V l.sent) (transport : Transport) (serverClock : Nat)
    (d : Datagram)
    (hV : ∀ id, d.peer.port ≠ 0 → l.host.multiplexer.isSelf d.peer = false →
      l.Shows serverClock d id → V id d.peer) :
    (l.host.receive transport serverClock d).Grounded V l.sent := by
  have hpromised {c : Call} (hheld : l.host.Holds c) {a : Address}
      (h : l.host.multiplexer.Promised V c a) :=
    h.handleDatagram hg.multiplexer.sound transport (respond serverClock)
      { d with bytes := d.bytes.take maxRead } (l.host.table, l.host.server)
      fun hport hself m payload id hm hpayload hid t ht htransaction hticket hwelcomes =>
        hV id hport hself (.response m hm payload hpayload hid t ht htransaction
          (hg.multiplexer.waiting d.peer t ht) c hheld hticket.symm hwelcomes)
  refine ⟨hg.multiplexer.handleDatagram transport (respond serverClock) _ _, ?_,
    fun p hp => hpromised (.inl ⟨p, hp, rfl⟩) (hg.probes p hp), fun t ht f hf => ?_⟩
  · intro c hc
    change c ∈ (l.host.multiplexer.handleDatagram transport (respond serverClock)
      { d with bytes := d.bytes.take maxRead } (l.host.table, l.host.server)).2.1.contacts at hc
    rcases l.host.multiplexer.handleDatagram_cases transport (respond serverClock)
      { d with bytes := d.bytes.take maxRead } (l.host.table, l.host.server) with
      hdrop | ⟨⟨hport, hself⟩, m, hm, ⟨query, hquery, hstate, -⟩ | ⟨reply, -, hstate, -⟩⟩
    · rw [hdrop] at hc
      exact hg.table c hc
    · rw [hstate] at hc
      rcases mem_respond hc with hc | ⟨haddress, hid, payload, hanswer⟩
      · exact hg.table c hc
      · rw [haddress]
        exact hV c.id hport hself (.request m hm query hquery hid payload hanswer)
    · rw [hstate] at hc
      exact hg.table c hc
  · obtain ⟨hexpected, h⟩ := hg.tasks t ht f hf
    exact ⟨hexpected, hpromised (.inr ⟨t, ht, f, hf, rfl⟩) h⟩

/-! ### Lives -/

omit [Server σ] in
lemma grounded_start (settings : Settings) (server : σ) (entropy : Entropy) (transport : Transport) :
    (Host.new settings server entropy transport).Grounded V [] := by
  apply List.foldlRecOn (motive := fun h : Host σ => h.Grounded V [])
  · refine ⟨⟨⟨List.nodup_nil, ?_, ?_⟩, ?_, ?_, ?_⟩, ?_, ?_, ?_⟩
    all_goals simp [Multiplexer.new, Multiplexer.transactions, Multiplexer.session, Session.new,
      Routing.Table.contacts_empty]
  · intro h hg address _
    exact (hg.probe transport address none).grounded

/-- What leaves the host was sent all the same. -/
lemma grounded_flush (hg : l.host.Grounded V l.sent) :
    (l.perform .flush).host.Grounded V (l.perform .flush).sent := by
  refine ⟨⟨hg.multiplexer.sound.congr rfl rfl, hg.multiplexer.issued, fun a t ht => ?_,
    hg.multiplexer.answered⟩, hg.table, fun p hp => ?_, fun t ht f hf => ?_⟩
  · simpa [perform, Multiplexer.takeOutbox] using hg.multiplexer.waiting a t ht
  · obtain ⟨hissued, hwaiting, hanswered⟩ := hg.probes p hp
    exact ⟨hissued, hwaiting, hanswered⟩
  · obtain ⟨hexpected, hissued, hwaiting, hanswered⟩ := hg.tasks t ht f hf
    exact ⟨hexpected, hissued, hwaiting, hanswered⟩

/-- Whatever happens, nobody is brought in but whom a datagram that arrives shows to be there. -/
lemma grounded_perform (hg : l.host.Grounded V l.sent) (op : Operation)
    (hV : ∀ transport serverClock d, op = .receive transport serverClock d →
      ∀ id, d.peer.port ≠ 0 → l.host.multiplexer.isSelf d.peer = false →
        l.Shows serverClock d id → V id d.peer) :
    (l.perform op).host.Grounded V (l.perform op).sent := by
  cases op with
  | receive transport serverClock d =>
    exact receive hg transport serverClock d (hV transport serverClock d rfl)
  | advance transport now => exact (hg.advance transport now).grounded
  | ping transport address => exact (hg.ping transport address).grounded
  | find transport goal seeds => exact (hg.find transport goal seeds).grounded
  | take channel => exact (hg.take channel).grounded
  | flush => exact grounded_flush hg
  | stop => exact hg.stop.grounded

/-- A predicate that speaks for whom any datagram of a life shows to be there speaks for all contacts
of the table. -/
lemma grounded_after (hg : l.host.Grounded V l.sent) (ops : List Operation)
    (hV : ∀ id address, l.Vouched ops id address → V id address) :
    (l.after ops).host.Grounded V (l.after ops).sent := by
  induction ops generalizing l with
  | nil => exact hg
  | cons op ops ih =>
    refine ih (grounded_perform hg op ?_) fun id address hvouched => hV id address ?_
    · rintro transport serverClock ⟨address, bytes⟩ rfl id hport hself hshows
      exact hV id address ⟨[], transport, serverClock, bytes, ops, rfl, hport, hself, hshows⟩
    · obtain ⟨before, transport, serverClock, bytes, rest, rfl, hport, hself, hshows⟩ := hvouched
      exact ⟨op :: before, transport, serverClock, bytes, rest, rfl, hport, hself, hshows⟩

/-- No hearsay in the routing table. Whatever happens to a host, each contact of its table was shown
to be where it is by a datagram from that very address: a request under its identifier that the
server answered, or a response under its identifier that ended a transaction whose request had been
sent to that address, by a ping or by a lookup that asked for no other node. -/
theorem contacts_vouched (settings : Settings) (server : σ) (entropy : Entropy)
    (transport : Transport) (ops : List Operation) :
    ∀ c ∈ ((start settings server entropy transport).after ops).host.table.contacts,
      (start settings server entropy transport).Vouched ops c.id c.address :=
  (grounded_after (grounded_start settings server entropy transport) ops fun _ _ h => h).table

namespace Acquainted

/-- A node named by one octet. -/
def node (b : UInt8) : Contact :=
  { id := ⟨List.replicate 19 0 ++ [b], rfl⟩, address := ⟨.v4 10 0 0 b, 7⟩ }

def settings : Settings :=
  { id := (node 0).id, address := (node 0).address }

def transport : Transport := fun _ => none

/-- How a node says who it is. -/
def introduction (b : UInt8) : Dict :=
  .ofEntries [(Key.id, .bytes (node b).id.bytes)]

/-- Node 1 pings, and node 2 answers a ping. -/
def meeting : List Operation :=
  let request : Message := ⟨[1], none, .request ⟨Method.ping, introduction 1⟩⟩
  let response : Message := ⟨[0, 0, 0, 0], none, .response (introduction 2)⟩
  [.receive transport 0 ⟨(node 1).address, request.encode⟩, .ping transport (node 2).address, .flush,
    .receive transport 0 ⟨(node 2).address, response.encode⟩, .advance transport 1]

def entropy : Entropy :=
  ⟨fun n => n, 0⟩

def server : ValueService :=
  .start .standard 0 entropy

/-- The life of the host that meets them. -/
def life : Life ValueService :=
  start settings server entropy transport

end Acquainted

/-- A contact that asked and a contact that answered are both vouched for. -/
theorem contacts_vouched_meeting :
    (Acquainted.life.after Acquainted.meeting).host.table.contacts =
        [Acquainted.node 1, Acquainted.node 2] ∧
      Acquainted.life.Vouched Acquainted.meeting (Acquainted.node 1).id (Acquainted.node 1).address ∧
      Acquainted.life.Vouched Acquainted.meeting (Acquainted.node 2).id (Acquainted.node 2).address := by
  have hcontacts : (Acquainted.life.after Acquainted.meeting).host.table.contacts =
      [Acquainted.node 1, Acquainted.node 2] := by
    decide +kernel
  have hvouched := contacts_vouched Acquainted.settings Acquainted.server Acquainted.entropy
    Acquainted.transport Acquainted.meeting
  exact ⟨hcontacts, hvouched (Acquainted.node 1) (hcontacts ▸ List.mem_cons_self),
    hvouched (Acquainted.node 2) (hcontacts ▸ List.mem_cons_of_mem _ List.mem_cons_self)⟩

end Life

end Kademlia.Host
