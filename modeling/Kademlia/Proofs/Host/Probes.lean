import Kademlia.Proofs.Host.Ending
import Kademlia.Proofs.Host.Replies

/-!
# Pings in the course of a life

A host settles a ping in the first tick that finds a reply, and never again: it tells the table of the
node if there was an answer. Whatever else happens, the pings it was set up with are settled or still under
way, each of them once. No two pings wait for one reply.
-/

namespace Kademlia.Host

open Wire Exchange Service

variable {σ : Type} {h : Host σ}

/-! ### Pings under way -/

lemma probes_tickTasks (h : Host σ) (transport : Transport) :
    (h.tickTasks transport).probes = h.probes := by
  apply List.foldlRecOn (motive := fun h' : Host σ => h'.probes = h.probes)
  · rfl
  · exact fun _ hprobes _ _ => hprobes

section Server

variable [Server σ]

lemma probes_start (h : Host σ) (transport : Transport) (goal : Lookup.Goal) (seeds : List Contact)
    (channel : Channel) : (h.start transport goal seeds channel).probes = h.probes := by
  rw [start_eq, snd_known]
  dsimp only [Host.keep]
  split <;> rfl

lemma probes_find (h : Host σ) (transport : Transport) (goal : Lookup.Goal)
    (seeds : Option (List Contact)) : (h.find transport goal seeds).2.probes = h.probes := by
  cases seeds <;> exact probes_start ..

lemma probes_tickBootstrap (h : Host σ) (transport : Transport) :
    (h.tickBootstrap transport).probes = h.probes := by
  unfold tickBootstrap
  split
  · split
    · rfl
    · exact probes_start h.openChannel.2 transport (.findNode h.id) (h.table.closest h.id h.k)
        h.nextChannel
  · split <;> rfl
  · rfl

lemma probes_advance (h : Host σ) (transport : Transport) (now : Nat) :
    (h.advance transport now).probes = (h.expire now).tickProbes.probes :=
  (probes_tickBootstrap _ transport).trans (probes_tickTasks _ transport)

end Server

lemma Operation.advance_or (op : Operation) :
    (∃ transport now, op = .advance transport now) ∨ ∀ transport now, op ≠ .advance transport now := by
  cases op with
  | advance transport now => exact .inl ⟨transport, now, rfl⟩
  | _ => exact .inr nofun

/-! ### Tickets -/

/-- No two pings hold one ticket. -/
def Distinct (h : Host σ) : Prop :=
  (h.probes.map (·.call.ticket)).Nodup

lemma Distinct.nodup_divided (hd : h.Distinct) :
    (((finishedProbes h.probeLooks).map (·.1)).map (·.call.ticket) ++
      h.tickProbes.probes.map (·.call.ticket)).Nodup := by
  have hperm := (perm_tickProbes h).map fun p => p.call.ticket
  rw [List.map_append] at hperm
  exact hperm.nodup_iff.2 hd

lemma Distinct.tickProbes (hd : h.Distinct) : h.tickProbes.Distinct :=
  hd.nodup_divided.of_append_right

/-- A new ping takes a new ticket. -/
lemma Distinct.probe {V : Id → Address → Prop} {sent : List Datagram} (hd : h.Distinct)
    (hg : h.Grounded V sent) (transport : Transport) (address : Address) (waiter : Option Channel) :
    (h.probe transport address waiter).Distinct := by
  have hcall : (h.multiplexer.call transport h.id address none .ping h.clock).1 =
      ⟨h.multiplexer.nextTicket, none⟩ :=
    (hg.multiplexer.sound.call_cases transport h.id address none .ping h.clock).1
  have hprobes : (h.probe transport address waiter).probes = h.probes ++
      [⟨address, (h.multiplexer.call transport h.id address none .ping h.clock).1, waiter⟩] := rfl
  rw [Distinct, hprobes, List.map_append, List.map_singleton, hcall]
  refine List.nodup_append.2 ⟨hd, List.nodup_singleton _, fun ticket hticket other hother => ?_⟩
  obtain ⟨p, hp, rfl⟩ := List.mem_map.1 hticket
  rw [List.mem_singleton.1 hother]
  exact (hg.probes p hp).issued.ne

namespace Life

variable [Server σ] {l : Life σ} {V : Id → Address → Prop}

lemma distinct_perform (hg : l.host.Grounded V l.sent) (hd : l.host.Distinct) (op : Operation) :
    (l.perform op).host.Distinct := by
  cases op with
  | advance transport now =>
    have hticked : (l.host.expire now).tickProbes.Distinct := Distinct.tickProbes (h := l.host.expire now) hd
    show ((l.host.advance transport now).probes.map _).Nodup
    rwa [probes_advance]
  | ping transport address =>
    exact Distinct.probe (h := l.host.openChannel.2) hd hg.openChannel.grounded transport address _
  | find transport goal seeds =>
    show ((l.host.find transport goal seeds).2.probes.map _).Nodup
    rwa [probes_find]
  | receive transport serverClock d => exact hd
  | take channel => exact hd
  | flush => exact hd
  | stop => exact hd

/-! ### Pings that are over -/

/-- The pings that are settled when something happens, with how they fared. -/
def pongs (l : Life σ) : Operation → List (Probe × Outcome)
  | .advance _ now => finishedProbes (l.host.expire now).probeLooks
  | _ => []

/-- The pings that are settled while things happen, in their order. -/
def ponged (l : Life σ) : List Operation → List (Probe × Outcome)
  | [] => []
  | op :: ops => l.pongs op ++ (l.perform op).ponged ops

lemma ponged_append (l : Life σ) (ops later : List Operation) :
    l.ponged (ops ++ later) = l.ponged ops ++ (l.after ops).ponged later := by
  induction ops generalizing l with
  | nil => rfl
  | cons op ops ih => exact (congrArg _ (ih _)).trans (List.append_assoc _ _ _).symm

/-- The pings of the bootstrap, for which nobody waits. -/
def own (ps : List Probe) : List Probe :=
  ps.filter (·.waiter.isNone)

/-- The own pings of a host stay under way until they are settled. -/
lemma perm_own_perform (l : Life σ) (op : Operation) :
    (own ((l.pongs op).map (·.1)) ++ own (l.perform op).host.probes).Perm (own l.host.probes) := by
  cases op with
  | advance transport now =>
    have hprobes : (l.perform (.advance transport now)).host.probes =
        (l.host.expire now).tickProbes.probes := probes_advance ..
    rw [hprobes, own, own, ← List.filter_append]
    exact (perm_tickProbes (l.host.expire now)).filter _
  | ping transport address =>
    have hnew : own (l.perform (.ping transport address)).host.probes = own l.host.probes := by
      show own (l.host.probes ++ [_]) = _
      rw [own, List.filter_append, List.filter_singleton]
      exact List.append_nil _
    rw [hnew]
    exact List.Perm.refl _
  | find transport goal seeds =>
    have hsame : (l.perform (.find transport goal seeds)).host.probes = l.host.probes := probes_find ..
    rw [hsame]
    exact List.Perm.refl _
  | receive transport serverClock d => exact List.Perm.refl _
  | take channel => exact List.Perm.refl _
  | flush => exact List.Perm.refl _
  | stop => exact List.Perm.refl _

lemma perm_own_after (l : Life σ) (ops : List Operation) :
    (own ((l.ponged ops).map (·.1)) ++ own (l.after ops).host.probes).Perm (own l.host.probes) := by
  induction ops generalizing l with
  | nil => exact List.Perm.refl _
  | cons op ops ih =>
    have hsplit : own ((l.ponged (op :: ops)).map (·.1)) =
        own ((l.pongs op).map (·.1)) ++ own (((l.perform op).ponged ops).map (·.1)) := by
      rw [ponged, List.map_append, own, List.filter_append]
      rfl
    rw [hsplit, List.append_assoc]
    exact ((ih (l.perform op)).append_left _).trans (l.perm_own_perform op)

omit [Server σ] in
/-- A host that is set up pings every address it is given, and nobody waits for these pings. -/
lemma probes_new (settings : Settings) (server : σ) (entropy : Entropy) (transport : Transport) :
    ((start settings server entropy transport).host.probes.map fun p => (p.address, p.waiter)) =
      settings.contacts.map fun a => (a, none) := by
  have hfold (addresses : List Address) (h : Host σ) :
      ((addresses.foldl (fun h address => h.probe transport address none) h).probes.map
        fun p => (p.address, p.waiter)) =
        (h.probes.map fun p => (p.address, p.waiter)) ++ addresses.map fun a => (a, none) := by
    induction addresses generalizing h with
    | nil => exact (List.append_nil _).symm
    | cons a addresses ih =>
      have hprobe : ((h.probe transport a none).probes.map fun p => (p.address, p.waiter)) =
          (h.probes.map fun p => (p.address, p.waiter)) ++ [(a, none)] := List.map_append
      rw [List.foldl_cons, ih, hprobe, List.append_assoc]
      rfl
  exact hfold settings.contacts _

omit [Server σ] in
/-- It takes an answer from whoever it is. -/
lemma expected_new (settings : Settings) (server : σ) (entropy : Entropy) (transport : Transport) :
    ∀ p ∈ (start settings server entropy transport).host.probes, p.call.expected = none := by
  apply List.foldlRecOn (motive := fun h : Host σ => ∀ p ∈ h.probes, p.call.expected = none)
  · simp
  · intro h hexpected address _ p hp
    rcases List.mem_append.1 hp with hp | hp
    · exact hexpected p hp
    · rw [List.mem_singleton.1 hp]

/-! ### Lives in which each ping has a reply of its own -/

/-- A life whose pings wait for replies from where they were sent, each for one of its own. -/
structure Steady (l : Life σ) : Prop where
  grounded : l.host.Grounded (fun _ _ => True) l.sent
  distinct : l.host.Distinct

omit [Server σ] in
lemma steady_start (settings : Settings) (server : σ) (entropy : Entropy) (transport : Transport) :
    (start settings server entropy transport).Steady := by
  have hboth : (start settings server entropy transport).host.Grounded (fun _ _ => True) [] ∧
      (start settings server entropy transport).host.Distinct := by
    apply List.foldlRecOn (motive := fun h : Host σ => h.Grounded (fun _ _ => True) [] ∧ h.Distinct)
    · exact ⟨grounded_start { settings with contacts := [] } server entropy transport, List.nodup_nil⟩
    · rintro h ⟨hg, hd⟩ address _
      exact ⟨(hg.probe transport address none).grounded, hd.probe hg transport address none⟩
  exact ⟨hboth.1, hboth.2⟩

lemma Steady.perform (hs : l.Steady) (op : Operation) : (l.perform op).Steady :=
  ⟨grounded_perform hs.grounded op fun _ _ _ _ _ _ _ _ => trivial,
    distinct_perform hs.grounded hs.distinct op⟩

lemma Steady.after (hs : l.Steady) (ops : List Operation) : (l.after ops).Steady :=
  List.foldlRecOn (motive := fun l : Life σ => l.Steady) ops Life.perform hs
    fun _ hs op _ => hs.perform op

/-! ### From a reply to the end of a ping -/

/-- Is there a reply to a ping that is under way, which says how the ping fared? -/
def Finds (l : Life σ) (p : Probe) (outcome : Outcome) : Prop :=
  p ∈ l.host.probes ∧ ∃ reply, l.host.multiplexer.Gave p.call.ticket reply ∧
    Call.parse Ping.Answer (reply.bind (Call.verify p.call.expected)) = outcome

variable {p : Probe} {outcome : Outcome}

/-- The response that ends a transaction of a ping says how the ping fared. -/
lemma Steady.finds_receive (hs : l.Steady) (transport : Transport) (serverClock : Nat)
    {d : Datagram} (hport : d.peer.port ≠ 0) (hself : l.host.multiplexer.isSelf d.peer = false)
    {m : Message} (hm : Message.decode (d.bytes.take maxRead) = .ok m) {payload : Bencode.Dict}
    (hpayload : m.body = .response payload) {t : Transaction}
    (ht : t ∈ l.host.multiplexer.transactions d.peer) (hid : t.id = m.transaction)
    (hp : p ∈ l.host.probes) (hticket : p.call.ticket = t.ticket)
    (hnone : (p.call.pollAs Ping.Answer l.host.multiplexer).1 = none) :
    p.address = d.peer ∧ (l.perform (.receive transport serverClock d)).Finds p
      (Call.parse Ping.Answer (Call.verify p.call.expected ⟨d.peer, payload⟩)) := by
  have hreply : replyOf d.peer m = some (.ok ⟨d.peer, payload⟩) := by rw [replyOf, hpayload]
  have hgiven := hs.grounded.multiplexer.sound.delivered_of_reply transport (respond serverClock)
    (d := { d with bytes := d.bytes.take maxRead }) hport hself hm hreply ht hid
    (l.host.table, l.host.server)
  rw [← hticket] at hgiven
  exact ⟨((hs.grounded.probes p hp).waiting d.peer t ht hticket.symm).symm, hp, _,
    Multiplexer.gave_of_append (Option.map_eq_none_iff.1 hnone) hgiven, rfl⟩

/-- Only when a host goes on replies are taken. -/
lemma Steady.delivered_perform (hs : l.Steady) {op : Operation}
    (hop : ∀ transport now, op ≠ .advance transport now) :
    l.host.multiplexer.delivered <+: (l.perform op).host.multiplexer.delivered := by
  have hsound := hs.grounded.multiplexer.sound
  cases op with
  | receive transport serverClock d =>
    exact l.host.multiplexer.delivered_handleDatagram transport (respond serverClock)
      { d with bytes := d.bytes.take maxRead } (l.host.table, l.host.server)
  | advance transport now => exact absurd rfl (hop transport now)
  | ping transport address =>
    exact hsound.delivered_call transport l.host.id address none .ping l.host.clock
  | find transport goal seeds =>
    have hstart (seeds : List Contact) : l.host.multiplexer.delivered <+:
        (l.host.openChannel.2.start transport goal seeds l.host.nextChannel).multiplexer.delivered := by
      rw [start_eq]
      exact Lookup.delivered_issue hsound _ _
    cases seeds <;> exact hstart _
  | take channel => exact List.prefix_rfl
  | flush => exact List.prefix_rfl
  | stop => exact l.host.multiplexer.settles_stop.delivered ▸ List.prefix_append _ _

/-- Until then a ping stays under way. -/
lemma subset_probes_perform {op : Operation} (hop : ∀ transport now, op ≠ .advance transport now) :
    l.host.probes ⊆ (l.perform op).host.probes := by
  cases op with
  | advance transport now => exact absurd rfl (hop transport now)
  | ping transport address => exact List.subset_append_left _ _
  | find transport goal seeds =>
    rw [show (l.perform (.find transport goal seeds)).host.probes = _ from probes_find ..]
    exact List.Subset.refl _
  | receive transport serverClock d => exact List.Subset.refl _
  | take channel => exact List.Subset.refl _
  | flush => exact List.Subset.refl _
  | stop => exact List.Subset.refl _

omit [Server σ] in
/-- A ping is settled by the reply that is there when the host goes on. -/
lemma Steady.mem_pongs (hs : l.Steady) (hf : l.Finds p outcome) (transport : Transport) (now : Nat) :
    (p, outcome) ∈ l.pongs (.advance transport now) := by
  obtain ⟨hp, reply, hgave, rfl⟩ := hf
  have hexpire : (l.host.expire now).multiplexer.Gave p.call.ticket reply :=
    hgave.of_prefix ((l.host.multiplexer.settles_expire now).delivered ▸ List.prefix_append _ _)
  have htakes := takesProbesOnce (h := l.host.expire now) hs.distinct
  exact htakes.resolved p hp _ (congrArg (Option.map _) hexpire.fst_poll)

/-- So it is settled once the host went on. -/
lemma Steady.mem_ponged (hs : l.Steady) (hf : l.Finds p outcome) (ops : List Operation)
    (transport : Transport) (now : Nat) :
    (p, outcome) ∈ l.ponged (ops ++ [.advance transport now]) := by
  induction ops generalizing l with
  | nil => exact List.mem_append_left _ (hs.mem_pongs hf transport now)
  | cons op ops ih =>
    rcases op.advance_or with ⟨transport', now', rfl⟩ | hop
    · exact List.mem_append_left _ (hs.mem_pongs hf transport' now')
    · obtain ⟨hp, reply, hgave, heq⟩ := hf
      exact List.mem_append_right _ (ih (hs.perform op)
        ⟨subset_probes_perform hop hp, reply, hgave.of_prefix (hs.delivered_perform hop), heq⟩)

/-- A ping that was settled was so in one tick. -/
lemma exists_pongs_of_mem_ponged {ops : List Operation} (hmem : (p, outcome) ∈ l.ponged ops) :
    ∃ before transport now later, ops = before ++ .advance transport now :: later ∧
      (p, outcome) ∈ (l.after before).pongs (.advance transport now) := by
  induction ops generalizing l with
  | nil => exact absurd hmem List.not_mem_nil
  | cons op ops ih =>
    rcases List.mem_append.1 hmem with hmem | hmem
    · cases op with
      | advance transport now => exact ⟨[], transport, now, ops, rfl, hmem⟩
      | _ => exact absurd hmem List.not_mem_nil
    · obtain ⟨before, transport, now, later, rfl, hpongs⟩ := ih hmem
      exact ⟨op :: before, transport, now, later, rfl, hpongs⟩

omit [Server σ] in
/-- The table is offered all who answered the pings that a tick settles. -/
lemma table_tickProbes (l : Life σ) (transport : Transport) (now : Nat) :
    (l.host.expire now).tickProbes.table =
      ((l.pongs (.advance transport now)).filterMap answerer?).foldl (fun t c => (t.add c).2)
        l.host.table :=
  (settles_sweepProbes (l.host.expire now) [] l.host.probes).1.table

/-- A response to a ping without a reply settles it when the host goes on next. -/
lemma Steady.mem_ponged_receive (hs : l.Steady) (transport : Transport) (serverClock : Nat)
    {d : Datagram} (hport : d.peer.port ≠ 0) (hself : l.host.multiplexer.isSelf d.peer = false)
    {m : Message} (hm : Message.decode (d.bytes.take maxRead) = .ok m) {payload : Bencode.Dict}
    (hpayload : m.body = .response payload) {t : Transaction}
    (ht : t ∈ l.host.multiplexer.transactions d.peer) (hid : t.id = m.transaction)
    (hp : p ∈ l.host.probes) (hticket : p.call.ticket = t.ticket)
    (hnone : (p.call.pollAs Ping.Answer l.host.multiplexer).1 = none) (between : List Operation)
    (transport' : Transport) (now : Nat) :
    p.address = d.peer ∧
      (p, Call.parse Ping.Answer (Call.verify p.call.expected ⟨d.peer, payload⟩)) ∈
        l.ponged (.receive transport serverClock d :: (between ++ [.advance transport' now])) := by
  obtain ⟨haddress, hfinds⟩ :=
    hs.finds_receive transport serverClock hport hself hm hpayload ht hid hp hticket hnone
  exact ⟨haddress, List.mem_append_right _ ((hs.perform _).mem_ponged hfinds between transport' now)⟩

/-- Whoever answered a ping was offered to the table in the tick that settled it. -/
lemma exists_offered {ops : List Operation} {a : Ping.Answer} (hmem : (p, .ok a) ∈ l.ponged ops) :
    ∃ before transport now later earlier others, ops = before ++ .advance transport now :: later ∧
      ((l.after before).host.expire now).tickProbes.table =
        (earlier ++ ({ id := a.id, address := p.address } : Contact) :: others).foldl
          (fun t c => (t.add c).2) (l.after before).host.table := by
  obtain ⟨before, transport, now, later, rfl, hpongs⟩ := exists_pongs_of_mem_ponged hmem
  have hcontact : ({ id := a.id, address := p.address } : Contact) ∈
      ((l.after before).pongs (.advance transport now)).filterMap answerer? :=
    List.mem_filterMap.2 ⟨_, hpongs, rfl⟩
  obtain ⟨earlier, others, hsplit⟩ := List.append_of_mem hcontact
  refine ⟨before, transport, now, later, earlier, others, rfl, ?_⟩
  rw [← hsplit]
  exact (l.after before).table_tickProbes transport now

end Life

end Kademlia.Host
