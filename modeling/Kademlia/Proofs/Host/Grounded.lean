import Kademlia.Host.Tick
import Kademlia.Proofs.Lookup.Verdicts
import Kademlia.Proofs.Routing.Contacts

/-!
# What a host knows at first hand

A contact gets into the routing table by an answer of its own or by a request of its own. Here each
part of the event loop is shown to bring in no contact but those for which some predicate speaks,
as long as it speaks for the authors of the responses that were given.
-/

namespace Kademlia.Host

open Bencode Wire Exchange Service

variable {σ : Type} {V : Id → Address → Prop} {sent : List Datagram} {h h' : Host σ}

/-- Every contact of the table is spoken for, and every ping and lookup under way waits for a response
from where it asked. -/
structure Grounded (V : Id → Address → Prop) (sent : List Datagram) (h : Host σ) : Prop where
  multiplexer : h.multiplexer.Grounded sent
  table : ∀ c ∈ h.table.contacts, V c.id c.address
  probes : ∀ p ∈ h.probes, h.multiplexer.Promised V p.call p.address
  tasks : ∀ t ∈ h.tasks, ∀ f ∈ t.lookup.flights, f.Awaits V h.multiplexer

/-- What a host does without taking in a datagram keeps this if new contacts are spoken for and new
requests wait for responses from where they ask. -/
structure Moves (V : Id → Address → Prop) (sent : List Datagram) (h h' : Host σ) : Prop where
  quiet : h.multiplexer.Quiet h'.multiplexer
  grounded : h'.Grounded V sent

lemma Grounded.move (hg : h.Grounded V sent) (hquiet : h.multiplexer.Quiet h'.multiplexer)
    (htable : ∀ c ∈ h'.table.contacts, c ∈ h.table.contacts ∨ V c.id c.address)
    (hprobes : ∀ p ∈ h'.probes, p ∈ h.probes ∨ h'.multiplexer.Promised V p.call p.address)
    (htasks : ∀ t ∈ h'.tasks, t ∈ h.tasks ∨ ∀ f ∈ t.lookup.flights, f.Awaits V h'.multiplexer) :
    h.Moves V sent h' where
  quiet := hquiet
  grounded := {
    multiplexer := hg.multiplexer.quiet hquiet
    table := by
      intro c hc
      rcases htable c hc with hc | hc
      · exact hg.table c hc
      · exact hc
    probes := by
      intro p hp
      rcases hprobes p hp with hp | hp
      · exact (hg.probes p hp).quiet hquiet
      · exact hp
    tasks := by
      intro t ht
      rcases htasks t ht with ht | ht
      · exact fun f hf => (hg.tasks t ht f hf).quiet hquiet
      · exact ht }

lemma Moves.trans {h'' : Host σ} (hm : h.Moves V sent h') (hm' : h'.Moves V sent h'') :
    h.Moves V sent h'' :=
  ⟨hm.quiet.trans hm'.quiet, hm'.grounded⟩

/-- Fields that hold no contacts and no requests play no part. -/
lemma Grounded.move_rfl (hg : h.Grounded V sent) (hmultiplexer : h'.multiplexer = h.multiplexer)
    (htable : h'.table = h.table) (hprobes : h'.probes = h.probes) (htasks : h'.tasks = h.tasks) :
    h.Moves V sent h' :=
  hg.move (by rw [hmultiplexer]; exact .refl hg.multiplexer.sound) (fun _ hc => .inl (htable ▸ hc))
    (fun _ hp => .inl (hprobes ▸ hp)) (fun _ ht => .inl (htasks ▸ ht))

/-! ### Pings -/

lemma Grounded.probe (hg : h.Grounded V sent) (transport : Transport) (address : Address)
    (waiter : Option Channel) : h.Moves V sent (h.probe transport address waiter) := by
  refine hg.move (hg.multiplexer.sound.quiet_call transport h.id address none .ping h.clock)
    (fun _ hc => .inl hc) (fun p hp => ?_) (fun _ ht => .inl ht)
  rcases List.mem_append.1 hp with hp | hp
  · exact .inl hp
  · obtain rfl := List.mem_singleton.1 hp
    exact .inr (hg.multiplexer.promised_call transport h.id address none .ping h.clock)

lemma Grounded.openChannel (hg : h.Grounded V sent) : h.Moves V sent h.openChannel.2 :=
  hg.move_rfl rfl rfl rfl rfl

lemma Grounded.ping (hg : h.Grounded V sent) (transport : Transport) (address : Address) :
    h.Moves V sent (h.ping transport address).2 :=
  hg.openChannel.trans (hg.openChannel.grounded.probe transport address _)

/-- A response to a ping is of its author. -/
lemma ping_author {reply : Reply} {a : Ping.Answer} (h : Call.parse Ping.Answer reply = .ok a) :
    ∃ r, reply = .ok r ∧ ∀ author, authorOf r.payload = some author → a.id = author := by
  obtain ⟨r, hr, hparse⟩ := parse_eq_ok h
  refine ⟨r, hr, fun author hauthor => ?_⟩
  simp only [Payload.ofDict, idOfDict, Functor.map, Except.map] at hparse
  split at hparse
  · simp at hparse
  · next id hid =>
    obtain rfl := Except.ok.inj hparse
    obtain ⟨_, -, hrequire⟩ := bind_eq_ok.1 hid
    exact eq_of_require_id hrequire hauthor

/-- Taking in how a ping fared delivers it and may bring in who answered. -/
lemma settleProbe_eq (h : Host σ) (p : Probe) (result : Except CallError Ping.Answer) :
    ∃ table parcels, h.settleProbe p result = { h with table, parcels } ∧
      (table = h.table ∨ ∃ a, result = .ok a ∧
        table = (h.table.add { id := a.id, address := p.address }).2) := by
  unfold Host.settleProbe
  cases result with
  | ok a => cases p.waiter <;> exact ⟨_, _, rfl, .inr ⟨a, rfl, rfl⟩⟩
  | error e => cases p.waiter <;> exact ⟨_, _, rfl, .inl rfl⟩

/-- A ping that fared well brings in the node at the address that was pinged. -/
lemma Grounded.settleProbe (hg : h.Grounded V sent) (p : Probe)
    {result : Except CallError Ping.Answer} (hresult : ∀ a, result = .ok a → V a.id p.address) :
    h.Moves V sent (h.settleProbe p result) := by
  obtain ⟨table, parcels, heq, htable⟩ := h.settleProbe_eq p result
  rw [heq]
  refine hg.move (.refl hg.multiplexer.sound) (fun c hc => ?_) (fun _ hp => .inl hp)
    fun _ ht => .inl ht
  rcases htable with rfl | ⟨a, ha, rfl⟩
  · exact .inl hc
  · refine (Routing.Table.mem_add hc).imp_right fun hc => ?_
    rw [hc]
    exact hresult a ha

lemma Grounded.look (hg : h.Grounded V sent) {c : Call}
    {result : Option (Except CallError Ping.Answer)} {m : Multiplexer}
    (hpoll : c.pollAs Ping.Answer h.multiplexer = (result, m)) :
    h.Moves V sent { h with multiplexer := m } := by
  have hquiet := hg.multiplexer.sound.quiet_poll c
  rw [show (c.poll h.multiplexer).2 = m from congrArg Prod.snd hpoll] at hquiet
  exact hg.move hquiet (fun _ hc => .inl hc) (fun _ hp => .inl hp) fun _ ht => .inl ht

/-- The result of a ping names the node at the address that was pinged. -/
lemma author_of_pollAs {p : Probe}
    (hp : h.multiplexer.Promised V p.call p.address) {result : Except CallError Ping.Answer}
    (hresult : (p.call.pollAs Ping.Answer h.multiplexer).1 = some result) (a : Ping.Answer)
    (ha : result = .ok a) : V a.id p.address := by
  obtain ⟨reply, hreply, hparse⟩ := Option.map_eq_some_iff.1 hresult
  obtain ⟨r, rfl, hid⟩ := ping_author (hparse.trans ha)
  obtain ⟨author, hauthor, hvouched, -⟩ := hp.author_of_poll hreply
  exact hid author hauthor ▸ hvouched

/-- Looking at the pings in turn keeps the invariant, if those that are kept and those that are left
wait for responses from where they ask. -/
lemma Grounded.sweepProbes (hg : h.Grounded V sent) (kept rest : List Probe)
    (hwait : ∀ p ∈ kept ++ rest, h.multiplexer.Promised V p.call p.address) :
    h.Moves V sent (h.sweepProbes kept rest) := by
  induction h, kept, rest using Host.sweepProbes.induct with
  | case1 h kept =>
    rw [Host.sweepProbes]
    exact hg.move (.refl hg.multiplexer.sound) (fun _ hc => .inl hc)
      (fun p hp => .inr (hwait p (List.mem_append_left _ hp))) (fun _ ht => .inl ht)
  | case2 h kept p ps m hpoll ih =>
    rw [Host.sweepProbes, hpoll]
    have hm := hg.look hpoll
    exact hm.trans (ih hm.grounded fun q hq => (hwait q (by simpa using hq)).quiet hm.quiet)
  | case3 h kept p ps result m hpoll ih =>
    rw [Host.sweepProbes, hpoll]
    have hm := hg.look hpoll
    have hsettle := hm.grounded.settleProbe p
      fun a ha => author_of_pollAs (hwait p (by simp)) (by rw [hpoll]) a ha
    refine (hm.trans hsettle).trans (ih hsettle.grounded fun q hq => ?_)
    have hq : q ∈ kept ++ p :: ps := by
      rcases List.mem_append.1 hq with hq | hq
      · exact List.mem_append_left _ hq
      · exact List.mem_append_right _ (List.mem_cons_of_mem _ ((Lookup.perm_refill ps).subset hq))
    exact ((hwait q hq).quiet hm.quiet).quiet hsettle.quiet

lemma Grounded.tickProbes (hg : h.Grounded V sent) : h.Moves V sent h.tickProbes :=
  hg.sweepProbes [] h.probes hg.probes

/-! ### Lookups -/

lemma Grounded.keep (hg : h.Grounded V sent) (t : Task)
    (ht : ∀ f ∈ t.lookup.flights, f.Awaits V h.multiplexer) : h.Moves V sent (h.keep t) := by
  refine hg.move (.refl hg.multiplexer.sound) (fun _ hc => .inl hc) (fun _ hp => .inl hp)
    fun t' ht' => ?_
  simp only [Host.keep] at ht'
  split_ifs at ht'
  · exact .inl ht'
  · rcases List.mem_append.1 ht' with ht' | ht'
    · exact .inl ht'
    · obtain rfl := List.mem_singleton.1 ht'
      exact .inr ht

lemma Grounded.start [Server σ] (hg : h.Grounded V sent) (transport : Transport)
    (goal : Lookup.Goal) (seeds : List Contact) (channel : Channel) :
    h.Moves V sent (h.start transport goal seeds channel) := by
  have hknown : h.Moves V sent (h.known goal).2 := by
    cases goal <;> exact hg.move_rfl rfl rfl rfl rfl
  have hdeliver : h.Moves V sent (if (h.known goal).1.isEmpty then (h.known goal).2
      else (h.known goal).2.deliver channel (.report (.values (h.known goal).1))) := by
    split
    · exact hknown
    · exact hknown.trans (hknown.grounded.move_rfl rfl rfl rfl rfl)
  unfold Host.start
  dsimp only
  generalize (if (h.known goal).1.isEmpty then (h.known goal).2
    else (h.known goal).2.deliver channel (.report (.values (h.known goal).1))) = h' at *
  generalize Lookup.new (goal.verb (h.known goal).1) (.new goal.target h'.id
    (goal.termination h'.redundancy) h'.k h'.concurrency) = l
  obtain ⟨hquiet, hawaits⟩ :=
    l.launch_facts hdeliver.grounded.multiplexer (h'.site transport) seeds
  have hlaunch : h'.Moves V sent
      { h' with multiplexer := (l.launch (h'.site transport) seeds h'.multiplexer).2 } :=
    hdeliver.grounded.move hquiet (fun _ hc => .inl hc) (fun _ hp => .inl hp) fun _ ht => .inl ht
  exact (hdeliver.trans hlaunch).trans (hlaunch.grounded.keep _ hawaits)

lemma Grounded.find [Server σ] (hg : h.Grounded V sent) (transport : Transport)
    (goal : Lookup.Goal) (seeds : Option (List Contact)) :
    h.Moves V sent (h.find transport goal seeds).2 := by
  cases seeds with
  | some seeds => exact hg.openChannel.trans (hg.openChannel.grounded.start ..)
  | none => exact hg.openChannel.trans (hg.openChannel.grounded.start ..)

/-- The verdicts of a sweep bring in the contacts that answered. -/
lemma mem_settleVerdicts {verdicts : List Lookup.Verdict} (hv : ∀ v ∈ verdicts, v.Vouched V)
    {table : Routing.Table} {c : Contact} (hc : c ∈ (verdicts.foldl settleVerdict table).contacts) :
    c ∈ table.contacts ∨ V c.id c.address := by
  induction verdicts generalizing table with
  | nil => exact .inl hc
  | cons v verdicts ih =>
    rcases ih (fun v hv' => hv v (List.mem_cons_of_mem _ hv')) hc with hc | hc
    · have hvouched := hv v List.mem_cons_self
      cases v with
      | answered contact =>
        refine (Routing.Table.mem_add hc).imp_right fun hc => ?_
        rw [hc]
        exact hvouched
      | failed contact => exact .inl (Routing.Table.mem_fail hc)
    · exact .inr hc

lemma Grounded.tickTask (hg : h.Grounded V sent) (transport : Transport) (t : Task)
    (ht : ∀ f ∈ t.lookup.flights, f.Awaits V h.multiplexer) :
    h.Moves V sent (h.tickTask transport t) := by
  obtain ⟨hquiet, hawaits, hverdicts⟩ :=
    t.lookup.tick_facts hg.multiplexer (h.site transport) ht
  have hm : h.Moves V sent { h with
      multiplexer := (t.lookup.tick (h.site transport) h.multiplexer).2.1
      table := (t.lookup.tick (h.site transport) h.multiplexer).2.2.foldl settleVerdict h.table } :=
    hg.move hquiet (fun _ hc => mem_settleVerdicts hverdicts hc) (fun _ hp => .inl hp)
      fun _ ht => .inl ht
  exact hm.trans (hm.grounded.keep _ hawaits)

/-- When lookups go on, none of them is kept at first. -/
lemma Grounded.clear (hg : h.Grounded V sent) : h.Moves V sent { h with tasks := [] } :=
  hg.move (.refl hg.multiplexer.sound) (fun _ hc => .inl hc) (fun _ hp => .inl hp)
    fun _ ht => absurd ht List.not_mem_nil

/-- When the lookups go on, what holds of a host and of the lookups that were not looked at yet holds in
the end, if it goes on holding whenever the next one is looked at. -/
lemma tickTasks_induct {P : List Task → Host σ → Prop} (transport : Transport)
    (start : P h.tasks { h with tasks := [] })
    (step : ∀ t ts h, P (t :: ts) h → P ts (h.tickTask transport t)) :
    P [] (h.tickTasks transport) := by
  have hfold (ts : List Task) {h : Host σ} (hP : P ts h) :
      P [] (ts.foldl (fun h t => h.tickTask transport t) h) := by
    induction ts generalizing h with
    | nil => exact hP
    | cons t ts ih => exact ih (step t ts h hP)
  exact hfold h.tasks start

lemma Grounded.tickTasks (hg : h.Grounded V sent) (transport : Transport) :
    h.Moves V sent (h.tickTasks transport) := by
  refine (tickTasks_induct transport (P := fun ts h' => h.Moves V sent h' ∧
    ∀ t ∈ ts, ∀ f ∈ t.lookup.flights, f.Awaits V h'.multiplexer) ⟨hg.clear, hg.tasks⟩ ?_).1
  rintro t ts h' ⟨hm, hts⟩
  have htick := hm.grounded.tickTask transport t (hts t List.mem_cons_self)
  exact ⟨hm.trans htick, fun u hu f hf => (hts u (List.mem_cons_of_mem t hu) f hf).quiet htick.quiet⟩

lemma Grounded.tickBootstrap [Server σ] (hg : h.Grounded V sent) (transport : Transport) :
    h.Moves V sent (h.tickBootstrap transport) := by
  unfold Host.tickBootstrap
  split
  · split
    · exact hg.move_rfl rfl rfl rfl rfl
    · have hstart := hg.openChannel.grounded.start transport (.findNode h.openChannel.2.id)
        (h.openChannel.2.table.closest (Lookup.Goal.findNode h.openChannel.2.id).target
          h.openChannel.2.k) h.openChannel.1
      exact (hg.openChannel.trans hstart).trans (hstart.grounded.move_rfl rfl rfl rfl rfl)
  · split
    · exact hg.move_rfl rfl rfl rfl rfl
    · exact hg.move_rfl rfl rfl rfl rfl
  · exact hg.move_rfl rfl rfl rfl rfl

lemma Grounded.expire (hg : h.Grounded V sent) (now : Nat) : h.Moves V sent (h.expire now) :=
  hg.move (hg.multiplexer.sound.quiet_expire now) (fun _ hc => .inl hc) (fun _ hp => .inl hp)
    fun _ ht => .inl ht

/-- Going on at an instant takes in no datagram. -/
lemma Grounded.advance [Server σ] (hg : h.Grounded V sent) (transport : Transport) (now : Nat) :
    h.Moves V sent (h.advance transport now) := by
  have hprobes := (hg.expire now).trans (hg.expire now).grounded.tickProbes
  have htasks := hprobes.trans (hprobes.grounded.tickTasks transport)
  exact htasks.trans (htasks.grounded.tickBootstrap transport)

lemma Grounded.take (hg : h.Grounded V sent) (channel : Channel) :
    h.Moves V sent (h.take channel).2 :=
  hg.move_rfl rfl rfl rfl rfl

lemma Grounded.stop (hg : h.Grounded V sent) : h.Moves V sent h.stop :=
  hg.move hg.multiplexer.sound.quiet_stop (fun _ hc => .inl hc) (fun _ hp => .inl hp)
    fun _ ht => .inl ht

end Kademlia.Host
