import Kademlia.Host.Tick
import Kademlia.Proofs.Lookup.FindNode
import Kademlia.Proofs.Lookup.Looks

/-!
# Taking in what is there

Lookups and pings take in their replies in the same way: all that are there, each of them once. Whoever
waits for a ping hears how it fared, and the table is offered the node if it answered.
-/

namespace Kademlia.Host

open Wire Exchange

/-- How a ping fared. -/
abbrev Outcome := Except CallError Ping.Answer

/-- What the one who waits for a ping hears. -/
def Probe.contact (p : Probe) (result : Outcome) : Except CallError Contact :=
  result.map fun a => { id := a.id, address := p.address }

/-- The node that answered a ping. -/
def answerer? (d : Probe × Outcome) : Option Contact :=
  (d.1.contact d.2).toOption

/-- The parcel for the one who waits for a ping, if anyone does. -/
def pong? (d : Probe × Outcome) : Option Parcel :=
  d.1.waiter.map fun channel => ⟨channel, .pong (d.1.contact d.2)⟩

/-- What is found for each ping, in the order in which they are looked at. -/
def looksAt (m : Multiplexer) (rest : List Probe) : List (Probe × Option Outcome) :=
  match rest with
  | [] => []
  | p :: ps =>
    match p.call.pollAs Ping.Answer m with
    | (none, m) => (p, none) :: looksAt m ps
    | (some result, m) => (p, some result) :: looksAt m (Lookup.refill ps)
termination_by rest.length

/-- The pings that are over, with how they fared. -/
def finishedProbes (looks : List (Probe × Option Outcome)) : List (Probe × Outcome) :=
  looks.filterMap fun k => k.2.map (k.1, ·)

/-- The pings that wait on. -/
def pendingProbes (looks : List (Probe × Option Outcome)) : List Probe :=
  (looks.filter (·.2.isNone)).map (·.1)

variable {σ : Type} {h : Host σ} {m : Multiplexer}

/-- A ping that is over is offered to the table if it was answered, and told to the one who waits. -/
lemma settleProbe_eq_of_outcome (h : Host σ) (p : Probe) (result : Outcome) :
    h.settleProbe p result =
      { h with
        table := (answerer? (p, result)).elim h.table fun c => (h.table.add c).2
        parcels := h.parcels ++ (pong? (p, result)).toList } := by
  unfold settleProbe pong? answerer? Probe.contact
  cases result <;> cases p.waiter <;> simp [Except.map, Except.toOption, deliver]

lemma perm_finished_pending (looks : List (Probe × Option Outcome)) :
    ((finishedProbes looks).map (·.1) ++ pendingProbes looks).Perm (looks.map (·.1)) := by
  have hprobe (k : Probe × Option Outcome) (d : Probe × Outcome)
      (hd : k.2.map (k.1, ·) = some d) : d.1 = k.1 := by
    obtain ⟨result, -, rfl⟩ := Option.map_eq_some_iff.1 hd
    rfl
  simpa only [finishedProbes, pendingProbes, Option.isNone_map] using
    Lookup.perm_filterMap_append_filter hprobe looks

lemma perm_looksAt (m : Multiplexer) (rest : List Probe) :
    ((looksAt m rest).map (·.1)).Perm rest := by
  induction m, rest using looksAt.induct with
  | case1 m => simp [looksAt]
  | case2 m p ps m' hpoll ih =>
    rw [looksAt, hpoll]
    exact ih.cons p
  | case3 m p ps result m' hpoll ih =>
    rw [looksAt, hpoll]
    exact (ih.trans (Lookup.perm_refill ps)).cons p

/-- A look at a ping does not matter to the others. -/
lemma fst_pollAs_of_ne {c d : Call} (hne : c.ticket ≠ d.ticket) {result : Option Outcome}
    {m' : Multiplexer} (hpoll : d.pollAs Ping.Answer m = (result, m')) :
    (c.pollAs Ping.Answer m').1 = (c.pollAs Ping.Answer m).1 := by
  obtain rfl : (d.poll m).2 = m' := congrArg Prod.snd hpoll
  exact congrArg (Option.map _) (Call.fst_poll_poll hne)

/-- What is found for a ping is what was there before the others were looked at. -/
lemma mem_looksAt {rest : List Probe} (hdistinct : (rest.map (·.call.ticket)).Nodup) :
    ∀ p ∈ rest, (p, (p.call.pollAs Ping.Answer m).1) ∈ looksAt m rest := by
  induction m, rest using looksAt.induct with
  | case1 m => simp
  | case2 m p ps m' hpoll ih =>
    rw [List.map_cons, List.nodup_cons] at hdistinct
    rw [looksAt, hpoll]
    refine List.forall_mem_cons.2 ⟨by rw [hpoll]; exact List.mem_cons_self, fun q hq => ?_⟩
    have hne : q.call.ticket ≠ p.call.ticket := fun heq => hdistinct.1 (heq ▸ List.mem_map_of_mem hq)
    rw [← fst_pollAs_of_ne hne hpoll]
    exact List.mem_cons_of_mem _ (ih hdistinct.2 q hq)
  | case3 m p ps result m' hpoll ih =>
    rw [List.map_cons, List.nodup_cons] at hdistinct
    rw [looksAt, hpoll]
    refine List.forall_mem_cons.2 ⟨by rw [hpoll]; exact List.mem_cons_self, fun q hq => ?_⟩
    have hne : q.call.ticket ≠ p.call.ticket := fun heq => hdistinct.1 (heq ▸ List.mem_map_of_mem hq)
    have hperm := Lookup.perm_refill ps
    rw [← fst_pollAs_of_ne hne hpoll]
    exact List.mem_cons_of_mem _
      (ih ((hperm.map _).nodup_iff.2 hdistinct.2) q (hperm.mem_iff.2 hq))

/-- Is this the same host, but for some pings that are settled? -/
structure Settles (h : Host σ) (log : List (Probe × Outcome)) (h' : Host σ) : Prop where
  /-- The table was offered those who answered. -/
  table : h'.table = (log.filterMap answerer?).foldl (fun t c => (t.add c).2) h.table
  /-- Those who wait were told. -/
  parcels : h'.parcels = h.parcels ++ log.filterMap pong?
  others : h' = { h with
    multiplexer := h'.multiplexer, probes := h'.probes, table := h'.table, parcels := h'.parcels }

lemma Settles.cons {p : Probe} {result : Outcome} {log : List (Probe × Outcome)} {h' : Host σ}
    (hs : Settles ({ h with multiplexer := m }.settleProbe p result) log h') :
    Settles h ((p, result) :: log) h' := by
  rw [settleProbe_eq_of_outcome] at hs
  refine ⟨hs.table.trans ?_, hs.parcels.trans ?_, hs.others⟩
  · rw [List.filterMap_cons]
    cases answerer? (p, result) <;> rfl
  · rw [List.filterMap_cons]
    cases pong? (p, result) <;> simp

@[simp] lemma multiplexer_settleProbe (h : Host σ) (p : Probe) (result : Outcome) :
    (h.settleProbe p result).multiplexer = h.multiplexer := by
  rw [settleProbe_eq_of_outcome]

/-- Looking at the pings in turn settles those that are over, and keeps the others. -/
lemma settles_sweepProbes (h : Host σ) (kept rest : List Probe) :
    Settles h (finishedProbes (looksAt h.multiplexer rest)) (h.sweepProbes kept rest) ∧
      (h.sweepProbes kept rest).probes = kept ++ pendingProbes (looksAt h.multiplexer rest) := by
  induction h, kept, rest using Host.sweepProbes.induct with
  | case1 h kept =>
    rw [Host.sweepProbes, looksAt]
    exact ⟨⟨rfl, (List.append_nil _).symm, rfl⟩, (List.append_nil _).symm⟩
  | case2 h kept p ps m hpoll ih =>
    rw [Host.sweepProbes, looksAt, hpoll]
    obtain ⟨⟨htable, hparcels, hothers⟩, hprobes⟩ := ih
    exact ⟨⟨htable, hparcels, hothers⟩, hprobes.trans (List.append_assoc _ _ _)⟩
  | case3 h kept p ps result m hpoll ih =>
    rw [Host.sweepProbes, looksAt, hpoll]
    rw [multiplexer_settleProbe] at ih
    exact ⟨ih.1.cons, ih.2⟩

/-- For the pings that are kept there is nothing in the end. -/
lemma unresolved_sweepProbes {kept rest : List Probe}
    (hdistinct : ((kept ++ rest).map (·.call.ticket)).Nodup)
    (hkept : ∀ p ∈ kept, (p.call.pollAs Ping.Answer h.multiplexer).1 = none) :
    ∀ p ∈ (h.sweepProbes kept rest).probes,
      (p.call.pollAs Ping.Answer (h.sweepProbes kept rest).multiplexer).1 = none := by
  induction h, kept, rest using Host.sweepProbes.induct with
  | case1 h kept =>
    rw [Host.sweepProbes]
    exact hkept
  | case2 h kept p ps m hpoll ih =>
    -- a look that finds nothing leaves the multiplexer as it is
    have hnone : (p.call.poll h.multiplexer).1 = none :=
      Option.map_eq_none_iff.1 (congrArg Prod.fst hpoll)
    obtain rfl : h.multiplexer = m :=
      (Call.snd_poll_of_none hnone).symm.trans (congrArg Prod.snd hpoll)
    rw [Host.sweepProbes, hpoll]
    refine ih (by rwa [List.append_assoc]) (List.forall_mem_append.2 ⟨hkept, ?_⟩)
    exact List.forall_mem_singleton.2 (congrArg Prod.fst hpoll)
  | case3 h kept p ps result m hpoll ih =>
    have hperm : (kept ++ p :: ps).Perm (p :: (kept ++ Lookup.refill ps)) :=
      List.perm_middle.trans (((Lookup.perm_refill ps).symm.append_left kept).cons p)
    rw [(hperm.map _).nodup_iff, List.map_cons, List.nodup_cons] at hdistinct
    rw [Host.sweepProbes, hpoll]
    refine ih hdistinct.2 fun q hq => ?_
    have hne : q.call.ticket ≠ p.call.ticket := fun heq =>
      hdistinct.1 (heq ▸ List.mem_map_of_mem (List.mem_append_left _ hq))
    rw [multiplexer_settleProbe, fst_pollAs_of_ne hne hpoll]
    exact hkept q hq

/-- The looks of a tick at the pings. -/
def probeLooks (h : Host σ) : List (Probe × Option Outcome) :=
  looksAt h.multiplexer h.probes

/-- The pings that are settled, and those that are not, are those that were under way. -/
lemma perm_tickProbes (h : Host σ) :
    ((finishedProbes h.probeLooks).map (·.1) ++ h.tickProbes.probes).Perm h.probes := by
  have hprobes : h.tickProbes.probes = pendingProbes h.probeLooks :=
    (settles_sweepProbes h [] h.probes).2
  rw [hprobes]
  exact (perm_finished_pending _).trans (perm_looksAt h.multiplexer h.probes)

/-- A tick takes the outcome of every ping that is over, once, and keeps the other pings. -/
structure TakesProbesOnce (h : Host σ) : Prop where
  /-- Every ping is looked at once. -/
  looked : (h.probeLooks.map (·.1)).Perm h.probes
  /-- It is settled or stays under way. -/
  divided : ((finishedProbes h.probeLooks).map (·.1) ++ h.tickProbes.probes).Perm h.probes
  /-- A ping that is over is settled. -/
  resolved : ∀ p ∈ h.probes, ∀ result, (p.call.pollAs Ping.Answer h.multiplexer).1 = some result →
    (p, result) ∈ finishedProbes h.probeLooks
  /-- One that is not stays. -/
  waiting : ∀ p ∈ h.probes, (p.call.pollAs Ping.Answer h.multiplexer).1 = none →
    p ∈ h.tickProbes.probes
  /-- The table and those who wait hear of what is settled, and nothing else happens to the host. -/
  settles : Settles h (finishedProbes h.probeLooks) h.tickProbes
  /-- In the end no outcome is left. -/
  unresolved : ∀ p ∈ h.tickProbes.probes,
    (p.call.pollAs Ping.Answer h.tickProbes.multiplexer).1 = none

lemma takesProbesOnce (hdistinct : (h.probes.map (·.call.ticket)).Nodup) : h.TakesProbesOnce := by
  obtain ⟨hsettles, hprobes⟩ := settles_sweepProbes h [] h.probes
  refine ⟨perm_looksAt h.multiplexer h.probes, h.perm_tickProbes, fun p hp result hresult => ?_,
    fun p hp hnone => ?_, hsettles, unresolved_sweepProbes hdistinct (by simp)⟩
  · exact List.mem_filterMap.2 ⟨_, mem_looksAt hdistinct p hp, by rw [hresult]; rfl⟩
  · show p ∈ (h.sweepProbes [] h.probes).probes
    rw [hprobes]
    exact List.mem_map_of_mem
      (List.mem_filter.2 ⟨mem_looksAt hdistinct p hp, by rw [hnone]; rfl⟩)

/-- A tick of a lookup and a look at the pings take every reply that is there, each of them once, and
leave under way exactly what waits. -/
theorem replies_taken_once {l : Lookup} {m : Multiplexer} (hl : l.Orderly m)
    (hprobes : (h.probes.map (·.call.ticket)).Nodup) (site : Lookup.Site) :
    l.TakesOnce site m ∧ h.TakesProbesOnce :=
  ⟨hl.takesOnce site, takesProbesOnce hprobes⟩

namespace Mirror

open Lookup.Pair (node holding)

/-- A contact at the address of node 9. -/
def image (b : UInt8) : Contact :=
  { node b with address := (node 9).address }

/-- The launch of a lookup by node 9 that asks two nodes at a time. Two of its three candidates are at the
own address, where no request is sent to. -/
def launched : Lookup × Multiplexer :=
  (Lookup.new .findNode (.new (node 0).id (node 9).id .exhaustive 3 2)).launch
    Lookup.Pair.site [image 1, node 2, image 3] (holding [])

def settings : Settings where
  id := (node 9).id
  address := (node 9).address
  contacts := [(node 9).address, (node 2).address]

/-- Node 9 starts with its own address and that of node 2, and is told to ping itself, too. -/
def host : Host Unit :=
  ((Host.new settings () ⟨(·), 0⟩ Lookup.Pair.site.transport).ping Lookup.Pair.site.transport
    (node 9).address).2

end Mirror

/-- The request made in place of the one that failed at once fails at once, too, and is taken in by the
same tick. -/
theorem replies_taken_once_of_rejected :
    Mirror.launched.1.Orderly Mirror.launched.2 ∧ (Mirror.host.probes.map (·.call.ticket)).Nodup ∧
      (Mirror.launched.1.TakesOnce Lookup.Pair.site Mirror.launched.2 ∧ Mirror.host.TakesProbesOnce) ∧
      Mirror.launched.1.flights.map (·.contact) = [Mirror.image 1, Lookup.Pair.node 2] ∧
      (Mirror.launched.1.newFlights Lookup.Pair.site Mirror.launched.2).map (·.contact) =
        [Mirror.image 3] ∧
      (Mirror.launched.1.tick Lookup.Pair.site Mirror.launched.2).1.flights.map (·.contact) =
        [Lookup.Pair.node 2] ∧
      Mirror.host.tickProbes.probes.map (·.address) = [(Lookup.Pair.node 2).address] ∧
      Mirror.host.tickProbes.parcels.map (·.channel) = [0] := by
  have hnumbered : (Lookup.Pair.holding []).Numbered := Multiplexer.numbered_new _ 10 1472 _
  have horderly : Mirror.launched.1.Orderly Mirror.launched.2 :=
    Lookup.orderly_launch hnumbered _ Lookup.Pair.site _
  have htickets : Mirror.host.probes.map (·.call.ticket) = [0, 1, 2] := by cbv
  have hprobes : (Mirror.host.probes.map (·.call.ticket)).Nodup := by
    rw [htickets]
    decide
  exact ⟨horderly, hprobes, replies_taken_once horderly hprobes Lookup.Pair.site,
    by cbv, by cbv, by cbv, by cbv, by cbv⟩

end Kademlia.Host
