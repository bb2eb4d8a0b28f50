import Kademlia.Proofs.Host.Allotment
import Kademlia.Proofs.Host.Provenance

/-!
# What leaves a channel alone

What happens on a channel are the items that wait on it and the lookups that report on it. Pings, the
bootstrap and lookups on other channels leave it alone, and a new channel is none of those in use.
-/

namespace Kademlia.Host

open Wire Exchange Service

variable {σ : Type}

/-- The items that wait on a channel. -/
def waiting (h : Host σ) (c : Channel) : List Item :=
  (h.parcels.filter fun p => p.channel == c).map (·.item)

/-- The lookups under way that report on a channel. -/
def working (h : Host σ) (c : Channel) : List Lookup :=
  (h.tasks.filter fun t => t.channel == c).map (·.lookup)

lemma working_of_closed {h : Host σ} {c : Channel} (hclosed : h.isOpen c = false) :
    h.working c = [] := by
  simp only [isOpen, Bool.or_eq_false_iff, List.any_eq_false] at hclosed
  rw [working, List.filter_eq_nil_iff.2 hclosed.1, List.map_nil]

lemma isOpen_of_working {h : Host σ} {c : Channel} (hworking : h.working c ≠ []) :
    h.isOpen c = true := by
  by_contra hclosed
  exact hworking (working_of_closed (Bool.eq_false_iff.2 hclosed))

/-- No ping is waited for on the channel, and the bootstrap does not use it. -/
structure Spared (h : Host σ) (c : Channel) : Prop where
  probes : ∀ p ∈ h.probes, p.waiter ≠ some c
  bootstrap : h.bootstrap ≠ .lookup c

/-- Nothing waits on the channel and nothing is to come. -/
structure Unused (h : Host σ) (c : Channel) : Prop extends Spared h c where
  waiting : h.waiting c = []
  working : h.working c = []

/-- Nothing happens on a channel between two states of a host. -/
structure Spares (c : Channel) (h h' : Host σ) : Prop where
  waiting : h'.waiting c = h.waiting c
  working : h'.working c = h.working c
  spared : h'.Spared c

variable {h h' h'' : Host σ} {c d : Channel}

lemma Spares.trans (hs : Spares c h h') (hs' : Spares c h' h'') : Spares c h h'' :=
  ⟨hs'.waiting.trans hs.waiting, hs'.working.trans hs.working, hs'.spared⟩

lemma Spares.unused (hs : Spares c h h') (hc : h.Unused c) : h'.Unused c :=
  ⟨hs.spared, hs.waiting.trans hc.waiting, hs.working.trans hc.working⟩

namespace Spared

/-- Nothing else than parcels, tasks, pings and the bootstrap matters to a channel. -/
lemma congr (hs : h.Spared c) (parcels : h'.parcels = h.parcels) (tasks : h'.tasks = h.tasks)
    (probes : h'.probes = h.probes) (bootstrap : h'.bootstrap = h.bootstrap) : Spares c h h' := by
  refine ⟨?_, ?_, ?_, ?_⟩
  · rw [waiting, parcels, waiting]
  · rw [working, tasks, working]
  · rw [probes]
    exact hs.probes
  · rw [bootstrap]
    exact hs.bootstrap

lemma refl (hs : h.Spared c) : Spares c h h :=
  hs.congr rfl rfl rfl rfl

end Spared

/-! ### Deliveries and tasks -/

@[simp] lemma waiting_deliver (h : Host σ) (c d : Channel) (item : Item) :
    (h.deliver d item).waiting c = h.waiting c ++ if d = c then [item] else [] := by
  by_cases hd : d = c <;> simp [deliver, waiting, hd]

lemma waiting_keep (h : Host σ) (t : Task) (c : Channel) :
    (h.keep t).waiting c =
      h.waiting c ++ if t.channel = c then t.lookup.reports.map .report else [] := by
  by_cases ht : t.channel = c
  · simp [keep, waiting, ht, List.filter_map, Function.comp_def]
  · simp [keep, waiting, ht, List.filter_map, Function.comp_def]

lemma working_keep (h : Host σ) (t : Task) (c : Channel) :
    (h.keep t).working c = h.working c ++
      if t.channel = c ∧ t.lookup.isDone = false then [{ t.lookup with reports := [] }] else [] := by
  cases hdone : t.lookup.isDone
  · by_cases ht : t.channel = c <;> simp [keep, working, hdone, ht]
  · simp [keep, working, hdone]

lemma Spared.deliver (hs : h.Spared c) (hd : d ≠ c) (item : Item) :
    Spares c h (h.deliver d item) :=
  ⟨by simp [hd], rfl, hs.probes, hs.bootstrap⟩

lemma Spared.keep (hs : h.Spared c) {t : Task} (ht : t.channel ≠ c) : Spares c h (h.keep t) :=
  ⟨by simp [waiting_keep, ht], by simp [working_keep, ht], hs.probes, hs.bootstrap⟩

/-! ### Pings -/

lemma Spared.probe (hs : h.Spared c) (transport : Transport) (address : Address)
    {waiter : Option Channel} (hw : waiter ≠ some c) :
    Spares c h (h.probe transport address waiter) := by
  refine ⟨rfl, rfl, fun p hp => ?_, hs.bootstrap⟩
  rcases List.mem_append.1 hp with hp | hp
  · exact hs.probes p hp
  · rw [List.mem_singleton.1 hp]
    exact hw

lemma Spared.settleProbe (hs : h.Spared c) {p : Probe} (hp : p.waiter ≠ some c)
    (result : Except CallError Ping.Answer) : Spares c h (h.settleProbe p result) := by
  have hnote (table : Routing.Table) : Spares c h { h with table } := hs.congr rfl rfl rfl rfl
  unfold Host.settleProbe
  cases hw : p.waiter with
  | none => cases result <;> exact hs.congr rfl rfl rfl rfl
  | some d =>
    have hd : d ≠ c := fun heq => hp (hw.trans (congrArg some heq))
    cases result with
    | ok a => exact (hnote _).trans ((hnote _).spared.deliver hd _)
    | error e => exact hs.deliver hd _

lemma Spared.sweepProbes (hs : h.Spared c) (kept rest : List Probe)
    (hwaiters : ∀ p ∈ kept ++ rest, p.waiter ≠ some c) :
    Spares c h (h.sweepProbes kept rest) := by
  induction h, kept, rest using Host.sweepProbes.induct with
  | case1 h kept =>
    rw [Host.sweepProbes]
    exact ⟨rfl, rfl, fun p hp => hwaiters p (List.mem_append_left _ hp), hs.bootstrap⟩
  | case2 h kept p ps m hpoll ih =>
    rw [Host.sweepProbes, hpoll]
    have hm : Spares c h { h with multiplexer := m } := hs.congr rfl rfl rfl rfl
    exact hm.trans (ih hm.spared fun q hq => hwaiters q (by simpa using hq))
  | case3 h kept p ps result m hpoll ih =>
    rw [Host.sweepProbes, hpoll]
    have hm : Spares c h { h with multiplexer := m } := hs.congr rfl rfl rfl rfl
    have hsettle := hm.spared.settleProbe (hwaiters p (by simp)) result
    refine (hm.trans hsettle).trans (ih hsettle.spared fun q hq => hwaiters q ?_)
    rcases List.mem_append.1 hq with hq | hq
    · exact List.mem_append_left _ hq
    · exact List.mem_append_right _ (List.mem_cons_of_mem _ ((Lookup.perm_refill ps).subset hq))

lemma Spared.tickProbes (hs : h.Spared c) : Spares c h h.tickProbes :=
  hs.sweepProbes [] h.probes hs.probes

/-! ### Starting lookups -/

section Start

variable [Server σ]

/-- Only the server changes when it is asked for its values. -/
lemma snd_known (h : Host σ) (goal : Lookup.Goal) :
    (h.known goal).2 = { h with server := (h.known goal).2.server } := by
  cases goal <;> rfl

/-- Only who fetches values may know some. -/
lemma known_eq_nil (h : Host σ) {goal : Lookup.Goal}
    (hgoal : ∀ key termination, goal ≠ .getValue key termination) : (h.known goal).1 = [] := by
  cases goal with
  | getValue key termination => exact absurd rfl (hgoal key termination)
  | _ => rfl

/-- A host that starts a lookup delivers what it knows itself, and then what the lookup reports. -/
lemma start_eq (h : Host σ) (transport : Transport) (goal : Lookup.Goal) (seeds : List Contact)
    (d : Channel) :
    let known := (h.known goal).1
    let lookup := Lookup.new (goal.verb known)
      (.new goal.target h.id (goal.termination h.redundancy) h.k h.concurrency)
    let launched := lookup.launch (h.site transport) seeds h.multiplexer
    h.start transport goal seeds d =
      { (if known.isEmpty then (h.known goal).2
          else (h.known goal).2.deliver d (.report (.values known)))
        with multiplexer := launched.2 }.keep ⟨launched.1, d⟩ := by
  unfold Host.start
  dsimp only
  rw [snd_known]
  split <;> rfl

lemma Spared.known (hs : h.Spared c) (goal : Lookup.Goal) : Spares c h (h.known goal).2 := by
  rw [snd_known]
  exact hs.congr rfl rfl rfl rfl

lemma Spared.start (hs : h.Spared c) (hd : d ≠ c) (transport : Transport) (goal : Lookup.Goal)
    (seeds : List Contact) : Spares c h (h.start transport goal seeds d) := by
  rw [start_eq]
  dsimp only
  generalize Lookup.launch _ _ _ _ = launched
  have hdeliver : Spares c h (if (h.known goal).1.isEmpty then (h.known goal).2
      else (h.known goal).2.deliver d (.report (.values (h.known goal).1))) := by
    split
    · exact hs.known goal
    · exact (hs.known goal).trans ((hs.known goal).spared.deliver hd _)
  generalize (if (h.known goal).1.isEmpty then (h.known goal).2
    else (h.known goal).2.deliver d (.report (.values (h.known goal).1))) = h' at *
  have hlaunch : Spares c h' { h' with multiplexer := launched.2 } :=
    hdeliver.spared.congr rfl rfl rfl rfl
  exact (hdeliver.trans hlaunch).trans (hlaunch.spared.keep hd)

/-- A new channel is not one that is in use. -/
lemma Spared.find (hs : h.Spared c) (hc : h.nextChannel ≠ c) (transport : Transport)
    (goal : Lookup.Goal) (seeds : Option (List Contact)) :
    Spares c h (h.find transport goal seeds).2 := by
  have hopen : Spares c h h.openChannel.2 := hs.congr rfl rfl rfl rfl
  cases seeds with
  | some seeds => exact hopen.trans (hopen.spared.start hc ..)
  | none => exact hopen.trans (hopen.spared.start hc ..)

end Start

lemma Spared.ping (hs : h.Spared c) (hc : h.nextChannel ≠ c) (transport : Transport)
    (address : Address) : Spares c h (h.ping transport address).2 := by
  have hopen : Spares c h h.openChannel.2 := hs.congr rfl rfl rfl rfl
  exact hopen.trans (hopen.spared.probe transport address fun heq => hc (Option.some.inj heq))

/-! ### Taking items -/

lemma fst_take (h : Host σ) (c : Channel) : (h.take c).1 = h.waiting c := by
  simp [take, waiting, List.partition_eq_filter_filter]

lemma waiting_take (h : Host σ) (c : Channel) : (h.take c).2.waiting c = [] := by
  simp [take, waiting, List.partition_eq_filter_filter]

/-- Where nothing waits, taking it changes nothing. -/
lemma Spared.take_self (hs : h.Spared c) (hempty : h.waiting c = []) : Spares c h (h.take c).2 :=
  ⟨(h.waiting_take c).trans hempty.symm, rfl, hs.probes, hs.bootstrap⟩

lemma waiting_take_of_ne (h : Host σ) (hd : d ≠ c) : (h.take d).2.waiting c = h.waiting c := by
  simp only [take, waiting, List.partition_eq_filter_filter, List.filter_filter]
  congr 1
  refine List.filter_congr fun p _ => ?_
  by_cases hp : p.channel = c <;> simp [hp, hd.symm]

lemma Spared.take_of_ne (hs : h.Spared c) (hd : d ≠ c) : Spares c h (h.take d).2 :=
  ⟨h.waiting_take_of_ne hd, rfl, hs.probes, hs.bootstrap⟩

/-! ### Lookups under way and the bootstrap -/

/-- Other lookups do not meddle. -/
lemma Spared.tickTask (hs : h.Spared c) {t : Task} (ht : t.channel ≠ c) (transport : Transport) :
    Spares c h (h.tickTask transport t) := by
  rw [Host.tickTask]
  generalize t.lookup.tick (h.site transport) h.multiplexer = ticked
  have htick : Spares c h { h with
      multiplexer := ticked.2.1, table := ticked.2.2.foldl settleVerdict h.table } :=
    hs.congr rfl rfl rfl rfl
  exact htick.trans (htick.spared.keep ht)

lemma spared_tickTask (hs : h.Spared c) (transport : Transport) (t : Task) :
    (h.tickTask transport t).Spared c :=
  ⟨hs.probes, hs.bootstrap⟩

/-- Lookups do not meddle with a channel that is none of theirs. -/
lemma Spared.tickTasks (hs : h.Spared c) (hidle : h.working c = []) (transport : Transport) :
    Spares c h (h.tickTasks transport) := by
  refine (tickTasks_induct transport (P := fun ts h' => Spares c h h' ∧ ∀ t ∈ ts, t.channel ≠ c)
    ⟨⟨rfl, hidle.symm, hs.probes, hs.bootstrap⟩, fun t ht heq => ?_⟩ ?_).1
  · have hmem : t.lookup ∈ h.working c :=
      List.mem_map.2 ⟨t, List.mem_filter.2 ⟨ht, by simpa using heq⟩, rfl⟩
    rw [hidle] at hmem
    exact absurd hmem List.not_mem_nil
  · rintro t ts h' ⟨hs', hts⟩
    exact ⟨hs'.trans (hs'.spared.tickTask (hts t List.mem_cons_self) transport),
      fun u hu => hts u (List.mem_cons_of_mem t hu)⟩

lemma Spared.tickBootstrap [Server σ] (hs : h.Spared c) (transport : Transport)
    (hc : (h.tickBootstrap transport).nextChannel = h.nextChannel ∨ h.nextChannel ≠ c) :
    Spares c h (h.tickBootstrap transport) := by
  unfold Host.tickBootstrap at hc ⊢
  cases hb : h.bootstrap with
  | pinging =>
    simp only [hb] at hc ⊢
    split
    · exact hs.refl
    · next hnone =>
      have hnext : (h.openChannel.2.lookUp transport (.findNode h.openChannel.2.id)
          h.openChannel.1).nextChannel = h.nextChannel + 1 := nextChannel_start ..
      have hnew : h.nextChannel ≠ c := by
        rw [if_neg hnone] at hc
        exact hc.resolve_left fun heq => Nat.succ_ne_self _ (hnext.symm.trans heq)
      have hopen : Spares c h h.openChannel.2 := hs.congr rfl rfl rfl rfl
      have hstart := hopen.spared.start hnew transport (.findNode h.openChannel.2.id)
        (h.openChannel.2.table.closest (Lookup.Goal.findNode h.openChannel.2.id).target
          h.openChannel.2.k)
      have hboth := hopen.trans hstart
      refine ⟨hboth.waiting, hboth.working, hboth.spared.probes, fun heq => ?_⟩
      exact hnew (Bootstrap.lookup.inj heq)
  | lookup d =>
    have hd : d ≠ c := fun heq => hs.bootstrap (hb.trans (congrArg _ heq))
    dsimp only
    split
    · have htake := hs.take_of_ne hd
      exact ⟨htake.waiting, htake.working, htake.spared.probes, by simp⟩
    · exact hs.refl
  | done => exact hs.refl

/-- Nor does anything else that goes on when the host does, but a new channel is opened at most. -/
lemma Spared.advance [Server σ] (hs : h.Spared c) (hidle : h.working c = []) (transport : Transport)
    (now : Nat)
    (hc : (h.advance transport now).nextChannel = h.nextChannel ∨ h.nextChannel ≠ c) :
    Spares c h (h.advance transport now) := by
  have hexpire : Spares c h (h.expire now) := hs.congr rfl rfl rfl rfl
  have hprobes := hexpire.trans hexpire.spared.tickProbes
  have htasks := hprobes.trans (hprobes.spared.tickTasks (hprobes.working.trans hidle) transport)
  refine htasks.trans (htasks.spared.tickBootstrap transport ?_)
  rw [nextChannel_ticked]
  exact hc

end Kademlia.Host
