import Kademlia.Proofs.Host.Setup
import Kademlia.Proofs.Lookup.Silence

/-!
# How long a host waits

A host sends its requests at its clock, which is the instant at which it went on last. Whatever happens
to it, it waits for no reply longer than its timeout after the latest instant at which it ever went on.
That is the instant of its clock unless the clock was turned back.
-/

namespace Kademlia.Host

open Wire Exchange Service

variable {σ : Type}

/-- A host that waits so long for each reply, and for none beyond an instant, also if it sends requests
now. -/
structure Prompt (timeout limit : Nat) (h : Host σ) : Prop where
  multiplexer : h.multiplexer.Prompt timeout limit
  clock : h.clock + timeout ≤ limit

variable {timeout limit : Nat} {h h' : Host σ}

namespace Prompt

/-- Nothing else than the multiplexer and the clock matters. -/
lemma congr (hp : h.Prompt timeout limit) (hmultiplexer : h'.multiplexer = h.multiplexer)
    (hclock : h'.clock = h.clock) : h'.Prompt timeout limit :=
  ⟨hmultiplexer ▸ hp.multiplexer, hclock ▸ hp.clock⟩

lemma probe (hp : h.Prompt timeout limit) (transport : Transport) (address : Address)
    (waiter : Option Channel) : (h.probe transport address waiter).Prompt timeout limit :=
  ⟨hp.multiplexer.call transport h.id address none .ping hp.clock, hp.clock⟩

lemma settleProbe (hp : h.Prompt timeout limit) (p : Probe)
    (result : Except CallError Ping.Answer) : (h.settleProbe p result).Prompt timeout limit := by
  obtain ⟨table, parcels, heq, -⟩ := h.settleProbe_eq p result
  exact heq ▸ hp.congr rfl rfl

lemma sweepProbes (hp : h.Prompt timeout limit) (kept rest : List Probe) :
    (h.sweepProbes kept rest).Prompt timeout limit := by
  have hlook {h : Host σ} (hp : h.Prompt timeout limit) {c : Call}
      {result : Option (Except CallError Ping.Answer)} {m : Multiplexer}
      (hpoll : c.pollAs Ping.Answer h.multiplexer = (result, m)) :
      Prompt timeout limit { h with multiplexer := m } := by
    have hm := hp.multiplexer.poll c
    rw [show (c.poll h.multiplexer).2 = m from congrArg Prod.snd hpoll] at hm
    exact ⟨hm, hp.clock⟩
  fun_induction Host.sweepProbes h kept rest with
  | case1 h kept => exact hp.congr rfl rfl
  | case2 h kept p ps multiplexer hpoll ih => exact ih (hlook hp hpoll)
  | case3 h kept p ps result multiplexer hpoll ih => exact ih ((hlook hp hpoll).settleProbe p result)

lemma tickTasks (hp : h.Prompt timeout limit) (transport : Transport) :
    (h.tickTasks transport).Prompt timeout limit := by
  apply List.foldlRecOn (motive := fun h : Host σ => h.Prompt timeout limit)
  · exact hp.congr rfl rfl
  · exact fun h hp t _ => ⟨Lookup.prompt_tick hp.multiplexer hp.clock t.lookup, hp.clock⟩

lemma expire (hp : h.Prompt timeout limit) {now : Nat} (hnow : now + timeout ≤ limit) :
    (h.expire now).Prompt timeout limit :=
  ⟨hp.multiplexer.expire now, hnow⟩

section Server

variable [Server σ]

lemma start (hp : h.Prompt timeout limit) (transport : Transport) (goal : Lookup.Goal)
    (seeds : List Contact) (channel : Channel) :
    (h.start transport goal seeds channel).Prompt timeout limit := by
  have hlaunch (l : Lookup) :
      (l.launch (h.site transport) seeds h.multiplexer).2.Prompt timeout limit :=
    Lookup.prompt_launch hp.multiplexer hp.clock l seeds
  rw [start_eq, snd_known]
  dsimp only [Host.keep]
  split <;> exact ⟨hlaunch _, hp.clock⟩

lemma find (hp : h.Prompt timeout limit) (transport : Transport) (goal : Lookup.Goal)
    (seeds : Option (List Contact)) : (h.find transport goal seeds).2.Prompt timeout limit := by
  have hopen : h.openChannel.2.Prompt timeout limit := hp.congr rfl rfl
  cases seeds with
  | some seeds => exact hopen.start ..
  | none => exact hopen.start ..

lemma tickBootstrap (hp : h.Prompt timeout limit) (transport : Transport) :
    (h.tickBootstrap transport).Prompt timeout limit := by
  unfold Host.tickBootstrap
  split
  · split
    · exact hp
    · have hopen : h.openChannel.2.Prompt timeout limit := hp.congr rfl rfl
      exact (hopen.start transport (.findNode h.id) _ h.nextChannel).congr rfl rfl
  · split <;> exact hp.congr rfl rfl
  · exact hp

lemma advance (hp : h.Prompt timeout limit) (transport : Transport) {now : Nat}
    (hnow : now + timeout ≤ limit) : (h.advance transport now).Prompt timeout limit :=
  (((hp.expire hnow).sweepProbes [] _).tickTasks transport).tickBootstrap transport

lemma receive (hp : h.Prompt timeout limit) (transport : Transport) (serverClock : Nat)
    (d : Datagram) : (h.receive transport serverClock d).Prompt timeout limit :=
  ⟨hp.multiplexer.handleDatagram transport (respond serverClock) _ (h.table, h.server), hp.clock⟩

end Server

lemma mono {limit' : Nat} (hp : h.Prompt timeout limit) (hle : limit ≤ limit') :
    h.Prompt timeout limit' :=
  ⟨hp.multiplexer.mono hle, hp.clock.trans hle⟩

end Prompt

lemma prompt_new (settings : Settings) (server : σ) (entropy : Entropy) (transport : Transport) :
    (Host.new settings server entropy transport).Prompt settings.timeout settings.timeout := by
  apply List.foldlRecOn (motive := fun h : Host σ => h.Prompt settings.timeout settings.timeout)
  · refine ⟨⟨⟨List.nodup_nil, ?_, ?_⟩, rfl, ?_⟩, (Nat.zero_add _).le⟩
    all_goals simp [Multiplexer.new, Multiplexer.transactions, Multiplexer.session, Session.new]
  · exact fun h hp address _ => hp.probe transport address none

/-! ### The clock -/

lemma clock_sweepProbes (h : Host σ) (kept rest : List Probe) :
    (h.sweepProbes kept rest).clock = h.clock := by
  fun_induction sweepProbes h kept rest with
  | case1 h kept => rfl
  | case2 h kept p ps multiplexer _ ih => exact ih
  | case3 h kept p ps result multiplexer _ ih =>
    obtain ⟨table, parcels, heq, -⟩ := settleProbe_eq { h with multiplexer } p result
    rw [ih, heq]

lemma clock_tickTasks (h : Host σ) (transport : Transport) :
    (h.tickTasks transport).clock = h.clock := by
  apply List.foldlRecOn (motive := fun h' : Host σ => h'.clock = h.clock)
  · rfl
  · exact fun _ hclock _ _ => hclock

section Server

variable [Server σ]

lemma clock_start (h : Host σ) (transport : Transport) (goal : Lookup.Goal) (seeds : List Contact)
    (channel : Channel) : (h.start transport goal seeds channel).clock = h.clock := by
  rw [start_eq, snd_known]
  dsimp only [Host.keep]
  split <;> rfl

lemma clock_find (h : Host σ) (transport : Transport) (goal : Lookup.Goal)
    (seeds : Option (List Contact)) : (h.find transport goal seeds).2.clock = h.clock := by
  cases seeds <;> exact clock_start ..

lemma clock_tickBootstrap (h : Host σ) (transport : Transport) :
    (h.tickBootstrap transport).clock = h.clock := by
  unfold Host.tickBootstrap
  split
  · split
    · rfl
    · exact clock_start h.openChannel.2 transport (.findNode h.id) (h.table.closest h.id h.k)
        h.nextChannel
  · split <;> rfl
  · rfl

lemma clock_advance (h : Host σ) (transport : Transport) (now : Nat) :
    (h.advance transport now).clock = now :=
  (clock_tickBootstrap _ transport).trans
    ((clock_tickTasks _ transport).trans (clock_sweepProbes (h.expire now) [] _))

end Server

namespace Life

variable [Server σ] {l : Life σ} {time : Nat}

/-- The instants at which a host goes on, in their order. -/
def instants (ops : List Operation) : List Nat :=
  ops.filterMap fun
    | .advance _ now => some now
    | _ => none

/-- The latest instant at which a host goes on; it starts at instant zero. -/
def latest (ops : List Operation) : Nat :=
  (instants ops).foldl max 0

lemma prompt_perform (hp : l.host.Prompt timeout (time + timeout)) (op : Operation) :
    (l.perform op).host.Prompt timeout ((instants [op]).foldl max time + timeout) := by
  cases op with
  | receive transport serverClock d => exact hp.receive transport serverClock d
  | advance transport now =>
    have hle : time + timeout ≤ max time now + timeout := Nat.add_le_add_right (le_max_left _ _) _
    exact (hp.mono hle).advance transport (Nat.add_le_add_right (le_max_right time now) timeout)
  | ping transport address =>
    have hopen : l.host.openChannel.2.Prompt timeout (time + timeout) := hp.congr rfl rfl
    exact hopen.probe transport address _
  | find transport goal seeds => exact hp.find transport goal seeds
  | take channel => exact hp.congr rfl rfl
  | flush => exact ⟨hp.multiplexer.congr rfl rfl, hp.clock⟩
  | stop => exact ⟨hp.multiplexer.stop, hp.clock⟩

lemma instants_cons (op : Operation) (ops : List Operation) :
    instants (op :: ops) = instants [op] ++ instants ops :=
  List.filterMap_append (l := [op])

lemma prompt_after (hp : l.host.Prompt timeout (time + timeout)) (ops : List Operation) :
    (l.after ops).host.Prompt timeout ((instants ops).foldl max time + timeout) := by
  induction ops generalizing l time with
  | nil => exact hp
  | cons op ops ih =>
    rw [instants_cons, List.foldl_append]
    exact ih (prompt_perform hp op)

/-- Whatever happens to a host, it waits for no reply longer than its timeout after the latest instant
at which it went on. -/
theorem waits_at_most_timeout (settings : Settings) (server : σ) (entropy : Entropy)
    (transport : Transport) (ops : List Operation) :
    ((start settings server entropy transport).after ops).host.Prompt settings.timeout
      (latest ops + settings.timeout) := by
  refine prompt_after ?_ ops
  rw [Nat.zero_add]
  exact prompt_new settings server entropy transport

/-- The clock shows the instant of the latest tick. -/
lemma clock_perform (l : Life σ) (op : Operation) :
    instants [op] = [] ∧ (l.perform op).host.clock = l.host.clock ∨
      ∃ now, instants [op] = [now] ∧ (l.perform op).host.clock = now := by
  cases op with
  | advance transport now => exact .inr ⟨now, rfl, clock_advance l.host transport now⟩
  | find transport goal seeds => exact .inl ⟨rfl, clock_find l.host transport goal seeds⟩
  | _ => exact .inl ⟨rfl, rfl⟩

/-- As long as the clock is not turned back, it shows the latest instant at which the host went on. -/
lemma foldl_max_instants (hclock : l.host.clock = time) {ops : List Operation}
    (hsorted : (time :: instants ops).Pairwise (· ≤ ·)) :
    (instants ops).foldl max time = (l.after ops).host.clock := by
  induction ops generalizing l time with
  | nil => exact hclock.symm
  | cons op ops ih =>
    rw [instants_cons] at hsorted ⊢
    rcases l.clock_perform op with ⟨hnone, hop⟩ | ⟨now, hsome, hop⟩
    · rw [hnone] at hsorted ⊢
      exact ih (hop.trans hclock) hsorted
    · rw [hsome] at hsorted ⊢
      obtain ⟨htime, hrest⟩ := List.pairwise_cons.1 hsorted
      rw [List.foldl_append, List.foldl_cons, List.foldl_nil,
        max_eq_right (htime now List.mem_cons_self)]
      exact ih hop hrest

omit [Server σ] in
lemma clock_start_eq_zero (settings : Settings) (server : σ) (entropy : Entropy)
    (transport : Transport) : (start settings server entropy transport).host.clock = 0 := by
  apply List.foldlRecOn (motive := fun h : Host σ => h.clock = 0)
  · rfl
  · exact fun _ hclock _ _ => hclock

lemma latest_eq_clock (settings : Settings) (server : σ) (entropy : Entropy) (transport : Transport)
    {ops : List Operation} (hsorted : (instants ops).Pairwise (· ≤ ·)) :
    latest ops = ((start settings server entropy transport).after ops).host.clock :=
  foldl_max_instants (clock_start_eq_zero settings server entropy transport)
    (List.pairwise_cons.2 ⟨fun now _ => Nat.zero_le now, hsorted⟩)

end Life

end Kademlia.Host
