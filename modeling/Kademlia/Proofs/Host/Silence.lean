import Kademlia.Proofs.Host.Closing
import Kademlia.Proofs.Host.Deadlines

/-!
# A host to which nobody answers

When no datagram comes any more, every request is given up when its time is over. At each tick that
comes so late, a lookup takes in that all its requests failed, and goes on only if it can ask candidates
that it had not passed before. So its candidates run out, and it ends.
-/

namespace Kademlia.Host

open Wire Exchange Service

variable {σ : Type} {V : Id → Address → Prop} {sent : List Datagram} {h h' : Host σ} {t : Task}

/-! ### Requests without a response -/

/-- There is no response to take for any request of a lookup. -/
def Unanswered (h : Host σ) : Prop :=
  ∀ t ∈ h.tasks, ∀ f ∈ t.lookup.flights, h.multiplexer.Unanswered f.call.ticket

namespace Unanswered

lemma quiet (hu : h.Unanswered) (hquiet : h.multiplexer.Quiet h'.multiplexer)
    (htasks : h'.tasks = h.tasks) : h'.Unanswered :=
  fun t ht f hf => (hu t (htasks ▸ ht) f hf).quiet hquiet

lemma keep (hu : h.Unanswered)
    (ht : ∀ f ∈ t.lookup.flights, h.multiplexer.Unanswered f.call.ticket) :
    (h.keep t).Unanswered := by
  intro u hmem f hf
  rcases mem_tasks_keep hmem with hmem | ⟨rfl, -⟩
  · exact hu u hmem f hf
  · exact ht f hf

/-- A lookup that goes on takes every response there is. -/
lemma tickTask (hu : h.Unanswered) (hg : h.Grounded V sent)
    (ht : ∀ f ∈ t.lookup.flights, f.Awaits V h.multiplexer) (transport : Transport) :
    (h.tickTask transport t).Unanswered := by
  have hquiet := (t.lookup.tick_facts hg.multiplexer (h.site transport) ht).1
  have htick := Lookup.unanswered_tick hg.multiplexer (h.site transport) t.lookup
  unfold Host.tickTask
  exact keep (h := { h with multiplexer := _, table := _ }) (hu.quiet hquiet rfl) htick

end Unanswered

/-- So do all lookups. -/
lemma Grounded.unanswered_tickTasks (hg : h.Grounded V sent) (transport : Transport) :
    (h.tickTasks transport).Unanswered := by
  refine (tickTasks_induct transport (P := fun ts h' => h'.Unanswered ∧ h'.Grounded V sent ∧
    ∀ t ∈ ts, ∀ f ∈ t.lookup.flights, f.Awaits V h'.multiplexer)
    ⟨fun t ht => absurd ht List.not_mem_nil, hg.clear.grounded, hg.tasks⟩ ?_).1
  rintro t ts h' ⟨hu, hg', hts⟩
  have ht := hts t List.mem_cons_self
  have hm := hg'.tickTask transport t ht
  exact ⟨hu.tickTask hg' ht transport, hm.grounded,
    fun u hu f hf => (hts u (List.mem_cons_of_mem t hu) f hf).quiet hm.quiet⟩

section Server

variable [Server σ]

/-- No response was given for requests that are made just now. -/
lemma Unanswered.start (hu : h.Unanswered) (hg : h.Grounded V sent) (transport : Transport)
    (goal : Lookup.Goal) (seeds : List Contact) (c : Channel) :
    (h.start transport goal seeds c).Unanswered := by
  rw [start_eq, snd_known]
  dsimp only
  generalize Lookup.new (goal.verb (h.known goal).1) _ = l
  have hquiet := (l.launch_facts (V := V) hg.multiplexer (h.site transport) seeds).1
  have hissue := Lookup.unanswered_issue hg.multiplexer (h.site transport) (l.begin seeds).2
  refine Unanswered.keep ?_ hissue
  split <;> exact hu.quiet hquiet rfl

lemma Unanswered.tickBootstrap (hu : h.Unanswered) (hg : h.Grounded V sent)
    (transport : Transport) : (h.tickBootstrap transport).Unanswered := by
  unfold Host.tickBootstrap
  split
  · split
    · exact hu
    · exact Unanswered.start (h := h.openChannel.2) hu hg.openChannel.grounded transport
        (.findNode h.id) (h.table.closest h.id h.k) h.nextChannel
  · split <;> exact hu
  · exact hu

/-- When a host has gone on, it has taken all the responses there were. -/
lemma Grounded.unanswered_advance (hg : h.Grounded V sent) (transport : Transport) (now : Nat) :
    (h.advance transport now).Unanswered := by
  have hprobes := (hg.expire now).grounded.tickProbes.grounded
  exact (hprobes.unanswered_tickTasks transport).tickBootstrap (hprobes.tickTasks transport).grounded
    transport

end Server

/-! ### Candidates run out -/

/-- When all requests were given up, a lookup goes on only with fewer candidates than before. -/
lemma Grounded.openCandidates_tickTasks {m : Multiplexer} (hm : m.Grounded sent)
    (hidle : ∀ a, m.transactions a = []) (hg : h.Grounded V sent)
    (hquiet : m.Quiet h.multiplexer) {n : Nat}
    (hts : ∀ t ∈ h.tasks, (∃ termination, t.lookup.Underway termination) ∧
      (∀ f ∈ t.lookup.flights, f.call.ticket < m.nextTicket ∧ m.Unanswered f.call.ticket) ∧
      Lookup.openCandidates t.lookup.state ≤ n) (transport : Transport) :
    ∀ t ∈ (h.tickTasks transport).tasks, Lookup.openCandidates t.lookup.state < n := by
  refine (tickTasks_induct transport (P := fun ts h' =>
    (∀ t ∈ h'.tasks, Lookup.openCandidates t.lookup.state < n) ∧ h.Moves V sent h' ∧
      ∀ t ∈ ts, t ∈ h.tasks ∧ ∀ f ∈ t.lookup.flights, f.Awaits V h'.multiplexer)
    ⟨fun t ht => absurd ht List.not_mem_nil, hg.clear, fun t ht => ⟨ht, hg.tasks t ht⟩⟩ ?_).1
  rintro t ts h' ⟨hless, hmoves, hleft⟩
  obtain ⟨ht, hawaits⟩ := hleft t List.mem_cons_self
  have htick := hmoves.grounded.tickTask transport t hawaits
  refine ⟨fun u hu => ?_, hmoves.trans htick, fun u hu => ?_⟩
  · rcases mem_tasks_keep hu with hu | ⟨rfl, hgoing⟩
    · exact hless u hu
    · obtain ⟨⟨termination, hunderway⟩, hflights, hn⟩ := hts t ht
      have hsome := (hunderway.tick (h'.site transport) h'.multiplexer).flights_ne_nil hgoing
      exact (Lookup.openCandidates_tick hm hidle (hquiet.trans hmoves.quiet) hflights
        (h'.site transport) hsome).trans_le hn
  · obtain ⟨hmem, hawaits⟩ := hleft u (List.mem_cons_of_mem t hu)
    exact ⟨hmem, fun f hf => (hawaits f hf).quiet htick.quiet⟩

/-- When a host goes on after the time of all its requests, and has no response to take, each lookup
that goes on has fewer candidates left than before. -/
lemma Grounded.openCandidates_advance [Server σ] (hg : h.Grounded V sent) {timeout limit now n : Nat}
    (hp : h.Prompt timeout limit) (hnow : limit ≤ now) (hu : h.Unanswered)
    {earlier : Channel → List Item} (ha : h.Attended earlier) (hdone : h.bootstrap = .done)
    (hn : ∀ t ∈ h.tasks, Lookup.openCandidates t.lookup.state ≤ n) (transport : Transport) :
    ∀ t ∈ (h.advance transport now).tasks, Lookup.openCandidates t.lookup.state < n := by
  have hexpire := hg.expire now
  have hprobes := hexpire.grounded.tickProbes
  rw [advance_of_done hdone]
  refine hprobes.grounded.openCandidates_tickTasks hexpire.grounded.multiplexer
    (hp.multiplexer.transactions_expire hnow) hprobes.quiet (fun t ht => ?_) transport
  rw [(extends_tickProbes h now).2] at ht
  obtain ⟨termination, hunderway, -⟩ := (ha t ht).underway
  exact ⟨⟨termination, hunderway⟩, fun f hf => ⟨(hg.tasks t ht f hf).promised.issued,
    (hu t ht f hf).quiet hexpire.quiet⟩, hn t ht⟩

/-! ### Lives -/

/-- Does no datagram arrive, and does nothing new start? -/
def Operation.isSilent : Operation → Bool
  | .receive .. | .ping .. | .find .. => false
  | .advance .. | .take _ | .flush | .stop => true

/-- Has a host gone on since the last datagram arrived, if it had before? -/
def Operation.settles (settled : Bool) : Operation → Bool
  | .receive .. => false
  | .advance .. => true
  | _ => settled

namespace Life

variable [Server σ] {l : Life σ}

/-- Did a host take in all datagrams that arrived, and go on? Otherwise it is in the middle of a
tick. -/
def betweenTicks (ops : List Operation) : Bool :=
  ops.foldl Operation.settles true

lemma unanswered_perform (hg : l.host.Grounded V l.sent) {op : Operation} {settled : Bool}
    (hu : settled = true → l.host.Unanswered) (hop : op.settles settled = true) :
    (l.perform op).host.Unanswered := by
  cases op with
  | receive transport serverClock d => exact absurd hop (by simp [Operation.settles])
  | advance transport now => exact hg.unanswered_advance transport now
  | ping transport address => exact (hu hop).quiet (hg.ping transport address).quiet rfl
  | find transport goal seeds =>
    cases seeds with
    | some seeds =>
      exact Unanswered.start (h := l.host.openChannel.2) (hu hop) hg.openChannel.grounded transport
        goal seeds _
    | none =>
      exact Unanswered.start (h := l.host.openChannel.2) (hu hop) hg.openChannel.grounded transport
        goal _ _
  | take channel => exact hu hop
  | flush => exact hu hop
  | stop => exact (hu hop).quiet hg.stop.quiet rfl

/-- Between ticks no request of a lookup has a response that waits to be taken. -/
lemma unanswered_after (hg : l.host.Grounded (fun _ _ => True) l.sent) {settled : Bool}
    (hu : settled = true → l.host.Unanswered) {ops : List Operation}
    (hops : ops.foldl Operation.settles settled = true) : (l.after ops).host.Unanswered := by
  induction ops generalizing l settled with
  | nil => exact hu hops
  | cons op ops ih =>
    exact ih (grounded_perform hg op fun _ _ _ _ _ _ _ _ => trivial)
      (fun hop => unanswered_perform hg hu hop) hops

/-- In silence, with ticks far enough apart, each tick takes a candidate from every lookup. -/
lemma openCandidates_after {timeout time n : Nat} {earlier : Channel → List Item}
    (hg : l.host.Grounded (fun _ _ => True) l.sent) (hp : l.host.Prompt timeout (time + timeout))
    (hu : l.host.Unanswered) (ha : l.host.Attended earlier)
    (hunused : ∀ c, l.host.nextChannel ≤ c → l.host.Unused c) (hdone : l.host.bootstrap = .done)
    {later : List Operation} (hsilent : ∀ op ∈ later, op.isSilent = true)
    (hspaced : (time :: instants later).IsChain fun i j => i + timeout ≤ j)
    (hn : ∀ t ∈ l.host.tasks, Lookup.openCandidates t.lookup.state < n + (instants later).length) :
    ∀ t ∈ (l.after later).host.tasks, Lookup.openCandidates t.lookup.state < n := by
  induction later generalizing l time earlier with
  | nil => exact hn
  | cons op later ih =>
    have hsilentop := hsilent op List.mem_cons_self
    have hu' : (l.perform op).host.Unanswered :=
      unanswered_perform hg (fun _ : true = true => hu)
        (by cases op <;> simp_all [Operation.isSilent, Operation.settles])
    have hp' := prompt_perform hp op
    have hrest {time' : Nat} (hp' : (l.perform op).host.Prompt timeout (time' + timeout)) :=
      ih (grounded_perform hg op fun _ _ _ _ _ _ _ _ => trivial) hp' hu'
        (attended_perform ha (hunused _ le_rfl) op) (unused_after hunused [op])
        (pursued_perform ha (hunused _ le_rfl) hdone op).1
        fun op hop => hsilent op (List.mem_cons_of_mem _ hop)
    cases op with
    | receive transport serverClock d => simp [Operation.isSilent] at hsilentop
    | ping transport address => simp [Operation.isSilent] at hsilentop
    | find transport goal seeds => simp [Operation.isSilent] at hsilentop
    | advance transport now =>
      obtain ⟨hnow, hspaced⟩ := List.isChain_cons_cons.1 hspaced
      rw [show (instants [.advance transport now]).foldl max time = now from
        max_eq_right (Nat.le_of_add_right_le hnow)] at hp'
      refine hrest hp' hspaced ?_
      exact hg.openCandidates_advance hp hnow hu ha hdone
        (fun t ht => Nat.le_of_lt_succ (hn t ht)) transport
    | _ => exact hrest hp' hspaced hn

/-- Lookups end when the network falls silent. Take any host between two ticks whose bootstrap is over,
and let nothing arrive and nothing new be started. After one more tick than any of its lookups has
candidates, each tick coming a timeout or more after the one before, and the first one after all
earlier ones, no lookup is under way any more, whatever becomes of the requests sent meanwhile, and
each of them has delivered its last report. The latest instant of a tick is that of the clock unless
the clock was turned back. -/
theorem silence_ends_lookups (settings : Settings) (server : σ) (entropy : Entropy)
    (transport : Transport) (ops later : List Operation) (n : Nat)
    (hbetween : betweenTicks ops = true)
    (hdone : ((start settings server entropy transport).after ops).host.bootstrap = .done)
    (hn : ∀ t ∈ ((start settings server entropy transport).after ops).host.tasks,
      t.lookup.state.candidates.size ≤ n)
    (hsilent : ∀ op ∈ later, op.isSilent = true) (hticks : n < (instants later).length)
    (hspaced : (latest ops :: instants later).IsChain fun i j => i + settings.timeout ≤ j) :
    ((start settings server entropy transport).after (ops ++ later)).host.tasks = [] ∧
      (∀ t ∈ ((start settings server entropy transport).after ops).host.tasks,
        Closed t.lookup.verb
          ((start settings server entropy transport).heard t.channel (ops ++ later))) ∧
      ((instants ops).Pairwise (· ≤ ·) →
        latest ops = ((start settings server entropy transport).after ops).host.clock) := by
  have hg := grounded_start (V := fun _ _ => True) settings server entropy transport
  have hunused (c : Channel) (_ : (start settings server entropy transport).host.nextChannel ≤ c) :=
    unused_start settings server entropy transport c
  have hu : (start settings server entropy transport).host.Unanswered := by
    rw [Unanswered, tasks_start]
    exact fun t ht => absurd ht List.not_mem_nil
  obtain ⟨earlier, ha, -⟩ :=
    attended_after (attended_start settings server entropy transport) hunused ops
  have hended : ((start settings server entropy transport).after (ops ++ later)).host.tasks = [] := by
    rw [after_append, List.eq_nil_iff_forall_not_mem]
    intro t ht
    have hnone := openCandidates_after (n := 0)
      (grounded_after (l := start settings server entropy transport) hg ops fun _ _ _ => trivial)
      (waits_at_most_timeout settings server entropy transport ops)
      (unanswered_after (l := start settings server entropy transport) hg (fun _ => hu) hbetween) ha
      (unused_after hunused ops) hdone hsilent hspaced (fun t ht => ?_) t ht
    · exact absurd hnone (Nat.not_lt_zero _)
    · rw [Nat.zero_add]
      exact (List.countP_le_length.trans (hn t ht)).trans_lt hticks
  refine ⟨hended, fun t ht => ?_, latest_eq_clock settings server entropy transport⟩
  rcases lookups_close settings server entropy transport ops later hdone t ht with
    ⟨u, hu, -⟩ | hclosed
  · rw [hended] at hu
    exact absurd hu List.not_mem_nil
  · exact hclosed

namespace Deserted

open Acquainted (node transport entropy)

/-- One request at a time, for a second each. -/
def settings : Settings :=
  { Acquainted.settings with timeout := 1000, concurrency := 1 }

def life : Life ValueService :=
  start settings Acquainted.server entropy transport

/-- Nobody is known, so the bootstrap is over at the second tick. Then nodes 1 and 3 are to be asked for
the nodes close to node 2. -/
def asking (clock : Nat) : List Operation :=
  [.advance transport 0, .advance transport clock,
    .find transport (.findNode (node 2).id) (some [node 1, node 3])]

/-- The clock is turned back after the request was sent. -/
def turnedBack : List Operation :=
  asking 100000 ++ [.advance transport 0]

/-- Three ticks, as many as it takes for two candidates. -/
def silence : List Operation :=
  [.advance transport 1000, .advance transport 2000, .advance transport 3000]

/-- Node 3 was asked. -/
def asked : Life ValueService :=
  life.after (asking 0)

/-- The request to node 3 has expired, and node 1 was asked. -/
def halfway : Life ValueService :=
  asked.after (silence.take 1)

/-- Node 3 was asked long after the instant that the clock shows. -/
def ahead : Life ValueService :=
  life.after turnedBack

lemma bootstrap_asked : asked.host.bootstrap = .done := by cbv

lemma sizes_asked : asked.host.tasks.map (·.lookup.state.candidates.size) = [2] := by cbv

lemma channels_halfway : halfway.host.tasks.map (·.channel) = [1] := by cbv

/-- Both requests have expired in the end. -/
lemma heard_silence :
    life.heard 1 (asking 0 ++ silence) = [.report (.contacts [node 3, node 1])] := by cbv

lemma bootstrap_ahead : ahead.host.bootstrap = .done := by cbv

lemma sizes_ahead : ahead.host.tasks.map (·.lookup.state.candidates.size) = [2] := by cbv

lemma clock_ahead : ahead.host.clock = 0 := by cbv

/-- The request to node 3 has not expired yet. -/
lemma channels_silence : (ahead.after silence).host.tasks.map (·.channel) = [1] := by cbv

/-- A bound on the sizes of all lookups is one on that of each. -/
lemma size_le {l : Life ValueService} {n : Nat}
    (hsizes : l.host.tasks.map (·.lookup.state.candidates.size) = [n]) :
    ∀ t ∈ l.host.tasks, t.lookup.state.candidates.size ≤ n := by
  intro t ht
  have hmem := List.mem_map_of_mem (f := fun t : Task => t.lookup.state.candidates.size) ht
  rw [hsizes, List.mem_singleton] at hmem
  exact hmem.le

end Deserted

/-- Neither node answers. The lookup is still under way after the first tick, when it asks the second
one. Then it reports the contacts it has, and is gone. -/
theorem silence_ends_lookups_deserted :
    (Deserted.life.after (Deserted.asking 0 ++ Deserted.silence.take 1)).host.tasks.map (·.channel) =
        [1] ∧
      (Deserted.life.after (Deserted.asking 0 ++ Deserted.silence)).host.tasks = [] ∧
      Deserted.life.heard 1 (Deserted.asking 0 ++ Deserted.silence) =
        [.report (.contacts [Acquainted.node 3, Acquainted.node 1])] ∧
      ∀ t ∈ (Deserted.life.after (Deserted.asking 0)).host.tasks, Closed t.lookup.verb
        (Deserted.life.heard t.channel (Deserted.asking 0 ++ Deserted.silence)) := by
  obtain ⟨hended, hclosed, -⟩ := silence_ends_lookups Deserted.settings Acquainted.server
    Acquainted.entropy Acquainted.transport (Deserted.asking 0) Deserted.silence 2 (by decide)
    Deserted.bootstrap_asked (Deserted.size_le Deserted.sizes_asked) (by decide) (by decide) (by decide)
  refine ⟨?_, hended, Deserted.heard_silence, hclosed⟩
  rw [after_append]
  exact Deserted.channels_halfway

/-- A request that was sent before the clock was turned back outlasts ticks that are far enough apart.
So the first of them has to come after the latest instant of all ticks, not just after that of the
clock. -/
theorem turned_back_clock_outlasts_silence :
    betweenTicks Deserted.turnedBack = true ∧
      (Deserted.life.after Deserted.turnedBack).host.bootstrap = .done ∧
      (∀ t ∈ (Deserted.life.after Deserted.turnedBack).host.tasks,
        t.lookup.state.candidates.size ≤ 2) ∧
      (∀ op ∈ Deserted.silence, op.isSilent = true) ∧ 2 < (instants Deserted.silence).length ∧
      ((Deserted.life.after Deserted.turnedBack).host.clock :: instants Deserted.silence).IsChain
        (fun i j => i + Deserted.settings.timeout ≤ j) ∧
      (Deserted.life.after (Deserted.turnedBack ++ Deserted.silence)).host.tasks ≠ [] := by
  have hclock : (Deserted.life.after Deserted.turnedBack).host.clock = 0 := Deserted.clock_ahead
  rw [hclock]
  refine ⟨by decide, Deserted.bootstrap_ahead, Deserted.size_le Deserted.sizes_ahead, by decide,
    by decide, by decide, fun hnil => ?_⟩
  have hleft := Deserted.channels_silence
  rw [Deserted.ahead, ← after_append, hnil] at hleft
  exact absurd hleft (by simp)

end Life

end Kademlia.Host
