import Kademlia.Proofs.Host.Streams
import Kademlia.Proofs.Lookup.Fetching

/-!
# How the lookups of a host end

A host keeps a lookup until it is done, and so until its last request has landed. By then it has
delivered one last report on the channel of the lookup and nothing after it, and its routing table was
told once of each request how it fared.
-/

namespace Kademlia.Host

open Wire Exchange Service

variable {σ : Type} {h : Host σ}

/-! ### Lookups that are kept -/

/-- No lookup under way is done. -/
def Busy (h : Host σ) : Prop :=
  ∀ t ∈ h.tasks, t.lookup.isDone = false

lemma Busy.keep (hb : h.Busy) (t : Task) : (h.keep t).Busy := by
  intro u hu
  cases hdone : t.lookup.isDone with
  | true => exact hb u (by simpa [Host.keep, hdone] using hu)
  | false =>
    simp only [Host.keep, hdone, Bool.false_eq_true, if_false] at hu
    rcases List.mem_append.1 hu with hu | hu
    · exact hb u hu
    · obtain rfl := List.mem_singleton.1 hu
      exact hdone

/-- Whatever was under way, the lookups that are kept when they go on are not done. -/
lemma busy_tickTasks (h : Host σ) (transport : Transport) : (h.tickTasks transport).Busy := by
  apply List.foldlRecOn (motive := fun h : Host σ => h.Busy)
  · exact fun _ ht => absurd ht List.not_mem_nil
  · exact fun h hb t _ => Busy.keep (h := { h with multiplexer := _, table := _ }) hb _

section Server

variable [Server σ]

lemma Busy.start (hb : h.Busy) (transport : Transport) (goal : Lookup.Goal) (seeds : List Contact)
    (channel : Channel) : (h.start transport goal seeds channel).Busy := by
  rw [start_eq]
  refine Busy.keep ?_ _
  have hknown : (h.known goal).2.tasks = h.tasks := by
    cases goal <;> rfl
  dsimp only [Busy]
  split <;> exact fun t ht => hb t (hknown ▸ ht)

lemma Busy.tickBootstrap (hb : h.Busy) (transport : Transport) : (h.tickBootstrap transport).Busy := by
  unfold Host.tickBootstrap
  split
  · split
    · exact hb
    · exact Busy.start (h := h.openChannel.2) hb transport _ _ _
  · split <;> exact hb
  · exact hb

end Server

/-! ### The routing table -/

section Table

variable [Server σ]

lemma table_tickBootstrap (h : Host σ) (transport : Transport) :
    (h.tickBootstrap transport).table = h.table := by
  have hstart (h : Host σ) (goal : Lookup.Goal) (seeds : List Contact) (channel : Channel) :
      (h.start transport goal seeds channel).table = h.table := by
    rw [start_eq, snd_known]
    dsimp only [Host.keep]
    split <;> rfl
  unfold Host.tickBootstrap
  split
  · split
    · rfl
    · exact hstart h.openChannel.2 (.findNode h.id) (h.table.closest h.id h.k) h.nextChannel
  · split <;> rfl
  · rfl

/-- When a host goes on, its routing table is told how the pings fared that are over, and then, once
for each, how the requests of lookups fared that landed. -/
lemma table_advance (h : Host σ) (transport : Transport) (now : Nat) :
    let ticked := (h.expire now).tickProbes
    (h.advance transport now).table =
      ((settled transport ticked.tasks { ticked with tasks := [] }).map (·.2)).foldl settleVerdict
        ticked.table :=
  (table_tickBootstrap _ transport).trans (table_tickTasks _ transport)

end Table

namespace Life

variable [Server σ] {l : Life σ}

lemma busy_perform (hb : l.host.Busy) (op : Operation) : (l.perform op).host.Busy := by
  cases op with
  | receive transport serverClock d => exact hb
  | advance transport now => exact (busy_tickTasks _ transport).tickBootstrap transport
  | ping transport address => exact hb
  | find transport goal seeds =>
    cases seeds with
    | some seeds => exact Busy.start (h := l.host.openChannel.2) hb transport goal seeds _
    | none => exact Busy.start (h := l.host.openChannel.2) hb transport goal _ _
  | take channel => exact hb
  | flush => exact hb
  | stop => exact hb

lemma busy_after (hb : l.host.Busy) (ops : List Operation) : (l.after ops).host.Busy :=
  List.foldlRecOn (motive := fun l : Life σ => l.host.Busy) ops perform hb
    fun _ hb op _ => busy_perform hb op

omit [Server σ] in
lemma busy_start (settings : Settings) (server : σ) (entropy : Entropy) (transport : Transport) :
    (start settings server entropy transport).host.Busy := by
  apply List.foldlRecOn (motive := fun h : Host σ => h.Busy)
  · exact fun _ ht => absurd ht List.not_mem_nil
  · exact fun _ hb _ _ => hb

/-- Only a lookup that fetches values reports anything before the end. -/
lemma length_reports_of_reported {v : Lookup.Verb} (hv : ∀ seen, v ≠ .getValue seen) {ended : Bool}
    {reports : List Lookup.Report} (h : Lookup.Reported v ended reports) :
    reports.length = if ended then 1 else 0 := by
  rcases h.contacts hv with ⟨rfl, rfl⟩ | ⟨rfl, contacts, rfl⟩ <;> rfl

/-- A goal other than fetching values is met by a lookup whose only report is the last one. -/
lemma length_reports {goal : Lookup.Goal} (hgoal : ∀ key termination, goal ≠ .getValue key termination)
    {ended : Bool} {reports : List Lookup.Report}
    (h : Lookup.Reported (goal.verb (l.host.known goal).1) ended reports) :
    (l.host.known goal).1 = [] ∧ reports.length = if ended then 1 else 0 :=
  ⟨l.host.known_eq_nil hgoal, length_reports_of_reported (Lookup.Goal.verb_ne hgoal _) h⟩

/-- What was known, what a lookup reported since, and whether it is kept. -/
lemma exists_rests (hb : l.host.Busy) (hunused : l.host.Unused l.host.nextChannel)
    (transport : Transport) (goal : Lookup.Goal) (seeds : Option (List Contact))
    (ops : List Operation) :
    let known := (l.host.known goal).1
    let begun := l.perform (.find transport goal seeds)
    let lookup := Lookup.new (goal.verb known)
      (.new goal.target l.host.id (goal.termination l.host.redundancy) l.host.k l.host.concurrency)
    ∃ l' log, Lookup.Rests lookup (seeds.getD (l.host.table.closest goal.target l.host.k)) log l' ∧
      begun.heard l.host.nextChannel ops =
        (if known.isEmpty then [] else [.report (.values known)]) ++ l'.reports.map .report ∧
      ((∀ key termination, goal ≠ .getValue key termination) →
        (begun.heard l.host.nextChannel ops).length = if l'.state.finished then 1 else 0) ∧
      begun.noted l.host.nextChannel ops = log.map (Lookup.Landing.verdict lookup.verb) ∧
      ((begun.after ops).host.working l.host.nextChannel = [l'.relieved] ∧ l'.isDone = false ∨
        (begun.after ops).host.working l.host.nextChannel = [] ∧ l'.isDone = true) := by
  intro known begun lookup
  obtain ⟨hspared, hfollows⟩ := follows_find hunused transport goal seeds
  have hgiven : l.host.nextChannel < begun.host.nextChannel := by
    rw [show begun.host.nextChannel = _ from l.host.nextChannel_find transport goal seeds]
    exact Nat.lt_succ_self _
  obtain ⟨l', log, hrests, hitems, htold, hl'⟩ :=
    follows_heard (l := begun) [] hspared hgiven hfollows ops
  refine ⟨l', log, hrests, hitems, fun hgoal => ?_, htold,
    hl'.imp_left fun hworking => ⟨hworking, ?_⟩⟩
  · have hreported := (Lookup.Passes.reported rfl (hrests l.host.multiplexer)).2
    obtain ⟨hnone, hlength⟩ := length_reports hgoal hreported
    rw [← List.nil_append (begun.heard _ ops), hitems, List.length_append, List.length_map, hlength]
    simp [hnone]
  have hmem : l'.relieved ∈ (begun.after ops).host.working l.host.nextChannel :=
    hworking ▸ List.mem_singleton_self _
  obtain ⟨t, ht, heq⟩ := List.mem_map.1 hmem
  have hbusy := busy_after (busy_perform hb (.find transport goal seeds)) ops
  have hdone := hbusy t (List.mem_filter.1 ht).1
  rwa [heq] at hdone

/-- A lookup ends once and stays ended. In every sweep of every run it has reported batches of new
values, if it fetches any, and then, if it has ended, one last report. The requests that landed and
those under way are those that it asked for. Once it has ended, whatever comes, it stays as it is and
sends nothing, but for its requests under way, which land once each. It is done when it has ended and
as many requests landed as it asked for, and each tick says once of the requests that land how they
fared. A host keeps a lookup exactly until it is done: it delivers its reports in their order, one at
most if the lookup fetches no values, and tells its routing table once of every request that landed
how it fared. -/
theorem lookups_end_once :
    (∀ (verb : Lookup.Verb) (target self : Id) (termination : Lookup.Termination)
      (k concurrency : Nat) (seeds : List Contact),
      let lookup := Lookup.new verb (.new target self termination k concurrency)
      (∀ log s, Lookup.Passes lookup seeds log s →
        Lookup.Reported verb s.lookup.state.finished s.lookup.reports ∧
        (∃ flights, List.Forall₂ Lookup.Flight.Makes flights s.lookup.asked ∧
          (Lookup.made log (s.kept ++ s.rest)).Perm flights) ∧
        (s.lookup.state.finished = true → ∀ more s', s.Onward more s' →
          s'.lookup = { s.lookup with flights := s'.lookup.flights } ∧
          (Lookup.made more (s'.kept ++ s'.rest)).Perm (s.kept ++ s.rest) ∧
          ∀ site, ∃ delivered, (s'.run site).multiplexer = { s'.multiplexer with delivered })) ∧
      ∀ log l', Lookup.Rests lookup seeds log l' →
        (l'.isDone = true ↔ l'.state.finished = true ∧ log.length = l'.asked.length) ∧
        ∀ site m, ∃ more, Lookup.Rests lookup seeds (log ++ more) (l'.tick site m).1 ∧
          (l'.tick site m).2.2 = more.map (Lookup.Landing.verdict verb)) ∧
    ∀ (settings : Settings) (server : σ) (entropy : Entropy) (transport transport' : Transport)
      (before : List Operation) (goal : Lookup.Goal) (seeds : Option (List Contact)),
      let l := (start settings server entropy transport).after before
      let channel := (l.host.find transport' goal seeds).1
      let begun := l.perform (.find transport' goal seeds)
      let known := (l.host.known goal).1
      let lookup := Lookup.new (goal.verb known)
        (.new goal.target l.host.id (goal.termination l.host.redundancy) l.host.k l.host.concurrency)
      ∀ ops, ∃ l' log,
        Lookup.Rests lookup (seeds.getD (l.host.table.closest goal.target l.host.k)) log l' ∧
        begun.heard channel ops =
          (if known.isEmpty then [] else [.report (.values known)]) ++ l'.reports.map .report ∧
        ((∀ key termination, goal ≠ .getValue key termination) →
          (begun.heard channel ops).length = if l'.state.finished then 1 else 0) ∧
        begun.noted channel ops = log.map (Lookup.Landing.verdict lookup.verb) ∧
        ((begun.after ops).host.working channel = [l'.relieved] ∧ l'.isDone = false ∨
          (begun.after ops).host.working channel = [] ∧ l'.isDone = true) ∧
        ∀ transport now,
          let ticked := ((begun.after ops).host.expire now).tickProbes
          ((begun.after ops).host.advance transport now).table =
            ((settled transport ticked.tasks { ticked with tasks := [] }).map (·.2)).foldl
              settleVerdict ticked.table := by
  refine ⟨fun verb target self termination k concurrency seeds => ⟨fun log s hs => ?_, ?_⟩, ?_⟩
  · refine ⟨(hs.reported rfl).2, hs.exists_made, fun hended more s' honward => ?_⟩
    obtain ⟨hsame, hperm⟩ := honward.of_finished hended
    refine ⟨hsame, hperm, fun site => Lookup.run_of_finished ?_ site⟩
    rw [hsame]
    exact hended
  · intro log l' hl'
    exact ⟨hl'.isDone_iff, fun site m => hl'.tick_verdicts site m⟩
  · intro settings server entropy transport transport' before goal seeds l channel begun known lookup ops
    have hchannel : channel = l.host.nextChannel := by cases seeds <;> rfl
    have hbusy := busy_after (busy_start settings server entropy transport) before
    have hunused : l.host.Unused l.host.nextChannel :=
      unused_after (fun c _ => unused_start settings server entropy transport c) before _ le_rfl
    obtain ⟨l', log, hrests, hheard, hlength, hnoted, hkept⟩ :=
      exists_rests hbusy hunused transport' goal seeds ops
    rw [hchannel]
    exact ⟨l', log, hrests, hheard, hlength, hnoted, hkept, fun transport now =>
      table_advance _ transport now⟩

namespace Latecomer

open Lookup.Overshoot (holder service)

def settings : Settings :=
  { id := (holder 9 0).id, address := (holder 9 0).address }

def transport : Transport := fun _ => none

def entropy : Entropy := ⟨fun n => n, 0⟩

/-- A node without values, which is asked for two of them. -/
def life : Life ValueService :=
  start settings (service (holder 0 0).id []) entropy transport

def holders : Option (List Contact) :=
  some [holder 1 1, holder 2 5]

def begun : Life ValueService :=
  life.perform (.find transport (.getValue (holder 0 0).id (.ofCount 2)) holders)

def giving (transaction b : UInt8) (values : List Bytes) : Operation :=
  let payload : Bencode.Dict := .ofEntries [(Key.id, .bytes (holder b 0).id.bytes),
    (Key.values, .list (values.map .bytes))]
  let response : Message := ⟨[0, 0, 0, transaction], none, .response payload⟩
  .receive transport 0 ⟨(holder b 0).address, response.encode⟩

/-- Node 1 gives more than it announced, which is enough. -/
def enough : List Operation :=
  [giving 0 1 [[2], [3]], .advance transport 1]

/-- Node 2 answers all the same. -/
def late : List Operation :=
  [giving 1 2 [[4]], .advance transport 2]

/-- The lookup has ended, with the request to node 2 under way. -/
def ended : Life ValueService :=
  begun.after enough

/-- Nothing is under way any more. -/
def landed : Life ValueService :=
  ended.after late

lemma channel_find : (life.host.find transport (.getValue (holder 0 0).id (.ofCount 2)) holders).1 = 0 :=
  rfl

lemma known_find : (life.host.known (.getValue (holder 0 0).id (.ofCount 2))).1 = [] := by cbv

lemma heard_enough :
    begun.heard 0 enough = [.report (.values [[2], [3]]), .report (.values [])] := by cbv

lemma isOpen_ended : ended.host.isOpen 0 = true := by cbv

lemma heard_late :
    begun.heard 0 (enough ++ late) = [.report (.values [[2], [3]]), .report (.values [])] := by cbv

lemma noted_late :
    begun.noted 0 (enough ++ late) = [.answered (holder 1 1), .answered (holder 2 5)] := by cbv

lemma isOpen_landed : landed.host.isOpen 0 = false := by cbv

end Latecomer

open Lookup.Overshoot (holder) in
/-- A fetch ends with the values of the first node. The answer of the second one brings no value any
more, but the host waits for it and notes it. -/
theorem lookups_end_once_latecomer :
    Latecomer.begun.heard 0 Latecomer.enough = [.report (.values [[2], [3]]), .report (.values [])] ∧
      (Latecomer.begun.after Latecomer.enough).host.isOpen 0 = true ∧
      ∃ (l' : Lookup) (log : List Lookup.Landing),
        Latecomer.begun.heard 0 (Latecomer.enough ++ Latecomer.late) =
          l'.reports.map .report ∧
        l'.reports = [.values [[2], [3]], .values []] ∧ l'.isDone = true ∧
        log.map (Lookup.Landing.verdict (.getValue [])) =
          [.answered (holder 1 1), .answered (holder 2 5)] := by
  have hidle : (Latecomer.begun.after (Latecomer.enough ++ Latecomer.late)).host.working 0 = [] := by
    rw [after_append]
    exact working_of_closed Latecomer.isOpen_landed
  refine ⟨Latecomer.heard_enough, Latecomer.isOpen_ended, ?_⟩
  have hends := lookups_end_once.2 Latecomer.settings
    (Lookup.Overshoot.service (holder 0 0).id []) Latecomer.entropy Latecomer.transport
    Latecomer.transport [] (.getValue (holder 0 0).id (.ofCount 2)) Latecomer.holders
    (Latecomer.enough ++ Latecomer.late)
  rw [after, List.foldl_nil, ← Latecomer.life, Latecomer.channel_find, Latecomer.known_find,
    ← Latecomer.begun] at hends
  obtain ⟨l', log, -, hreports, -, hverdicts, hkept, -⟩ := hends
  refine ⟨l', log, hreports, ?_, ?_, hverdicts.symm.trans Latecomer.noted_late⟩
  · have hinjective : Function.Injective Item.report := fun _ _ => Item.report.inj
    exact List.map_injective_iff.2 hinjective (hreports.symm.trans Latecomer.heard_late)
  · rw [hidle] at hkept
    rcases hkept with ⟨hworking, -⟩ | ⟨-, hdone⟩
    · exact absurd hworking.symm (List.cons_ne_nil _ _)
    · exact hdone

end Life

end Kademlia.Host
