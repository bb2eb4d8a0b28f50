import Kademlia.Proofs.Host.Channels
import Kademlia.Proofs.Lookup.Ending
import Kademlia.Proofs.Lookup.Reports

/-!
# What a channel carries

A channel is given out for one purpose only. Nothing is ever delivered on the channel of a lookup but
what was known at its start and what it reports, in the order in which it is reported, whatever else
happens to the host. What the host notes for that lookup in its routing table are the requests that
landed, each one once.
-/

namespace Kademlia.Host

open Wire Exchange Service

variable {σ : Type} {h h' : Host σ} {c : Channel}

/-! ### What is noted in the routing table -/

/-- How the requests fared that lookups take in when they go on, with the channels of the lookups. -/
def settled (transport : Transport) : List Task → Host σ → List (Channel × Lookup.Verdict)
  | [], _ => []
  | t :: ts, h =>
    ((t.lookup.tick (h.site transport) h.multiplexer).2.2.map fun v => (t.channel, v)) ++
      settled transport ts (h.tickTask transport t)

/-- How the requests fared that the lookups on a channel take in. -/
def settledOn (transport : Transport) (c : Channel) (ts : List Task) (h : Host σ) :
    List Lookup.Verdict :=
  ((settled transport ts h).filter fun v => v.1 == c).map (·.2)

lemma settledOn_cons (transport : Transport) (c : Channel) (t : Task) (ts : List Task) (h : Host σ) :
    settledOn transport c (t :: ts) h =
      (if t.channel = c then (t.lookup.tick (h.site transport) h.multiplexer).2.2 else []) ++
        settledOn transport c ts (h.tickTask transport t) := by
  rw [settledOn, settled, List.filter_append, List.map_append]
  refine congrArg (· ++ _) ?_
  by_cases ht : t.channel = c <;> simp [ht, List.filter_map, Function.comp_def]

/-- When the lookups go on, the routing table is told how each request fared that they take in. -/
lemma table_tickTasks (h : Host σ) (transport : Transport) :
    (h.tickTasks transport).table =
      ((settled transport h.tasks { h with tasks := [] }).map (·.2)).foldl settleVerdict h.table := by
  have hfold (ts : List Task) (h : Host σ) :
      (ts.foldl (fun h t => h.tickTask transport t) h).table =
        ((settled transport ts h).map (·.2)).foldl settleVerdict h.table := by
    induction ts generalizing h with
    | nil => rfl
    | cons t ts ih =>
      rw [List.foldl_cons, ih, settled, List.map_append, List.foldl_append, List.map_map]
      simp only [Function.comp_def, List.map_id']
      rfl
  exact hfold h.tasks { h with tasks := [] }

/-! ### What lookups report on a channel -/

/-- All the items delivered on a channel are some first ones and then what a lookup reports, which
is under way as the only one on the channel or is done. What was noted for the channel are the
requests of that lookup that landed. -/
def Follows (l₀ : Lookup) (seeds : List Contact) (first items : List Item)
    (told : List Lookup.Verdict) (ws : List Lookup) : Prop :=
  ∃ l log, Lookup.Rests l₀ seeds log l ∧ items = first ++ l.reports.map .report ∧
    told = log.map (Lookup.Landing.verdict l₀.verb) ∧
    (ws = [l.relieved] ∨ ws = [] ∧ l.isDone = true)

variable {l₀ : Lookup} {seeds : List Contact} {first items earlier : List Item}
  {told : List Lookup.Verdict} {ws : List Lookup}

/-- A lookup that is kept delivers what it reported since the last time. -/
lemma Follows.keep {t : Task} (ht : t.channel = c) (hidle : h.working c = [])
    {log : List Lookup.Landing} {rs : List Lookup.Report}
    (hrests : Lookup.Rests l₀ seeds log (t.lookup.after rs))
    (hitems : earlier ++ h.waiting c = first ++ rs.map .report)
    (htold : told = log.map (Lookup.Landing.verdict l₀.verb)) :
    Follows l₀ seeds first (earlier ++ (h.keep t).waiting c) told ((h.keep t).working c) := by
  refine ⟨t.lookup.after rs, log, hrests, ?_, htold, ?_⟩
  · rw [waiting_keep, if_pos ht, ← List.append_assoc, hitems, Lookup.after, List.map_append,
      List.append_assoc]
  · rw [working_keep, hidle, List.nil_append, Lookup.relieved_after, Lookup.isDone_after]
    by_cases hdone : t.lookup.isDone = true
    · exact .inr ⟨if_neg fun hgo => by simp [hdone] at hgo, hdone⟩
    · exact .inl (if_pos ⟨ht, Bool.eq_false_iff.2 hdone⟩)

/-- A lookup that goes on delivers what it reports meanwhile. -/
lemma Follows.tickTask {t : Task} (ht : t.channel = c)
    (hfollows : Follows l₀ seeds first (earlier ++ h.waiting c) told
      (t.lookup :: (ws ++ h.working c))) (transport : Transport) :
    Follows l₀ seeds first (earlier ++ (h.tickTask transport t).waiting c)
      (told ++ (t.lookup.tick (h.site transport) h.multiplexer).2.2)
      (ws ++ (h.tickTask transport t).working c) := by
  obtain ⟨l, log, hrests, hitems, htold, hl⟩ := hfollows
  obtain ⟨hlookup, rfl, hw⟩ : t.lookup = l.relieved ∧ ws = [] ∧ h.working c = [] := by
    simpa using hl
  obtain ⟨more, hrests', hmore⟩ := hrests.tick_verdicts (h.site transport) h.multiplexer
  have htick := Lookup.tick_after l.reports l.relieved (h.site transport) h.multiplexer
  rw [Lookup.after_relieved] at htick
  rw [htick, ← hlookup] at hrests' hmore
  refine Follows.keep ht hw hrests' hitems ?_
  rw [htold, List.map_append]
  exact congrArg _ hmore

/-- When the lookups go on, a channel that carries what its lookup reports goes on doing so. -/
lemma Follows.tickTasks (hs : h.Spared c)
    (hfollows : Follows l₀ seeds first (earlier ++ h.waiting c) told (h.working c))
    (transport : Transport) :
    (h.tickTasks transport).Spared c ∧
      Follows l₀ seeds first (earlier ++ (h.tickTasks transport).waiting c)
        (told ++ settledOn transport c h.tasks { h with tasks := [] })
        ((h.tickTasks transport).working c) := by
  -- the lookups that were not looked at yet come before those that were
  have hfold (ts : List Task) {h : Host σ} {told : List Lookup.Verdict} (hs : h.Spared c)
      (hfollows : Follows l₀ seeds first (earlier ++ h.waiting c) told
        ((ts.filter fun t => t.channel == c).map (·.lookup) ++ h.working c)) :
      (ts.foldl (fun h t => h.tickTask transport t) h).Spared c ∧
        Follows l₀ seeds first (earlier ++ (ts.foldl (fun h t => h.tickTask transport t) h).waiting c)
          (told ++ settledOn transport c ts h)
          ((ts.foldl (fun h t => h.tickTask transport t) h).working c) := by
    induction ts generalizing h told with
    | nil => exact ⟨hs, (List.append_nil told).symm ▸ hfollows⟩
    | cons t ts ih =>
      rw [settledOn_cons, ← List.append_assoc]
      refine ih (spared_tickTask hs transport t) ?_
      by_cases ht : t.channel = c
      · rw [List.filter_cons_of_pos (by simpa using ht)] at hfollows
        rw [if_pos ht]
        exact hfollows.tickTask ht transport
      · have htick := hs.tickTask ht transport
        rw [List.filter_cons_of_neg (by simpa using ht)] at hfollows
        rwa [if_neg ht, List.append_nil, htick.waiting, htick.working]
  refine hfold h.tasks (h := { h with tasks := [] }) ⟨hs.probes, hs.bootstrap⟩ ?_
  rw [show ({ h with tasks := [] } : Host σ).working c = [] from rfl, List.append_nil]
  exact hfollows

lemma Spares.follows (hspares : Spares c h h')
    (hfollows : Follows l₀ seeds first (earlier ++ h.waiting c) told (h.working c)) :
    Follows l₀ seeds first (earlier ++ h'.waiting c) told (h'.working c) := by
  rw [hspares.waiting, hspares.working]
  exact hfollows

/-- How the requests fared that the lookups on a channel take in when the host goes on. -/
def noted (h : Host σ) (transport : Transport) (now : Nat) (c : Channel) : List Lookup.Verdict :=
  settledOn transport c (h.expire now).tickProbes.tasks { (h.expire now).tickProbes with tasks := [] }

section Server

variable [Server σ]

/-- When the host goes on, a channel that carries what its lookup reports goes on doing so. -/
lemma Follows.advance (hs : h.Spared c)
    (hfollows : Follows l₀ seeds first (earlier ++ h.waiting c) told (h.working c))
    (transport : Transport) (now : Nat)
    (hc : (h.advance transport now).nextChannel = h.nextChannel ∨ h.nextChannel ≠ c) :
    (h.advance transport now).Spared c ∧
      Follows l₀ seeds first (earlier ++ (h.advance transport now).waiting c)
        (told ++ h.noted transport now c) ((h.advance transport now).working c) := by
  have hexpire : Spares c h (h.expire now) := hs.congr rfl rfl rfl rfl
  have hprobes := hexpire.trans hexpire.spared.tickProbes
  obtain ⟨htasks, hticked⟩ := (hprobes.follows hfollows).tickTasks hprobes.spared transport
  have hbootstrap := htasks.tickBootstrap transport (by rw [nextChannel_ticked]; exact hc)
  exact ⟨hbootstrap.spared, hbootstrap.follows hticked⟩

/-- A lookup that is started delivers what is known already, and what it reports at once. -/
lemma Follows.start (hunused : h.Unused c) (transport : Transport) (goal : Lookup.Goal)
    (seeds : List Contact) :
    (h.start transport goal seeds c).Spared c ∧
      Follows
        (.new (goal.verb (h.known goal).1)
          (.new goal.target h.id (goal.termination h.redundancy) h.k h.concurrency))
        seeds (if (h.known goal).1.isEmpty then [] else [.report (.values (h.known goal).1)])
        ((h.start transport goal seeds c).waiting c) [] ((h.start transport goal seeds c).working c) := by
  have hserved := (hunused.toSpared.known goal).unused hunused
  -- the channel once what is known was delivered on it
  have hfirst : ∀ h₁, h₁ = (if (h.known goal).1.isEmpty then (h.known goal).2
      else (h.known goal).2.deliver c (.report (.values (h.known goal).1))) →
      h₁.Spared c ∧ h₁.working c = [] ∧ h₁.waiting c =
        if (h.known goal).1.isEmpty then [] else [.report (.values (h.known goal).1)] := by
    rintro h₁ rfl
    split
    · exact ⟨hserved.toSpared, hserved.working, hserved.waiting⟩
    · refine ⟨⟨hserved.probes, hserved.bootstrap⟩, hserved.working, ?_⟩
      rw [waiting_deliver, hserved.waiting, if_pos rfl]
      rfl
  rw [start_eq]
  dsimp only
  generalize hlookup : Lookup.new (goal.verb (h.known goal).1) (.new goal.target h.id
    (goal.termination h.redundancy) h.k h.concurrency) = l₀
  have hrests := l₀.rests_launch seeds (h.site transport) h.multiplexer
  generalize l₀.launch (h.site transport) seeds h.multiplexer = launched at hrests ⊢
  generalize hdelivered : (if (h.known goal).1.isEmpty then (h.known goal).2
      else (h.known goal).2.deliver c (.report (.values (h.known goal).1))) = h₁
  obtain ⟨hspared, hworking, hdeliver⟩ := hfirst h₁ hdelivered.symm
  refine ⟨⟨hspared.probes, hspared.bootstrap⟩, ?_⟩
  have hitems : [] ++ h₁.waiting c =
      (if (h.known goal).1.isEmpty then [] else [.report (.values (h.known goal).1)]) ++
        ([] : List Lookup.Report).map .report := hdeliver.trans (List.append_nil _).symm
  exact Follows.keep (h := { h₁ with multiplexer := launched.2 }) (t := ⟨launched.1, c⟩) rfl hworking
    hrests hitems rfl

end Server

namespace Life

variable [Server σ] {l : Life σ}

/-- What is taken from a channel when something happens. -/
def taken (l : Life σ) (c : Channel) : Operation → List Item
  | .take d => if d = c then (l.host.take d).1 else []
  | _ => []

/-- What is delivered on a channel while things happen: what is taken from it, the earliest first, and
what waits on it at the end. -/
def heard (l : Life σ) (c : Channel) : List Operation → List Item
  | [] => l.host.waiting c
  | op :: ops => l.taken c op ++ (l.perform op).heard c ops

/-! ### Channels that are not given out yet -/

lemma nextChannel_perform (l : Life σ) (op : Operation) :
    (l.perform op).host.nextChannel = l.host.nextChannel ∨
      (l.perform op).host.nextChannel = l.host.nextChannel + 1 := by
  cases op with
  | receive transport serverClock d => exact .inl rfl
  | advance transport now => exact l.host.nextChannel_advance transport now
  | ping transport address => exact .inr rfl
  | find transport goal seeds => exact .inr (l.host.nextChannel_find transport goal seeds)
  | take d => exact .inl rfl
  | flush => exact .inl rfl
  | stop => exact .inl rfl

/-- Nothing happens on a channel that is neither given out, nor worked for, nor taken from. -/
lemma spares_perform (hunused : l.host.Unused c) (op : Operation)
    (hc : (l.perform op).host.nextChannel = l.host.nextChannel ∨ l.host.nextChannel ≠ c) :
    Spares c l.host (l.perform op).host := by
  have hs := hunused.toSpared
  have hnew (heq : (l.perform op).host.nextChannel = l.host.nextChannel + 1) :
      l.host.nextChannel ≠ c :=
    hc.resolve_left fun heq' => Nat.succ_ne_self _ (heq.symm.trans heq')
  cases op with
  | receive transport serverClock d => exact hs.congr rfl rfl rfl rfl
  | advance transport now => exact hs.advance hunused.working transport now hc
  | ping transport address => exact hs.ping (hnew rfl) transport address
  | find transport goal seeds =>
    exact hs.find (hnew (l.host.nextChannel_find transport goal seeds)) transport goal seeds
  | take d =>
    by_cases hd : d = c
    · subst hd
      exact hs.take_self hunused.waiting
    · exact hs.take_of_ne hd
  | flush => exact hs.congr rfl rfl rfl rfl
  | stop => exact hs.congr rfl rfl rfl rfl

/-- Whatever happened, nothing was ever done with the channels that are not given out yet. -/
lemma unused_after (hl : ∀ c, l.host.nextChannel ≤ c → l.host.Unused c) (ops : List Operation) :
    ∀ c, (l.after ops).host.nextChannel ≤ c → (l.after ops).host.Unused c := by
  induction ops generalizing l with
  | nil => exact hl
  | cons op ops ih =>
    refine ih (l := l.perform op) fun c hc => ?_
    obtain ⟨hle, hnew⟩ : l.host.nextChannel ≤ c ∧
        ((l.perform op).host.nextChannel = l.host.nextChannel ∨ l.host.nextChannel ≠ c) := by
      rcases l.nextChannel_perform op with heq | heq
      · exact ⟨heq ▸ hc, .inl heq⟩
      · rw [heq] at hc
        exact ⟨Nat.le_of_succ_le hc, .inr (Nat.ne_of_lt hc)⟩
    exact (spares_perform (hl c hle) op hnew).unused (hl c hle)

omit [Server σ] in
lemma unused_start (settings : Settings) (server : σ) (entropy : Entropy) (transport : Transport)
    (c : Channel) : (start settings server entropy transport).host.Unused c := by
  apply List.foldlRecOn (motive := fun h : Host σ => h.Unused c)
  · exact ⟨⟨by simp, by simp⟩, rfl, rfl⟩
  · intro h hunused address _
    exact (hunused.toSpared.probe transport address (by simp)).unused hunused

/-! ### The channel of a lookup -/

/-- What is noted for a channel when something happens. -/
def notes (l : Life σ) (c : Channel) : Operation → List Lookup.Verdict
  | .advance transport now => l.host.noted transport now c
  | _ => []

/-- What is noted for a channel while things happen. -/
def noted (l : Life σ) (c : Channel) : List Operation → List Lookup.Verdict
  | [] => []
  | op :: ops => l.notes c op ++ (l.perform op).noted c ops

lemma follows_perform (hs : l.host.Spared c) (hc : c < l.host.nextChannel)
    (hfollows : Follows l₀ seeds first (earlier ++ l.host.waiting c) told (l.host.working c))
    (op : Operation) :
    (l.perform op).host.Spared c ∧ Follows l₀ seeds first
      (earlier ++ l.taken c op ++ (l.perform op).host.waiting c) (told ++ l.notes c op)
      ((l.perform op).host.working c) := by
  have hnew : l.host.nextChannel ≠ c := (Nat.ne_of_lt hc).symm
  have hspared {h' : Host σ} (hspares : Spares c l.host h') :
      h'.Spared c ∧
        Follows l₀ seeds first (earlier ++ [] ++ h'.waiting c) (told ++ []) (h'.working c) := by
    rw [List.append_nil, List.append_nil]
    exact ⟨hspares.spared, hspares.follows hfollows⟩
  cases op with
  | receive transport serverClock d => exact hspared (hs.congr rfl rfl rfl rfl)
  | advance transport now =>
    simp only [taken, List.append_nil]
    exact hfollows.advance hs transport now (.inr hnew)
  | ping transport address => exact hspared (hs.ping hnew transport address)
  | find transport goal seeds => exact hspared (hs.find hnew transport goal seeds)
  | take d =>
    by_cases hd : d = c
    · subst hd
      have hempty := waiting_take l.host d
      refine ⟨⟨hs.probes, hs.bootstrap⟩, ?_⟩
      rw [taken, if_pos rfl, fst_take]
      change Follows l₀ seeds first (_ ++ (l.host.take d).2.waiting d) (told ++ []) _
      rw [hempty, List.append_nil, List.append_nil]
      exact hfollows
    · rw [taken, if_neg hd]
      exact hspared (hs.take_of_ne hd)
  | flush => exact hspared (hs.congr rfl rfl rfl rfl)
  | stop => exact hspared (hs.congr rfl rfl rfl rfl)

lemma follows_heard (earlier : List Item) (hs : l.host.Spared c)
    (hc : c < l.host.nextChannel)
    (hfollows : Follows l₀ seeds first (earlier ++ l.host.waiting c) told (l.host.working c))
    (ops : List Operation) :
    Follows l₀ seeds first (earlier ++ l.heard c ops) (told ++ l.noted c ops)
      ((l.after ops).host.working c) := by
  induction ops generalizing l earlier told with
  | nil => exact (List.append_nil told).symm ▸ hfollows
  | cons op ops ih =>
    obtain ⟨hs', hfollows'⟩ := follows_perform hs hc hfollows op
    have hc' : c < (l.perform op).host.nextChannel := by
      rcases l.nextChannel_perform op with heq | heq <;> rw [heq]
      · exact hc
      · exact Nat.lt_succ_of_lt hc
    rw [heard, noted, ← List.append_assoc, ← List.append_assoc]
    exact ih _ hs' hc' hfollows'

/-- A lookup that is started on a new channel has this channel for itself. -/
lemma follows_find (hunused : h.Unused h.nextChannel) (transport : Transport) (goal : Lookup.Goal)
    (seeds : Option (List Contact)) :
    let known := (h.known goal).1
    (h.find transport goal seeds).2.Spared h.nextChannel ∧
      Follows
        (.new (goal.verb known)
          (.new goal.target h.id (goal.termination h.redundancy) h.k h.concurrency))
        (seeds.getD (h.table.closest goal.target h.k))
        (if known.isEmpty then [] else [.report (.values known)])
        ((h.find transport goal seeds).2.waiting h.nextChannel) []
        ((h.find transport goal seeds).2.working h.nextChannel) := by
  intro known
  have hfind : (h.find transport goal seeds).2 = h.openChannel.2.start transport goal
      (seeds.getD (h.table.closest goal.target h.k)) h.nextChannel := by
    cases seeds <;> rfl
  have hknown : (h.openChannel.2.known goal).1 = known := by
    cases goal <;> rfl
  have hopen : Spares h.nextChannel h h.openChannel.2 := hunused.congr rfl rfl rfl rfl
  have hstart := Follows.start (hopen.unused hunused) transport goal
    (seeds.getD (h.table.closest goal.target h.k))
  rw [hknown] at hstart
  rw [hfind]
  exact hstart

/-! ### Items alone -/

/-- All the items delivered on a channel are some first ones and then what a lookup reports, which
is under way as the only one on the channel or is done. -/
def Carries (l₀ : Lookup) (seeds : List Contact) (first items : List Item) (ws : List Lookup) :
    Prop :=
  ∃ l log, Lookup.Rests l₀ seeds log l ∧ items = first ++ l.reports.map .report ∧
    (ws = [l.relieved] ∨ ws = [] ∧ l.isDone = true)

omit [Server σ] in
lemma carries_iff : Carries l₀ seeds first items ws ↔ ∃ told, Follows l₀ seeds first items told ws :=
  ⟨fun ⟨l, log, hrests, hitems, hl⟩ => ⟨_, l, log, hrests, hitems, rfl, hl⟩,
    fun ⟨_, l, log, hrests, hitems, _, hl⟩ => ⟨l, log, hrests, hitems, hl⟩⟩

lemma carries_heard (earlier : List Item) (hs : l.host.Spared c) (hc : c < l.host.nextChannel)
    (hcarries : Carries l₀ seeds first (earlier ++ l.host.waiting c) (l.host.working c))
    (ops : List Operation) :
    Carries l₀ seeds first (earlier ++ l.heard c ops) ((l.after ops).host.working c) := by
  obtain ⟨told, hfollows⟩ := carries_iff.1 hcarries
  exact carries_iff.2 ⟨_, follows_heard earlier hs hc hfollows ops⟩

lemma carries_find (hunused : h.Unused h.nextChannel) (transport : Transport) (goal : Lookup.Goal)
    (seeds : Option (List Contact)) :
    let known := (h.known goal).1
    (h.find transport goal seeds).2.Spared h.nextChannel ∧
      Carries
        (.new (goal.verb known)
          (.new goal.target h.id (goal.termination h.redundancy) h.k h.concurrency))
        (seeds.getD (h.table.closest goal.target h.k))
        (if known.isEmpty then [] else [.report (.values known)])
        ((h.find transport goal seeds).2.waiting h.nextChannel)
        ((h.find transport goal seeds).2.working h.nextChannel) :=
  ⟨(follows_find hunused transport goal seeds).1,
    carries_iff.2 ⟨_, (follows_find hunused transport goal seeds).2⟩⟩

end Life

end Kademlia.Host
