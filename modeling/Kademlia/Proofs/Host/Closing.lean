import Kademlia.Proofs.Host.Ending
import Kademlia.Proofs.Lookup.Silence

/-!
# The last report of every lookup

A lookup that a host keeps was launched, and goes on as lookups do. Whenever it has ended its last
report was delivered, and a host gives none up before that: each lookup under way either stays under
way or says its last word. The bootstrap takes a report from the channel of its own lookup, but only
one that was not kept any more.
-/

namespace Kademlia.Host

open Wire Exchange Service

variable {σ : Type}

/-- Is there the last report of such a lookup among some items? -/
def Closed (v : Lookup.Verb) (items : List Item) : Prop :=
  ∃ last, v.Closes last ∧ Item.report last ∈ items

/-- What a host attends to: a lookup that was launched, without a budget if it is that of the
bootstrap, and whose last report was delivered if it has ended. Some items were taken earlier from the
channels. -/
structure Attends (earlier : Channel → List Item) (h : Host σ) (t : Task) : Prop where
  underway : ∃ termination, t.lookup.Underway termination ∧
    (h.bootstrap = .lookup t.channel → termination.budget = none)
  closed : t.lookup.state.finished = true →
    Closed t.lookup.verb (earlier t.channel ++ h.waiting t.channel)

/-- A host that attends to all its lookups. -/
def Attended (earlier : Channel → List Item) (h : Host σ) : Prop :=
  ∀ t ∈ h.tasks, h.Attends earlier t

/-- Is a lookup of a kind under way on a channel, or was its last report delivered there? -/
def Pursued (earlier : Channel → List Item) (h : Host σ) (v : Lookup.Verb) (c : Channel) : Prop :=
  (∃ t ∈ h.tasks, t.channel = c ∧ v.Alike t.lookup.verb) ∨ Closed v (earlier c ++ h.waiting c)

/-- A host that keeps its lookups, its items and how far its bootstrap is. -/
structure Extends (h h' : Host σ) : Prop where
  tasks : h.tasks ⊆ h'.tasks
  waiting : ∀ c, h.waiting c ⊆ h'.waiting c
  bootstrap : h'.bootstrap = h.bootstrap

variable {h h' h'' : Host σ} {earlier : Channel → List Item} {v w : Lookup.Verb} {c : Channel}
  {t : Task}

/-- More items may wait. -/
lemma Closed.mono {taken items items' : List Item} (hc : Closed v (taken ++ items))
    (hsub : items ⊆ items') : Closed v (taken ++ items') := by
  obtain ⟨last, hlast, hmem⟩ := hc
  exact ⟨last, hlast, List.mem_append.2 ((List.mem_append.1 hmem).imp_right fun h => hsub h)⟩

lemma closed_iff_of_alike (halike : v.Alike w) {items : List Item} :
    Closed w items ↔ Closed v items := by
  rw [Closed, Closed, halike.closes]

lemma Pursued.of_alike (hp : h.Pursued earlier w c) (halike : v.Alike w) : h.Pursued earlier v c := by
  rcases hp with ⟨t, ht, hchannel, halike'⟩ | hclosed
  · exact .inl ⟨t, ht, hchannel, halike.trans halike'⟩
  · exact .inr ((closed_iff_of_alike halike).1 hclosed)

namespace Extends

lemma trans (hx : Extends h h') (hx' : Extends h' h'') : Extends h h'' :=
  ⟨List.Subset.trans hx.tasks hx'.tasks,
    fun c => List.Subset.trans (hx.waiting c) (hx'.waiting c), hx'.bootstrap.trans hx.bootstrap⟩

/-- Nothing else than tasks, parcels and the bootstrap matters. -/
lemma of_eq (tasks : h'.tasks = h.tasks) (parcels : h'.parcels = h.parcels)
    (bootstrap : h'.bootstrap = h.bootstrap) : Extends h h' := by
  refine ⟨tasks ▸ List.Subset.refl _, fun c => ?_, bootstrap⟩
  rw [Host.waiting, Host.waiting, parcels]
  exact List.Subset.refl _

/-- So what was before differs in something else. -/
lemma after (hx : Extends h' h'') (tasks : h'.tasks = h.tasks) (parcels : h'.parcels = h.parcels)
    (bootstrap : h'.bootstrap = h.bootstrap) : Extends h h'' :=
  (of_eq tasks parcels bootstrap).trans hx

lemma deliver (h : Host σ) (c : Channel) (item : Item) : Extends h (h.deliver c item) :=
  ⟨List.Subset.refl _, fun d => waiting_deliver h d c item ▸ List.subset_append_left _ _, rfl⟩

lemma keep (h : Host σ) (t : Task) : Extends h (h.keep t) := by
  refine ⟨?_, fun c => waiting_keep h t c ▸ List.subset_append_left _ _, rfl⟩
  unfold Host.keep
  dsimp only
  split
  · exact List.Subset.refl _
  · exact List.subset_append_left _ _

lemma attends (hx : Extends h h') (ht : h.Attends earlier t) : h'.Attends earlier t where
  underway := hx.bootstrap ▸ ht.underway
  closed := fun hended =>
    (ht.closed hended).mono (hx.waiting t.channel)

lemma pursued (hx : Extends h h') (hp : h.Pursued earlier v c) : h'.Pursued earlier v c := by
  rcases hp with ⟨t, ht, hchannel, halike⟩ | hclosed
  · exact .inl ⟨t, hx.tasks ht, hchannel, halike⟩
  · exact .inr (hclosed.mono (hx.waiting c))

/-- A host that gets no new lookups attends to all it has. -/
lemma attended (hx : Extends h h') (htasks : h'.tasks ⊆ h.tasks) (ha : h.Attended earlier) :
    h'.Attended earlier :=
  fun t ht => hx.attends (ha t (htasks ht))

end Extends

/-! ### Lookups that are kept -/

/-- A lookup is kept without its reports, unless it is done. -/
lemma mem_tasks_keep {u : Task} (hu : u ∈ (h.keep t).tasks) :
    u ∈ h.tasks ∨ u = ⟨t.lookup.relieved, t.channel⟩ ∧ t.lookup.isDone = false := by
  cases hdone : t.lookup.isDone with
  | true => exact .inl (by simpa [Host.keep, hdone] using hu)
  | false =>
    simp only [Host.keep, hdone, Bool.false_eq_true, if_false] at hu
    rcases List.mem_append.1 hu with hu | hu
    · exact .inl hu
    · exact .inr ⟨List.mem_singleton.1 hu, rfl⟩

/-- A host that attends to a lookup when it is kept goes on doing so, and does not lose it before its
last report. -/
lemma Attended.keep (ha : h.Attended earlier)
    (ht : (h.keep t).Attends earlier ⟨t.lookup.relieved, t.channel⟩) :
    (h.keep t).Attended earlier ∧ (h.keep t).Pursued earlier t.lookup.verb t.channel := by
  refine ⟨fun u hu => ?_, ?_⟩
  · rcases mem_tasks_keep hu with hu | ⟨rfl, -⟩
    · exact (Extends.keep h t).attends (ha u hu)
    · exact ht
  · cases hdone : t.lookup.isDone with
    | true => exact .inr (ht.closed (Bool.and_eq_true_iff.1 hdone).1)
    | false =>
      refine .inl ⟨⟨t.lookup.relieved, t.channel⟩, ?_, rfl, .refl _⟩
      simp only [Host.keep, hdone, Bool.false_eq_true, if_false]
      exact List.mem_append_right _ (List.mem_singleton_self _)

/-- What a lookup reports when it is kept is delivered. -/
lemma closed_keep (h : Host σ) {last : Lookup.Report} (hmem : last ∈ t.lookup.reports)
    (hlast : v.Closes last) : Closed v (earlier t.channel ++ (h.keep t).waiting t.channel) := by
  refine ⟨last, hlast, List.mem_append_right _ ?_⟩
  rw [waiting_keep, if_pos rfl]
  exact List.mem_append_right _ (List.mem_map_of_mem hmem)

/-! ### When the lookups go on -/

lemma Extends.tickTask (h : Host σ) (transport : Transport) (t : Task) :
    Extends h (h.tickTask transport t) := by
  unfold Host.tickTask
  exact (Extends.keep _ _).after rfl rfl rfl

/-- A lookup that ends when it goes on delivers its last report, and one that has not ended is kept. -/
lemma Attends.tickTask (ha : h.Attended earlier) (ht : h.Attends earlier t) (transport : Transport) :
    (h.tickTask transport t).Attended earlier ∧
      (h.tickTask transport t).Pursued earlier t.lookup.verb t.channel := by
  obtain ⟨termination, hunderway, hfree⟩ := ht.underway
  have hextends := Extends.tickTask h transport t
  have halike := Lookup.alike_tick t.lookup (h.site transport) h.multiplexer
  have hticked := hunderway.tick (h.site transport) h.multiplexer
  have hcloses (hl : t.lookup.state.finished = false) :=
    Lookup.closes_tick hl hunderway.relieved (h.site transport) h.multiplexer
  have hdef : h.tickTask transport t = Host.keep { h with
      multiplexer := (t.lookup.tick (h.site transport) h.multiplexer).2.1
      table := (t.lookup.tick (h.site transport) h.multiplexer).2.2.foldl settleVerdict h.table }
      ⟨(t.lookup.tick (h.site transport) h.multiplexer).1, t.channel⟩ := rfl
  rw [hdef] at hextends ⊢
  generalize t.lookup.tick (h.site transport) h.multiplexer = ticked at *
  have hclosed (hended : ticked.1.state.finished = true) : Closed ticked.1.verb _ :=
    (closed_iff_of_alike halike).2 (by
      cases hl : t.lookup.state.finished with
      | true => exact (hextends.attends ht).closed hl
      | false =>
        obtain ⟨last, hmem, hlast⟩ := hcloses hl hended
        exact closed_keep (t := ⟨ticked.1, t.channel⟩) _ hmem hlast)
  obtain ⟨hattended, hpursued⟩ := Attended.keep
    (h := { h with multiplexer := ticked.2.1, table := ticked.2.2.foldl settleVerdict h.table })
    (t := ⟨ticked.1, t.channel⟩)
    (fun u hu => ⟨(ha u hu).underway, (ha u hu).closed⟩)
    ⟨⟨termination, hticked, hfree⟩, hclosed⟩
  exact ⟨hattended, hpursued.of_alike halike⟩

/-- When the lookups go on, each of them is kept or says its last word. -/
lemma Attended.tickTasks (ha : h.Attended earlier) (transport : Transport) :
    (h.tickTasks transport).Attended earlier ∧
      ∀ v c, h.Pursued earlier v c → (h.tickTasks transport).Pursued earlier v c := by
  -- a lookup that is pursued is among those that were not looked at yet, or was kept or closed
  obtain ⟨hattended, -, hpursued⟩ := tickTasks_induct (h := h) transport
    (P := fun ts h' => h'.Attended earlier ∧ (∀ t ∈ ts, h'.Attends earlier t) ∧
      ∀ v c, h.Pursued earlier v c →
        (∃ t ∈ ts, t.channel = c ∧ v.Alike t.lookup.verb) ∨ h'.Pursued earlier v c)
    ⟨fun t ht => absurd ht List.not_mem_nil, fun t ht => ⟨(ha t ht).underway, (ha t ht).closed⟩,
      fun v c hp => hp.imp_right .inr⟩ (by
    rintro t ts h' ⟨ha', hts, hpursued⟩
    have hextends := Extends.tickTask h' transport t
    obtain ⟨hattended, hkept⟩ := Attends.tickTask ha' (hts t List.mem_cons_self) transport
    refine ⟨hattended, fun u hu => hextends.attends (hts u (List.mem_cons_of_mem t hu)),
      fun v c hp => ?_⟩
    rcases hpursued v c hp with ⟨u, hu, rfl, halike⟩ | hp
    · rcases List.mem_cons.1 hu with rfl | hu
      · exact .inr (hkept.of_alike halike)
      · exact .inl ⟨u, hu, rfl, halike⟩
    · exact .inr (hextends.pursued hp))
  exact ⟨hattended, fun v c hp => (hpursued v c hp).resolve_left (by simp)⟩

lemma bootstrap_tickTasks (h : Host σ) (transport : Transport) :
    (h.tickTasks transport).bootstrap = h.bootstrap := by
  apply List.foldlRecOn (motive := fun h' : Host σ => h'.bootstrap = h.bootstrap)
  · rfl
  · exact fun _ hbootstrap _ _ => hbootstrap

/-! ### Pings -/

lemma extends_settleProbe (h : Host σ) (p : Probe) (result : Except CallError Ping.Answer) :
    Extends h (h.settleProbe p result) ∧ (h.settleProbe p result).tasks = h.tasks := by
  unfold Host.settleProbe
  cases p.waiter with
  | none => cases result <;> exact ⟨.of_eq rfl rfl rfl, rfl⟩
  | some d =>
    cases result with
    | ok a => exact ⟨(Extends.deliver _ _ _).after rfl rfl rfl, rfl⟩
    | error e => exact ⟨.deliver _ _ _, rfl⟩

lemma extends_sweepProbes (h : Host σ) (kept rest : List Probe) :
    Extends h (h.sweepProbes kept rest) ∧ (h.sweepProbes kept rest).tasks = h.tasks := by
  fun_induction Host.sweepProbes h kept rest with
  | case1 h kept => exact ⟨.of_eq rfl rfl rfl, rfl⟩
  | case2 h kept p ps multiplexer _ ih =>
    exact ⟨ih.1.after rfl rfl rfl, ih.2⟩
  | case3 h kept p ps result multiplexer _ ih =>
    obtain ⟨hextends, htasks⟩ := extends_settleProbe { h with multiplexer } p result
    exact ⟨(hextends.trans ih.1).after rfl rfl rfl, ih.2.trans htasks⟩

/-- Pings do not meddle with lookups. -/
lemma extends_tickProbes (h : Host σ) (now : Nat) :
    Extends h (h.expire now).tickProbes ∧ (h.expire now).tickProbes.tasks = h.tasks := by
  obtain ⟨hextends, htasks⟩ := extends_sweepProbes (h.expire now) [] h.probes
  exact ⟨hextends.after rfl rfl rfl, htasks⟩

/-! ### New lookups and the bootstrap -/

/-- A channel that nothing happens on stays so when pings and lookups go on. -/
lemma Unused.ticked (hunused : h.Unused c) (transport : Transport) (now : Nat) :
    ((h.expire now).tickProbes.tickTasks transport).Unused c := by
  have hexpire : Spares c h (h.expire now) := hunused.congr rfl rfl rfl rfl
  have hprobes := hexpire.trans hexpire.spared.tickProbes
  have hidle := hprobes.working.trans hunused.working
  exact (hprobes.trans (hprobes.spared.tickTasks hidle transport)).unused hunused

section Server

variable [Server σ]

/-- A lookup that is started is kept as it is launched, and has delivered its last report if it has
ended at once. -/
lemma Attended.start (ha : h.Attended earlier) (transport : Transport) (goal : Lookup.Goal)
    (seeds : List Contact)
    (hfree : h.bootstrap = .lookup c → (goal.termination h.redundancy).budget = none) :
    (h.start transport goal seeds c).Attended earlier ∧
      Extends h (h.start transport goal seeds c) ∧
      ∀ t ∈ (h.start transport goal seeds c).tasks, t ∈ h.tasks ∨
        t.lookup.Underway (goal.termination h.redundancy) := by
  rw [start_eq, snd_known]
  dsimp only
  have hunderway := Lookup.underway_launch (goal.verb (h.known goal).1) goal.target h.id
    (goal.termination h.redundancy) h.k h.concurrency (h.site transport) seeds h.multiplexer
  have hcloses := Lookup.closes_launch (goal.verb (h.known goal).1) goal.target h.id
    (goal.termination h.redundancy) h.k h.concurrency (h.site transport) seeds h.multiplexer
  dsimp only at hcloses
  generalize (Lookup.new (goal.verb (h.known goal).1) _).launch (h.site transport) seeds
    h.multiplexer = launched at *
  generalize hdelivered : (if (h.known goal).1.isEmpty then
    { h with server := (h.known goal).2.server } else
    Host.deliver { h with server := (h.known goal).2.server } c
      (.report (.values (h.known goal).1))) = h₁
  have hextends : Extends h h₁ ∧ h₁.tasks = h.tasks := by
    rw [← hdelivered]
    split
    · exact ⟨.of_eq rfl rfl rfl, rfl⟩
    · exact ⟨(Extends.deliver _ _ _).after rfl rfl rfl, rfl⟩
  have hlaunch : Extends h { h₁ with multiplexer := launched.2 } :=
    hextends.1.trans (.of_eq rfl rfl rfl)
  refine ⟨(Attended.keep (hlaunch.attended (hextends.2 ▸ List.Subset.refl _) ha)
    ⟨⟨_, hunderway, ?_⟩, fun hended => ?_⟩).1, hlaunch.trans (.keep _ _), fun t ht => ?_⟩
  · intro hbootstrap
    exact hfree (hextends.1.bootstrap ▸ hbootstrap)
  · obtain ⟨last, hmem, hlast⟩ := hcloses hended
    exact closed_keep (t := ⟨launched.1, c⟩) _ hmem hlast
  · rcases mem_tasks_keep ht with ht | ⟨rfl, -⟩
    · exact .inl (hextends.2 ▸ ht)
    · exact .inr hunderway

lemma Attended.find (ha : h.Attended earlier) (hunused : h.Unused h.nextChannel)
    (transport : Transport) (goal : Lookup.Goal) (seeds : Option (List Contact)) :
    (h.find transport goal seeds).2.Attended earlier ∧ Extends h (h.find transport goal seeds).2 := by
  have hopen : Extends h h.openChannel.2 := .of_eq rfl rfl rfl
  have hstart (seeds : List Contact) :=
    Attended.start (h := h.openChannel.2) (hopen.attended (List.Subset.refl _) ha) transport goal
      seeds (c := h.nextChannel) fun heq => absurd heq hunused.bootstrap
  cases seeds with
  | some seeds => exact ⟨(hstart seeds).1, hopen.trans (hstart seeds).2.1⟩
  | none => exact ⟨(hstart _).1, hopen.trans (hstart _).2.1⟩

/-- The bootstrap starts a lookup without a budget on a channel of its own, and takes its report when
no lookup is left there that has ended. -/
lemma Attended.tickBootstrap (ha : h.Attended earlier) (hb : h.Busy)
    (hunused : h.Unused h.nextChannel) (transport : Transport) :
    (h.tickBootstrap transport).Attended earlier := by
  unfold Host.tickBootstrap
  split
  · split
    · exact ha
    · next hpinging _ =>
      have hopen : Extends h h.openChannel.2 := .of_eq rfl rfl rfl
      obtain ⟨hstart, -, htasks⟩ := Attended.start (h := h.openChannel.2)
        (hopen.attended (List.Subset.refl _) ha) transport (.findNode h.id)
        (h.table.closest h.id h.k) (c := h.nextChannel) fun heq => absurd heq hunused.bootstrap
      intro t ht
      refine ⟨?_, (hstart t ht).closed⟩
      rcases htasks t ht with hold | hnew
      · obtain ⟨termination, hunderway, -⟩ := (ha t hold).underway
        refine ⟨termination, hunderway, fun heq => ?_⟩
        have hmem : t.lookup ∈ h.working h.nextChannel :=
          List.mem_map.2 ⟨t, List.mem_filter.2 ⟨hold, beq_iff_eq.2 (Bootstrap.lookup.inj heq).symm⟩,
            rfl⟩
        rw [hunused.working] at hmem
        exact absurd hmem List.not_mem_nil
      · exact ⟨_, hnew, fun _ => rfl⟩
  · next d hlookup =>
    split
    · intro t ht
      obtain ⟨termination, hunderway, hfree⟩ := (ha t ht).underway
      refine ⟨⟨termination, hunderway, nofun⟩, fun hended => ?_⟩
      by_cases hd : d = t.channel
      · -- a lookup without a budget that has ended is done, and so it is not kept
        have hnone := hunderway.flights_eq_nil (hfree (hd ▸ hlookup)) hended
        exact absurd (hb t ht) (by simp [Lookup.isDone, hended, hnone])
      · have hwaiting := h.waiting_take_of_ne hd
        have hclosed := (ha t ht).closed hended
        rw [← hwaiting] at hclosed
        exact hclosed
    · exact ha
  · exact ha

lemma Attended.advance (ha : h.Attended earlier) (hunused : h.Unused h.nextChannel)
    (transport : Transport) (now : Nat) : (h.advance transport now).Attended earlier := by
  obtain ⟨hextends, hsame⟩ := extends_tickProbes h now
  have hticked := ((hextends.attended (hsame ▸ List.Subset.refl _) ha).tickTasks transport).1
  refine hticked.tickBootstrap (busy_tickTasks _ transport) ?_ transport
  rw [nextChannel_ticked h transport now]
  exact hunused.ticked transport now

/-- After the bootstrap, only pings and lookups go on. -/
lemma advance_of_done (hdone : h.bootstrap = .done) (transport : Transport) (now : Nat) :
    h.advance transport now = (h.expire now).tickProbes.tickTasks transport := by
  have hticked : ((h.expire now).tickProbes.tickTasks transport).bootstrap = .done := by
    rw [bootstrap_tickTasks, (extends_tickProbes h now).1.bootstrap, hdone]
  simp only [Host.advance, Host.tickBootstrap, hticked]

/-- After the bootstrap, each lookup is kept or says its last word when a host goes on. -/
lemma Pursued.advance (hp : h.Pursued earlier v c) (ha : h.Attended earlier)
    (hdone : h.bootstrap = .done) (transport : Transport) (now : Nat) :
    (h.advance transport now).Pursued earlier v c := by
  obtain ⟨hextends, hsame⟩ := extends_tickProbes h now
  rw [advance_of_done hdone]
  exact ((hextends.attended (hsame ▸ List.Subset.refl _) ha).tickTasks transport).2 v c
    (hextends.pursued hp)

end Server

/-! ### Lives -/

/-- Taking items from a channel moves them to those that were taken. -/
lemma waiting_taken (h : Host σ) (c d : Channel) :
    (if d = c then (h.take d).1 else []) ++ (h.take d).2.waiting c = h.waiting c := by
  by_cases hd : d = c
  · subst hd
    rw [if_pos rfl, fst_take, waiting_take, List.append_nil]
  · rw [if_neg hd, waiting_take_of_ne _ hd, List.nil_append]

namespace Life

variable [Server σ] {l : Life σ}

/-- What was taken from the channels, with what is taken when something happens. -/
def since (earlier : Channel → List Item) (l : Life σ) (op : Operation) : Channel → List Item :=
  fun c => earlier c ++ l.taken c op

omit [Server σ] in
lemma since_of_none {op : Operation} (hnone : ∀ c, l.taken c op = []) :
    since earlier l op = earlier := by
  funext c
  rw [since, hnone, List.append_nil]

/-- Unless the host goes on or items are taken, it keeps all it has. -/
lemma extends_perform (ha : l.host.Attended earlier) (hunused : l.host.Unused l.host.nextChannel)
    (op : Operation) (hadvance : ∀ transport now, op ≠ .advance transport now)
    (htake : ∀ d, op ≠ .take d) :
    Extends l.host (l.perform op).host ∧ (l.perform op).host.Attended earlier := by
  have hsame {h' : Host σ} (hx : Extends l.host h') (htasks : h'.tasks = l.host.tasks) :
      Extends l.host h' ∧ h'.Attended earlier :=
    ⟨hx, hx.attended (htasks ▸ List.Subset.refl _) ha⟩
  cases op with
  | receive transport serverClock d => exact hsame (.of_eq rfl rfl rfl) rfl
  | advance transport now => exact absurd rfl (hadvance transport now)
  | ping transport address => exact hsame (.of_eq rfl rfl rfl) rfl
  | find transport goal seeds => exact (ha.find hunused transport goal seeds).symm
  | take d => exact absurd rfl (htake d)
  | flush => exact hsame (.of_eq rfl rfl rfl) rfl
  | stop => exact hsame (.of_eq rfl rfl rfl) rfl

/-- Whatever happens to a host, it attends to all its lookups. -/
lemma attended_perform (ha : l.host.Attended earlier) (hunused : l.host.Unused l.host.nextChannel)
    (op : Operation) : (l.perform op).host.Attended (since earlier l op) := by
  cases op with
  | advance transport now =>
    rw [since_of_none fun _ => rfl]
    exact ha.advance hunused transport now
  | take d =>
    intro t ht
    refine ⟨(ha t ht).underway, fun hended => ?_⟩
    rw [since, taken, List.append_assoc]
    exact (waiting_taken l.host t.channel d).symm ▸ (ha t ht).closed hended
  | _ =>
    rw [since_of_none fun _ => rfl]
    exact (extends_perform ha hunused _ (by simp) (by simp)).2

/-- After the bootstrap no lookup is lost: it is kept or says its last word. -/
lemma pursued_perform (ha : l.host.Attended earlier) (hunused : l.host.Unused l.host.nextChannel)
    (hdone : l.host.bootstrap = .done) (op : Operation) :
    (l.perform op).host.bootstrap = .done ∧ ∀ v c, l.host.Pursued earlier v c →
      (l.perform op).host.Pursued (since earlier l op) v c := by
  have hextends := extends_perform ha hunused op
  cases op with
  | advance transport now =>
    rw [since_of_none fun _ => rfl]
    refine ⟨?_, fun v c hp => hp.advance ha hdone transport now⟩
    change (l.host.advance transport now).bootstrap = .done
    rw [advance_of_done hdone, bootstrap_tickTasks, (extends_tickProbes l.host now).1.bootstrap, hdone]
  | take d =>
    refine ⟨hdone, fun v c hp => hp.imp_right fun hclosed => ?_⟩
    rw [since, taken, List.append_assoc]
    exact (waiting_taken l.host c d).symm ▸ hclosed
  | _ =>
    rw [since_of_none fun _ => rfl]
    obtain ⟨hextends, -⟩ := hextends (by simp) (by simp)
    exact ⟨hextends.bootstrap.trans hdone, fun v c hp => hextends.pursued hp⟩

lemma attended_after (ha : l.host.Attended earlier)
    (hunused : ∀ c, l.host.nextChannel ≤ c → l.host.Unused c) (ops : List Operation) :
    ∃ earlier', (l.after ops).host.Attended earlier' ∧ ∀ c later,
      earlier' c ++ (l.after ops).heard c later = earlier c ++ l.heard c (ops ++ later) := by
  induction ops generalizing l earlier with
  | nil => exact ⟨earlier, ha, fun c later => rfl⟩
  | cons op ops ih =>
    obtain ⟨earlier', ha', hheard⟩ :=
      ih (attended_perform ha (hunused _ le_rfl) op) (unused_after hunused [op])
    refine ⟨earlier', ha', fun c later => (hheard c later).trans ?_⟩
    rw [since, List.append_assoc]
    rfl

lemma pursued_after (hp : l.host.Pursued earlier v c) (ha : l.host.Attended earlier)
    (hunused : ∀ c, l.host.nextChannel ≤ c → l.host.Unused c) (hdone : l.host.bootstrap = .done)
    (ops : List Operation) :
    (∃ t ∈ (l.after ops).host.tasks, t.channel = c ∧ v.Alike t.lookup.verb) ∨
      Closed v (earlier c ++ l.heard c ops) := by
  induction ops generalizing l earlier with
  | nil => exact hp
  | cons op ops ih =>
    obtain ⟨hdone', hpursued⟩ := pursued_perform ha (hunused _ le_rfl) hdone op
    have hrest := ih (hpursued v c hp) (attended_perform ha (hunused _ le_rfl) op)
      (unused_after hunused [op]) hdone'
    rwa [since, List.append_assoc] at hrest

omit [Server σ] in
lemma tasks_start (settings : Settings) (server : σ) (entropy : Entropy) (transport : Transport) :
    (start settings server entropy transport).host.tasks = [] := by
  apply List.foldlRecOn (motive := fun h : Host σ => h.tasks = [])
  · rfl
  · exact fun _ htasks _ _ => htasks

omit [Server σ] in
/-- At first there is no lookup to attend to. -/
lemma attended_start (settings : Settings) (server : σ) (entropy : Entropy) (transport : Transport) :
    (start settings server entropy transport).host.Attended fun _ => [] := by
  rw [Attended, tasks_start]
  exact fun t ht => absurd ht List.not_mem_nil

/-- Once the bootstrap is over, a lookup that is under way stays under way until its last report was
delivered on its channel. -/
theorem lookups_close (settings : Settings) (server : σ) (entropy : Entropy) (transport : Transport)
    (ops later : List Operation)
    (hdone : ((start settings server entropy transport).after ops).host.bootstrap = .done) :
    ∀ t ∈ ((start settings server entropy transport).after ops).host.tasks,
      (∃ u ∈ ((start settings server entropy transport).after (ops ++ later)).host.tasks,
        u.channel = t.channel ∧ t.lookup.verb.Alike u.lookup.verb) ∨
      Closed t.lookup.verb ((start settings server entropy transport).heard t.channel (ops ++ later)) := by
  intro t ht
  have hunused (c : Channel) (_ : (start settings server entropy transport).host.nextChannel ≤ c) :=
    unused_start settings server entropy transport c
  obtain ⟨earlier, ha, hheard⟩ :=
    attended_after (attended_start settings server entropy transport) hunused ops
  have hpursued := pursued_after (.inl ⟨t, ht, rfl, .refl _⟩) ha (unused_after hunused ops) hdone later
  rw [hheard] at hpursued
  rw [after_append]
  exact hpursued

end Life

end Kademlia.Host
