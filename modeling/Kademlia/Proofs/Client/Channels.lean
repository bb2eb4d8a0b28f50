import Kademlia.Proofs.Client.Actor
import Kademlia.Proofs.Host.Streams

/-!
# The channels of a client

Each command comes with a channel of its own, and a chain opens one more. Whatever else a client works
on, a channel is left to the lookups that report on it and to the chain that they belong to.
-/

namespace Kademlia.Client

open Exchange Service

variable {σ : Type}

/-- Does no chain use a channel? -/
def Free (chains : List Chain) (c : Host.Channel) : Prop :=
  ∀ chain ∈ chains, chain.first ≠ c ∧ chain.waiter ≠ c

lemma free_append {chains more : List Chain} {c : Host.Channel} :
    Free (chains ++ more) c ↔ Free chains c ∧ Free more c :=
  List.forall_mem_append

lemma Free.subset {chains more : List Chain} {c : Host.Channel} (h : Free chains c)
    (hsubset : more ⊆ chains) : Free more c :=
  fun chain hchain => h chain (hsubset hchain)

/-- Is a channel left to lookups? What waits on it and who reports there is as `P` says. -/
structure Leaves (cl : Client σ) (c : Host.Channel) (P : List Host.Item → List Lookup → Prop) :
    Prop where
  spared : cl.host.Spared c
  awaiting : c ∉ cl.awaiting
  outcomes : ∀ o ∈ cl.outcomes, o.1 ≠ c
  state : P (cl.host.waiting c) (cl.host.working c)

namespace Leaves

variable {cl : Client σ} {c waiter : Host.Channel} {P : List Host.Item → List Lookup → Prop}

/-- The other channels of its host do not matter. -/
lemma host (h : cl.Leaves c P) {host : Host σ} (hspares : Host.Spares c cl.host host)
    (queue : List Letter) (chains : List Chain) :
    ({ cl with host, queue, chains } : Client σ).Leaves c P where
  spared := hspares.spared
  awaiting := h.awaiting
  outcomes := h.outcomes
  state := by
    rw [hspares.waiting, hspares.working]
    exact h.state

lemma answer (h : cl.Leaves c P) (hw : waiter ≠ c) (outcome : Outcome) :
    (cl.answer waiter outcome).Leaves c P :=
  ⟨h.spared, h.awaiting, List.forall_mem_append.2 ⟨h.outcomes, List.forall_mem_singleton.2 hw⟩,
    h.state⟩

lemma answerAwaiting (h : cl.Leaves c P) : cl.answerAwaiting.Leaves c P := by
  unfold Client.answerAwaiting
  split
  · refine ⟨h.spared, List.not_mem_nil, List.forall_mem_append.2 ⟨h.outcomes, ?_⟩, h.state⟩
    exact List.forall_mem_map.2 fun d hd heq => h.awaiting (heq ▸ hd)
  · exact h

section Server

variable [Server σ]

/-- A chain opens a channel of its own. -/
lemma chain (h : cl.Leaves c P) (hw : waiter ≠ c) (hnew : cl.host.nextChannel ≠ c)
    (transport : Transport) (first next : Lookup.Goal) :
    (cl.chain transport first next waiter).Leaves c P ∧
      ∃ more, (cl.chain transport first next waiter).chains = cl.chains ++ more ∧ Free more c := by
  have hopen : Host.Spares c cl.host cl.host.openChannel.2 := h.spared.congr rfl rfl rfl rfl
  have hstart := hopen.spared.start hnew transport first
    (cl.host.table.closest first.target cl.host.k)
  exact ⟨h.host (hopen.trans hstart) cl.queue _, _, rfl, List.forall_mem_singleton.2 ⟨hnew, hw⟩⟩

/-- Working on a command for another channel does nothing to this one. -/
lemma perform (h : cl.Leaves c P) (hw : waiter ≠ c) (transport : Transport) (command : Command)
    (hc : (cl.perform transport waiter command).host.nextChannel = cl.host.nextChannel ∨
      cl.host.nextChannel ≠ c) :
    (cl.perform transport waiter command).Leaves c P ∧
      ∃ more, (cl.perform transport waiter command).chains = cl.chains ++ more ∧ Free more c := by
  have hnone : ∃ more, cl.chains = cl.chains ++ more ∧ Free more c :=
    ⟨[], (List.append_nil _).symm, by simp [Free]⟩
  have hnew (first next : Lookup.Goal)
      (hc : (cl.chain transport first next waiter).host.nextChannel = cl.host.nextChannel ∨
        cl.host.nextChannel ≠ c) : cl.host.nextChannel ≠ c := by
    have hnext : (cl.chain transport first next waiter).host.nextChannel = cl.host.nextChannel + 1 :=
      Host.nextChannel_lookUp cl.host.openChannel.2 transport first _
    exact hc.resolve_left fun heq => Nat.succ_ne_self _ (hnext.symm.trans heq)
  cases command with
  | info => exact ⟨h.answer hw _, hnone⟩
  | contacts => exact ⟨h.answer hw _, hnone⟩
  | awaitBootstrap =>
    refine ⟨⟨h.spared, fun hmem => ?_, h.outcomes, h.state⟩, hnone⟩
    rcases List.mem_append.1 hmem with hmem | hmem
    · exact h.awaiting hmem
    · exact hw (List.mem_singleton.1 hmem).symm
  | ping address =>
    have hprobe := h.spared.probe transport address fun heq => hw (Option.some.inj heq)
    exact ⟨h.host hprobe cl.queue cl.chains, hnone⟩
  | lookUp goal => exact ⟨h.host (h.spared.start hw transport goal _) cl.queue cl.chains, hnone⟩
  | fetch key count => exact h.chain hw (hnew _ _ hc) transport _ _
  | store key value => exact h.chain hw (hnew _ _ hc) transport _ _
  | shutdown => exact ⟨h, hnone⟩

/-! ### Chains on other channels -/

lemma continueChain (h : cl.Leaves c P) {chain : Chain} (hfirst : chain.first ≠ c)
    (hwaiter : chain.waiter ≠ c) (transport : Transport) :
    (cl.continueChain transport chain).Leaves c P ∧
      ∃ more, (cl.continueChain transport chain).chains = cl.chains ++ more ∧ more ⊆ [chain] := by
  have htake := h.spared.take_of_ne hfirst
  unfold Client.continueChain
  split
  · next contacts _ host heq =>
    rw [show host = (cl.host.take chain.first).2 by rw [heq]]
    have hstart := htake.spared.start hwaiter transport chain.next contacts
    exact ⟨h.host (htake.trans hstart) cl.queue cl.chains, [], (List.append_nil _).symm, by simp⟩
  · next host _ heq =>
    rw [show host = (cl.host.take chain.first).2 by rw [heq]]
    refine ⟨h.host htake cl.queue _, ?_⟩
    dsimp only
    split
    · exact ⟨[chain], rfl, List.Subset.refl _⟩
    · exact ⟨[], (List.append_nil _).symm, by simp⟩

lemma foldl_continueChain (h : cl.Leaves c P) (transport : Transport) (chains : List Chain)
    (hchains : Free chains c) :
    (chains.foldl (fun cl chain => cl.continueChain transport chain) cl).Leaves c P ∧
      ∃ more, (chains.foldl (fun cl chain => cl.continueChain transport chain) cl).chains =
        cl.chains ++ more ∧ more ⊆ chains := by
  induction chains generalizing cl with
  | nil => exact ⟨h, [], (List.append_nil _).symm, by simp⟩
  | cons chain chains ih =>
    obtain ⟨⟨hfirst, hwaiter⟩, hrest⟩ := List.forall_mem_cons.1 hchains
    obtain ⟨hone, more, hmore, hsubset⟩ := h.continueChain hfirst hwaiter transport
    obtain ⟨hall, others, hothers, hsubset'⟩ := ih hone hrest
    refine ⟨hall, more ++ others, ?_, ?_⟩
    · rw [List.foldl_cons, hothers, hmore, List.append_assoc]
    · exact List.append_subset.2 ⟨fun _ hx => List.mem_cons.2 (.inl (List.mem_singleton.1 (hsubset hx))),
        fun _ hx => List.mem_cons_of_mem _ (hsubset' hx)⟩

lemma continueChains (h : cl.Leaves c P) (hfree : Free cl.chains c) (transport : Transport) :
    (cl.continueChains transport).Leaves c P ∧ Free (cl.continueChains transport).chains c := by
  have hclear : ({ cl with chains := [] } : Client σ).Leaves c P :=
    h.host h.spared.refl cl.queue []
  obtain ⟨hall, more, hmore, hsubset⟩ := hclear.foldl_continueChain transport cl.chains hfree
  refine ⟨hall, ?_⟩
  rw [Client.continueChains, hmore]
  exact hfree.subset hsubset

end Server

end Leaves

/-! ### What lasts on a channel -/

/-- What is true of a channel, before and after all that is under way is dropped, goes on being true
while the host goes on and when all is dropped. -/
structure Lasting (σ : Type) [Server σ] (J : Bool → List Host.Item → List Lookup → Prop) :
    Prop where
  advance {h : Host σ} {c : Host.Channel} (hs : h.Spared c)
    (hJ : J false (h.waiting c) (h.working c)) (transport : Transport) (now : Nat)
    (hc : (h.advance transport now).nextChannel = h.nextChannel ∨ h.nextChannel ≠ c) :
    (h.advance transport now).Spared c ∧
      J false ((h.advance transport now).waiting c) ((h.advance transport now).working c)
  drop {items : List Host.Item} {ws : List Lookup} (hJ : J false items ws) : J true items []

/-- Some items wait on a channel, and no more are to come. -/
def Rest (items : List Host.Item) : Bool → List Host.Item → List Lookup → Prop :=
  fun _ items' ws => items' = items ∧ ws = []

/-- All the items of a channel are some first ones and then what a lookup reports, which is under way
as the only one on the channel, unless it is done or all was dropped. -/
def Shows (first : List Host.Item) (l : Lookup) (dropped : Bool) (items : List Host.Item)
    (ws : List Lookup) : Prop :=
  items = first ++ l.reports.map .report ∧
    (ws = [l.relieved] ∨ ws = [] ∧ (dropped = true ∨ l.isDone = true))

lemma Shows.working {first items : List Host.Item} {l : Lookup} {ws : List Lookup}
    (h : Shows first l false items ws) (hopen : l.state.finished = false) : ws = [l.relieved] := by
  refine h.2.resolve_right fun hdone => ?_
  simp [Lookup.isDone, hopen] at hdone

/-- A channel shows what became of a lookup that started with some contacts. -/
def Traces (l₀ : Lookup) (seeds : List Contact) (first : List Host.Item) :
    Bool → List Host.Item → List Lookup → Prop :=
  fun dropped items ws => ∃ l log, Lookup.Rests l₀ seeds log l ∧ Shows first l dropped items ws

section Lasting

variable [Server σ]

lemma lasting_rest (items : List Host.Item) : Lasting σ (Rest items) where
  advance hs hJ transport now hc := by
    have hspares := hs.advance hJ.2 transport now hc
    exact ⟨hspares.spared, hspares.waiting.trans hJ.1, hspares.working.trans hJ.2⟩
  drop hJ := ⟨hJ.1, rfl⟩

lemma lasting_traces (l₀ : Lookup) (seeds : List Contact) (first : List Host.Item) :
    Lasting σ (Traces l₀ seeds first) where
  advance hs hJ transport now hc := by
    obtain ⟨l, log, hrests, hitems, hl⟩ := hJ
    have hfollows : Host.Follows l₀ seeds first ([] ++ _)
        (log.map (Lookup.Landing.verdict l₀.verb)) _ :=
      ⟨l, log, hrests, hitems, rfl, hl.imp_right (.imp_right fun h => h.resolve_left (by simp))⟩
    obtain ⟨hspared, l', log', hrests', hitems', -, hl'⟩ :=
      hfollows.advance hs transport now hc
    exact ⟨hspared, l', log', hrests', hitems', hl'.imp_right (.imp_right .inr)⟩
  drop hJ := by
    obtain ⟨l, log, hrests, hitems, -⟩ := hJ
    exact ⟨l, log, hrests, hitems, .inr ⟨rfl, .inl rfl⟩⟩

end Lasting

namespace Actor

/-- The commands that were not worked on yet. -/
def pending (w : Actor σ) : List Letter :=
  w.stage.letter?.toList ++ w.client.queue

/-- Is a channel left to lookups, and nobody waits on it for the end? -/
structure Leaves (w : Actor σ) (c : Host.Channel) (J : Bool → List Host.Item → List Lookup → Prop) :
    Prop where
  client : w.client.Leaves c (J w.stage.isDropped)
  closing : c ∉ w.closing

variable {w : Actor σ} {c : Host.Channel} {J : Bool → List Host.Item → List Lookup → Prop}

lemma Leaves.submit (h : w.Leaves c J) (command : Command) :
    (w.submit command).Leaves c J ∧ (w.submit command).client.chains = w.client.chains := by
  rcases w.submit_cases command with hsame | ⟨accepted, late, heq⟩
  · rw [hsame]
    exact ⟨h, rfl⟩
  · have hopen : Host.Spares c w.client.host w.client.host.openChannel.2 :=
      h.client.spared.congr rfl rfl rfl rfl
    rw [heq]
    exact ⟨⟨h.client.host hopen _ _, h.closing⟩, rfl⟩

/-- A command that is handed in comes last, with the next channel. -/
lemma pending_submit (w : Actor σ) (command : Command) :
    w.submit command = w ∨
      (w.submit command).pending = w.pending ++ [⟨command, w.client.host.nextChannel⟩] ∧
        (w.submit command).client.host.nextChannel = w.client.host.nextChannel + 1 := by
  rcases w.submit_cases command with hsame | ⟨accepted, late, heq⟩
  · exact .inl hsame
  · rw [heq]
    exact .inr ⟨(List.append_assoc _ _ _).symm, rfl⟩

/-- What is left to do gets no more when no command is handed in. -/
lemma pending_perform [Server σ] (w : Actor σ) {move : Move}
    (hmove : ∀ command, move ≠ .submit command) : (w.perform move).pending <:+ w.pending := by
  fun_cases perform w move with
  | case1 command => exact absurd rfl (hmove command)
  | case2 hstage =>
    rcases w.take_cases with hsame | ⟨letter, queue, hqueue, htake | htake⟩
    · rw [hsame]
    · rw [htake]
      simp [pending, hstage, hqueue, Stage.letter?]
    · rw [htake]
      simp [pending, hstage, hqueue, Stage.letter?]
  | case3 transport serverClock d hstage => exact List.suffix_rfl
  | case4 transport now hstage => exact List.suffix_rfl
  | case5 transport hstage =>
    simp only [pending]
    rw [(w.client.extends_continueChains transport).queue]
  | case6 hstage =>
    simp only [pending]
    rw [w.client.extends_answerAwaiting.queue]
  | case7 letter transport hstage =>
    simp only [pending, hstage]
    rw [(w.client.extends_perform transport letter.waiter letter.command).queue]
    exact List.suffix_cons letter _
  | case8 hstage => simp [pending, Actor.drop, hstage, Stage.letter?]
  | case9 hstage => simp [pending, Actor.drain, Stage.letter?]
  | case10 hstage => simp [pending, hstage, Stage.letter?]
  | case11 hstage =>
    rcases w.answer_cases with hsame | ⟨waiter, closing, -, heq⟩
    · rw [hsame]
    · rw [heq]
      exact List.suffix_rfl
  | case12 => exact List.suffix_rfl

/-- A command that is left behind when another one is worked on is not for the same channel. -/
lemma waiter_ne_of_pending {l : Letter} {ls : List Letter} (hpending : w.pending = l :: ls)
    (hdistinct : (w.pending.map (·.waiter)).Nodup)
    (hletters : ∀ l ∈ w.pending, l.waiter = c → l ∈ ls) : l.waiter ≠ c := by
  intro hwaiter
  have hmem := hletters l (hpending ▸ List.mem_cons_self) hwaiter
  rw [hpending, List.map_cons, List.nodup_cons] at hdistinct
  exact hdistinct.1 (List.mem_map_of_mem hmem)

namespace Leaves

lemma take (h : w.Leaves c J) (hstage : w.stage = .reading)
    (hdistinct : (w.pending.map (·.waiter)).Nodup)
    (hletters : ∀ l ∈ w.pending, l.waiter = c → l ∈ w.take.pending) :
    w.take.Leaves c J ∧ w.take.client.chains = w.client.chains := by
  have hclient := h.client
  simp only [hstage, Stage.isDropped] at hclient
  rcases w.take_cases with hsame | ⟨letter, queue, hqueue, htake | htake⟩
  · rw [hsame]
    exact ⟨h, rfl⟩
  · have hpending : w.pending = letter :: queue := by simp [pending, hstage, hqueue, Stage.letter?]
    rw [htake] at hletters ⊢
    have hw : letter.waiter ≠ c := waiter_ne_of_pending hpending hdistinct hletters
    refine ⟨⟨hclient.host hclient.spared.refl queue _, fun hmem => ?_⟩, rfl⟩
    rcases List.mem_append.1 hmem with hmem | hmem
    · exact h.closing hmem
    · exact hw (List.mem_singleton.1 hmem).symm
  · rw [htake]
    exact ⟨⟨hclient.host hclient.spared.refl queue _, h.closing⟩, rfl⟩

lemma drop [Server σ] (hJ : Lasting σ J) (h : w.Leaves c J) (hstage : w.stage = .halted) :
    w.drop.Leaves c J := by
  have hclient := h.client
  simp only [hstage, Stage.isDropped] at hclient
  exact ⟨⟨⟨fun _ hp => absurd hp List.not_mem_nil, hclient.spared.bootstrap⟩, List.not_mem_nil,
    hclient.outcomes, hJ.drop hclient.state⟩, h.closing⟩

lemma drain (h : w.Leaves c J) (hstage : w.stage = .dropped)
    (hletters : ∀ l ∈ w.pending, l.waiter = c → l ∈ w.drain.pending) : w.drain.Leaves c J := by
  have hclient := h.client
  simp only [hstage, Stage.isDropped] at hclient
  refine ⟨hclient.host hclient.spared.refl [] w.client.chains, fun hmem => ?_⟩
  rcases List.mem_append.1 hmem with hmem | hmem
  · exact h.closing hmem
  · obtain ⟨l, hl, hwaiter⟩ := List.mem_map.1 hmem
    have hpending := hletters l (List.mem_append_right _ (List.mem_filter.1 hl).1) hwaiter
    exact absurd hpending List.not_mem_nil

lemma answer (h : w.Leaves c J) :
    w.answer.Leaves c J ∧ w.answer.client.chains = w.client.chains := by
  rcases w.answer_cases with hsame | ⟨waiter, closing, hclosing, heq⟩
  · rw [hsame]
    exact ⟨h, rfl⟩
  · have hclosing' := h.closing
    rw [hclosing, List.mem_cons, not_or] at hclosing'
    rw [heq]
    exact ⟨⟨h.client.answer (Ne.symm hclosing'.1) .closed, hclosing'.2⟩, rfl⟩

/-- Whatever an actor does, except for its chains, it leaves alone a channel that no command which it
works on is for, and adds no chain that uses it. -/
lemma perform_of_ne [Server σ] (hJ : Lasting σ J) (h : w.Leaves c J)
    (hdistinct : (w.pending.map (·.waiter)).Nodup) {move : Move}
    (hmove : ∀ transport, move ≠ .continueChains transport)
    (hletters : ∀ l ∈ w.pending, l.waiter = c → l ∈ (w.perform move).pending)
    (hc : (∀ command, move ≠ .submit command) →
      (w.perform move).client.host.nextChannel = w.client.host.nextChannel ∨
        w.client.host.nextChannel ≠ c) :
    (w.perform move).Leaves c J ∧
      ((w.perform move).stage.isDropped = true ∧ (w.perform move).client.chains = [] ∨
        ∃ more, (w.perform move).client.chains = w.client.chains ++ more ∧ Free more c) := by
  have hsame {chains : List Chain} (heq : chains = w.client.chains) :
      ∃ more, chains = w.client.chains ++ more ∧ Free more c :=
    ⟨[], by rw [heq, List.append_nil], by simp [Free]⟩
  have hopen (hstage : w.stage = .reading) : w.client.Leaves c (J false) := by
    have hclient := h.client
    rwa [hstage] at hclient
  revert hletters hc
  fun_cases Actor.perform w move with
  | case1 command =>
    intro _ _
    exact ⟨(h.submit command).1, .inr (hsame (h.submit command).2)⟩
  | case2 hstage =>
    intro hletters _
    obtain ⟨htake, hchains⟩ := h.take hstage hdistinct hletters
    exact ⟨htake, .inr (hsame hchains)⟩
  | case3 transport serverClock d hstage =>
    intro _ _
    have hhost : Host.Spares c w.client.host (w.client.host.receive transport serverClock d) :=
      h.client.spared.congr rfl rfl rfl rfl
    exact ⟨⟨h.client.host hhost w.client.queue w.client.chains, h.closing⟩, .inr (hsame rfl)⟩
  | case4 transport now hstage =>
    intro _ hc
    obtain ⟨hspared, hstate⟩ := hJ.advance h.client.spared (hopen hstage).state transport now
      (hc (by simp))
    rw [← show w.stage.isDropped = false from hstage ▸ rfl] at hstate
    exact ⟨⟨⟨hspared, h.client.awaiting, h.client.outcomes, hstate⟩, h.closing⟩, .inr (hsame rfl)⟩
  | case5 transport hstage => exact absurd rfl (hmove transport)
  | case6 hstage =>
    intro _ _
    refine ⟨⟨h.client.answerAwaiting, h.closing⟩, .inr (hsame ?_)⟩
    simp only [Client.answerAwaiting]
    split <;> rfl
  | case7 letter transport hstage =>
    intro hletters hc
    have hpending : w.pending = letter :: w.client.queue := by simp [pending, hstage, Stage.letter?]
    have hqueue : (w.client.perform transport letter.waiter letter.command).queue = w.client.queue :=
      (w.client.extends_perform transport letter.waiter letter.command).queue
    have hw : letter.waiter ≠ c := by
      refine waiter_ne_of_pending hpending hdistinct fun l hl hwaiter => ?_
      have hmem := hletters l hl hwaiter
      simpa [pending, Stage.letter?, hqueue] using hmem
    have hclient := h.client
    rw [hstage] at hclient
    obtain ⟨hperform, hchains⟩ :=
      hclient.perform hw transport letter.command (hc (by simp))
    exact ⟨⟨hperform, h.closing⟩, .inr hchains⟩
  | case8 hstage =>
    intro _ _
    exact ⟨h.drop hJ hstage, .inl ⟨rfl, rfl⟩⟩
  | case9 hstage =>
    intro hletters _
    exact ⟨h.drain hstage hletters, .inr (hsame rfl)⟩
  | case10 hstage =>
    intro _ _
    have hclient := h.client
    simp only [hstage, Stage.isDropped] at hclient
    exact ⟨⟨⟨hclient.spared, hclient.awaiting, hclient.outcomes, hclient.state⟩, h.closing⟩,
      .inr (hsame rfl)⟩
  | case11 hstage =>
    intro _ _
    exact ⟨h.answer.1, .inr (hsame h.answer.2)⟩
  | case12 =>
    intro _ _
    exact ⟨h, .inr (hsame rfl)⟩

/-- A channel that no chain uses either is left alone by every move. -/
lemma perform [Server σ] (hJ : Lasting σ J) (h : w.Leaves c J) (hfree : Free w.client.chains c)
    (hdistinct : (w.pending.map (·.waiter)).Nodup) (move : Move)
    (hletters : ∀ l ∈ w.pending, l.waiter = c → l ∈ (w.perform move).pending)
    (hc : (∀ command, move ≠ .submit command) →
      (w.perform move).client.host.nextChannel = w.client.host.nextChannel ∨
        w.client.host.nextChannel ≠ c) :
    (w.perform move).Leaves c J ∧ Free (w.perform move).client.chains c := by
  by_cases hmove : ∀ transport, move ≠ .continueChains transport
  · obtain ⟨hleaves, ⟨-, hnone⟩ | ⟨more, hmore, hmore'⟩⟩ :=
      h.perform_of_ne hJ hdistinct hmove hletters hc
    · exact ⟨hleaves, by simp [hnone, Free]⟩
    · exact ⟨hleaves, hmore.symm ▸ free_append.2 ⟨hfree, hmore'⟩⟩
  · obtain ⟨transport, rfl⟩ : ∃ transport, move = .continueChains transport := by
      simpa using hmove
    cases hstage : w.stage with
    | reading =>
      obtain ⟨hclient, hfree'⟩ := h.client.continueChains hfree transport
      simp only [Actor.perform, hstage]
      rw [hstage] at hclient
      exact ⟨⟨hclient, h.closing⟩, hfree'⟩
    | _ =>
      simp only [Actor.perform, hstage]
      exact ⟨h, hfree⟩

end Leaves

/-! ### Channels that nobody used yet -/

lemma nextChannel_le_perform [Server σ] (w : Actor σ) (move : Move) :
    w.client.host.nextChannel ≤ (w.perform move).client.host.nextChannel := by
  have hstep := w.step_perform move
  generalize w.perform move = w' at hstep
  cases hstep with
  | stay => exact le_rfl
  | submit command =>
    rcases w.submit_cases command with hsame | ⟨accepted, late, heq⟩
    · rw [hsame]
    · rw [heq]
      exact Nat.le_succ _
  | take =>
    rcases w.take_cases with hsame | ⟨letter, queue, -, htake | htake⟩
    · rw [hsame]
    · rw [htake]
    · rw [htake]
  | work _ hclient => exact hclient.channels
  | drop => exact le_rfl
  | drain => exact le_rfl
  | close => exact le_rfl
  | answer =>
    rcases w.answer_cases with hsame | ⟨waiter, closing, -, heq⟩
    · rw [hsame]
    · rw [heq]
      exact le_rfl

/-- Each command that waits has a channel of its own, and nobody used it or a channel that was not
given out yet. -/
structure Orderly (w : Actor σ) : Prop where
  distinct : (w.pending.map (·.waiter)).Nodup
  given : ∀ l ∈ w.pending, l.waiter < w.client.host.nextChannel
  clear : ∀ c, (w.client.host.nextChannel ≤ c ∨ ∃ l ∈ w.pending, l.waiter = c) →
    w.Leaves c (Rest []) ∧ Free w.client.chains c

lemma Orderly.submit (h : w.Orderly) (command : Command) : (w.submit command).Orderly := by
  rcases w.pending_submit command with hsame | ⟨hpending, hnext⟩
  · exact hsame.symm ▸ h
  refine ⟨?_, ?_, fun c hc => ?_⟩
  · rw [hpending, List.map_append, List.map_singleton]
    refine List.Nodup.append h.distinct (List.nodup_singleton _) (List.disjoint_singleton.2 ?_)
    intro hmem
    obtain ⟨l, hl, hwaiter⟩ := List.mem_map.1 hmem
    exact (h.given l hl).ne hwaiter
  · rw [hpending, hnext]
    refine List.forall_mem_append.2 ⟨fun l hl => Nat.lt_succ_of_lt (h.given l hl), ?_⟩
    exact List.forall_mem_singleton.2 (Nat.lt_succ_self _)
  · have hbefore : w.client.host.nextChannel ≤ c ∨ ∃ l ∈ w.pending, l.waiter = c := by
      rw [hnext, hpending] at hc
      rcases hc with hc | ⟨l, hl, hwaiter⟩
      · exact .inl (Nat.le_of_succ_le hc)
      · rcases List.mem_append.1 hl with hl | hl
        · exact .inr ⟨l, hl, hwaiter⟩
        · exact .inl (hwaiter ▸ (List.mem_singleton.1 hl ▸ le_rfl))
    obtain ⟨hclear, hfree⟩ := h.clear c hbefore
    obtain ⟨hleaves, hchains⟩ := hclear.submit command
    exact ⟨hleaves, hchains ▸ hfree⟩

variable [Server σ]

lemma Orderly.perform (h : w.Orderly) (move : Move) : (w.perform move).Orderly := by
  by_cases hmove : ∀ command, move ≠ .submit command
  · have hsuffix := w.pending_perform hmove
    have hnext := w.nextChannel_le_perform move
    have heq {l l' : Letter} (hl : l ∈ w.pending) (hl' : l' ∈ w.pending)
        (hwaiter : l.waiter = l'.waiter) : l = l' :=
      List.inj_on_of_nodup_map h.distinct hl hl' hwaiter
    refine ⟨h.distinct.sublist (hsuffix.sublist.map _),
      fun l hl => (h.given l (hsuffix.subset hl)).trans_le hnext, fun c hc => ?_⟩
    rcases hc with hc | ⟨l, hl, rfl⟩
    · obtain ⟨hclear, hfree⟩ := h.clear c (.inl (hnext.trans hc))
      refine hclear.perform (lasting_rest []) hfree h.distinct move (fun l hl hwaiter => ?_)
        fun _ => (eq_or_ne w.client.host.nextChannel c).imp_left fun heq => ?_
      · exact absurd (hwaiter ▸ h.given l hl) (not_lt.2 (hnext.trans hc))
      · exact le_antisymm (hc.trans heq.ge) hnext
    · have hl' := hsuffix.subset hl
      obtain ⟨hclear, hfree⟩ := h.clear l.waiter (.inr ⟨l, hl', rfl⟩)
      exact hclear.perform (lasting_rest []) hfree h.distinct move
        (fun m hm hwaiter => heq hm hl' hwaiter ▸ hl) fun _ => .inr (h.given l hl').ne'
  · obtain ⟨command, rfl⟩ : ∃ command, move = .submit command := by simpa using hmove
    rw [perform_submit]
    exact h.submit command

lemma Orderly.after (h : w.Orderly) (moves : List Move) : (w.after moves).Orderly :=
  List.foldlRecOn (motive := fun w : Actor σ => w.Orderly) moves Actor.perform h
    fun _ h move _ => h.perform move

lemma orderly_run (settings : Host.Settings) (server : σ) (entropy : Entropy) (transport : Transport)
    (moves : List Move) : (run (.new settings server entropy transport) moves).Orderly := by
  have hpending : (of (.new (.new settings server entropy transport))).pending = [] := rfl
  refine Orderly.after ⟨by simp [hpending], by simp [hpending], fun c _ => ?_⟩ moves
  have hunused := Host.Life.unused_start settings server entropy transport c
  exact ⟨⟨⟨hunused.toSpared, List.not_mem_nil, by simp [of, Client.new],
    hunused.waiting, hunused.working⟩, List.not_mem_nil⟩, by simp [Free, of, Client.new]⟩

end Actor

end Kademlia.Client
