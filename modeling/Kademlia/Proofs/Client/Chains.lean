import Kademlia.Proofs.Client.Channels
import Kademlia.Proofs.Host.Setup

/-!
# How chains go on

A chain waits until its first lookup reports some contacts, and then starts its second one with them,
which reports to who waits for the chain. Other calls do not meddle with either.
-/

namespace Kademlia

open Exchange Service

/-! ### Lookups of a host with some settings -/

/-- Can these be the values that a host knows itself when it starts a lookup for a goal? -/
def Lookup.Goal.Knows (goal : Lookup.Goal) (known : List Bytes) : Prop :=
  (∀ key termination, goal ≠ .getValue key termination) → known = []

namespace Host

/-- The lookup that a host starts for a goal when it knows some values itself. -/
def Settings.lookup (settings : Settings) (goal : Lookup.Goal) (known : List Bytes) : Lookup :=
  .new (goal.verb known) (.new goal.target settings.id (goal.termination settings.redundancy)
    settings.k settings.concurrency)

/-- What is delivered before the lookup reports anything. -/
def announced (known : List Bytes) : List Item :=
  if known.isEmpty then [] else [.report (.values known)]

variable {σ : Type} [Server σ] {settings : Settings} {h : Host σ} {c : Channel}

lemma SetUp.traces_start (hs : h.SetUp settings) (hunused : h.Unused c) (transport : Transport)
    (goal : Lookup.Goal) (seeds : List Contact) (dropped : Bool) :
    (h.start transport goal seeds c).Spared c ∧
      Client.Traces (settings.lookup goal (h.known goal).1) seeds (announced (h.known goal).1) dropped
        ((h.start transport goal seeds c).waiting c) ((h.start transport goal seeds c).working c) := by
  obtain ⟨hspared, l, log, hrests, hitems, -, hl⟩ := Follows.start hunused transport goal seeds
  rw [hs.id, hs.k, hs.concurrency, hs.redundancy] at hrests
  exact ⟨hspared, l, log, hrests, hitems, hl.imp_right (.imp_right .inr)⟩

end Host

namespace Client

variable {σ : Type} [Server σ] {settings : Host.Settings} {cl : Client σ}

/-! ### Clients of a host with some settings -/

lemma setUp_perform (hs : cl.host.SetUp settings) (transport : Transport) (waiter : Host.Channel)
    (command : Command) : (cl.perform transport waiter command).host.SetUp settings := by
  have hchain (first : Lookup.Goal) :
      (cl.host.openChannel.2.lookUp transport first cl.host.nextChannel).SetUp settings :=
    hs.openChannel.start transport first _ _
  cases command with
  | info => exact hs
  | contacts => exact hs
  | awaitBootstrap => exact hs
  | ping address => exact hs.probe transport address _
  | lookUp goal => exact hs.start transport goal _ waiter
  | fetch key count => exact hchain (.findValue key)
  | store key value => exact hchain (.findNode key)
  | shutdown => exact hs

lemma setUp_continueChain (hs : cl.host.SetUp settings) (transport : Transport) (chain : Chain) :
    (cl.continueChain transport chain).host.SetUp settings := by
  have htake := hs.take chain.first
  unfold continueChain
  split
  · next heq =>
    rw [heq] at htake
    exact htake.start transport _ _ _
  · next heq =>
    rw [heq] at htake
    exact htake

lemma setUp_foldl (hs : cl.host.SetUp settings) (transport : Transport) (chains : List Chain) :
    (chains.foldl (fun cl chain => cl.continueChain transport chain) cl).host.SetUp settings :=
  List.foldlRecOn (motive := fun cl : Client σ => cl.host.SetUp settings) chains _ hs
    fun _ hs chain _ => setUp_continueChain hs transport chain

lemma setUp_continueChains (hs : cl.host.SetUp settings) (transport : Transport) :
    (cl.continueChains transport).host.SetUp settings := by
  have hclear : ({ cl with chains := [] } : Client σ).host.SetUp settings := hs
  exact setUp_foldl hclear transport cl.chains

omit [Server σ] in
lemma setUp_answerAwaiting (hs : cl.host.SetUp settings) : cl.answerAwaiting.host.SetUp settings := by
  unfold answerAwaiting
  dsimp only
  split <;> exact hs

/-! ### A chain among others -/

/-- Is a chain among some others, none of which uses its channels? -/
def Holds (chains : List Chain) (chain : Chain) : Prop :=
  ∃ before after, chains = before ++ chain :: after ∧
    Free (before ++ after) chain.first ∧ Free (before ++ after) chain.waiter

lemma Holds.append {chains more : List Chain} {chain : Chain} (h : Holds chains chain)
    (hfirst : Free more chain.first) (hwaiter : Free more chain.waiter) :
    Holds (chains ++ more) chain := by
  obtain ⟨before, after, rfl, hfirst', hwaiter'⟩ := h
  refine ⟨before, after ++ more, by simp, ?_, ?_⟩
  · exact List.append_assoc before after more ▸ free_append.2 ⟨hfirst', hfirst⟩
  · exact List.append_assoc before after more ▸ free_append.2 ⟨hwaiter', hwaiter⟩

/-- The first lookup of a chain has its channel for itself, and nothing happens yet on the other one. -/
structure Awaits (settings : Host.Settings) (goal : Lookup.Goal) (seeds : List Contact)
    (chain : Chain) (cl : Client σ) : Prop where
  setUp : cl.host.SetUp settings
  first : cl.Leaves chain.first (Traces (settings.lookup goal []) seeds [] false)
  waiter : cl.Leaves chain.waiter (Rest [] false)

/-- The first lookup of a chain has ended, and the second one starts with the contacts it reported and
with what its host knows. -/
structure Chain.Hands (chain : Chain) (l : Lookup) (contacts : List Contact) (known : List Bytes) :
    Prop where
  ended : l.state.finished = true
  reports : l.reports = [.contacts contacts]
  knows : chain.next.Knows known

section Chain

variable {chain : Chain} {goal : Lookup.Goal} {seeds : List Contact} {log : List Lookup.Landing}
  {l : Lookup}

/-- A chain starts to wait for its first lookup on a new channel. -/
lemma awaits_chain (hs : cl.host.SetUp settings) {waiter : Host.Channel}
    (hnew : cl.Leaves cl.host.nextChannel (Rest [] false)) (hwaiter : cl.Leaves waiter (Rest [] false))
    (hne : cl.host.nextChannel ≠ waiter)
    (hgoal : ∀ key termination, goal ≠ .getValue key termination) (transport : Transport)
    (next : Lookup.Goal) :
    (cl.chain transport goal next waiter).Awaits settings goal
      (cl.host.table.closest goal.target settings.k) ⟨cl.host.nextChannel, next, waiter⟩ := by
  have hopens : Host.Spares cl.host.nextChannel cl.host cl.host.openChannel.2 :=
    hnew.spared.congr rfl rfl rfl rfl
  have hunused := hopens.unused ⟨hnew.spared, hnew.state.1, hnew.state.2⟩
  obtain ⟨hspared, htraces⟩ := hs.openChannel.traces_start hunused transport goal
    (cl.host.table.closest goal.target cl.host.k) false
  rw [Host.known_eq_nil _ hgoal] at htraces
  have hopens' : Host.Spares waiter cl.host cl.host.openChannel.2 :=
    hwaiter.spared.congr rfl rfl rfl rfl
  have hstarts := hopens'.trans (hopens'.spared.start hne transport goal
    (cl.host.table.closest goal.target cl.host.k))
  rw [← hs.k]
  exact ⟨hs.openChannel.start transport goal _ _, ⟨hspared, hnew.awaiting, hnew.outcomes, htraces⟩,
    hwaiter.host hstarts cl.queue _⟩

/-- Other chains leave it to wait. -/
lemma Awaits.others (h : cl.Awaits settings goal seeds chain) (transport : Transport)
    {chains : List Chain} (hfirst : Free chains chain.first) (hwaiter : Free chains chain.waiter) :
    (chains.foldl (fun cl chain => cl.continueChain transport chain) cl).Awaits
      settings goal seeds chain :=
  ⟨setUp_foldl h.setUp transport chains, (h.first.foldl_continueChain transport chains hfirst).1,
    (h.waiter.foldl_continueChain transport chains hwaiter).1⟩

/-- A chain waits on until its first lookup ends, and then starts the second one with what that
reported. -/
lemma Awaits.continueChain (h : cl.Awaits settings goal seeds chain)
    (hgoal : ∀ key termination, goal ≠ .getValue key termination) (hne : chain.first ≠ chain.waiter)
    (hrests : Lookup.Rests (settings.lookup goal []) seeds log l)
    (hshows : Shows [] l false (cl.host.waiting chain.first) (cl.host.working chain.first))
    (transport : Transport) :
    l.state.finished = false ∧ (cl.continueChain transport chain).Awaits settings goal seeds chain ∧
        (cl.continueChain transport chain).chains = cl.chains ++ [chain] ∨
      ∃ contacts known, chain.Hands l contacts known ∧
        (cl.continueChain transport chain).Leaves chain.waiter
          (Traces (settings.lookup chain.next known) contacts (Host.announced known) false) ∧
        (cl.continueChain transport chain).chains = cl.chains := by
  obtain ⟨m, hpasses⟩ := hrests.exists_passes
  have hreported : Lookup.Reported (goal.verb []) l.state.finished l.reports :=
    (hpasses.reported rfl).2
  have hwaiter := h.waiter.spared.take_of_ne hne
  have hsetUp := h.setUp.take chain.first
  unfold Client.continueChain
  rw [← Prod.eta (cl.host.take chain.first), Host.fst_take]
  rcases hreported.contacts (Lookup.Goal.verb_ne hgoal []) with
    ⟨hopen, hnone⟩ | ⟨hended, contacts, hcontacts⟩
  · have hempty : cl.host.waiting chain.first = [] := by
      rw [hshows.1, hnone]
      rfl
    have hfirst := h.first.spared.take_self hempty
    have hkept : (cl.host.take chain.first).2.isOpen chain.first = true := by
      refine Host.isOpen_of_working ?_
      rw [hfirst.working, hshows.working hopen]
      exact List.cons_ne_nil _ _
    simp only [hempty, hkept, if_true]
    exact .inl ⟨hopen, ⟨hsetUp, h.first.host hfirst _ _, h.waiter.host hwaiter _ _⟩, trivial⟩
  · have hunused := hwaiter.unused ⟨h.waiter.spared, h.waiter.state.1, h.waiter.state.2⟩
    obtain ⟨hspared, htraces⟩ :=
      hsetUp.traces_start hunused transport chain.next contacts false
    have hitems : cl.host.waiting chain.first = [.report (.contacts contacts)] := by
      rw [hshows.1, hcontacts]
      rfl
    simp only [hitems]
    exact .inr ⟨contacts, _, ⟨hended, hcontacts, Host.known_eq_nil _⟩,
      ⟨hspared, h.waiter.awaiting, h.waiter.outcomes, htraces⟩, trivial⟩

/-- So it is when all chains go on. -/
lemma Awaits.continueChains (h : cl.Awaits settings goal seeds chain)
    (hgoal : ∀ key termination, goal ≠ .getValue key termination) (hne : chain.first ≠ chain.waiter)
    (hholds : Holds cl.chains chain) (hrests : Lookup.Rests (settings.lookup goal []) seeds log l)
    (hshows : Shows [] l false (cl.host.waiting chain.first) (cl.host.working chain.first))
    (transport : Transport) :
    l.state.finished = false ∧ (cl.continueChains transport).Awaits settings goal seeds chain ∧
        Holds (cl.continueChains transport).chains chain ∨
      ∃ contacts known, chain.Hands l contacts known ∧
        (cl.continueChains transport).Leaves chain.waiter
          (Traces (settings.lookup chain.next known) contacts (Host.announced known) false) ∧
        Free (cl.continueChains transport).chains chain.waiter := by
  obtain ⟨before, after, hchains, hfirst, hwaiter⟩ := hholds
  obtain ⟨hbefore, hafter⟩ := free_append.1 hfirst
  obtain ⟨hbefore', hafter'⟩ := free_append.1 hwaiter
  -- the chains before this one leave its channels as they are
  have hclear : ({ cl with chains := [] } : Client σ).Awaits settings goal seeds chain :=
    ⟨h.setUp, h.first.host h.first.spared.refl cl.queue [],
      h.waiter.host h.waiter.spared.refl cl.queue []⟩
  have hothers := hclear.others transport hbefore hbefore'
  have hsame : ({ cl with chains := [] } : Client σ).Leaves chain.first
      fun items ws => items = cl.host.waiting chain.first ∧ ws = cl.host.working chain.first :=
    ⟨h.first.spared, h.first.awaiting, h.first.outcomes, rfl, rfl⟩
  obtain ⟨⟨-, -, -, hwaiting, hworking⟩, more, hmore, hsubset⟩ :=
    hsame.foldl_continueChain transport before hbefore
  rw [List.nil_append] at hmore
  rw [Client.continueChains, hchains, List.foldl_append, List.foldl_cons]
  generalize before.foldl (fun cl chain => cl.continueChain transport chain)
    { cl with chains := [] } = cl₁ at hothers hwaiting hworking hmore ⊢
  rw [← hwaiting, ← hworking] at hshows
  -- and so do those after it
  rcases hothers.continueChain hgoal hne hrests hshows transport with
    ⟨hopen, hwaits, hkept⟩ | ⟨contacts, known, hhands, hleaves, hkept⟩
  · obtain ⟨-, others, hothers', hsubset'⟩ :=
      hwaits.first.foldl_continueChain transport after hafter
    refine .inl ⟨hopen, hwaits.others transport hafter hafter', more, others, ?_, ?_, ?_⟩
    · rw [hothers', hkept, hmore, List.append_assoc]
      rfl
    · exact free_append.2 ⟨hbefore.subset hsubset, hafter.subset hsubset'⟩
    · exact free_append.2 ⟨hbefore'.subset hsubset, hafter'.subset hsubset'⟩
  · obtain ⟨hall, others, hothers', hsubset'⟩ := hleaves.foldl_continueChain transport after hafter'
    refine .inr ⟨contacts, known, hhands, hall, ?_⟩
    rw [hothers', hkept, hmore]
    exact free_append.2 ⟨hbefore'.subset hsubset, hafter'.subset hsubset'⟩

end Chain

namespace Actor

variable {w : Actor σ}

lemma setUp_move (hs : w.client.host.SetUp settings) (move : Move) :
    (w.perform move).client.host.SetUp settings := by
  fun_cases perform w move with
  | case1 command =>
    rcases w.submit_cases command with hsame | ⟨accepted, late, heq⟩
    · rwa [hsame]
    · rw [heq]
      exact hs.openChannel
  | case2 hstage =>
    rcases w.take_cases with hsame | ⟨letter, queue, -, htake | htake⟩
    · rwa [hsame]
    · rwa [htake]
    · rwa [htake]
  | case3 transport serverClock d hstage => exact hs.receive transport serverClock d
  | case4 transport now hstage => exact hs.advance transport now
  | case5 transport hstage => exact setUp_continueChains hs transport
  | case6 hstage => exact setUp_answerAwaiting hs
  | case7 letter transport hstage => exact setUp_perform hs transport letter.waiter letter.command
  | case8 hstage => exact hs.congr rfl rfl rfl rfl
  | case9 hstage => exact hs
  | case10 hstage => exact hs
  | case11 hstage =>
    rcases w.answer_cases with hsame | ⟨waiter, closing, -, heq⟩
    · rwa [hsame]
    · rwa [heq]
  | case12 => exact hs

lemma setUp_after (hs : w.client.host.SetUp settings) (moves : List Move) :
    (w.after moves).client.host.SetUp settings :=
  List.foldlRecOn (motive := fun w : Actor σ => w.client.host.SetUp settings) moves perform hs
    fun _ hs move _ => setUp_move hs move

/-- Is a channel given out and left to lookups, with no command waiting for it? -/
structure Owns (w : Actor σ) (c : Host.Channel) (J : Bool → List Host.Item → List Lookup → Prop) :
    Prop where
  leaves : w.Leaves c J
  given : c < w.client.host.nextChannel
  letters : ∀ l ∈ w.pending, l.waiter ≠ c

namespace Owns

variable {c : Host.Channel} {J J' : Bool → List Host.Item → List Lookup → Prop}

/-- No command comes to wait for a channel that was given out. -/
lemma of_leaves (h : w.Owns c J) {move : Move} (hleaves : (w.perform move).Leaves c J') :
    (w.perform move).Owns c J' := by
  refine ⟨hleaves, h.given.trans_le (w.nextChannel_le_perform move), ?_⟩
  by_cases hmove : ∀ command, move ≠ .submit command
  · exact fun l hl => h.letters l ((w.pending_perform hmove).subset hl)
  · obtain ⟨command, rfl⟩ : ∃ command, move = .submit command := by simpa using hmove
    rw [perform_submit]
    rcases w.pending_submit command with hsame | ⟨hpending, -⟩
    · rw [hsame]
      exact h.letters
    · rw [hpending]
      exact List.forall_mem_append.2 ⟨h.letters, List.forall_mem_singleton.2 h.given.ne'⟩

lemma perform_of_ne (horderly : w.Orderly) (hJ : Lasting σ J) (h : w.Owns c J) {move : Move}
    (hmove : ∀ transport, move ≠ .continueChains transport) :
    (w.perform move).Owns c J ∧
      ((w.perform move).stage.isDropped = true ∧ (w.perform move).client.chains = [] ∨
        ∃ more, (w.perform move).client.chains = w.client.chains ++ more ∧ Free more c) := by
  obtain ⟨hleaves, hchains⟩ := h.leaves.perform_of_ne hJ horderly.distinct hmove
    (fun l hl hwaiter => absurd hwaiter (h.letters l hl)) fun _ => .inr h.given.ne'
  exact ⟨h.of_leaves hleaves, hchains⟩

lemma perform (horderly : w.Orderly) (hJ : Lasting σ J) (h : w.Owns c J)
    (hfree : Free w.client.chains c) (move : Move) :
    (w.perform move).Owns c J ∧ Free (w.perform move).client.chains c := by
  obtain ⟨hleaves, hchains⟩ := h.leaves.perform hJ hfree horderly.distinct move
    (fun l hl hwaiter => absurd hwaiter (h.letters l hl)) fun _ => .inr h.given.ne'
  exact ⟨h.of_leaves hleaves, hchains⟩

end Owns

/-! ### The way of a chain -/

/-- What was dropped stays so. -/
lemma isDropped_perform (hdropped : w.stage.isDropped = true) (move : Move) :
    (w.perform move).stage.isDropped = true := by
  have hstep := w.step_perform move
  generalize w.perform move = w' at hstep
  cases hstep with
  | stay => exact hdropped
  | submit command =>
    rcases w.submit_cases command with hsame | ⟨accepted, late, heq⟩
    · rwa [hsame]
    · rwa [heq]
  | take hstage => simp [hstage, Stage.isDropped] at hdropped
  | work hopen _ => simp [hopen] at hdropped
  | drop hstage => rfl
  | drain hstage => rfl
  | close hstage => rfl
  | answer hstage =>
    rcases w.answer_cases with hsame | ⟨waiter, closing, -, heq⟩
    · rwa [hsame]
    · rwa [heq]

/-- A channel shows a lookup, after some first items. -/
def Shows (w : Actor σ) (c : Host.Channel) (first : List Host.Item) (l : Lookup) : Prop :=
  Client.Shows first l w.stage.isDropped (w.client.host.waiting c) (w.client.host.working c)

/-- A chain waits for its first lookup, unless all was dropped. -/
structure Waits (settings : Host.Settings) (goal : Lookup.Goal) (seeds : List Contact)
    (chain : Chain) (w : Actor σ) : Prop where
  first : w.Owns chain.first (Traces (settings.lookup goal []) seeds [])
  waiter : w.Owns chain.waiter (Rest [])
  held : w.stage.isDropped = true ∨ Holds w.client.chains chain

/-- The second lookup of a chain has started with some contacts. -/
structure Proceeds (settings : Host.Settings) (contacts : List Contact) (known : List Bytes)
    (chain : Chain) (w : Actor σ) : Prop where
  waiter : w.Owns chain.waiter
    (Traces (settings.lookup chain.next known) contacts (Host.announced known))
  free : Free w.client.chains chain.waiter

section Chain

variable {chain : Chain} {goal : Lookup.Goal} {seeds contacts : List Contact} {known : List Bytes}
  {log : List Lookup.Landing} {l : Lookup}

/-- Until its first lookup ends a chain waits on, and then its second one starts. -/
lemma Waits.continueChains (hs : w.client.host.SetUp settings)
    (hgoal : ∀ key termination, goal ≠ .getValue key termination) (hne : chain.first ≠ chain.waiter)
    (h : w.Waits settings goal seeds chain) (hreading : w.stage = .reading)
    (hrests : Lookup.Rests (settings.lookup goal []) seeds log l) (hshows : w.Shows chain.first [] l)
    (transport : Transport) :
    l.state.finished = false ∧
        (w.perform (.continueChains transport)).Waits settings goal seeds chain ∨
      ∃ contacts known, chain.Hands l contacts known ∧
        (w.perform (.continueChains transport)).Proceeds settings contacts known chain := by
  have hopen : w.stage.isDropped = false := hreading ▸ rfl
  have hholds := h.held.resolve_left (by simp [hopen])
  have hperform : w.perform (.continueChains transport) =
      { w with client := w.client.continueChains transport } := by
    simp only [Actor.perform, hreading]
  have howns {c : Host.Channel} {J J' : Bool → List Host.Item → List Lookup → Prop}
      (h : w.Owns c J) (hleaves : (w.client.continueChains transport).Leaves c (J' false)) :
      (w.perform (.continueChains transport)).Owns c J' := by
    refine h.of_leaves ?_
    rw [hperform]
    exact ⟨hopen.symm ▸ hleaves, h.leaves.closing⟩
  have hawaits : w.client.Awaits settings goal seeds chain :=
    ⟨hs, hopen ▸ h.first.leaves.client, hopen ▸ h.waiter.leaves.client⟩
  rcases hawaits.continueChains hgoal hne hholds hrests (hopen ▸ hshows) transport with
    ⟨hgoing, hwaits, hholds'⟩ | ⟨contacts, known, hhands, hleaves, hfree⟩
  · exact .inl ⟨hgoing, howns h.first hwaits.first, howns h.waiter hwaits.waiter,
      .inr (hperform ▸ hholds')⟩
  · exact .inr ⟨contacts, known, hhands, howns h.waiter hleaves, hperform ▸ hfree⟩

/-- Nothing else ends the waiting of a chain. -/
lemma Waits.perform (horderly : w.Orderly) (h : w.Waits settings goal seeds chain) {move : Move}
    (hmove : w.stage = .reading → ∀ transport, move ≠ .continueChains transport) :
    (w.perform move).Waits settings goal seeds chain := by
  by_cases hchains : ∀ transport, move ≠ .continueChains transport
  · obtain ⟨first, hfirst⟩ := h.first.perform_of_ne horderly (lasting_traces _ _ _) hchains
    obtain ⟨waiter, hwaiter⟩ := h.waiter.perform_of_ne horderly (lasting_rest _) hchains
    refine ⟨first, waiter, ?_⟩
    rcases h.held with hdropped | hholds
    · exact .inl (isDropped_perform hdropped move)
    rcases hfirst with ⟨hdropped, -⟩ | ⟨more, hmore, hfree⟩
    · exact .inl hdropped
    rcases hwaiter with ⟨hdropped, -⟩ | ⟨more', hmore', hfree'⟩
    · exact .inl hdropped
    obtain rfl := List.append_cancel_left (hmore.symm.trans hmore')
    exact .inr (hmore ▸ hholds.append hfree hfree')
  · obtain ⟨transport, rfl⟩ : ∃ transport, move = .continueChains transport := by
      simpa using hchains
    cases hstage : w.stage with
    | reading => exact absurd rfl (hmove hstage transport)
    | _ => simpa only [Actor.perform, hstage] using h

lemma Proceeds.perform (horderly : w.Orderly) (h : w.Proceeds settings contacts known chain)
    (move : Move) : (w.perform move).Proceeds settings contacts known chain := by
  obtain ⟨waiter, free⟩ := h.waiter.perform horderly (lasting_traces _ _ _) h.free move
  exact ⟨waiter, free⟩

/-- Whatever an actor does, a chain waits on, or its first lookup had ended when all chains went on once,
and its second lookup started then with what the first one had reported. -/
theorem Waits.after (horderly : w.Orderly) (hs : w.client.host.SetUp settings)
    (hgoal : ∀ key termination, goal ≠ .getValue key termination) (hne : chain.first ≠ chain.waiter)
    (h : w.Waits settings goal seeds chain) (moves : List Move) :
    (w.after moves).Waits settings goal seeds chain ∨
      ∃ earlier transport later l contacts known,
        moves = earlier ++ .continueChains transport :: later ∧
        (∃ log, Lookup.Rests (settings.lookup goal []) seeds log l) ∧
        (w.after earlier).Shows chain.first [] l ∧ chain.Hands l contacts known ∧
        (w.after moves).Proceeds settings contacts known chain := by
  induction moves using List.reverseRecOn with
  | nil => exact .inl h
  | append_singleton moves move ih =>
    have horderly' := horderly.after moves
    rw [after_append]
    rcases ih with hwaits |
      ⟨earlier, transport, later, l, contacts, known, rfl, hran, hshows, hhands, hproceeds⟩
    · by_cases hmove : (w.after moves).stage = .reading → ∀ transport, move ≠ .continueChains transport
      · exact .inl (hwaits.perform horderly' hmove)
      · push Not at hmove
        obtain ⟨hreading, transport, rfl⟩ := hmove
        obtain ⟨l, log, hrests, hshows⟩ := hwaits.first.leaves.client.state
        rcases hwaits.continueChains (setUp_after hs moves) hgoal hne hreading hrests hshows transport
          with ⟨-, hwaits'⟩ | ⟨contacts, known, hhands, hproceeds⟩
        · exact .inl hwaits'
        · exact .inr ⟨moves, transport, [], l, contacts, known, rfl, ⟨log, hrests⟩, hshows, hhands,
            hproceeds⟩
    · exact .inr ⟨earlier, transport, later ++ [move], l, contacts, known, by simp, hran, hshows,
        hhands, hproceeds.perform horderly' move⟩

/-- When a command is worked on that takes two lookups, the first one starts on a channel of its own. -/
lemma waits_handle (horderly : w.Orderly) (hs : w.client.host.SetUp settings)
    (hgoal : ∀ key termination, goal ≠ .getValue key termination) {letter : Letter}
    (hstage : w.stage = .handling letter) {next : Lookup.Goal} (transport : Transport)
    (hperform : w.client.perform transport letter.waiter letter.command =
      w.client.chain transport goal next letter.waiter) :
    w.client.host.nextChannel ≠ letter.waiter ∧
      (w.perform (.handle transport)).Waits settings goal
        (w.client.host.table.closest goal.target settings.k)
        ⟨w.client.host.nextChannel, next, letter.waiter⟩ := by
  have hpending : w.pending = letter :: w.client.queue := by simp [pending, hstage, Stage.letter?]
  have hmem : letter ∈ w.pending := hpending ▸ List.mem_cons_self
  have hopen : w.stage.isDropped = false := hstage ▸ rfl
  have hgiven := horderly.given letter hmem
  obtain ⟨hnew, hnewFree⟩ := horderly.clear _ (.inl le_rfl)
  obtain ⟨hwaiter, hwaiterFree⟩ := horderly.clear letter.waiter (.inr ⟨letter, hmem, rfl⟩)
  have hawaits := awaits_chain hs (hopen ▸ hnew.client) (hopen ▸ hwaiter.client) hgiven.ne' hgoal
    transport next
  have hstep : w.perform (.handle transport) =
      { w with
        stage := .reading
        client := w.client.chain transport goal next letter.waiter } := by
    simp only [Actor.perform, hstage, hperform]
  have hlater : w.client.host.nextChannel <
      (w.perform (.handle transport)).client.host.nextChannel := by
    rw [hstep]
    exact (Nat.lt_succ_self _).trans_eq
      (Host.nextChannel_lookUp w.client.host.openChannel.2 transport goal _).symm
  have hqueue : ∀ l ∈ (w.perform (.handle transport)).pending, l ∈ w.client.queue := by
    rw [hstep]
    exact fun l hl => hl
  have hdistinct := horderly.distinct
  rw [hpending, List.map_cons, List.nodup_cons] at hdistinct
  refine ⟨hgiven.ne', ⟨?_, hlater, fun l hl => ?_⟩, ⟨?_, hgiven.trans hlater, fun l hl heq => ?_⟩,
    .inr ?_⟩
  · rw [hstep]
    exact ⟨hawaits.first, hnew.closing⟩
  · exact (horderly.given l (hpending ▸ List.mem_cons_of_mem _ (hqueue l hl))).ne
  · rw [hstep]
    exact ⟨hawaits.waiter, hwaiter.closing⟩
  · exact hdistinct.1 (List.mem_map.2 ⟨l, hqueue l hl, heq⟩)
  · rw [hstep]
    exact ⟨w.client.chains, [], rfl, (List.append_nil w.client.chains).symm ▸ hnewFree,
      (List.append_nil w.client.chains).symm ▸ hwaiterFree⟩

end Chain

end Actor

end Client

end Kademlia
