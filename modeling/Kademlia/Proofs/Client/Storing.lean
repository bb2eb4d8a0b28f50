import Kademlia.Proofs.Client.Chains
import Kademlia.Proofs.Lookup.Fetching
import Kademlia.Proofs.Lookup.Handed
import Kademlia.Proofs.Lookup.Requests

/-!
# Storing a value

To store a value a client looks for the nodes closest to its key, and then asks those of them that
handed out a token. Each of these requests carries the token of the node that it is sent to, and the
caller gets the contacts that acknowledged.
-/

namespace Kademlia.Client

open Wire Exchange Service

/-! ### The two lookups -/

/-- A lookup for the nodes closest to a key. -/
def Searches (settings : Host.Settings) (key : Id) (seeds : List Contact) (l : Lookup) : Prop :=
  ∃ log, Lookup.Rests (settings.lookup (.findNode key) []) seeds log l

/-- A lookup that stores a value at the nodes which another one found. -/
def Stores (settings : Host.Settings) (key : Id) (value : Bytes) (l l' : Lookup) : Prop :=
  ∃ log, Lookup.Rests (settings.lookup (.storeValue key value) []) l.next log l'

/-- What the second lookup asks for and reports when so many requests of the two landed. -/
structure Redeemed (settings : Host.Settings) (key : Id) (value : Bytes) (seeds : List Contact)
    (log log' : List Lookup.Landing) (l' : Lookup) : Prop where
  /-- Each request carries the token that the contact which it is for handed out to the first lookup. -/
  tokens : ∀ a ∈ l'.asked, a.Redeems key value settings.k
    (Lookup.firsts settings.id (seeds ++ Lookup.heard .findNode log)) log
  /-- Who handed out no token is not asked. -/
  refused : ∀ d ∈ log, (∀ answer : FindNode.Answer, d.Answers answer → answer.token = []) →
    ∀ a ∈ l'.asked, a.contact.id ≠ d.flight.contact.id
  /-- Those that acknowledged are reported at the end, and nothing before. -/
  reports : l'.reports =
    if l'.state.finished then [.contacts (Lookup.acknowledged (Lookup.timely log'))] else []
  /-- Whoever acknowledged had got a request. -/
  acknowledged : ∀ c ∈ Lookup.acknowledged (Lookup.timely log'), ∃ d ∈ log', d.flight.contact = c ∧
    (∃ answer : StoreValue.Answer, d.Answers answer) ∧ ∃ a ∈ l'.asked, d.flight.Makes a

section Lookups

variable {settings : Host.Settings} {key : Id} {value : Bytes} {seeds : List Contact}
  {channel waiter : Host.Channel} {l l' : Lookup}

lemma Searches.hands (h : Searches settings key seeds l) {contacts : List Contact}
    {known : List Bytes}
    (hhands : Chain.Hands ⟨channel, .storeValue key value, waiter⟩ l contacts known) :
    l.next = contacts ∧ known = [] := by
  obtain ⟨log, hrests⟩ := h
  obtain ⟨m, hpasses⟩ := hrests.exists_passes
  have hreports : l.reports = [.contacts l.next] := hpasses.reports_findNode hhands.ended
  exact ⟨by simpa [hreports] using hhands.reports, hhands.knows (by simp)⟩

lemma redeemed_of_rests (hseeds : ∀ c ∈ seeds, c.token = none) {log log' : List Lookup.Landing}
    (h : Lookup.Rests (settings.lookup (.findNode key) []) seeds log l)
    (h' : Lookup.Rests (settings.lookup (.storeValue key value) []) l.next log' l') :
    Redeemed settings key value seeds log log' l' := by
  obtain ⟨m, hpasses⟩ := h.exists_passes
  obtain ⟨m', hpasses'⟩ := h'.exists_passes
  have htokens := hpasses.redeems hseeds hpasses'
  exact ⟨htokens, fun d hd hnone a ha => (htokens a ha).ne hpasses hd hnone,
    hpasses'.collects.reports, fun c hc => hpasses'.answered_of_mem_acknowledged hc⟩

end Lookups

/-! ### A store among all that an actor does -/

namespace Actor

section Store

variable {σ : Type} {settings : Host.Settings} {key : Id} {value : Bytes} {seeds : List Contact}
  {channel waiter : Host.Channel} {l l' : Lookup} {w : Actor σ}

lemma Owns.sent {J : Bool → List Host.Item → List Lookup → Prop} (h : w.Owns waiter J) :
    w.sent waiter = (w.client.host.waiting waiter).map .item := by
  have hnone : w.client.outcomes.filter (fun o => o.1 == waiter) = [] := by
    refine List.filter_eq_nil_iff.2 fun o ho => ?_
    simpa using h.leaves.client.outcomes o ho
  simp [Actor.sent, Client.take, List.partition_eq_filter_filter, hnone, Host.fst_take]

/-- The value is not stored yet: the nodes are still looked for, or they are not asked yet. -/
structure Seeks [Server σ] (settings : Host.Settings) (key : Id) (value : Bytes) (seeds : List Contact)
    (channel waiter : Host.Channel) (l : Lookup) (w : Actor σ) : Prop where
  searches : Searches settings key seeds l
  shows : w.Shows channel [] l
  /-- The caller got nothing, and nothing is on its way. -/
  sent : w.sent waiter = []
  idle : w.client.host.working waiter = []
  /-- If the nodes are found, they are asked as soon as the chains go on. -/
  continues : w.stage = .reading → l.state.finished = true → ∀ transport, ∃ l',
    Stores settings key value l l' ∧ (w.perform (.continueChains transport)).Shows waiter [] l'

/-- The value is being stored at the nodes that were found. -/
structure Delivers (settings : Host.Settings) (key : Id) (value : Bytes) (seeds : List Contact)
    (waiter : Host.Channel) (l l' : Lookup) (w : Actor σ) : Prop where
  searches : Searches settings key seeds l
  ended : l.state.finished = true
  stores : Stores settings key value l l'
  shows : w.Shows waiter [] l'
  /-- The caller got what the second lookup reported. -/
  sent : w.sent waiter = l'.reports.map fun report => .item (.report report)
  redeemed : ∀ log log', Lookup.Rests (settings.lookup (.findNode key) []) seeds log l →
    Lookup.Rests (settings.lookup (.storeValue key value) []) l.next log' l' →
    Redeemed settings key value seeds log log' l'

lemma Waits.seeks [Server σ] (hs : w.client.host.SetUp settings) (hne : channel ≠ waiter)
    (h : w.Waits settings (.findNode key) seeds ⟨channel, .storeValue key value, waiter⟩) :
    ∃ l, w.Seeks settings key value seeds channel waiter l := by
  obtain ⟨l, log, hrests, hshows⟩ := h.first.leaves.client.state
  obtain ⟨hsilent, hidle⟩ := h.waiter.leaves.client.state
  refine ⟨l, ⟨log, hrests⟩, hshows, ?_, hidle, fun hreading hended transport => ?_⟩
  · rw [h.waiter.sent, hsilent]
    rfl
  · rcases h.continueChains hs (by simp) hne hreading hrests hshows transport with
      ⟨hopen, -⟩ | ⟨contacts, known, hhands, hproceeds⟩
    · exact absurd (hended.symm.trans hopen) (by simp)
    · have hsearches : Searches settings key seeds l := ⟨log, hrests⟩
      obtain ⟨rfl, rfl⟩ := hsearches.hands hhands
      obtain ⟨l', log', hrests', hshows'⟩ := hproceeds.waiter.leaves.client.state
      exact ⟨l', ⟨log', hrests'⟩, hshows'⟩

lemma Proceeds.delivers (hseeds : ∀ c ∈ seeds, c.token = none)
    (hsearches : Searches settings key seeds l) (hended : l.state.finished = true)
    (h : w.Proceeds settings l.next [] ⟨channel, .storeValue key value, waiter⟩) :
    ∃ l', w.Delivers settings key value seeds waiter l l' := by
  obtain ⟨l', log', hrests', hshows'⟩ := h.waiter.leaves.client.state
  refine ⟨l', hsearches, hended, ⟨log', hrests'⟩, hshows', ?_,
    fun log log' => redeemed_of_rests hseeds⟩
  rw [h.waiter.sent, show w.client.host.waiting waiter = _ from hshows'.1]
  exact List.map_map

/-- Every request of a store carries the token of the node that it is sent to, and its caller gets one
list at most, of nodes that acknowledged such a request. -/
theorem store_requests_carry_tokens [Server σ] (settings : Host.Settings) (server : σ) (entropy : Entropy)
    (outset : Transport) (before : List Move) (key : Id) (value : Bytes) (waiter : Host.Channel)
    (hstage : (run (.new settings server entropy outset) before).stage =
      .handling ⟨.store key value, waiter⟩) :
    let w := run (.new settings server entropy outset) before
    let channel := w.client.host.nextChannel
    let seeds := w.client.host.table.closest key settings.k
    -- whatever a lookup sends is a request that it asked for
    (∀ (l : Lookup) (site : Lookup.Site) (m : Multiplexer),
      (∀ contacts, ∃ sent, (l.launch site contacts m).2.outbox = m.outbox ++ sent ∧
        ∀ d ∈ sent, ∃ a ∈ (l.launch site contacts m).1.asked, a.Sends site.self d) ∧
      ∃ sent, (l.tick site m).2.1.outbox = m.outbox ++ sent ∧
        ∀ d ∈ sent, ∃ a ∈ (l.tick site m).1.asked, a.Sends site.self d) ∧
    ∀ transport moves,
      let w' := w.after (.handle transport :: moves)
      (∃ l, w'.Seeks settings key value seeds channel waiter l) ∨
      -- the chains went on once, when the nodes were found
      ∃ earlier transport' later l l', moves = earlier ++ .continueChains transport' :: later ∧
        (w.after (.handle transport :: earlier)).Shows channel [] l ∧
        w'.Delivers settings key value seeds waiter l l' := by
  intro w channel seeds
  refine ⟨fun l site m => ⟨fun contacts => l.outbox_launch site contacts m, l.outbox_tick site m⟩,
    fun transport moves => ?_⟩
  have horderly : w.Orderly := orderly_run settings server entropy outset before
  have hs : w.client.host.SetUp settings :=
    setUp_after (w := of _) (Host.setUp_new settings server entropy outset) before
  have hseeds : ∀ c ∈ seeds, c.token = none := hs.table.token_closest key settings.k
  obtain ⟨hne, hwaits⟩ : channel ≠ waiter ∧ (w.perform (.handle transport)).Waits settings
      (.findNode key) seeds ⟨channel, .storeValue key value, waiter⟩ :=
    waits_handle horderly hs (by simp) hstage transport rfl
  have hs' := setUp_move hs (.handle transport)
  rcases hwaits.after (horderly.perform _) hs' (by simp) hne moves with hwaits' |
    ⟨earlier, transport', later, l, contacts, known, hmoves, hran, hshows, hhands, hproceeds⟩
  · exact .inl (hwaits'.seeks (setUp_after hs' moves) hne)
  · have hsearches : Searches settings key seeds l := hran
    obtain ⟨rfl, rfl⟩ := hsearches.hands hhands
    obtain ⟨l', hdelivers⟩ := hproceeds.delivers hseeds hsearches hhands.ended
    exact .inr ⟨earlier, transport', later, l, l', hmoves, hshows, hdelivers⟩

end Store

/-! ### A run with two nodes -/

namespace Deposit

open Lookup.Overshoot (holder)

def settings : Host.Settings :=
  { id := (holder 9 0).id, address := (holder 9 0).address }

def transport : Transport := fun _ => none

def entropy : Entropy := ⟨fun n => n, 0⟩

def server : ValueService :=
  .start .standard 0 entropy

/-- The key of the value. -/
def key : Id :=
  (holder 0 0).id

/-- Something comes from a node. -/
def incoming (b transaction : UInt8) (body : Bencode.Dict → Body)
    (entries : List (Bytes × Bencode.Value)) : Move :=
  let payload := Bencode.Dict.ofEntries ((Key.id, .bytes (holder b 0).id.bytes) :: entries)
  .receive transport 0 ⟨(holder b 0).address, (Message.mk [0, 0, 0, transaction] none (body payload)).encode⟩

/-- Two nodes say hello, and then a value is to be stored. -/
def before : List Move :=
  [incoming 1 0 (fun payload => .request ⟨Method.ping, payload⟩) [],
    incoming 2 0 (fun payload => .request ⟨Method.ping, payload⟩) [],
    .submit (.store key [118]), .take]

/-- Both answer, only node 1 with a token, and it acknowledges the value. -/
def moves : List Move :=
  [incoming 1 0 .response [(Field.nodes.key, .bytes []), (Field.token.key, .bytes [7])],
    incoming 2 1 .response [(Field.nodes.key, .bytes [])],
    .advance transport 1, .continueChains transport,
    incoming 1 4 .response [], .advance transport 2]

def begun : Actor ValueService :=
  run (.new settings server entropy transport) before

def ended : Actor ValueService :=
  begun.after (.handle transport :: moves)

/-- Node 1 as it is reported. -/
def keeper : Contact :=
  { holder 1 0 with token := some [7] }

end Deposit

/-- The node that handed out a token got it back with the value, and is reported. -/
theorem store_requests_carry_tokens_deposit :
    Deposit.begun.stage = .handling ⟨.store Deposit.key [118], 0⟩ ∧
      ∃ l l', Deposit.ended.Delivers Deposit.settings Deposit.key [118]
          (Deposit.begun.client.host.table.closest Deposit.key Deposit.settings.k) 0 l l' ∧
        ⟨Deposit.keeper, .storeValue Deposit.key [118] [7], 1⟩ ∈ l'.asked ∧
        l'.reports = [.contacts [Deposit.keeper]] := by
  have hstage : Deposit.begun.stage = .handling ⟨.store Deposit.key [118], 0⟩ := by decide +kernel
  have hsent : Deposit.ended.sent 0 = [.item (.report (.contacts [Deposit.keeper]))] := by cbv
  refine ⟨hstage, ?_⟩
  rcases (store_requests_carry_tokens Deposit.settings Deposit.server Deposit.entropy
    Deposit.transport Deposit.before Deposit.key [118] 0 hstage).2 Deposit.transport Deposit.moves with
    ⟨l, hseeks⟩ | ⟨-, -, -, l, l', -, -, hdelivers⟩
  · exact absurd (hsent.symm.trans hseeks.sent) (by simp)
  · have hreports : l'.reports = [.contacts [Deposit.keeper]] := by
      have hdelivered := hdelivers.sent.symm.trans hsent
      simpa [List.map_eq_cons_iff] using hdelivered
    obtain ⟨log, hrests⟩ := hdelivers.searches
    obtain ⟨log', hrests'⟩ := hdelivers.stores
    have hredeemed := hdelivers.redeemed log log' hrests hrests'
    have hacknowledged : Deposit.keeper ∈ Lookup.acknowledged (Lookup.timely log') := by
      have hlist := hreports.symm.trans hredeemed.reports
      split at hlist
      · rw [← Lookup.Report.contacts.inj (List.head_eq_of_cons_eq hlist)]
        exact List.mem_singleton_self _
      · cases hlist
    obtain ⟨d, -, hcontact, -, a, ha, hmakes⟩ := hredeemed.acknowledged _ hacknowledged
    obtain ⟨e, -, answer, -, -, -, rfl⟩ := hredeemed.tokens a ha
    have hkeeper : { e.flight.contact with token := some answer.token } = Deposit.keeper :=
      hmakes.contact.symm.trans hcontact
    have htoken : answer.token = [7] := Option.some.inj (congrArg Contact.token hkeeper)
    rw [hkeeper, htoken] at ha
    exact ⟨l, l', hdelivers, ha, hreports⟩

end Actor

end Kademlia.Client
