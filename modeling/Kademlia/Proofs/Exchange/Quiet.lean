import Kademlia.Exchange.Call
import Kademlia.Proofs.Exchange.Step
import Kademlia.Proofs.Exchange.Verification

/-!
# Between two datagrams

As long as no datagram is taken in, a multiplexer gives nobody a response: it sends requests under
new tickets, gives up some that wait and hands out what was given before. So whoever holds the
ticket of a request to an address can only be given a response from there.
-/

namespace Kademlia.Exchange

open Bencode Wire

/-- Is the request of a transaction to an address among these datagrams? -/
def Transaction.SentIn (t : Transaction) (a : Address) (ds : List Datagram) : Prop :=
  ∃ query : Query, query.method = t.method ∧
    ⟨a, (Message.mk t.id (some version) (.request query)).encode⟩ ∈ ds

/-- Does a call take a response of the node with an identifier? -/
def Call.Welcomes (c : Call) (id : Id) : Prop :=
  ∀ expected, c.expected = some expected → expected = id

namespace Multiplexer

/-- What a multiplexer does without taking in a datagram. -/
structure Quiet (m m' : Multiplexer) : Prop where
  sound : m'.Sound
  next : m.nextTicket ≤ m'.nextTicket
  outbox : m.outbox <+: m'.outbox
  waiting : ∀ a, ∀ t ∈ m'.transactions a, t ∈ m.transactions a ∨
    m.nextTicket ≤ t.ticket ∧ t.ticket < m'.nextTicket ∧ t.SentIn a m'.outbox
  answered : ∀ d ∈ m'.delivered, ∀ r, d.reply = .ok r → d ∈ m.delivered

/-- Can a call be given no response but one from this address, and is its author spoken for if it is
whom the call welcomes? -/
structure Promised (V : Id → Address → Prop) (m : Multiplexer) (c : Call) (a : Address) : Prop where
  issued : c.ticket < m.nextTicket
  waiting : ∀ b, ∀ t ∈ m.transactions b, t.ticket = c.ticket → b = a
  answered : ∀ d ∈ m.delivered, d.ticket = c.ticket → ∀ r, d.reply = .ok r →
    r.source = a ∧ ∀ id, authorOf r.payload = some id → c.Welcomes id → V id a

/-- What waits was sent, before the outbox was emptied or after, and all tickets in use were given
out. -/
structure Grounded (sent : List Datagram) (m : Multiplexer) : Prop where
  sound : m.Sound
  issued : ∀ a, ∀ t ∈ m.transactions a, t.ticket < m.nextTicket
  waiting : ∀ a, ∀ t ∈ m.transactions a, t.SentIn a (sent ++ m.outbox)
  answered : ∀ d ∈ m.delivered, ∀ r, d.reply = .ok r → d.ticket < m.nextTicket

variable {m m' m'' : Multiplexer} {c : Call} {a : Address}
  {V : Id → Address → Prop} {sent : List Datagram}

lemma Quiet.refl (h : m.Sound) : m.Quiet m where
  sound := h
  next := le_rfl
  outbox := List.prefix_rfl
  waiting := fun _ _ ht => .inl ht
  answered := fun _ hd _ _ => hd

lemma Quiet.trans (h : m.Quiet m') (h' : m'.Quiet m'') : m.Quiet m'' where
  sound := h'.sound
  next := h.next.trans h'.next
  outbox := h.outbox.trans h'.outbox
  waiting := by
    intro a t ht
    rcases h'.waiting a t ht with ht | ⟨hle, hlt, hsent⟩
    · refine (h.waiting a t ht).imp_right fun ⟨hle, hlt, query, hmethod, hsent⟩ => ?_
      exact ⟨hle, hlt.trans_le h'.next, query, hmethod, h'.outbox.subset hsent⟩
    · exact .inr ⟨h.next.trans hle, hlt, hsent⟩
  answered := fun d hd r hr => h.answered d (h'.answered d hd r hr) r hr

lemma Promised.quiet (h : m.Promised V c a) (hquiet : m.Quiet m') : m'.Promised V c a where
  issued := h.issued.trans_le hquiet.next
  waiting := by
    intro b t ht hticket
    rcases hquiet.waiting b t ht with ht | ⟨hle, -⟩
    · exact h.waiting b t ht hticket
    · exact absurd h.issued (hticket ▸ hle.not_gt)
  answered := fun d hd hticket r hr => h.answered d (hquiet.answered d hd r hr) hticket r hr

lemma Grounded.quiet (h : m.Grounded sent) (hquiet : m.Quiet m') : m'.Grounded sent where
  sound := hquiet.sound
  issued := by
    intro a t ht
    rcases hquiet.waiting a t ht with ht | ⟨-, hlt, -⟩
    · exact (h.issued a t ht).trans_le hquiet.next
    · exact hlt
  waiting := by
    intro a t ht
    rcases hquiet.waiting a t ht with ht | ⟨-, -, query, hmethod, hsent⟩
    · obtain ⟨query, hmethod, hsent⟩ := h.waiting a t ht
      refine ⟨query, hmethod, List.mem_append.2 ((List.mem_append.1 hsent).imp_right ?_)⟩
      exact fun hout => hquiet.outbox.subset hout
    · exact ⟨query, hmethod, List.mem_append_right _ hsent⟩
  answered := fun d hd r hr =>
    (h.answered d (hquiet.answered d hd r hr) r hr).trans_le hquiet.next

/-! ### Requests -/

lemma Sound.quiet_reject (h : m.Sound) (e : CallError) : m.Quiet (m.reject e).2 where
  sound := h.congr rfl rfl
  next := Nat.le_succ _
  outbox := List.prefix_append _ _
  waiting := fun _ _ ht => .inl ht
  answered := by
    intro d hd r hr
    rcases List.mem_append.1 hd with hd | hd
    · exact hd
    · obtain rfl := List.mem_singleton.1 hd
      simp at hr

lemma Sound.quiet_request (h : m.Sound) (transport : Transport) (address : Address)
    (method : String) (arguments : Dict) (now : Nat) :
    m.Quiet (m.request transport address method arguments now).2 := by
  obtain ⟨-, hnext, -, hsound, -⟩ := h.request transport address method arguments now
  rcases h.request_cases transport address method arguments now with
    ⟨e, -, hdelivered, houtbox, hkept⟩ | ⟨-, hdelivered, houtbox, hkept⟩
  · refine ⟨hsound, hnext ▸ Nat.le_succ _, houtbox ▸ List.prefix_rfl, ?_, ?_⟩
    · exact fun a t ht => .inl (hkept a ▸ ht)
    · intro d hd r hr
      rcases List.mem_append.1 (hdelivered ▸ hd) with hd | hd
      · exact hd
      · obtain rfl := List.mem_singleton.1 hd
        simp at hr
  · refine ⟨hsound, hnext ▸ Nat.le_succ _, houtbox ▸ List.prefix_append _ _, ?_, ?_⟩
    · intro a t ht
      replace ht := hkept a ▸ ht
      split_ifs at ht with ha
      · rcases List.mem_cons.1 ht with rfl | ht
        · refine .inr ⟨le_rfl, hnext ▸ Nat.lt_succ_self _, ⟨method, arguments⟩, rfl, ?_⟩
          rw [houtbox, ha]
          exact List.mem_append_right _ (List.mem_singleton_self _)
        · exact .inl (ha ▸ ht)
      · exact .inl ht
    · exact fun d hd _ _ => hdelivered ▸ hd

/-- A request waits in the session with the address that is asked, and nothing was given for its
ticket before. -/
lemma Grounded.promised_request (h : m.Grounded sent) (transport : Transport) (address : Address)
    (method : String) (arguments : Dict) (now : Nat) (expected : Option Id) :
    let step := m.request transport address method arguments now
    step.2.Promised V ⟨step.1, expected⟩ address := by
  intro step
  obtain ⟨hticket, hnext, -⟩ := h.sound.request transport address method arguments now
  have hold {b : Address} {t : Transaction} (ht : t ∈ m.transactions b) :
      t.ticket ≠ m.nextTicket := (h.issued b t ht).ne
  simp only [step, hticket]
  refine ⟨hnext ▸ Nat.lt_succ_self _, fun b t ht hteq => ?_, fun d hd hteq r hr => ?_⟩
  · rcases h.sound.request_cases transport address method arguments now with
      ⟨e, -, -, -, hkept⟩ | ⟨-, -, -, hkept⟩
    · exact absurd hteq (hold (hkept b ▸ ht))
    · replace ht := hkept b ▸ ht
      split_ifs at ht with hb
      · exact hb
      · exact absurd hteq (hold ht)
  · have hd := (h.sound.quiet_request transport address method arguments now).answered d hd r hr
    exact absurd hteq (h.answered d hd r hr).ne

lemma Sound.quiet_call (h : m.Sound) (transport : Transport) (self : Id) (address : Address)
    (expected : Option Id) (r : Request) (now : Nat) :
    m.Quiet (m.call transport self address expected r now).2 := by
  unfold call
  cases r.arguments self with
  | ok arguments => exact h.quiet_request ..
  | error e => exact h.quiet_reject _

lemma Grounded.promised_call (h : m.Grounded sent) (transport : Transport) (self : Id)
    (address : Address) (expected : Option Id) (r : Request) (now : Nat) :
    let step := m.call transport self address expected r now
    step.2.Promised V step.1 address := by
  intro step
  simp only [step, call]
  cases r.arguments self with
  | ok arguments => exact h.promised_request ..
  | error e =>
    refine ⟨Nat.lt_succ_self _, fun b t ht hteq => ?_, fun d hd hteq r hr => ?_⟩
    · exact absurd hteq (h.issued b t ht).ne
    · have hd := (h.sound.quiet_reject (.internal e.message)).answered d hd r hr
      exact absurd hteq (h.answered d hd r hr).ne

/-! ### Ends -/

lemma Sound.quiet_expire (h : m.Sound) (now : Nat) : m.Quiet (m.expire now) where
  sound := h.expire now
  next := le_rfl
  outbox := List.prefix_rfl
  waiting := fun a t ht => .inl (List.mem_of_mem_filter (h.transactions_expire now a ▸ ht))
  answered := by
    intro d hd r hr
    rcases h.mem_delivered_expire hd with hd | ⟨a, t, -, rfl⟩
    · exact hd
    · simp at hr

lemma Sound.quiet_stop (h : m.Sound) : m.Quiet m.stop where
  sound := .stop m
  next := le_rfl
  outbox := List.prefix_rfl
  waiting := fun _ _ ht => absurd ht List.not_mem_nil
  answered := by
    intro d hd r hr
    rcases h.mem_delivered_stop hd with hd | ⟨a, t, -, rfl⟩
    · exact hd
    · simp at hr

/-- Looking for a reply takes nothing but one that was given. -/
lemma collect_eq (m : Multiplexer) (ticket : Ticket) :
    ∃ delivered, (m.collect ticket).2 = { m with delivered } ∧ delivered ⊆ m.delivered ∧
      ∀ reply, (m.collect ticket).1 = .ready reply → ⟨ticket, reply⟩ ∈ m.delivered := by
  unfold collect
  cases hfind : m.delivered.find? fun d => d.ticket == ticket with
  | some d =>
    refine ⟨_, rfl, List.eraseP_subset, fun reply hready => ?_⟩
    obtain rfl := Poll.ready.inj hready
    have hticket : d.ticket = ticket := by simpa using List.find?_some hfind
    exact hticket ▸ List.mem_of_find?_eq_some hfind
  | none =>
    dsimp only
    split
    all_goals exact ⟨m.delivered, rfl, List.Subset.refl _, by simp⟩

/-- So does looking for the reply to a call. -/
lemma exists_snd_poll (m : Multiplexer) (c : Call) :
    ∃ delivered, (c.poll m).2 = { m with delivered } ∧ delivered ⊆ m.delivered := by
  obtain ⟨delivered, heq, hsub, -⟩ := m.collect_eq c.ticket
  refine ⟨delivered, ?_, hsub⟩
  rw [← heq, Call.poll]
  split <;> simp_all

lemma Sound.quiet_poll (h : m.Sound) (c : Call) : m.Quiet (c.poll m).2 := by
  obtain ⟨delivered, hpoll, hsub⟩ := m.exists_snd_poll c
  rw [hpoll]
  exact ⟨h.congr rfl rfl, le_rfl, List.prefix_rfl, fun _ _ ht => .inl ht, fun d hd _ _ => hsub hd⟩

end Multiplexer

/-- A verified response names its author, whom the call welcomes. -/
lemma Call.exists_of_poll {c : Call} {m : Multiplexer} {r : Response}
    (h : (c.poll m).1 = some (.ok r)) :
    ⟨c.ticket, .ok r⟩ ∈ m.delivered ∧ ∃ author, authorOf r.payload = some author ∧ c.Welcomes author := by
  obtain ⟨-, -, -, hready⟩ := m.collect_eq c.ticket
  obtain ⟨hcollect, author, hauthor, hwelcomes⟩ := collect_of_poll h
  exact ⟨hready _ hcollect, author, hauthor, hwelcomes⟩

/-- The author of a response that comes out of a call is spoken for at the address that was asked. -/
lemma Multiplexer.Promised.author_of_poll {V : Id → Address → Prop} {m : Multiplexer} {c : Call}
    {a : Address} (h : m.Promised V c a) {r : Response} (hr : (c.poll m).1 = some (.ok r)) :
    ∃ author, authorOf r.payload = some author ∧ V author a ∧ c.Welcomes author := by
  obtain ⟨hd, author, hauthor, hwelcomes⟩ := Call.exists_of_poll hr
  obtain ⟨-, hvouched⟩ := h.answered _ hd rfl r rfl
  exact ⟨author, hauthor, hvouched author hauthor hwelcomes, hwelcomes⟩

namespace Multiplexer

variable {σ : Type} {V : Id → Address → Prop} {sent : List Datagram} {m : Multiplexer}

/-- A datagram gives a call no response but one from the address it asked, and the author may have to
be spoken for. -/
lemma Promised.handleDatagram (hm : m.Sound) {c : Call} {a : Address} (h : m.Promised V c a)
    (transport : Transport) (respond : Responder σ) (d : Datagram) (state : σ)
    (hV : d.peer.port ≠ 0 → m.isSelf d.peer = false → ∀ message payload id,
      Message.decode d.bytes = .ok message → message.body = .response payload →
      authorOf payload = some id → ∀ t ∈ m.transactions d.peer, t.id = message.transaction →
      t.ticket = c.ticket → c.Welcomes id → V id d.peer) :
    (m.handleDatagram transport respond d state).1.Promised V c a := by
  obtain ⟨hnext, -, -, -, hkept⟩ := hm.handleDatagram transport respond d state
  refine ⟨hnext ▸ h.issued, fun b t ht => h.waiting b t (hkept b t ht), ?_⟩
  intro x hx hticket r hr
  rcases mem_delivered_handleDatagram hx with
    hx | ⟨⟨hport, hself⟩, message, reply, hmessage, hreply, t, ht, hid, rfl⟩
  · exact h.answered x hx hticket r hr
  · obtain rfl : reply = .ok r := hr
    obtain ⟨payload, hpayload, rfl⟩ := payload_of_replyOf hreply
    obtain rfl := h.waiting d.peer t ht hticket
    exact ⟨rfl, fun id hauthor hwelcomes =>
      hV hport hself message payload id hmessage hpayload hauthor t ht hid hticket hwelcomes⟩

lemma Grounded.handleDatagram (h : m.Grounded sent) (transport : Transport)
    (respond : Responder σ) (d : Datagram) (state : σ) :
    (m.handleDatagram transport respond d state).1.Grounded sent := by
  obtain ⟨hnext, -, hsound, -, hkept⟩ := h.sound.handleDatagram transport respond d state
  refine ⟨hsound, fun a t ht => ?_, fun a t ht => ?_, fun x hx r hr => ?_⟩
  · rw [hnext]
    exact h.issued a t (hkept a t ht)
  · obtain ⟨query, hmethod, hsent⟩ := h.waiting a t (hkept a t ht)
    refine ⟨query, hmethod, List.mem_append.2 ((List.mem_append.1 hsent).imp_right fun hsent => ?_)⟩
    exact (m.outbox_handleDatagram transport respond d state).subset hsent
  · rw [hnext]
    rcases mem_delivered_handleDatagram hx with hx | ⟨-, message, reply, -, -, t, ht, -, rfl⟩
    · exact h.answered x hx r hr
    · exact h.issued _ t ht

end Multiplexer

end Kademlia.Exchange
