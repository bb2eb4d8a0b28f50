import Kademlia.Proofs.Exchange.Ticket

/-!
# What a step of a multiplexer does

A request is sent under an identifier of its own and waits, or it has failed already. A datagram is
dropped, or it is a request and goes to the handlers, or it is a reply and ends the transaction it
names in the session of its sender. Each of these is described once, by what becomes of the
transactions, of what was sent and of the replies that were given.
-/

namespace Kademlia.Exchange

open Bencode Wire

/-- What a message from an address tells the requester; a request tells nothing. -/
def replyOf (source : Address) (m : Message) : Option Reply :=
  match m.body with
  | .request _ => none
  | .response payload => some (.ok ⟨source, payload⟩)
  | .error error => some (.error (.remote error))
  | .unknown type => some (.error (.unknownType (Utf8.decodeLossy type)))

/-- A message that tells the requester nothing is a request. -/
lemma exists_query {source : Address} {m : Message} (h : replyOf source m = none) :
    ∃ query, m.body = .request query := by
  unfold replyOf at h
  cases hbody : m.body with
  | request query => exact ⟨query, rfl⟩
  | response payload => simp [hbody] at h
  | error error => simp [hbody] at h
  | unknown type => simp [hbody] at h

/-- Only a response is told as a response, and as one from its sender. -/
lemma payload_of_replyOf {source : Address} {m : Message} {r : Response}
    (h : replyOf source m = some (.ok r)) : ∃ payload, m.body = .response payload ∧
      r = ⟨source, payload⟩ := by
  unfold replyOf at h
  cases hbody : m.body with
  | response payload =>
    simp only [hbody, Option.some.injEq, Except.ok.injEq] at h
    exact ⟨payload, rfl, h.symm⟩
  | request query => simp [hbody] at h
  | error error => simp [hbody] at h
  | unknown type => simp [hbody] at h

namespace Session

/-- A running session sends a request under a new identifier, unless it cannot be sent. -/
lemma Sound.request_eq {s : Session} (h : s.Sound) (transport : Transport) (e : Entropy)
    (ticket : Ticket) (method : String) (arguments : Dict) (now : Nat) :
    (∃ reason, s.request transport e ticket method arguments now =
      (s, ⟨[], [⟨ticket, .error (.unreachable reason)⟩]⟩, e.next.2)) ∨
    s.request transport e ticket method arguments now =
      ({ s with pending :=
          ⟨s.pending.freshId e.next.1, ticket, method, now + s.timeout⟩ :: s.pending },
        ⟨[⟨s.address, (Message.mk (s.pending.freshId e.next.1) (some version)
          (.request ⟨method, arguments⟩)).encode⟩], []⟩, e.next.2) := by
  simp only [request, h.running, Bool.false_eq_true, if_false]
  cases transport s.address with
  | some reason => exact .inl ⟨reason, rfl⟩
  | none => exact .inr rfl

/-- A request is handed to the handlers and answered if that can be sent. -/
lemma handle_of_request {σ : Type} (s : Session) (transport : Transport) (respond : Responder σ)
    (maxPacket : Nat) {m : Message} {query : Query} (hm : m.body = .request query) (state : σ) :
    ∃ sent, s.handle transport respond maxPacket m state =
        (s, ⟨sent, []⟩, (respond s.address query state).2) ∧
      (sent = [] ∨
        sent = [⟨s.address, reply m.transaction (respond s.address query state).1 maxPacket⟩]) := by
  simp only [handle, hm]
  cases transport s.address with
  | some reason => exact ⟨_, rfl, .inl rfl⟩
  | none => exact ⟨_, rfl, .inr rfl⟩

/-- A reply ends the transaction it names. -/
lemma handle_of_reply {σ : Type} (s : Session) (transport : Transport) (respond : Responder σ)
    (maxPacket : Nat) {m : Message} {answer : Reply} (hm : replyOf s.address m = some answer)
    (state : σ) :
    s.handle transport respond maxPacket m state =
      ({ s with pending := (s.pending.resolve m.transaction answer).2 },
        ⟨[], (s.pending.resolve m.transaction answer).1⟩, state) := by
  unfold replyOf at hm
  unfold handle
  cases hbody : m.body <;> simp only [hbody, Option.some.injEq, reduceCtorEq] at hm ⊢ <;>
    rw [← hm] <;> rfl

end Session

namespace Pending

/-- A reply goes to the transaction that has its identifier, if there is one. -/
lemma resolve_cases (p : Pending) (id : Bytes) (reply : Reply) :
    ((∀ t ∈ p, t.id ≠ id) ∧ p.resolve id reply = ([], p)) ∨
    ∃ t ∈ p, t.id = id ∧
      p.resolve id reply = ([⟨t.ticket, reply⟩], p.filter fun t => t.id != id) := by
  unfold resolve
  cases hfind : p.find? fun t => t.id == id with
  | none => exact .inl ⟨by simpa using List.find?_eq_none.1 hfind, rfl⟩
  | some t =>
    exact .inr ⟨t, List.mem_of_find?_eq_some hfind, by simpa using List.find?_some hfind, rfl⟩

end Pending

namespace Multiplexer

/-- The identifier under which the next request to an address is sent. -/
def nextId (m : Multiplexer) (address : Address) : Bytes :=
  (m.session address).pending.freshId m.entropy.next.1

/-- Putting back a session leaves the transactions of all others alone. -/
lemma transactions_put {m m' : Multiplexer} (s : Session)
    (hsessions : m'.sessions = (m.setSession s).sessions) (htimeout : m'.timeout = m.timeout)
    (a : Address) : m'.transactions a = if a = s.address then s.pending else m.transactions a := by
  rw [← transactions_setSession]
  simp only [transactions, session, hsessions, htimeout]
  rfl

/-- Putting back a session as it was changes no transaction. -/
lemma transactions_put_session {m m' : Multiplexer} (a : Address)
    (hsessions : m'.sessions = (m.setSession (m.session a)).sessions)
    (htimeout : m'.timeout = m.timeout) (b : Address) : m'.transactions b = m.transactions b := by
  rw [transactions_put _ hsessions htimeout, address_session]
  split_ifs with hb
  · rw [hb, transactions]
  · rfl

/-- A request has failed at once and changes no transaction, or it is sent under the next identifier
and waits in the session with its address. -/
lemma Sound.request_cases {m : Multiplexer} (h : m.Sound) (transport : Transport)
    (address : Address) (method : String) (arguments : Dict) (now : Nat) :
    let m' := (m.request transport address method arguments now).2
    (∃ e, (e = .selfConnection address ∨ ∃ reason, e = .unreachable reason) ∧
      m'.delivered = m.delivered ++ [⟨m.nextTicket, .error e⟩] ∧ m'.outbox = m.outbox ∧
      ∀ b, m'.transactions b = m.transactions b) ∨
    (m.isSelf address = false ∧ m'.delivered = m.delivered ∧
      m'.outbox = m.outbox ++ [⟨address,
        (Message.mk (m.nextId address) (some version) (.request ⟨method, arguments⟩)).encode⟩] ∧
      ∀ b, m'.transactions b =
        if b = address then
          ⟨m.nextId address, m.nextTicket, method, now + m.timeout⟩ :: m.transactions address
        else m.transactions b) := by
  intro m'
  simp only [m', Multiplexer.request]
  split
  · exact .inl ⟨_, .inl rfl, rfl, List.append_nil _, fun _ => rfl⟩
  · next hself =>
    have haddress := m.address_session address
    have htimeout := h.timeout_session address
    have hsame : m.takeTicket.2.session address = m.session address := rfl
    rw [hsame]
    dsimp only [takeTicket]
    rcases (h.session address).request_eq transport m.entropy m.nextTicket method arguments now with
      ⟨reason, heq⟩ | heq
    · rw [heq]
      dsimp only
      refine .inl ⟨_, .inr ⟨reason, rfl⟩, ?_⟩
      generalize hm : Multiplexer.record _ _ = m'
      refine ⟨hm ▸ rfl, hm ▸ List.append_nil _, ?_⟩
      exact transactions_put_session address (hm ▸ rfl) (hm ▸ rfl)
    · rw [heq, haddress, htimeout]
      dsimp only
      refine .inr ⟨by simpa using hself, ?_⟩
      exact ⟨List.append_nil _, rfl, fun b => transactions_put _ rfl rfl b⟩

/-- Give a message to the session with its sender. -/
def hear {σ : Type} (m : Multiplexer) (transport : Transport) (respond : Responder σ)
    (peer : Address) (message : Message) (state : σ) : Multiplexer × σ :=
  let (s, traffic, state) := (m.session peer).handle transport respond m.maxPacket message state
  ((m.setSession s).record traffic, state)

/-- A datagram is dropped, or its sender is heard. -/
lemma handleDatagram_eq {σ : Type} (m : Multiplexer) (transport : Transport) (respond : Responder σ)
    (d : Datagram) (state : σ) :
    m.handleDatagram transport respond d state = (m, state) ∨
    (d.peer.port ≠ 0 ∧ m.isSelf d.peer = false) ∧ ∃ message, Message.decode d.bytes = .ok message ∧
      m.handleDatagram transport respond d state = m.hear transport respond d.peer message state := by
  unfold handleDatagram
  split
  · exact .inl rfl
  · next hheard =>
    rw [not_or, Bool.not_eq_true] at hheard
    cases hdecode : Message.decode d.bytes with
    | error e => exact .inl rfl
    | ok message => exact .inr ⟨hheard, message, rfl, rfl⟩

/-- A request that is heard goes to the handlers, and may be answered. -/
lemma hear_of_request {σ : Type} (m : Multiplexer) (transport : Transport) (respond : Responder σ)
    (peer : Address) {message : Message} {query : Query} (hquery : message.body = .request query)
    (state : σ) :
    let step := m.hear transport respond peer message state
    step.2 = (respond peer query state).2 ∧ step.1.delivered = m.delivered ∧
      (∀ b, step.1.transactions b = m.transactions b) ∧
      (step.1.outbox = m.outbox ∨ step.1.outbox = m.outbox ++
        [⟨peer, Session.reply message.transaction (respond peer query state).1 m.maxPacket⟩]) := by
  obtain ⟨sent, hhandle, hsent⟩ :=
    (m.session peer).handle_of_request transport respond m.maxPacket hquery state
  rw [address_session] at hhandle hsent
  intro step
  simp only [step, hear, hhandle]
  refine ⟨trivial, List.append_nil _, transactions_put_session peer rfl rfl, ?_⟩
  rcases hsent with rfl | rfl
  · exact .inl (List.append_nil _)
  · exact .inr rfl

/-- A reply that is heard ends at most the transaction with its sender which it names. -/
lemma hear_of_reply {σ : Type} (m : Multiplexer) (transport : Transport) (respond : Responder σ)
    (peer : Address) {message : Message} {reply : Reply} (hreply : replyOf peer message = some reply)
    (state : σ) :
    let step := m.hear transport respond peer message state
    step.2 = state ∧ step.1.outbox = m.outbox ∧
      ((step.1.delivered = m.delivered ∧ ∀ b, step.1.transactions b = m.transactions b) ∨
        ∃ t ∈ m.transactions peer, t.id = message.transaction ∧
          step.1.delivered = m.delivered ++ [⟨t.ticket, reply⟩] ∧
          ∀ b, step.1.transactions b =
            if b = peer then (m.transactions peer).filter fun t => t.id != message.transaction
            else m.transactions b) := by
  have haddress := m.address_session peer
  have hhandle := (m.session peer).handle_of_reply transport respond m.maxPacket
    (haddress.symm ▸ hreply) state
  intro step
  simp only [step, hear, hhandle]
  refine ⟨trivial, List.append_nil _, ?_⟩
  rcases (m.session peer).pending.resolve_cases message.transaction reply with
    ⟨-, hnone⟩ | ⟨t, ht, hid, hsome⟩
  · rw [hnone]
    exact .inl ⟨List.append_nil _, transactions_put_session peer rfl rfl⟩
  · rw [hsome]
    refine .inr ⟨t, ht, hid, rfl, fun b => ?_⟩
    exact (transactions_put _ (by rfl) (by rfl) b).trans (by rw [haddress]; rfl)

/-- A datagram is dropped, or its sender is heard and it is a request and goes to the handlers, or it
is a reply. A reply from an address ends at most the transaction in the session with that address
which it names. -/
lemma handleDatagram_cases {σ : Type} (m : Multiplexer) (transport : Transport)
    (respond : Responder σ) (d : Datagram) (state : σ) :
    let step := m.handleDatagram transport respond d state
    step = (m, state) ∨
    (d.peer.port ≠ 0 ∧ m.isSelf d.peer = false) ∧
    ∃ message, Message.decode d.bytes = .ok message ∧
      ((∃ query, message.body = .request query ∧
          step.2 = (respond d.peer query state).2 ∧
          step.1.delivered = m.delivered ∧
          (∀ b, step.1.transactions b = m.transactions b) ∧
          (step.1.outbox = m.outbox ∨ step.1.outbox = m.outbox ++ [⟨d.peer,
            Session.reply message.transaction (respond d.peer query state).1 m.maxPacket⟩])) ∨
        (∃ reply, replyOf d.peer message = some reply ∧
          step.2 = state ∧ step.1.outbox = m.outbox ∧
          ((step.1.delivered = m.delivered ∧ ∀ b, step.1.transactions b = m.transactions b) ∨
            ∃ t ∈ m.transactions d.peer, t.id = message.transaction ∧
              step.1.delivered = m.delivered ++ [⟨t.ticket, reply⟩] ∧
              ∀ b, step.1.transactions b =
                if b = d.peer then (m.transactions d.peer).filter fun t => t.id != message.transaction
                else m.transactions b))) := by
  intro step
  rcases m.handleDatagram_eq transport respond d state with hdrop | ⟨hheard, message, hdecode, hstep⟩
  · exact .inl hdrop
  · refine .inr ⟨hheard, message, hdecode, ?_⟩
    simp only [step, hstep]
    cases hreply : replyOf d.peer message with
    | none =>
      obtain ⟨query, hquery⟩ := exists_query hreply
      exact .inl ⟨query, hquery, m.hear_of_request transport respond d.peer hquery state⟩
    | some reply =>
      exact .inr ⟨reply, rfl, m.hear_of_reply transport respond d.peer hreply state⟩

/-- A datagram adds at most the answer to a request to what was sent. -/
lemma mem_outbox_handleDatagram {σ : Type} {m : Multiplexer} {transport : Transport}
    {respond : Responder σ} {d : Datagram} {state : σ} {x : Datagram}
    (hx : x ∈ (m.handleDatagram transport respond d state).1.outbox) :
    x ∈ m.outbox ∨ ∃ message query, Message.decode d.bytes = .ok message ∧
      message.body = .request query ∧
      (m.handleDatagram transport respond d state).2 = (respond d.peer query state).2 ∧
      x = ⟨d.peer, Session.reply message.transaction (respond d.peer query state).1 m.maxPacket⟩ := by
  rcases m.handleDatagram_cases transport respond d state with hdrop | ⟨-, message, hmessage, hcases⟩
  · exact .inl (by rwa [hdrop] at hx)
  · rcases hcases with ⟨query, hquery, hstate, -, -, hsent⟩ | ⟨reply, -, -, hsent, -⟩
    · rcases hsent with hsent | hsent
      · exact .inl (hsent ▸ hx)
      · refine (List.mem_append.1 (hsent ▸ hx)).imp_right fun hx => ?_
        exact ⟨message, query, hmessage, hquery, hstate, List.mem_singleton.1 hx⟩
    · exact .inl (hsent ▸ hx)

/-- Nothing that was sent is taken back. -/
lemma outbox_handleDatagram {σ : Type} (m : Multiplexer) (transport : Transport)
    (respond : Responder σ) (d : Datagram) (state : σ) :
    m.outbox <+: (m.handleDatagram transport respond d state).1.outbox := by
  rcases m.handleDatagram_cases transport respond d state with hdrop | ⟨-, message, -, hcases⟩
  · rw [hdrop]
  · rcases hcases with ⟨query, -, -, -, -, hsent | hsent⟩ | ⟨reply, -, -, hsent, -⟩
    · rw [hsent]
    · rw [hsent]
      exact List.prefix_append _ _
    · rw [hsent]

/-- Nor is any reply that was given. -/
lemma delivered_handleDatagram {σ : Type} (m : Multiplexer) (transport : Transport)
    (respond : Responder σ) (d : Datagram) (state : σ) :
    m.delivered <+: (m.handleDatagram transport respond d state).1.delivered := by
  rcases m.handleDatagram_cases transport respond d state with hdrop | ⟨-, message, -, hcases⟩
  · rw [hdrop]
  · rcases hcases with ⟨query, -, -, hdelivered, -⟩ | ⟨reply, -, -, -, hend⟩
    · rw [hdelivered]
    rcases hend with ⟨hdelivered, -⟩ | ⟨t, -, -, hdelivered, -⟩
    · rw [hdelivered]
    · rw [hdelivered]
      exact List.prefix_append _ _

/-- A reply that is heard is given to the one who waits for it. -/
lemma Sound.delivered_of_reply {σ : Type} {m : Multiplexer} (h : m.Sound) (transport : Transport)
    (respond : Responder σ) {d : Datagram} {message : Message} {reply : Reply} {t : Transaction}
    (hport : d.peer.port ≠ 0) (hself : m.isSelf d.peer = false)
    (hdecode : Message.decode d.bytes = .ok message) (hreply : replyOf d.peer message = some reply)
    (ht : t ∈ m.transactions d.peer) (hid : t.id = message.transaction) (state : σ) :
    (m.handleDatagram transport respond d state).1.delivered = m.delivered ++ [⟨t.ticket, reply⟩] := by
  have hhandle := (m.session d.peer).handle_of_reply transport respond m.maxPacket
    ((m.address_session d.peer).symm ▸ hreply) state
  have hheard : ¬(d.peer.port = 0 ∨ m.isSelf d.peer = true) := by simp [hport, hself]
  rw [Multiplexer.handleDatagram, if_neg hheard, hdecode]
  dsimp only
  rw [hhandle]
  rcases (m.session d.peer).pending.resolve_cases message.transaction reply with
    ⟨hnone, -⟩ | ⟨t', ht', hid', hsome⟩
  · exact absurd hid (hnone t ht)
  · obtain rfl : t' = t :=
      List.inj_on_of_nodup_map (h.session d.peer).distinct ht' ht (hid'.trans hid.symm)
    rw [hsome]
    rfl

/-- A datagram adds at most the reply to a transaction with its sender to what was given. -/
lemma mem_delivered_handleDatagram {σ : Type} {m : Multiplexer} {transport : Transport}
    {respond : Responder σ} {d : Datagram} {state : σ} {x : Delivery}
    (hx : x ∈ (m.handleDatagram transport respond d state).1.delivered) :
    x ∈ m.delivered ∨ (d.peer.port ≠ 0 ∧ m.isSelf d.peer = false) ∧
      ∃ message reply, Message.decode d.bytes = .ok message ∧
        replyOf d.peer message = some reply ∧
        ∃ t ∈ m.transactions d.peer, t.id = message.transaction ∧ x = ⟨t.ticket, reply⟩ := by
  rcases m.handleDatagram_cases transport respond d state with
    hdrop | ⟨hheard, message, hmessage, hcases⟩
  · exact .inl (by rwa [hdrop] at hx)
  · rcases hcases with ⟨query, -, -, hdelivered, -⟩ | ⟨reply, hreply, -, -, hend⟩
    · exact .inl (hdelivered ▸ hx)
    rcases hend with ⟨hdelivered, -⟩ | ⟨t, ht, hid, hdelivered, -⟩
    · exact .inl (hdelivered ▸ hx)
    refine (List.mem_append.1 (hdelivered ▸ hx)).imp_right fun hx => ?_
    exact ⟨hheard, message, reply, hmessage, hreply, t, ht, hid, List.mem_singleton.1 hx⟩

/-! ### Who is told of an end -/

/-- An expiry tells those who wait that their time is over. -/
lemma Sound.mem_delivered_expire {m : Multiplexer} (h : m.Sound) {now : Nat} {d : Delivery}
    (hd : d ∈ (m.expire now).delivered) :
    d ∈ m.delivered ∨
      ∃ a, ∃ t ∈ m.transactions a, d = ⟨t.ticket, .error (.timeout t.method a)⟩ := by
  rw [(m.settles_expire now).delivered, List.mem_append, List.mem_flatMap] at hd
  refine hd.imp_right fun ⟨s, hs, hd⟩ => ?_
  rw [Pending.expire_delivered, List.mem_map] at hd
  obtain ⟨t, ht, rfl⟩ := hd
  refine ⟨s.address, t, ?_, rfl⟩
  rw [transactions, h.session_eq hs]
  exact List.mem_of_mem_filter ht

/-- Those who wait in sessions that end are told that these stopped. -/
lemma Sound.eq_stopped {m : Multiplexer} (h : m.Sound) {ended : List Session}
    (hended : ∀ s ∈ ended, s ∈ m.sessions) {d : Delivery}
    (hd : d ∈ ended.flatMap fun s => s.pending.stop) :
    ∃ a, ∃ t ∈ m.transactions a, d = ⟨t.ticket, .error .stopped⟩ := by
  obtain ⟨s, hs, hd⟩ := List.mem_flatMap.1 hd
  obtain ⟨t, ht, rfl⟩ := List.mem_map.1 hd
  refine ⟨s.address, t, ?_, rfl⟩
  rwa [transactions, h.session_eq (hended s hs)]

lemma Sound.mem_delivered_reset {m : Multiplexer} (h : m.Sound) {a : Address} {d : Delivery}
    (hd : d ∈ (m.reset a).delivered) :
    d ∈ m.delivered ∨ ∃ b, ∃ t ∈ m.transactions b, d = ⟨t.ticket, .error .stopped⟩ := by
  rw [(m.settles_reset a).delivered, List.mem_append] at hd
  exact hd.imp_right (h.eq_stopped fun s hs => List.mem_of_mem_filter hs)

lemma Sound.mem_delivered_stop {m : Multiplexer} (h : m.Sound) {d : Delivery}
    (hd : d ∈ m.stop.delivered) :
    d ∈ m.delivered ∨ ∃ b, ∃ t ∈ m.transactions b, d = ⟨t.ticket, .error .stopped⟩ := by
  rw [m.settles_stop.delivered, List.mem_append] at hd
  exact hd.imp_right (h.eq_stopped fun s hs => hs)

end Multiplexer

end Kademlia.Exchange
