import Kademlia.Proofs.Exchange.World

/-!
# Requests and replies match

Whatever the network does with the datagrams, a reply that is given to a requester was made for its
request by the party it asked, and is given once. The invariant says of each party that its
transactions belong to requests it made, that what it sent is one of these or an answer to a request
that was made to it, and that every reply it was given is explained by the request it is for.
-/

namespace Kademlia.Exchange

open Bencode Wire Service

variable {σ : Type}

namespace World

/-- A datagram in the outbox of a party: one of its requests, or what its handlers answered to a
request that the other side made. -/
inductive Sent (w : World σ) (a : Address) (d : Datagram) : Prop where
  | request (i : Inquiry) (hi : i ∈ (w a).inquiries) (htarget : i.target = d.peer) (id : Bytes)
      (hid : i.transaction = some id)
      (hbytes : d.bytes = (Message.mk id (some version) (.request i.query)).encode)
  | reply (i : Inquiry) (hi : i ∈ (w d.peer).inquiries) (htarget : i.target = a) (id : Bytes)
      (hid : i.transaction = some id) (body : Body) (hbody : w.Answered d.peer i body)
      (hbytes : d.bytes = (Message.mk id (some version) body).encode)

/-- What holds of the party at an address in every run. -/
structure Faithful (w : World σ) (a : Address) : Prop where
  sound : ∃ timeout, (w a).run.Sound timeout
  tickets : (w a).inquiries.map (·.ticket) = (w a).run.posted.map (·.ticket)
  waiting : ∀ b, ∀ t ∈ (w a).run.multiplexer.transactions b, ∃ i ∈ (w a).inquiries,
    i.ticket = t.ticket ∧ i.target = b ∧ i.transaction = some t.id ∧ i.query.method = t.method
  sent : ∀ d ∈ (w a).run.multiplexer.outbox, w.Sent a d
  given : ∀ d ∈ (w a).run.given, ∃ i ∈ (w a).inquiries, i.ticket = d.ticket ∧ w.Explains a i d.reply

lemma Sent.of_grows {w w' : World σ} {a : Address} {d : Datagram} (hgrows : w.Grows w')
    (h : w.Sent a d) : w'.Sent a d := by
  cases h with
  | request i hi htarget id hid hbytes =>
    exact .request i ((hgrows.inquiries a).subset hi) htarget id hid hbytes
  | reply i hi htarget id hid body hbody hbytes =>
    exact .reply i ((hgrows.inquiries _).subset hi) htarget id hid body (hbody.of_grows hgrows) hbytes

/-- The other parties see nothing of what happens to one. -/
lemma Faithful.frame {w w' : World σ} {a : Address} (h : w.Faithful a) (hgrows : w.Grows w')
    (hsame : w' a = w a) : w'.Faithful a where
  sound := hsame ▸ h.sound
  tickets := hsame ▸ h.tickets
  waiting := hsame ▸ h.waiting
  sent := by
    rw [hsame]
    exact fun d hd => (h.sent d hd).of_grows hgrows
  given := by
    rw [hsame]
    intro d hd
    obtain ⟨i, hi, hticket, hexplains⟩ := h.given d hd
    exact ⟨i, hi, hticket, hexplains.of_grows hgrows⟩

/-- What happens to a party keeps the invariant if it explains every transaction, every datagram and
every reply that is new. -/
lemma Faithful.step {w w' : World σ} {a : Address} (h : w.Faithful a) (hgrows : w.Grows w')
    (hsound : ∀ timeout, (w a).run.Sound timeout → (w' a).run.Sound timeout)
    (htickets : (w' a).inquiries.map (·.ticket) = (w' a).run.posted.map (·.ticket))
    (hwaiting : ∀ b, ∀ t ∈ (w' a).run.multiplexer.transactions b,
      t ∈ (w a).run.multiplexer.transactions b ∨ ∃ i ∈ (w' a).inquiries,
        i.ticket = t.ticket ∧ i.target = b ∧ i.transaction = some t.id ∧ i.query.method = t.method)
    (hsent : ∀ d ∈ (w' a).run.multiplexer.outbox,
      d ∈ (w a).run.multiplexer.outbox ∨ w'.Sent a d)
    (hgiven : ∀ d ∈ (w' a).run.given, d ∈ (w a).run.given ∨
      ∃ i ∈ (w' a).inquiries, i.ticket = d.ticket ∧ w'.Explains a i d.reply) :
    w'.Faithful a where
  sound := h.sound.imp hsound
  tickets := htickets
  waiting := by
    intro b t ht
    rcases hwaiting b t ht with ht | hnew
    · obtain ⟨i, hi, hrest⟩ := h.waiting b t ht
      exact ⟨i, (hgrows.inquiries a).subset hi, hrest⟩
    · exact hnew
  sent := by
    intro d hd
    exact (hsent d hd).elim (fun hd => (h.sent d hd).of_grows hgrows) id
  given := by
    intro d hd
    rcases hgiven d hd with hd | hnew
    · obtain ⟨i, hi, hticket, hexplains⟩ := h.given d hd
      exact ⟨i, (hgrows.inquiries a).subset hi, hticket, hexplains.of_grows hgrows⟩
    · exact hnew

lemma Faithful.start (own : Address → Address) (timeout maxPacket : Address → Nat)
    (entropy : Address → Entropy) (state : Address → σ) (a : Address) :
    (start own timeout maxPacket entropy state).Faithful a where
  sound := ⟨timeout a, .start (own a) (maxPacket a) (entropy a) (state a, [])⟩
  tickets := rfl
  waiting := fun _ _ ht => absurd ht List.not_mem_nil
  sent := fun _ hd => absurd hd List.not_mem_nil
  given := fun _ hd => absurd hd List.not_mem_nil

/-! ### One event -/

variable {w : World σ} {a : Address}

/-- A request is recorded with the identifier it waits under and is sent under. -/
lemma Faithful.ask (h : w.Faithful a) (target : Address) (transport : Transport) (query : Query)
    (now : Nat) : (w.step (.ask a target transport query now)).Faithful a := by
  obtain ⟨timeout, hsound⟩ := h.sound
  obtain ⟨hticket, -⟩ := hsound.table.request transport target query.method query.arguments now
  have hcases := hsound.table.request_cases transport target query.method query.arguments now
  have hself : (w.step (.ask a target transport query now)) a =
      (w a).ask transport target query now := Function.update_self ..
  have hmem : ∃ i ∈ ((w a).ask transport target query now).inquiries,
      i.ticket = (w a).run.multiplexer.nextTicket ∧ i.target = target ∧ i.query = query ∧
        ((w a).run.multiplexer.isSelf target = false →
          i.transaction = some ((w a).run.multiplexer.nextId target)) :=
    ⟨_, List.mem_append_right _ (List.mem_singleton_self _), hticket, rfl, rfl, fun hs => by simp [hs]⟩
  obtain ⟨i, hi, hiticket, hitarget, hiquery, hitransaction⟩ := hmem
  refine h.step (w.grows_step _) ?_ ?_ ?_ ?_ ?_ <;> rw [hself]
  · exact fun timeout hs => hs.request ..
  · simp [Party.ask, Run.perform, h.tickets]
  · intro b t ht
    rcases hcases with ⟨e, -, -, -, hkept⟩ | ⟨hother, -, -, hnew⟩
    · exact .inl (hkept b ▸ ht)
    · replace ht := hnew b ▸ ht
      split_ifs at ht with hb
      · rcases List.mem_cons.1 ht with rfl | ht
        · exact .inr ⟨i, hi, hiticket, hitarget.trans hb.symm, hitransaction hother, by rw [hiquery]⟩
        · exact .inl (hb ▸ ht)
      · exact .inl ht
  · intro d hd
    rcases hcases with ⟨e, -, -, houtbox, -⟩ | ⟨hother, -, houtbox, -⟩
    · exact .inl (houtbox ▸ hd)
    · rcases List.mem_append.1 (houtbox ▸ hd) with hd | hd
      · exact .inl hd
      · obtain rfl := List.mem_singleton.1 hd
        refine .inr (.request i (hself ▸ hi) hitarget _ (hitransaction hother) ?_)
        rw [hiquery]
  · intro d hd
    rcases List.mem_append.1 hd with hd | hd
    · exact .inl (List.mem_append_left _ hd)
    rcases hcases with ⟨e, he, hdelivered, -, -⟩ | ⟨-, hdelivered, -, -⟩
    · rcases List.mem_append.1 (hdelivered ▸ hd) with hd | hd
      · exact .inl (List.mem_append_right _ hd)
      · obtain rfl := List.mem_singleton.1 hd
        refine .inr ⟨i, hi, hiticket, ?_⟩
        rcases he with rfl | ⟨reason, rfl⟩
        · exact hitarget.symm
        · exact trivial
    · exact .inl (List.mem_append_right _ (hdelivered ▸ hd))

/-- A datagram that is read is a request as it was made, or an answer to a request of its reader. -/
lemma Faithful.read {source : Address} (h : w.Faithful source) {bytes : Bytes}
    (hcarries : w.Carries source a bytes) {m : Message}
    (hm : Message.decode (bytes.take maxRead) = .ok m) :
    (∃ i ∈ (w source).inquiries, i.target = a ∧ i.transaction = some m.transaction ∧
        m.body = .request i.query) ∨
      ∃ i ∈ (w a).inquiries, i.target = source ∧ i.transaction = some m.transaction ∧
        w.Answered a i m.body := by
  obtain ⟨houtbox, hsize⟩ := hcarries
  cases h.sent _ houtbox with
  | request i hi htarget id hid hbytes =>
    obtain rfl := hbytes
    obtain rfl := Message.eq_of_decode_take hsize (by simp) hm
    exact .inl ⟨i, hi, htarget, hid, rfl⟩
  | reply i hi htarget id hid body hbody hbytes =>
    obtain rfl := hbytes
    have hknown : ∀ type, body = .unknown type → type ∉ [Key.q, Key.r, Key.e] := by
      rintro type rfl
      obtain ⟨_, -, hconveys⟩ := hbody
      cases hconveys
    obtain rfl := Message.eq_of_decode_take hsize hknown hm
    exact .inr ⟨i, hi, htarget, hid, hbody⟩

/-- A reply explains itself by the call it tells of. -/
lemma Answered.explains {i : Inquiry} {m : Message} (h : w.Answered a i m.body) {reply : Reply}
    (hreply : replyOf i.target m = some reply) : w.Explains a i reply := by
  obtain ⟨answer, hcall, hconveys⟩ := h
  unfold replyOf at hreply
  cases hbody : m.body with
  | request query => simp [hbody] at hreply
  | response payload =>
    simp only [hbody, Option.some.injEq] at hreply hconveys
    subst hreply
    exact ⟨rfl, answer, hcall, hconveys⟩
  | error error =>
    simp only [hbody, Option.some.injEq] at hreply hconveys
    subst hreply
    exact ⟨answer, hcall, hconveys⟩
  | unknown type =>
    rw [hbody] at hconveys
    cases hconveys

/-- A request is known by its target and the identifier drawn for it. -/
lemma Fresh.eq_of_transaction (h : w.Fresh) {i j : Inquiry} (hi : i ∈ (w a).inquiries)
    (hj : j ∈ (w a).inquiries) (htarget : i.target = j.target) {id : Bytes}
    (hid : i.transaction = some id) (hid' : j.transaction = some id) : i = j := by
  have : Std.Symm fun i j : Inquiry => ¬ i.Clashes j :=
    ⟨fun _ _ hne ⟨ht, id, hi, hj⟩ => hne ⟨ht.symm, id, hj, hi⟩⟩
  by_contra hne
  exact (h a).forall hi hj hne ⟨htarget, id, hid, hid'⟩

/-- A request that is read is handled and answered in the name of its transaction. -/
lemma Faithful.sent_carry {w' : World σ} {source : Address} (hsource : w.Faithful source)
    {bytes : Bytes} (hcarries : w.Carries source a bytes) {transport : Transport}
    {respond : Responder σ} (hgrows : w.Grows w')
    (hself : w' a = (w a).perform (.receive transport (noting respond) ⟨source, bytes⟩))
    {d : Datagram} (hd : d ∈ (w' a).run.multiplexer.outbox) :
    d ∈ (w a).run.multiplexer.outbox ∨ w'.Sent a d := by
  rw [hself] at hd
  change d ∈ ((w a).run.multiplexer.handleDatagram transport (noting respond)
    ⟨source, bytes.take maxRead⟩ (w a).run.state).1.outbox at hd
  refine (Multiplexer.mem_outbox_handleDatagram hd).imp_right ?_
  rintro ⟨m, query, hm, hquery, hstate, rfl⟩
  -- the answer goes to whoever made the request that was read
  rcases hsource.read hcarries hm with ⟨i, hi, htarget, hid, hbody⟩ | ⟨i, -, -, -, _, -, hconveys⟩
  · obtain rfl := Body.request.inj (hquery.symm.trans hbody)
    obtain ⟨body, hconveys, hbytes⟩ := Session.exists_reply m.transaction
      (noting respond source i.query (w a).run.state).1 (w a).run.multiplexer.maxPacket
    refine .reply i ((hgrows.inquiries source).subset hi) htarget _ hid body ⟨_, ?_, hconveys⟩ hbytes
    rw [htarget, hself, Party.calls]
    simp only [Party.perform, Run.perform, Multiplexer.receive, hstate]
    exact List.mem_append_right _ (List.mem_singleton_self _)
  · rw [hquery] at hconveys
    cases hconveys

/-- A reply that is read ends the transaction it was made for, since no other request has its
identifier. -/
lemma Faithful.explained_carry {w' : World σ} (h : w.Faithful a) {source : Address}
    (hsource : w.Faithful source) (hfresh : w.Fresh) {bytes : Bytes}
    (hcarries : w.Carries source a bytes) {transport : Transport} {respond : Responder σ}
    (hgrows : w.Grows w')
    (hself : w' a = (w a).perform (.receive transport (noting respond) ⟨source, bytes⟩))
    {d : Delivery} (hd : d ∈ (w' a).run.given) :
    d ∈ (w a).run.given ∨ ∃ i ∈ (w' a).inquiries, i.ticket = d.ticket ∧ w'.Explains a i d.reply := by
  rw [hself] at hd
  rcases List.mem_append.1 hd with hd | hd
  · exact .inl (List.mem_append_left _ hd)
  change d ∈ ((w a).run.multiplexer.handleDatagram transport (noting respond)
    ⟨source, bytes.take maxRead⟩ (w a).run.state).1.delivered at hd
  refine (Multiplexer.mem_delivered_handleDatagram hd).imp (List.mem_append_right _) ?_
  rintro ⟨-, m, reply, hm, hreply, t, ht, hid, rfl⟩
  obtain ⟨i, hi, hticket, htarget, htransaction, -⟩ := h.waiting source t ht
  rcases hsource.read hcarries hm with ⟨_, -, -, -, hbody⟩ | ⟨j, hj, hjtarget, hjid, hanswered⟩
  · simp [replyOf, hbody] at hreply
  · obtain rfl := hfresh.eq_of_transaction hi hj (htarget.trans hjtarget.symm) htransaction
      (hid ▸ hjid)
    refine ⟨i, (hgrows.inquiries a).subset hi, hticket, ?_⟩
    exact (hanswered.explains (htarget.symm ▸ hreply)).of_grows hgrows

lemma Faithful.carry (h : w.Faithful a) {source : Address} (hsource : w.Faithful source)
    (hfresh : w.Fresh) (bytes : Bytes) (transport : Transport) (respond : Responder σ) :
    (w.step (.carry source a bytes transport respond)).Faithful a := by
  have hgrows := w.grows_step (.carry source a bytes transport respond)
  by_cases hcarries : w.Carries source a bytes
  swap
  · rwa [World.step, if_neg hcarries]
  have hself : (w.step (.carry source a bytes transport respond)) a =
      (w a).perform (.receive transport (noting respond) ⟨source, bytes⟩) := by
    rw [World.step, if_pos hcarries, Function.update_self]
  obtain ⟨timeout, hsound⟩ := h.sound
  obtain ⟨-, -, -, -, hkept⟩ := hsound.table.handleDatagram transport (noting respond)
    ⟨source, bytes.take maxRead⟩ (w a).run.state
  refine h.step hgrows ?_ ?_ ?_ (fun d => hsource.sent_carry hcarries hgrows hself)
    fun d => h.explained_carry hsource hfresh hcarries hgrows hself
  all_goals rw [hself]
  · exact fun _ hs => hs.perform (.receive transport (noting respond) ⟨source, bytes⟩)
  · exact h.tickets
  · exact fun b t ht => .inl (hkept b t ht)

/-- An operation that sends nothing keeps the invariant if it gives up requests that wait, and tells
their holders that the time is over or that the session stopped. -/
lemma Faithful.giveUp (h : w.Faithful a) (op : Operation (σ × List Handled))
    (hcalls : (w a).calls <+: ((w a).perform op).calls)
    (hposted : ((w a).run.perform op).posted = (w a).run.posted)
    (hkept : ∀ b, ∀ t ∈ ((w a).run.perform op).multiplexer.transactions b,
      t ∈ (w a).run.multiplexer.transactions b)
    (houtbox : ((w a).run.perform op).multiplexer.outbox = (w a).run.multiplexer.outbox)
    (hgiven : ∀ d ∈ ((w a).run.perform op).given, d ∈ (w a).run.given ∨
      ∃ b, ∃ t ∈ (w a).run.multiplexer.transactions b,
        d = ⟨t.ticket, .error (.timeout t.method b)⟩ ∨ d = ⟨t.ticket, .error .stopped⟩) :
    Faithful (Function.update w a ((w a).perform op)) a := by
  refine h.step (.update List.prefix_rfl hcalls) ?_ ?_ ?_ ?_ ?_ <;> rw [Function.update_self]
  · exact fun _ hs => hs.perform op
  · exact h.tickets.trans (congrArg _ hposted.symm)
  · exact fun b t ht => .inl (hkept b t ht)
  · exact fun d hd => .inl (houtbox ▸ hd)
  · intro d hd
    refine (hgiven d hd).imp_right fun ⟨b, t, ht, hd⟩ => ?_
    obtain ⟨i, hi, hticket, htarget, -, hmethod⟩ := h.waiting b t ht
    rcases hd with rfl | rfl
    · exact ⟨i, hi, hticket, hmethod.symm, htarget.symm⟩
    · exact ⟨i, hi, hticket, trivial⟩

lemma Faithful.expire (h : w.Faithful a) (now : Nat) : (w.step (.expire a now)).Faithful a := by
  obtain ⟨timeout, hsound⟩ := h.sound
  refine h.giveUp (.expire now) List.prefix_rfl rfl (fun b t ht => ?_) rfl fun d hd => ?_
  · exact List.mem_of_mem_filter (hsound.table.transactions_expire now b ▸ ht)
  · rcases List.mem_append.1 hd with hd | hd
    · exact .inl (List.mem_append_left _ hd)
    rcases hsound.table.mem_delivered_expire hd with hd | ⟨b, t, ht, rfl⟩
    · exact .inl (List.mem_append_right _ hd)
    · exact .inr ⟨b, t, ht, .inl rfl⟩

lemma Faithful.reset (h : w.Faithful a) (peer : Address) : (w.step (.reset a peer)).Faithful a := by
  obtain ⟨timeout, hsound⟩ := h.sound
  refine h.giveUp (.reset peer) List.prefix_rfl rfl (fun b t ht => ?_) ?_ fun d hd => ?_
  · replace ht := Multiplexer.transactions_reset _ peer b ▸ ht
    split_ifs at ht
    · exact absurd ht List.not_mem_nil
    · exact ht
  · simp [Run.perform, Multiplexer.reset]
  · rcases List.mem_append.1 hd with hd | hd
    · exact .inl (List.mem_append_left _ hd)
    rcases hsound.table.mem_delivered_reset hd with hd | ⟨b, t, ht, rfl⟩
    · exact .inl (List.mem_append_right _ hd)
    · exact .inr ⟨b, t, ht, .inr rfl⟩

lemma Faithful.stop (h : w.Faithful a) : (w.step (.stop a)).Faithful a := by
  obtain ⟨timeout, hsound⟩ := h.sound
  refine h.giveUp .stop List.prefix_rfl rfl (fun b t ht => absurd ht List.not_mem_nil) rfl
    fun d hd => ?_
  rcases List.mem_append.1 hd with hd | hd
  · exact .inl (List.mem_append_left _ hd)
  rcases hsound.table.mem_delivered_stop hd with hd | ⟨b, t, ht, rfl⟩
  · exact .inl (List.mem_append_right _ hd)
  · exact .inr ⟨b, t, ht, .inr rfl⟩

/-- Taking a reply moves it from those that wait to be taken to those that are taken. -/
lemma perform_collect (r : Run σ) (ticket : Ticket) :
    (r.perform (.collect ticket)).posted = r.posted ∧
      (r.perform (.collect ticket)).given.Perm r.given ∧
      ∃ delivered, (r.perform (.collect ticket)).multiplexer = { r.multiplexer with delivered } := by
  rcases Run.collect_cases r.multiplexer ticket with ⟨reply, delivered, heq, hperm⟩ | heq | heq <;>
    simp only [Run.perform, heq, Run.given, List.append_assoc, true_and]
  · exact ⟨hperm.append_left _, delivered, rfl⟩
  all_goals exact ⟨List.Perm.refl _, _, rfl⟩

lemma Faithful.collect (h : w.Faithful a) (ticket : Ticket) :
    (w.step (.collect a ticket)).Faithful a := by
  obtain ⟨hposted, hgiven, delivered, heq⟩ := perform_collect (w a).run ticket
  refine h.giveUp (.collect ticket) (by rw [calls_collect]) hposted ?_ ?_
    fun d hd => .inl (hgiven.mem_iff.1 hd)
  · rw [heq]
    exact fun _ _ ht => ht
  · rw [heq]

/-! ### Runs -/

/-- Every party keeps the invariant, whatever happens. -/
lemma faithful_step (h : ∀ a, w.Faithful a) (hfresh : w.Fresh) (e : Event σ) (b : Address) :
    (w.step e).Faithful b := by
  have hgrows := w.grows_step e
  -- the event concerns one party, and no other is changed by it
  have hother (a : Address) (p : Party σ) (hstep : w.step e = Function.update w a p)
      (ha : (w.step e).Faithful a) : (w.step e).Faithful b := by
    by_cases hb : b = a
    · rwa [hb]
    · exact (h b).frame hgrows (by rw [hstep, Function.update_of_ne hb])
  cases e with
  | ask client target transport query now =>
    exact hother client _ rfl ((h client).ask target transport query now)
  | carry source target bytes transport respond =>
    have hcarry := (h target).carry (h source) hfresh bytes transport respond
    by_cases hcarries : w.Carries source target bytes
    · exact hother target _ (if_pos hcarries) hcarry
    · rw [World.step, if_neg hcarries]
      exact h b
  | expire owner now => exact hother owner _ rfl ((h owner).expire now)
  | reset owner peer => exact hother owner _ rfl ((h owner).reset peer)
  | stop owner => exact hother owner _ rfl (h owner).stop
  | collect owner ticket => exact hother owner _ rfl ((h owner).collect ticket)

lemma faithful_after (h : ∀ a, w.Faithful a) (events : List (Event σ))
    (hfresh : (w.after events).Fresh) : ∀ a, (w.after events).Faithful a := by
  induction events generalizing w with
  | nil => exact h
  | cons e events ih =>
    have hbefore : w.Fresh := hfresh.of_grows (w.grows_after (e :: events))
    exact ih (faithful_step h hbefore e) hfresh

/-- A reply that is read reaches the requester of the transaction it names and nobody else, and
nobody who had a reply before. -/
lemma Faithful.given_carry (h : w.Faithful a) {source : Address} {bytes : Bytes} {m : Message}
    (hm : Message.decode (bytes.take maxRead) = .ok m) {reply : Reply}
    (hreply : replyOf source m = some reply) (transport : Transport) (respond : Responder σ) :
    ((w.step (.carry source a bytes transport respond)) a).run.given = (w a).run.given ∨
      ∃ i ∈ (w a).inquiries, i.target = source ∧ i.transaction = some m.transaction ∧
        (w a).run.replies i.ticket = 0 ∧
        ((w.step (.carry source a bytes transport respond)) a).run.given =
          (w a).run.given ++ [⟨i.ticket, reply⟩] := by
  by_cases hcarries : w.Carries source a bytes
  swap
  · exact .inl (by rw [World.step, if_neg hcarries])
  rw [World.step, if_pos hcarries, Function.update_self]
  have hgiven (delivered : List Delivery)
      (heq : ((w a).run.perform (.receive transport (noting respond) ⟨source, bytes⟩)).multiplexer.delivered
        = (w a).run.multiplexer.delivered ++ delivered) :
      ((w a).perform (.receive transport (noting respond) ⟨source, bytes⟩)).run.given =
        (w a).run.given ++ delivered :=
    (congrArg ((w a).run.taken ++ ·) heq).trans (List.append_assoc ..).symm
  rcases (w a).run.multiplexer.handleDatagram_cases transport (noting respond)
    ⟨source, bytes.take maxRead⟩ (w a).run.state with hdrop | ⟨-, m', hm', hcases⟩
  · refine .inl ((hgiven [] ?_).trans (List.append_nil _))
    simp only [Run.perform, Multiplexer.receive, hdrop, List.append_nil]
  obtain rfl := Except.ok.inj (hm'.symm.trans hm)
  rcases hcases with ⟨query, hquery, -⟩ | ⟨reply', hreply', -, -, hend⟩
  · simp [replyOf, hquery] at hreply
  obtain rfl := Option.some.inj (hreply'.symm.trans hreply)
  rcases hend with ⟨hdelivered, -⟩ | ⟨t, ht, hid, hdelivered, -⟩
  · exact .inl ((hgiven [] (hdelivered.trans (List.append_nil _).symm)).trans (List.append_nil _))
  · obtain ⟨i, hi, hticket, htarget, htransaction, -⟩ := h.waiting source t ht
    obtain ⟨timeout, hsound⟩ := h.sound
    refine .inr ⟨i, hi, htarget, by rw [htransaction, hid], ?_, ?_⟩
    · obtain ⟨p, hp, hrec⟩ := hsound.recorded source t ht
      rw [hticket, ← hrec.1]
      exact (hsound.unanswered_iff hp).2 ⟨t, hrec.2.1 ▸ ht, hrec.1, rfl, hrec.2.2⟩
    · rw [hticket]
      exact hgiven _ hdelivered

/-- Requests and replies match. In a run in which no party draws an identifier twice for one address,
every reply that is given is for a request that was made, and is explained by it. A response comes
from the address that was asked, whose handlers were called on the very method and arguments and
gave its payload, perhaps with more values; a remote error was made from what they answered; anything
else is a local failure. A request is given at most one reply: a datagram with a reply is given to
the request whose identifier it carries, unless that one was answered before. -/
theorem replies_match (own : Address → Address) (timeout maxPacket : Address → Nat)
    (entropy : Address → Entropy) (state : Address → σ) (events : List (Event σ))
    (hfresh : ((start own timeout maxPacket entropy state).after events).Fresh) :
    let w := (start own timeout maxPacket entropy state).after events
    ∀ a, ((w a).inquiries.map (·.ticket)).Nodup ∧
      (∀ d ∈ (w a).run.given, ∃ i ∈ (w a).inquiries, i.ticket = d.ticket ∧ w.Explains a i d.reply) ∧
      (∀ i ∈ (w a).inquiries, (w a).run.replies i.ticket ≤ 1) ∧
      ∀ source bytes m reply, Message.decode (bytes.take maxRead) = .ok m →
        replyOf source m = some reply → ∀ transport respond,
        let given' := ((w.step (.carry source a bytes transport respond)) a).run.given
        (given' = (w a).run.given ∨ ∃ i ∈ (w a).inquiries, i.target = source ∧
          i.transaction = some m.transaction ∧ (w a).run.replies i.ticket = 0 ∧
          given' = (w a).run.given ++ [⟨i.ticket, reply⟩]) ∧
        ∀ i ∈ (w a).inquiries, i.target = source → i.transaction = some m.transaction →
          (w a).run.replies i.ticket ≠ 0 → given' = (w a).run.given := by
  intro w a
  have h := faithful_after (Faithful.start own timeout maxPacket entropy state) events hfresh a
  obtain ⟨limit, hsound⟩ := h.sound
  refine ⟨h.tickets ▸ hsound.distinct, h.given, fun i _ => hsound.replies_le_one i.ticket, ?_⟩
  intro source bytes m reply hm hreply transport respond given'
  have hgiven := h.given_carry hm hreply transport respond
  refine ⟨hgiven, fun i hi htarget hid hanswered => ?_⟩
  rcases hgiven with hsame | ⟨j, hj, hjtarget, hjid, hopen, -⟩
  · exact hsame
  · obtain rfl := hfresh.eq_of_transaction hi hj (htarget.trans hjtarget.symm) hid hjid
    exact absurd hopen hanswered

section Example

/-- A party that sends no more than 46 octets in a response. -/
def narrow : World Unit :=
  start id (fun _ => 1000) (fun _ => 46) (fun _ => ⟨id, 0⟩) fun _ => ()

/-- The one who asks. -/
def asker : Address := ⟨.v4 10 0 0 1, 1⟩

/-- The one who is asked. -/
def asked : Address := ⟨.v4 10 0 0 2, 2⟩

/-- What is asked. -/
def question : Query := ⟨"get_value", .empty⟩

/-- A payload with some values. -/
def holding (values : List Value) : Dict := .ofEntries [(Key.values, .list values)]

/-- Handlers that give two values, for which there is no room. -/
def giveTwo : Responder Unit := fun _ _ _ => (.ok (holding [.bytes [1], .bytes [2]]), ())

/-- A request that is read twice, and a reply that is read twice. -/
def repeated : List (Event Unit) :=
  let request : Message := ⟨[0, 0, 0, 0], some version, .request question⟩
  let response : Message := ⟨[0, 0, 0, 0], some version, .response (holding [.bytes [1]])⟩
  [.ask asker asked (fun _ => none) question 0,
    .carry asker asked request.encode (fun _ => none) giveTwo,
    .carry asker asked request.encode (fun _ => none) giveTwo,
    .carry asked asker response.encode (fun _ => none) giveTwo,
    .carry asked asker response.encode (fun _ => none) giveTwo]

theorem replies_match_repeated :
    (narrow.after repeated).Fresh ∧
    ((narrow.after repeated) asker).run.given = [⟨0, .ok ⟨asked, holding [.bytes [1]]⟩⟩] ∧
    ∃ answer, ⟨asker, question, answer⟩ ∈ ((narrow.after repeated) asked).calls ∧
      Conveys answer (.response (holding [.bytes [1]])) := by
  have hinquiries : ((narrow.after repeated) asker).inquiries =
      [⟨0, asked, some [0, 0, 0, 0], question⟩] := by cbv
  have hgiven : ((narrow.after repeated) asker).run.given =
      [⟨0, .ok ⟨asked, holding [.bytes [1]]⟩⟩] := by cbv
  have hfresh : (narrow.after repeated).Fresh := by
    intro a
    by_cases ha : a = asker
    · rw [ha, hinquiries]
      exact List.pairwise_singleton _ _
    · have hsilent : ∀ e ∈ repeated, e.asker ≠ some a := by
        simp [repeated, Event.asker, Ne.symm ha]
      rw [narrow.inquiries_of_silent repeated hsilent]
      exact List.Pairwise.nil
  obtain ⟨-, hmatch, -⟩ := replies_match id (fun _ => 1000) (fun _ => 46) (fun _ => ⟨id, 0⟩)
    (fun _ => ()) repeated hfresh asker
  refine ⟨hfresh, hgiven, ?_⟩
  obtain ⟨i, hi, -, hexplains⟩ := hmatch _ (hgiven ▸ List.mem_singleton_self _)
  obtain rfl := List.mem_singleton.1 (hinquiries ▸ hi)
  exact hexplains.2

end Example

end World

end Kademlia.Exchange
