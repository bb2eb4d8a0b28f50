import Kademlia.Proofs.Exchange.Ticket

/-!
# Runs of a multiplexer

A run performs operations one after another and keeps a record of the requests that were posted
and of the replies that their holders took. The invariant `Run.Sound` says that the tickets of the
posted requests are those that wait and those that got a reply, each once. From it follow that no
ticket gets two replies, that an unanswered one is still in its session, and what an expiry does.
-/

namespace Kademlia.Exchange

open Bencode Wire
open scoped List

/-- What can be done to a multiplexer, with handlers over the state `σ`. -/
inductive Operation (σ : Type) where
  | request (transport : Transport) (address : Address) (method : String) (arguments : Dict)
      (now : Nat)
  | handle (transport : Transport) (respond : Responder σ) (d : Datagram)
  | receive (transport : Transport) (respond : Responder σ) (d : Datagram)
  | expire (now : Nat)
  | reset (address : Address)
  | stop
  /-- The holder of a ticket looks for its reply. -/
  | collect (ticket : Ticket)

/-- A request that was made, with the ticket that was handed out for it. -/
structure Posted where
  ticket : Ticket
  address : Address
  method : String
  sentAt : Nat

/-- Is this the record of a transaction of the session with an address? -/
def Posted.Records (p : Posted) (timeout : Nat) (a : Address) (t : Transaction) : Prop :=
  p.ticket = t.ticket ∧ p.address = a ∧ p.method = t.method ∧ t.deadline = p.sentAt + timeout

/-- A multiplexer in the course of a run, with what was posted and what was taken so far. -/
structure Run (σ : Type) where
  multiplexer : Multiplexer
  /-- The state of the handlers. -/
  state : σ
  posted : List Posted
  taken : List Delivery

namespace Run

variable {σ : Type}

/-- The run in which nothing has happened yet. -/
def start (own : Address) (timeout maxPacket : Nat) (entropy : Entropy) (state : σ) : Run σ :=
  ⟨.new own timeout maxPacket entropy, state, [], []⟩

/-- Perform one operation. -/
def perform (r : Run σ) : Operation σ → Run σ
  | .request transport address method arguments now =>
    let (ticket, m) := r.multiplexer.request transport address method arguments now
    { r with multiplexer := m, posted := r.posted ++ [⟨ticket, address, method, now⟩] }
  | .handle transport respond d =>
    let (m, state) := r.multiplexer.handleDatagram transport respond d r.state
    { r with multiplexer := m, state }
  | .receive transport respond d =>
    let (m, state) := r.multiplexer.receive transport respond d r.state
    { r with multiplexer := m, state }
  | .expire now => { r with multiplexer := r.multiplexer.expire now }
  | .reset address => { r with multiplexer := r.multiplexer.reset address }
  | .stop => { r with multiplexer := r.multiplexer.stop }
  | .collect ticket =>
    match r.multiplexer.collect ticket with
    | (.ready reply, m) => { r with multiplexer := m, taken := r.taken ++ [⟨ticket, reply⟩] }
    | (_, m) => { r with multiplexer := m }

/-- Perform operations, the first one first. -/
def after (r : Run σ) (ops : List (Operation σ)) : Run σ :=
  ops.foldl perform r

/-- The replies given so far, whether taken or not. -/
def given (r : Run σ) : List Delivery :=
  r.taken ++ r.multiplexer.delivered

/-- How many replies a ticket was given. -/
def replies (r : Run σ) (ticket : Ticket) : Nat :=
  r.given.countP fun d => d.ticket = ticket

/-- What every run keeps. -/
structure Sound (timeout : Nat) (r : Run σ) : Prop where
  table : r.multiplexer.Sound
  distinct : (r.posted.map (·.ticket)).Nodup
  issued : ∀ p ∈ r.posted, p.ticket < r.multiplexer.nextTicket
  recorded : ∀ a, ∀ t ∈ r.multiplexer.transactions a, ∃ p ∈ r.posted, p.Records timeout a t
  accounted : (r.multiplexer.waiting ++ r.given.map (·.ticket)).Perm (r.posted.map (·.ticket))
  timeout : r.multiplexer.timeout = timeout

variable {timeout : Nat} {r : Run σ}

lemma Sound.start (own : Address) (maxPacket : Nat) (entropy : Entropy) (state : σ) :
    Sound timeout (Run.start own timeout maxPacket entropy state) where
  table := ⟨List.nodup_nil, by simp [Run.start, Multiplexer.new], by simp [Run.start, Multiplexer.new]⟩
  timeout := rfl
  distinct := List.nodup_nil
  issued := by simp [Run.start]
  recorded := fun a t ht => absurd ht List.not_mem_nil
  accounted := List.Perm.refl _

/-- An operation keeps the invariant if it accounts for its tickets, and every transaction that it
leaves was there before or is recorded by what it posted. -/
lemma Sound.step {r' : Run σ} (h : r.Sound timeout) (posted : List Posted) {given : List Delivery}
    (hposted : r'.posted = r.posted ++ posted) (htaken : r'.taken = r.taken)
    (hnew : (posted.map (·.ticket)).Nodup)
    (hfresh : ∀ p ∈ posted, r.multiplexer.nextTicket ≤ p.ticket)
    (hnext : ∀ p ∈ posted, p.ticket < r'.multiplexer.nextTicket)
    (hle : r.multiplexer.nextTicket ≤ r'.multiplexer.nextTicket)
    (htable : r'.multiplexer.Sound) (htimeout : r'.multiplexer.timeout = r.multiplexer.timeout)
    (hsettles : r.multiplexer.Settles r'.multiplexer (posted.map (·.ticket)) given)
    (hrecorded : ∀ a, ∀ t ∈ r'.multiplexer.transactions a,
      t ∈ r.multiplexer.transactions a ∨ ∃ p ∈ posted, p.Records timeout a t) :
    r'.Sound timeout where
  table := htable
  timeout := htimeout.trans h.timeout
  distinct := by
    rw [hposted, List.map_append, List.nodup_append]
    refine ⟨h.distinct, hnew, ?_⟩
    simp only [List.mem_map]
    rintro _ ⟨p, hp, rfl⟩ _ ⟨q, hq, rfl⟩ heq
    exact (lt_of_lt_of_le (h.issued p hp) (hfresh q hq)).ne heq
  issued := by
    rw [hposted]
    intro p hp
    rcases List.mem_append.1 hp with hp | hp
    · exact lt_of_lt_of_le (h.issued p hp) hle
    · exact hnext p hp
  recorded := by
    intro a t ht
    rw [hposted]
    rcases hrecorded a t ht with ht | ⟨p, hp, hrec⟩
    · obtain ⟨p, hp, hrec⟩ := h.recorded a t ht
      exact ⟨p, List.mem_append_left _ hp, hrec⟩
    · exact ⟨p, List.mem_append_right _ hp, hrec⟩
  accounted := by
    have hgiven : r'.given.map (·.ticket) = r.given.map (·.ticket) ++ given.map (·.ticket) := by
      simp [Run.given, htaken, hsettles.delivered]
    rw [hgiven, hposted, List.map_append]
    calc r'.multiplexer.waiting ++ (r.given.map (·.ticket) ++ given.map (·.ticket))
      _ ~ (r'.multiplexer.waiting ++ given.map (·.ticket)) ++ r.given.map (·.ticket) := by
        rw [List.append_assoc]
        exact List.perm_append_comm.append_left _
      _ ~ (posted.map (·.ticket) ++ r.multiplexer.waiting) ++ r.given.map (·.ticket) :=
        hsettles.tickets.append_right _
      _ = posted.map (·.ticket) ++ (r.multiplexer.waiting ++ r.given.map (·.ticket)) :=
        List.append_assoc ..
      _ ~ posted.map (·.ticket) ++ r.posted.map (·.ticket) := h.accounted.append_left _
      _ ~ r.posted.map (·.ticket) ++ posted.map (·.ticket) := List.perm_append_comm

lemma Sound.step_of_settles {m : Multiplexer} {state : σ} {given : List Delivery}
    (h : r.Sound timeout) (hnext : m.nextTicket = r.multiplexer.nextTicket) (htable : m.Sound)
    (htimeout : m.timeout = r.multiplexer.timeout) (hsettles : r.multiplexer.Settles m [] given)
    (hsub : ∀ a, ∀ t ∈ m.transactions a, t ∈ r.multiplexer.transactions a) :
    Sound timeout { r with multiplexer := m, state } :=
  h.step [] (List.append_nil _).symm rfl List.nodup_nil (by simp) (by simp)
    hnext.ge htable htimeout hsettles fun a t ht => .inl (hsub a t ht)

lemma Sound.request (h : r.Sound timeout) (transport : Transport) (address : Address)
    (method : String) (arguments : Dict) (now : Nat) :
    (r.perform (.request transport address method arguments now)).Sound timeout := by
  obtain ⟨hticket, hnext, htimeout, htable, ⟨given, hsettles⟩, hrecorded⟩ :=
    h.table.request transport address method arguments now
  refine h.step [⟨r.multiplexer.nextTicket, address, method, now⟩] ?_ rfl
    (List.nodup_singleton _) ?_ ?_ ?_ htable htimeout hsettles fun a t ht => ?_
  · simp [perform, hticket]
  · simp
  · simp [perform, hnext]
  · exact hnext ▸ Nat.le_succ _
  · rcases hrecorded a t ht with ht | ⟨h1, h2, h3, h4⟩
    · exact .inl ht
    · exact .inr ⟨_, List.mem_singleton_self _, h1.symm, h2, h3.symm, h4.trans (by rw [h.timeout])⟩

lemma Sound.handle (h : r.Sound timeout) (transport : Transport) (respond : Responder σ)
    (d : Datagram) : (r.perform (.handle transport respond d)).Sound timeout := by
  obtain ⟨hnext, htimeout, htable, ⟨given, hsettles⟩, hsub⟩ :=
    h.table.handleDatagram transport respond d r.state
  exact h.step_of_settles hnext htable htimeout hsettles hsub

lemma Sound.expire (h : r.Sound timeout) (now : Nat) :
    (r.perform (.expire now)).Sound timeout := by
  refine h.step_of_settles rfl (h.table.expire now) rfl (r.multiplexer.settles_expire now) ?_
  intro a t ht
  rw [h.table.transactions_expire] at ht
  exact List.mem_of_mem_filter ht

lemma Sound.reset (h : r.Sound timeout) (address : Address) :
    (r.perform (.reset address)).Sound timeout := by
  refine h.step_of_settles ?_ (h.table.reset address) ?_ (r.multiplexer.settles_reset address) ?_
  · simp [Multiplexer.reset, List.partition_eq_filter_filter]
  · simp [Multiplexer.reset, List.partition_eq_filter_filter]
  · intro a t ht
    rw [Multiplexer.transactions_reset] at ht
    split_ifs at ht
    · exact absurd ht List.not_mem_nil
    · exact ht

lemma Sound.stop (h : r.Sound timeout) : (r.perform .stop).Sound timeout :=
  h.step_of_settles rfl (.stop _) rfl r.multiplexer.settles_stop
    fun _ _ ht => absurd ht List.not_mem_nil

lemma collect_cases (m : Multiplexer) (ticket : Ticket) :
    (∃ reply delivered, m.collect ticket = (.ready reply, { m with delivered }) ∧
      (({ ticket, reply } : Delivery) :: delivered).Perm m.delivered) ∨
    (m.collect ticket = (.waiting, m) ∨ m.collect ticket = (.gone, m)) := by
  unfold Multiplexer.collect
  cases hfind : m.delivered.find? fun d => d.ticket == ticket with
  | some d =>
    obtain ⟨hd, front, back, heq, hfront⟩ := List.find?_eq_some_iff_append.1 hfind
    have hticket : d.ticket = ticket := by simpa using hd
    refine .inl ⟨d.reply, _, rfl, ?_⟩
    have herase : (m.delivered.eraseP fun d => d.ticket == ticket) = front ++ back := by
      rw [heq, List.eraseP_append_right _ (by simpa using hfront)]
      simp [hticket]
    rw [herase, heq, ← hticket]
    exact List.perm_middle.symm
  | none =>
    dsimp only
    split
    · exact .inr (.inl rfl)
    · exact .inr (.inr rfl)

lemma Sound.collect (h : r.Sound timeout) (ticket : Ticket) :
    (r.perform (.collect ticket)).Sound timeout := by
  rcases collect_cases r.multiplexer ticket with ⟨reply, delivered, heq, hperm⟩ | heq | heq
  · simp only [Run.perform, heq]
    refine ⟨⟨h.table.addresses, h.table.sessions, h.table.timeouts⟩, h.distinct, h.issued,
      h.recorded, ?_, h.timeout⟩
    -- the reply moves from those that wait to be taken to those that are taken
    have hgiven : List.Perm (r.taken ++ [⟨ticket, reply⟩] ++ delivered) r.given := by
      rw [List.append_assoc]
      exact hperm.append_left _
    exact ((hgiven.map (·.ticket)).append_left _).trans h.accounted
  all_goals
    simp only [Run.perform, heq]
    exact h

lemma Sound.perform (h : r.Sound timeout) : (op : Operation σ) → (r.perform op).Sound timeout
  | .request transport address method arguments now =>
    h.request transport address method arguments now
  | .handle transport respond d => h.handle transport respond d
  | .receive transport respond d =>
    h.handle transport respond { d with bytes := d.bytes.take maxRead }
  | .expire now => h.expire now
  | .reset address => h.reset address
  | .stop => h.stop
  | .collect ticket => h.collect ticket

lemma Sound.after (h : r.Sound timeout) (ops : List (Operation σ)) :
    (r.after ops).Sound timeout := by
  induction ops generalizing r with
  | nil => exact h
  | cons op ops ih => exact ih (h.perform op)

/-! ### What the record says -/

lemma replies_eq_count (r : Run σ) (ticket : Ticket) :
    r.replies ticket = (r.given.map (·.ticket)).count ticket := by
  rw [replies, List.count, List.countP_map]
  congr 1

lemma replies_eq_zero {r : Run σ} {ticket : Ticket} :
    r.replies ticket = 0 ↔ ticket ∉ r.given.map (·.ticket) := by
  rw [replies_eq_count, List.count_eq_zero]

lemma Sound.nodup (h : r.Sound timeout) :
    (r.multiplexer.waiting ++ r.given.map (·.ticket)).Nodup :=
  h.accounted.nodup_iff.2 h.distinct

lemma Sound.replies_le_one (h : r.Sound timeout) (ticket : Ticket) : r.replies ticket ≤ 1 := by
  rw [replies_eq_count]
  exact List.nodup_iff_count_le_one.1 (List.nodup_append.1 h.nodup).2.1 ticket

/-- A posted ticket waits exactly if it got no reply. -/
lemma Sound.mem_waiting_iff (h : r.Sound timeout) {p : Posted} (hp : p ∈ r.posted) :
    p.ticket ∈ r.multiplexer.waiting ↔ r.replies p.ticket = 0 := by
  rw [replies_eq_zero]
  constructor
  · intro hw hg
    exact (List.nodup_append.1 h.nodup).2.2 _ hw _ hg rfl
  · intro hg
    have hmem := h.accounted.mem_iff.2 (List.mem_map_of_mem hp)
    exact (List.mem_append.1 hmem).resolve_right hg

lemma Sound.eq_of_ticket (h : r.Sound timeout) {p q : Posted} (hp : p ∈ r.posted)
    (hq : q ∈ r.posted) (heq : p.ticket = q.ticket) : p = q :=
  List.inj_on_of_nodup_map h.distinct hp hq heq

/-- An unanswered request has its transaction in the session with its address. -/
lemma Sound.unanswered_iff (h : r.Sound timeout) {p : Posted} (hp : p ∈ r.posted) :
    r.replies p.ticket = 0 ↔
      ∃ t ∈ r.multiplexer.transactions p.address, p.Records timeout p.address t := by
  rw [← h.mem_waiting_iff hp, h.table.mem_waiting]
  constructor
  · rintro ⟨a, t, ht, htp⟩
    obtain ⟨q, hq, hrec⟩ := h.recorded a t ht
    obtain rfl := h.eq_of_ticket hq hp (hrec.1.trans htp)
    have ha := hrec.2.1
    exact ⟨t, ha ▸ ht, ha ▸ hrec⟩
  · rintro ⟨t, ht, hrec⟩
    exact ⟨p.address, t, ht, hrec.1.symm⟩

lemma Sound.holds_iff (h : r.Sound timeout) {p : Posted} (hp : p ∈ r.posted) :
    r.replies p.ticket = 0 ↔ (r.multiplexer.session p.address).pending.holds p.ticket = true := by
  rw [Pending.holds_iff]
  constructor
  · intro hr
    obtain ⟨t, ht, hrec⟩ := (h.unanswered_iff hp).1 hr
    exact hrec.1 ▸ List.mem_map_of_mem ht
  · intro ht
    rw [← h.mem_waiting_iff hp, h.table.mem_waiting]
    obtain ⟨t, ht, heq⟩ := List.mem_map.1 ht
    exact ⟨p.address, t, ht, heq⟩

lemma Sound.pending_eq (h : r.Sound timeout) :
    r.multiplexer.pending = r.posted.countP fun p => r.replies p.ticket = 0 := by
  let unanswered (ticket : Ticket) : Bool := r.replies ticket = 0
  have hwaiting : r.multiplexer.waiting.countP unanswered = r.multiplexer.waiting.length := by
    rw [List.countP_eq_length]
    intro ticket hw
    simp only [unanswered, decide_eq_true_eq, replies_eq_zero]
    exact fun hg => (List.nodup_append.1 h.nodup).2.2 _ hw _ hg rfl
  have hgiven : (r.given.map (·.ticket)).countP unanswered = 0 := by
    rw [List.countP_eq_zero]
    intro ticket hg
    simpa only [unanswered, decide_eq_true_eq, replies_eq_zero, not_not] using hg
  calc r.multiplexer.pending
    _ = r.multiplexer.waiting.countP unanswered + (r.given.map (·.ticket)).countP unanswered := by
      rw [Multiplexer.pending_eq, hwaiting, hgiven, Nat.add_zero]
    _ = (r.posted.map (·.ticket)).countP unanswered := by
      rw [← List.countP_append, h.accounted.countP_eq]
    _ = r.posted.countP fun p => r.replies p.ticket = 0 := by
      rw [List.countP_map]
      rfl

/-! ### Forgotten sessions -/

lemma exists_setSession {m : Multiplexer} (s : Session) {t : Session} (ht : t ∈ m.sessions) :
    ∃ t' ∈ (m.setSession s).sessions, t'.address = t.address := by
  by_cases h : t.address = s.address
  · exact ⟨s, List.mem_cons_self, h.symm⟩
  · exact ⟨t, List.mem_cons_of_mem _ (List.mem_filter.2 ⟨ht, by simpa using h⟩), rfl⟩

lemma exists_request {m : Multiplexer} (transport : Transport) (address : Address)
    (method : String) (arguments : Dict) (now : Nat) {t : Session} (ht : t ∈ m.sessions) :
    ∃ t' ∈ (m.request transport address method arguments now).2.sessions,
      t'.address = t.address := by
  unfold Multiplexer.request
  split
  · exact ⟨t, ht, rfl⟩
  · exact exists_setSession _ ht

lemma exists_handleDatagram {m : Multiplexer} (transport : Transport) (respond : Responder σ)
    (d : Datagram) (state : σ) {t : Session} (ht : t ∈ m.sessions) :
    ∃ t' ∈ (m.handleDatagram transport respond d state).1.sessions, t'.address = t.address := by
  unfold Multiplexer.handleDatagram
  split
  · exact ⟨t, ht, rfl⟩
  · split
    · exact ⟨t, ht, rfl⟩
    · exact exists_setSession _ ht

/-- Who waits in a session that an operation forgets is told so. -/
lemma told_of_forgotten (r : Run σ) (op : Operation σ) {s : Session}
    (hs : s ∈ r.multiplexer.sessions)
    (hgone : ∀ s' ∈ (r.perform op).multiplexer.sessions, s'.address ≠ s.address)
    {t : Transaction} (ht : t ∈ s.pending) :
    ⟨t.ticket, .error (.timeout t.method s.address)⟩ ∈ (r.perform op).multiplexer.delivered ∨
      ⟨t.ticket, .error .stopped⟩ ∈ (r.perform op).multiplexer.delivered := by
  have hkept (h : ∃ s' ∈ (r.perform op).multiplexer.sessions, s'.address = s.address) : False := by
    obtain ⟨s', hs', heq⟩ := h
    exact hgone s' hs' heq
  have hstopped : (⟨t.ticket, .error .stopped⟩ : Delivery) ∈ s.pending.stop :=
    List.mem_map.2 ⟨t, ht, rfl⟩
  cases op with
  | request transport address method arguments now =>
    exact (hkept (exists_request transport address method arguments now hs)).elim
  | handle transport respond d =>
    exact (hkept (exists_handleDatagram transport respond d r.state hs)).elim
  | receive transport respond d =>
    exact (hkept (exists_handleDatagram transport respond _ r.state hs)).elim
  | collect ticket =>
    refine (hkept ⟨s, ?_, rfl⟩).elim
    rcases collect_cases r.multiplexer ticket with ⟨reply, delivered, heq, -⟩ | heq | heq
    all_goals simpa only [perform, heq] using hs
  | expire now =>
    -- the session is forgotten because all its transactions are due
    have hidle : (s.expire now).1.isIdle = true := by
      by_contra hidle
      rw [Bool.not_eq_true] at hidle
      exact hgone _ (Multiplexer.mem_sessions_expire.2 ⟨hidle, s, hs, rfl⟩) rfl
    have hdue : t.deadline ≤ now := by
      have hnil : (s.pending.expire s.address now).2 = [] := by
        simpa [Session.isIdle, Session.expire] using hidle
      rw [Pending.expire_pending, List.filter_eq_nil_iff] at hnil
      simpa using hnil t ht
    refine .inl ?_
    simp only [perform, (r.multiplexer.settles_expire now).delivered, List.mem_append,
      List.mem_flatMap, Pending.expire_delivered]
    exact .inr ⟨s, hs, List.mem_map.2 ⟨t, List.mem_filter.2 ⟨ht, by simpa using hdue⟩, rfl⟩⟩
  | reset address =>
    have haddress : s.address = address := by
      by_contra hne
      refine hgone s ?_ rfl
      simp only [perform, Multiplexer.reset, List.partition_eq_filter_filter]
      exact List.mem_filter.2 ⟨hs, by simpa using hne⟩
    refine .inr ?_
    simp only [perform, (r.multiplexer.settles_reset address).delivered, List.mem_append,
      List.mem_flatMap]
    exact .inr ⟨s, List.mem_filter.2 ⟨hs, by simpa using haddress⟩, hstopped⟩
  | stop =>
    refine .inr ?_
    simp only [perform, r.multiplexer.settles_stop.delivered, List.mem_append, List.mem_flatMap]
    exact .inr ⟨s, hs, hstopped⟩

/-! ### Expiry -/

/-- An expiry gives a timeout to the unanswered requests that are due, and nothing else. -/
lemma Sound.given_expire (h : r.Sound timeout) (now : Nat) :
    ∃ due, (r.perform (.expire now)).given = r.given ++ due ∧
      List.Perm due ((r.posted.filter fun p => r.replies p.ticket = 0 ∧ p.sentAt + timeout ≤ now).map
        fun p => ⟨p.ticket, .error (.timeout p.method p.address)⟩) := by
  have hsettles := r.multiplexer.settles_expire now
  refine ⟨_, by rw [given, given, List.append_assoc]; exact congrArg _ hsettles.delivered, ?_⟩
  rw [List.perm_ext_iff_of_nodup]
  · intro d
    simp only [List.mem_flatMap, Pending.expire_delivered, List.mem_map, List.mem_filter,
      decide_eq_true_eq]
    constructor
    · rintro ⟨s, hs, t, ⟨ht, hdue⟩, rfl⟩
      have ht' : t ∈ r.multiplexer.transactions s.address := by
        rwa [Multiplexer.transactions, h.table.session_eq hs]
      obtain ⟨p, hp, h1, h2, h3, h4⟩ := h.recorded s.address t ht'
      refine ⟨p, ⟨hp, ?_, h4 ▸ hdue⟩, by rw [h1, h2, h3]⟩
      exact (h.unanswered_iff hp).2 ⟨t, h2 ▸ ht', h1, rfl, h3, h4⟩
    · rintro ⟨p, ⟨hp, hzero, hdue⟩, rfl⟩
      obtain ⟨t, ht, h1, -, h3, h4⟩ := (h.unanswered_iff hp).1 hzero
      exact ⟨_, Multiplexer.mem_sessions_of_mem_pending ht, t, ⟨ht, h4 ▸ hdue⟩,
        by rw [h1, h3, Multiplexer.address_session]⟩
  · have hwaiting : r.multiplexer.waiting.Nodup := (List.nodup_append.1 h.nodup).1
    exact (List.nodup_append.1 (hsettles.tickets.nodup_iff.2 hwaiting)).2.1.of_map _
  · refine List.Nodup.of_map (·.ticket) ?_
    rw [List.map_map]
    exact h.distinct.sublist (List.filter_sublist.map _)

lemma Sound.holds_expire (h : r.Sound timeout) (now : Nat) {p : Posted} (hp : p ∈ r.posted)
    (hzero : r.replies p.ticket = 0) (hlate : now < p.sentAt + timeout) :
    ((r.perform (.expire now)).multiplexer.session p.address).pending.holds p.ticket = true := by
  obtain ⟨t, ht, h1, -, -, h4⟩ := (h.unanswered_iff hp).1 hzero
  rw [Pending.holds_iff, h1]
  have hkept : t ∈ (r.multiplexer.expire now).transactions p.address := by
    rw [h.table.transactions_expire, List.mem_filter]
    exact ⟨ht, by simpa [h4] using hlate⟩
  exact List.mem_map.2 ⟨t, hkept, rfl⟩

/-- Every ticket is resolved once. In every run each ticket is new and is given at most one reply; it
is unanswered exactly as long as it waits in the session with its address, so as many transactions
wait as tickets are unanswered. A session is only forgotten when all who wait in it are told that
their time is over or that it stopped. An expiry gives a timeout to the unanswered requests whose
time is over, each once, leaves the others waiting, and leaves no session in which nobody waits. -/
theorem resolves_once (own : Address) (timeout maxPacket : Nat) (entropy : Entropy) (state : σ)
    (ops : List (Operation σ)) :
    let r := (Run.start own timeout maxPacket entropy state).after ops
    (r.posted.map (·.ticket)).Nodup ∧
    (∀ p ∈ r.posted, r.replies p.ticket ≤ 1 ∧
      (r.replies p.ticket = 0 ↔ (r.multiplexer.session p.address).pending.holds p.ticket = true)) ∧
    r.multiplexer.pending = r.posted.countP (fun p => r.replies p.ticket = 0) ∧
    (∀ op, ∀ s ∈ r.multiplexer.sessions,
      (∀ s' ∈ (r.perform op).multiplexer.sessions, s'.address ≠ s.address) →
      ∀ t ∈ s.pending,
        ⟨t.ticket, .error (.timeout t.method s.address)⟩ ∈ (r.perform op).multiplexer.delivered ∨
        ⟨t.ticket, .error .stopped⟩ ∈ (r.perform op).multiplexer.delivered) ∧
    ∀ now, let r' := r.perform (.expire now)
      (∃ due, r'.given = r.given ++ due ∧ List.Perm due
        ((r.posted.filter fun p => r.replies p.ticket = 0 ∧ p.sentAt + timeout ≤ now).map
          fun p => ⟨p.ticket, .error (.timeout p.method p.address)⟩)) ∧
      (∀ p ∈ r.posted, r.replies p.ticket = 0 → now < p.sentAt + timeout →
        (r'.multiplexer.session p.address).pending.holds p.ticket = true) ∧
      ∀ s ∈ r'.multiplexer.sessions, s.pending ≠ [] := by
  intro r
  have h : r.Sound timeout := (Sound.start own maxPacket entropy state).after ops
  refine ⟨h.distinct, fun p hp => ⟨h.replies_le_one _, h.holds_iff hp⟩, h.pending_eq,
    fun op s hs hgone t ht => r.told_of_forgotten op hs hgone ht, fun now => ?_⟩
  refine ⟨h.given_expire now, fun p hp => h.holds_expire now hp, fun s hs => ?_⟩
  have hidle := (Multiplexer.mem_sessions_expire.1 hs).1
  simpa [Session.isIdle] using hidle

end Run

end Kademlia.Exchange
