import Mathlib
import Kademlia.Exchange.Multiplexer

/-!
# Tickets

A ticket waits in the session it was sent from until it is given its reply. Every operation moves
tickets from the sessions to the replies given and loses none: this is stated here for one session
and for the multiplexer, as a permutation of the tickets waiting before.
-/

namespace Kademlia.Exchange

open Bencode Wire
open scoped List

namespace Pending

/-- The tickets of the transactions. -/
def tickets (p : Pending) : List Ticket :=
  p.map (·.ticket)

/-- No two transactions have the same identifier. -/
def Distinct (p : Pending) : Prop :=
  (p.map (·.id)).Nodup

@[simp] lemma tickets_cons (t : Transaction) (p : Pending) :
    tickets (t :: p) = t.ticket :: tickets p := rfl

lemma holds_iff {p : Pending} {ticket : Ticket} : p.holds ticket = true ↔ ticket ∈ p.tickets := by
  simp [holds, tickets, List.any_eq_true]

lemma uses_eq_false {p : Pending} {id : Bytes} : p.uses id = false ↔ id ∉ p.map (·.id) := by
  simp [uses, List.any_eq_false]

lemma length_id_le {p : Pending} {t : Transaction} (ht : t ∈ p) :
    t.id.length ≤ (p.flatMap (·.id)).length := by
  rw [List.length_flatMap]
  exact List.le_sum_of_mem (List.mem_map_of_mem ht)

lemma uses_freshId (p : Pending) (draw : Nat) : p.uses (p.freshId draw) = false := by
  unfold freshId
  dsimp only
  cases hfind : List.find? (fun id => !uses p id)
      ((List.range (p.length + 1)).map fun i => Bytes.ofNat 4 (draw + i)) with
  | some id => simpa using List.find?_some hfind
  | none =>
    -- all numbers are in use: the identifier is longer than any of them
    simp only [Option.getD_none, uses_eq_false, List.mem_map, not_exists, not_and]
    intro t ht heq
    have hle := length_id_le ht
    rw [heq, List.length_replicate] at hle
    omega

lemma distinct_nil : Distinct [] := List.nodup_nil

lemma Distinct.filter {p : Pending} (h : p.Distinct) (f : Transaction → Bool) :
    Distinct (p.filter f) :=
  h.sublist (List.filter_sublist.map _)

lemma perm_of_find {p : Pending} (h : p.Distinct) {id : Bytes} {t : Transaction}
    (hfind : (p.find? fun t => t.id == id) = some t) :
    List.Perm (t :: p.filter fun t => t.id != id) p := by
  induction p with
  | nil => simp at hfind
  | cons u p ih =>
    obtain ⟨hu, hp⟩ := List.nodup_cons.1 h
    by_cases hid : u.id = id
    · subst hid
      have hrest : p.filter (fun t => t.id != u.id) = p := by
        rw [List.filter_eq_self]
        intro v hv
        simp only [bne_iff_ne, ne_eq]
        intro hvid
        exact hu (List.mem_map.2 ⟨v, hv, hvid⟩)
      simp only [List.find?_cons, beq_self_eq_true, Option.some.injEq] at hfind
      rw [← hfind, List.filter_cons_of_neg (by simp), hrest]
    · have hne : (u.id == id) = false := by simpa using hid
      simp only [List.find?_cons, hne] at hfind
      rw [List.filter_cons_of_pos (by simpa using hid)]
      exact (List.Perm.swap u t _).trans ((ih hp hfind).cons u)

lemma tickets_resolve {p : Pending} (h : p.Distinct) (id : Bytes) (reply : Reply) :
    List.Perm ((p.resolve id reply).2.tickets ++ (p.resolve id reply).1.map (·.ticket))
      p.tickets := by
  unfold resolve
  cases hfind : p.find? fun t => t.id == id with
  | none => simp
  | some t =>
    refine List.perm_append_comm.trans ?_
    exact (perm_of_find h hfind).map (·.ticket)

lemma distinct_resolve {p : Pending} (h : p.Distinct) (id : Bytes) (reply : Reply) :
    (p.resolve id reply).2.Distinct := by
  unfold resolve
  split
  · exact h.filter _
  · exact h

lemma mem_of_mem_resolve {p : Pending} {id : Bytes} {reply : Reply} {t : Transaction}
    (ht : t ∈ (p.resolve id reply).2) : t ∈ p := by
  unfold resolve at ht
  split at ht
  · exact List.mem_of_mem_filter ht
  · exact ht

@[simp] lemma expire_pending (p : Pending) (a : Address) (now : Nat) :
    (p.expire a now).2 = p.filter fun t => !decide (t.deadline ≤ now) := by
  simp [expire, List.partition_eq_filter_filter, Function.comp_def]

@[simp] lemma expire_delivered (p : Pending) (a : Address) (now : Nat) :
    (p.expire a now).1 = (p.filter fun t => t.deadline ≤ now).map
      fun t => ⟨t.ticket, .error (.timeout t.method a)⟩ := by
  simp [expire, List.partition_eq_filter_filter]

lemma tickets_expire (p : Pending) (a : Address) (now : Nat) :
    List.Perm ((p.expire a now).2.tickets ++ (p.expire a now).1.map (·.ticket)) p.tickets := by
  rw [expire_pending, expire_delivered, List.map_map]
  refine List.perm_append_comm.trans ?_
  have hsplit := List.filter_append_perm (fun t : Transaction => decide (t.deadline ≤ now)) p
  simpa [tickets, Function.comp_def] using hsplit.map (·.ticket)

@[simp] lemma map_ticket_stop (p : Pending) : p.stop.map (·.ticket) = p.tickets := by
  simp [stop, tickets, Function.comp_def]

end Pending

namespace Session

/-- The tickets that wait in a session. -/
def tickets (s : Session) : List Ticket :=
  s.pending.tickets

/-- A session as the multiplexer keeps it: it takes requests, each under an identifier of its own. -/
structure Sound (s : Session) : Prop where
  distinct : s.pending.Distinct
  running : s.stopped = false

lemma Sound.new (a : Address) (timeout : Nat) : (Session.new a timeout).Sound :=
  ⟨Pending.distinct_nil, rfl⟩

/-- What a request does to a running session: it is sent and waits, or it has failed at once. -/
lemma request_cases {s : Session} (h : s.Sound) (transport : Transport) (e : Entropy)
    (ticket : Ticket) (method : String) (arguments : Dict) (now : Nat) :
    let step := s.request transport e ticket method arguments now
    (∃ reason, step.1 = s ∧
      step.2.1 = ⟨[], [⟨ticket, .error (.unreachable reason)⟩]⟩) ∨
    (∃ id bytes, id ∉ s.pending.map (·.id) ∧
      step.1 = { s with pending := ⟨id, ticket, method, now + s.timeout⟩ :: s.pending } ∧
      step.2.1 = ⟨[⟨s.address, bytes⟩], []⟩) := by
  intro step
  have hfresh := Pending.uses_eq_false.1 (s.pending.uses_freshId e.next.1)
  simp only [step, request, h.running]
  cases transport s.address with
  | some reason => exact .inl ⟨reason, rfl, rfl⟩
  | none => exact .inr ⟨_, _, hfresh, rfl, rfl⟩

/-- What a message does to a session: it ends the transaction it names, unless it is a request. -/
lemma handle_cases {σ : Type} (s : Session) (transport : Transport) (respond : Responder σ)
    (maxPacket : Nat) (m : Message) (state : σ) :
    let step := s.handle transport respond maxPacket m state
    (step.1 = s ∧ step.2.1.delivered = []) ∨
    (∃ reply, step.1 = { s with pending := (s.pending.resolve m.transaction reply).2 } ∧
      step.2.1.delivered = (s.pending.resolve m.transaction reply).1) := by
  intro step
  simp only [step, handle]
  split
  · exact .inl ⟨rfl, rfl⟩
  all_goals exact .inr ⟨_, rfl, rfl⟩

end Session

namespace Multiplexer

/-- The tickets that wait in some session. -/
def waiting (m : Multiplexer) : List Ticket :=
  m.sessions.flatMap (·.tickets)

/-- Each address has one session, which takes requests and gives them the common time. -/
structure Sound (m : Multiplexer) : Prop where
  addresses : (m.sessions.map (·.address)).Nodup
  sessions : ∀ s ∈ m.sessions, s.Sound
  timeouts : ∀ s ∈ m.sessions, s.timeout = m.timeout

lemma Sound.congr {m m' : Multiplexer} (h : m.Sound) (hsessions : m'.sessions = m.sessions)
    (htimeout : m'.timeout = m.timeout) : m'.Sound where
  addresses := hsessions ▸ h.addresses
  sessions := hsessions ▸ h.sessions
  timeouts := by
    rw [hsessions, htimeout]
    exact h.timeouts

lemma pending_eq (m : Multiplexer) : m.pending = m.waiting.length := by
  simp [pending, waiting, Session.tickets, Pending.tickets, List.length_flatMap]

lemma find_session {m : Multiplexer} {a : Address} {s : Session}
    (hs : (m.sessions.find? fun s => s.address = a) = some s) : s ∈ m.sessions ∧ s.address = a :=
  ⟨List.mem_of_find?_eq_some hs, by simpa using List.find?_some hs⟩

/-- The session with an address is the one in the table, or a new one if there is none. -/
lemma session_cases (m : Multiplexer) (a : Address) :
    (m.session a ∈ m.sessions ∧ (m.session a).address = a) ∨
    ((∀ s ∈ m.sessions, s.address ≠ a) ∧ m.session a = .new a m.timeout) := by
  unfold session
  cases hfind : m.sessions.find? fun s => s.address = a with
  | some s => exact .inl (find_session hfind)
  | none =>
    refine .inr ⟨fun s hs heq => ?_, rfl⟩
    simpa [heq] using List.find?_eq_none.1 hfind s hs

@[simp] lemma address_session (m : Multiplexer) (a : Address) : (m.session a).address = a := by
  rcases m.session_cases a with ⟨-, h⟩ | ⟨-, h⟩
  · exact h
  · rw [h]; rfl

lemma Sound.session {m : Multiplexer} (h : m.Sound) (a : Address) : (m.session a).Sound := by
  rcases m.session_cases a with ⟨hm, -⟩ | ⟨-, hnew⟩
  · exact h.sessions _ hm
  · exact hnew ▸ .new a m.timeout

lemma Sound.timeout_session {m : Multiplexer} (h : m.Sound) (a : Address) :
    (m.session a).timeout = m.timeout := by
  rcases m.session_cases a with ⟨hm, -⟩ | ⟨-, hnew⟩
  · exact h.timeouts _ hm
  · rw [hnew]; rfl

lemma Sound.eq_of_address {m : Multiplexer} (h : m.Sound) {s t : Session} (hs : s ∈ m.sessions)
    (ht : t ∈ m.sessions) (heq : s.address = t.address) : s = t :=
  List.inj_on_of_nodup_map h.addresses hs ht heq

lemma Sound.session_eq {m : Multiplexer} (h : m.Sound) {s : Session} (hs : s ∈ m.sessions) :
    m.session s.address = s := by
  rcases m.session_cases s.address with ⟨hm, ha⟩ | ⟨hnone, -⟩
  · exact h.eq_of_address hm hs ha
  · exact absurd rfl (hnone s hs)

lemma mem_sessions_of_mem_pending {m : Multiplexer} {a : Address} {t : Transaction}
    (ht : t ∈ (m.session a).pending) : m.session a ∈ m.sessions := by
  rcases m.session_cases a with ⟨hm, -⟩ | ⟨-, hnew⟩
  · exact hm
  · rw [hnew] at ht
    exact absurd ht (by simp [Session.new])

/-- The transactions of the session with an address. -/
def transactions (m : Multiplexer) (a : Address) : Pending :=
  (m.session a).pending

lemma Sound.mem_waiting {m : Multiplexer} (h : m.Sound) {ticket : Ticket} :
    ticket ∈ m.waiting ↔ ∃ a, ∃ t ∈ m.transactions a, t.ticket = ticket := by
  simp only [waiting, Session.tickets, Pending.tickets, List.mem_flatMap, List.mem_map]
  constructor
  · rintro ⟨s, hs, t, ht, rfl⟩
    exact ⟨s.address, t, by rwa [transactions, h.session_eq hs], rfl⟩
  · rintro ⟨a, t, ht, rfl⟩
    exact ⟨m.session a, mem_sessions_of_mem_pending ht, t, ht, rfl⟩

/-- The waiting tickets are those of one session and those of the sessions with other addresses. -/
lemma Sound.waiting_perm {m : Multiplexer} (h : m.Sound) (a : Address) :
    List.Perm ((m.session a).tickets ++
      (m.sessions.filter fun s => s.address ≠ a).flatMap (·.tickets)) m.waiting := by
  rcases m.session_cases a with ⟨hm, ha⟩ | ⟨hnone, hnew⟩
  · have hone : m.sessions.filter (fun s => s.address = a) = [m.session a] := by
      rw [← List.perm_singleton, List.perm_ext_iff_of_nodup _ (List.nodup_singleton _)]
      · intro s
        simp only [List.mem_filter, decide_eq_true_eq, List.mem_singleton]
        constructor
        · rintro ⟨hs, rfl⟩
          exact (h.session_eq hs).symm
        · rintro rfl
          exact ⟨hm, ha⟩
      · exact h.addresses.of_map.filter _
    have hsplit := List.filter_append_perm (fun s : Session => decide (s.address = a)) m.sessions
    rw [hone] at hsplit
    simpa [waiting] using hsplit.flatMap_right (·.tickets)
  · have hall : m.sessions.filter (fun s => s.address ≠ a) = m.sessions := by
      simpa [List.filter_eq_self] using hnone
    rw [hall, hnew]
    exact List.Perm.refl _

/-! ### Operations on the table -/

lemma session_setSession (m : Multiplexer) (s : Session) (a : Address) :
    (m.setSession s).session a = if a = s.address then s else m.session a := by
  unfold session setSession
  split_ifs with ha
  · simp [ha]
  · have hne : ¬ s.address = a := fun h => ha h.symm
    simp only [List.find?_cons, hne, decide_false, List.find?_filter]
    congr 2
    funext t
    by_cases hta : t.address = a <;> simp [hta, ha]

lemma transactions_setSession (m : Multiplexer) (s : Session) (a : Address) :
    (m.setSession s).transactions a = if a = s.address then s.pending else m.transactions a := by
  simp only [transactions, session_setSession]
  split_ifs <;> rfl

lemma transactions_reset (m : Multiplexer) (a b : Address) :
    (m.reset a).transactions b = if b = a then [] else m.transactions b := by
  simp only [transactions, session, reset, List.partition_eq_filter_filter, List.find?_filter]
  split_ifs with hb
  · rw [List.find?_eq_none.2 (by simp [hb])]
    rfl
  · congr 3
    funext t
    by_cases htb : t.address = b <;> simp [htb, hb]

lemma Sound.expire {m : Multiplexer} (h : m.Sound) (now : Nat) : (m.expire now).Sound where
  addresses := by
    refine h.addresses.sublist ?_
    have hmap : m.sessions.map (·.address) =
        ((m.sessions.map fun s => s.expire now).map (·.1)).map (·.address) := by
      simp [Session.expire, Function.comp_def]
    rw [hmap]
    exact List.filter_sublist.map _
  sessions := by
    simp only [Multiplexer.expire, List.mem_filter, List.mem_map]
    rintro _ ⟨⟨_, ⟨s, hs, rfl⟩, rfl⟩, -⟩
    refine ⟨?_, (h.sessions s hs).running⟩
    simp only [Session.expire, Pending.expire_pending]
    exact (h.sessions s hs).distinct.filter _
  timeouts := by
    simp only [Multiplexer.expire, List.mem_filter, List.mem_map]
    rintro _ ⟨⟨_, ⟨s, hs, rfl⟩, rfl⟩, -⟩
    exact h.timeouts s hs

lemma mem_sessions_expire {m : Multiplexer} {now : Nat} {s : Session} :
    s ∈ (m.expire now).sessions ↔
      s.isIdle = false ∧ ∃ t ∈ m.sessions, s = (t.expire now).1 := by
  simp only [Multiplexer.expire, List.map_map, List.mem_filter, List.mem_map, Function.comp_apply,
    Bool.not_eq_eq_eq_not, Bool.not_true]
  constructor
  · rintro ⟨⟨t, ht, rfl⟩, hidle⟩
    exact ⟨hidle, t, ht, rfl⟩
  · rintro ⟨hidle, t, ht, rfl⟩
    exact ⟨⟨t, ht, rfl⟩, hidle⟩

/-- Exactly the transactions whose deadline has not come go on waiting. -/
lemma Sound.transactions_expire {m : Multiplexer} (h : m.Sound) (now : Nat) (a : Address) :
    (m.expire now).transactions a =
      (m.transactions a).filter fun t => !decide (t.deadline ≤ now) := by
  have hrest (s : Session) : (s.expire now).1.pending =
      s.pending.filter fun t => !decide (t.deadline ≤ now) :=
    s.pending.expire_pending s.address now
  rcases (m.expire now).session_cases a with ⟨hm, ha⟩ | ⟨hnone, hnew⟩
  · obtain ⟨-, t, ht, heq⟩ := mem_sessions_expire.1 hm
    have hta : t.address = a := by rw [← ha, heq]; rfl
    rw [transactions, heq, hrest, transactions, ← hta, h.session_eq ht]
  · rw [transactions, hnew]
    rcases m.session_cases a with ⟨hs, hsa⟩ | ⟨-, hs⟩
    · -- the session was forgotten, so nothing is left in it
      by_contra hleft
      have hidle : ((m.session a).expire now).1.isIdle = false := by
        simp only [Session.isIdle, hrest, List.isEmpty_eq_false_iff]
        exact fun h => hleft h.symm
      exact hnone _ (mem_sessions_expire.2 ⟨hidle, _, hs, rfl⟩) hsa
    · rw [transactions, hs]
      rfl

lemma Sound.reset {m : Multiplexer} (h : m.Sound) (a : Address) : (m.reset a).Sound := by
  simp only [Multiplexer.reset, List.partition_eq_filter_filter]
  exact ⟨h.addresses.sublist (List.filter_sublist.map _),
    fun s hs => h.sessions s (List.mem_of_mem_filter hs),
    fun s hs => h.timeouts s (List.mem_of_mem_filter hs)⟩

lemma Sound.stop (m : Multiplexer) : m.stop.Sound :=
  ⟨List.nodup_nil, by simp [Multiplexer.stop], by simp [Multiplexer.stop]⟩

/-! ### Every ticket is accounted for -/

/-- What an operation does with tickets: those it issues and those that waited before go on waiting
or are given one reply. -/
structure Settles (m m' : Multiplexer) (issued : List Ticket) (given : List Delivery) : Prop where
  delivered : m'.delivered = m.delivered ++ given
  tickets : (m'.waiting ++ given.map (·.ticket)).Perm (issued ++ m.waiting)

lemma Sound.setSession {m : Multiplexer} (h : m.Sound) {s : Session} (hs : s.Sound)
    (ht : s.timeout = m.timeout) : (m.setSession s).Sound where
  addresses := by
    simp only [Multiplexer.setSession, List.map_cons, List.nodup_cons, List.mem_map,
      List.mem_filter, decide_eq_true_eq, not_exists, not_and, and_imp]
    exact ⟨fun _ _ hne => hne, h.addresses.sublist (List.filter_sublist.map _)⟩
  sessions := by
    simp only [Multiplexer.setSession, List.mem_cons, List.mem_filter]
    rintro t (rfl | ⟨hm, -⟩)
    · exact hs
    · exact h.sessions t hm
  timeouts := by
    simp only [Multiplexer.setSession, List.mem_cons, List.mem_filter]
    rintro t (rfl | ⟨hm, -⟩)
    · exact ht
    · exact h.timeouts t hm

/-- Putting a session back keeps the table sound and accounts for every ticket, if the session does
so. What else an operation changes plays no part. -/
lemma Sound.put {m m' : Multiplexer} (h : m.Sound) (s : Session) (given : List Delivery)
    (issued : List Ticket) (hs : s.Sound) (ht : s.timeout = m.timeout)
    (hperm : (s.tickets ++ given.map (·.ticket)).Perm (issued ++ (m.session s.address).tickets))
    (hsessions : m'.sessions = (m.setSession s).sessions) (htimeout : m'.timeout = m.timeout)
    (hdelivered : m'.delivered = m.delivered ++ given) :
    m'.Sound ∧ m.Settles m' issued given ∧
      ∀ a, m'.transactions a = if a = s.address then s.pending else m.transactions a := by
  refine ⟨(h.setSession hs ht).congr hsessions htimeout, ⟨hdelivered, ?_⟩, fun a => ?_⟩
  · have hrest := h.waiting_perm s.address
    simp only [waiting, hsessions, Multiplexer.setSession, List.flatMap_cons]
    generalize (m.sessions.filter fun t => t.address ≠ s.address).flatMap (·.tickets) = others at *
    calc s.tickets ++ others ++ given.map (·.ticket)
      _ ~ (s.tickets ++ given.map (·.ticket)) ++ others := by
        simp only [List.append_assoc]
        exact List.perm_append_comm.append_left _
      _ ~ (issued ++ (m.session s.address).tickets) ++ others := hperm.append_right _
      _ = issued ++ ((m.session s.address).tickets ++ others) := List.append_assoc ..
      _ ~ issued ++ m.waiting := hrest.append_left _
  · rw [← transactions_setSession]
    simp only [transactions, Multiplexer.session, hsessions, htimeout]
    rfl

lemma settles_reject (m : Multiplexer) (error : CallError) :
    m.Settles (m.reject error).2 [m.nextTicket] [⟨m.nextTicket, .error error⟩] :=
  ⟨rfl, List.perm_append_comm⟩

/-- A request issues the next ticket. If it is sent its transaction waits in the session with its
address until the common time is over. -/
lemma Sound.request {m : Multiplexer} (h : m.Sound) (transport : Transport) (address : Address)
    (method : String) (arguments : Dict) (now : Nat) :
    let step := m.request transport address method arguments now
    step.1 = m.nextTicket ∧ step.2.nextTicket = m.nextTicket + 1 ∧ step.2.timeout = m.timeout ∧
      step.2.Sound ∧ (∃ given, m.Settles step.2 [m.nextTicket] given) ∧
      ∀ a, ∀ t ∈ step.2.transactions a, t ∈ m.transactions a ∨
        t.ticket = m.nextTicket ∧ address = a ∧ t.method = method ∧
          t.deadline = now + m.timeout := by
  intro step
  simp only [step, Multiplexer.request]
  split
  · exact ⟨rfl, rfl, rfl, h.congr rfl rfl, ⟨_, m.settles_reject _⟩, fun a t ht => .inl ht⟩
  · have hs := h.session address
    have haddress := m.address_session address
    have htimeout := h.timeout_session address
    have hsession : m.takeTicket.2.session address = m.session address := rfl
    rw [hsession]
    dsimp only [takeTicket]
    rcases Session.request_cases hs transport m.entropy m.nextTicket method arguments now with
      ⟨reason, h1, h2⟩ | ⟨id, bytes, hid, h1, h2⟩
    · rw [h1, h2]
      refine ⟨rfl, rfl, rfl, ?_⟩
      generalize hm : Multiplexer.record _ _ = m'
      obtain ⟨hsound, hsettles, htransactions⟩ := h.put (m.session address)
        [⟨m.nextTicket, .error (.unreachable reason)⟩] [m.nextTicket] hs htimeout
        (by rw [haddress]; exact List.perm_append_comm)
        (show m'.sessions = _ from hm ▸ rfl) (hm ▸ rfl) (hm ▸ rfl)
      refine ⟨hsound, ⟨_, hsettles⟩, fun a t ht => .inl ?_⟩
      rw [htransactions] at ht
      split_ifs at ht with ha
      · rwa [ha, haddress]
      · exact ht
    · rw [h1, h2]
      refine ⟨rfl, rfl, rfl, ?_⟩
      generalize hm : Multiplexer.record _ _ = m'
      obtain ⟨hsound, hsettles, htransactions⟩ := h.put
        { m.session address with
          pending := ⟨id, m.nextTicket, method, now + (m.session address).timeout⟩ ::
            (m.session address).pending }
        [] [m.nextTicket] ⟨List.nodup_cons.2 ⟨hid, hs.distinct⟩, hs.running⟩ htimeout
        (by simp [Session.tickets]) (show m'.sessions = _ from hm ▸ rfl) (hm ▸ rfl)
        (by rw [← hm]; rfl)
      refine ⟨hsound, ⟨_, hsettles⟩, fun a t ht => ?_⟩
      rw [htransactions] at ht
      split_ifs at ht with ha
      · rcases List.mem_cons.1 ht with rfl | ht
        · exact .inr ⟨rfl, (ha.trans haddress).symm, rfl, by rw [htimeout]⟩
        · exact .inl (by rwa [ha, haddress])
      · exact .inl ht

/-- A datagram gives the replies its session gives for it, and posts nothing. -/
lemma Sound.handleDatagram {σ : Type} {m : Multiplexer} (h : m.Sound) (transport : Transport)
    (respond : Responder σ) (d : Datagram) (state : σ) :
    let m' := (m.handleDatagram transport respond d state).1
    m'.nextTicket = m.nextTicket ∧ m'.timeout = m.timeout ∧ m'.Sound ∧
      (∃ given, m.Settles m' [] given) ∧ ∀ a, ∀ t ∈ m'.transactions a, t ∈ m.transactions a := by
  intro m'
  simp only [m', Multiplexer.handleDatagram]
  have hnone : m.Settles m [] [] := ⟨(List.append_nil _).symm, by simp⟩
  split
  · exact ⟨rfl, rfl, h, ⟨[], hnone⟩, fun a t ht => ht⟩
  · cases Message.decode d.bytes with
    | error e => exact ⟨rfl, rfl, h, ⟨[], hnone⟩, fun a t ht => ht⟩
    | ok message =>
      dsimp only
      have hs := h.session d.peer
      have haddress := m.address_session d.peer
      have htimeout := h.timeout_session d.peer
      have hcases := (m.session d.peer).handle_cases transport respond m.maxPacket message state
      generalize (m.session d.peer).handle transport respond m.maxPacket message state = step at *
      obtain ⟨s, traffic, state'⟩ := step
      dsimp only at hcases ⊢
      have hsub : ∀ t ∈ s.pending, t ∈ m.transactions d.peer := by
        rcases hcases with ⟨rfl, -⟩ | ⟨reply, rfl, -⟩
        · exact fun t ht => ht
        · exact fun t ht => Pending.mem_of_mem_resolve ht
      have hpeer : s.address = d.peer := by
        rcases hcases with ⟨rfl, -⟩ | ⟨reply, rfl, -⟩ <;> exact haddress
      have hput : s.Sound ∧ s.timeout = m.timeout ∧
          (s.tickets ++ traffic.delivered.map (·.ticket)).Perm (m.session d.peer).tickets := by
        rcases hcases with ⟨rfl, hd⟩ | ⟨reply, rfl, hd⟩ <;> rw [hd]
        · exact ⟨hs, htimeout, by simp⟩
        · exact ⟨⟨Pending.distinct_resolve hs.distinct _ _, hs.running⟩, htimeout,
            Pending.tickets_resolve hs.distinct _ _⟩
      refine ⟨rfl, rfl, ?_⟩
      generalize hm : Multiplexer.record _ _ = m'
      obtain ⟨hsound, hsettles, htransactions⟩ := h.put s traffic.delivered [] hput.1 hput.2.1
        (hpeer ▸ hput.2.2) (show m'.sessions = _ from hm ▸ rfl) (hm ▸ rfl) (hm ▸ rfl)
      refine ⟨hsound, ⟨_, hsettles⟩, fun a t ht => ?_⟩
      rw [htransactions] at ht
      split_ifs at ht with ha
      · rw [ha, hpeer]
        exact hsub t ht
      · exact ht

lemma settles_expire (m : Multiplexer) (now : Nat) :
    m.Settles (m.expire now) []
      (m.sessions.flatMap fun s => (s.pending.expire s.address now).1) where
  delivered := by
    simp only [expire, List.flatMap_map]
    rfl
  tickets := by
    have hkept : (m.expire now).waiting =
        m.sessions.flatMap fun s => (s.pending.expire s.address now).2.tickets := by
      simp only [waiting, expire, List.map_map]
      induction m.sessions with
      | nil => rfl
      | cons s rest ih =>
        simp only [List.map_cons, List.flatMap_cons, List.filter_cons]
        split
        · rw [List.flatMap_cons, ih]
          rfl
        · next hidle =>
          have hnil : (s.pending.expire s.address now).2 = [] := by
            simpa [Session.isIdle, Session.expire] using hidle
          rw [ih, hnil]
          rfl
    rw [hkept, List.map_flatMap]
    refine (List.flatMap_append_perm _ _ _).trans ?_
    exact List.Perm.flatMap_left _ fun s _ => s.pending.tickets_expire s.address now

lemma settles_reset (m : Multiplexer) (a : Address) :
    m.Settles (m.reset a) []
      ((m.sessions.filter fun s => s.address = a).flatMap fun s => s.pending.stop) where
  delivered := by simp [reset, List.partition_eq_filter_filter]
  tickets := by
    have hsplit := List.filter_append_perm (fun s : Session => decide (s.address = a)) m.sessions
    have htickets := hsplit.flatMap_right (·.tickets)
    simp only [waiting, reset, List.partition_eq_filter_filter, List.map_flatMap,
      Pending.map_ticket_stop]
    rw [List.flatMap_append] at htickets
    exact List.perm_append_comm.trans htickets

lemma settles_stop (m : Multiplexer) :
    m.Settles m.stop [] (m.sessions.flatMap fun s => s.pending.stop) where
  delivered := rfl
  tickets := by
    simp only [waiting, stop, List.map_flatMap, Pending.map_ticket_stop]
    exact List.Perm.refl _

end Multiplexer

end Kademlia.Exchange
