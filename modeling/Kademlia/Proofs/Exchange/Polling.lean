import Kademlia.Proofs.Exchange.Run
import Kademlia.Proofs.Exchange.Step
import Kademlia.Proofs.Exchange.Verification

/-!
# What a call finds

What the holder of a ticket finds depends on whether a reply was given to this ticket, and on whether it
waits. So to look for the reply to one call, or to make another one, changes nothing for the holders of
all other tickets.
-/

namespace Kademlia.Exchange

open Bencode Wire

namespace Multiplexer

/-- Every ticket that waits or was given a reply was given out before. -/
structure Numbered (m : Multiplexer) : Prop where
  sound : m.Sound
  waiting : ∀ ticket ∈ m.waiting, ticket < m.nextTicket
  delivered : ∀ d ∈ m.delivered, d.ticket < m.nextTicket

/-- This is so whatever was done to a multiplexer. -/
lemma numbered_of_run {σ : Type} {r : Run σ} {timeout : Nat} (h : r.Sound timeout) :
    r.multiplexer.Numbered := by
  have hissued : ∀ ticket ∈ r.multiplexer.waiting ++ r.given.map (·.ticket),
      ticket < r.multiplexer.nextTicket := by
    intro ticket ht
    obtain ⟨p, hp, rfl⟩ := List.mem_map.1 (h.accounted.subset ht)
    exact h.issued p hp
  refine ⟨h.table, fun ticket ht => hissued ticket (List.mem_append_left _ ht), fun d hd => ?_⟩
  exact hissued d.ticket
    (List.mem_append_right _ (List.mem_map_of_mem (List.mem_append_right r.taken hd)))

lemma numbered_new (own : Address) (timeout maxPacket : Nat) (entropy : Entropy) :
    (new own timeout maxPacket entropy).Numbered :=
  numbered_of_run (Run.Sound.start own maxPacket entropy ())

lemma any_holds_iff {m : Multiplexer} {ticket : Ticket} :
    (m.sessions.any fun s => s.pending.holds ticket) = true ↔ ticket ∈ m.waiting := by
  simp only [List.any_eq_true, Pending.holds_iff, waiting, List.mem_flatMap]
  rfl

end Multiplexer

namespace Call

variable {c d : Call} {m m' : Multiplexer}

/-- What comes out of a call: the reply given to its ticket, once verified; nothing while it waits; and an
error if it does not. -/
lemma fst_poll (c : Call) (m : Multiplexer) :
    (c.poll m).1 = match m.delivered.find? fun d => d.ticket == c.ticket with
      | some d => some (d.reply.bind (verify c.expected))
      | none => if c.ticket ∈ m.waiting then none else some (.error .stopped) := by
  unfold poll Multiplexer.collect
  cases m.delivered.find? fun d => d.ticket == c.ticket with
  | some d => rfl
  | none =>
    dsimp only
    by_cases h : c.ticket ∈ m.waiting
    · rw [if_pos (Multiplexer.any_holds_iff.2 h), if_pos h]
    · rw [if_neg (Multiplexer.any_holds_iff.not.2 h), if_neg h]

/-- The reply is gone once it came out. -/
lemma snd_poll (c : Call) (m : Multiplexer) :
    (c.poll m).2 = { m with delivered := m.delivered.eraseP fun d => d.ticket == c.ticket } := by
  unfold poll Multiplexer.collect
  cases hfind : m.delivered.find? fun d => d.ticket == c.ticket with
  | some d => rfl
  | none =>
    have hsame : (m.delivered.eraseP fun d => d.ticket == c.ticket) = m.delivered :=
      List.eraseP_of_forall_not (List.find?_eq_none.1 hfind)
    rw [hsame]
    cases m.sessions.any fun s => s.pending.holds c.ticket <;> rfl

/-- Looking for a reply that is not there changes nothing. -/
lemma snd_poll_of_none (h : (c.poll m).1 = none) : (c.poll m).2 = m := by
  rw [fst_poll] at h
  cases hfind : m.delivered.find? fun d => d.ticket == c.ticket with
  | some d => simp [hfind] at h
  | none => rw [snd_poll, List.eraseP_of_forall_not (List.find?_eq_none.1 hfind)]

/-- What comes out of a call depends on what was given to its ticket, and on whether it waits. -/
lemma fst_poll_congr
    (hfind : (m'.delivered.find? fun d => d.ticket == c.ticket) =
      m.delivered.find? fun d => d.ticket == c.ticket)
    (hwaiting : c.ticket ∈ m'.waiting ↔ c.ticket ∈ m.waiting) : (c.poll m').1 = (c.poll m).1 := by
  simp only [fst_poll, hfind, hwaiting]

/-- Taking out something else does not matter to a search. -/
lemma find?_eraseP {α : Type} {p q : α → Bool} (h : ∀ x, p x = true → q x = false) (xs : List α) :
    (xs.eraseP q).find? p = xs.find? p := by
  induction xs with
  | nil => rfl
  | cons x xs ih =>
    cases hq : q x with
    | true =>
      have hp : ¬ p x = true := fun hp => absurd ((h x hp).symm.trans hq) (by simp)
      rw [List.eraseP_cons_of_pos hq, List.find?_cons_of_neg hp]
    | false =>
      rw [List.eraseP_cons_of_neg (by simp [hq]), List.find?_cons, List.find?_cons, ih]

/-- Another call finds the same when a reply was looked for. -/
lemma fst_poll_poll (h : c.ticket ≠ d.ticket) : (c.poll (d.poll m).2).1 = (c.poll m).1 := by
  rw [snd_poll]
  refine fst_poll_congr (find?_eraseP (fun x hx => ?_) _) Iff.rfl
  rw [beq_iff_eq] at hx
  rw [hx]
  exact beq_false_of_ne h

end Call

namespace Multiplexer

variable {m : Multiplexer}

lemma Numbered.poll (h : m.Numbered) (c : Call) : (c.poll m).2.Numbered := by
  rw [Call.snd_poll]
  exact ⟨h.sound.congr rfl rfl, h.waiting, fun d hd => h.delivered d (List.mem_of_mem_eraseP hd)⟩

/-- A call takes the next ticket, and has failed at once or waits. -/
lemma Sound.call_cases (h : m.Sound) (transport : Transport) (self : Id) (address : Address)
    (expected : Option Id) (r : Request) (now : Nat) :
    let step := m.call transport self address expected r now
    step.1 = ⟨m.nextTicket, expected⟩ ∧ step.2.nextTicket = m.nextTicket + 1 ∧ step.2.Sound ∧
      ((∃ e, step.2.delivered = m.delivered ++ [⟨m.nextTicket, .error e⟩] ∧
          ∀ ticket, ticket ∈ step.2.waiting ↔ ticket ∈ m.waiting) ∨
        (step.2.delivered = m.delivered ∧
          ∀ ticket, ticket ∈ step.2.waiting ↔ ticket = m.nextTicket ∨ ticket ∈ m.waiting)) := by
  unfold call
  cases r.arguments self with
  | error e => exact ⟨rfl, rfl, h.congr rfl rfl, .inl ⟨_, rfl, fun _ => Iff.rfl⟩⟩
  | ok arguments =>
    obtain ⟨hticket, hnext, -, hsound, -⟩ := h.request transport address r.method arguments now
    refine ⟨congrArg (Call.mk · expected) hticket, hnext, hsound, ?_⟩
    rcases h.request_cases transport address r.method arguments now with
      ⟨e, -, hdelivered, -, hkept⟩ | ⟨-, hdelivered, -, hkept⟩
    · refine .inl ⟨e, hdelivered, fun ticket => ?_⟩
      simp only [hsound.mem_waiting, h.mem_waiting, hkept]
    · refine .inr ⟨hdelivered, fun ticket => ?_⟩
      simp only [hsound.mem_waiting, h.mem_waiting, hkept]
      constructor
      · rintro ⟨a, t, ht, rfl⟩
        split_ifs at ht with ha
        · rcases List.mem_cons.1 ht with rfl | ht
          · exact .inl rfl
          · exact .inr ⟨address, t, ht, rfl⟩
        · exact .inr ⟨a, t, ht, rfl⟩
      · rintro (rfl | ⟨a, t, ht, rfl⟩)
        · exact ⟨address, _, by rw [if_pos rfl]; exact List.mem_cons_self, rfl⟩
        · refine ⟨a, t, ?_, rfl⟩
          split_ifs with ha
          · exact List.mem_cons_of_mem _ (ha ▸ ht)
          · exact ht

/-- When a call is made it takes the next ticket, those who hold earlier ones find the same as before, and
the call itself waits or has failed. -/
lemma Numbered.call (h : m.Numbered) (transport : Transport) (self : Id) (address : Address)
    (expected : Option Id) (r : Request) (now : Nat) :
    let step := m.call transport self address expected r now
    step.2.Numbered ∧ step.1.ticket = m.nextTicket ∧ step.2.nextTicket = m.nextTicket + 1 ∧
      (∀ c : Call, c.ticket < m.nextTicket → (c.poll step.2).1 = (c.poll m).1) ∧
      ((step.1.poll step.2).1 = none ∨ ∃ e, (step.1.poll step.2).1 = some (.error e)) := by
  intro step
  obtain ⟨hcall, hnext, hsound, hcases⟩ := h.sound.call_cases transport self address expected r now
  have hfresh : (m.delivered.find? fun d => d.ticket == m.nextTicket) = none :=
    List.find?_eq_none.2 fun d hd => by simpa using (h.delivered d hd).ne
  rcases hcases with ⟨e, hdelivered, hwaiting⟩ | ⟨hdelivered, hwaiting⟩
  · refine ⟨⟨hsound, fun t ht => ?_, ?_⟩, congrArg Call.ticket hcall, hnext,
      fun c hc => Call.fst_poll_congr ?_ (hwaiting _), .inr ⟨e, ?_⟩⟩
    · rw [hnext]
      exact (h.waiting t ((hwaiting t).1 ht)).trans (Nat.lt_succ_self _)
    · rw [hdelivered, hnext]
      refine List.forall_mem_append.2 ⟨fun d hd => (h.delivered d hd).trans (Nat.lt_succ_self _), ?_⟩
      exact List.forall_mem_singleton.2 (Nat.lt_succ_self _)
    · have hother : (m.nextTicket == c.ticket) = false := beq_false_of_ne hc.ne'
      rw [hdelivered, List.find?_append, List.find?_singleton, hother]
      simp
    · rw [Call.fst_poll, hcall, hdelivered, List.find?_append, hfresh]
      simp [Except.bind]
  · refine ⟨⟨hsound, fun t ht => ?_, ?_⟩, congrArg Call.ticket hcall, hnext,
      fun c hc => Call.fst_poll_congr (by rw [hdelivered]) ?_, .inl ?_⟩
    · rw [hnext]
      rcases (hwaiting t).1 ht with rfl | ht
      · exact Nat.lt_succ_self _
      · exact (h.waiting t ht).trans (Nat.lt_succ_self _)
    · rw [hdelivered, hnext]
      exact fun d hd => (h.delivered d hd).trans (Nat.lt_succ_self _)
    · rw [hwaiting, or_iff_right hc.ne]
    · rw [Call.fst_poll, hcall, hdelivered, hfresh]
      exact if_pos ((hwaiting _).2 (.inl rfl))

/-! ### Replies that wait -/

/-- Is this the reply that the holder of a ticket finds? -/
def Gave (m : Multiplexer) (ticket : Ticket) (reply : Reply) : Prop :=
  (m.delivered.find? fun d => d.ticket == ticket) = some ⟨ticket, reply⟩

variable {m' : Multiplexer} {ticket : Ticket} {reply : Reply}

/-- It is there until a reply is taken. -/
lemma Gave.of_prefix (h : m.Gave ticket reply) (hgrows : m.delivered <+: m'.delivered) :
    m'.Gave ticket reply :=
  hgrows.find?_eq_some h

lemma Gave.fst_poll {c : Call} (h : m.Gave c.ticket reply) :
    (c.poll m).1 = some (reply.bind (Call.verify c.expected)) := by
  rw [Call.fst_poll, h]

/-- Whoever found nothing finds what is given next. -/
lemma gave_of_append {c : Call} (hnone : (c.poll m).1 = none)
    (hdelivered : m'.delivered = m.delivered ++ [⟨c.ticket, reply⟩]) : m'.Gave c.ticket reply := by
  have hnew : (m.delivered.find? fun d => d.ticket == c.ticket) = none := by
    rw [Call.fst_poll] at hnone
    cases hfind : m.delivered.find? fun d => d.ticket == c.ticket with
    | some d => simp [hfind] at hnone
    | none => rfl
  rw [Gave, hdelivered, List.find?_append, hnew, Option.none_or, List.find?_singleton,
    beq_self_eq_true, if_pos rfl]

/-- A request takes no reply. -/
lemma Sound.delivered_call (h : m.Sound) (transport : Transport) (self : Id) (address : Address)
    (expected : Option Id) (r : Request) (now : Nat) :
    m.delivered <+: (m.call transport self address expected r now).2.delivered := by
  obtain ⟨-, -, -, ⟨e, hdelivered, -⟩ | ⟨hdelivered, -⟩⟩ :=
    h.call_cases transport self address expected r now
  · rw [hdelivered]
    exact List.prefix_append _ _
  · rw [hdelivered]

end Multiplexer

end Kademlia.Exchange
