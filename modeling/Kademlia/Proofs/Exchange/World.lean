import Kademlia.Proofs.Exchange.Run
import Kademlia.Proofs.Exchange.Step
import Kademlia.Proofs.Wire.Datagram

/-!
# Multiplexers on an unreliable network

Every address has a multiplexer with handlers. What was sent stays in the outbox of its sender, and
the network may hand it over at any time, in any order, any number of times or never. It neither
alters a datagram nor names another sender. Beside each multiplexer stand the requests that were
made and the calls of the handlers.
-/

namespace Kademlia.Exchange

open Bencode Wire Service

/-- A call of the handlers. -/
structure Handled where
  client : Address
  query : Query
  answer : Answer

/-- A request that was made, and the identifier drawn for it, none if it was refused before. -/
structure Inquiry where
  ticket : Ticket
  target : Address
  transaction : Option Bytes
  query : Query

/-- Were two requests to the same address sent under the same identifier? -/
def Inquiry.Clashes (i j : Inquiry) : Prop :=
  i.target = j.target ∧ ∃ id, i.transaction = some id ∧ j.transaction = some id

/-- A multiplexer whose handlers keep a record of their calls. -/
structure Party (σ : Type) where
  run : Run (σ × List Handled)
  inquiries : List Inquiry

variable {σ : Type}

/-- Handlers that keep a record of their calls. -/
def noting (respond : Responder σ) : Responder (σ × List Handled) := fun client query state =>
  let (answer, next) := respond client query state.1
  (answer, next, state.2 ++ [⟨client, query, answer⟩])

namespace Party

/-- The calls of the handlers. -/
def calls (p : Party σ) : List Handled :=
  p.run.state.2

/-- Send a request. -/
def ask (p : Party σ) (transport : Transport) (target : Address) (query : Query) (now : Nat) :
    Party σ where
  run := p.run.perform (.request transport target query.method query.arguments now)
  inquiries :=
    let m := p.run.multiplexer
    p.inquiries ++ [{
      ticket := (m.request transport target query.method query.arguments now).1
      target
      transaction := if m.isSelf target then none else some (m.nextId target)
      query }]

/-- Do something else than send a request. -/
def perform (p : Party σ) (op : Operation (σ × List Handled)) : Party σ :=
  { p with run := p.run.perform op }

end Party

/-- What there is at each address. -/
abbrev World (σ : Type) := Address → Party σ

namespace World

/-- What can happen in a world. -/
inductive Event (σ : Type) where
  | ask (client target : Address) (transport : Transport) (query : Query) (now : Nat)
  /-- A datagram is handed over. -/
  | carry (source target : Address) (bytes : Bytes) (transport : Transport)
      (respond : Responder σ)
  | expire (owner : Address) (now : Nat)
  | reset (owner peer : Address)
  | stop (owner : Address)
  /-- The holder of a ticket looks for its reply. -/
  | collect (owner : Address) (ticket : Ticket)

/-- Nothing has happened yet. -/
def start (own : Address → Address) (timeout maxPacket : Address → Nat)
    (entropy : Address → Entropy) (state : Address → σ) : World σ := fun a =>
  ⟨.start (own a) (timeout a) (maxPacket a) (entropy a) (state a, []), []⟩

/-- Did the party at an address send this datagram? A length that 64 bits cannot count does not
exist. -/
def Carries (w : World σ) (source target : Address) (bytes : Bytes) : Prop :=
  ⟨target, bytes⟩ ∈ (w source).run.multiplexer.outbox ∧ bytes.length < UInt64.size

instance (w : World σ) (source target : Address) (bytes : Bytes) :
    Decidable (w.Carries source target bytes) :=
  inferInstanceAs (Decidable (_ ∧ _))

/-- Let something happen. A datagram that was not sent is not handed over. -/
def step (w : World σ) : Event σ → World σ
  | .ask client target transport query now =>
    Function.update w client ((w client).ask transport target query now)
  | .carry source target bytes transport respond =>
    if w.Carries source target bytes then
      Function.update w target
        ((w target).perform (.receive transport (noting respond) ⟨source, bytes⟩))
    else w
  | .expire owner now => Function.update w owner ((w owner).perform (.expire now))
  | .reset owner peer => Function.update w owner ((w owner).perform (.reset peer))
  | .stop owner => Function.update w owner ((w owner).perform .stop)
  | .collect owner ticket => Function.update w owner ((w owner).perform (.collect ticket))

/-- Let things happen, the first one first. -/
def after (w : World σ) (events : List (Event σ)) : World σ :=
  events.foldl step w

/-- No identifier was drawn twice for the same two addresses. -/
def Fresh (w : World σ) : Prop :=
  ∀ a, (w a).inquiries.Pairwise fun i j => ¬ i.Clashes j

/-- Was this told by the handlers that were asked, when they were called on the request? -/
def Answered (w : World σ) (client : Address) (i : Inquiry) (body : Body) : Prop :=
  ∃ answer, ⟨client, i.query, answer⟩ ∈ (w i.target).calls ∧ Conveys answer body

/-- Is this a reply to a request, or a local reason why there is none? -/
def Explains (w : World σ) (client : Address) (i : Inquiry) : Reply → Prop
  | .ok r => r.source = i.target ∧ w.Answered client i (.response r.payload)
  | .error (.remote e) => w.Answered client i (.error e)
  | .error (.timeout method address) => method = i.query.method ∧ address = i.target
  | .error (.selfConnection address) => address = i.target
  | .error .stopped | .error (.unreachable _) => True
  | .error _ => False

/-! ### What grows -/

/-- Nothing that was made or handled is forgotten. -/
structure Grows (w w' : World σ) : Prop where
  inquiries : ∀ a, (w a).inquiries <+: (w' a).inquiries
  calls : ∀ a, (w a).calls <+: (w' a).calls

lemma Grows.refl (w : World σ) : w.Grows w :=
  ⟨fun _ => List.prefix_rfl, fun _ => List.prefix_rfl⟩

lemma Grows.trans {w w' w'' : World σ} (h : w.Grows w') (h' : w'.Grows w'') : w.Grows w'' :=
  ⟨fun a => (h.inquiries a).trans (h'.inquiries a), fun a => (h.calls a).trans (h'.calls a)⟩

lemma Grows.update {w : World σ} {a : Address} {p : Party σ}
    (hinquiries : (w a).inquiries <+: p.inquiries) (hcalls : (w a).calls <+: p.calls) :
    w.Grows (Function.update w a p) := by
  refine ⟨fun b => ?_, fun b => ?_⟩ <;> by_cases hb : b = a
  · rw [hb, Function.update_self]
    exact hinquiries
  · rw [Function.update_of_ne hb]
  · rw [hb, Function.update_self]
    exact hcalls
  · rw [Function.update_of_ne hb]

/-- A datagram that the handlers answer is one more call, and no other changes their record. -/
lemma calls_receive (p : Party σ) (transport : Transport) (respond : Responder σ) (d : Datagram) :
    p.calls <+: (p.perform (.receive transport (noting respond) d)).calls := by
  simp only [Party.calls, Party.perform, Run.perform, Multiplexer.receive]
  rcases p.run.multiplexer.handleDatagram_cases transport (noting respond)
    { d with bytes := d.bytes.take maxRead } p.run.state with heq | ⟨-, m, -, h⟩
  · rw [heq]
  · rcases h with ⟨query, -, hstate, -⟩ | ⟨reply, -, hstate, -⟩
    · rw [hstate]
      exact List.prefix_append _ _
    · rw [hstate]

lemma calls_collect (p : Party σ) (ticket : Ticket) :
    (p.perform (.collect ticket)).calls = p.calls := by
  simp only [Party.calls, Party.perform, Run.perform]
  split <;> rfl

lemma grows_step (w : World σ) (e : Event σ) : w.Grows (w.step e) := by
  cases e with
  | ask client target transport query now =>
    exact .update (List.prefix_append _ _) List.prefix_rfl
  | carry source target bytes transport respond =>
    simp only [step]
    split
    · exact .update List.prefix_rfl (calls_receive _ _ _ _)
    · exact .refl w
  | expire owner now => exact .update List.prefix_rfl List.prefix_rfl
  | reset owner peer => exact .update List.prefix_rfl List.prefix_rfl
  | stop owner => exact .update List.prefix_rfl List.prefix_rfl
  | collect owner ticket =>
    exact .update List.prefix_rfl (by rw [calls_collect])

lemma grows_after (w : World σ) (events : List (Event σ)) : w.Grows (w.after events) := by
  induction events generalizing w with
  | nil => exact .refl w
  | cons e events ih => exact (w.grows_step e).trans (ih _)

/-- Who sends the request, if one is sent. -/
def Event.asker : Event σ → Option Address
  | .ask client .. => some client
  | _ => none

/-- Only who sends requests has a record of them. -/
lemma inquiries_of_silent (w : World σ) (events : List (Event σ)) {a : Address}
    (h : ∀ e ∈ events, e.asker ≠ some a) : ((w.after events) a).inquiries = (w a).inquiries := by
  have hupdate (w : World σ) (b : Address) (op : Operation (σ × List Handled)) :
      (Function.update w b ((w b).perform op) a).inquiries = (w a).inquiries := by
    by_cases hb : a = b
    · rw [hb, Function.update_self]
      rfl
    · rw [Function.update_of_ne hb]
  induction events generalizing w with
  | nil => rfl
  | cons e events ih =>
    refine (ih _ fun e he => h e (List.mem_cons_of_mem _ he)).trans ?_
    cases e with
    | ask client target transport query now =>
      have hne : a ≠ client := fun heq => h _ List.mem_cons_self (heq ▸ rfl)
      rw [step, Function.update_of_ne hne]
    | carry source target bytes transport respond =>
      rw [step]
      split
      · exact hupdate ..
      · rfl
    | expire owner now => exact hupdate ..
    | reset owner peer => exact hupdate ..
    | stop owner => exact hupdate ..
    | collect owner ticket => exact hupdate ..

/-- Identifiers that are not drawn twice in a run are not drawn twice in its beginning. -/
lemma Fresh.of_grows {w w' : World σ} (h : w'.Fresh) (hgrows : w.Grows w') : w.Fresh :=
  fun a => (h a).sublist (hgrows.inquiries a).sublist

lemma Answered.of_grows {w w' : World σ} {client : Address} {i : Inquiry} {body : Body}
    (hgrows : w.Grows w') (h : w.Answered client i body) : w'.Answered client i body := by
  obtain ⟨answer, hcall, hconveys⟩ := h
  exact ⟨answer, (hgrows.calls _).subset hcall, hconveys⟩

lemma Explains.of_grows {w w' : World σ} {client : Address} {i : Inquiry} {reply : Reply}
    (hgrows : w.Grows w') (h : w.Explains client i reply) : w'.Explains client i reply := by
  unfold Explains at h ⊢
  split at h
  · exact ⟨h.1, h.2.of_grows hgrows⟩
  · exact h.of_grows hgrows
  all_goals exact h

end World

end Kademlia.Exchange
