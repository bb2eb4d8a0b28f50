import Kademlia.Proofs.Exchange.Step
import Kademlia.Proofs.Lookup.Ending

/-!
# What a lookup sends

Whatever a lookup sends when it is launched, and each time it goes on, is a request that it asked for,
sent to the address of the contact it is for.
-/

namespace Kademlia

open Wire Exchange

/-- Is this the datagram of a request that a lookup of the node `self` asked for? -/
def Lookup.Ask.Sends (self : Id) (a : Lookup.Ask) (d : Datagram) : Prop :=
  d.peer = a.contact.address ∧ ∃ transaction arguments, a.request.arguments self = .ok arguments ∧
    d.bytes = (Message.mk transaction (some version) (.request ⟨a.request.method, arguments⟩)).encode

namespace Exchange.Multiplexer

/-- A request is sent to its address, or nothing is. -/
lemma outbox_request (m : Multiplexer) (transport : Transport) (address : Address) (method : String)
    (arguments : Bencode.Dict) (now : Nat) :
    ∃ sent, (m.request transport address method arguments now).2.outbox = m.outbox ++ sent ∧
      ∀ d ∈ sent, d.peer = address ∧ ∃ transaction, d.bytes =
        (Message.mk transaction (some version) (.request ⟨method, arguments⟩)).encode := by
  unfold request
  split
  · exact ⟨[], rfl, by simp⟩
  · refine ⟨((m.session address).request transport m.entropy m.nextTicket method arguments now).2.1.sent,
      rfl, ?_⟩
    have haddress := m.address_session address
    unfold Session.request
    split
    · simp
    · dsimp only
      split
      · simp
      · intro d hd
        obtain rfl := List.mem_singleton.1 hd
        exact ⟨haddress, _, rfl⟩

/-- So is a call, whose arguments name the caller. -/
lemma outbox_call (m : Multiplexer) (transport : Transport) (self : Id) (address : Address)
    (expected : Option Id) (r : Request) (now : Nat) :
    ∃ sent, (m.call transport self address expected r now).2.outbox = m.outbox ++ sent ∧
      ∀ d ∈ sent, d.peer = address ∧ ∃ transaction arguments, r.arguments self = .ok arguments ∧
        d.bytes =
          (Message.mk transaction (some version) (.request ⟨r.method, arguments⟩)).encode := by
  unfold call
  cases harguments : r.arguments self with
  | error e => exact ⟨[], rfl, by simp⟩
  | ok arguments =>
    obtain ⟨sent, houtbox, hsent⟩ := m.outbox_request transport address r.method arguments now
    refine ⟨sent, houtbox, fun d hd => ?_⟩
    obtain ⟨hpeer, transaction, hbytes⟩ := hsent d hd
    exact ⟨hpeer, transaction, arguments, rfl, hbytes⟩

end Exchange.Multiplexer

namespace Lookup

lemma outbox_issue (site : Site) (asks : List Ask) (m : Multiplexer) :
    ∃ sent, (issue site asks m).2.outbox = m.outbox ++ sent ∧
      ∀ d ∈ sent, ∃ a ∈ asks, a.Sends site.self d := by
  induction asks generalizing m with
  | nil => exact ⟨[], (List.append_nil _).symm, by simp⟩
  | cons a asks ih =>
    obtain ⟨first, hfirst, hsent⟩ := m.outbox_call site.transport site.self a.contact.address
      (some a.contact.id) a.request site.now
    obtain ⟨more, hmore, hothers⟩ := ih (m.call site.transport site.self a.contact.address
      (some a.contact.id) a.request site.now).2
    refine ⟨first ++ more, ?_, fun d hd => ?_⟩
    · rw [← List.append_assoc, ← hfirst]
      exact hmore
    · rcases List.mem_append.1 hd with hd | hd
      · exact ⟨a, List.mem_cons_self, hsent d hd⟩
      · obtain ⟨b, hb, hsends⟩ := hothers d hd
        exact ⟨b, List.mem_cons_of_mem a hb, hsends⟩

/-- What a launch sends are the first requests asked for. -/
lemma outbox_launch (l : Lookup) (site : Site) (seeds : List Contact) (m : Multiplexer) :
    ∃ sent, (l.launch site seeds m).2.outbox = m.outbox ++ sent ∧
      ∀ d ∈ sent, ∃ a ∈ (l.launch site seeds m).1.asked, a.Sends site.self d := by
  obtain ⟨sent, houtbox, hsent⟩ := outbox_issue site (l.begin seeds).2 m
  refine ⟨sent, houtbox, fun d hd => ?_⟩
  obtain ⟨a, ha, hsends⟩ := hsent d hd
  have hasked : (l.launch site seeds m).1.asked = l.asked ++ (l.begin seeds).2 :=
    asked_schedule { l with state := l.state.discoverAll seeds }
  exact ⟨a, hasked ▸ List.mem_append_right _ ha, hsends⟩

/-- What a lookup asks for when it looks at a request. -/
def Sweep.asks (s : Sweep) (f : Flight) : List Ask :=
  match (f.call.poll s.multiplexer).1 with
  | some reply => (s.lookup.settle f (s.lookup.verb.parse reply)).2.1
  | none => []

lemma asked_step (site : Site) (s : Sweep) (f : Flight) (fs : List Flight) :
    (s.step site f fs).lookup.asked = s.lookup.asked ++ s.asks f := by
  cases hpoll : f.call.poll s.multiplexer with
  | mk answer m =>
    cases answer with
    | none => simp only [Sweep.step, Sweep.asks, hpoll, List.append_nil]
    | some reply => simp only [Sweep.step, Sweep.asks, hpoll, asked_settle]

/-- A look at a request sends nothing but what the lookup asks for then. -/
lemma outbox_step (site : Site) (s : Sweep) (f : Flight) (fs : List Flight) :
    ∃ sent, (s.step site f fs).multiplexer.outbox = s.multiplexer.outbox ++ sent ∧
      ∀ d ∈ sent, ∃ a ∈ s.asks f, a.Sends site.self d := by
  obtain ⟨delivered, hdelivered, -⟩ := s.multiplexer.exists_snd_poll f.call
  cases hpoll : f.call.poll s.multiplexer with
  | mk answer m =>
    obtain rfl : m = { s.multiplexer with delivered } := by rw [← hdelivered, hpoll]
    cases answer with
    | none =>
      simp only [Sweep.step, hpoll]
      exact ⟨[], (List.append_nil _).symm, by simp⟩
    | some reply =>
      simp only [Sweep.step, Sweep.asks, hpoll]
      exact outbox_issue site (s.lookup.settle f (s.lookup.verb.parse reply)).2.1
        { s.multiplexer with delivered }

/-- So does a whole sweep. -/
lemma outbox_run (site : Site) (s : Sweep) :
    ∃ sent, (s.run site).multiplexer.outbox = s.multiplexer.outbox ++ sent ∧
      ∀ d ∈ sent, ∃ a ∈ (s.run site).lookup.asked, a.Sends site.self d := by
  refine Sweep.run_keeps (P := fun s' => ∃ sent, s'.multiplexer.outbox = s.multiplexer.outbox ++ sent ∧
    ∀ d ∈ sent, ∃ a ∈ s'.lookup.asked, a.Sends site.self d) ?_ ?_
  · exact ⟨[], (List.append_nil _).symm, by simp⟩
  · rintro s' f fs - ⟨sent, houtbox, hsent⟩
    obtain ⟨more, hmore, hothers⟩ := outbox_step site s' f fs
    rw [asked_step]
    refine ⟨sent ++ more, ?_, List.forall_mem_append.2 ⟨fun d hd => ?_, fun d hd => ?_⟩⟩
    · rw [hmore, houtbox, List.append_assoc]
    · obtain ⟨a, ha, hsends⟩ := hsent d hd
      exact ⟨a, List.mem_append_left _ ha, hsends⟩
    · obtain ⟨a, ha, hsends⟩ := hothers d hd
      exact ⟨a, List.mem_append_right _ ha, hsends⟩

/-- What a tick sends are requests that the lookup has asked for. -/
lemma outbox_tick (l : Lookup) (site : Site) (m : Multiplexer) :
    ∃ sent, (l.tick site m).2.1.outbox = m.outbox ++ sent ∧
      ∀ d ∈ sent, ∃ a ∈ (l.tick site m).1.asked, a.Sends site.self d :=
  outbox_run site ⟨l, m, [], l.flights, []⟩

end Lookup

end Kademlia
