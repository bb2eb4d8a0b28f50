import Kademlia.Proofs.Exchange.Quiet
import Kademlia.Proofs.Lookup.Run
import Kademlia.Proofs.Wire.Answer

/-!
# Whose answers a lookup takes in

A request of a lookup waits for a response of the very contact that was asked: from its address and
under its identifier. A lookup says of nobody else that it answered.
-/

namespace Kademlia.Lookup

open Bencode Wire Exchange

/-- Can a request under way be given no response but one of the contact that was asked? -/
structure Flight.Awaits (V : Id → Address → Prop) (f : Flight) (m : Multiplexer) : Prop where
  expected : f.call.expected = some f.contact.id
  promised : m.Promised V f.call f.contact.address

/-- Does the one who answered speak for its address? -/
def Verdict.Vouched (V : Id → Address → Prop) : Verdict → Prop
  | .answered contact => V contact.id contact.address
  | .failed _ => True

variable {V : Id → Address → Prop} {sent : List Datagram} {m m' : Multiplexer}

lemma Flight.Awaits.quiet {f : Flight} (h : f.Awaits V m) (hquiet : m.Quiet m') : f.Awaits V m' :=
  ⟨h.expected, h.promised.quiet hquiet⟩

lemma awaits_issue (h : m.Grounded sent) (site : Site) (asks : List Ask) :
    m.Quiet (issue site asks m).2 ∧ ∀ f ∈ (issue site asks m).1, f.Awaits V (issue site asks m).2 := by
  induction asks generalizing m with
  | nil => exact ⟨.refl h.sound, by simp [issue]⟩
  | cons a asks ih =>
    have hcall := h.sound.quiet_call site.transport site.self a.contact.address
      (some a.contact.id) a.request site.now
    have hpromised := h.promised_call (V := V) site.transport site.self a.contact.address
      (some a.contact.id) a.request site.now
    obtain ⟨hrest, hawaits⟩ := ih (h.quiet hcall)
    refine ⟨hcall.trans hrest, fun f hf => ?_⟩
    rcases List.mem_cons.1 hf with rfl | hf
    · exact ⟨rfl, hpromised.quiet hrest⟩
    · exact hawaits f hf

/-- A contact answered if its reply could be read, and failed else. -/
lemma verdict_settle (l : Lookup) (f : Flight) (result : Except CallError l.verb.Answer) :
    (∃ answer, result = .ok answer ∧ (l.settle f result).2.2 = .answered f.contact) ∨
      (l.settle f result).2.2 = .failed f.contact := by
  unfold settle
  cases result with
  | ok answer =>
    refine .inl ⟨answer, rfl, ?_⟩
    dsimp only
    split <;> rfl
  | error e =>
    refine .inr ?_
    dsimp only
    split <;> rfl

/-- A reply that could be read is a response. -/
lemma exists_response {v : Verb} {reply : Reply} {answer : v.Answer}
    (h : v.parse reply = .ok answer) : ∃ r, reply = .ok r := by
  cases reply with
  | ok r => exact ⟨r, rfl⟩
  | error e => simp [parse_error] at h

/-- A contact that is said to have answered sent a response of its own. -/
lemma Flight.Awaits.vouched {f : Flight} (h : f.Awaits V m) (l : Lookup) {reply : Reply}
    (hpolled : (f.call.poll m).1 = some reply) :
    (l.settle f (l.verb.parse reply)).2.2.Vouched V := by
  rcases verdict_settle l f (l.verb.parse reply) with ⟨answer, hanswer, heq⟩ | heq
  · obtain ⟨r, rfl⟩ := exists_response hanswer
    obtain ⟨author, -, hvouched, hauthor⟩ := h.promised.author_of_poll hpolled
    obtain rfl := hauthor _ h.expected
    rw [heq]
    exact hvouched
  · rw [heq]
    exact trivial

/-- What holds in the middle of a sweep that started with the multiplexer `m`. -/
structure Sweep.Grounded (V : Id → Address → Prop) (m : Multiplexer) (s : Sweep) : Prop where
  quiet : m.Quiet s.multiplexer
  flights : ∀ f ∈ s.kept ++ s.rest, f.Awaits V s.multiplexer
  verdicts : ∀ v ∈ s.verdicts, v.Vouched V

lemma Sweep.Grounded.step {s : Sweep} (h : s.Grounded V m) (hm : m.Grounded sent) (site : Site)
    {f : Flight} {fs : List Flight} (hrest : s.rest = f :: fs) :
    (s.step site f fs).Grounded V m := by
  have hgrounded := hm.quiet h.quiet
  have hpoll := hgrounded.sound.quiet_poll f.call
  have hawaits := h.flights
  rw [hrest] at hawaits
  have hf := hawaits f (by simp)
  unfold Sweep.step
  cases hpolled : f.call.poll s.multiplexer with
  | mk answer m' =>
    rw [hpolled] at hpoll
    cases answer with
    | none =>
      refine ⟨h.quiet.trans hpoll, fun g hg => (hawaits g ?_).quiet hpoll, h.verdicts⟩
      simpa using hg
    | some reply =>
      dsimp only
      obtain ⟨hissue, hnew⟩ := awaits_issue (hgrounded.quiet hpoll) site
        (s.lookup.settle f (s.lookup.verb.parse reply)).2.1
      refine ⟨(h.quiet.trans hpoll).trans hissue, fun g hg => ?_, fun v hv => ?_⟩
      · rcases List.mem_append.1 hg with hg | hg
        · exact ((hawaits g (List.mem_append_left _ hg)).quiet hpoll).quiet hissue
        rcases List.mem_append.1 hg with hg | hg
        · have hg := (perm_refill fs).subset hg
          exact ((hawaits g (by simp [hg])).quiet hpoll).quiet hissue
        · exact hnew g hg
      · rcases List.mem_append.1 hv with hv | hv
        · exact h.verdicts v hv
        rw [List.mem_singleton.1 hv]
        exact hf.vouched s.lookup (by rw [hpolled])

lemma Sweep.Grounded.run {s : Sweep} (h : s.Grounded V m) (hm : m.Grounded sent) (site : Site) :
    (s.run site).Grounded V m :=
  Sweep.run_keeps (P := fun s => s.Grounded V m) h fun _ _ _ hrest h => h.step hm site hrest

/-- A sweep takes in no datagram, keeps waiting for the contacts it asks, and says of none that it
answered unless it speaks for its address. -/
lemma tick_facts (l : Lookup) (hm : m.Grounded sent) (site : Site)
    (hl : ∀ f ∈ l.flights, f.Awaits V m) :
    m.Quiet (l.tick site m).2.1 ∧
      (∀ f ∈ (l.tick site m).1.flights, f.Awaits V (l.tick site m).2.1) ∧
      ∀ v ∈ (l.tick site m).2.2, v.Vouched V := by
  have hrun := Sweep.Grounded.run (s := ⟨l, m, [], l.flights, []⟩)
    ⟨.refl hm.sound, by simpa using hl, by simp⟩ hm site
  exact ⟨hrun.quiet, fun f hf => hrun.flights f (List.mem_append_left _ hf), hrun.verdicts⟩

lemma launch_facts (l : Lookup) (hm : m.Grounded sent) (site : Site) (seeds : List Contact) :
    m.Quiet (l.launch site seeds m).2 ∧
      ∀ f ∈ (l.launch site seeds m).1.flights, f.Awaits V (l.launch site seeds m).2 :=
  awaits_issue hm site (l.begin seeds).2

end Kademlia.Lookup
