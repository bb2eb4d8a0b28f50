import Kademlia.Proofs.Host.Streams
import Kademlia.Proofs.Lookup.Gathering

/-!
# The stream of the values of a key

Who asks a host for the values of a key hears of each value once, of all of them, and in the end that
there are no more.
-/

namespace Kademlia.Host.Life

open Wire Exchange Service

variable {σ : Type} [Server σ]

/-- The channel of a fetch carries the values the host knows itself, then new values in batches that
are not empty, and an empty batch once the fetch has ended, which it has when the channel is closed.
No value is carried twice, and all are carried that were known or came in time. In any run of the
fetch they are those of the replies taken, and without a bound on their number they depend on nothing
but what each node that announced values answers. -/
theorem getValue_streams (settings : Settings) (server : σ) (entropy : Entropy)
    (transport transport' : Transport) (before : List Operation) (key : Id)
    (termination : Lookup.Termination) (holders : Option (List Contact)) :
    let l := (start settings server entropy transport).after before
    let goal := Lookup.Goal.getValue key termination
    let known := (Server.localValues key l.host.server).1
    let channel := (l.host.find transport' goal holders).1
    let begun := l.perform (.find transport' goal holders)
    let seeds := holders.getD (l.host.table.closest key l.host.k)
    let lookup := Lookup.new (.fetch known)
      (.new key l.host.id termination l.host.k l.host.concurrency)
    known.Nodup →
    (∀ ops, ∃ log l' messages, Lookup.Rests lookup seeds log l' ∧
      (if known = [] then [] else [.values known]) ++ l'.reports =
        messages.map Lookup.Report.values ∧
      begun.heard channel ops = messages.map (fun values => .report (.values values)) ∧
      Lookup.ValueStream known log l'.state.finished messages ∧
      ((begun.after ops).host.isOpen channel = false → l'.state.finished = true)) ∧
    ∀ log s, Lookup.Passes lookup seeds log s →
      ∃ messages, (if known = [] then [] else [.values known]) ++ s.lookup.reports =
          messages.map Lookup.Report.values ∧
        Lookup.ValueStream known log s.lookup.state.finished messages ∧
        (termination.budget = none →
          (∀ a ∈ s.lookup.asked, a.request = .getValue key 0) ∧
          (s.lookup.state.finished = true → ∀ answers : Contact → List Bytes,
            (∀ d ∈ log, ∀ v, v ∈ answers d.flight.contact ↔
              ∃ a, Call.parse GetValue.Answer d.reply = .ok a ∧ v ∈ a.values) →
            ∀ v, v ∈ messages.flatten ↔ v ∈ known ∨
              ∃ c ∈ Lookup.firsts l.host.id seeds, c.announced ≠ 0 ∧ v ∈ answers c)) := by
  intro l goal known channel begun seeds lookup hknown
  have hchannel : channel = l.host.nextChannel := by cases holders <;> rfl
  constructor
  · intro ops
    have hunused : l.host.Unused l.host.nextChannel :=
      unused_after (fun c _ => unused_start settings server entropy transport c) before _ le_rfl
    obtain ⟨hspared, hcarries⟩ := carries_find hunused transport' goal holders
    have hgiven : l.host.nextChannel < begun.host.nextChannel := by
      rw [show begun.host.nextChannel = _ from l.host.nextChannel_find transport' goal holders]
      exact Nat.lt_succ_self _
    obtain ⟨l', log, hrests, hitems, hl'⟩ :=
      carries_heard [] hspared hgiven hcarries ops
    obtain ⟨messages, hmessages, hstream⟩ :=
      (hrests (begun.after ops).host.multiplexer).valueStream hknown
    refine ⟨log, l', messages, hrests, hmessages, ?_, hstream, fun hclosed => ?_⟩
    · have hlocal : (if known.isEmpty then [] else [Item.report (.values known)]) =
          (if known = [] then [] else [Lookup.Report.values known]).map .report := by
        by_cases hnone : known = [] <;> simp [hnone]
      rw [hchannel, ← List.nil_append (begun.heard _ ops), hitems]
      refine (congrArg (· ++ _) hlocal).trans ?_
      rw [← List.map_append, hmessages, List.map_map]
      rfl
    · rw [working_of_closed (hchannel ▸ hclosed)] at hl'
      simp only [List.nil_eq, reduceCtorEq, true_and, false_or] at hl'
      exact (Bool.and_eq_true_iff.1 hl').1
  · intro log s hs
    obtain ⟨messages, hmessages, hstream⟩ := hs.valueStream hknown
    refine ⟨messages, hmessages, hstream, fun hunbounded => ⟨fun a ha => ?_, ?_⟩⟩
    · obtain ⟨-, halike⟩ := hs.running
      obtain ⟨-, -, hrequest⟩ :=
        (hs.tours rfl).request_unbounded (halike.termination ▸ hunbounded) ha
      exact hrequest.trans (by rw [halike.target]; rfl)
    · intro hfinished answers hanswers v
      rw [hstream.complete v, hs.answered_of_unbounded hunbounded hfinished hanswers]

namespace Fetched

open Lookup.Overshoot (holder service)

def settings : Settings :=
  { id := (holder 9 0).id, address := (holder 9 0).address }

def transport : Transport := fun _ => none

def entropy : Entropy := ⟨fun n => n, 0⟩

/-- A node that holds one value of a key, and is then asked for all of them. -/
def life : Life ValueService :=
  start settings (service (holder 0 0).id [[1]]) entropy transport

/-- Node 1 gives the value that is known and two more, one of them twice. -/
def answer : Bencode.Dict :=
  .ofEntries [(Key.id, .bytes (holder 1 3).id.bytes),
    (Key.values, .list [.bytes [1], .bytes [2], .bytes [3], .bytes [2]])]

def answering : List Operation :=
  let response : Message := ⟨[0, 0, 0, 0], none, .response answer⟩
  [.flush, .receive transport 0 ⟨(holder 1 3).address, response.encode⟩, .take 0,
    .advance transport 1]

def begun : Life ValueService :=
  life.perform (.find transport (.getValue (holder 0 0).id .exhaustive) (some [holder 1 3]))

end Fetched

open Lookup.Overshoot (holder) in
/-- The value that was known, two more from a node, and the end. -/
theorem getValue_streams_three :
    (Server.localValues (holder 0 0).id Fetched.life.host.server).1.Nodup ∧
      ∃ log ended messages, Fetched.begun.heard 0 Fetched.answering =
          messages.map (fun values => .report (.values values)) ∧
        messages = [[[1]], [[2], [3]], []] ∧ Lookup.ValueStream [[1]] log ended messages := by
  have hlocal : (Server.localValues (holder 0 0).id Fetched.life.host.server).1 = [[1]] := by
    decide +kernel
  have hnodup : (Server.localValues (holder 0 0).id Fetched.life.host.server).1.Nodup := by
    rw [hlocal]
    exact List.nodup_singleton _
  have hheard : Fetched.begun.heard 0 Fetched.answering =
      [.report (.values [[1]]), .report (.values [[2], [3]]), .report (.values [])] := by cbv
  obtain ⟨hstream, -⟩ := getValue_streams Fetched.settings
    (Lookup.Overshoot.service (holder 0 0).id [[1]]) Fetched.entropy Fetched.transport
    Fetched.transport [] (holder 0 0).id .exhaustive (some [holder 1 3]) hnodup
  obtain ⟨log, l', messages, -, -, hmessages, hvalues, -⟩ := hstream Fetched.answering
  have heq : messages = [[[1]], [[2], [3]], []] := by
    have hinjective : Function.Injective fun values => Item.report (.values values) := by
      intro a b hab
      exact Lookup.Report.values.inj (Item.report.inj hab)
    exact List.map_injective_iff.2 hinjective (hmessages.symm.trans hheard)
  exact ⟨hnodup, log, _, messages, hmessages, heq, hlocal ▸ hvalues⟩

end Kademlia.Host.Life
