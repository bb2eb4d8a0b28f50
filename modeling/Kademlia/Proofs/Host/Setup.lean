import Kademlia.Proofs.Host.Channels

/-!
# What a host is set up with

Whatever happens to a host, its identifier and the numbers it was set up with stay. Its routing table
knows of its contacts who and where they are, and never a token.
-/

namespace Kademlia

open Wire Exchange Service

/-! ### Tables without tokens -/

namespace Routing.Table

/-- A table around an identifier, with contacts that have no token. -/
structure Plain (own : Id) (t : Table) : Prop where
  id : t.id = own
  bare : ∀ c ∈ t.contacts, c.token = none

variable {own : Id} {t : Table}

lemma Plain.add (h : t.Plain own) (c : Contact) : (t.add c).2.Plain own where
  id := by
    unfold Table.add
    split <;> exact h.id
  bare d hd := by
    rcases mem_add hd with hd | rfl
    · exact h.bare d hd
    · rfl

lemma Plain.settleVerdict (h : t.Plain own) (v : Lookup.Verdict) :
    (Host.settleVerdict t v).Plain own := by
  cases v with
  | answered c => exact h.add c
  | failed c => exact ⟨h.id, fun d hd => h.bare d (mem_fail hd)⟩

lemma Plain.token_closest (h : t.Plain own) (target : Id) (count : Nat) :
    ∀ c ∈ t.closest target count, c.token = none :=
  fun c hc => h.bare c ((List.mergeSort_perm _ _).mem_iff.1 (List.mem_of_mem_take hc))

end Routing.Table

namespace Host

/-- A host with some settings and no token in its table. -/
structure SetUp (settings : Settings) {σ : Type} (h : Host σ) : Prop where
  table : h.table.Plain settings.id
  k : h.k = settings.k
  concurrency : h.concurrency = settings.concurrency
  redundancy : h.redundancy = settings.redundancy

variable {σ : Type} {settings : Settings} {h h' : Host σ}

namespace SetUp

lemma id (hs : h.SetUp settings) : h.id = settings.id :=
  hs.table.id

/-- Nothing else than the table and the numbers matters. -/
lemma congr (hs : h.SetUp settings) (table : h'.table = h.table) (k : h'.k = h.k)
    (concurrency : h'.concurrency = h.concurrency) (redundancy : h'.redundancy = h.redundancy) :
    h'.SetUp settings :=
  ⟨table ▸ hs.table, k.trans hs.k, concurrency.trans hs.concurrency, redundancy.trans hs.redundancy⟩

lemma probe (hs : h.SetUp settings) (transport : Transport) (address : Address)
    (waiter : Option Channel) : (h.probe transport address waiter).SetUp settings :=
  hs.congr rfl rfl rfl rfl

lemma openChannel (hs : h.SetUp settings) : h.openChannel.2.SetUp settings :=
  hs.congr rfl rfl rfl rfl

lemma take (hs : h.SetUp settings) (c : Channel) : (h.take c).2.SetUp settings :=
  hs.congr rfl rfl rfl rfl

lemma settleProbe (hs : h.SetUp settings) (p : Probe) (result : Except CallError Ping.Answer) :
    (h.settleProbe p result).SetUp settings := by
  obtain ⟨table, parcels, heq, htable⟩ := h.settleProbe_eq p result
  rw [heq]
  rcases htable with rfl | ⟨a, -, rfl⟩
  · exact hs.congr rfl rfl rfl rfl
  · exact ⟨hs.table.add _, hs.k, hs.concurrency, hs.redundancy⟩

lemma sweepProbes (hs : h.SetUp settings) (kept rest : List Probe) :
    (h.sweepProbes kept rest).SetUp settings := by
  fun_induction Host.sweepProbes h kept rest with
  | case1 h kept => exact hs.congr rfl rfl rfl rfl
  | case2 h kept p ps multiplexer _ ih => exact ih (hs.congr rfl rfl rfl rfl)
  | case3 h kept p ps result multiplexer _ ih =>
    have hm : SetUp settings { h with multiplexer } := hs.congr rfl rfl rfl rfl
    exact ih (hm.settleProbe p result)

lemma tickTasks (hs : h.SetUp settings) (transport : Transport) :
    (h.tickTasks transport).SetUp settings := by
  apply List.foldlRecOn (motive := fun h : Host σ => h.SetUp settings)
  · exact hs.congr rfl rfl rfl rfl
  · intro h hs t _
    refine ⟨?_, hs.k, hs.concurrency, hs.redundancy⟩
    exact List.foldlRecOn (motive := fun t : Routing.Table => t.Plain settings.id) _ settleVerdict
      hs.table fun _ ht v _ => ht.settleVerdict v

section Server

variable [Server σ]

lemma start (hs : h.SetUp settings) (transport : Transport) (goal : Lookup.Goal)
    (seeds : List Contact) (channel : Channel) :
    (h.start transport goal seeds channel).SetUp settings := by
  rw [start_eq, snd_known]
  dsimp only [Host.keep]
  split <;> exact hs.congr rfl rfl rfl rfl

lemma tickBootstrap (hs : h.SetUp settings) (transport : Transport) :
    (h.tickBootstrap transport).SetUp settings := by
  unfold Host.tickBootstrap
  split
  · split
    · exact hs
    · have hstart := hs.openChannel.start transport (.findNode h.id)
        (h.table.closest h.id h.k) h.nextChannel
      exact hstart.congr rfl rfl rfl rfl
  · next channel _ =>
    split
    · exact (hs.take channel).congr rfl rfl rfl rfl
    · exact hs
  · exact hs

lemma advance (hs : h.SetUp settings) (transport : Transport) (now : Nat) :
    (h.advance transport now).SetUp settings := by
  have hexpire : (h.expire now).SetUp settings := hs.congr rfl rfl rfl rfl
  exact ((hexpire.sweepProbes [] _).tickTasks transport).tickBootstrap transport

/-- A datagram brings in its sender at most. -/
lemma receive (hs : h.SetUp settings) (transport : Transport) (serverClock : Nat) (d : Datagram) :
    (h.receive transport serverClock d).SetUp settings := by
  refine ⟨?_, hs.k, hs.concurrency, hs.redundancy⟩
  have hrespond (sender : Address) (query : Query) :
      (respond serverClock sender query (h.table, h.server)).2.1.Plain settings.id := by
    unfold respond
    dsimp only
    split
    · exact hs.table.add _
    · exact hs.table
  change (h.multiplexer.handleDatagram transport (respond serverClock)
    { d with bytes := d.bytes.take maxRead } (h.table, h.server)).2.1.Plain settings.id
  rcases h.multiplexer.handleDatagram_cases transport (respond serverClock)
    { d with bytes := d.bytes.take maxRead } (h.table, h.server) with
    hdrop | ⟨-, m, -, ⟨query, -, hstate, -⟩ | ⟨reply, -, hstate, -⟩⟩
  · rw [hdrop]
    exact hs.table
  · rw [hstate]
    exact hrespond d.peer query
  · rw [hstate]
    exact hs.table

end Server

end SetUp

lemma setUp_new (settings : Settings) (server : σ) (entropy : Entropy) (transport : Transport) :
    (Host.new settings server entropy transport).SetUp settings := by
  apply List.foldlRecOn (motive := fun h : Host σ => h.SetUp settings)
  · exact ⟨⟨rfl, by simp [Routing.Table.contacts_empty]⟩, rfl, rfl, rfl⟩
  · exact fun _ hs address _ => hs.probe transport address none

end Host

end Kademlia
