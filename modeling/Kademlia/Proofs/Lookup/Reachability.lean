import Kademlia.Proofs.Lookup.Asking
import Kademlia.Proofs.Lookup.FindValue

/-!
# Exploring a network completely

Where every node always says the same, what a finding lookup can reach is a set of identifiers: those of
the seeds, and those that a node listed which was reached and answers. If a lookup may consider as many
candidates as there are in this set, it asks all of them, whatever the order in which they reply, and ends
with the last reply. So it delivers the same contacts in every run.
-/

namespace Kademlia.Lookup

open Wire Exchange

/-! ### Networks -/

/-- What a node says to whoever asks it for contacts. -/
structure Node where
  lists : List Id
  token : Bytes
  /-- How many values it announces. -/
  announces : Nat

/-- Nodes each of which is listed at one address, and always says the same or never anything. -/
structure Network where
  address : Id → Address
  node : Id → Option Node

namespace Network

/-- How a node is listed. -/
def contact (net : Network) (id : Id) : Contact :=
  { id, address := net.address id }

/-- What a node answers to a finding verb. -/
def answer (net : Network) (id : Id) : (v : Verb) → Option v.Answer
  | .findNode => (net.node id).map fun n =>
    (⟨id, n.lists.map net.contact, n.token⟩ : FindNode.Answer)
  | .findValue => (net.node id).map fun n =>
    (⟨id, n.lists.map net.contact, n.token, n.announces⟩ : FindValue.Answer)
  | .getValue _ => none
  | .storeValue .. => none

/-- Is every reply that was taken what the network says? -/
def Fits (net : Network) (v : Verb) (log : List Landing) : Prop :=
  ∀ d ∈ log, (v.parse d.reply).toOption = net.answer d.flight.contact.id v

/-- The identifiers, other than the own one, that can be reached from some seeds. -/
inductive Reaches (net : Network) (self : Id) (seeds : List Contact) : Id → Prop where
  | seed {c : Contact} (hc : c ∈ seeds) (hself : c.id ≠ self) : Reaches net self seeds c.id
  | listed {id other : Id} {n : Node} (h : Reaches net self seeds id) (hn : net.node id = some n)
    (hlists : other ∈ n.lists) (hself : other ≠ self) : Reaches net self seeds other

/-- What is known of a node in the end: the first seed with its identifier, or how it is listed, with what
it says of itself. -/
def told (net : Network) (v : Verb) (seeds : List Contact) (id : Id) : Contact :=
  let c := (seeds.find? fun c => c.id = id).getD (net.contact id)
  match net.answer id v with
  | some answer => v.tell answer c
  | none => c

/-- Does a node answer, and announce some value? -/
def Holds (net : Network) (id : Id) : Prop :=
  ∃ n, net.node id = some n ∧ 0 < n.announces

end Network

variable {net : Network} {v : Verb} {target self : Id} {k concurrency : Nat} {seeds : List Contact}
  {log : List Landing} {l : Lookup} {f : Flight} {fs : List Flight} {s : Sweep} {R : Finset Id}

namespace Network

/-- The answer of a node lists whom the node lists, whatever the finding verb is. -/
lemma exists_node_of_answer {id : Id} {answer : v.Answer} (h : net.answer id v = some answer) :
    ∃ n, net.node id = some n ∧ v.listed answer = n.lists.map net.contact := by
  cases v with
  | findNode =>
    obtain ⟨n, hn, rfl⟩ := Option.map_eq_some_iff.1 h
    exact ⟨n, hn, rfl⟩
  | findValue =>
    obtain ⟨n, hn, rfl⟩ := Option.map_eq_some_iff.1 h
    exact ⟨n, hn, rfl⟩
  | getValue seen => cases h
  | storeValue value acknowledged => cases h

lemma exists_answer_of_node (hv : v.isFinding = true) {id : Id} {n : Node}
    (h : net.node id = some n) :
    ∃ answer, net.answer id v = some answer ∧ v.listed answer = n.lists.map net.contact := by
  cases v with
  | findNode => exact ⟨_, congrArg (Option.map _) h, rfl⟩
  | findValue => exact ⟨_, congrArg (Option.map _) h, rfl⟩
  | getValue seen => simp [Verb.isFinding] at hv
  | storeValue value acknowledged => simp [Verb.isFinding] at hv

lemma Fits.of_snoc {d : Landing} (h : net.Fits v (log ++ [d])) : net.Fits v log :=
  fun e he => h e (List.mem_append_left _ he)

/-- A reply that comes in time brings the answer of the node. -/
lemma Fits.answer? (h : net.Fits v log) {d : Landing} (hd : d ∈ log) (hlate : d.late = false) :
    d.answer? v = net.answer d.flight.contact.id v := by
  rw [Landing.answer?, hlate, if_neg Bool.false_ne_true, h d hd]

/-- Whoever is heard of was listed by a node that answered. -/
lemma Fits.exists_node_of_mem_heard (h : net.Fits v log) {c : Contact} (hc : c ∈ heard v log) :
    ∃ d ∈ log, ∃ n, net.node d.flight.contact.id = some n ∧ ∃ id ∈ n.lists, net.contact id = c := by
  obtain ⟨d, hd, hc⟩ := List.mem_flatMap.1 hc
  unfold Landing.listed at hc
  split at hc
  · next answer hanswer =>
    have hlate : d.late = false := by
      by_contra hlate
      simp [Landing.answer?, hlate] at hanswer
    rw [h.answer? hd hlate] at hanswer
    obtain ⟨n, hn, hlisted⟩ := exists_node_of_answer hanswer
    rw [hlisted] at hc
    exact ⟨d, hd, n, hn, List.mem_map.1 hc⟩
  · simp at hc

/-- Whomever a node lists is heard of once the node answered. -/
lemma Fits.contact_mem_heard (h : net.Fits v log) (hv : v.isFinding = true) {d : Landing}
    (hd : d ∈ log) (hlate : d.late = false) {n : Node} (hn : net.node d.flight.contact.id = some n)
    {id : Id} (hid : id ∈ n.lists) : net.contact id ∈ heard v log := by
  obtain ⟨answer, hanswer, hlisted⟩ := exists_answer_of_node hv hn
  refine List.mem_flatMap.2 ⟨d, hd, ?_⟩
  simp only [Landing.listed, h.answer? hd hlate, hanswer, hlisted]
  exact List.mem_map_of_mem hid

end Network

/-! ### What is heard of can be reached -/

lemma mem_map_id_firsts_iff {cs : List Contact} {id : Id} :
    id ∈ (firsts self cs).map (·.id) ↔ id ≠ self ∧ id ∈ cs.map (·.id) := by
  constructor
  · intro h
    obtain ⟨c, hc, rfl⟩ := List.mem_map.1 h
    exact ⟨ne_self_of_mem_firsts hc, List.mem_map_of_mem (mem_of_mem_firsts hc)⟩
  · rintro ⟨hself, h⟩
    have hsome : (cs.find? fun d => d.id = id).isSome = true := by simpa using h
    obtain ⟨c, hc⟩ := Option.isSome_iff_exists.1 hsome
    have hid : c.id = id := by simpa using List.find?_some hc
    subst hid
    exact List.mem_map_of_mem (mem_firsts_iff.2 ⟨hself, hc⟩)

lemma Network.Fits.reaches_of_mem_firsts (h : net.Fits v log)
    (hlog : ∀ d ∈ log, net.Reaches self seeds d.flight.contact.id) {c : Contact}
    (hc : c ∈ firsts self (seeds ++ heard v log)) : net.Reaches self seeds c.id := by
  have hself := ne_self_of_mem_firsts hc
  rcases List.mem_append.1 (mem_of_mem_firsts hc) with hc | hc
  · exact .seed hc hself
  · obtain ⟨d, hd, n, hn, id, hid, rfl⟩ := h.exists_node_of_mem_heard hc
    exact .listed (hlog d hd) hn hid hself

/-- In every run whoever is asked can be reached. -/
lemma Passes.reaches_of_made (hv : v.isFinding = true)
    (h : Passes (.new v (.new target self .exhaustive k concurrency)) seeds log s)
    (hfits : net.Fits v log) :
    ∀ f ∈ made log (s.kept ++ s.rest), net.Reaches self seeds f.contact.id := by
  have hrun := h.induct_made
    (P := fun log c => net.Fits v log → net.Reaches self seeds c.id) hv
    (fun _ _ _ hc hfits => hc hfits.of_snoc)
    (fun _ _ hlog hc hfits => hfits.reaches_of_mem_firsts (fun d hd => hlog d hd hfits) hc)
  exact fun f hf => hrun f hf hfits

/-! ### Runs that may consider everybody -/

lemma length_le_card {ids : List Id} (hnodup : ids.Nodup) (h : ∀ id ∈ ids, id ∈ R) :
    ids.length ≤ R.card := by
  rw [← List.toFinset_card_of_nodup hnodup]
  exact Finset.card_le_card fun id hid => h id (List.mem_toFinset.1 hid)

section Runs

variable (hv : v.isFinding = true)
  (h : Passes (.new v (.new target self .exhaustive k concurrency)) seeds log s) (hfits : net.Fits v log)
include hv h hfits

lemma Passes.reaches_of_mem_firsts {c : Contact} (hc : c ∈ firsts self (seeds ++ heard v log)) :
    net.Reaches self seeds c.id :=
  hfits.reaches_of_mem_firsts (fun _ hd => h.reaches_of_made hv hfits _ (mem_made_of_mem hd _)) hc

variable (hR : ∀ id, id ∈ R ↔ net.Reaches self seeds id) (hk : R.card ≤ k)
include hR hk

/-- All candidates are considered. -/
lemma Passes.next_eq_ranking : s.lookup.next = s.lookup.state.candidates.ranking := by
  obtain ⟨-, halike⟩ := h.running
  have hexplores := h.explores hv
  have hlength : (firsts self (seeds ++ heard v log)).length ≤ R.card := by
    rw [← List.length_map (·.id)]
    refine length_le_card (nodup_firsts _ _) (List.forall_mem_map.2 fun c hc => (hR c.id).2 ?_)
    exact h.reaches_of_mem_firsts hv hfits hc
  have hself : s.lookup.state.self = self := halike.self
  have hroom : s.lookup.state.k = k := halike.k
  rw [hexplores.next_eq hv, List.take_of_length_le]
  rw [(Candidates.ranking_perm _).length_eq, hexplores.found, List.length_map, hself, hroom]
  exact hlength.trans hk

lemma Passes.mem_next_iff {c : Contact} :
    c ∈ s.lookup.next ↔ ∃ d ∈ firsts self (seeds ++ heard v log), informed v log d = c := by
  obtain ⟨-, halike⟩ := h.running
  have hself : s.lookup.state.self = self := halike.self
  rw [h.next_eq_ranking hv hfits hR hk, (h.explores hv).mem_ranking_iff, hself]

section Finished

variable (hfinished : s.lookup.state.finished = true)
include hfinished

/-- Whoever was heard of has landed when the lookup has ended. -/
lemma Passes.exists_landing {c : Contact} (hc : c ∈ firsts self (seeds ++ heard v log)) :
    ∃ d ∈ log, d.late = false ∧ d.flight.contact.id = c.id := by
  have hnext := (h.mem_next_iff hv hfits hR hk).2 ⟨c, hc, rfl⟩
  obtain ⟨d, hd, hlate, hid, -⟩ := (h.exhausts hv).landed (h.explores hv) hfinished hnext
  exact ⟨d, hd, hlate, hid.trans (id_informed v log c)⟩

/-- Then everybody was heard of who can be reached. -/
lemma Passes.mem_firsts_of_reaches {id : Id} (hid : net.Reaches self seeds id) :
    id ∈ (firsts self (seeds ++ heard v log)).map (·.id) := by
  induction hid with
  | seed hc hself =>
    exact mem_map_id_firsts_iff.2 ⟨hself, List.mem_map_of_mem (List.mem_append_left _ hc)⟩
  | @listed id other n _ hn hlists hself ih =>
    obtain ⟨c, hc, rfl⟩ := List.mem_map.1 ih
    obtain ⟨d, hd, hlate, hid⟩ := h.exists_landing hv hfits hR hk hfinished hc
    have hheard := hfits.contact_mem_heard hv hd hlate (hid.symm ▸ hn) hlists
    exact mem_map_id_firsts_iff.2
      ⟨hself, List.mem_map_of_mem (f := (·.id)) (List.mem_append_right _ hheard)⟩

/-- And what is known of everybody is the same in every run. -/
lemma Passes.eq_told_of_mem_next {c : Contact} (hc : c ∈ s.lookup.next) :
    c = net.told v seeds c.id := by
  obtain ⟨c, hknown, rfl⟩ := (h.mem_next_iff hv hfits hR hk).1 hc
  have hfirst : c = (seeds.find? fun d => d.id = c.id).getD (net.contact c.id) := by
    have hfind := (mem_firsts_iff.1 hknown).2
    rw [List.find?_append] at hfind
    cases hseed : seeds.find? fun d => d.id = c.id with
    | some d =>
      rw [hseed] at hfind
      exact (Option.some.inj hfind).symm
    | none =>
      rw [hseed, Option.none_or] at hfind
      obtain ⟨-, -, -, -, id, -, hid⟩ :=
        hfits.exists_node_of_mem_heard (List.mem_of_find?_eq_some hfind)
      rw [← hid]
      rfl
  obtain ⟨d, hd, hlate, hid⟩ := h.exists_landing hv hfits hR hk hfinished hknown
  rw [informed_of_mem (h.explores hv).nodup_log hd hid, Landing.id_tell, Landing.tell,
    hfits.answer? hd hlate, hid, Network.told, ← hfirst]
  cases net.answer c.id v with
  | none => rfl
  | some answer => exact if_pos rfl

end Finished

/-- Every node that can be reached is asked once, and the lookup ends with the last reply. -/
lemma Passes.finished_iff : s.lookup.state.finished = true ↔ log.length = R.card := by
  have hmade : (made log (s.kept ++ s.rest)).length ≤ R.card := by
    rw [← List.length_map (·.contact.id)]
    refine length_le_card (h.explores hv).distinct (List.forall_mem_map.2 fun f hf => (hR _).2 ?_)
    exact h.reaches_of_made hv hfits f hf
  rw [made, List.length_append, List.length_map] at hmade
  constructor
  · intro hfinished
    have hall : R ⊆ (log.map (·.flight.contact.id)).toFinset := by
      intro id hid
      have hfirst := h.mem_firsts_of_reaches hv hfits hR hk hfinished ((hR id).1 hid)
      obtain ⟨c, hc, rfl⟩ := List.mem_map.1 hfirst
      obtain ⟨d, hd, -, heq⟩ := h.exists_landing hv hfits hR hk hfinished hc
      exact List.mem_toFinset.2 (List.mem_map.2 ⟨d, hd, heq⟩)
    have hcard := (Finset.card_le_card hall).trans (List.toFinset_card_le _)
    rw [List.length_map] at hcard
    omega
  · intro hlength
    by_contra hgoing
    -- there is a request under way, to one node more than there are
    have hwaiting := h.running.1.waiting (Bool.eq_false_iff.2 hgoing)
    have hpos := List.length_pos_of_ne_nil hwaiting
    omega

end Runs

/-! ### What is delivered -/

/-- Some identifiers in the order of their distance to a target. -/
lemma exists_sorted (R : Finset Id) (target : Id) :
    ∃ ids : List Id, ids.Pairwise (fun a b => (a.xor target).toNat < (b.xor target).toNat) ∧
      ∀ id, id ∈ ids ↔ id ∈ R := by
  refine ⟨R.toList.mergeSort (Id.nearer target),
    Id.pairwise_mergeSort target id (by simpa using R.nodup_toList), fun id => ?_⟩
  rw [List.mem_mergeSort, Finset.mem_toList]

/-- Identifiers in the order of their distance to a target are determined by which ones they are. -/
lemma eq_of_sorted {ids ids' : List Id}
    (h : ids.Pairwise fun a b => (a.xor target).toNat < (b.xor target).toNat)
    (h' : ids'.Pairwise fun a b => (a.xor target).toNat < (b.xor target).toNat)
    (hmem : ∀ id, id ∈ ids ↔ id ∈ ids') : ids = ids' := by
  have hnodup {ids : List Id}
      (h : ids.Pairwise fun a b => (a.xor target).toNat < (b.xor target).toNat) : ids.Nodup :=
    h.imp fun hlt heq => absurd (heq ▸ hlt) (lt_irrefl _)
  have hperm := (List.perm_ext_iff_of_nodup (hnodup h) (hnodup h')).2 hmem
  exact hperm.eq_of_pairwise (fun _ _ _ _ hab hba => absurd hba hab.asymm) h h'

/-- Does a lookup ask nobody outside of `R`, and all of `R`, and end with the last reply, to deliver some
contacts? -/
structure Explored (R : Finset Id) (log : List Landing) (s : Sweep) (contacts : List Contact) :
    Prop where
  asked : ∀ a ∈ s.lookup.asked, a.contact.id ∈ R
  going : s.lookup.state.finished = false → s.kept ++ s.rest ≠ []
  ended : s.lookup.state.finished = true ↔ log.length = R.card
  reports : s.lookup.state.finished = true → s.lookup.reports = [.contacts contacts]

/-- A lookup that ends with the contacts known by then delivers them, if it explores at all. -/
lemma Passes.explored (hv : v.isFinding = true)
    (h : Passes (.new v (.new target self .exhaustive k concurrency)) seeds log s)
    (hfits : net.Fits v log) (hR : ∀ id, id ∈ R ↔ net.Reaches self seeds id) (hk : R.card ≤ k)
    {contacts : List Contact}
    (hreports : s.lookup.state.finished = true → s.lookup.reports = [.contacts contacts]) :
    Explored R log s contacts where
  asked a ha := (hR _).2 (h.reaches_of_mem_firsts hv hfits (h.asked_firsts a ha))
  going := h.running.1.waiting
  ended := h.finished_iff hv hfits hR hk
  reports := hreports

lemma Network.announced_told (hseeds : ∀ c ∈ seeds, c.announced = 0) (id : Id) :
    0 < (net.told .findValue seeds id).announced ↔ net.Holds id := by
  have hseed : ((seeds.find? fun c => c.id = id).getD (net.contact id)).announced = 0 := by
    cases hfind : seeds.find? fun c => c.id = id with
    | none => rfl
    | some c => exact hseeds c (List.mem_of_find?_eq_some hfind)
  cases hn : net.node id with
  | none =>
    have hanswer : net.answer id .findValue = none := congrArg (Option.map _) hn
    simp [told, hanswer, hseed, Holds, hn]
  | some n =>
    have hanswer : net.answer id .findValue =
        some (⟨id, n.lists.map net.contact, n.token, n.announces⟩ : FindValue.Answer) :=
      congrArg (Option.map _) hn
    simp [told, hanswer, Holds, hn, Verb.tell, Contact.withToken, Contact.withAnnounced]

section Explored

variable {ids : List Id} (hR : ∀ id, id ∈ R ↔ net.Reaches self seeds id) (hk : R.card ≤ k)
  (hsorted : ids.Pairwise fun a b => (a.xor target).toNat < (b.xor target).toNat)
  (hids : ∀ id, id ∈ ids ↔ id ∈ R)
include hR hk hsorted hids

/-- The candidates of a lookup that has ended are what is known in the end, in the order of their distance
to the target. -/
lemma Passes.next_eq_map (hv : v.isFinding = true)
    (h : Passes (.new v (.new target self .exhaustive k concurrency)) seeds log s)
    (hfits : net.Fits v log) (hfinished : s.lookup.state.finished = true) :
    s.lookup.next = ids.map (net.told v seeds) := by
  have hexplores := h.explores hv
  have hcentre : s.lookup.state.candidates.target = target :=
    hexplores.centre.trans h.running.2.target
  have heq : s.lookup.next.map (·.id) = ids := by
    refine eq_of_sorted ?_ hsorted fun id => ?_
    · rw [h.next_eq_ranking hv hfits hR hk, List.pairwise_map, ← hcentre]
      exact Candidates.pairwise_ranking _
    · rw [hids, hR]
      constructor
      · intro hid
        obtain ⟨c, hc, rfl⟩ := List.mem_map.1 hid
        obtain ⟨d, hd, rfl⟩ := (h.mem_next_iff hv hfits hR hk).1 hc
        rw [id_informed]
        exact h.reaches_of_mem_firsts hv hfits hd
      · intro hid
        obtain ⟨c, hc, rfl⟩ := List.mem_map.1 (h.mem_firsts_of_reaches hv hfits hR hk hfinished hid)
        exact List.mem_map.2 ⟨informed v log c, (h.mem_next_iff hv hfits hR hk).2 ⟨c, hc, rfl⟩,
          id_informed v log c⟩
  rw [← heq, List.map_map]
  refine (List.map_id _).symm.trans (List.map_congr_left fun c hc => ?_)
  exact h.eq_told_of_mem_next hv hfits hR hk hfinished hc

end Explored

/-- In a network where every node always answers the same, or never, a lookup that may consider as many
candidates as there are nodes to be reached explores them all, whatever its concurrency, and in whatever
order and batches the replies come. A lookup of nodes delivers all those nodes, and one of values those that
announced some: the same contacts in every run, in the order of their distance to the target. -/
theorem small_networks_are_explored (net : Network) (target self : Id) (seeds : List Contact)
    {R : Finset Id} (hR : ∀ id, id ∈ R ↔ net.Reaches self seeds id) :
    (∃ nodes : List Id, nodes.Pairwise (fun a b => (a.xor target).toNat < (b.xor target).toNat) ∧
      (∀ id, id ∈ nodes ↔ id ∈ R) ∧
      ∀ k concurrency log s, R.card ≤ k →
        Passes (new .findNode (.new target self .exhaustive k concurrency)) seeds log s →
        net.Fits .findNode log → Explored R log s (nodes.map (net.told .findNode seeds))) ∧
    ((∀ c ∈ seeds, c.announced = 0) →
      ∃ holders : List Id, holders.Pairwise (fun a b => (a.xor target).toNat < (b.xor target).toNat) ∧
        (∀ id, id ∈ holders ↔ id ∈ R ∧ net.Holds id) ∧
        ∀ k concurrency log s, R.card ≤ k →
          Passes (new .findValue (.new target self .exhaustive k concurrency)) seeds log s →
          net.Fits .findValue log → Explored R log s (holders.map (net.told .findValue seeds))) := by
  obtain ⟨nodes, hsorted, hnodes⟩ := exists_sorted R target
  refine ⟨⟨nodes, hsorted, hnodes, ?_⟩, fun hseeds => ?_⟩
  · intro k concurrency log s hk h hfits
    refine h.explored rfl hfits hR hk fun hfinished => ?_
    rw [h.reports_findNode hfinished, h.next_eq_map hR hk hsorted hnodes rfl hfits hfinished]
  · classical
    refine ⟨nodes.filter fun id => decide (net.Holds id), hsorted.filter _, fun id => ?_, ?_⟩
    · rw [List.mem_filter, decide_eq_true_iff, hnodes]
    · intro k concurrency log s hk h hfits
      refine h.explored rfl hfits hR hk fun hfinished => ?_
      have hholds (id : Id) : decide (0 < (net.told .findValue seeds id).announced) =
          decide (net.Holds id) := decide_eq_decide.2 (net.announced_told hseeds id)
      rw [h.reports_findValue hfinished, ← h.next_eq_ranking rfl hfits hR hk,
        h.next_eq_map hR hk hsorted hnodes rfl hfits hfinished, List.filter_map]
      simp only [Function.comp_def, hholds]

namespace Pair

/-- Node 2 lists node 1 and hands out a token, and nobody else ever answers. -/
def network : Network where
  address id := ⟨.v4 127 0 0 (id.bytes.headD 0), 7⟩
  node id := if id = (node 2).id then some ⟨[(node 1).id], [116], 0⟩ else none

def reached : Finset Id :=
  {(node 1).id, (node 2).id}

lemma mem_reached_iff (id : Id) : id ∈ reached ↔ network.Reaches (node 9).id [node 2] id := by
  have htwo : network.Reaches (node 9).id [node 2] (node 2).id :=
    .seed (List.mem_singleton_self _) (by decide)
  have hnode : network.node (node 2).id = some ⟨[(node 1).id], [116], 0⟩ := by simp [network]
  have hone : network.Reaches (node 9).id [node 2] (node 1).id :=
    .listed htwo hnode (List.mem_singleton_self _) (by decide)
  simp only [reached, Finset.mem_insert, Finset.mem_singleton]
  constructor
  · rintro (rfl | rfl)
    · exact hone
    · exact htwo
  · intro h
    induction h with
    | seed hc hself =>
      rw [List.mem_singleton.1 hc]
      exact .inr rfl
    | listed h hn hlists hself ih =>
      simp only [network] at hn
      split at hn
      · obtain rfl := Option.some.inj hn
        exact .inl (List.mem_singleton.1 hlists)
      · cases hn

end Pair

/-- The lookup of the pair explores it, and delivers both nodes. -/
theorem small_networks_are_explored_pair : ∃ log, ∃ nodes : List Id,
    (∀ id, id ∈ Pair.reached ↔ Pair.network.Reaches (Pair.node 9).id [Pair.node 2] id) ∧
      Passes Pair.lookup [Pair.node 2] log Pair.ended ∧ Pair.network.Fits .findNode log ∧
      (∀ id, id ∈ nodes ↔ id ∈ Pair.reached) ∧ Pair.ended.lookup.state.finished = true ∧
      Explored Pair.reached log Pair.ended
        (nodes.map (Pair.network.told .findNode [Pair.node 2])) := by
  have hstarted : Passes Pair.lookup [Pair.node 2] [] Pair.started :=
    .launch Pair.site (Pair.holding []) (Pair.holding [])
  have hanswered : Passes Pair.lookup [Pair.node 2] _ Pair.answered :=
    hstarted.look Pair.site (Pair.holding [⟨0, .ok Pair.answer⟩]) (by cbv)
  have hended : Passes Pair.lookup [Pair.node 2] _ Pair.ended :=
    hanswered.look Pair.site (Pair.holding [⟨0, .error .stopped⟩]) (by cbv)
  have hfinished : Pair.ended.lookup.state.finished = true := by cbv
  have hfirst : ({ Pair.started with multiplexer := Pair.holding [⟨0, .ok Pair.answer⟩] } :
      Sweep).landings ⟨Pair.node 2, 0, ⟨0, some (Pair.node 2).id⟩⟩ =
        [⟨⟨Pair.node 2, 0, ⟨0, some (Pair.node 2).id⟩⟩, .ok Pair.answer, false⟩] := by cbv
  have hsecond : ({ Pair.answered with multiplexer := Pair.holding [⟨0, .error .stopped⟩] } :
      Sweep).landings ⟨Pair.node 1, 0, ⟨0, some (Pair.node 1).id⟩⟩ =
        [⟨⟨Pair.node 1, 0, ⟨0, some (Pair.node 1).id⟩⟩, .error .stopped, false⟩] := by cbv
  rw [hfirst, hsecond] at hended
  have hfits : Pair.network.Fits .findNode
      ([] ++ [⟨⟨Pair.node 2, 0, ⟨0, some (Pair.node 2).id⟩⟩, .ok Pair.answer, false⟩] ++
        [⟨⟨Pair.node 1, 0, ⟨0, some (Pair.node 1).id⟩⟩, .error .stopped, false⟩]) := by
    refine List.forall_mem_cons.2 ⟨?_, List.forall_mem_singleton.2 ?_⟩
    · cbv
    · cbv
  obtain ⟨⟨nodes, -, hnodes, hexplored⟩, -⟩ := small_networks_are_explored Pair.network
    (Pair.node 0).id (Pair.node 9).id [Pair.node 2] Pair.mem_reached_iff
  exact ⟨_, nodes, Pair.mem_reached_iff, hended, hfits, hnodes, hfinished,
    hexplored 2 3 _ Pair.ended (by decide) hended hfits⟩

end Kademlia.Lookup
