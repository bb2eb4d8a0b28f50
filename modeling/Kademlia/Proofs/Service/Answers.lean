import Kademlia.Proofs.Routing.Nearest
import Kademlia.Proofs.Routing.Retention
import Kademlia.Proofs.Service.Writes
import Kademlia.Proofs.Storage.Usage
import Kademlia.Proofs.Wire.Payloads

/-!
# What a service answers

Each answer is read back as what the service and the table held when the request came, so that answers
to different requests fit together: contacts come with a token that the next request may use, and a count
is that of the values that are handed out to whoever asks for all of them. Only a request to store a value
may be refused although it is well formed, for its token.
-/

namespace Kademlia

open Bencode Wire Storage

lemma Routing.Table.Sound.received_of_listed {t : Routing.Table} (h : t.Sound) {cs : List Contact}
    (hcs : ∀ c ∈ cs, c ∈ t.contacts) :
    Contact.received cs = cs.filter fun c => c.address.ip.isV4 := by
  refine (List.map_congr_left fun c hc => ?_).trans (List.map_id _)
  obtain ⟨e, he, rfl⟩ := List.mem_map.1 (hcs c (List.mem_of_mem_filter hc))
  exact (h.bare he).symm

namespace Service

/-- The payload of an answer is read as `a`. -/
def Answer.Reads {α : Type} [Payload α] (r : Answer) (a : α) : Prop :=
  ∃ d, r = .ok d ∧ Payload.ofDict d = .ok a

lemma arguments_of_ofDict {α : Type} [Payload α] {d : Dict} {a : α} (h : Payload.ofDict d = .ok a) :
    arguments α d = .ok a :=
  mapError_eq_ok.2 h

/-- What is written as an answer is read as what arrives of it, unless a count has no value. -/
lemma reads_answer {α : Type} [Payload α] {counts : α → List Nat} {arrives : α → α}
    (h : Survives α counts arrives) {a : α} (hcounts : ∀ n ∈ counts a, n ≤ 2 ^ 63 - 1) :
    (answer a).Reads (arrives a) := by
  cases hdict : Payload.toDict a with
  | error e =>
    obtain ⟨n, hn, hlarge⟩ := (h.fails a).1 ⟨e, hdict⟩
    exact absurd (hcounts n hn) hlarge.not_ge
  | ok d => exact ⟨d, mapError_eq_ok.2 hdict, h.read a d hdict [] nofun⟩

lemma idOfDict_idDict (id : Id) : idOfDict (idDict id) = .ok id := by
  have hfurther : (idDict id).Further [] := nofun
  exact idOfDict_eq_ok (Dict.extends_insertAll hfurther)

lemma reads_ping (id : Id) : (answer (Ping.Answer.mk id)).Reads (Ping.Answer.mk id) :=
  ⟨idDict id, rfl, by simp only [Payload.ofDict, idOfDict_idDict]; rfl⟩

lemma reads_stored (id : Id) : Answer.Reads (.ok (idDict id)) (StoreValue.Answer.mk id) :=
  ⟨idDict id, rfl, by simp only [Payload.ofDict, idOfDict_idDict]; rfl⟩

namespace ValueService

/-! ### Services that are in use -/

/-- What is done with a service: somebody visits it, or its owner uses the store or renews the secrets. -/
inductive Use where
  | visit (v : Visit)
  | store (op : Usage.Operation)
  | rotate (now : Nat)

def use (s : ValueService) : Use → ValueService
  | .visit v => s.visit v
  | .store op =>
    let (_, store, entropy) := Usage.perform (s.store, s.entropy) op
    { s with store, entropy }
  | .rotate now => s.rotate now

/-- A service that was started and then used. -/
def used (settings : Settings) (now : Nat) (entropy : Entropy) (uses : List Use) : ValueService :=
  uses.foldl use (start settings now entropy)

/-- A service that lists as many contacts as it was told to, with a store that was only ever told to do
what stores do. -/
structure Sound (settings : Settings) (s : ValueService) : Prop where
  k : s.k = settings.k
  records : ∃ ops, Usage.Records (max settings.maxKeys 1) (max settings.maxValues 1) ops s.store

variable {settings : Settings} {s : ValueService} {now : Nat} {c : Context}

lemma sound_start (settings : Settings) (now : Nat) (entropy : Entropy) :
    Sound settings (start settings now entropy) :=
  ⟨rfl, [], .empty settings.maxKeys settings.maxValues⟩

namespace Sound

lemma rotate (h : Sound settings s) (now : Nat) : Sound settings (s.rotate now) :=
  ⟨h.k, h.records⟩

lemma refresh (h : Sound settings s) (now : Nat) : Sound settings (s.refresh now) := by
  rcases s.refresh_cases now with ⟨-, hs⟩ | ⟨-, hs⟩ <;> rw [hs]
  · exact h
  · exact h.rotate now

lemma perform (h : Sound settings s) (op : Usage.Operation) {entropy : Entropy} :
    Sound settings { s with store := (Usage.perform (s.store, s.entropy) op).2.1, entropy } := by
  obtain ⟨ops, hr⟩ := h.records
  exact ⟨h.k, ops ++ [op], hr.perform (Nat.le_max_right _ _) op⟩

end Sound

/-- A handler does nothing to the store but what stores do. -/
lemma sound_of_handler? {method : String} {handler : Handler ValueService}
    (h : registry.handler? method = some handler) (hs : Sound settings s) (c : Context) (d : Dict) :
    Sound settings (handler c d s).2 := by
  simp only [registry, Registry.handler?_register] at h
  split_ifs at h
  · obtain rfl := Option.some.inj h
    rcases storeValue_cases c d s with ⟨a, -, -, hstore⟩ | ⟨e, hstore⟩ <;> rw [hstore]
    · exact hs.perform (.insert a.key a.value)
    · exact hs
  · obtain rfl := Option.some.inj h
    unfold getValue
    split
    · exact hs
    · next a _ => exact hs.perform (.get a.key a.num)
  · obtain rfl := Option.some.inj h
    unfold findValue
    split <;> exact hs
  · obtain rfl := Option.some.inj h
    unfold findNode
    split <;> exact hs
  · obtain rfl := Option.some.inj h
    exact hs
  · cases h

lemma Sound.use (h : Sound settings s) (u : Use) : Sound settings (s.use u) := by
  cases u with
  | rotate now => exact h.rotate now
  | store op => exact h.perform op
  | visit v =>
    cases v with
    | own key => exact h.perform (.get key 0)
    | request now c q =>
      show Sound settings (s.handle now c q).2
      unfold handle
      dsimp only
      split
      · next handler hhandler => exact sound_of_handler? hhandler (h.refresh now) c q.arguments
      · exact h.refresh now

lemma sound_used (settings : Settings) (now : Nat) (entropy : Entropy) (uses : List Use) :
    Sound settings (used settings now entropy uses) :=
  List.foldlRecOn (motive := Sound settings) uses _ (sound_start settings now entropy)
    fun _ h u _ => h.use u

/-! ### What is said to a request -/

/-- A token that is good for an IP address at once, and that stores a value by the next request, whenever
it comes. -/
structure Honours (s : ValueService) (ip : Ip) (token : Bytes) : Prop where
  accepts : ∀ requester : Address, requester.ip = ip → s.mint.accepts requester token = true
  stores : ∀ now (c : Context) d (a : StoreValue.Arguments), c.requester.ip = ip →
    Payload.ofDict d = .ok a → a.token = token →
      (s.handle now c ⟨Method.storeValue, d⟩).1.Reads (StoreValue.Answer.mk c.id)

/-- What a service says to well-formed requests that arrive at `now`. -/
structure Truthful (s : ValueService) (now : Nat) (c : Context) : Prop where
  /-- The own identifier, whatever the arguments are. -/
  ping : ∀ d, (s.handle now c ⟨Method.ping, d⟩).1.Reads (Ping.Answer.mk c.id)
  /-- The contacts of the older family among the nearest ones, and a token. -/
  findNode : ∀ d (a : FindNode.Arguments), Payload.ofDict d = .ok a →
    let served := s.handle now c ⟨Method.findNode, d⟩
    ∃ near token, c.table.Nearest a.target s.k near ∧
      served.1.Reads (FindNode.Answer.mk c.id (near.filter fun d => d.address.ip.isV4) token) ∧
      Honours served.2 c.requester.ip token
  /-- Also how many values there are, which are as many as anybody who asks for all of them is given. Only
  where there are more than an integer can tell is there no answer. -/
  findValue : ∀ d (a : FindValue.Arguments), Payload.ofDict d = .ok a →
    let served := s.handle now c ⟨Method.findValue, d⟩
    (∃ near token num, c.table.Nearest a.key s.k near ∧
      served.1.Reads (FindValue.Answer.mk c.id (near.filter fun d => d.address.ip.isV4) token num) ∧
      Honours served.2 c.requester.ip token ∧ num = s.store.count a.key ∧
      ∀ s' ∈ [s, served.2], ∀ now' (c' : Context) d' (a' : GetValue.Arguments),
        Payload.ofDict d' = .ok a' → a'.key = a.key → a'.num = 0 →
          ∃ values, (s'.handle now' c' ⟨Method.getValue, d'⟩).1.Reads
            (GetValue.Answer.mk c'.id values) ∧ values.length = num) ∨
    (2 ^ 63 - 1 < s.store.count a.key ∧ ∃ e, served.1 = .error (.failure e))
  /-- All values of the key, or as many as were asked for. -/
  getValue : ∀ d (a : GetValue.Arguments), Payload.ofDict d = .ok a →
    ∃ values, (s.handle now c ⟨Method.getValue, d⟩).1.Reads (GetValue.Answer.mk c.id values) ∧
      values.Nodup ∧ (∀ v ∈ values, v ∈ s.store.peek a.key) ∧
      values.length = if a.num = 0 ∨ s.store.count a.key ≤ a.num then s.store.count a.key else a.num
  /-- The own identifier after the value was stored, if the token is accepted. -/
  storeValue : ∀ d (a : StoreValue.Arguments), Payload.ofDict d = .ok a →
    let served := s.handle now c ⟨Method.storeValue, d⟩
    if served.2.mint.accepts c.requester a.token then
      served.1.Reads (StoreValue.Answer.mk c.id) ∧ a.value ∈ served.2.store.peek a.key
    else served = (.error (.protocol .invalidToken), s.refresh now)

lemma handle_eq {method : String} {handler : Handler ValueService}
    (h : registry.handler? method = some handler) (s : ValueService) (now : Nat) (c : Context) (d : Dict) :
    s.handle now c ⟨method, d⟩ = handler c d (s.refresh now) := by
  simp only [handle, h]

lemma k_refresh (s : ValueService) (now : Nat) : (s.refresh now).k = s.k := by
  rcases s.refresh_cases now with ⟨-, h⟩ | ⟨-, h⟩ <;> rw [h]
  rfl

/-- A request renews the secrets once at most, so that the current one is still known to it. -/
lemma current_mem_refresh (s : ValueService) (now : Nat) :
    s.mint.current ∈ [(s.refresh now).mint.current, (s.refresh now).mint.previous] := by
  rcases s.refresh_cases now with ⟨-, h⟩ | ⟨-, h⟩ <;> rw [h]
  · exact List.mem_cons_self
  · exact List.mem_cons_of_mem _ List.mem_cons_self

lemma honours_mint (s : ValueService) (requester : Address) :
    s.Honours requester.ip (s.mint.mint requester) where
  accepts requester' hip := accepts_iff.2 ⟨s.mint.current, List.mem_cons_self, by rw [hip]; rfl⟩
  stores now c d a hip ha htoken := by
    have haccepts : (s.refresh now).mint.accepts c.requester a.token = true :=
      accepts_iff.2 ⟨s.mint.current, s.current_mem_refresh now, by rw [htoken, hip]; rfl⟩
    rw [handle_storeValue rfl, storeValue_of_accepts (arguments_of_ofDict ha) haccepts]
    exact reads_stored c.id

lemma findNode_of_arguments {d : Dict} {a : FindNode.Arguments} (ha : Payload.ofDict d = .ok a) :
    findNode c d s =
      (answer (FindNode.Answer.mk c.id (c.table.closest a.target s.k) (s.mint.mint c.requester)), s) := by
  simp only [findNode, arguments_of_ofDict ha]

lemma findValue_of_arguments {d : Dict} {a : FindValue.Arguments} (ha : Payload.ofDict d = .ok a) :
    findValue c d s =
      (answer (FindValue.Answer.mk c.id (c.table.closest a.key s.k) (s.mint.mint c.requester)
        (s.store.count a.key)), s) := by
  simp only [findValue, arguments_of_ofDict ha]

/-- Whoever asks for values is given what the store hands out, though the secrets may be renewed before. -/
lemma reads_getValue (s : ValueService) (now : Nat) (c : Context) {d : Dict} {a : GetValue.Arguments}
    (ha : Payload.ofDict d = .ok a) :
    ∃ e, (s.handle now c ⟨Method.getValue, d⟩).1.Reads
      (GetValue.Answer.mk c.id (s.store.get e a.key a.num).1) := by
  have hserved : s.handle now c ⟨Method.getValue, d⟩ = getValue c d (s.refresh now) :=
    handle_eq rfl s now c d
  refine ⟨(s.refresh now).entropy, ?_⟩
  rw [hserved, (getValue_of_arguments (arguments_of_ofDict ha)).1, store_refresh]
  exact reads_answer survives_getValue_answer nofun

/-- Asked for all values it gives as many as it counts. -/
lemma reads_getValue_all (s : ValueService) (now : Nat) (c : Context) {d : Dict} {a : GetValue.Arguments}
    (ha : Payload.ofDict d = .ok a) (hnum : a.num = 0) :
    ∃ values, (s.handle now c ⟨Method.getValue, d⟩).1.Reads (GetValue.Answer.mk c.id values) ∧
      values.length = s.store.count a.key := by
  obtain ⟨e, hreads⟩ := s.reads_getValue now c ha
  refine ⟨_, hreads, ?_⟩
  rw [Store.fst_get_of_all (.inl hnum), Store.count]

lemma reads_findNode (s : ValueService) (now : Nat) (ht : c.table.Sound) {d : Dict}
    {a : FindNode.Arguments} (ha : Payload.ofDict d = .ok a) :
    let served := s.handle now c ⟨Method.findNode, d⟩
    ∃ near token, c.table.Nearest a.target s.k near ∧
      served.1.Reads (FindNode.Answer.mk c.id (near.filter fun d => d.address.ip.isV4) token) ∧
      Honours served.2 c.requester.ip token := by
  intro served
  have hserved : served = findNode c d (s.refresh now) := handle_eq rfl s now c d
  have hnear := ht.nearest_closest a.target s.k
  rw [hserved, findNode_of_arguments ha, k_refresh]
  refine ⟨_, (s.refresh now).mint.mint c.requester, hnear, ?_, honours_mint _ _⟩
  rw [← ht.received_of_listed hnear.listed]
  exact reads_answer survives_findNode_answer nofun

lemma reads_findValue (s : ValueService) (now : Nat) (ht : c.table.Sound) {d : Dict}
    {a : FindValue.Arguments} (ha : Payload.ofDict d = .ok a) (hcount : s.store.count a.key ≤ 2 ^ 63 - 1) :
    let served := s.handle now c ⟨Method.findValue, d⟩
    served.2 = s.refresh now ∧ ∃ near token, c.table.Nearest a.key s.k near ∧
      served.1.Reads (FindValue.Answer.mk c.id (near.filter fun d => d.address.ip.isV4) token
        (s.store.count a.key)) ∧
      Honours served.2 c.requester.ip token := by
  intro served
  have hserved : served = findValue c d (s.refresh now) := handle_eq rfl s now c d
  have hnear := ht.nearest_closest a.key s.k
  rw [hserved, findValue_of_arguments ha, k_refresh, store_refresh]
  refine ⟨rfl, _, (s.refresh now).mint.mint c.requester, hnear, ?_, honours_mint _ _⟩
  rw [← ht.received_of_listed hnear.listed]
  exact reads_answer survives_findValue_answer (by simpa using hcount)

/-- More values than an integer can tell. -/
lemma error_findValue (s : ValueService) (now : Nat) (c : Context) {d : Dict} {a : FindValue.Arguments}
    (ha : Payload.ofDict d = .ok a) (hcount : 2 ^ 63 - 1 < s.store.count a.key) :
    ∃ e, (s.handle now c ⟨Method.findValue, d⟩).1 = .error (.failure e) := by
  have hserved : s.handle now c ⟨Method.findValue, d⟩ = findValue c d (s.refresh now) :=
    handle_eq rfl s now c d
  rw [hserved, findValue_of_arguments ha, store_refresh]
  set a' : FindValue.Answer := ⟨c.id, c.table.closest a.key (s.refresh now).k,
    (s.refresh now).mint.mint c.requester, s.store.count a.key⟩
  obtain ⟨e, he⟩ := (survives_findValue_answer.fails a').2 ⟨_, List.mem_singleton_self _, hcount⟩
  exact ⟨e.message, by rw [answer, he]; rfl⟩

/-- The store hands out values it holds, none of them twice, and as many as it should. -/
lemma Sound.get (h : Sound settings s) (e : Entropy) (key : Id) (num : Nat) :
    (s.store.get e key num).1.Nodup ∧ (∀ v ∈ (s.store.get e key num).1, v ∈ s.store.peek key) ∧
      (s.store.get e key num).1.length =
        if num = 0 ∨ s.store.count key ≤ num then s.store.count key else num := by
  obtain ⟨ops, hr⟩ := h.records
  by_cases hall : num = 0 ∨ s.store.count key ≤ num
  · rw [if_pos hall, Store.fst_get_of_all hall]
    exact ⟨hr.nodup_peek key, fun _ hv => hv, rfl⟩
  · rw [if_neg hall]
    obtain ⟨hzero, hless⟩ := not_or.1 hall
    have hless := Nat.lt_of_not_le hless
    have hpicked := subperm_sample num (s.store.peek key) e
    have ⟨picked, hperm, hsub⟩ := hpicked
    rw [Usage.fst_get_of_some (Nat.pos_of_ne_zero hzero) hless]
    exact ⟨hperm.nodup_iff.1 ((hr.nodup_peek key).sublist hsub), fun _ hv => hpicked.subset hv,
      Usage.length_sample hless.le e⟩

/-- A value is stored for an accepted token, and held afterwards. -/
lemma Sound.reads_storeValue (h : Sound settings s) (now : Nat) (c : Context) {d : Dict}
    {a : StoreValue.Arguments} (ha : Payload.ofDict d = .ok a) :
    let served := s.handle now c ⟨Method.storeValue, d⟩
    if served.2.mint.accepts c.requester a.token then
      served.1.Reads (StoreValue.Answer.mk c.id) ∧ a.value ∈ served.2.store.peek a.key
    else served = (.error (.protocol .invalidToken), s.refresh now) := by
  intro served
  have hserved : served = storeValue c d (s.refresh now) := handle_storeValue rfl
  have hmint : served.2.mint = (s.refresh now).mint := mint_handle ..
  rw [hmint]
  split_ifs with haccepts
  · obtain ⟨ops, hr⟩ := (h.refresh now).records
    rw [hserved, storeValue_of_accepts (arguments_of_ofDict ha) haccepts]
    exact ⟨reads_stored c.id, (Usage.Present.of_insert hr (Nat.le_max_right _ _)
      (Nat.le_max_right _ _) a.key a.value).mem_peek⟩
  · rw [hserved, storeValue_of_not_accepts (arguments_of_ofDict ha) (by simpa using haccepts)]

lemma Sound.truthful (h : Sound settings s) (ht : c.table.Sound) (now : Nat) : s.Truthful now c where
  ping d := by
    have hserved : s.handle now c ⟨Method.ping, d⟩ = ping c d (s.refresh now) := handle_eq rfl s now c d
    rw [hserved]
    exact reads_ping c.id
  findNode d a ha := s.reads_findNode now ht ha
  findValue d a ha := by
    intro served
    rcases Nat.lt_or_ge (2 ^ 63 - 1) (s.store.count a.key) with hlarge | hsmall
    · exact .inr ⟨hlarge, s.error_findValue now c ha hlarge⟩
    · obtain ⟨hleft, near, token, hnear, hreads, hhonours⟩ := s.reads_findValue now ht ha hsmall
      refine .inl ⟨near, token, _, hnear, hreads, hhonours, rfl, fun s' hs' now' c' d' a' ha' hkey hnum => ?_⟩
      -- to find values changes none of them
      have hstore : s'.store = s.store := by
        rcases List.mem_pair.1 hs' with rfl | rfl
        · rfl
        · rw [hleft, store_refresh]
      rw [← hstore, ← hkey]
      exact s'.reads_getValue_all now' c' ha' hnum
  getValue d a ha := by
    obtain ⟨e, hreads⟩ := s.reads_getValue now c ha
    exact ⟨_, hreads, h.get e a.key a.num⟩
  storeValue d a ha := h.reads_storeValue now c ha

/-- Whatever was asked of a service and done with a table before, a well-formed request of anybody is
answered with what they hold, under the identifier of the table: the contacts of the older family among
the nearest ones with a token for the next request, the number of values that are handed out to whoever
asks for all, different values of the key, or success once a value is stored. Only a token that is not
accepted is refused. -/
theorem answers_agree (settings : Settings) (start : Nat) (entropy : Entropy) (uses : List Use) (now : Nat)
    (requester : Address) (id : Id) (bucketSize : Nat) (ops : List Routing.Operation) :
    let s := used settings start entropy uses
    let c : Context := ⟨requester, (Routing.Table.empty id bucketSize).after ops⟩
    s.k = settings.k ∧ c.id = id ∧ s.Truthful now c := by
  intro s c
  have hs : Sound settings s := sound_used settings start entropy uses
  have ht : c.table.Sound := (Routing.Table.sound_empty id bucketSize).after ops
  exact ⟨hs.k, ((Routing.Table.empty id bucketSize).setup_after ops).1, hs.truthful ht now⟩

namespace Visitor

/-- The arguments to store a value, well formed, with an empty token, which nobody hands out. -/
def forged : Dict :=
  .ofEntries [idEntry self, (Field.valueKey.key, .bytes self.bytes), (Field.value.key, .bytes [1]),
    (Field.token.key, .bytes [])]

lemma ofDict_forged :
    Payload.ofDict forged = .ok (⟨self, self, [1], []⟩ : StoreValue.Arguments) := by
  decide +kernel

end Visitor

/-- A well-formed request to store a value that is answered with no payload. -/
theorem forged_token_is_refused :
    let served := (used .standard 0 ⟨fun n => n, 0⟩ []).handle 0 Visitor.context
      ⟨Method.storeValue, Visitor.forged⟩
    (∃ a : StoreValue.Arguments, Payload.ofDict Visitor.forged = .ok a) ∧
      ¬∃ a : StoreValue.Answer, served.1.Reads a := by
  intro served
  have hrefused : served.1 = .error (.protocol .invalidToken) := by
    have haccepts : ((used .standard 0 ⟨fun n => n, 0⟩ []).refresh 0).mint.accepts
        Visitor.context.requester [] = false := by decide +kernel
    exact congrArg Prod.fst
      (storeValue_of_not_accepts (arguments_of_ofDict Visitor.ofDict_forged) haccepts)
  refine ⟨⟨_, Visitor.ofDict_forged⟩, ?_⟩
  rintro ⟨a, d, hd, -⟩
  rw [hrefused] at hd
  cases hd

end ValueService

end Service

end Kademlia
