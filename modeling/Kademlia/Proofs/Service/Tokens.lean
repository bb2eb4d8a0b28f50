import Kademlia.Proofs.Bencode.Contents
import Kademlia.Proofs.Service.Bounds

/-!
# How long write tokens last

The secret of the tokens is renewed before a request that finds it too old, and the secret before it
is still known afterwards. So a token is accepted for one interval after it was handed out, whatever
else is asked meanwhile, and refused after the second renewal. But a renewal takes a request: a service
that nobody asks anything keeps its secrets, however long ago their tokens were handed out.
-/

namespace Kademlia.Service

open Bencode Wire Storage

namespace ValueService

/-! ### Runs -/

/-- What a service is asked. -/
inductive Visit where
  /-- Answer a request that arrives at `now`. -/
  | request (now : Nat) (context : Context) (query : Query)
  /-- Give the values held for a key. -/
  | own (key : Id)

/-- The instant of a request. -/
def Visit.instant? : Visit → Option Nat
  | request now .. => some now
  | own _ => none

/-- The instants of the requests. -/
def instants (visits : List Visit) : List Nat :=
  visits.filterMap Visit.instant?

/-- No request arrives before the one before it, and none before the start. -/
def Ordered (start : Nat) (visits : List Visit) : Prop :=
  (start :: instants visits).Pairwise (· ≤ ·)

instance (start : Nat) (visits : List Visit) : Decidable (Ordered start visits) :=
  inferInstanceAs (Decidable (List.Pairwise _ _))

/-- What a visit leaves. -/
def visit (s : ValueService) : Visit → ValueService
  | .request now c q => (s.handle now c q).2
  | .own key => (s.localValues key).2

/-- What is left after some visits. -/
def after (s : ValueService) (visits : List Visit) : ValueService :=
  visits.foldl visit s

/-- The secret that is drawn for a visit. -/
def drawn? (s : ValueService) : Visit → Option Bytes
  | .request now .. => if s.mint.isStale now then some (s.rotate now).mint.current else none
  | .own _ => none

/-- The secrets that are drawn during some visits. -/
def drawn (s : ValueService) : List Visit → List Bytes
  | [] => []
  | v :: visits => (s.drawn? v).toList ++ (s.visit v).drawn visits

/-- The secrets that there are at first, and those that are drawn during some visits. -/
def secrets (s : ValueService) (visits : List Visit) : List Bytes :=
  s.mint.previous :: s.mint.current :: s.drawn visits

/-- The answer to a request hands out a token. -/
def Issues (s : ValueService) (now : Nat) (c : Context) (q : Query) (token : Bytes) : Prop :=
  ∃ payload, (s.handle now c q).1 = .ok payload ∧ payload.getBytes? Field.token.key = some token

variable {s : ValueService} {visits : List Visit} {now : Nat} {c : Context} {q : Query}

@[simp] lemma after_nil (s : ValueService) : s.after [] = s :=
  rfl

@[simp] lemma after_cons (s : ValueService) (v : Visit) (visits : List Visit) :
    s.after (v :: visits) = (s.visit v).after visits :=
  rfl

@[simp] lemma after_append (s : ValueService) (visits visits' : List Visit) :
    s.after (visits ++ visits') = (s.after visits).after visits' :=
  List.foldl_append

lemma drawn_append (s : ValueService) (visits visits' : List Visit) :
    s.drawn (visits ++ visits') = s.drawn visits ++ (s.after visits).drawn visits' := by
  induction visits generalizing s with
  | nil => rfl
  | cons v visits ih =>
    rw [List.cons_append, drawn, drawn, ih, List.append_assoc]
    rfl

lemma secrets_append (s : ValueService) (visits visits' : List Visit) :
    s.secrets (visits ++ visits') = s.secrets visits ++ (s.after visits).drawn visits' := by
  rw [secrets, drawn_append]
  rfl

lemma instants_append (visits visits' : List Visit) :
    instants (visits ++ visits') = instants visits ++ instants visits' :=
  List.filterMap_append

lemma mem_instants_cons {v : Visit} :
    now ∈ instants (v :: visits) ↔ v.instant? = some now ∨ now ∈ instants visits := by
  simp [instants, List.mem_filterMap]

/-! ### Handlers -/

/-- A handler that leaves the secrets alone, keeps the room of the store, and hands out no token but
the one of the requester under the current secret. -/
structure Plain (handler : Handler ValueService) : Prop where
  mint : ∀ c d s, (handler c d s).2.mint = s.mint
  roomy : ∀ c d s, s.store.Roomy → (handler c d s).2.store.Roomy
  token : ∀ c d s payload token, (handler c d s).1 = .ok payload →
    payload.getBytes? Field.token.key = some token → token = s.mint.mint c.requester

lemma getBytes?_token_idDict (id : Id) : (idDict id).getBytes? Field.token.key = none := by
  rw [Dict.getBytes?, idDict, Dict.get?_ofEntries]
  rfl

lemma getBytes?_token_findNode (id : Id) (nodes token : Bytes) :
    (Dict.ofEntries [idEntry id, (Field.nodes.key, .bytes nodes),
      (Field.token.key, .bytes token)]).getBytes? Field.token.key = some token := by
  rw [Dict.getBytes?, Dict.get?_ofEntries]
  rfl

lemma getBytes?_token_findValue (id : Id) (nodes token : Bytes) (num : Value) :
    (Dict.ofEntries [idEntry id, (Field.nodes.key, .bytes nodes), (Field.num.key, num),
      (Field.token.key, .bytes token)]).getBytes? Field.token.key = some token := by
  rw [Dict.getBytes?, Dict.get?_ofEntries]
  rfl

lemma getBytes?_token_getValue (id : Id) (values : List Value) :
    (Dict.ofEntries [idEntry id, (Field.values.key, .list values)]).getBytes? Field.token.key =
      none := by
  rw [Dict.getBytes?, Dict.get?_ofEntries]
  rfl

lemma plain_ping : Plain ping where
  mint _ _ _ := rfl
  roomy _ _ _ h := h
  token c d s payload token h htoken := by
    obtain rfl := Except.ok.inj h
    rw [getBytes?_token_idDict] at htoken
    cases htoken

lemma plain_findNode : Plain findNode where
  mint c d s := by
    unfold findNode
    split <;> rfl
  roomy c d s h := by
    unfold findNode
    split <;> exact h
  token c d s payload token h htoken := by
    unfold findNode at h
    split at h
    · cases h
    · obtain rfl := Except.ok.inj h
      rw [getBytes?_token_findNode] at htoken
      exact (Option.some.inj htoken).symm

lemma plain_findValue : Plain findValue where
  mint c d s := by
    unfold findValue
    split <;> rfl
  roomy c d s h := by
    unfold findValue
    split <;> exact h
  token c d s payload token h htoken := by
    unfold findValue at h
    split at h
    · cases h
    · obtain ⟨num, -, h⟩ := bind_eq_ok.1 (mapError_eq_ok.1 h)
      obtain rfl := Except.ok.inj h
      rw [getBytes?_token_findValue] at htoken
      exact (Option.some.inj htoken).symm

lemma plain_getValue : Plain getValue where
  mint c d s := by
    unfold getValue
    split <;> rfl
  roomy c d s h := by
    unfold getValue
    split
    · exact h
    · exact h.get _ _ _
  token c d s payload token h htoken := by
    unfold getValue at h
    split at h
    · cases h
    · obtain rfl := Except.ok.inj h
      rw [getBytes?_token_getValue] at htoken
      cases htoken

lemma plain_storeValue : Plain storeValue where
  mint c d s := by
    unfold storeValue
    split
    · rfl
    · split <;> rfl
  roomy c d s h := by
    unfold storeValue
    split
    · exact h
    · split
      · exact h.insert _ _
      · exact h
  token c d s payload token h htoken := by
    unfold storeValue at h
    split at h
    · cases h
    · split at h
      · obtain rfl := Except.ok.inj h
        rw [getBytes?_token_idDict] at htoken
        cases htoken
      · cases h

lemma plain_of_handler? {method : String} {handler : Handler ValueService}
    (h : registry.handler? method = some handler) : Plain handler := by
  simp only [registry, Registry.handler?_register] at h
  split_ifs at h
  · exact Option.some.inj h ▸ plain_storeValue
  · exact Option.some.inj h ▸ plain_getValue
  · exact Option.some.inj h ▸ plain_findValue
  · exact Option.some.inj h ▸ plain_findNode
  · exact Option.some.inj h ▸ plain_ping
  · cases h

/-! ### Renewals -/

/-- A request finds the secrets as they are, or it finds the current one too old and replaces it. -/
lemma refresh_cases (s : ValueService) (now : Nat) :
    (s.mint.isStale now = false ∧ s.refresh now = s) ∨
      (s.mint.isStale now = true ∧ s.refresh now = s.rotate now) := by
  unfold refresh
  cases h : s.mint.isStale now <;> simp

lemma store_refresh (s : ValueService) (now : Nat) : (s.refresh now).store = s.store := by
  rcases s.refresh_cases now with ⟨-, h⟩ | ⟨-, h⟩ <;> rw [h]
  rfl

lemma isStale_iff {m : TokenMint} : m.isStale now = true ↔ m.updated + rotationInterval < now := by
  simp only [TokenMint.isStale, decide_eq_true_eq]
  omega

lemma mint_handle (s : ValueService) (now : Nat) (c : Context) (q : Query) :
    (s.handle now c q).2.mint = (s.refresh now).mint := by
  unfold handle
  dsimp only
  split
  · next handler h => exact (plain_of_handler? h).mint _ _ _
  · rfl

/-- A visit draws no secret and changes none, or it draws one that becomes the current one. -/
lemma visit_cases (s : ValueService) (v : Visit) :
    (s.drawn? v = none ∧ (s.visit v).mint = s.mint ∧
        ∀ now ∈ v.instant?, now ≤ s.mint.updated + rotationInterval) ∨
      ∃ now secret, v.instant? = some now ∧ s.drawn? v = some secret ∧
        s.mint.updated + rotationInterval < now ∧
        (s.visit v).mint = ⟨s.mint.current, secret, now⟩ := by
  cases v with
  | own key => exact .inl ⟨rfl, rfl, nofun⟩
  | request now c q =>
    have hmint : (s.visit (.request now c q)).mint = (s.refresh now).mint := s.mint_handle now c q
    rcases s.refresh_cases now with ⟨hstale, h⟩ | ⟨hstale, h⟩
    · refine .inl ⟨by simp [drawn?, hstale], by rw [hmint, h], fun _ hnow => ?_⟩
      obtain rfl := Option.some.inj hnow
      have hfresh : ¬s.mint.updated + rotationInterval < now := fun hlt => by
        rw [isStale_iff.2 hlt] at hstale
        cases hstale
      exact Nat.le_of_not_lt hfresh
    · refine .inr ⟨now, _, rfl, by rw [drawn?, if_pos hstale], isStale_iff.1 hstale, ?_⟩
      rw [hmint, h]
      rfl

/-- The two secrets that are known are the last two of those that were drawn. -/
lemma secrets_eq_append (s : ValueService) (visits : List Visit) :
    ∃ older, s.secrets visits =
      older ++ [(s.after visits).mint.previous, (s.after visits).mint.current] := by
  induction visits generalizing s with
  | nil => exact ⟨[], rfl⟩
  | cons v visits ih =>
    obtain ⟨older, holder⟩ := ih (s.visit v)
    rcases s.visit_cases v with ⟨hdrawn, hmint, -⟩ | ⟨now, secret, -, hdrawn, -, hmint⟩
    · refine ⟨older, Eq.trans ?_ holder⟩
      simp only [secrets, drawn, hdrawn, hmint, Option.toList_none, List.nil_append]
    · refine ⟨s.mint.previous :: older, ?_⟩
      rw [List.cons_append, after, List.foldl_cons, ← after, ← holder]
      simp only [secrets, drawn, hdrawn, hmint, Option.toList_some, List.singleton_append]

/-- A secret is replaced by the first request that comes more than an interval after it was drawn. -/
lemma drawn_ne_nil (hnow : now ∈ instants visits) (hlate : s.mint.updated + rotationInterval < now) :
    s.drawn visits ≠ [] := by
  induction visits generalizing s with
  | nil => exact absurd hnow List.not_mem_nil
  | cons v visits ih =>
    rw [drawn]
    rcases s.visit_cases v with ⟨hdrawn, hmint, hfresh⟩ | ⟨_, secret, -, hdrawn, -⟩
    · rcases mem_instants_cons.1 hnow with hv | hnow
      · exact absurd hlate (Nat.not_lt_of_le (hfresh now hv))
      · exact List.append_ne_nil_of_right_ne_nil _ (ih hnow (hmint ▸ hlate))
    · rw [hdrawn]
      exact List.cons_ne_nil _ _

/-- The current secret was drawn at the start or when a request arrived. -/
lemma updated_after_le {bound : Nat} (hstart : s.mint.updated ≤ bound)
    (hvisits : ∀ now ∈ instants visits, now ≤ bound) : (s.after visits).mint.updated ≤ bound := by
  induction visits generalizing s with
  | nil => exact hstart
  | cons v visits ih =>
    refine ih ?_ fun now hnow => hvisits now (mem_instants_cons.2 (.inr hnow))
    rcases s.visit_cases v with ⟨-, hmint, -⟩ | ⟨now, secret, hnow, -, -, hmint⟩
    · rwa [hmint]
    · rw [hmint]
      exact hvisits now (mem_instants_cons.2 (.inl hnow))

section Ordered

variable {start : Nat} {v : Visit} {visits' : List Visit}

/-- What comes before a request and what comes after it. -/
lemma Ordered.around (h : Ordered start (visits ++ v :: visits')) (hv : v.instant? = some now) :
    start ≤ now ∧ (∀ earlier ∈ instants visits, earlier ≤ now) ∧
      ∀ later ∈ instants visits', now ≤ later := by
  have hinstants : instants (visits ++ v :: visits') = instants visits ++ now :: instants visits' := by
    rw [instants_append]
    simp [instants, hv]
  obtain ⟨hstart, h⟩ := List.pairwise_cons.1 h
  rw [hinstants] at hstart h
  obtain ⟨-, hlater, hearlier⟩ := List.pairwise_append.1 h
  exact ⟨hstart now (by simp), fun i hi => hearlier i hi now List.mem_cons_self,
    (List.pairwise_cons.1 hlater).1⟩

/-- After a request the current secret is not younger than it. -/
lemma Ordered.updated_le (h : Ordered start (visits ++ v :: visits')) (hv : v.instant? = some now)
    (hs : s.mint.updated ≤ start) : ((s.after visits).visit v).mint.updated ≤ now := by
  obtain ⟨hstart, hearlier, -⟩ := h.around hv
  rw [← after_nil ((s.after visits).visit v), ← after_cons, ← after_append]
  refine updated_after_le (hs.trans hstart) fun i hi => ?_
  rw [instants_append, List.mem_append] at hi
  rcases hi with hi | hi
  · exact hearlier i hi
  · rcases mem_instants_cons.1 hi with hi | hi
    · exact (Option.some.inj (hi.symm.trans hv)).le
    · exact absurd hi List.not_mem_nil

end Ordered

/-! ### Tokens -/

lemma token_of_issues {token : Bytes} (h : s.Issues now c q token) :
    token = (s.visit (.request now c q)).mint.mint c.requester := by
  obtain ⟨payload, hpayload, htoken⟩ := h
  rw [visit, mint_handle]
  unfold handle at hpayload
  dsimp only at hpayload
  split at hpayload
  · next handler hhandler =>
    exact (plain_of_handler? hhandler).token _ _ _ payload token hpayload htoken
  · cases hpayload

/-- Whoever asks for contacts is handed a token. -/
lemma issues_findNode {a : FindNode.Arguments} (hq : q.method = Method.findNode)
    (ha : arguments FindNode.Arguments q.arguments = .ok a) :
    s.Issues now c q ((s.refresh now).mint.mint c.requester) := by
  have hhandler : registry.handler? q.method = some findNode := by
    rw [hq]
    rfl
  refine ⟨_, ?_, getBytes?_token_findNode c.id
    (Contact.compactAll (c.table.closest a.target (s.refresh now).k)) _⟩
  simp only [handle, hhandler, findNode, ha]
  rfl

lemma handle_storeValue (hq : q.method = Method.storeValue) :
    s.handle now c q = storeValue c q.arguments (s.refresh now) := by
  have hhandler : registry.handler? q.method = some storeValue := by
    rw [hq]
    rfl
  simp only [handle, hhandler]

lemma accepts_iff {m : TokenMint} {requester : Address} {token : Bytes} :
    m.accepts requester token = true ↔
      ∃ secret ∈ [m.current, m.previous], tokenOf requester.ip secret = token := by
  simp [TokenMint.accepts, @eq_comm _ token]

/-- The zone of an address makes no difference to its tokens. -/
lemma tokenOf_congr {ip ip' : Ip} (h : ip.octets = ip'.octets) (secret : Bytes) :
    tokenOf ip secret = tokenOf ip' secret := by
  rw [tokenOf, tokenOf, h]

/-! ### A visitor -/

namespace Visitor

def self : Id :=
  ⟨List.replicate 20 7, rfl⟩

/-- Somebody who asks a node without contacts. -/
def context : Context :=
  ⟨⟨.v4 10 0 0 1, 6881⟩, .empty self 20⟩

def server : ValueService :=
  start .standard 0 ⟨fun n => n, 0⟩

/-- The token under the first secret. -/
def token : Bytes :=
  server.mint.mint context.requester

def asking : Query :=
  ⟨Method.findNode, .ofEntries [idEntry self, (Field.target.key, .bytes self.bytes)]⟩

def storing : Query :=
  ⟨Method.storeValue, .ofEntries [idEntry self, (Field.valueKey.key, .bytes self.bytes),
    (Field.value.key, .bytes [1]), (Field.token.key, .bytes token)]⟩

lemma arguments_asking : arguments FindNode.Arguments asking.arguments = .ok ⟨self, self⟩ := by
  decide +kernel

lemma arguments_storing :
    arguments StoreValue.Arguments storing.arguments = .ok ⟨self, self, [1], token⟩ := by
  decide +kernel

/-- The first secret is good until an interval after the start. -/
lemma issues_token (now : Nat) (h : now ≤ rotationInterval) : server.Issues now context asking token := by
  have hissued : server.Issues now context asking ((server.refresh now).mint.mint context.requester) :=
    issues_findNode rfl arguments_asking
  have hfresh : server.refresh now = server := by
    rcases server.refresh_cases now with ⟨-, hs⟩ | ⟨hstale, -⟩
    · exact hs
    · have hlate : 0 + rotationInterval < now := isStale_iff.1 hstale
      omega
  rwa [hfresh] at hissued

end Visitor

/-! ### Tokens that are honoured -/

lemma roomy_visit (h : s.store.Roomy) (v : Visit) : (s.visit v).store.Roomy := by
  cases v with
  | own key => exact h.get s.entropy key 0
  | request now c q =>
    have hrefresh : (s.refresh now).store.Roomy := (s.store_refresh now).symm ▸ h
    show (s.handle now c q).2.store.Roomy
    unfold handle
    dsimp only
    split
    · next handler hhandler => exact (plain_of_handler? hhandler).roomy _ _ _ hrefresh
    · exact hrefresh

lemma roomy_after (h : s.store.Roomy) (visits : List Visit) : (s.after visits).store.Roomy :=
  List.foldlRecOn (motive := fun s : ValueService => s.store.Roomy) visits visit h
    fun _ hs v _ => roomy_visit hs v

/-- A secret that is known, and that stays known for the interval after `t`: it is the current one, or
it was the current one at `t`. -/
def Known (secret : Bytes) (t : Nat) (m : TokenMint) : Prop :=
  m.current = secret ∨ m.previous = secret ∧ t ≤ m.updated

section Known

variable {secret : Bytes} {t : Nat}

/-- Within the interval there is only one renewal. -/
lemma Known.visit {v : Visit} (h : Known secret t s.mint)
    (hv : ∀ now ∈ v.instant?, t ≤ now ∧ now ≤ t + rotationInterval) :
    Known secret t (s.visit v).mint := by
  rcases s.visit_cases v with ⟨-, hmint, -⟩ | ⟨now, fresh, hnow, -, hstale, hmint⟩
  · rwa [hmint]
  · obtain ⟨hle, hwithin⟩ := hv now hnow
    rw [hmint]
    rcases h with h | ⟨-, h⟩
    · exact .inr ⟨h, hle⟩
    · omega

lemma Known.after (h : Known secret t s.mint)
    (hvisits : ∀ now ∈ instants visits, t ≤ now ∧ now ≤ t + rotationInterval) :
    Known secret t (s.after visits).mint := by
  induction visits generalizing s with
  | nil => exact h
  | cons v visits ih =>
    exact ih (h.visit fun now hnow => hvisits now (mem_instants_cons.2 (.inl hnow)))
      fun now hnow => hvisits now (mem_instants_cons.2 (.inr hnow))

lemma Known.accepts {m : TokenMint} (h : Known secret t m) {requester requester' : Address}
    (hip : requester'.ip.octets = requester.ip.octets) :
    m.accepts requester' (tokenOf requester.ip secret) = true := by
  refine accepts_iff.2 ⟨secret, ?_, tokenOf_congr hip secret⟩
  rcases h with h | ⟨h, -⟩ <;> simp [h]

end Known

lemma storeValue_of_accepts {d : Dict} {a : StoreValue.Arguments}
    (ha : arguments StoreValue.Arguments d = .ok a)
    (haccepts : s.mint.accepts c.requester a.token = true) :
    storeValue c d s = (.ok (idDict c.id), { s with store := s.store.insert a.key a.value }) := by
  simp only [storeValue, ha, haccepts, if_true]
  rfl

lemma storeValue_of_not_accepts {d : Dict} {a : StoreValue.Arguments}
    (ha : arguments StoreValue.Arguments d = .ok a)
    (haccepts : s.mint.accepts c.requester a.token = false) :
    storeValue c d s = (.error (.protocol .invalidToken), s) := by
  simp [storeValue, ha, haccepts]

/-- The secret of the tokens handed out at `t` is known to every request until an interval later. -/
lemma known_of_within {start t t' : Nat} {before between : List Visit} {c c' : Context} {q q' : Query}
    (hordered : Ordered start (before ++ .request t c q :: between ++ [.request t' c' q']))
    (hwithin : t' ≤ t + rotationInterval) (s : ValueService) :
    Known ((s.after before).visit (.request t c q)).mint.current t
      ((s.after (before ++ .request t c q :: between)).refresh t').mint := by
  have hlast : (Visit.request t' c' q').instant? = some t' := rfl
  obtain ⟨-, hearlier, -⟩ := Ordered.around hordered hlast
  rw [List.append_assoc, List.cons_append] at hordered
  obtain ⟨-, -, hlater⟩ := hordered.around (v := .request t c q) rfl
  have hinstants : ∀ now ∈ instants (between ++ [.request t' c' q']), now ≤ t' := by
    intro now hnow
    rw [instants_append, List.mem_append] at hnow
    rcases hnow with hnow | hnow
    · exact hearlier now (by simp [instants_append, mem_instants_cons, hnow])
    · exact (List.mem_singleton.1 hnow).le
  have hknown : Known ((s.after before).visit (.request t c q)).mint.current t
      (((s.after before).visit (.request t c q)).after (between ++ [.request t' c' q'])).mint :=
    Known.after (.inl rfl) fun now hnow => ⟨hlater now hnow, (hinstants now hnow).trans hwithin⟩
  simpa only [after_append, after_cons, after_nil, visit, mint_handle] using hknown

/-- For one interval after a token was handed out, whoever has the IP address it was handed out to may
store a value with it, whatever else was asked meanwhile. -/
theorem token_is_honoured {settings : Settings} {entropy : Entropy} {start t t' : Nat}
    {before between : List Visit} {c c' : Context} {q q' : Query} {token : Bytes}
    {a : StoreValue.Arguments}
    (hordered : Ordered start (before ++ .request t c q :: between ++ [.request t' c' q']))
    (hissued : ((ValueService.start settings start entropy).after before).Issues t c q token)
    (hwithin : t' ≤ t + rotationInterval) (hip : c'.requester.ip.octets = c.requester.ip.octets)
    (hq : q'.method = Method.storeValue)
    (ha : arguments StoreValue.Arguments q'.arguments = .ok a) (htoken : a.token = token) :
    let served := ((ValueService.start settings start entropy).after
      (before ++ .request t c q :: between)).handle t' c' q'
    served.1 = .ok (idDict c'.id) ∧ a.value ∈ served.2.store.peek a.key := by
  have hknown := known_of_within hordered hwithin (ValueService.start settings start entropy)
  have haccepts := hknown.accepts hip
  rw [← TokenMint.mint, ← token_of_issues hissued, ← htoken] at haccepts
  have hroomy := roomy_after (s := ValueService.start settings start entropy)
    (Store.Roomy.empty settings.maxKeys settings.maxValues) (before ++ .request t c q :: between)
  rw [handle_storeValue hq, storeValue_of_accepts ha haccepts]
  rw [← store_refresh _ t'] at hroomy
  exact ⟨rfl, hroomy.mem_peek_insert a.key a.value⟩

/-- The token is still good at the end of the interval, though the secret was renewed. -/
theorem token_is_honoured_after_renewal :
    let visits : List Visit := [.request 300000 Visitor.context Visitor.asking,
      .request 300001 Visitor.context Visitor.asking]
    let served := (Visitor.server.after visits).handle 600000 Visitor.context Visitor.storing
    Ordered 0 (visits ++ [.request 600000 Visitor.context Visitor.storing]) ∧
      Visitor.server.Issues 300000 Visitor.context Visitor.asking Visitor.token ∧
      (Visitor.server.after visits).mint.current ≠ Visitor.server.mint.current ∧
      served.1 = .ok (idDict Visitor.context.id) ∧ [1] ∈ served.2.store.peek Visitor.self := by
  have hordered : Ordered 0 ([] ++ [.request 300000 Visitor.context Visitor.asking,
      .request 300001 Visitor.context Visitor.asking] ++
      [.request 600000 Visitor.context Visitor.storing]) := by decide
  have hissued : ((start .standard 0 ⟨fun n => n, 0⟩).after []).Issues 300000 Visitor.context
      Visitor.asking Visitor.token := Visitor.issues_token 300000 (by decide)
  have hwithin : 600000 ≤ 300000 + rotationInterval := by decide
  have hstored := token_is_honoured hordered hissued hwithin rfl rfl Visitor.arguments_storing rfl
  dsimp only [List.nil_append] at hstored
  rw [← Visitor.server] at hstored
  exact ⟨hordered, hissued, by decide +kernel, hstored⟩

/-! ### Tokens that are refused -/

/-- After two renewals neither of the secrets that are known is from before them. -/
lemma mem_drawn_of_two_le (h : 2 ≤ (s.drawn visits).length) :
    (s.after visits).mint.previous ∈ s.drawn visits ∧
      (s.after visits).mint.current ∈ s.drawn visits := by
  obtain ⟨older, holder⟩ := s.secrets_eq_append visits
  match older, holder with
  | [], holder =>
    have hlength := congrArg List.length holder
    simp only [secrets, List.length_cons, List.length_append, List.length_nil] at hlength
    omega
  | [_], holder =>
    have hlength := congrArg List.length holder
    simp only [secrets, List.length_cons, List.length_append, List.length_nil] at hlength
    omega
  | _ :: _ :: older, holder =>
    have hdrawn := List.tail_eq_of_cons_eq (List.tail_eq_of_cons_eq holder)
    simp [hdrawn]

/-- Of a request more than an interval after `t` and another one more than an interval after that, each
renews the secrets, if nobody did so before. -/
lemma two_le_length_drawn {start t r t' : Nat} {before between : List Visit} {c c' : Context}
    {q q' : Query} (hs : s.mint.updated ≤ start)
    (hordered : Ordered start (before ++ .request t c q :: between ++ [.request t' c' q']))
    (hr : r ∈ instants between) (htr : t + rotationInterval < r) (hrt : r + rotationInterval < t') :
    2 ≤ (((s.after before).visit (.request t c q)).drawn
      (between ++ [.request t' c' q'])).length := by
  obtain ⟨v, hv, hinstant⟩ := List.mem_filterMap.1 hr
  obtain ⟨sooner, rest, rfl⟩ := List.append_of_mem hv
  set handed := (s.after before).visit (.request t c q) with hhanded
  have hupdated : handed.mint.updated ≤ t := by
    rw [List.append_assoc, List.cons_append] at hordered
    exact hordered.updated_le rfl hs
  have hrenewed : ((handed.after sooner).visit v).mint.updated ≤ r := by
    have hsplit : before ++ Visit.request t c q :: (sooner ++ v :: rest) ++ [.request t' c' q'] =
        (before ++ .request t c q :: sooner) ++ v :: (rest ++ [.request t' c' q']) := by simp
    rw [hsplit] at hordered
    simpa [hhanded] using hordered.updated_le hinstant hs
  have hfirst : handed.drawn (sooner ++ [v]) ≠ [] := by
    have hlate : handed.mint.updated + rotationInterval < r := by omega
    refine drawn_ne_nil ?_ hlate
    simp [instants_append, mem_instants_cons, hinstant]
  have hsecond : ((handed.after sooner).visit v).drawn (rest ++ [.request t' c' q']) ≠ [] := by
    have hlate : ((handed.after sooner).visit v).mint.updated + rotationInterval < t' := by omega
    refine drawn_ne_nil ?_ hlate
    simp [instants_append, mem_instants_cons, Visit.instant?]
  have hsplit : sooner ++ v :: rest ++ [.request t' c' q'] =
      (sooner ++ [v]) ++ (rest ++ [.request t' c' q']) := by simp
  rw [hsplit, drawn_append, List.length_append, after_append, after_cons, after_nil]
  have hfirst := List.length_pos_of_ne_nil hfirst
  have hsecond := List.length_pos_of_ne_nil hsecond
  omega

/-- Then neither of the secrets that are known is the one of `t`. -/
lemma ne_of_two_le {t t' : Nat} {before between : List Visit} {c c' : Context} {q q' : Query}
    (hsecrets : (s.secrets (before ++ .request t c q :: between ++ [.request t' c' q'])).Nodup)
    (htwo : 2 ≤ (((s.after before).visit (.request t c q)).drawn
      (between ++ [.request t' c' q'])).length) :
    ∀ secret ∈ [((s.after (before ++ .request t c q :: between)).refresh t').mint.current,
        ((s.after (before ++ .request t c q :: between)).refresh t').mint.previous],
      secret ≠ ((s.after before).visit (.request t c q)).mint.current := by
  set handed := (s.after before).visit (.request t c q) with hhanded
  have hdrawn : handed.mint.current ∉ handed.drawn (between ++ [.request t' c' q']) := by
    have hsplit : before ++ Visit.request t c q :: between ++ [.request t' c' q'] =
        (before ++ [.request t c q]) ++ (between ++ [.request t' c' q']) := by simp
    rw [hsplit, secrets_append] at hsecrets
    obtain ⟨older, holder⟩ := s.secrets_eq_append (before ++ [.request t c q])
    simp only [after_append, after_cons, after_nil, ← hhanded] at holder hsecrets
    refine fun hmem => (List.nodup_append.1 hsecrets).2.2 handed.mint.current ?_ _ hmem rfl
    rw [holder]
    simp
  have hknown : (handed.after (between ++ [.request t' c' q'])).mint =
      ((s.after (before ++ .request t c q :: between)).refresh t').mint := by
    simp only [hhanded, after_append, after_cons, after_nil, visit, mint_handle]
  obtain ⟨hprevious, hcurrent⟩ := mem_drawn_of_two_le htwo
  rw [hknown] at hprevious hcurrent
  intro secret hsecret heq
  rcases List.mem_cons.1 hsecret with rfl | hsecret
  · exact hdrawn (heq ▸ hcurrent)
  · obtain rfl := List.mem_singleton.1 hsecret
    exact hdrawn (heq ▸ hprevious)

/-- A token is refused after two more requests, the first of them more than an interval after it was
handed out and the other one more than an interval later. Neither of the secrets that are known then
is the one it was made with, so it could only be taken for the token of another secret. -/
theorem token_expires {settings : Settings} {entropy : Entropy} {start t t' : Nat}
    {before between : List Visit} {c c' : Context} {q q' : Query} {token : Bytes}
    (hordered : Ordered start (before ++ .request t c q :: between ++ [.request t' c' q']))
    (hsecrets : ((ValueService.start settings start entropy).secrets
      (before ++ .request t c q :: between ++ [.request t' c' q'])).Nodup)
    (hissued : ((ValueService.start settings start entropy).after before).Issues t c q token)
    (hpace : ∃ r ∈ instants between, t + rotationInterval < r ∧ r + rotationInterval < t') :
    let handed := ((ValueService.start settings start entropy).after before).visit (.request t c q)
    let asked := (ValueService.start settings start entropy).after (before ++ .request t c q :: between)
    let known := [(asked.refresh t').mint.current, (asked.refresh t').mint.previous]
    token = tokenOf c.requester.ip handed.mint.current ∧
      (∀ secret ∈ known, secret ≠ handed.mint.current) ∧
      ∀ a, q'.method = Method.storeValue → arguments StoreValue.Arguments q'.arguments = .ok a →
        a.token = token →
          asked.handle t' c' q' = (.error (.protocol .invalidToken), asked.refresh t') ∨
          ∃ secret ∈ known, secret ≠ handed.mint.current ∧ tokenOf c'.requester.ip secret = token := by
  intro handed asked known
  obtain ⟨r, hr, htr, hrt⟩ := hpace
  have htwo := two_le_length_drawn (s := ValueService.start settings start entropy) (Nat.le_refl _)
    hordered hr htr hrt
  have hne := ne_of_two_le hsecrets htwo
  refine ⟨token_of_issues hissued, hne, fun a hq ha htoken => ?_⟩
  rw [handle_storeValue hq]
  cases haccepts : (asked.refresh t').mint.accepts c'.requester a.token with
  | false => exact .inl (storeValue_of_not_accepts ha haccepts)
  | true =>
    obtain ⟨secret, hsecret, heq⟩ := accepts_iff.1 haccepts
    exact .inr ⟨secret, hsecret, hne secret hsecret, heq.trans htoken⟩

/-- The secret was renewed before each of the last two requests, so that the token is not good any more. -/
theorem token_expires_of_two_renewals :
    let between : List Visit := [.request 300001 Visitor.context Visitor.asking]
    let visits : List Visit := .request 0 Visitor.context Visitor.asking :: between
    let asked := Visitor.server.after visits
    Ordered 0 (visits ++ [.request 600002 Visitor.context Visitor.storing]) ∧
      (Visitor.server.secrets (visits ++ [.request 600002 Visitor.context Visitor.storing])).Nodup ∧
      Visitor.server.Issues 0 Visitor.context Visitor.asking Visitor.token ∧
      asked.handle 600002 Visitor.context Visitor.storing =
        (.error (.protocol .invalidToken), asked.refresh 600002) := by
  intro between visits asked
  have hordered : Ordered 0 ([] ++ visits ++ [.request 600002 Visitor.context Visitor.storing]) := by
    decide
  have hsecrets : (Visitor.server.secrets
      ([] ++ visits ++ [.request 600002 Visitor.context Visitor.storing])).Nodup := by decide +kernel
  have hissued : ((start .standard 0 ⟨fun n => n, 0⟩).after []).Issues 0 Visitor.context
      Visitor.asking Visitor.token := Visitor.issues_token 0 (by decide)
  obtain ⟨-, -, hrefused⟩ :=
    token_expires hordered hsecrets hissued ⟨300001, by decide, by decide, by decide⟩
  have hdistinct : ∀ secret ∈ [(asked.refresh 600002).mint.current, (asked.refresh 600002).mint.previous],
      tokenOf Visitor.context.requester.ip secret ≠ Visitor.token := by decide +kernel
  refine ⟨hordered, hsecrets, hissued, ?_⟩
  rcases hrefused _ rfl Visitor.arguments_storing rfl with h | ⟨secret, hsecret, -, htoken⟩
  · exact h
  · exact absurd htoken (hdistinct secret hsecret)

/-- When nobody asks anything for four intervals, the next request makes the only renewal, and a token
from the start is still taken. -/
theorem token_outlives_silence :
    let asked := Visitor.server.visit (.request 0 Visitor.context Visitor.asking)
    let visits : List Visit := [.request 0 Visitor.context Visitor.asking,
      .request (4 * rotationInterval) Visitor.context Visitor.storing]
    Ordered 0 visits ∧ (Visitor.server.secrets visits).Nodup ∧
      Visitor.server.Issues 0 Visitor.context Visitor.asking Visitor.token ∧
      0 + 2 * rotationInterval < 4 * rotationInterval ∧
      (asked.refresh (4 * rotationInterval)).mint.previous = asked.mint.current ∧
      (asked.handle (4 * rotationInterval) Visitor.context Visitor.storing).1 =
        .ok (idDict Visitor.context.id) := by
  intro asked visits
  refine ⟨by decide, by decide +kernel, Visitor.issues_token 0 (by decide), by decide, by decide +kernel, ?_⟩
  rw [handle_storeValue rfl]
  exact congrArg Prod.fst (storeValue_of_accepts Visitor.arguments_storing (by decide +kernel))

end ValueService

end Kademlia.Service
