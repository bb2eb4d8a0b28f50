import Kademlia.Proofs.Service.Tokens
import Kademlia.Proofs.Storage.Reading

/-!
# What changes the values

Of the five verbs only one writes, and only for a token that is accepted. The others leave the values of
every key alone, though a read may change which key a later write drops. A request that is refused leaves
the whole store alone, the order of its keys included.
-/

namespace Kademlia.Service

open Bencode Wire Storage

namespace ValueService

variable {s : ValueService} {now : Nat} {c : Context} {q : Query}

/-! ### Handlers that do not write -/

/-- A handler that changes the values of no key, and leaves the store alone where it refuses. -/
structure Reading (handler : Handler ValueService) : Prop where
  fits : ∀ c d s, s.store.keys.Fits → (handler c d s).2.store.keys.Fits
  peek : ∀ c d s, s.store.keys.Fits → ∀ key, (handler c d s).2.store.peek key = s.store.peek key
  refused : ∀ c d s e, (handler c d s).1 = .error e → (handler c d s).2.store = s.store

/-- A handler that leaves the store alone. -/
lemma Reading.of_store {handler : Handler ValueService}
    (h : ∀ c d s, (handler c d s).2.store = s.store) : Reading handler where
  fits c d s hs := (h c d s).symm ▸ hs
  peek c d s _ key := by rw [h]
  refused c d s _ _ := h c d s

lemma reading_ping : Reading ping :=
  .of_store fun _ _ _ => rfl

lemma reading_findNode : Reading findNode :=
  .of_store fun c d s => by
    unfold findNode
    split <;> rfl

lemma reading_findValue : Reading findValue :=
  .of_store fun c d s => by
    unfold findValue
    split <;> rfl

lemma getValue_of_arguments {d : Dict} {a : GetValue.Arguments}
    (ha : arguments GetValue.Arguments d = .ok a) :
    (getValue c d s).1 = answer (GetValue.Answer.mk c.id (s.store.get s.entropy a.key a.num).1) ∧
      (getValue c d s).2.store = (s.store.get s.entropy a.key a.num).2.1 := by
  simp only [getValue, ha, and_self]

lemma getValue_of_error {d : Dict} {e : HandlerError}
    (ha : arguments GetValue.Arguments d = .error e) : getValue c d s = (.error e, s) := by
  simp only [getValue, ha]

/-- A read uses its key. It is never refused once its arguments are understood. -/
lemma reading_getValue : Reading getValue where
  fits c d s h := by
    cases ha : arguments GetValue.Arguments d with
    | error e => rwa [getValue_of_error ha]
    | ok a =>
      rw [(getValue_of_arguments ha).2]
      exact Store.fits_get h _ _ _
  peek c d s h key := by
    cases ha : arguments GetValue.Arguments d with
    | error e => rw [getValue_of_error ha]
    | ok a =>
      rw [(getValue_of_arguments ha).2]
      exact Store.peek_get h _ _ _ key
  refused c d s e h := by
    cases ha : arguments GetValue.Arguments d with
    | error e => rw [getValue_of_error ha]
    | ok a =>
      rw [(getValue_of_arguments ha).1] at h
      cases h

lemma reading_of_handler? {method : String} {handler : Handler ValueService}
    (h : registry.handler? method = some handler) (hmethod : method ≠ Method.storeValue) :
    Reading handler := by
  simp only [registry, Registry.handler?_register, if_neg hmethod.symm] at h
  split_ifs at h
  · exact Option.some.inj h ▸ reading_getValue
  · exact Option.some.inj h ▸ reading_findValue
  · exact Option.some.inj h ▸ reading_findNode
  · exact Option.some.inj h ▸ reading_ping
  · cases h

/-! ### Writing -/

/-- A value is stored for an accepted token, or the request is refused and nothing is done. -/
lemma storeValue_cases (c : Context) (d : Dict) (s : ValueService) :
    (∃ a, arguments StoreValue.Arguments d = .ok a ∧ s.mint.accepts c.requester a.token = true ∧
        storeValue c d s =
          (.ok (idDict c.id), { s with store := s.store.insert a.key a.value })) ∨
      ∃ e, storeValue c d s = (.error e, s) := by
  cases ha : arguments StoreValue.Arguments d with
  | error e => exact .inr ⟨e, by simp only [storeValue, ha]⟩
  | ok a =>
    cases haccepts : s.mint.accepts c.requester a.token with
    | true => exact .inl ⟨a, rfl, haccepts, storeValue_of_accepts ha haccepts⟩
    | false => exact .inr ⟨_, storeValue_of_not_accepts ha haccepts⟩

/-- A request to store a value is answered with success. -/
def Writes (s : ValueService) (now : Nat) (c : Context) (q : Query) : Prop :=
  q.method = Method.storeValue ∧ ∃ payload, (s.handle now c q).1 = .ok payload

/-- What it takes to store a value, and what is held afterwards. -/
lemma Writes.exists_arguments (h : s.Writes now c q) :
    ∃ a, arguments StoreValue.Arguments q.arguments = .ok a ∧
      (s.refresh now).mint.accepts c.requester a.token = true ∧
      (s.handle now c q).2.store = s.store.insert a.key a.value := by
  obtain ⟨hmethod, payload, hpayload⟩ := h
  rw [handle_storeValue hmethod] at hpayload ⊢
  rcases storeValue_cases c q.arguments (s.refresh now) with ⟨a, ha, haccepts, hs⟩ | ⟨e, hs⟩
  · refine ⟨a, ha, haccepts, ?_⟩
    rw [hs, ← s.store_refresh now]
  · rw [hs] at hpayload
    cases hpayload

/-- What a request does that stores no value: it leaves the values of every key, and the whole store where
it is refused. -/
lemma handle_of_not_writes (hfits : s.store.keys.Fits) (h : ¬s.Writes now c q) :
    (s.handle now c q).2.store.keys.Fits ∧
      (∀ key, (s.handle now c q).2.store.peek key = s.store.peek key) ∧
      ∀ e, (s.handle now c q).1 = .error e → (s.handle now c q).2.store = s.store := by
  by_cases hmethod : q.method = Method.storeValue
  · have hnone : ¬∃ payload, (s.handle now c q).1 = .ok payload := fun hok => h ⟨hmethod, hok⟩
    rw [handle_storeValue hmethod] at hnone ⊢
    rcases storeValue_cases c q.arguments (s.refresh now) with ⟨a, -, -, hs⟩ | ⟨e, hs⟩
    · exact absurd ⟨_, congrArg Prod.fst hs⟩ hnone
    · simp only [hs, store_refresh]
      exact ⟨hfits, fun _ => trivial, fun _ _ => trivial⟩
  · rw [← s.store_refresh now] at hfits ⊢
    unfold handle
    dsimp only
    split
    · next handler hhandler =>
      have hreading := reading_of_handler? hhandler hmethod
      exact ⟨hreading.fits _ _ _ hfits, hreading.peek _ _ _ hfits, hreading.refused _ _ _⟩
    · exact ⟨hfits, fun _ => rfl, fun _ _ => rfl⟩

lemma fits_handle (h : s.store.keys.Fits) (now : Nat) (c : Context) (q : Query) :
    (s.handle now c q).2.store.keys.Fits := by
  by_cases hwrites : s.Writes now c q
  · obtain ⟨a, -, -, hstore⟩ := hwrites.exists_arguments
    rw [hstore]
    exact s.store.fits_insert a.key a.value
  · exact (handle_of_not_writes h hwrites).1

lemma fits_visit (h : s.store.keys.Fits) (v : Visit) : (s.visit v).store.keys.Fits := by
  cases v with
  | own key => exact Store.fits_get h s.entropy key 0
  | request now c q => exact fits_handle h now c q

lemma fits_after (h : s.store.keys.Fits) (visits : List Visit) :
    (s.after visits).store.keys.Fits :=
  List.foldlRecOn (motive := fun s : ValueService => s.store.keys.Fits) visits visit h
    fun _ hs v _ => fits_visit hs v

/-- Visits that change the values of a key store a value, under that key or another one. -/
lemma exists_writes_of_ne {visits : List Visit} {key : Id} (hfits : s.store.keys.Fits)
    (h : (s.after visits).store.peek key ≠ s.store.peek key) :
    ∃ before now c q later, visits = before ++ .request now c q :: later ∧
      (s.after before).Writes now c q := by
  induction visits generalizing s with
  | nil => exact absurd rfl h
  | cons v visits ih =>
    by_cases hkept : (s.visit v).store.peek key = s.store.peek key
    · rw [after_cons, ← hkept] at h
      obtain ⟨before, now, c, q, later, rfl, hwrites⟩ := ih (fits_visit hfits v) h
      exact ⟨v :: before, now, c, q, later, rfl, hwrites⟩
    · cases v with
      | own read => exact absurd (Store.peek_get hfits s.entropy read 0 key) hkept
      | request now c q =>
        have hwrites : s.Writes now c q := by
          by_contra hnot
          exact hkept ((handle_of_not_writes hfits hnot).2.1 key)
        exact ⟨[], now, c, q, visits, rfl, hwrites⟩

/-! ### Values that are given -/

/-- A value is among those that are given for a key, to the node itself and to whoever asks for all. -/
structure Gives (s : ValueService) (key : Id) (value : Bytes) : Prop where
  own : value ∈ (s.localValues key).1
  request : ∀ now c q a, q.method = Method.getValue →
    arguments GetValue.Arguments q.arguments = .ok a → a.key = key →
    a.num = 0 ∨ s.store.count key ≤ a.num →
    ∃ values, (s.handle now c q).1 = answer (GetValue.Answer.mk c.id values) ∧ value ∈ values

lemma gives_of_mem_peek {key : Id} {value : Bytes} (h : value ∈ s.store.peek key) :
    s.Gives key value where
  own := by
    have hall : (s.store.get s.entropy key 0).1 = s.store.peek key := Store.fst_get_of_all (.inl rfl)
    exact hall ▸ h
  request now c q a hmethod ha hkey hnum := by
    have hhandler : registry.handler? q.method = some getValue := by
      rw [hmethod]
      rfl
    have hanswer : (s.handle now c q).1 = (getValue c q.arguments (s.refresh now)).1 := by
      simp only [handle, hhandler]
    refine ⟨_, hanswer.trans (getValue_of_arguments ha).1, ?_⟩
    rw [store_refresh, hkey, Store.fst_get_of_all hnum]
    exact h

/-- Only a token that is accepted changes what is stored. Whatever a service was asked before, the values
of a key change only over requests of which one stores a value. For that a request needs a token that
fits the address it comes from and one of the two secrets that are known, and then its value is given
under its key. A request that is answered with an error leaves the store as it was. -/
theorem only_writes_change_values (settings : Settings) (entropy : Entropy) (start : Nat)
    (visits : List Visit) :
    let s := (ValueService.start settings start entropy).after visits
    (∀ later key, (s.after later).store.peek key ≠ s.store.peek key →
        ∃ before now c q rest, later = before ++ .request now c q :: rest ∧
          (s.after before).Writes now c q) ∧
      (∀ now c q, s.Writes now c q →
        ∃ a, arguments StoreValue.Arguments q.arguments = .ok a ∧
          (∃ secret ∈ [(s.handle now c q).2.mint.current, (s.handle now c q).2.mint.previous],
            tokenOf c.requester.ip secret = a.token) ∧
          (s.handle now c q).2.store = s.store.insert a.key a.value ∧
          a.value ∈ (s.handle now c q).2.store.peek a.key ∧
          (s.handle now c q).2.Gives a.key a.value) ∧
      ∀ now c q e, (s.handle now c q).1 = .error e → (s.handle now c q).2.store = s.store := by
  intro s
  have hfits : s.store.keys.Fits := fits_after (Nat.zero_le _) visits
  have hroomy : s.store.Roomy :=
    roomy_after (Store.Roomy.empty settings.maxKeys settings.maxValues) visits
  refine ⟨fun later key h => exists_writes_of_ne hfits h, fun now c q h => ?_, fun now c q e he => ?_⟩
  · obtain ⟨a, ha, haccepts, hstore⟩ := h.exists_arguments
    have hheld : a.value ∈ (s.handle now c q).2.store.peek a.key := by
      rw [hstore]
      exact hroomy.mem_peek_insert a.key a.value
    rw [← s.mint_handle now c q] at haccepts
    exact ⟨a, ha, accepts_iff.1 haccepts, hstore, hheld, gives_of_mem_peek hheld⟩
  · have hnot : ¬s.Writes now c q := by
      rintro ⟨-, payload, hok⟩
      rw [he] at hok
      cases hok
    exact (handle_of_not_writes hfits hnot).2.2 e he

/-- Storing a value for the only key there may be drops the values of the key before it. -/
example :
    let s := start ⟨1, 1, 20⟩ 0 ⟨fun n => n, 0⟩
    let elsewhere : Id := ⟨List.replicate 20 9, rfl⟩
    let held := { s with store := s.store.insert elsewhere [2] }
    let served := held.handle 0 Visitor.context Visitor.storing
    held.store.peek elsewhere = [[2]] ∧ served.2.store.peek Visitor.self = [[1]] ∧
      served.2.store.peek elsewhere = [] := by
  decide +kernel

end ValueService

end Kademlia.Service
