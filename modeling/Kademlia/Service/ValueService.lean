import Kademlia.Service.Registry
import Kademlia.Storage.Store
import Kademlia.Storage.TokenMint
/-!
# The value service

Answers the five verbs from a routing table and a value store. Closest contacts and counts come
with a write token for the requester; a value is stored only for a token that is still accepted.
The secret of the tokens is renewed before a request once it is too old. It is one of the servers that
a host may have; any other one answers requests and holds values in the same way.
-/

namespace Kademlia.Service

open Bencode Wire Storage

/-- The bounds of a value service. -/
structure Settings where
  maxKeys : Nat
  maxValues : Nat
  /-- How many contacts it lists. -/
  k : Nat
  deriving DecidableEq, Repr

/-- The bounds when nothing else is asked for. -/
def Settings.standard : Settings :=
  ⟨2000, 100, Routing.defaultBucketSize⟩

/-- The state of a value service. -/
structure ValueService where
  mint : TokenMint
  store : Store
  k : Nat
  entropy : Entropy

namespace ValueService

/-- A service without values that starts at `now`. -/
def start (settings : Settings) (now : Nat) (entropy : Entropy) : ValueService :=
  let (previous, entropy) := entropy.nextBytes secretSize
  let (current, entropy) := entropy.nextBytes secretSize
  { mint := ⟨previous, current, now⟩
    store := .empty settings.maxKeys settings.maxValues
    k := settings.k
    entropy }

/-- Renew the secret of the tokens. -/
def rotate (s : ValueService) (now : Nat) : ValueService :=
  let (secret, entropy) := s.entropy.nextBytes secretSize
  { s with mint := s.mint.rotate now secret, entropy }

/-- Renew the secret of the tokens if it is too old. -/
def refresh (s : ValueService) (now : Nat) : ValueService :=
  if s.mint.isStale now then s.rotate now else s

/-- Say that the node is there. -/
def ping : Handler ValueService := fun c _ s =>
  (answer (Ping.Answer.mk c.id), s)

/-- List the contacts closest to a target. -/
def findNode : Handler ValueService := fun c d s =>
  match arguments FindNode.Arguments d with
  | .error e => (.error e, s)
  | .ok a =>
    (answer (FindNode.Answer.mk c.id (c.table.closest a.target s.k) (s.mint.mint c.requester)), s)

/-- List the contacts closest to a key, and say how many values it has here. -/
def findValue : Handler ValueService := fun c d s =>
  match arguments FindValue.Arguments d with
  | .error e => (.error e, s)
  | .ok a =>
    (answer (FindValue.Answer.mk c.id (c.table.closest a.key s.k) (s.mint.mint c.requester)
      (s.store.count a.key)), s)

/-- Give values of a key. -/
def getValue : Handler ValueService := fun c d s =>
  match arguments GetValue.Arguments d with
  | .error e => (.error e, s)
  | .ok a =>
    let (values, store, entropy) := s.store.get s.entropy a.key a.num
    (answer (GetValue.Answer.mk c.id values), { s with store, entropy })

/-- Store a value for a token that is accepted. -/
def storeValue : Handler ValueService := fun c d s =>
  match arguments StoreValue.Arguments d with
  | .error e => (.error e, s)
  | .ok a =>
    if s.mint.accepts c.requester a.token then
      (answer (StoreValue.Answer.mk c.id), { s with store := s.store.insert a.key a.value })
    else (.error (.protocol .invalidToken), s)

/-- The handlers of the five verbs. -/
def registry : Registry ValueService :=
  Registry.empty
    |>.register Method.ping ping
    |>.register Method.findNode findNode
    |>.register Method.findValue findValue
    |>.register Method.getValue getValue
    |>.register Method.storeValue storeValue

/-- Answer a request that arrives at `now`. -/
def handle (s : ValueService) (now : Nat) (c : Context) (q : Query) : Answer × ValueService :=
  let s := s.refresh now
  match registry.handler? q.method with
  | some handler => handler c q.arguments s
  | none => (.error (.protocol (.methodUnknown q.method)), s)

/-- The values held for a key, which uses the key. -/
def localValues (s : ValueService) (key : Id) : List Bytes × ValueService :=
  let (values, store, entropy) := s.store.get s.entropy key 0
  (values, { s with store, entropy })

end ValueService

/-! ### Servers

Whatever answers the requests that reach a host. Besides that it may hold values of its own, which
a lookup for values starts with.
-/

/-- States that answer requests and hold values. -/
class Server (σ : Type) where
  /-- Answer a request, when the clock of the server shows `now`. -/
  handle (now : Nat) (context : Context) (query : Query) (state : σ) : Answer × σ
  /-- The values held for a key. -/
  localValues (key : Id) (state : σ) : List Bytes × σ

instance : Server ValueService where
  handle now context query state := state.handle now context query
  localValues key state := state.localValues key

/-- A server of either of two kinds. -/
instance {σ τ : Type} [Server σ] [Server τ] : Server (σ ⊕ τ) where
  handle now context query
    | .inl state => (Server.handle now context query state).map id .inl
    | .inr state => (Server.handle now context query state).map id .inr
  localValues key
    | .inl state => (Server.localValues key state).map id .inl
    | .inr state => (Server.localValues key state).map id .inr

end Kademlia.Service
