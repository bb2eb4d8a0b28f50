import Kademlia.Service.Handler
import Kademlia.Text.Literal
import Kademlia.Wire.Request
/-!
# Method registries

Handlers by the name of their method; a later handler for the same method replaces the earlier.
-/

namespace Kademlia.Service

open Wire

/-- Handlers over a state `σ` by method. -/
structure Registry (σ : Type) where
  handlers : List (String × Handler σ)

/-- The methods every node has to answer. -/
def requiredMethods : List String :=
  [Method.ping, Method.findNode, Method.findValue, Method.getValue, Method.storeValue]

/-- Methods that have no handler. -/
structure MissingHandlers where
  methods : List String
  deriving DecidableEq, Repr

/-- The text of the missing methods. -/
def MissingHandlers.message (e : MissingHandlers) : String :=
  s!"Missing handlers for methods: {Literal.quoteList e.methods}"

namespace Registry

variable {σ : Type}

/-- No handler. -/
def empty : Registry σ :=
  ⟨[]⟩

/-- Give a method a handler. -/
def register (r : Registry σ) (method : String) (handler : Handler σ) : Registry σ :=
  ⟨(method, handler) :: r.handlers.filter fun h => h.1 ≠ method⟩

/-- The handler of a method. -/
def handler? (r : Registry σ) (method : String) : Option (Handler σ) :=
  (r.handlers.find? fun h => h.1 = method).map (·.2)

/-- Check that all required methods have a handler. -/
def validate (r : Registry σ) (required : List String) : Except MissingHandlers Unit :=
  match required.filter fun method => (r.handler? method).isNone with
  | [] => .ok ()
  | missing => .error ⟨missing⟩

/-- The methods in ascending order. -/
def methods (r : Registry σ) : List String :=
  (r.handlers.map (·.1)).mergeSort fun a b => !decide (b < a)

/-- The text of a registry. -/
def text (r : Registry σ) : String :=
  "MethodRegistry \x7b methods: " ++ Literal.quoteList r.methods ++ " \x7d"

end Registry

end Kademlia.Service
