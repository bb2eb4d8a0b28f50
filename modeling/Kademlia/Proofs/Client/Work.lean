import Kademlia.Client.Step
import Kademlia.Proofs.Host.Allotment
import Mathlib.Data.List.Infix

/-!
# What the work of a client leaves alone

Whatever a client and its host do, no channel is given out twice, the commands that wait go on
waiting, and no outcome is taken back.
-/

namespace Kademlia

open Wire Exchange Service

variable {σ : Type}

namespace Client

/-- Does a client leave alone the commands that wait, the channels that were given out and the
outcomes that were put on them when it becomes another one? -/
structure Extends (c c' : Client σ) : Prop where
  queue : c'.queue = c.queue
  ended : c'.ended = c.ended
  channels : c.host.nextChannel ≤ c'.host.nextChannel
  outcomes : c.outcomes <+: c'.outcomes

lemma Extends.trans {c c' c'' : Client σ} (h : c.Extends c') (h' : c'.Extends c'') :
    c.Extends c'' :=
  ⟨h'.queue.trans h.queue, h'.ended.trans h.ended, h.channels.trans h'.channels,
    h.outcomes.trans h'.outcomes⟩

/-- A client whose host goes on extends itself if its host gives out no channel twice. -/
lemma extends_host (c : Client σ) {host : Host σ} (hchannels : c.host.nextChannel ≤ host.nextChannel) :
    c.Extends { c with host } :=
  ⟨rfl, rfl, hchannels, List.prefix_refl _⟩

variable [Server σ]

lemma extends_perform (c : Client σ) (transport : Transport) (waiter : Host.Channel)
    (command : Command) : c.Extends (c.perform transport waiter command) := by
  have hchain (first next : Lookup.Goal) : c.Extends (c.chain transport first next waiter) :=
    ⟨rfl, rfl,
      (Nat.le_succ _).trans (Host.nextChannel_lookUp c.host.openChannel.2 transport first _).ge,
      List.prefix_refl _⟩
  cases command with
  | info => exact ⟨rfl, rfl, le_rfl, List.prefix_append ..⟩
  | contacts => exact ⟨rfl, rfl, le_rfl, List.prefix_append ..⟩
  | awaitBootstrap => exact ⟨rfl, rfl, le_rfl, List.prefix_refl _⟩
  | ping address => exact c.extends_host le_rfl
  | lookUp goal => exact c.extends_host (Host.nextChannel_lookUp _ transport goal waiter).ge
  | fetch key count => exact hchain _ _
  | store key value => exact hchain _ _
  | shutdown => exact c.extends_host le_rfl

lemma extends_continueChain (c : Client σ) (transport : Transport) (chain : Chain) :
    c.Extends (c.continueChain transport chain) := by
  unfold continueChain
  split
  · next h =>
    have hhost := congrArg (fun taken : _ × Host σ => taken.2.nextChannel) h
    exact c.extends_host (hhost.trans (Host.nextChannel_start _ transport _ _ _).symm).le
  · next h =>
    have hhost := congrArg (fun taken : _ × Host σ => taken.2.nextChannel) h
    exact ⟨rfl, rfl, hhost.le, List.prefix_refl _⟩

lemma extends_continueChains (c : Client σ) (transport : Transport) :
    c.Extends (c.continueChains transport) := by
  have hfold (chains : List Chain) (c : Client σ) :
      c.Extends (chains.foldl (fun c chain => c.continueChain transport chain) c) := by
    induction chains generalizing c with
    | nil => exact c.extends_host le_rfl
    | cons chain chains ih => exact (c.extends_continueChain transport chain).trans (ih _)
  obtain ⟨hqueue, hended, hchannels, houtcomes⟩ := hfold c.chains { c with chains := [] }
  exact ⟨hqueue, hended, hchannels, houtcomes⟩

omit [Server σ] in
lemma extends_answerAwaiting (c : Client σ) : c.Extends c.answerAwaiting := by
  unfold answerAwaiting
  dsimp only
  split
  · exact ⟨rfl, rfl, le_rfl, List.prefix_append ..⟩
  · exact c.extends_host le_rfl

end Client

end Kademlia
