import Kademlia.Host.Tick
import Mathlib.Data.List.Infix

/-!
# How channels are given out

A host gives out one channel after another. A ping and a lookup of its user get one each, the bootstrap
gets one once, and nothing else gives out any.
-/

namespace Kademlia.Host

open Wire Exchange Service

variable {σ : Type}

lemma nextChannel_settleProbe (h : Host σ) (p : Probe) (result : Except CallError Ping.Answer) :
    (h.settleProbe p result).nextChannel = h.nextChannel := by
  unfold settleProbe deliver
  dsimp only
  split <;> split <;> rfl

lemma nextChannel_sweepProbes (h : Host σ) (kept rest : List Probe) :
    (h.sweepProbes kept rest).nextChannel = h.nextChannel := by
  fun_induction sweepProbes h kept rest with
  | case1 h kept => rfl
  | case2 h kept p ps multiplexer _ ih => exact ih
  | case3 h kept p ps result multiplexer _ ih => exact ih.trans (nextChannel_settleProbe _ p result)

lemma nextChannel_tickTasks (h : Host σ) (transport : Transport) :
    (h.tickTasks transport).nextChannel = h.nextChannel := by
  have hfold (ts : List Task) (h : Host σ) :
      (ts.foldl (fun h t => h.tickTask transport t) h).nextChannel = h.nextChannel := by
    induction ts generalizing h with
    | nil => rfl
    | cons t ts ih => exact ih (h.tickTask transport t)
  exact hfold h.tasks { h with tasks := [] }

/-- Pings and lookups that go on give out no channel. -/
lemma nextChannel_ticked (h : Host σ) (transport : Transport) (now : Nat) :
    (((h.expire now).tickProbes).tickTasks transport).nextChannel = h.nextChannel :=
  (nextChannel_tickTasks _ transport).trans (nextChannel_sweepProbes _ _ _)

variable [Server σ]

lemma nextChannel_start (h : Host σ) (transport : Transport) (goal : Lookup.Goal)
    (seeds : List Contact) (channel : Channel) :
    (h.start transport goal seeds channel).nextChannel = h.nextChannel := by
  have hknown : (h.known goal).2.nextChannel = h.nextChannel := by
    unfold known
    split <;> rfl
  unfold start keep deliver
  dsimp only
  split <;> exact hknown

lemma nextChannel_lookUp (h : Host σ) (transport : Transport) (goal : Lookup.Goal)
    (channel : Channel) : (h.lookUp transport goal channel).nextChannel = h.nextChannel :=
  h.nextChannel_start transport goal _ channel

lemma nextChannel_find (h : Host σ) (transport : Transport) (goal : Lookup.Goal)
    (seeds : Option (List Contact)) :
    (h.find transport goal seeds).2.nextChannel = h.nextChannel + 1 := by
  cases seeds <;> exact nextChannel_start ..

lemma nextChannel_tickBootstrap (h : Host σ) (transport : Transport) :
    (h.tickBootstrap transport).nextChannel = h.nextChannel ∨
      (h.tickBootstrap transport).nextChannel = h.nextChannel + 1 := by
  unfold tickBootstrap
  split
  · split
    · exact .inl rfl
    · have hlookUp := nextChannel_lookUp h.openChannel.2 transport (.findNode h.id) h.openChannel.1
      exact .inr hlookUp
  · split <;> exact .inl rfl
  · exact .inl rfl

lemma nextChannel_advance (h : Host σ) (transport : Transport) (now : Nat) :
    (h.advance transport now).nextChannel = h.nextChannel ∨
      (h.advance transport now).nextChannel = h.nextChannel + 1 := by
  rw [advance, ← nextChannel_ticked h transport now]
  exact nextChannel_tickBootstrap _ transport

lemma nextChannel_le_advance (h : Host σ) (transport : Transport) (now : Nat) :
    h.nextChannel ≤ (h.advance transport now).nextChannel := by
  rcases h.nextChannel_advance transport now with heq | heq
  · exact heq.ge
  · exact (Nat.le_succ _).trans heq.ge

end Kademlia.Host
