import Kademlia.Proofs.Client.Actor

/-!
# Which calls return when a client ends

Channels of calls can be in the queue, in the hand of the actor, among the pings, lookups and chains,
among those that wait for the bootstrap, or among the shutdowns to answer. Wherever they are when a
shutdown comes, and however many commands are handed in before the queue is drained, no caller is left
waiting once the actor has ended. A command that is handed in after the queue was drained and before it
is closed stays there: nobody answers it, and nobody drops it either, so its caller waits for ever.
-/

namespace Kademlia.Client

open Exchange Service

variable {σ : Type}

/-- Is nothing under way? -/
structure Idle (c : Client σ) : Prop where
  tasks : c.host.tasks = []
  probes : c.host.probes = []
  chains : c.chains = []
  awaiting : c.awaiting = []

lemma Idle.congr {c c' : Client σ} (h : c.Idle) (htasks : c'.host.tasks = c.host.tasks)
    (hprobes : c'.host.probes = c.host.probes) (hchains : c'.chains = c.chains)
    (hawaiting : c'.awaiting = c.awaiting) : c'.Idle :=
  ⟨htasks.trans h.tasks, hprobes.trans h.probes, hchains.trans h.chains, hawaiting.trans h.awaiting⟩

/-- Only a command in the queue keeps a channel open when nothing is under way. -/
lemma Idle.isOpen_iff {c : Client σ} (h : c.Idle) (channel : Host.Channel) :
    c.isOpen channel = true ↔ ∃ l ∈ c.queue, l.waiter = channel := by
  simp [isOpen, Host.isOpen, h.tasks, h.probes, h.chains, h.awaiting]

/-- The queue is not drained before everything is dropped. -/
lemma Stage.isDrained_eq_false {stage : Stage} (h : stage.isDropped = false) :
    stage.isDrained = false := by
  cases stage with
  | drained | closed => cases h
  | _ => rfl

namespace Actor

/-- What is true of an actor at any moment. -/
structure Tidy (w : Actor σ) : Prop where
  /-- The channels of all calls were given out. -/
  given : ∀ l ∈ w.accepted ++ w.late, l.waiter < w.client.host.nextChannel
  distinct : ((w.accepted ++ w.late).map (·.waiter)).Nodup
  shutdowns : ∀ l ∈ w.accepted, l.command = .shutdown →
    l ∈ w.client.queue ∨ l.waiter ∈ w.closing ∨ (l.waiter, .closed) ∈ w.client.outcomes
  idle : w.stage.isDropped = true → w.client.Idle
  /-- A queue that was drained holds the late commands, all of them and nothing else. -/
  late : w.late = if w.stage.isDrained then w.client.queue else []
  ended : w.stage = .closed → w.client.ended = true

variable {w w' : Actor σ}

lemma tidy_of (host : Host σ) : (of (.new host)).Tidy where
  given := by simp [of]
  distinct := by simp [of]
  shutdowns := by simp [of]
  idle := by simp [of, Stage.isDropped]
  late := rfl
  ended := by simp [of]

lemma Tidy.late_of_drained (h : w.Tidy) (hstage : w.stage.isDrained = true) : w.late = w.client.queue := by
  rw [h.late, if_pos hstage]

lemma Tidy.late_of_not_drained (h : w.Tidy) (hstage : w.stage.isDrained = false) : w.late = [] := by
  rw [h.late, hstage, if_neg Bool.false_ne_true]

/-- The channel of a new call is given out to no other call. -/
lemma Tidy.channels_cons (h : w.Tidy) (letter : Letter)
    (hwaiter : letter.waiter = w.client.host.nextChannel) :
    (∀ l ∈ letter :: (w.accepted ++ w.late), l.waiter < w.client.host.nextChannel + 1) ∧
      ((letter :: (w.accepted ++ w.late)).map (·.waiter)).Nodup := by
  constructor
  · intro l hl
    rcases List.mem_cons.1 hl with rfl | hl
    · exact hwaiter ▸ Nat.lt_succ_self _
    · exact Nat.lt_succ_of_lt (h.given l hl)
  · refine List.nodup_cons.2 ⟨fun hmem => ?_, h.distinct⟩
    obtain ⟨l, hl, hsame⟩ := List.mem_map.1 hmem
    exact (h.given l hl).ne (hsame.trans hwaiter)

lemma Tidy.submit (h : w.Tidy) (command : Command) : (w.submit command).Tidy := by
  unfold Actor.submit Client.submit
  split
  · exact h
  · next channel client hsubmit =>
    split at hsubmit
    · cases hsubmit
    · obtain ⟨rfl, rfl⟩ := Prod.mk.inj (Option.some.inj hsubmit)
      let letter : Letter := ⟨command, w.client.host.nextChannel⟩
      obtain ⟨hgiven, hdistinct⟩ := h.channels_cons letter rfl
      split
      · next hdrained =>
        have hperm : (w.accepted ++ (w.late ++ [letter])).Perm (letter :: (w.accepted ++ w.late)) := by
          rw [← List.append_assoc]
          exact List.perm_append_singleton _ _
        refine ⟨fun l hl => hgiven l (hperm.mem_iff.1 hl), (hperm.map _).nodup_iff.2 hdistinct,
          fun l hl hcommand => (h.shutdowns l hl hcommand).imp_left (List.mem_append_left _),
          fun hstage => (h.idle hstage).congr rfl rfl rfl rfl, ?_, h.ended⟩
        rw [h.late_of_drained hdrained, if_pos hdrained]
      · next hdrained =>
        have hperm : (w.accepted ++ [letter] ++ w.late).Perm (letter :: (w.accepted ++ w.late)) := by
          rw [List.append_assoc]
          exact List.perm_middle
        refine ⟨fun l hl => hgiven l (hperm.mem_iff.1 hl), (hperm.map _).nodup_iff.2 hdistinct,
          fun l hl hcommand => ?_, fun hstage => (h.idle hstage).congr rfl rfl rfl rfl,
          (h.late_of_not_drained (by simpa using hdrained)).trans (if_neg hdrained).symm, h.ended⟩
        rcases List.mem_append.1 hl with hl | hl
        · exact (h.shutdowns l hl hcommand).imp_left (List.mem_append_left _)
        · exact .inl (List.mem_append_right _ hl)

/-- A shutdown goes from the queue to those that are to be answered. -/
lemma Tidy.take (h : w.Tidy) (hstage : w.stage = .reading) : w.take.Tidy := by
  have hlate : w.late = [] := h.late_of_not_drained (by rw [hstage]; rfl)
  unfold Actor.take
  split
  · exact h
  · next letter queue hqueue =>
    have hshutdowns (l : Letter) (hl : l ∈ w.accepted) (hshutdown : l.command = .shutdown) :
        l = letter ∨ l ∈ queue ∨ l.waiter ∈ w.closing ∨ (l.waiter, .closed) ∈ w.client.outcomes := by
      rw [← or_assoc, ← List.mem_cons, ← hqueue]
      exact h.shutdowns l hl hshutdown
    dsimp only
    split
    · refine ⟨h.given, h.distinct, fun l hl hshutdown => ?_, nofun, hlate, nofun⟩
      rcases hshutdowns l hl hshutdown with rfl | hwaits | hclosing | hanswered
      · exact .inr (.inl (List.mem_append_right _ (List.mem_singleton_self _)))
      · exact .inl hwaits
      · exact .inr (.inl (List.mem_append_left _ hclosing))
      · exact .inr (.inr hanswered)
    · next hcommand =>
      refine ⟨h.given, h.distinct, fun l hl hshutdown => ?_, nofun, hlate, nofun⟩
      exact (hshutdowns l hl hshutdown).resolve_left fun hl => hcommand (hl ▸ hshutdown)

lemma Tidy.work (h : w.Tidy) (hstage : w.stage.isDropped = false) {client : Client σ}
    (hclient : w.client.Extends client) : Tidy { w with client, stage := .reading } where
  given l hl := (h.given l hl).trans_le hclient.channels
  distinct := h.distinct
  shutdowns l hl hcommand := by
    rw [hclient.queue]
    exact (h.shutdowns l hl hcommand).imp_right (.imp_right fun h => hclient.outcomes.mem h)
  idle := nofun
  late := h.late_of_not_drained (Stage.isDrained_eq_false hstage)
  ended := nofun

lemma Tidy.drain (h : w.Tidy) (hstage : w.stage = .dropped) : w.drain.Tidy where
  given := h.given
  distinct := h.distinct
  shutdowns l hl hcommand := by
    refine .inr ((h.shutdowns l hl hcommand).elim (fun hqueue => .inl ?_) (.imp_left fun h => ?_))
    · simp only [Actor.drain, List.mem_append, List.mem_map, List.mem_filter]
      exact .inr ⟨l, ⟨hqueue, by simp [hcommand]⟩, rfl⟩
    · exact List.mem_append_left _ h
  idle _ := (h.idle (by rw [hstage]; rfl)).congr rfl rfl rfl rfl
  late := h.late_of_not_drained (by rw [hstage]; rfl)
  ended := nofun

lemma Tidy.answer (h : w.Tidy) : w.answer.Tidy := by
  unfold Actor.answer
  split
  · exact h
  · next waiter closing hclosing =>
    refine ⟨h.given, h.distinct, fun l hl hcommand => ?_,
      fun hstage => (h.idle hstage).congr rfl rfl rfl rfl, h.late, h.ended⟩
    rcases h.shutdowns l hl hcommand with hqueue | hwaits | hanswered
    · exact .inl hqueue
    · rw [hclosing] at hwaits
      refine .inr ((List.mem_cons.1 hwaits).symm.imp_right fun hl => ?_)
      rw [hl]
      exact List.mem_append_right _ (List.mem_singleton_self _)
    · exact .inr (.inr (List.mem_append_left _ hanswered))

lemma Tidy.step (h : w.Tidy) (hstep : w.Step w') : w'.Tidy := by
  cases hstep with
  | stay => exact h
  | submit command => exact h.submit command
  | take hstage => exact h.take hstage
  | work hstage hclient => exact h.work hstage hclient
  | drop hstage =>
    have hlate : w.late = [] := h.late_of_not_drained (by rw [hstage]; rfl)
    exact ⟨h.given, h.distinct, h.shutdowns, fun _ => ⟨rfl, rfl, rfl, rfl⟩, hlate, nofun⟩
  | drain hstage => exact h.drain hstage
  | close hstage =>
    have hidle := h.idle (by rw [hstage]; rfl)
    have hlate := h.late_of_drained (by rw [hstage]; rfl)
    exact ⟨h.given, h.distinct, h.shutdowns, fun _ => hidle.congr rfl rfl rfl rfl, hlate, fun _ => rfl⟩
  | answer => exact h.answer

lemma Tidy.after [Server σ] (h : w.Tidy) (moves : List Move) : (w.after moves).Tidy := by
  induction moves generalizing w with
  | nil => exact h
  | cons move moves ih => exact ih (h.step (w.step_perform move))

lemma Tidy.waiter_ne (h : w.Tidy) {l l' : Letter} (hl : l ∈ w.accepted) (hl' : l' ∈ w.late) :
    l.waiter ≠ l'.waiter := by
  have hdistinct := h.distinct
  rw [List.map_append] at hdistinct
  exact (List.nodup_append.1 hdistinct).2.2 _ (List.mem_map_of_mem hl) _ (List.mem_map_of_mem hl')

lemma tidy_run [Server σ] (host : Host σ) (moves : List Move) : (run host moves).Tidy :=
  (tidy_of host).after moves

/-! ### The end -/

/-- Did the call of a command come to an end? Nothing can come on its channel any more, and its caller
does not wait for it: a shutdown was answered, a fetch ends with the values it brought, and any other
call returns what it brought or else that the client has ended. -/
def Settled (w : Actor σ) (l : Letter) : Prop :=
  w.isOpen l.waiter = false ∧
    match l.command with
    | .shutdown => .closed ∈ w.sent l.waiter ∧ w.returned l = some .done
    | .fetch _ _ => w.returned l = some (.values (values (w.sent l.waiter)))
    | _ =>
      (∃ o rest, w.sent l.waiter = o :: rest ∧ w.returned l = some (.one (.ok o))) ∨
        w.sent l.waiter = [] ∧ w.returned l = some (.one (.error .ended))

/-- A call returns when its channel is closed, whatever was put there. -/
lemma returned_of_closed {l : Letter} (h : w.isOpen l.waiter = false) :
    w.returned l = some (l.command.returns (w.sent l.waiter)) := by
  simp [returned, h]

lemma mem_sent {channel : Host.Channel} {o : Outcome} (h : (channel, o) ∈ w.client.outcomes) :
    o ∈ w.sent channel := by
  simp only [sent, Client.take, List.partition_eq_filter_filter, List.mem_append, List.mem_map,
    List.mem_filter]
  exact .inl ⟨(channel, o), ⟨h, beq_self_eq_true channel⟩, rfl⟩

/-- Once the actor has ended, only late commands keep their channels open. -/
lemma Tidy.isOpen_of_ended (h : w.Tidy) (hended : w.Ended) {l : Letter} (hl : l ∈ w.accepted) :
    w.isOpen l.waiter = false := by
  obtain ⟨hstage, hclosing⟩ := hended
  have hclient : ¬ w.client.isOpen l.waiter = true := by
    rw [(h.idle (by rw [hstage]; rfl)).isOpen_iff]
    rw [← h.late_of_drained (by rw [hstage]; rfl)]
    rintro ⟨l', hl', hwaiter⟩
    exact h.waiter_ne hl hl' hwaiter.symm
  simp [isOpen, hclient, hclosing, hstage, Stage.letter?]

/-- Once the actor has ended, all shutdowns but late ones are answered. -/
lemma Tidy.closed_of_ended (h : w.Tidy) (hended : w.Ended) {l : Letter} (hl : l ∈ w.accepted)
    (hcommand : l.command = .shutdown) : .closed ∈ w.sent l.waiter := by
  obtain ⟨hstage, hclosing⟩ := hended
  rcases h.shutdowns l hl hcommand with hqueue | hwaits | hanswered
  · rw [← h.late_of_drained (by rw [hstage]; rfl)] at hqueue
    exact absurd rfl (h.waiter_ne hl hqueue)
  · rw [hclosing] at hwaits
    exact absurd hwaits List.not_mem_nil
  · exact mem_sent hanswered

lemma Tidy.settled (h : w.Tidy) (hended : w.Ended) {l : Letter} (hl : l ∈ w.accepted) :
    w.Settled l := by
  have hclosed := h.isOpen_of_ended hended hl
  have hreturned := returned_of_closed hclosed
  have hone (hone : w.returned l = some (.one (outcome (w.sent l.waiter)))) :
      (∃ o rest, w.sent l.waiter = o :: rest ∧ w.returned l = some (.one (.ok o))) ∨
        w.sent l.waiter = [] ∧ w.returned l = some (.one (.error .ended)) := by
    rw [hone]
    cases w.sent l.waiter with
    | nil => exact .inr ⟨rfl, rfl⟩
    | cons o rest => exact .inl ⟨o, rest, rfl, rfl⟩
  refine ⟨hclosed, ?_⟩
  cases hcommand : l.command with
  | shutdown => exact ⟨h.closed_of_ended hended hl hcommand, by rw [hreturned, hcommand]; rfl⟩
  | fetch key count =>
    rw [hreturned, hcommand]
    rfl
  | _ => exact hone (by rw [hreturned, hcommand]; rfl)

/-- Late commands stay in the queue, which keeps their channels open. -/
lemma Tidy.isOpen_of_late (h : w.Tidy) {l : Letter} (hl : l ∈ w.late) : w.isOpen l.waiter = true := by
  have hdrained : w.stage.isDrained = true := by
    by_contra hstage
    rw [h.late_of_not_drained (by simpa using hstage)] at hl
    exact List.not_mem_nil hl
  rw [h.late_of_drained hdrained] at hl
  have hqueued : (w.client.queue.any fun l' => l'.waiter == l.waiter) = true :=
    List.any_eq_true.2 ⟨l, hl, beq_self_eq_true _⟩
  simp [isOpen, Client.isOpen, hqueued]

variable [Server σ]

/-- Whatever comes after the end changes nothing. -/
lemma run_append_of_ended {host : Host σ} {moves : List Move} (hended : (run host moves).Ended)
    (more : List Move) : run host (moves ++ more) = run host moves :=
  (after_append _ moves more).trans
    (after_of_ended hended ((tidy_run host moves).ended hended.1) more)

/-- No call hangs that is handed in before the queue is drained. Once an actor has ended, each of these
calls had a channel of its own and is settled, nothing can be handed in any more, and nothing will
change. -/
theorem calls_return (host : Host σ) (moves : List Move) (hended : (run host moves).Ended) :
    ((run host moves).accepted.map (·.waiter)).Nodup ∧
      (∀ l ∈ (run host moves).accepted, (run host moves).Settled l) ∧
      (∀ command, (run host moves).client.submit command = none) ∧
      ∀ more, run host (moves ++ more) = run host moves := by
  have htidy := tidy_run host moves
  have hdistinct := htidy.distinct
  rw [List.map_append] at hdistinct
  refine ⟨(List.nodup_append.1 hdistinct).1, fun l hl => htidy.settled hended hl, fun command => ?_,
    run_append_of_ended hended⟩
  simp [Client.submit, htidy.ended hended.1]

namespace Interrupted

def key : Id :=
  ⟨List.replicate 20 0, List.length_replicate⟩

def peer : Address :=
  ⟨.v4 10 0 0 1, 7⟩

def transport : Transport := fun _ => none

/-- A host that pings an address to start with. -/
def host : Host ValueService :=
  .new { id := key, address := ⟨.v4 10 0 0 2, 7⟩, contacts := [peer] }
    (.start .standard 0 ⟨id, 0⟩) ⟨id, 0⟩ transport

/-- Some calls are under way and one is in the queue when a shutdown is taken, and then there is
another shutdown. -/
def everywhere : List Move :=
  [.submit .awaitBootstrap, .submit (.ping peer), .submit (.fetch key 0), .submit .info,
    .take, .handle transport, .take, .handle transport, .take, .handle transport,
    .take, .handle transport, .submit .shutdown, .submit .contacts, .take, .submit .shutdown,
    .drop, .drain, .close, .answer, .answer]

/-- A fetch has just been started when a shutdown comes. -/
def fetching : List Move :=
  [.submit (.fetch key 0), .take, .handle transport, .submit .shutdown, .take, .drop, .drain, .close,
    .answer]

/-- A call comes between draining the queue and closing it. -/
def belated : List Move :=
  [.submit .shutdown, .take, .drop, .drain, .submit .info, .close, .answer]

end Interrupted

/-- Calls wait for the bootstrap, for a ping, for a fetch and in the queue when the actor ends. -/
theorem calls_return_everywhere :
    (run Interrupted.host Interrupted.everywhere).Ended ∧
      (run Interrupted.host Interrupted.everywhere).accepted =
        [⟨.awaitBootstrap, 0⟩, ⟨.ping Interrupted.peer, 1⟩, ⟨.fetch Interrupted.key 0, 2⟩, ⟨.info, 3⟩,
          ⟨.shutdown, 5⟩, ⟨.contacts, 6⟩, ⟨.shutdown, 7⟩] ∧
      ∀ l ∈ (run Interrupted.host Interrupted.everywhere).accepted,
        (run Interrupted.host Interrupted.everywhere).Settled l := by
  have hended : (run Interrupted.host Interrupted.everywhere).Ended := by decide +kernel
  refine ⟨hended, by decide +kernel, ?_⟩
  exact (calls_return Interrupted.host Interrupted.everywhere hended).2.1

/-- A fetch that brought nothing ends like one that found no values, and not with an error. -/
theorem interrupted_fetch_ends_silently :
    (run Interrupted.host Interrupted.fetching).Ended ∧
      ⟨.fetch Interrupted.key 0, 0⟩ ∈ (run Interrupted.host Interrupted.fetching).accepted ∧
      (run Interrupted.host Interrupted.fetching).sent 0 = [] ∧
      (run Interrupted.host Interrupted.fetching).returned ⟨.fetch Interrupted.key 0, 0⟩ ≠
        some (.one (.error .ended)) := by
  have hsent : (run Interrupted.host Interrupted.fetching).sent 0 = [] := by decide +kernel
  have hclosed : (run Interrupted.host Interrupted.fetching).isOpen 0 = false := by decide +kernel
  refine ⟨by decide +kernel, by decide +kernel, hsent, ?_⟩
  have hreturned := returned_of_closed (l := ⟨.fetch Interrupted.key 0, 0⟩) hclosed
  rw [hreturned, hsent]
  nofun

/-- A late call never learns that the actor has ended: its channel stays open. -/
theorem late_channels_stay_open (host : Host σ) (moves : List Move) (hended : (run host moves).Ended)
    {l : Letter} (hl : l ∈ (run host moves).late) (more : List Move) :
    (run host (moves ++ more)).isOpen l.waiter = true := by
  rw [run_append_of_ended hended]
  exact (tidy_run host moves).isOpen_of_late hl

/-- A call that is handed in after the queue was drained, and before it is closed, is handed in like any
other one, but it is never answered and never told that the actor has ended. Its caller waits for
ever. -/
theorem late_calls_hang :
    (run Interrupted.host Interrupted.belated).Ended ∧
      (run Interrupted.host Interrupted.belated).late = [⟨.info, 1⟩] ∧
      ∀ more, (run Interrupted.host (Interrupted.belated ++ more)).sent 1 = [] ∧
        (run Interrupted.host (Interrupted.belated ++ more)).isOpen 1 = true ∧
        (run Interrupted.host (Interrupted.belated ++ more)).returned ⟨.info, 1⟩ = none := by
  have hended : (run Interrupted.host Interrupted.belated).Ended := by decide +kernel
  have hlate : (run Interrupted.host Interrupted.belated).late = [⟨.info, 1⟩] := by decide +kernel
  have hsent : (run Interrupted.host Interrupted.belated).sent 1 = [] := by decide +kernel
  refine ⟨hended, hlate, fun more => ?_⟩
  have hopen := late_channels_stay_open Interrupted.host Interrupted.belated hended
    (hlate ▸ List.mem_singleton_self _) more
  dsimp only at hopen
  rw [run_append_of_ended hended] at hopen ⊢
  exact ⟨hsent, hopen, by simp [returned, hsent, hopen, Command.isAnswered]⟩

end Actor

end Kademlia.Client
