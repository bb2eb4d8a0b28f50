import Kademlia.Proofs.Client.Work

/-!
# Clients step by step

An actor is a client on a thread of its own, one step at a time. Commands are handed in between any
two of its steps, also while it works on another command and while it ends. To end it drops all that
is under way, drains the queue, takes no more commands, and answers the shutdowns, each in a step of
its own.
-/

namespace Kademlia.Client

open Exchange Service

/-- Where an actor is. -/
inductive Stage where
  /-- It takes commands and lets its host go on. -/
  | reading
  /-- It took a command to work on. -/
  | handling (letter : Letter)
  /-- It took a shutdown. -/
  | halted
  /-- All that was under way is dropped. -/
  | dropped
  /-- The queue is drained. -/
  | drained
  /-- Nothing can be handed in any more. -/
  | closed
  deriving DecidableEq, Repr

/-- A client on its own thread. Nothing is taken off the channels of its callers, so that all that was
ever put there is seen. -/
structure Actor (σ : Type) where
  client : Client σ
  stage : Stage
  /-- Who waits for the end of a shutdown. -/
  closing : List Host.Channel
  /-- What was handed in, except for late commands. -/
  accepted : List Letter
  /-- What was handed in after the queue was drained. -/
  late : List Letter

/-- A step of an actor, or of one of its callers. -/
inductive Move where
  /-- A caller hands in a command. -/
  | submit (command : Command)
  /-- Take the first command that waits. -/
  | take
  /-- Work on the command that was taken. -/
  | handle (transport : Transport)
  | receive (transport : Transport) (serverClock : Nat) (d : Datagram)
  /-- Let the host go on. -/
  | advance (transport : Transport) (now : Nat)
  | continueChains (transport : Transport)
  | answerAwaiting
  | drop
  | drain
  /-- Take no more commands. -/
  | close
  /-- Answer a shutdown. -/
  | answer

/-- What the caller of a command returns. -/
inductive Return where
  /-- The shutdown is over. -/
  | done
  /-- All values of a fetch. -/
  | values (values : List Bytes)
  | one (outcome : Except Ended Outcome)

/-- The command in hand. -/
def Stage.letter? : Stage → Option Letter
  | handling letter => some letter
  | _ => none

/-- Is nothing under way any more? -/
def Stage.isDropped : Stage → Bool
  | dropped | drained | closed => true
  | _ => false

/-- Did the actor look at the queue for the last time? -/
def Stage.isDrained : Stage → Bool
  | drained | closed => true
  | _ => false

/-- What the caller of a command makes of all that was put on its channel. -/
def Command.returns : Command → List Outcome → Return
  | .shutdown, _ => .done
  | .fetch _ _, sent => .values (Client.values sent)
  | _, sent => .one (outcome sent)

/-- Does the caller of a command return, whatever else may come? -/
def Command.isAnswered : Command → List Outcome → Bool
  | .fetch _ _, sent => (batches sent).any (·.isEmpty)
  | _, sent => !sent.isEmpty

namespace Actor

variable {σ : Type}

/-- An actor that reads the commands of a client. -/
def of (c : Client σ) : Actor σ :=
  ⟨c, .reading, [], [], []⟩

/-- Hand in a command, if possible. -/
def submit (w : Actor σ) (command : Command) : Actor σ :=
  match w.client.submit command with
  | none => w
  | some (waiter, client) =>
    if w.stage.isDrained then { w with client, late := w.late ++ [⟨command, waiter⟩] }
    else { w with client, accepted := w.accepted ++ [⟨command, waiter⟩] }

/-- Take the first command that waits. -/
def take (w : Actor σ) : Actor σ :=
  match w.client.queue with
  | [] => w
  | letter :: queue =>
    let w := { w with client := { w.client with queue } }
    if letter.command = .shutdown then
      { w with stage := .halted, closing := w.closing ++ [letter.waiter] }
    else { w with stage := .handling letter }

/-- Drop all that is under way. -/
def drop (w : Actor σ) : Actor σ :=
  let host := { w.client.host.stop with tasks := [], probes := [] }
  { w with stage := .dropped, client := { w.client with host, chains := [], awaiting := [] } }

/-- Drain the queue, of which only the shutdowns will be answered. -/
def drain (w : Actor σ) : Actor σ :=
  let shutdowns := w.client.queue.filter fun l => l.command == .shutdown
  { w with
    stage := .drained
    closing := w.closing ++ shutdowns.map (·.waiter)
    client := { w.client with queue := [] } }

/-- Answer the first shutdown. -/
def answer (w : Actor σ) : Actor σ :=
  match w.closing with
  | [] => w
  | waiter :: closing => { w with closing, client := w.client.answer waiter .closed }

/-- Make a move. One that is not possible where the actor is changes nothing. -/
def perform [Server σ] (w : Actor σ) (move : Move) : Actor σ :=
  match w.stage, move with
  | _, .submit command => w.submit command
  | .reading, .take => w.take
  | .reading, .receive transport serverClock d =>
    { w with client := w.client.receive transport serverClock d }
  | .reading, .advance transport now =>
    { w with client := { w.client with host := w.client.host.advance transport now } }
  | .reading, .continueChains transport => { w with client := w.client.continueChains transport }
  | .reading, .answerAwaiting => { w with client := w.client.answerAwaiting }
  | .handling letter, .handle transport =>
    { w with stage := .reading, client := w.client.perform transport letter.waiter letter.command }
  | .halted, .drop => w.drop
  | .dropped, .drain => w.drain
  | .drained, .close => { w with stage := .closed, client := { w.client with ended := true } }
  | .closed, .answer => w.answer
  | _, _ => w

/-- Make several moves, the first one first. -/
def after [Server σ] (w : Actor σ) (moves : List Move) : Actor σ :=
  moves.foldl perform w

/-- An actor that starts with a host, after some moves. -/
def run [Server σ] (host : Host σ) (moves : List Move) : Actor σ :=
  (of (.new host)).after moves

/-- Did the actor come to its end? -/
def Ended (w : Actor σ) : Prop :=
  w.stage = .closed ∧ w.closing = []

instance (w : Actor σ) : Decidable w.Ended :=
  inferInstanceAs (Decidable (_ ∧ _))

/-- All that was put on a channel. -/
def sent (w : Actor σ) (channel : Host.Channel) : List Outcome :=
  (w.client.take channel).1

/-- May something still come on a channel? -/
def isOpen (w : Actor σ) (channel : Host.Channel) : Bool :=
  w.client.isOpen channel || w.closing.contains channel ||
    w.stage.letter?.any fun letter => letter.waiter == channel

/-- What the caller of a command returns, unless it goes on waiting. -/
def returned (w : Actor σ) (l : Letter) : Option Return :=
  if l.command.isAnswered (w.sent l.waiter) || !w.isOpen l.waiter then
    some (l.command.returns (w.sent l.waiter))
  else none

/-! ### Moves -/

/-- A command that is handed in gets the next channel, unless the client has ended. -/
lemma submit_cases (w : Actor σ) (command : Command) :
    w.submit command = w ∨ ∃ accepted late,
      w.submit command =
        { w with
          client := { w.client with
            host := w.client.host.openChannel.2
            queue := w.client.queue ++ [⟨command, w.client.host.nextChannel⟩] }
          accepted, late } := by
  unfold Actor.submit Client.submit
  split
  · exact .inl rfl
  · next channel client hsubmit =>
    split at hsubmit
    · cases hsubmit
    · obtain ⟨rfl, rfl⟩ := Prod.mk.inj (Option.some.inj hsubmit)
      split <;> exact .inr ⟨_, _, rfl⟩

lemma take_cases (w : Actor σ) :
    w.take = w ∨ ∃ letter queue, w.client.queue = letter :: queue ∧
      (w.take = { w with
          client := { w.client with queue }
          stage := .halted
          closing := w.closing ++ [letter.waiter] } ∨
        w.take = { w with client := { w.client with queue }, stage := .handling letter }) := by
  unfold Actor.take
  split
  · exact .inl rfl
  · next letter queue hqueue =>
    refine .inr ⟨letter, queue, hqueue, ?_⟩
    dsimp only
    split
    · exact .inl rfl
    · exact .inr rfl

lemma answer_cases (w : Actor σ) :
    w.answer = w ∨ ∃ waiter closing, w.closing = waiter :: closing ∧
      w.answer = { w with closing, client := w.client.answer waiter .closed } := by
  unfold Actor.answer
  split
  · exact .inl rfl
  · next waiter closing hclosing => exact .inr ⟨waiter, closing, hclosing, rfl⟩

/-- What a move can make of an actor. -/
inductive Step (w : Actor σ) : Actor σ → Prop where
  | stay : Step w w
  | submit (command : Command) : Step w (w.submit command)
  | take (hstage : w.stage = .reading) : Step w w.take
  /-- The actor works on a command, or lets its host or its chains go on. -/
  | work (hstage : w.stage.isDropped = false) {client : Client σ} (h : w.client.Extends client) :
    Step w { w with client, stage := .reading }
  | drop (hstage : w.stage = .halted) : Step w w.drop
  | drain (hstage : w.stage = .dropped) : Step w w.drain
  | close (hstage : w.stage = .drained) :
    Step w { w with stage := .closed, client := { w.client with ended := true } }
  | answer (hstage : w.stage = .closed) : Step w w.answer

variable [Server σ]

/-- A command can be handed in at any time. -/
lemma perform_submit (w : Actor σ) (command : Command) :
    w.perform (.submit command) = w.submit command := by
  cases hstage : w.stage <;> simp only [perform]

lemma step_perform (w : Actor σ) (move : Move) : w.Step (w.perform move) := by
  have hreading (hstage : w.stage = .reading) {client : Client σ} (h : w.client.Extends client) :
      w.Step { w with client } := by
    have hwork := Step.work (w := w) (by rw [hstage]; rfl) h
    rwa [← hstage] at hwork
  fun_cases perform w move with
  | case1 command => exact .submit command
  | case2 hstage => exact .take hstage
  | case3 transport serverClock d hstage => exact hreading hstage (w.client.extends_host le_rfl)
  | case4 transport now hstage =>
    exact hreading hstage (w.client.extends_host (Host.nextChannel_le_advance _ transport now))
  | case5 transport hstage => exact hreading hstage (w.client.extends_continueChains transport)
  | case6 hstage => exact hreading hstage w.client.extends_answerAwaiting
  | case7 letter transport hstage =>
    exact .work (by rw [hstage]; rfl) (w.client.extends_perform transport letter.waiter letter.command)
  | case8 hstage => exact .drop hstage
  | case9 hstage => exact .drain hstage
  | case10 hstage => exact .close hstage
  | case11 hstage => exact .answer hstage
  | case12 => exact .stay

/-- Once an actor came to its end, it stays as it is. -/
lemma perform_of_ended {w : Actor σ} (hended : w.Ended) (hclient : w.client.ended = true)
    (move : Move) : w.perform move = w := by
  obtain ⟨hstage, hclosing⟩ := hended
  cases move with
  | submit command => simp [perform, submit, Client.submit, hclient]
  | answer => simp [perform, hstage, answer, hclosing]
  | _ => simp [perform, hstage]

lemma after_of_ended {w : Actor σ} (hended : w.Ended) (hclient : w.client.ended = true)
    (moves : List Move) : w.after moves = w := by
  induction moves with
  | nil => rfl
  | cons move moves ih =>
    change (w.perform move).after moves = w
    rwa [perform_of_ended hended hclient]

/-! ### Without an interruption

If no command is handed in between its steps, an actor does what its client does.
-/

lemma after_append (w : Actor σ) (moves more : List Move) :
    w.after (moves ++ more) = (w.after moves).after more :=
  List.foldl_append

theorem after_advance (c : Client σ) (transport : Transport) (now : Nat) :
    (of c).after [.advance transport now, .continueChains transport, .answerAwaiting] =
      of (c.advance transport now) :=
  rfl

/-- A closed actor answers one shutdown after the other. -/
lemma after_answers {w : Actor σ} (hstage : w.stage = .closed) :
    w.after (w.closing.map fun _ => .answer) =
      { w with
        closing := []
        client := { w.client with
          outcomes := w.client.outcomes ++ w.closing.map fun waiter => (waiter, .closed) } } := by
  obtain ⟨client, stage, closing, accepted, late⟩ := w
  cases hstage
  induction closing generalizing client with
  | nil => simp [after]
  | cons waiter closing ih =>
    refine (ih (client.answer waiter .closed)).trans ?_
    simp [Client.answer]

/-- Does an actor look for commands, with no shutdown to answer? -/
def Reads (w : Actor σ) : Prop :=
  w.stage = .reading ∧ w.closing = []

/-- Can an actor make one client of another on its own, and does it go on reading if there is anything
left to read? -/
def Attains (w : Actor σ) (c : Client σ) : Prop :=
  ∃ moves, (∀ command, .submit command ∉ moves) ∧ (w.after moves).client = c ∧
    ((w.after moves).Reads ∨ c.queue = [])

/-- The steps in which an actor ends amount to the end of its client. -/
lemma attains_finish {w : Actor σ} (hstage : w.stage = .halted) {waiter : Host.Channel}
    (hclosing : w.closing = [waiter]) : w.Attains (w.client.finish waiter) := by
  obtain ⟨client, stage, closing, accepted, late⟩ := w
  cases hstage
  cases hclosing
  let w' := after ⟨client, .halted, [waiter], accepted, late⟩ [.drop, .drain, .close]
  have hanswers := after_answers (w := w') rfl
  refine ⟨[.drop, .drain, .close] ++ w'.closing.map fun _ => .answer, by simp, ?_, .inr rfl⟩
  rw [after_append, hanswers]
  rfl

/-- Taking a command and working on it amounts to one command of the client's. -/
lemma attains_open {w : Actor σ} (hreads : w.Reads) (transport : Transport) :
    w.Attains ((w.client.open? transport).getD w.client) := by
  obtain ⟨⟨host, queue, chains, awaiting, outcomes, ended⟩, stage, closing, accepted, late⟩ := w
  obtain ⟨rfl, rfl⟩ : stage = .reading ∧ closing = [] := hreads
  rcases queue with _ | ⟨⟨command, waiter⟩, queue⟩
  · exact ⟨[], by simp, rfl, .inr rfl⟩
  · cases command with
    | shutdown =>
      obtain ⟨moves, hmoves, hclient, hqueue⟩ := attains_finish (w := ⟨⟨host, queue, chains, awaiting,
        outcomes, ended⟩, .halted, [waiter], accepted, late⟩) rfl rfl
      exact ⟨.take :: moves, by simpa using hmoves, hclient, hqueue⟩
    | _ => exact ⟨[.take, .handle transport], by simp, rfl, .inl ⟨rfl, rfl⟩⟩

lemma Attains.open {w : Actor σ} {c : Client σ} (h : w.Attains c) (transport : Transport) :
    w.Attains ((c.open? transport).getD c) := by
  obtain ⟨moves, hmoves, rfl, hreads | hqueue⟩ := h
  · obtain ⟨more, hmore, hclient, hend⟩ := attains_open hreads transport
    rw [← after_append] at hclient hend
    exact ⟨moves ++ more, fun command => by simp [hmoves command, hmore command], hclient, hend⟩
  · have hnone : (w.after moves).client.open? transport = none := by rw [open?, hqueue]
    rw [hnone]
    exact ⟨moves, hmoves, rfl, .inr hqueue⟩

/-- An actor that is reading can work on all commands that wait, just as its client does. -/
theorem attains_work (c : Client σ) (transport : Transport) : (of c).Attains (c.work transport) := by
  unfold work
  induction c.queue.length with
  | zero => exact ⟨[], by simp, rfl, .inl ⟨rfl, rfl⟩⟩
  | succ n ih => exact ih.open transport

end Actor

end Kademlia.Client
