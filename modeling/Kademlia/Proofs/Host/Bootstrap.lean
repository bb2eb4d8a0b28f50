import Kademlia.Proofs.Host.Closing
import Kademlia.Proofs.Host.Probes

/-!
# How a host joins the network

A host pings the addresses it was given, and looks up its own identifier once it knows how each of these
pings fared. Whoever answered is in the table it then starts from, or was offered to it. The bootstrap is
over when that lookup has delivered its result.
-/

namespace Kademlia.Host

open Wire Exchange Service

variable {σ : Type}

/-- What is left when the pings and the lookups of a host went on. -/
def ticked (h : Host σ) (transport : Transport) (now : Nat) : Host σ :=
  ((h.expire now).tickProbes).tickTasks transport

/-- Does a ping of the bootstrap have no reply when the host goes on at an instant? -/
def AwaitsPong (h : Host σ) (now : Nat) : Prop :=
  ∃ p ∈ h.probes, p.waiter = none ∧
    (p.call.pollAs Ping.Answer (h.expire now).multiplexer).1 = none

/-- A host that starts to look up its own identifier, from the closest contacts of its table. -/
def seek [Server σ] (h : Host σ) (transport : Transport) : Host σ :=
  { h.openChannel.2.lookUp transport (.findNode h.id) h.nextChannel with
    bootstrap := .lookup h.nextChannel }

/-- The same host when its bootstrap is over. -/
def joined (h : Host σ) : Host σ :=
  { h with bootstrap := .done }

variable {h : Host σ}

/-! ### One tick -/

/-- What the bootstrap does when the pings and lookups of a host went on. -/
inductive Joins [Server σ] (transport : Transport) (h : Host σ) : Host σ → Prop where
  | waits (hb : h.bootstrap = .pinging) (hp : ∃ p ∈ h.probes, p.waiter = none) : Joins transport h h
  | seeks (hb : h.bootstrap = .pinging) (hp : ¬∃ p ∈ h.probes, p.waiter = none) :
      Joins transport h (h.seek transport)
  | looks {c : Channel} (hb : h.bootstrap = .lookup c) (hitem : h.hasItem c = false)
      (hopen : h.isOpen c = true) : Joins transport h h
  | ends {c : Channel} (hb : h.bootstrap = .lookup c) (hitem : h.hasItem c = true ∨ h.isOpen c = false) :
      Joins transport h (h.take c).2.joined
  | rests (hb : h.bootstrap = .done) : Joins transport h h

lemma joins_tickBootstrap [Server σ] (h : Host σ) (transport : Transport) :
    h.Joins transport (h.tickBootstrap transport) := by
  have hany : (h.probes.any fun p => p.waiter.isNone) = true ↔ ∃ p ∈ h.probes, p.waiter = none := by
    simp only [List.any_eq_true, Option.isNone_iff_eq_none]
  unfold tickBootstrap
  split
  · next hb =>
    split
    · next hp => exact .waits hb (hany.1 hp)
    · next hp => exact .seeks hb (hany.not.1 hp)
  · next c hb =>
    split
    · next hitem => exact .ends hb (by simpa using hitem)
    · next hitem =>
      rw [Bool.not_eq_true, Bool.or_eq_false_iff, Bool.not_eq_false'] at hitem
      exact .looks hb hitem.1 hitem.2
  · next hb => exact .rests hb

lemma bootstrap_ticked (h : Host σ) (transport : Transport) (now : Nat) :
    (h.ticked transport now).bootstrap = h.bootstrap :=
  (bootstrap_tickTasks _ transport).trans (extends_tickProbes h now).1.bootstrap

/-- A ping of the bootstrap is still under way exactly if there is no reply to it. -/
lemma exists_own_ticked_iff (hd : h.Distinct) (transport : Transport) (now : Nat) :
    (∃ p ∈ (h.ticked transport now).probes, p.waiter = none) ↔ h.AwaitsPong now := by
  have htakes := takesProbesOnce (h := h.expire now) hd
  have hprobes : (h.ticked transport now).probes = (h.expire now).tickProbes.probes :=
    probes_tickTasks _ transport
  rw [hprobes]
  constructor
  · rintro ⟨p, hp, hwaiter⟩
    have hmem : p ∈ h.probes := htakes.divided.subset (List.mem_append_right _ hp)
    refine ⟨p, hmem, hwaiter, Option.eq_none_iff_forall_ne_some.2 fun result hresult => ?_⟩
    -- a ping that is over is not kept
    have hover := List.mem_map_of_mem (f := (·.1)) (htakes.resolved p hmem result hresult)
    exact List.disjoint_of_nodup_append (Distinct.nodup_divided (h := h.expire now) hd)
      (List.mem_map_of_mem hover) (List.mem_map_of_mem hp)
  · rintro ⟨p, hp, hwaiter, hnone⟩
    exact ⟨p, htakes.waiting p hp hnone, hwaiter⟩

/-! ### The rest of a host does not depend on the bootstrap -/

lemma sweepProbes_joined (h : Host σ) (kept rest : List Probe) :
    h.joined.sweepProbes kept rest = (h.sweepProbes kept rest).joined := by
  induction h, kept, rest using Host.sweepProbes.induct with
  | case1 h kept =>
    rw [sweepProbes, sweepProbes]
    rfl
  | case2 h kept p ps m hpoll ih =>
    have hpoll' : p.call.pollAs Ping.Answer h.joined.multiplexer = (none, m) := hpoll
    rw [sweepProbes, sweepProbes, hpoll, hpoll']
    exact ih
  | case3 h kept p ps result m hpoll ih =>
    have hpoll' : p.call.pollAs Ping.Answer h.joined.multiplexer = (some result, m) := hpoll
    have hsettle : settleProbe { h.joined with multiplexer := m } p result =
        (settleProbe { h with multiplexer := m } p result).joined := by
      rw [settleProbe_eq_of_outcome, settleProbe_eq_of_outcome]
      rfl
    rw [sweepProbes, sweepProbes, hpoll, hpoll']
    exact (congrArg (sweepProbes · kept (Lookup.refill ps)) hsettle).trans ih

lemma ticked_joined (h : Host σ) (transport : Transport) (now : Nat) :
    h.joined.ticked transport now = (h.ticked transport now).joined := by
  have hfold (ts : List Task) (h : Host σ) :
      ts.foldl (fun h t => h.tickTask transport t) h.joined =
        (ts.foldl (fun h t => h.tickTask transport t) h).joined := by
    induction ts generalizing h with
    | nil => rfl
    | cons t ts ih => exact ih (h.tickTask transport t)
  have hprobes : (h.joined.expire now).tickProbes = (h.expire now).tickProbes.joined :=
    sweepProbes_joined (h.expire now) [] h.probes
  rw [ticked, hprobes]
  exact hfold (h.expire now).tickProbes.tasks { (h.expire now).tickProbes with tasks := [] }

section Server

variable [Server σ]

lemma start_joined (h : Host σ) (transport : Transport) (goal : Lookup.Goal) (seeds : List Contact)
    (c : Channel) : h.joined.start transport goal seeds c = (h.start transport goal seeds c).joined := by
  have hknown : h.joined.known goal = ((h.known goal).1, (h.known goal).2.joined) := by
    cases goal <;> rfl
  rw [start_eq, start_eq, hknown]
  dsimp only
  split <;> rfl

lemma find_joined (h : Host σ) (transport : Transport) (goal : Lookup.Goal)
    (seeds : Option (List Contact)) :
    (h.joined.find transport goal seeds).2 = (h.find transport goal seeds).2.joined := by
  cases seeds <;> exact start_joined h.openChannel.2 transport goal _ h.nextChannel

lemma advance_joined (h : Host σ) (transport : Transport) (now : Nat) :
    h.joined.advance transport now = (h.ticked transport now).joined :=
  (advance_of_done rfl transport now).trans (ticked_joined h transport now)

end Server

/-! ### The lookup of the own identifier -/

/-- A host whose bootstrap looks for the own identifier on a channel. All the items delivered on it, some of
them earlier, are what this lookup reports. -/
structure Seeks (l₀ : Lookup) (seeds : List Contact) (earlier : List Item) (h : Host σ) (c : Channel) :
    Prop where
  given : c < h.nextChannel
  spared : h.joined.Spared c
  follows : ∃ told, Follows l₀ seeds [] (earlier ++ h.waiting c) told (h.working c)

lemma waiting_ne_nil (h : Host σ) {c : Channel} (hitem : h.hasItem c = true) : h.waiting c ≠ [] := by
  obtain ⟨p, hp, hchannel⟩ := List.any_eq_true.1 hitem
  exact List.map_eq_nil_iff.not.2 (List.ne_nil_of_mem (List.mem_filter.2 ⟨hp, hchannel⟩))

/-- The lookup that the bootstrap of a host starts. -/
def ownLookup (h : Host σ) : Lookup :=
  .new .findNode (.new h.id h.id .exhaustive h.k h.concurrency)

lemma seeks_seek [Server σ] (hunused : h.Unused h.nextChannel) (transport : Transport) :
    (h.seek transport).Seeks h.ownLookup (h.table.closest h.id h.k) [] h.nextChannel := by
  have hopen : Spares h.nextChannel h h.openChannel.2 := hunused.congr rfl rfl rfl rfl
  have hfollows := Follows.start (hopen.unused hunused) transport (.findNode h.id)
    (h.table.closest h.id h.k)
  refine ⟨?_, ⟨hfollows.1.probes, nofun⟩, [], hfollows.2⟩
  show h.nextChannel < (h.openChannel.2.lookUp transport (.findNode h.id) h.nextChannel).nextChannel
  rw [nextChannel_lookUp]
  exact Nat.lt_succ_self _

/-- What a bootstrap finds on its channel, or finds that it will not come any more, is the result of the
lookup. -/
lemma Seeks.exists_result {state : Lookup.State} {seeds : List Contact} {earlier : List Item}
    {c : Channel} (hs : h.Seeks (.new .findNode state) seeds earlier c) (hstate : state.finished = false)
    (hitem : h.hasItem c = true ∨ h.isOpen c = false) :
    ∃ l log nodes, Lookup.Rests (.new .findNode state) seeds log l ∧ l.state.finished = true ∧
      l.reports = [.contacts nodes] ∧ earlier ++ h.waiting c = [.report (.contacts nodes)] := by
  obtain ⟨told, l, log, hrests, hitems, -, hl⟩ := hs.follows
  obtain ⟨m, hpasses⟩ := hrests.exists_passes
  rw [List.nil_append] at hitems
  have hverb (seen : List Bytes) : Lookup.Verb.findNode ≠ .getValue seen := nofun
  rcases (Lookup.Passes.reported hstate hpasses).2.contacts hverb with
    ⟨hgoing, hreports⟩ | ⟨hended, nodes, hreports⟩
  · exfalso
    rw [show l.reports = [] from hreports, List.map_nil] at hitems
    rcases hitem with hitem | hclosed
    · exact h.waiting_ne_nil hitem (List.append_eq_nil_iff.1 hitems).2
    · -- a lookup that does not work any more has ended
      rcases hl with hworking | ⟨-, hdone⟩
      · rw [working_of_closed hclosed] at hworking
        exact absurd hworking.symm (List.cons_ne_nil _ _)
      · exact absurd (Bool.and_eq_true_iff.1 hdone).1 (Bool.eq_false_iff.1 hgoing)
  · exact ⟨l, log, nodes, hrests, hended, hreports, by rw [hitems, hreports]; rfl⟩

/-! ### The bootstrap in the course of a life -/

lemma bootstrap_find [Server σ] (h : Host σ) (transport : Transport) (goal : Lookup.Goal)
    (seeds : Option (List Contact)) : (h.find transport goal seeds).2.bootstrap = h.bootstrap := by
  have hstart (seeds : List Contact) :
      (h.openChannel.2.start transport goal seeds h.nextChannel).bootstrap = h.bootstrap := by
    rw [start_eq, snd_known]
    dsimp only [Host.keep]
    split <;> rfl
  cases seeds <;> exact hstart _

/-- How far a host may get when something happens. -/
inductive Bootstrap.Moves : Bootstrap → Bootstrap → Prop where
  | stays (b : Bootstrap) : Moves b b
  | seeks (c : Channel) : Moves .pinging (.lookup c)
  | ends (c : Channel) : Moves (.lookup c) .done

lemma Joins.moves [Server σ] {transport : Transport} {h' : Host σ} (hj : Joins transport h h') :
    h.bootstrap.Moves h'.bootstrap := by
  cases hj with
  | waits hb hp => exact .stays _
  | seeks hb hp => exact hb ▸ .seeks h.nextChannel
  | looks hb hitem hopen => exact .stays _
  | ends hb hitem => exact hb ▸ .ends _
  | rests hb => exact .stays _

/-- Either a host starts to look up its own identifier, or its bootstrap starts nothing. -/
lemma Joins.seek_or [Server σ] {transport : Transport} {h' : Host σ} (hj : Joins transport h h') :
    (h.bootstrap = .pinging ∧ ¬∃ p ∈ h.probes, p.waiter = none) ∧ h' = h.seek transport ∨
      (h.bootstrap = .pinging → ∃ p ∈ h.probes, p.waiter = none) ∧
        ∃ bootstrap parcels, h' = { h with bootstrap, parcels } := by
  cases hj with
  | waits hb hp => exact .inr ⟨fun _ => hp, _, _, rfl⟩
  | seeks hb hp => exact .inl ⟨⟨hb, hp⟩, rfl⟩
  | looks hb hitem hopen => exact .inr ⟨fun heq => absurd (hb.symm.trans heq) (by simp), _, _, rfl⟩
  | ends hb hitem => exact .inr ⟨fun heq => absurd (hb.symm.trans heq) (by simp), _, _, rfl⟩
  | rests hb => exact .inr ⟨fun heq => absurd (hb.symm.trans heq) (by simp), _, _, rfl⟩

namespace Life

variable [Server σ] {l : Life σ} {c : Channel}

lemma after_concat (l : Life σ) (ops : List Operation) (op : Operation) :
    l.after (ops ++ [op]) = (l.after ops).perform op :=
  List.foldl_concat ..

/-- Only when a host goes on its bootstrap does. -/
lemma bootstrap_perform {op : Operation} (hop : ∀ transport now, op ≠ .advance transport now) :
    (l.perform op).host.bootstrap = l.host.bootstrap := by
  cases op with
  | advance transport now => exact absurd rfl (hop transport now)
  | find transport goal seeds => exact bootstrap_find ..
  | _ => rfl

lemma moves_perform (l : Life σ) (op : Operation) :
    l.host.bootstrap.Moves (l.perform op).host.bootstrap := by
  rcases op.advance_or with ⟨transport, now, rfl⟩ | hop
  · exact bootstrap_ticked l.host transport now ▸ (joins_tickBootstrap _ transport).moves
  · rw [bootstrap_perform hop]
    exact .stays _

/-- A bootstrap that is over stays so. -/
lemma isBootstrapped_after (hdone : l.host.isBootstrapped = true) (ops : List Operation) :
    (l.after ops).host.isBootstrapped = true := by
  apply List.foldlRecOn (motive := fun l : Life σ => l.host.isBootstrapped = true)
  · exact hdone
  · intro l hdone op _
    have hmoves := l.moves_perform op
    rw [beq_iff_eq.1 hdone] at hmoves
    generalize hlast : (l.perform op).host.bootstrap = b at hmoves
    cases hmoves with
    | stays => exact beq_iff_eq.2 hlast

/-- A host when something happens, before its bootstrap goes on. -/
def proceeded (l : Life σ) : Operation → Host σ
  | .advance transport now => l.host.ticked transport now
  | op => (l.perform op).host

lemma perform_joined (l : Life σ) (op : Operation) :
    (({ l with host := l.host.joined } : Life σ).perform op).host = (l.proceeded op).joined := by
  cases op with
  | advance transport now => exact advance_joined ..
  | find transport goal seeds => exact find_joined ..
  | _ => rfl

lemma nextChannel_le_proceeded (l : Life σ) (op : Operation) :
    l.host.nextChannel ≤ (l.proceeded op).nextChannel := by
  have hperform : l.host.nextChannel ≤ (l.perform op).host.nextChannel := by
    rcases l.nextChannel_perform op with heq | heq <;> rw [heq]
    exact Nat.le_succ _
  cases op with
  | advance transport now => exact (nextChannel_ticked l.host transport now).ge
  | _ => exact hperform

/-- Whatever happens, all the items on the channel of the bootstrap are what its lookup reports. -/
lemma seeks_proceeded {l₀ : Lookup} {seeds : List Contact} {earlier : List Item}
    (hs : l.host.Seeks l₀ seeds earlier c) (op : Operation) :
    (l.proceeded op).Seeks l₀ seeds (earlier ++ l.taken c op) c := by
  obtain ⟨told, hfollows⟩ := hs.follows
  have hboth := follows_perform (l := { l with host := l.host.joined }) hs.spared hs.given hfollows op
  have htaken : taken { l with host := l.host.joined } c op = l.taken c op := by
    cases op <;> rfl
  rw [perform_joined, htaken] at hboth
  exact ⟨hs.given.trans_le (l.nextChannel_le_proceeded op), hboth.1, _, hboth.2⟩

/-- What is taken from a channel while things happen. -/
def handed (l : Life σ) (c : Channel) : List Operation → List Item
  | [] => []
  | op :: ops => l.taken c op ++ (l.perform op).handed c ops

lemma handed_concat (l : Life σ) (c : Channel) (ops : List Operation) (op : Operation) :
    l.handed c (ops ++ [op]) = l.handed c ops ++ (l.after ops).taken c op := by
  induction ops generalizing l with
  | nil => exact List.append_nil _
  | cons op' ops ih => exact (congrArg _ (ih _)).trans (List.append_assoc ..).symm

/-! ### Stages -/

/-- Has every tick so far found a ping of the bootstrap without a reply? -/
def AwaitsPongs (l : Life σ) (ops : List Operation) : Prop :=
  ∀ before transport now later, ops = before ++ .advance transport now :: later →
    (l.after before).host.AwaitsPong now

/-- Is a tick the first one that finds a reply to each ping of the bootstrap? -/
structure Begins (l : Life σ) (before : List Operation) (now : Nat) : Prop where
  awaited : l.AwaitsPongs before
  known : ¬(l.after before).host.AwaitsPong now

/-- A host that looks up its own identifier since a tick. -/
def Looks (l : Life σ) (before : List Operation) (transport : Transport) (now : Nat)
    (between : List Operation) (h : Host σ) : Prop :=
  let h₀ := (l.after before).host.ticked transport now
  h.Seeks h₀.ownLookup (h₀.table.closest h₀.id h₀.k)
    (((l.after before).perform (.advance transport now)).handed h₀.nextChannel between)
    h₀.nextChannel

/-- A host that looked up its own identifier since a tick, and where this lookup has delivered its
result. -/
def Delivers (l : Life σ) (before : List Operation) (transport : Transport) (now : Nat)
    (between : List Operation) (h : Host σ) : Prop :=
  let h₀ := (l.after before).host.ticked transport now
  let begun := (l.after before).perform (.advance transport now)
  ∃ l' log nodes, Lookup.Rests h₀.ownLookup (h₀.table.closest h₀.id h₀.k) log l' ∧
    l'.state.finished = true ∧ l'.reports = [.contacts nodes] ∧
    begun.handed h₀.nextChannel between ++ h.waiting h₀.nextChannel = [.report (.contacts nodes)]

/-- How far a host is once some things happened. -/
inductive Stage (l : Life σ) : List Operation → Bootstrap → Prop where
  | pings {ops : List Operation} (h : l.AwaitsPongs ops) : Stage l ops .pinging
  | looks {before between : List Operation} {transport : Transport} {now : Nat}
      (hbegins : l.Begins before now)
      (hlooks : l.Looks before transport now between
        (l.after (before ++ .advance transport now :: between)).host) :
      Stage l (before ++ .advance transport now :: between)
        (.lookup ((l.after before).host.ticked transport now).nextChannel)
  | ends {before between later : List Operation} {transport transport' : Transport} {now now' : Nat}
      (hbegins : l.Begins before now)
      (hlookup : (l.after (before ++ .advance transport now :: between)).host.bootstrap =
        .lookup ((l.after before).host.ticked transport now).nextChannel)
      (hdelivers : l.Delivers before transport now between
        ((l.after (before ++ .advance transport now :: between)).host.ticked transport' now')) :
      Stage l (before ++ .advance transport now :: (between ++ .advance transport' now' :: later))
        .done

variable {ops : List Operation}

lemma awaitsPongs_concat {op : Operation} (h : l.AwaitsPongs ops)
    (hop : ∀ transport now, op = .advance transport now → (l.after ops).host.AwaitsPong now) :
    l.AwaitsPongs (ops ++ [op]) := by
  intro before transport now later heq
  rcases List.eq_nil_or_concat' later with rfl | ⟨later, op', rfl⟩
  · obtain ⟨rfl, hlast⟩ := List.append_inj' heq rfl
    exact hop transport now (List.singleton_inj.1 hlast)
  · rw [← List.cons_append, ← List.append_assoc] at heq
    exact h before transport now later (List.append_inj' heq rfl).1

lemma proceeded_of_ne {op : Operation} (hop : ∀ transport now, op ≠ .advance transport now) :
    l.proceeded op = (l.perform op).host := by
  cases op with
  | advance transport now => exact absurd rfl (hop transport now)
  | _ => rfl

variable {before between : List Operation} {transport : Transport} {now : Nat}

lemma Looks.proceeded
    (hlooks : l.Looks before transport now between
      (l.after (before ++ .advance transport now :: between)).host) (op : Operation) :
    l.Looks before transport now (between ++ [op])
      ((l.after (before ++ .advance transport now :: between)).proceeded op) := by
  have hafter : l.after (before ++ .advance transport now :: between) =
      ((l.after before).perform (.advance transport now)).after between := l.after_append before _
  rw [hafter] at hlooks ⊢
  rw [Looks, handed_concat]
  exact seeks_proceeded hlooks op

/-- A bootstrap that is over has found the result of its lookup. -/
lemma Looks.delivers
    (hlooks : l.Looks before transport now between
      (l.after (before ++ .advance transport now :: between)).host) (transport' : Transport) (now' : Nat)
    (hitem :
      let h := (l.after (before ++ .advance transport now :: between)).host.ticked transport' now'
      let c := ((l.after before).host.ticked transport now).nextChannel
      h.hasItem c = true ∨ h.isOpen c = false) :
    l.Delivers before transport now between
      ((l.after (before ++ .advance transport now :: between)).host.ticked transport' now') := by
  have hticked := hlooks.proceeded (.advance transport' now')
  rw [Looks, handed_concat] at hticked
  obtain ⟨l', log, nodes, hrests, hended, hreports, hitems⟩ := hticked.exists_result rfl hitem
  simp only [taken, List.append_nil] at hitems
  exact ⟨l', log, nodes, hrests, hended, hreports, hitems⟩

lemma append_cons_concat (before between : List Operation) (first last : Operation) :
    before ++ first :: between ++ [last] = before ++ first :: (between ++ [last]) := by
  rw [List.append_assoc, List.cons_append]

/-- Unless a host goes on, it stays where it is. -/
lemma Stage.perform (hstage : l.Stage ops (l.after ops).host.bootstrap) {op : Operation}
    (hop : ∀ transport now, op ≠ .advance transport now) :
    l.Stage (ops ++ [op]) (l.after (ops ++ [op])).host.bootstrap := by
  rw [after_concat, bootstrap_perform hop]
  generalize (l.after ops).host.bootstrap = b at hstage
  cases hstage with
  | pings h => exact .pings (awaitsPongs_concat h fun transport now heq => absurd heq (hop transport now))
  | looks hbegins hlooks =>
    rw [append_cons_concat]
    refine .looks hbegins ?_
    rw [← append_cons_concat, after_concat, ← proceeded_of_ne hop]
    exact hlooks.proceeded op
  | ends hbegins hlookup hdelivers =>
    rw [append_cons_concat, append_cons_concat]
    exact .ends hbegins hlookup hdelivers

/-- When a host goes on, it stays where it is or gets further. -/
lemma Stage.advance (hd : (l.after ops).host.Distinct)
    (hunused : (l.after ops).host.Unused (l.after ops).host.nextChannel)
    (hstage : l.Stage ops (l.after ops).host.bootstrap) (transport : Transport) (now : Nat) :
    l.Stage (ops ++ [.advance transport now]) (l.after (ops ++ [.advance transport now])).host.bootstrap := by
  have hjoins := joins_tickBootstrap ((l.after ops).host.ticked transport now) transport
  have hbootstrap := bootstrap_ticked (l.after ops).host transport now
  have hown := exists_own_ticked_iff hd transport now
  rw [← hbootstrap] at hstage
  rw [after_concat]
  show l.Stage _ (((l.after ops).host.ticked transport now).tickBootstrap transport).bootstrap
  generalize hlast : ((l.after ops).host.ticked transport now).tickBootstrap transport = h' at hjoins
  cases hjoins with
  | waits hb hp =>
    rw [hb] at hstage ⊢
    cases hstage with
    | pings h =>
      refine .pings (awaitsPongs_concat h fun transport' now' heq => ?_)
      obtain ⟨rfl, rfl⟩ := Operation.advance.inj heq
      exact hown.1 hp
  | seeks hb hp =>
    rw [hb] at hstage
    cases hstage with
    | pings h =>
      refine .looks ⟨h, hown.not.1 hp⟩ ?_
      rw [after_concat]
      show Looks _ _ _ _ _ (((l.after ops).host.ticked transport now).tickBootstrap transport)
      rw [hlast]
      exact seeks_seek
        (nextChannel_ticked (l.after ops).host transport now ▸ hunused.ticked transport now) transport
  | looks hb hitem hopen =>
    rw [hb] at hstage ⊢
    cases hstage with
    | looks hbegins hlooks =>
      rw [append_cons_concat]
      refine .looks hbegins ?_
      rw [← append_cons_concat, after_concat]
      show Looks _ _ _ _ _ (((l.after _).host.ticked transport now).tickBootstrap transport)
      rw [hlast]
      exact hlooks.proceeded (.advance transport now)
  | ends hb hitem =>
    rw [hb] at hstage
    cases hstage with
    | looks hbegins hlooks =>
      rw [append_cons_concat]
      exact .ends hbegins (hbootstrap.symm.trans hb) (hlooks.delivers transport now hitem)
  | rests hb =>
    rw [hb] at hstage ⊢
    cases hstage with
    | ends hbegins hlookup hdelivers =>
      rw [append_cons_concat, append_cons_concat]
      exact .ends hbegins hlookup hdelivers

/-- Whatever happened, a host is where the replies to its pings and the result of its lookup put it. -/
lemma Steady.stage_after (hs : l.Steady) (hunused : ∀ c, l.host.nextChannel ≤ c → l.host.Unused c)
    (hb : l.host.bootstrap = .pinging) (ops : List Operation) :
    l.Stage ops (l.after ops).host.bootstrap := by
  induction ops using List.reverseRecOn with
  | nil =>
    show l.Stage [] l.host.bootstrap
    rw [hb]
    exact .pings fun before transport now later heq => absurd heq (by simp)
  | append_singleton ops op ih =>
    rcases op.advance_or with ⟨transport, now, rfl⟩ | hop
    · exact ih.advance (hs.after ops).distinct (unused_after hunused ops _ le_rfl) transport now
    · exact ih.perform hop

/-! ### The order of the bootstrap -/

/-- A life that joins the network in order, whatever happens. -/
structure JoinsInOrder (l : Life σ) : Prop where
  /-- Each ping of the bootstrap is settled once or still under way. -/
  pings : ∀ ops, (own ((l.ponged ops).map (·.1)) ++ own (l.after ops).host.probes).Perm l.host.probes
  /-- A response to one of them settles it when the host goes on next. -/
  heard : ∀ before transport serverClock (d : Datagram) between transport' now m payload,
    let l' := l.after before
    d.peer.port ≠ 0 → l'.host.multiplexer.isSelf d.peer = false →
    Message.decode (d.bytes.take maxRead) = .ok m → m.body = .response payload →
    ∀ p ∈ own l'.host.probes, (p.call.pollAs Ping.Answer l'.host.multiplexer).1 = none →
    ∀ t ∈ l'.host.multiplexer.transactions d.peer, t.id = m.transaction → t.ticket = p.call.ticket →
      p.address = d.peer ∧ (p, Call.parse Ping.Answer (Call.verify none ⟨d.peer, payload⟩)) ∈
        l.ponged (before ++ .receive transport serverClock d :: (between ++ [.advance transport' now]))
  /-- Whoever answers a ping is offered to the table in the tick that settles it, under the identifier of
  the answer and at the address that was pinged. -/
  offered : ∀ ops p a, (p, .ok a) ∈ l.ponged ops → ∃ before transport now later earlier others,
    ops = before ++ .advance transport now :: later ∧
    ((l.after before).host.expire now).tickProbes.table =
      (earlier ++ ({ id := a.id, address := p.address } : Contact) :: others).foldl
        (fun t c => (t.add c).2) (l.after before).host.table
  /-- A host pings, then looks up its own identifier, and then is done. -/
  moves : ∀ ops op, (l.after ops).host.bootstrap.Moves (l.after (ops ++ [op])).host.bootstrap
  /-- It pings as long as every tick finds a ping of the bootstrap without a reply. -/
  waits : ∀ ops, (l.after ops).host.bootstrap = .pinging ↔ l.AwaitsPongs ops
  /-- The first tick that does not settles the last of these pings, and then starts to look up the own
  identifier, from what the table knows by then. -/
  begins : ∀ before transport now, l.Begins before now →
    let h := (l.after before).host
    h.advance transport now = (h.ticked transport now).seek transport ∧
    (h.ticked transport now).table =
      ((settled transport (h.expire now).tickProbes.tasks
        { (h.expire now).tickProbes with tasks := [] }).map (·.2)).foldl settleVerdict
        (h.expire now).tickProbes.table ∧
    own (h.ticked transport now).probes = [] ∧
    (own ((l.ponged (before ++ [.advance transport now])).map (·.1))).Perm l.host.probes
  /-- In no other tick the bootstrap starts anything. -/
  idles : ∀ before transport now, ¬l.Begins before now → ∃ bootstrap parcels,
    (l.after before).host.advance transport now =
      { (l.after before).host.ticked transport now with bootstrap, parcels }
  /-- It is done once this lookup has delivered its result. -/
  ends : ∀ ops, (l.after ops).host.isBootstrapped = true →
    ∃ before transport now between transport' now' later,
      ops = before ++ .advance transport now :: (between ++ .advance transport' now' :: later) ∧
      l.Begins before now ∧
      (l.after (before ++ .advance transport now :: between)).host.bootstrap =
        .lookup ((l.after before).host.ticked transport now).nextChannel ∧
      l.Delivers before transport now between
        ((l.after (before ++ .advance transport now :: between)).host.ticked transport' now')
  /-- It stays so. -/
  lasts : ∀ ops later, (l.after ops).host.isBootstrapped = true →
    (l.after (ops ++ later)).host.isBootstrapped = true

lemma Stage.bootstrap_iff {b : Bootstrap} (hstage : l.Stage ops b) : b = .pinging ↔ l.AwaitsPongs ops := by
  cases hstage with
  | pings h => exact iff_of_true rfl h
  | looks hbegins _ =>
    exact iff_of_false nofun fun h => hbegins.known (h _ _ _ _ rfl)
  | ends hbegins _ _ =>
    exact iff_of_false nofun fun h => hbegins.known (h _ _ _ _ rfl)

/-- A host starts to look up its own identifier in the first tick that finds a reply to each ping of the
bootstrap. -/
lemma Steady.seek_or (hs : l.Steady) (transport : Transport) (now : Nat) :
    (l.host.bootstrap = .pinging ∧ ¬l.host.AwaitsPong now) ∧
        l.host.advance transport now = (l.host.ticked transport now).seek transport ∨
      ¬(l.host.bootstrap = .pinging ∧ ¬l.host.AwaitsPong now) ∧ ∃ bootstrap parcels,
        l.host.advance transport now = { l.host.ticked transport now with bootstrap, parcels } := by
  have hjoins := (joins_tickBootstrap (l.host.ticked transport now) transport).seek_or
  rw [bootstrap_ticked, exists_own_ticked_iff hs.distinct] at hjoins
  refine hjoins.imp_right fun ⟨hwaits, hrest⟩ => ⟨fun ⟨hb, hknown⟩ => hknown (hwaits hb), hrest⟩

omit [Server σ] in
lemma own_eq_nil {ps : List Probe} (h : ¬∃ p ∈ ps, p.waiter = none) : own ps = [] :=
  List.filter_eq_nil_iff.2 fun p hp hnone => h ⟨p, hp, Option.isNone_iff_eq_none.1 hnone⟩

/-- A life that starts with pings for which nobody waits joins the network in order. -/
lemma Steady.joinsInOrder (hs : l.Steady) (hunused : ∀ c, l.host.nextChannel ≤ c → l.host.Unused c)
    (hb : l.host.bootstrap = .pinging) (hown : own l.host.probes = l.host.probes)
    (hexpected : ∀ p ∈ l.host.probes, p.call.expected = none) : l.JoinsInOrder := by
  have hpings (ops : List Operation) := hown ▸ l.perm_own_after ops
  have hstage := hs.stage_after hunused hb
  have hbegins (before : List Operation) (now : Nat) : l.Begins before now ↔
      (l.after before).host.bootstrap = .pinging ∧ ¬(l.after before).host.AwaitsPong now := by
    rw [(hstage before).bootstrap_iff]
    exact ⟨fun h => ⟨h.awaited, h.known⟩, fun h => ⟨h.1, h.2⟩⟩
  refine ⟨hpings, ?heard, ?offered, fun ops op => ?moves, fun ops => (hstage ops).bootstrap_iff, ?begins,
    ?idles, ?ends, ?lasts⟩
  case heard =>
    intro before transport serverClock d between transport' now m payload l' hport hself hm hpayload p hp
      hnone t ht hid hticket
    have hexpect := hexpected p ((hpings before).subset (List.mem_append_right _ hp))
    obtain ⟨haddress, hmem⟩ := (hs.after before).mem_ponged_receive transport serverClock hport hself hm
      hpayload ht hid (List.mem_of_mem_filter hp) hticket.symm hnone between transport' now
    rw [hexpect] at hmem
    rw [ponged_append]
    exact ⟨haddress, List.mem_append_right _ hmem⟩
  case offered => exact fun ops p a hmem => exists_offered hmem
  case moves =>
    rw [after_concat]
    exact moves_perform _ op
  case begins =>
    intro before transport now hnow h
    rcases (hs.after before).seek_or transport now with ⟨⟨-, hknown⟩, hseek⟩ | ⟨hnot, -⟩
    · have hnone := own_eq_nil
        ((exists_own_ticked_iff (hs.after before).distinct transport now).not.2 hknown)
      have hsettled := hpings (before ++ [.advance transport now])
      have hprobes : (l.after (before ++ [.advance transport now])).host.probes =
          (h.ticked transport now).probes := by
        rw [after_concat]
        exact probes_tickBootstrap _ transport
      rw [hprobes, hnone, List.append_nil] at hsettled
      exact ⟨hseek, table_tickTasks _ transport, hnone, hsettled⟩
    · exact absurd ((hbegins before now).1 hnow) hnot
  case idles =>
    intro before transport now hnot
    rcases (hs.after before).seek_or transport now with ⟨hnow, -⟩ | ⟨-, hidle⟩
    · exact absurd ((hbegins before now).2 hnow) hnot
    · exact hidle
  case ends =>
    intro ops hdone
    have hends := hstage ops
    rw [beq_iff_eq.1 hdone] at hends
    cases hends with
    | ends hbegins hlookup hdelivers => exact ⟨_, _, _, _, _, _, _, rfl, hbegins, hlookup, hdelivers⟩
  case lasts =>
    intro ops later hdone
    rw [Life.after_append]
    exact isBootstrapped_after hdone later

/-- A host joins the network in order, from whatever addresses and whatever happens to it: ticks, datagrams,
and pings and lookups of its user. It pings these addresses for itself, and each of these pings is settled
once. Who answers is offered to the table in the tick that settles the ping, as the node that answers at
the address that was pinged. The first tick that finds none of these pings without a reply starts the
lookup of the own identifier, from the table as it is then, and no other tick does; other pings do not
matter. The bootstrap is over once this lookup has delivered its result, and stays so. -/
theorem joins_in_order (settings : Settings) (server : σ) (entropy : Entropy) (transport : Transport) :
    let l := start settings server entropy transport
    ((l.host.probes.map fun p => (p.address, p.waiter)) = settings.contacts.map fun a => (a, none)) ∧
      l.host.bootstrap = .pinging ∧ l.JoinsInOrder := by
  intro l
  have hprobes := probes_new settings server entropy transport
  have hpinging : l.host.bootstrap = .pinging := by
    apply List.foldlRecOn (motive := fun h : Host σ => h.bootstrap = .pinging)
    · rfl
    · exact fun _ hb _ _ => hb
  have hown : own l.host.probes = l.host.probes := by
    refine List.filter_eq_self.2 fun p hp => ?_
    obtain ⟨a, -, ha⟩ := List.mem_map.1 (hprobes ▸ List.mem_map_of_mem hp)
    exact Option.isNone_iff_eq_none.2 (Prod.mk.inj ha).2.symm
  exact ⟨hprobes, hpinging, (steady_start settings server entropy transport).joinsInOrder
    (fun c _ => unused_start settings server entropy transport c) hpinging hown
    (expected_new settings server entropy transport)⟩

/-- A node that was told of node 2. Its user pings node 3, node 2 answers, and the node goes on. -/
def welcomed : Life ValueService :=
  let response : Message := ⟨[0, 0, 0, 0], none, .response (Acquainted.introduction 2)⟩
  (start { Acquainted.settings with contacts := [(Acquainted.node 2).address] } Acquainted.server
    Acquainted.entropy Acquainted.transport).after
    [.ping Acquainted.transport (Acquainted.node 3).address,
      .receive Acquainted.transport 0 ⟨(Acquainted.node 2).address, response.encode⟩,
      .advance Acquainted.transport 1]

-- the ping of the user is under way, but the own lookup starts and asks node 2
example : welcomed.host.bootstrap = .lookup 1 ∧ welcomed.host.probes.map (·.waiter) = [some 0] ∧
    (welcomed.host.working 1).map (·.flights.map (·.contact)) = [[Acquainted.node 2]] := by
  decide +kernel

end Life

end Kademlia.Host
