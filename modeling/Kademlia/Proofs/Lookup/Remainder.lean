import Kademlia.Proofs.Lookup.Asking
import Kademlia.Proofs.Lookup.Gathering

/-!
# Asking for what is missing

A fetch of so many values asks a candidate only as long as values are missing, and what is known and what
the requests under way should bring together are too few. That sum is taken in a word: nodes that announce
enough to overflow it make it small again, and others are asked besides. A request is for exactly as many
values as are missing, or for all of a candidate that announced fewer. When the fetch ends the values are
there, or every candidate that announced some was asked and has landed.
-/

namespace Kademlia.Lookup

open Wire Exchange

/-! ### When a request is asked for -/

/-- Is this request asked for in a run, when the replies in `log` were taken and the requests `earlier`
were asked for? -/
inductive Issues (l : Lookup) (seeds : List Contact) : List Landing → List Ask → Ask → Prop where
  | launch {earlier later : List Ask} {a : Ask} (asks : (l.begin seeds).2 = earlier ++ a :: later) :
    Issues l seeds [] earlier a
  | look {log : List Landing} {s : Sweep} {f : Flight} {fs : List Flight} {earlier later : List Ask}
      {a : Ask} (m : Multiplexer) (before : Passes l seeds log s) (rest : s.rest = f :: fs)
      (asks : ({ s with multiplexer := m } : Sweep).asks f = earlier ++ a :: later) :
    Issues l seeds (log ++ ({ s with multiplexer := m } : Sweep).landings f) (s.lookup.asked ++ earlier) a

/-- The requests whose reply is not among those taken. -/
def underway (log : List Landing) (asks : List Ask) : List Ask :=
  asks.filter fun a => a.contact.id ∉ log.map (·.flight.contact.id)

/-- The different values known when some were known before and some replies were taken. -/
def valuesKnown (known : List Bytes) (log : List Landing) : Finset Bytes :=
  (known ++ gathered log).toFinset

/-- Is this the request to make for `count` values, when `values` of them are known and `coming` ones are
expected? A candidate that announced as many as are missing is asked for just these, and another one for
all it has; a count of zero means that no number is enough. -/
structure Ask.Needed (key : Id) (count values coming : Nat) (a : Ask) : Prop where
  announced : a.contact.announced ≠ 0
  expected : a.expected = a.contact.announced
  missing : 0 < count → values < count
  /-- The sum is compared as a word holds it, see `Ask.Needed.add_lt`. -/
  few : 0 < count → (values + coming) % Termination.wordSize count < count
  request : ∃ num, a.request = .getValue key num ∧
    (0 < count → count - values ≤ a.contact.announced → num = count - values) ∧
    (num = 0 ↔ count = 0 ∨ a.contact.announced < count - values)

/-- As long as 64 bits are enough, what is known and what is expected together are too few. -/
theorem Ask.Needed.add_lt {key : Id} {count values coming : Nat} {a : Ask}
    (h : a.Needed key count values coming) (hcount : 0 < count) (hword : values + coming < UInt64.size) :
    values + coming < count := by
  have hfew := h.few hcount
  rwa [Termination.mod_wordSize (.inl hword)] at hfew

/-! ### Whom to ask for what -/

section Schedule

variable {v : Verb} {key self : Id} {count : Nat} {seen known : List Bytes}
  {seeds : List Contact} {log : List Landing} {batches : List (List Bytes)} {s : State} {l : Lookup}
  {fs : List Flight} {earlier later : List Ask} {a : Ask}

lemma budget_ofCount (count : Nat) :
    (Termination.ofCount count).budget = if count = 0 then none else some count := by
  cases count <;> simp [Termination.ofCount, Termination.budget]

lemma isMet_iff (htermination : l.state.termination = .ofCount count) :
    l.isMet = true ↔ 0 < count ∧ count ≤ l.verb.resultCount := by
  rw [isMet, htermination]
  cases count <;> simp [Termination.ofCount, Termination.isMet, Termination.budget]

/-- Passing candidates asks one more only if those that were asked should not bring enough. -/
lemma not_reached_of_walk {cs : List Contact} (hfew : s.budgetReached v.resultCount = false)
    (hasks : (walk v cs s).2 = earlier ++ a :: later) :
    s.termination.reachedBy (v.resultCount + (s.expected + (earlier.map (·.expected)).sum)) = false := by
  induction cs generalizing s earlier with
  | nil => simp [walk] at hasks
  | cons c cs ih =>
    have hvisit := walks_visit v s c
    have hstate := hvisit.state
    have hone := length_visit_le v s c
    simp only [walk] at hasks
    split at hasks
    · -- whoever is asked last is the only one here
      rw [hasks, List.length_append, List.length_cons] at hone
      obtain rfl : earlier = [] := List.eq_nil_of_length_eq_zero (by omega)
      exact hfew
    · next hfree =>
      have hfew' : (visit v s c).1.budgetReached v.resultCount = false := by
        rw [State.isBusy, Bool.or_eq_true, not_or, Bool.not_eq_true, Bool.not_eq_true] at hfree
        exact hfree.2
      cases hask : (visit v s c).2 with
      | nil =>
        rw [hask, List.nil_append] at hasks
        have hmore := ih hfew' hasks
        rw [hask] at hstate
        rw [hvisit.alike.termination, hstate] at hmore
        simpa using hmore
      | cons b bs =>
        rw [hask, List.length_cons] at hone
        obtain rfl : bs = [] := List.eq_nil_of_length_eq_zero (by omega)
        rw [hask] at hasks hstate
        rcases earlier with _ | ⟨b', earlier⟩
        · exact hfew
        · obtain ⟨rfl, htail⟩ := List.cons.inj hasks
          have hmore := ih hfew' htail
          rw [hvisit.alike.termination, hstate] at hmore
          simpa [Nat.add_assoc] using hmore

/-- What is requested from a candidate while values are missing. -/
lemma needed_of_request {coming : Nat} (htermination : s.termination = .ofCount count)
    (hmissing : 0 < count → seen.length < count)
    (hfew : 0 < count → (seen.length + coming) % Termination.wordSize count < count)
    (hrequest : (Verb.getValue seen).request s a.contact = some (a.request, a.expected)) :
    a.Needed s.target count seen.length coming := by
  simp only [Verb.request, htermination, budget_ofCount] at hrequest
  split_ifs at hrequest with hnone hzero
  · obtain ⟨hrequest, hexpected⟩ := Prod.mk.inj (Option.some.inj hrequest)
    exact ⟨hnone, hexpected.symm, hmissing, hfew, 0, hrequest.symm, by omega, by simp [hzero]⟩
  · obtain ⟨hrequest, hexpected⟩ := Prod.mk.inj (Option.some.inj hrequest)
    dsimp only at hrequest
    have hsome := hmissing (Nat.pos_of_ne_zero hzero)
    refine ⟨hnone, hexpected.symm, hmissing, hfew, _, hrequest.symm, fun _ hle => if_pos hle, ?_⟩
    by_cases hle : count - seen.length ≤ a.contact.announced
    · rw [if_pos hle]
      omega
    · rw [if_neg hle]
      omega

/-- Whoever is scheduled is asked because more is needed, and in passing the candidates. -/
lemma asks_of_schedule (hl : l.state.finished = false) (ha : a ∈ (schedule l).2) :
    l.isMet = false ∧ l.state.budgetReached l.verb.resultCount = false ∧
      (schedule l).2 = l.advance.2 := by
  rcases schedule_cases hl with ⟨-, heq⟩ | ⟨-, -, heq⟩ | ⟨hmet, hfew, ⟨-, heq⟩ | ⟨-, heq⟩⟩
  all_goals rw [heq] at ha ⊢
  · exact absurd ha List.not_mem_nil
  · exact absurd ha List.not_mem_nil
  · exact ⟨hmet, hfew, rfl⟩
  · exact ⟨hmet, hfew, rfl⟩

/-- Whoever is scheduled is asked for what is missing then. -/
lemma needed_of_schedule (hl : l.state.finished = false)
    (htermination : l.state.termination = .ofCount count) (hverb : l.verb = .getValue seen)
    (hasks : (schedule l).2 = earlier ++ a :: later) :
    a.Needed l.state.target count seen.length
      (l.state.expected + (earlier.map (·.expected)).sum) := by
  have hmem : a ∈ (schedule l).2 := hasks ▸ List.mem_append_right _ List.mem_cons_self
  obtain ⟨hmet, hfew, hsame⟩ := asks_of_schedule hl hmem
  rw [hsame] at hasks hmem
  have hrequest := ((walks_advance l).asked a hmem).2.2
  rw [request_congr (alike_ordered l), hverb] at hrequest
  refine needed_of_request htermination (fun hcount => ?missing) (fun hcount => ?few) hrequest
  case missing =>
    rw [← Bool.not_eq_true, isMet_iff htermination, hverb] at hmet
    exact Nat.not_le.1 fun hle => hmet ⟨hcount, hle⟩
  case few =>
    have hbudget : l.ordered.termination.budget = some count := by
      rw [(alike_ordered l).termination, htermination, budget_ofCount, if_neg hcount.ne']
    have hwalk := not_reached_of_walk (s := l.ordered) hfew hasks
    rw [Termination.reachedBy_eq hbudget, hverb] at hwalk
    exact Nat.not_le.1 (of_decide_eq_false hwalk)

/-! ### What is known and what is under way -/

/-- A fetch counts the different values known. -/
lemma resultCount_eq_card (hfetches : Fetches known 0 batches l) (hgathers : Gathers known log l) :
    l.verb.resultCount = (valuesKnown known log).card := by
  have hseen : l.verb.seen = freshValues [] known ++ batches.flatten := by
    rw [hfetches.verb]
    rfl
  have hsame : l.verb.seen.toFinset = valuesKnown known log := by
    ext v
    rw [List.mem_toFinset, hgathers, valuesKnown, List.mem_toFinset, List.mem_append]
  rw [← hsame, List.toFinset_card_of_nodup (hseen ▸ hfetches.distinct), hseen, hfetches.verb]
  rfl

lemma underway_append (log : List Landing) (asks more : List Ask) :
    underway log (asks ++ more) = underway log asks ++ underway log more :=
  List.filter_append ..

/-- The requests under way are those made that have not landed. -/
lemma expected_underway {asks : List Ask} {flights : List Flight}
    (hmakes : List.Forall₂ Flight.Makes flights asks) (hperm : (made log fs).Perm flights)
    (hdistinct : ((made log fs).map (·.contact.id)).Nodup) :
    ((underway log asks).map (·.expected)).sum = (fs.map (·.expected)).sum := by
  have hfiltered : List.Forall₂ Flight.Makes
      (flights.filter fun f => f.contact.id ∉ log.map (·.flight.contact.id)) (underway log asks) :=
    List.rel_filter (fun _ _ hmake => by simp [hmake.contact]) hmakes
  have hlanded : (log.map (·.flight)).filter
      (fun f => f.contact.id ∉ log.map (·.flight.contact.id)) = [] := by
    simpa using fun d hd => ⟨d, hd, rfl⟩
  have hopen : fs.filter (fun f => f.contact.id ∉ log.map (·.flight.contact.id)) = fs := by
    rw [made, List.map_append, List.map_map] at hdistinct
    refine List.filter_eq_self.2 fun f hf => decide_eq_true fun hid => ?_
    exact (List.nodup_append.1 hdistinct).2.2 _ hid _ (List.mem_map_of_mem hf) rfl
  have hsame := hperm.filter fun f => f.contact.id ∉ log.map (·.flight.contact.id)
  rw [made, List.filter_append, hlanded, hopen, List.nil_append] at hsame
  rw [← map_expected_of_makes hfiltered]
  exact (hsame.map _).symm.sum_eq

/-- Whoever is scheduled is asked for what is missing, by what is known and under way then. -/
lemma needed_of_scheduled {flights : List Flight} (hl : l.state.finished = false)
    (htermination : l.state.termination = .ofCount count) (hfetches : Fetches known 0 batches l)
    (hgathers : Gathers known log l) (htours : Tours (.fetch known) self seeds log l fs)
    (haccounted : Accounted l fs) (hmakes : List.Forall₂ Flight.Makes flights l.asked)
    (hperm : (made log fs).Perm flights) (hasks : (schedule l).2 = earlier ++ a :: later) :
    a.Needed l.state.target count (valuesKnown known log).card
      ((underway log (l.asked ++ earlier)).map (·.expected)).sum := by
  have hneeded := needed_of_schedule hl htermination hfetches.verb hasks
  have hvalues : (freshValues [] known ++ batches.flatten).length = (valuesKnown known log).card := by
    rw [← resultCount_eq_card hfetches hgathers, hfetches.verb]
    rfl
  -- whoever landed was passed before, so the requests just asked for are all under way
  have hfresh : underway log earlier = earlier := by
    refine List.filter_eq_self.2 fun b hb => decide_eq_true fun hid => ?_
    have hmem : b ∈ (schedule l).2 := hasks ▸ List.mem_append_left _ hb
    rw [(asks_of_schedule hl hmem).2.2] at hmem
    obtain ⟨d, hd, heq⟩ := List.mem_map.1 hid
    refine ((walks_advance l).fresh b hmem).1 ?_
    rw [← heq]
    exact htours.queried d.flight (mem_made_of_mem hd fs)
  rw [underway_append, hfresh, List.map_append, List.sum_append, expected_underway hmakes hperm htours.distinct,
    ← haccounted.expected hl, ← hvalues]
  exact hneeded

end Schedule

/-! ### Runs -/

section Runs

variable {key self : Id} {count k concurrency : Nat} {known : List Bytes} {seeds : List Contact}
  {log : List Landing} {earlier later : List Ask} {a : Ask} {s : Sweep}

/-- Whatever a fetch asks for is needed. -/
lemma Issues.needed
    (h : Issues (.new (.fetch known) (.new key self (.ofCount count) k concurrency)) seeds log earlier a) :
    a.Needed key count (valuesKnown known log).card
      ((underway log earlier).map (·.expected)).sum := by
  cases h with
  | launch hasks =>
    have hready := ready_discoverAll (.fetch known) key self (.ofCount count) k concurrency seeds
    have htours := tours_discoverAll (.fetch known) key self (.ofCount count) k concurrency seeds
    have hfetches := fetches_discoverAll known 0 key self (.ofCount count) k concurrency seeds
    have hgathers := gathers_discoverAll known key self (.ofCount count) k concurrency seeds
    have hneeded := needed_of_scheduled hready.going hready.alike.termination hfetches hgathers htours
      hready.toAccounted .nil (List.Perm.refl _) hasks
    rwa [hready.alike.target] at hneeded
  | @look log s f fs earlier later a m before hrest hasks =>
    obtain ⟨hrunning, halike⟩ := before.running
    obtain ⟨⟨batches, hfetches⟩, hgathers⟩ := before.gathers
    obtain ⟨flights, hmakes, hperm⟩ := before.exists_made
    have hfront : (s.kept ++ f :: fs).Perm (f :: (s.kept ++ fs)) := List.perm_middle
    have htours : Tours (.fetch known) self seeds log s.lookup (f :: (s.kept ++ fs)) :=
      (hrest ▸ before.tours rfl).perm hfront
    have haccounted : Accounted s.lookup (f :: (s.kept ++ fs)) :=
      (hrest ▸ hrunning.toAccounted).perm hfront
    rw [hrest] at hperm
    have hmem : f ∈ s.kept ++ s.rest := by simp [hrest]
    unfold Sweep.landings Sweep.asks at *
    cases hreply : (f.call.poll m).1 with
    | none => simp [hreply] at hasks
    | some reply =>
      simp only [hreply] at hasks ⊢
      have hland : (made (log ++ [⟨f, reply, false⟩]) (s.kept ++ fs)).Perm flights := by
        rw [made_land]
        exact (hfront.symm.append_left _).trans hperm
      rcases settle_cases (hrunning.unanswered f hmem) (s.lookup.verb.parse reply) with
        ⟨-, -, hnone⟩ | ⟨hl, ⟨e, hparse⟩, -, hasks'⟩ | ⟨hl, answer, hparse, -, hasks'⟩
      · simp [hnone] at hasks
      · have halike' := halike.trans (alike_drop s.lookup f)
        have hneeded := needed_of_scheduled (l := s.lookup.drop f) hl halike'.termination
          (hfetches.congr rfl hfetches.reports) (hgathers.drop hfetches.verb_seen hparse)
          (htours.drop reply) haccounted.drop hmakes hland (hasks' ▸ hasks)
        rw [halike'.target] at hneeded
        rw [hl]
        exact hneeded
      · have halike' := halike.trans (alike_learn s.lookup f answer)
        have hopen := (finished_learn s.lookup f answer).trans hl
        obtain ⟨_, hlearned⟩ := hfetches.learn hl (by simp) f answer
        have hneeded := needed_of_scheduled hopen halike'.termination hlearned
          (hgathers.learn hfetches.verb_seen hparse) (htours.learn rfl reply answer)
          (haccounted.learn answer) hmakes hland (hasks' ▸ hasks)
        rw [halike'.target] at hneeded
        rw [hl]
        exact hneeded

/-- Whatever a lookup has asked for, it asked for when some of the replies were taken. -/
lemma Passes.issues {v : Verb} {start : State} (h : Passes (.new v start) seeds log s)
    (hasked : s.lookup.asked = earlier ++ a :: later) :
    ∃ log', log' <+: log ∧ Issues (.new v start) seeds log' earlier a := by
  induction h generalizing earlier later with
  | launch site m m' =>
    have hlaunch : ((new v start).launch site seeds m).1.asked = ((new v start).begin seeds).2 :=
      asked_schedule (.new v (start.discoverAll seeds))
    exact ⟨[], List.nil_prefix, .launch (hlaunch.symm.trans hasked)⟩
  | again m before hrest ih => exact ih hasked
  | @look log s f fs site m before hrest ih =>
    rw [asked_step] at hasked
    rcases List.append_eq_append_iff.1 hasked with ⟨new, rfl, hasks⟩ | ⟨old, hold, hrest'⟩
    · exact ⟨_, List.prefix_rfl, .look m before hrest hasks⟩
    · rcases old with _ | ⟨b, old⟩
      · rw [List.append_nil] at hold
        refine ⟨_, List.prefix_rfl, ?_⟩
        have hissue : Issues (.new v start) seeds _ (s.lookup.asked ++ []) a :=
          .look m before hrest hrest'.symm
        rwa [List.append_nil, hold] at hissue
      · obtain ⟨rfl, -⟩ := List.cons.inj hrest'
        obtain ⟨log', hprefix, hissue⟩ := ih hold
        exact ⟨log', hprefix.trans (List.prefix_append _ _), hissue⟩

/-! ### How a fetch ends -/

/-- A fetch ends because its termination is met, or with all candidates passed and nothing under way. -/
structure Concludes (candidates : List Contact) (log : List Landing) (l : Lookup) (fs : List Flight) :
    Prop where
  prompt : l.state.finished = false → ∀ d ∈ log, d.late = false
  ended : l.state.finished = true → l.isMet = true ∨
    fs = [] ∧ (∀ d ∈ log, d.late = false) ∧ ∀ c ∈ candidates, c.id ∈ l.state.queried

/-- Ending a fetch leaves the termination as it was. -/
lemma isMet_finish {l : Lookup} (hl : (Verb.fetch known).Alike l.verb) : l.finish.isMet = l.isMet := by
  obtain ⟨verb, state, flights, asked, reports⟩ := l
  cases hl
  rfl

lemma concludes_schedule {start : State} {l : Lookup} {fs new : List Flight}
    (htours : Tours (.fetch known) self seeds log l fs) (hready : Ready start l fs)
    (hprompt : ∀ d ∈ log, d.late = false) (hnew : List.Forall₂ Flight.Makes new (schedule l).2) :
    Concludes (firsts self seeds) log (schedule l).1 (fs ++ new) := by
  have hadvance := (finished_advance l).trans hready.going
  refine ⟨fun _ => hprompt, fun hended => ?_⟩
  rcases hready.schedule_cases hnew with ⟨hmet, heq, -⟩ | ⟨-, -, heq, -⟩ |
    ⟨-, hfew, hnew, ⟨hidle, heq⟩ | ⟨-, heq⟩⟩
  all_goals rw [heq] at hended ⊢
  · exact .inl ((isMet_finish htours.verb).trans hmet)
  · exact absurd (hready.going.symm.trans hended) (by simp)
  · obtain ⟨candidates, hstate⟩ := finish_eq l.advance.1
    rw [hstate]
    exact .inr ⟨hidle, hprompt, htours.passed_of_idle rfl hready hfew hnew hidle⟩
  · exact absurd (hadvance.symm.trans hended) (by simp)

lemma Passes.concludes {termination : Termination}
    (h : Passes (.new (.fetch known) (.new key self termination k concurrency)) seeds log s) :
    Concludes (firsts self seeds) log s.lookup (s.kept ++ s.rest) := by
  refine (h.induct_scheduled
    (P := fun log l fs => Tours (.fetch known) self seeds log l fs ∧
      Concludes (firsts self seeds) log l fs)
    (Q := fun log l fs => Tours (.fetch known) self seeds log l fs ∧ ∀ d ∈ log, d.late = false)
    ?congr ?start ?schedule ?late ?drop ?learn).2.2.2
  case congr =>
    rintro log l flights fs fs' ⟨htours, hconcludes⟩ hperm
    refine ⟨(htours.perm hperm).congr (.refl _) (.refl _) rfl rfl rfl, hconcludes.prompt,
      fun hended => (hconcludes.ended hended).imp_right ?_⟩
    rintro ⟨rfl, hrest⟩
    exact ⟨List.nil_perm.1 hperm, hrest⟩
  case start =>
    exact ⟨tours_discoverAll _ key self termination k concurrency seeds, by simp⟩
  case schedule =>
    rintro log l fs new hready ⟨htours, hprompt⟩ hnew
    exact ⟨htours.schedule rfl hready hnew, concludes_schedule htours hready hprompt hnew⟩
  case late =>
    -- only a fetch whose termination is met may end with requests under way
    rintro log l f others reply hl ⟨htours, hconcludes⟩
    refine ⟨htours.land reply true, fun hopen => absurd (hl.symm.trans hopen) (by simp), fun _ => ?_⟩
    exact (hconcludes.ended hl).imp_right fun ⟨hnil, _⟩ => absurd hnil (by simp)
  case drop =>
    rintro log l f others reply - hl ⟨htours, hconcludes⟩ -
    exact ⟨htours.drop reply, late_snoc (hconcludes.prompt hl) f reply⟩
  case learn =>
    rintro log l f others reply answer - hl ⟨htours, hconcludes⟩ - -
    exact ⟨htours.learn rfl reply answer, late_snoc (hconcludes.prompt hl) f reply⟩

/-- A fetch of `count` values, all there are if it is zero, asks for what is missing and does not give up
early. Each request is asked for when some replies were taken and some requests made, and is needed then:
it goes to a candidate that announced values, while the different values known are too few, also together
with those expected from the requests under way as far as a word holds the sum, and asks for exactly as
many as are missing if the candidate announced that many, and else for all. The fetch ends when there are enough values, or when every candidate that
announced some was asked and has landed. The candidates are the nodes that the seeds list, the own one
apart, each as it is listed first. -/
theorem fetch_asks_for_rest (known : List Bytes) (key self : Id) (count k concurrency : Nat)
    (seeds : List Contact) :
    let fetch := new (.fetch known) (.new key self (.ofCount count) k concurrency)
    (∀ log earlier a, Issues fetch seeds log earlier a →
      a.Needed key count (valuesKnown known log).card
        ((underway log earlier).map (·.expected)).sum) ∧
    ∀ log s, Passes fetch seeds log s →
      (∀ earlier a later, s.lookup.asked = earlier ++ a :: later →
        ∃ log', log' <+: log ∧ Issues fetch seeds log' earlier a) ∧
      (s.lookup.state.finished = true →
        0 < count ∧ count ≤ (valuesKnown known log).card ∨
        ∀ c ∈ firsts self seeds, c.announced ≠ 0 →
          (∃ a ∈ s.lookup.asked, a.contact = c) ∧
            ∃ d ∈ log, d.late = false ∧ d.flight.contact = c) := by
  intro fetch
  refine ⟨fun log earlier a hissues => hissues.needed, fun log s h =>
    ⟨fun earlier a later hasked => h.issues hasked, fun hfinished => ?_⟩⟩
  obtain ⟨-, halike⟩ := h.running
  rcases h.concludes.ended hfinished with hmet | ⟨hnil, hprompt, hpassed⟩
  · obtain ⟨⟨batches, hfetches⟩, hgathers⟩ := h.gathers
    left
    rw [← resultCount_eq_card hfetches hgathers]
    exact (isMet_iff halike.termination).1 hmet
  · right
    intro c hc hannounced
    have htours := h.tours rfl
    rw [hnil] at htours
    have hasks : (Verb.fetch known).asks c = true := by simpa [Verb.fetch, Verb.asks] using hannounced
    obtain ⟨d, hd, rfl⟩ := htours.landed hc (hpassed c hc) hasks
    obtain ⟨a, ha, hmakes⟩ := htours.requested d.flight (mem_made_of_mem hd _)
    exact ⟨⟨a, ha, hmakes.contact.symm⟩, d, hd, hprompt d hd, rfl⟩

end Runs

namespace Overshoot

/-- The sweep of the other fetch once its request failed. -/
def failed : Sweep :=
  ({ started with multiplexer := holding [⟨0, .error .stopped⟩] } : Sweep).step site
    ⟨holder 1 3, 3, ⟨0, some (holder 1 3).id⟩⟩ []

/-- Node 9 lists itself, and node 1 twice: it announces a value at its second address only. -/
def listed : List Contact :=
  [holder 9 1, holder 1 0, { holder 1 1 with address := (holder 2 0).address }]

/-- A fetch of one value by node 9, which holds none. -/
def fetchOne : Lookup :=
  new (.fetch []) (.new (holder 0 0).id (holder 9 0).id (.ofCount 1) 2 3)

def launched : Sweep :=
  ⟨(fetchOne.launch site listed (holding [])).1, holding [], [],
    (fetchOne.launch site listed (holding [])).1.flights, []⟩

/-- The request to node 1, which announces as many values as a word can count. -/
def lavish : Ask :=
  ⟨holder 1 (UInt64.size - 1), .getValue (holder 0 0).id 1, UInt64.size - 1⟩

/-- The request to node 2, which announces one. -/
def spare : Ask :=
  ⟨holder 2 1, .getValue (holder 0 0).id 1, 1⟩

end Overshoot

/-- With one of two values known, the other one is asked for. When that fails the fetch ends with one value,
and everybody was asked. -/
theorem fetch_asks_for_one :
    let ask : Ask := ⟨Overshoot.holder 1 3, .getValue (Overshoot.holder 0 0).id 1, 3⟩
    Issues Overshoot.fetch [Overshoot.holder 1 3] [] [] ask ∧
      ask.Needed (Overshoot.holder 0 0).id 2 1 0 ∧
      ∃ log, Passes Overshoot.fetch [Overshoot.holder 1 3] log Overshoot.failed ∧
        Overshoot.failed.lookup.state.finished = true ∧ ¬ 2 ≤ (valuesKnown [[1]] log).card ∧
        (∃ a ∈ Overshoot.failed.lookup.asked, a.contact = Overshoot.holder 1 3) ∧
        ∃ d ∈ log, d.late = false ∧ d.flight.contact = Overshoot.holder 1 3 := by
  intro ask
  obtain ⟨hneeded, hends⟩ := fetch_asks_for_rest [[1]] (Overshoot.holder 0 0).id
    (Overshoot.holder 9 0).id 2 2 3 [Overshoot.holder 1 3]
  have hissues : Issues Overshoot.fetch [Overshoot.holder 1 3] [] [] ask := .launch (by cbv)
  have hstarted : Passes Overshoot.fetch [Overshoot.holder 1 3] [] Overshoot.started :=
    .launch Overshoot.site (Overshoot.holding []) (Overshoot.holding [])
  have hfailed := hstarted.look Overshoot.site (Overshoot.holding [⟨0, .error .stopped⟩])
    (f := ⟨Overshoot.holder 1 3, 3, ⟨0, some (Overshoot.holder 1 3).id⟩⟩) (by cbv)
  have hfinished : Overshoot.failed.lookup.state.finished = true := by cbv
  refine ⟨hissues, hneeded [] [] ask hissues, _, hfailed, hfinished, ?few, ?landed⟩
  case few => cbv
  case landed =>
    have hfirst : firsts (Overshoot.holder 9 0).id [Overshoot.holder 1 3] = [Overshoot.holder 1 3] := by
      cbv
    rcases (hends _ _ hfailed).2 hfinished with ⟨-, hmany⟩ | hall
    · exact absurd hmany (by cbv)
    · exact hall _ (hfirst ▸ List.mem_singleton_self _) (by decide)

/-- A fetch ends with no value when only listings that it does not consider announced some: its own one, and
one of a node that was listed before. -/
theorem fetch_skips_listed :
    Passes Overshoot.fetchOne Overshoot.listed [] Overshoot.launched ∧
      Overshoot.launched.lookup.state.finished = true ∧ ¬ 1 ≤ (valuesKnown [] []).card ∧
      (∃ c ∈ Overshoot.listed, c.announced ≠ 0) ∧
      ∀ c ∈ Overshoot.listed, ¬ ∃ a ∈ Overshoot.launched.lookup.asked, a.contact = c := by
  refine ⟨.launch _ _ _, by cbv, by decide, by decide, ?_⟩
  have hnobody : Overshoot.launched.lookup.asked = [] := by cbv
  simp [hnobody]

/-- With one of two values known and more expected than are missing, the sum is zero in a word, and another
node is asked. -/
theorem fetch_asks_past_overflow :
    Issues Overshoot.fetch [Overshoot.lavish.contact, Overshoot.spare.contact] [] [Overshoot.lavish]
        Overshoot.spare ∧
      ¬ (valuesKnown [[1]] []).card + ((underway [] [Overshoot.lavish]).map (·.expected)).sum < 2 := by
  have hlaunch : (Overshoot.fetch.begin [Overshoot.lavish.contact, Overshoot.spare.contact]).2 =
      [Overshoot.lavish] ++ Overshoot.spare :: [] := by cbv
  exact ⟨.launch hlaunch, by decide⟩

end Kademlia.Lookup
