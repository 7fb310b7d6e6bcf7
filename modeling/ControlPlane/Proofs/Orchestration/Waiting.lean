import ControlPlane.Proofs.Orchestration.Arising
import ControlPlane.Proofs.Orchestration.Unfolding
import Mathlib.Logic.Relation

/-!
# Who waits for whom

The runner keeps the pipeline and the desk while it waits for the workers, and the output listener,
which is one of them, may wait for the desk. What keeps the two from waiting for each other is that
the listener is told to stop before its end is waited for, and that it needs no lock to do so.

## Main definitions

- `Need`: what a party may wait for.
- `Orchestration.need?`, `Orchestration.provider?`: what a party waits for, and who has it.
- `Orchestration.WaitsFor`: a party can do nothing before another one has.
- `Orchestration.Flowing`: nobody waits in vain.

## Main statements

- `Orchestration.rank_lt_of_waitsFor`: whoever is waited for is closer to getting on.
- `Orchestration.Arises.flowing`: nobody ever waits in vain.
-/

namespace ControlPlane

/-- What a party may wait for. -/
inductive Need
  | pipeline
  | desk
  /-- The ready signal of the output listener. -/
  | signal
  /-- The end of the output listener. -/
  | ending
deriving DecidableEq

/-- Whether somebody has it until it is given up. -/
def Need.isLock : Need → Bool
  | .pipeline => true
  | .desk => true
  | _ => false

/-! ## What the parties wait for -/

/-- What a wait for the output listener is for. -/
def ReadyWait.need : ReadyWait → Need
  | .signal _ _ => .signal
  | .ending => .ending

/-- What a bootstrap waits for that has come to the last of its workers. -/
def Bootstrap.need? (b : Bootstrap) : Option Need :=
  match b.phase, b.members[b.members.length - 1]? with
  | .awaiting position (some wait), some m =>
    if position = b.members.length - 1 then
      match (m.handle.lookReady m.task b.now wait).1 with
      | .waiting wait => some wait.need
      | .done _ => none
    else none
  | .draining position _, some m =>
    if position = b.members.length - 1 ∧ m.handle.lookEnd m.task = none then some .ending else none
  | _, _ => none

/-- A supervision waits for the end of the last of its workers, among others. -/
def Supervision.need? (s : Supervision) : Option Need :=
  match s.members[s.members.length - 1]? with
  | some m =>
    if s.members.length - 1 ∈ s.unseen ∧ m.handle.lookEnd m.task = none then some .ending else none
  | none => none

/-- What the runner waits for. -/
def Run.Phase.need? : Run.Phase → Option Need
  | .waiting => some .pipeline
  | .approaching => some .desk
  | .starting b => b.need?
  | .stopping _ s => s.need?
  | .supervising s => s.need?
  | _ => none

/-- What a caller waits for. -/
def Caller.Phase.need? : Caller.Phase → Option Need
  | .waiting => some .pipeline
  | .approaching => some .desk
  | _ => none

/-- What the output listener waits for when it has an event. -/
def Listener.Phase.need? : Listener.Phase → Option Need
  | .waiting _ => some .desk
  | _ => none

/-- Whether the listener has yet to say that it is ready. -/
def Run.hasSignal (r : Run) : Bool :=
  r.members[Orchestration.listenerPosition r]?.any (·.task.signal = .held)

namespace Orchestration

/-- What a party waits for. -/
def need? (o : Orchestration) : Party → Option Need
  | .runner => o.run.bind (·.phase.need?)
  | .listener => o.run.bind (·.listener.phase.need?)
  | .caller i => o.callers[i]?.bind (·.phase.need?)

/-- Who has what is waited for. -/
def provider? (o : Orchestration) : Need → Option Party
  | .pipeline => o.holder
  | .desk => o.desk.holder
  | .signal => some .listener
  | .ending => some .listener

/-- Whether a party has another step to make, whatever it waits for: a listener that has been told
to stop can end, and one that has yet to say that it is ready can do that. -/
def isFree (o : Orchestration) (p : Party) : Bool :=
  p = .listener && o.run.any fun r => r.told || r.hasSignal

/-- A party can do nothing until another one gives up a lock or gets on. -/
def WaitsFor (o : Orchestration) (p q : Party) : Prop :=
  o.isFree p = false ∧ ∃ need, o.need? p = some need ∧ o.provider? need = some q

/-- The control plane with the pipeline and the desk in the hands of whomever. -/
def inHands (o : Orchestration) (holder seat : Option Party) : Orchestration :=
  { o with holder, desk := { o.desk with holder := seat } }

/-- A move that can be made whoever has the pipeline and the desk, and that takes neither from
anybody. `P` is what comes of it. -/
def NeedsNoLock (plan : Plan) (o : Orchestration) (m : Move) (P : Run → Prop) : Prop :=
  ∀ (c : Collaborators) (holder seat : Option Party), ∃ q r,
    (o.inHands holder seat).next c plan m = some q ∧ q.holder = holder ∧ q.desk.holder = seat ∧
      q.run = some r ∧ P r

/-- Nobody waits in vain. -/
structure Flowing (plan : Plan) (o : Orchestration) : Prop where
  /-- Whoever waits for the pipeline holds nothing. -/
  pipeline : ∀ p, o.need? p = some .pipeline → o.holder ≠ some p ∧ o.desk.holder ≠ some p
  /-- Whoever waits for the desk holds at most the pipeline. -/
  desk : ∀ p, o.need? p = some .desk → o.desk.holder ≠ some p
  /-- Whoever is at the desk waits for no lock. -/
  seated : ∀ p need, o.desk.holder = some p → o.need? p = some need → need.isLock = false
  /-- If the runner waits at the desk for the end of the listener, the listener has been told to
  stop, and it needs no lock to end. -/
  ending : o.desk.holder = some .runner → o.need? .runner = some .ending →
    (∃ r, o.run = some r ∧ r.told = true) ∧
      o.NeedsNoLock plan (.listen .stop) (·.listener.hasEnded = true)
  /-- If it waits there for the listener to be ready, the listener has yet to say so. -/
  signal : o.desk.holder = some .runner → o.need? .runner = some .signal →
    ∃ r, o.run = some r ∧ r.hasSignal = true
  /-- A listener that has yet to say that it is ready needs no lock to do so. -/
  announce : ∀ r, o.run = some r → r.hasSignal = true →
    o.NeedsNoLock plan .announce (·.hasSignal = false)
  /-- A listener that has been told to stop needs no lock to end, even if it waits for the desk. -/
  stop : ∀ r, o.run = some r → r.told = true → o.need? .listener = some .desk →
    o.NeedsNoLock plan (.listen .stop) (·.listener.hasEnded = true)
  acyclic : ∀ p, ¬ Relation.TransGen o.WaitsFor p p

end Orchestration

/-! ## Looks at the listener -/

namespace Member

variable {m : Member}

theorem hasEnded_of_lookEnd (h : m.handle.lookEnd m.task = none) : m.task.hasEnded = false := by
  unfold Handle.lookEnd at h
  split at h
  · cases h
  · split at h
    · rw [Task.hasEnded, h]
      rfl
    · cases h

/-- A worker that does not give its signal up as long as it runs is waited for only until it has
sent it. -/
theorem held_of_lookReady {now : Instant} {wait wait' : ReadyWait} (h : m.Awaited wait)
    (hdropped : m.task.signal = .dropped → m.task.hasEnded = true)
    (hlook : (m.handle.lookReady m.task now wait).1 = .waiting wait') :
    m.task.signal = .held ∧ wait'.need = .signal := by
  have hending : (m.handle.lookEnding m.task).1 = .waiting wait' → m.task.hasEnded = false := by
    intro hlook
    unfold Handle.lookEnding at hlook
    split at hlook
    · next hnone =>
      rw [Task.hasEnded, hnone]
      rfl
    · cases hlook
  cases wait with
  | ending =>
    have hended := hdropped h.2
    rw [hending hlook] at hended
    cases hended
  | signal deadline limit =>
    have hh : m.handle = { listening := false } := h
    cases hs : m.task.signal with
    | sent => simp [Handle.lookReady, hs] at hlook
    | dropped =>
      have hended := hdropped hs
      simp only [Handle.lookReady, hs, hh, if_true] at hlook
      unfold Handle.lookEnding at hlook
      split at hlook
      · next hnone =>
        rw [Task.hasEnded, hnone] at hended
        cases hended
      · cases hlook
    | held =>
      simp only [Handle.lookReady, hs] at hlook
      split at hlook
      · cases hlook
      · cases hlook
        exact ⟨rfl, rfl⟩

end Member

/-- What a bootstrap waits for is no lock. While it waits for the listener to be ready, the listener
has its signal; while it waits for the listener to end, the listener has been told to stop. -/
theorem Bootstrap.Sound.need?_cases {b : Bootstrap} (h : b.Sound) {l : Listener}
    (hl : l.RunsLast b.members) {need : Need} (hneed : b.need? = some need) :
    (need = .signal ∧ b.members[b.members.length - 1]?.any (·.task.signal = .held) = true) ∨
      (need = .ending ∧ b.tokens.cancelled = true ∧ l.hasEnded = false) := by
  obtain ⟨m, hm, hruns⟩ := hl
  unfold need? at hneed
  split at hneed
  · next position wait n hphase hn =>
    obtain rfl := Option.some.inj (hm.symm.trans hn)
    split at hneed
    · next hlast =>
      have hfits := (h.fits_phase hphase hm).2.2 hlast.symm
      split at hneed
      · next wait' hlook =>
        obtain ⟨hheld, hsignal⟩ := m.held_of_lookReady hfits hruns.dropped hlook
        refine .inl ⟨?_, ?_⟩
        · rw [← hsignal]
          exact (Option.some.inj hneed).symm
        · rw [hm]
          simpa using hheld
      · cases hneed
    · cases hneed
  · next position error n hphase hn =>
    obtain rfl := Option.some.inj (hm.symm.trans hn)
    split at hneed
    · next hlook =>
      have herror : b.phase.error? = some error := by
        rw [hphase]
        rfl
      have htold : b.tokens.set = true := (h.told herror).1
      refine .inr ⟨(Option.some.inj hneed).symm, ?_, ?_⟩
      · rw [Tokens.cancelled, htold, Bool.or_true]
      · exact hruns.ended.symm.trans (m.hasEnded_of_lookEnd hlook.2)
    · cases hneed
  · cases hneed

theorem Bootstrap.isLock_of_need? {b : Bootstrap} {need : Need} (h : b.need? = some need) :
    need.isLock = false := by
  unfold need? at h
  split at h
  · split at h
    · split at h
      · next wait _ =>
        cases h
        cases wait <;> rfl
      · cases h
    · cases h
  · split at h
    · cases h
      rfl
    · cases h
  · cases h

theorem Supervision.isLock_of_need? {s : Supervision} {need : Need} (h : s.need? = some need) :
    need.isLock = false := by
  unfold need? at h
  split at h
  · split at h
    · cases h
      rfl
    · cases h
  · cases h

/-! ## What a party holds that waits -/

/-- If the runner waits for anything but a lock and has the pipeline, it is at the desk as well. -/
theorem Run.Phase.need?_cases {phase : Run.Phase} {need : Need} (h : phase.need? = some need) :
    (need = .pipeline ∧ phase.standing = .outside) ∨
      (need = .desk ∧ phase.standing.isAtDesk = false) ∨
      (need.isLock = false ∧
        (phase.standing.hasPipeline = true → phase.standing.isAtDesk = true)) := by
  cases phase with
  | waiting =>
    cases h
    exact .inl ⟨rfl, rfl⟩
  | approaching =>
    cases h
    exact .inr (.inl ⟨rfl, rfl⟩)
  | starting b => exact .inr (.inr ⟨Bootstrap.isLock_of_need? h, fun _ => rfl⟩)
  | stopping e s =>
    refine .inr (.inr ⟨Supervision.isLock_of_need? h, fun hhas => ?_⟩)
    have hnone : e.standing.hasPipeline = true := hhas
    rw [e.hasPipeline_standing] at hnone
    cases hnone
  | supervising s => exact .inr (.inr ⟨Supervision.isLock_of_need? h, nofun⟩)
  | _ => cases h

/-- At the desk the runner waits only while the workers are being brought up. -/
theorem Run.Phase.exists_starting {phase : Run.Phase} {need : Need}
    (hat : phase.standing.isAtDesk = true) (h : phase.need? = some need) :
    ∃ b, phase = .starting b ∧ b.need? = some need := by
  cases phase with
  | starting b => exact ⟨b, rfl, h⟩
  | stopping e s =>
    have hnone : e.standing.isAtDesk = true := hat
    rw [Standing.isAtDesk_of_hasPipeline e.hasPipeline_standing] at hnone
    cases hnone
  | waiting => cases hat
  | approaching => cases hat
  | supervising s => cases hat
  | _ => cases h

theorem Listener.Phase.need?_cases {phase : Listener.Phase} {need : Need}
    (h : phase.need? = some need) : ∃ event, phase = .waiting event ∧ need = .desk := by
  cases phase with
  | waiting event =>
    cases h
    exact ⟨event, rfl, rfl⟩
  | _ => cases h

theorem Caller.Phase.need?_cases {phase : Caller.Phase} {need : Need}
    (h : phase.need? = some need) :
    (need = .pipeline ∧ phase.standing = .outside) ∨
      (need = .desk ∧ phase.standing.isAtDesk = false) := by
  cases phase with
  | waiting =>
    cases h
    exact .inl ⟨rfl, rfl⟩
  | approaching =>
    cases h
    exact .inr ⟨rfl, rfl⟩
  | _ => cases h

namespace Orchestration

variable {plan : Plan} {d : Desk} {o : Orchestration} {p q : Party} {r : Run} {need : Need}

/-- Whoever waits for the pipeline has nothing, whoever waits for the desk is not at it, and nobody
but the runner waits for anything else. -/
theorem need?_cases (h : o.need? p = some need) :
    (need = .pipeline ∧ p ≠ .listener ∧ o.standing p = .outside) ∨
      (need = .desk ∧ (o.standing p).isAtDesk = false) ∨
      (p = .runner ∧ need.isLock = false ∧
        ((o.standing p).hasPipeline = true → (o.standing p).isAtDesk = true)) := by
  cases p with
  | runner =>
    obtain ⟨r, hr, h⟩ := Option.bind_eq_some_iff.1 h
    rw [standing_runner hr]
    rcases Run.Phase.need?_cases h with ⟨hneed, hout⟩ | hdesk | hother
    · exact .inl ⟨hneed, by simp, hout⟩
    · exact .inr (.inl hdesk)
    · exact .inr (.inr ⟨rfl, hother⟩)
  | listener =>
    obtain ⟨r, hr, h⟩ := Option.bind_eq_some_iff.1 h
    obtain ⟨event, hphase, hneed⟩ := Listener.Phase.need?_cases h
    rw [standing_listener hr, hphase]
    exact .inr (.inl ⟨hneed, rfl⟩)
  | caller i =>
    obtain ⟨x, hx, h⟩ := Option.bind_eq_some_iff.1 h
    have hstanding : o.standing (.caller i) = x.phase.standing := by simp [standing, hx]
    rw [hstanding]
    rcases Caller.Phase.need?_cases h with ⟨hneed, hout⟩ | hdesk
    · exact .inl ⟨hneed, by simp, hout⟩
    · exact .inr (.inl hdesk)

theorem need?_of_seated (hlocks : o.floor.Locks) (hat : o.desk.holder = some p)
    (h : o.need? p = some need) : p = .runner ∧ need.isLock = false := by
  have hstanding : (o.standing p).isAtDesk = true := (hlocks.desk p).1 hat
  rcases need?_cases h with ⟨-, -, hout⟩ | ⟨-, haway⟩ | ⟨hp, hlock, -⟩
  · rw [hout] at hstanding
    cases hstanding
  · rw [haway] at hstanding
    cases hstanding
  · exact ⟨hp, hlock⟩

/-- What the runner waits for at the desk. -/
theorem waits_at_desk (h : r.Attended) (hr : o.run = some r)
    (hat : (o.standing .runner).isAtDesk = true) (hneed : o.need? .runner = some need) :
    (need = .signal ∧ r.hasSignal = true) ∨
      (need = .ending ∧ r.told = true ∧ r.listener.hasEnded = false) := by
  have hphase : r.phase.need? = some need := by simpa [need?, hr] using hneed
  rw [standing_runner hr] at hat
  obtain ⟨b, hstarting, hwaits⟩ := Run.Phase.exists_starting hat hphase
  have hb : b.Sound := (h.of_phase hstarting).sound
  have hl : r.listener.RunsLast b.members := (h.of_phase hstarting).last rfl
  rcases hb.need?_cases hl hwaits with ⟨hsignal, hheld⟩ | ⟨hending, htold, hopen⟩
  · have hmembers : r.members = b.members := by simp [Run.members, hstarting]
    refine .inl ⟨hsignal, ?_⟩
    rw [Run.hasSignal, listenerPosition, hmembers]
    exact hheld
  · have htokens : r.tokens? = some b.tokens := by simp [Run.tokens?, hstarting]
    refine .inr ⟨hending, ?_, hopen⟩
    rw [Run.told, htokens]
    exact htold

/-! ## Steps that need no lock -/

/-- A listener that has been told to stop ends without asking for the desk. -/
theorem needsNoLock_stop (hr : o.run = some r) (htold : r.told = true)
    (hopen : r.listener.hasEnded = false) (haway : r.listener.phase.standing.isAtDesk = false) :
    o.NeedsNoLock plan (.listen .stop) (·.listener.hasEnded = true) := by
  intro c holder seat
  obtain ⟨tokens, htokens, hcancelled⟩ := (Option.any_eq_true _ _).1 htold
  let l : Listener := { r.listener with phase := .ended (.ok ()) }
  have hstop : r.listener.next plan.terms plan.receiveLimit tokens.cancelled
      (o.inHands holder seat).desk .stop = some (l, (o.inHands holder seat).desk) := by
    cases hphase : r.listener.phase with
    | idle => simp [Listener.next, hcancelled, hphase, l]
    | waiting event => simp [Listener.next, hcancelled, hphase, l]
    | sending event parcel =>
      rw [hphase] at haway
      cases haway
    | ended outcome =>
      rw [Listener.hasEnded, hphase] at hopen
      cases hopen
  let s : Run := { r with listener := l }
  refine ⟨{ o.inHands holder seat with
    run := some (s.act (listenerPosition s) (.finish .returned)) }, _, ?_, rfl, rfl, rfl, ?_⟩
  · show (o.run.bind fun r => (o.inHands holder seat).listen plan r .stop) = _
    rw [hr, Option.bind_some, listen, htokens, Option.bind_eq_bind, Option.bind_some, hstop]
    rfl
  · show (s.act _ _).listener.hasEnded = true
    rw [listener_act]
    rfl

theorem exists_of_hasSignal (h : r.hasSignal = true) :
    ∃ m, r.members[listenerPosition r]? = some m ∧ m.task.signal = .held := by
  obtain ⟨m, hm, hheld⟩ := (Option.any_eq_true _ _).1 h
  exact ⟨m, hm, of_decide_eq_true hheld⟩

/-- A listener that has its ready signal can send it without asking for anything. -/
theorem needsNoLock_announce (hr : o.run = some r) (h : r.Attended) (hsignal : r.hasSignal = true) :
    o.NeedsNoLock plan .announce (·.hasSignal = false) := by
  intro c holder seat
  obtain ⟨m, hm, hheld⟩ := exists_of_hasSignal hsignal
  have hsome : r.members ≠ [] := by
    rintro hnone
    rw [hnone] at hm
    cases hm
  obtain ⟨n, hn, hruns⟩ := h.last (isSome_tokens?_of_members hsome)
  obtain rfl := Option.some.inj (hm.symm.trans hn)
  refine ⟨{ o.inHands holder seat with run := some (r.act (listenerPosition r) .signal) }, _, ?_,
    rfl, rfl, rfl, ?_⟩
  · show (o.run.bind fun r => if r.members.isEmpty then none
      else some { o.inHands holder seat with run := some (r.act (listenerPosition r) .signal) }) = _
    rw [hr, Option.bind_some, if_neg (by simpa using hsome)]
  · -- The task still runs, so the signal is sent.
    have hopen : ¬m.task.outcome.isSome = true := by
      intro hended
      have hruns := hruns.held hheld
      rw [Task.hasEnded, hended] at hruns
      cases hruns
    have hstep : m.task.step r.told .signal = { m.task with signal := .sent } := by
      rw [Task.step, if_neg hopen, Task.resolve, if_pos hheld]
    have hlast : (r.act (listenerPosition r) .signal).members[listenerPosition r]? =
        some (m.act r.told .signal) := by
      rw [Run.members_act, List.getElem?_modify, hm]
      exact congrArg some (if_pos rfl)
    have hposition :
        listenerPosition (r.act (listenerPosition r) .signal) = listenerPosition r := by
      rw [listenerPosition, Run.members_act, List.length_modify]
      rfl
    show Run.hasSignal _ = false
    rw [Run.hasSignal, hposition, hlast, Option.any_some, Member.act, hstep]
    rfl

/-! ## No cycle -/

/-- How far a party is from getting on that waits for something. -/
def cost (o : Orchestration) (p : Party) : Need → Nat
  | .pipeline => 4
  | .desk => 3
  | .signal => if o.desk.holder = some p then 2 else 5
  | .ending => if o.desk.holder = some p then 2 else 5

/-- How far a party is from getting on. -/
def rank (o : Orchestration) (p : Party) : Nat :=
  if o.isFree p then 0 else (o.need? p).elim 0 (o.cost p)

theorem rank_le {n : Nat} (h : ∀ need, o.need? p = some need → o.cost p need ≤ n) :
    o.rank p ≤ n := by
  unfold rank
  split
  · exact Nat.zero_le n
  · cases hneed : o.need? p with
    | none => exact Nat.zero_le n
    | some need => exact h need hneed

theorem cost_of_not_isLock (hlock : need.isLock = false) :
    o.cost p need = if o.desk.holder = some p then 2 else 5 := by
  cases need with
  | pipeline => cases hlock
  | desk => cases hlock
  | signal => rfl
  | ending => rfl

theorem rank_le_of_seated (hlocks : o.floor.Locks) (hat : o.desk.holder = some p) :
    o.rank p ≤ 2 := by
  refine rank_le fun need hneed => ?_
  obtain ⟨-, hlock⟩ := need?_of_seated hlocks hat hneed
  exact Nat.le_of_eq ((cost_of_not_isLock hlock).trans (if_pos hat))

theorem rank_le_of_holder (hlocks : o.floor.Locks) (hholds : o.holder = some p) :
    o.rank p ≤ 3 := by
  have hstanding : (o.standing p).hasPipeline = true := ((hlocks.pipeline p).1 hholds).2
  refine rank_le fun need hneed => ?_
  rcases need?_cases hneed with ⟨-, -, hout⟩ | ⟨rfl, -⟩ | ⟨-, hlock, hdesk⟩
  · rw [hout] at hstanding
    cases hstanding
  · exact Nat.le_refl 3
  · have hat : o.desk.holder = some p := (hlocks.desk p).2 (hdesk hstanding)
    rw [cost_of_not_isLock hlock, if_pos hat]
    decide

theorem rank_listener_le : o.rank .listener ≤ 3 := by
  refine rank_le fun need hneed => ?_
  rcases need?_cases hneed with ⟨-, hne, -⟩ | ⟨rfl, -⟩ | ⟨hp, -⟩
  · exact absurd rfl hne
  · exact Nat.le_refl 3
  · cases hp

/-- While the runner waits at the desk, the listener has a step to make. -/
theorem isFree_of_waits_at_desk (hattended : o.Attended) (hlocks : o.floor.Locks)
    (hat : o.desk.holder = some .runner) (hneed : o.need? .runner = some need) :
    o.isFree .listener = true := by
  obtain ⟨r, hr, -⟩ := Option.bind_eq_some_iff.1 hneed
  have hstanding : (o.standing .runner).isAtDesk = true := (hlocks.desk .runner).1 hat
  rcases waits_at_desk (hattended r hr) hr hstanding hneed with ⟨-, hsignal⟩ | ⟨-, htold, -⟩
  · simp [isFree, hr, hsignal]
  · simp [isFree, hr, htold]

/-- The listener is closer to getting on than the runner that waits for it. -/
theorem rank_listener_lt (hattended : o.Attended) (hlocks : o.floor.Locks)
    (hneed : o.need? p = some need) (hlock : need.isLock = false) :
    o.rank .listener < o.cost p need := by
  have hp : p = .runner := by
    rcases need?_cases hneed with ⟨rfl, -⟩ | ⟨rfl, -⟩ | ⟨hp, -⟩
    · cases hlock
    · cases hlock
    · exact hp
  subst hp
  rw [cost_of_not_isLock hlock]
  by_cases hat : o.desk.holder = some .runner
  · have hfree := isFree_of_waits_at_desk hattended hlocks hat hneed
    rw [if_pos hat, rank, if_pos hfree]
    decide
  · rw [if_neg hat]
    exact Nat.lt_of_le_of_lt rank_listener_le (by decide)

/-- Whoever is waited for is closer to getting on. -/
theorem rank_lt_of_waitsFor (hattended : o.Attended) (hlocks : o.floor.Locks)
    (h : o.WaitsFor p q) : o.rank q < o.rank p := by
  obtain ⟨hbound, need, hneed, hprovider⟩ := h
  have hrank : o.rank p = o.cost p need := by simp [rank, hbound, hneed]
  rw [hrank]
  cases need with
  | pipeline => exact Nat.lt_succ_of_le (rank_le_of_holder hlocks hprovider)
  | desk => exact Nat.lt_succ_of_le (rank_le_of_seated hlocks hprovider)
  | signal =>
    cases hprovider
    exact rank_listener_lt hattended hlocks hneed rfl
  | ending =>
    cases hprovider
    exact rank_listener_lt hattended hlocks hneed rfl

/-- Nobody ever waits in vain, whatever the workers do and whatever else happens. -/
theorem Arises.flowing (ho : Arises plan d o) : o.Flowing plan where
  pipeline p hneed := by
    rcases need?_cases hneed with ⟨-, -, hout⟩ | ⟨hother, -⟩ | ⟨-, hlock, -⟩
    · constructor
      · intro hholds
        have hhas : (o.standing p).hasPipeline = true := ((ho.locks.pipeline p).1 hholds).2
        rw [hout] at hhas
        cases hhas
      · intro hat
        have hstanding : (o.standing p).isAtDesk = true := (ho.locks.desk p).1 hat
        rw [hout] at hstanding
        cases hstanding
    · cases hother
    · cases hlock
  desk p hneed hat := by
    obtain ⟨-, hlock⟩ := need?_of_seated ho.locks hat hneed
    cases hlock
  seated p need hat hneed := (need?_of_seated ho.locks hat hneed).2
  ending hat hneed := by
    obtain ⟨r, hr, -⟩ := Option.bind_eq_some_iff.1 hneed
    have hstanding : (o.standing .runner).isAtDesk = true := (ho.locks.desk .runner).1 hat
    rcases waits_at_desk (ho.attended r hr) hr hstanding hneed with ⟨hother, -⟩ |
      ⟨-, htold, hopen⟩
    · cases hother
    · refine ⟨⟨r, hr, htold⟩, needsNoLock_stop hr htold hopen ?_⟩
      -- The runner is at the desk, so the listener is not.
      have hseated : o.floor.Seated .runner := ho.locks.seated hstanding
      rw [← standing_listener hr]
      exact hseated.away .listener nofun
  signal hat hneed := by
    obtain ⟨r, hr, -⟩ := Option.bind_eq_some_iff.1 hneed
    have hstanding : (o.standing .runner).isAtDesk = true := (ho.locks.desk .runner).1 hat
    rcases waits_at_desk (ho.attended r hr) hr hstanding hneed with ⟨-, hsignal⟩ | ⟨hother, -⟩
    · exact ⟨r, hr, hsignal⟩
    · cases hother
  announce r hr hsignal := needsNoLock_announce hr (ho.attended r hr) hsignal
  stop r hr htold hneed := by
    have hphase : r.listener.phase.need? = some .desk := by simpa [need?, hr] using hneed
    obtain ⟨event, hwaiting, -⟩ := Listener.Phase.need?_cases hphase
    refine needsNoLock_stop hr htold ?_ ?_
    · rw [Listener.hasEnded, hwaiting]
    · rw [hwaiting]
      rfl
  acyclic p hcycle := by
    -- Along every way from one party to another the rank gets smaller.
    have hsmaller : ∀ {q : Party}, Relation.TransGen o.WaitsFor p q → o.rank q < o.rank p := by
      intro q hway
      induction hway with
      | single h => exact rank_lt_of_waitsFor ho.attended ho.locks h
      | tail _ h ih => exact Nat.lt_trans (rank_lt_of_waitsFor ho.attended ho.locks h) ih
    exact Nat.lt_irrefl _ (hsmaller hcycle)

/-- The fabric manager is not ready in time and is told to stop with the listener, which waits for
the desk with an event. A caller waits for the pipeline meanwhile. -/
def unready : List Move :=
  [.advance true, .advance true, .bind (.ok ()), .announce, .advance true,
    .listen (.accept (.ofFrame (OutputEvent.encode ⟨7, .null⟩))), .listen (.read 0 true),
    .listen (.enqueue 0), .listen .dequeue, .call [ddos], .wait 1000000000, .advance true,
    .work 0 (.finish .returned), .advance true]

/-- The runner waits at the desk for the listener, and the listener for the desk. -/
theorem flowing_with_pending_event : ∃ o, Arises twoAttempts {} o ∧
    o.desk.holder = some .runner ∧ o.need? .runner = some .ending ∧
      o.need? .listener = some .desk ∧ o.need? (.caller 0) = some .pipeline ∧
      o.Flowing twoAttempts := by
  let begun : Orchestration :=
    { run := some { queries := [scan], workers := [⟨.fabricManager, "f"⟩] } }
  have hfacts : (begun.replay .reference twoAttempts unready).map
      (fun o => (o.desk.holder, o.need? .runner, o.need? .listener, o.need? (.caller 0))) =
        some (some .runner, some .ending, some .desk, some .pipeline) := by
    decide +kernel
  obtain ⟨o, ho, hfacts⟩ := Option.map_eq_some_iff.1 hfacts
  simp only [Prod.mk.injEq] at hfacts
  obtain ⟨hat, hending, hdesk, hpipeline⟩ := hfacts
  have hnew : Arises twoAttempts {} {} := .new rfl
  have hbegun : Arises twoAttempts {} begun := hnew.begin [scan] [⟨.fabricManager, "f"⟩] rfl
  have harises := hbegun.of_replay ho
  exact ⟨o, harises, hat, hending, hdesk, hpipeline, harises.flowing⟩

end Orchestration

end ControlPlane
