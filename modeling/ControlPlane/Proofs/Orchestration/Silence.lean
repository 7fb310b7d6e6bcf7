import Mathlib.Data.List.Basic
import ControlPlane.Proofs.Orchestration.Arising
import ControlPlane.Proofs.Orchestration.Ordering

/-!
# Runs that fail before they send anything

A run that fails to bind its address, to bring up the workers or to compile its queries has sent
nothing. Between its failure and its end, and after that, the output listener and the callers find
the desk free and may come to it; they are refused for want of the initial configuration.

## Main definitions

- `Distributor.InTurn`: a message that it is a party's turn to send.
- `Floor.Discreet`: the managers have what they had as long as the initial configuration is missing.
- `Run.Phase.isBeforePush`: a run has not begun to send, and may still fail without it.
- `Orchestration.Untouched`: the managers have what they had, and nobody is sending anything.

## Main statements

- `Floor.Discreet.step`: what every step of the floor preserves.
- `Orchestration.Arises.untouched_by_early_failure`: an early failure leaves the managers untouched.
-/

namespace ControlPlane

/-- It is the party's turn to send the message: the initial configuration is the runner's and comes
first, and everything else comes after it. -/
def Distributor.InTurn (d : Distributor) (p : Party) (o : Outgoing) : Prop :=
  (d.initial = .sent ∧ ∀ queries, o ≠ .init queries) ∨
    (d.initial = .pending ∧ p = .runner ∧ ∃ queries, o = .init queries)

namespace Distributor

variable {d : Distributor} {p : Party} {o : Outgoing}

theorem inTurn_of_sent (hsent : d.initial = .sent) (hpermit : d.permit o = .ok ()) :
    d.InTurn p o := by
  refine .inl ⟨hsent, ?_⟩
  rintro queries rfl
  have hpending := permit_init_iff.1 hpermit
  rw [hsent] at hpending
  cases hpending

/-- Whatever is delivered in its turn, the initial configuration has been sent then. -/
theorem InTurn.initial_delivered (h : d.InTurn p o) : (d.conclude true o).initial = .sent := by
  rcases h with ⟨hsent, hother⟩ | ⟨-, -, queries, rfl⟩
  · cases o with
    | init queries => exact absurd rfl (hother queries)
    | delta content => exact hsent
    | streamConfig queries => exact hsent
  · rfl

/-- A delivery that was given up does not take the initial configuration back. -/
theorem InTurn.initial_givenUp (h : d.InTurn p o) (hsent : d.initial = .sent) :
    (d.conclude false o).initial = .sent := by
  rcases h with ⟨-, hother⟩ | ⟨hpending, -⟩
  · cases o with
    | init queries => exact absurd rfl (hother queries)
    | delta content => exact hsent
    | streamConfig queries => exact hsent
  · rw [hsent] at hpending
    cases hpending

end Distributor

theorem Desk.permit_of_begin {d : Desk} {messages : List Outgoing} {parcel : Parcel}
    (h : d.begin messages = .underway parcel) :
    messages.head? = some parcel.message ∧ d.distributor.permit parcel.message = .ok () := by
  unfold begin at h
  split at h
  · cases h
  · split at h
    · cases h
    · next hpermit =>
      cases h
      exact ⟨rfl, hpermit⟩

namespace Floor

/-- As long as the initial configuration has not been sent, the managers have received nothing
since the desk was as `d` is. -/
structure Discreet (d : Desk) (F : Floor) : Prop where
  turn : ∀ {p parcel}, F.standing p = .sending parcel → F.desk.distributor.InTurn p parcel.message
  silent : F.desk.distributor.initial ≠ .sent →
    F.desk.fabric = d.fabric ∧ F.desk.streaming = d.streaming

variable {c : Collaborators} {plan : Plan} {d : Desk} {F G : Floor} {p : Party} {ds : List Deed}

@[simp] theorem distributor_settle (progress : Parcel.Progress) :
    (F.settle p progress).desk.distributor = F.desk.distributor := by
  cases progress <;> rfl

theorem resting_ne_sending (outcome : Except DistributorError Unit) (parcel : Parcel) :
    resting p outcome ≠ .sending parcel := by
  intro hsending
  have hhas := hasPipeline_resting p outcome
  rw [hsending] at hhas
  cases hhas

/-- A party moves to where it sends in its turn, or nothing at all. -/
theorem discreet_move {s : Standing}
    (hothers : ∀ {q parcel}, q ≠ p → F.standing q = .sending parcel →
      F.desk.distributor.InTurn q parcel.message)
    (hsilent : F.desk.distributor.initial ≠ .sent →
      F.desk.fabric = d.fabric ∧ F.desk.streaming = d.streaming)
    (hown : ∀ {parcel}, s = .sending parcel → F.desk.distributor.InTurn p parcel.message) :
    Discreet d (F.move p s) where
  turn := by
    intro q parcel hsending
    by_cases hqp : q = p
    · subst hqp
      rw [standing_move_self] at hsending
      exact hown hsending
    · rw [standing_move_of_ne hqp] at hsending
      exact hothers hqp hsending
  silent := hsilent

theorem discreet_settle {progress : Parcel.Progress}
    (hothers : ∀ {q parcel}, q ≠ p → F.standing q = .sending parcel →
      F.desk.distributor.InTurn q parcel.message)
    (hsilent : F.desk.distributor.initial ≠ .sent →
      F.desk.fabric = d.fabric ∧ F.desk.streaming = d.streaming)
    (hown : ∀ {parcel}, progress = .underway parcel →
      F.desk.distributor.InTurn p parcel.message) :
    Discreet d (F.settle p progress) := by
  rcases progress with parcel | outcome
  · refine discreet_move hothers hsilent fun {sent} hsent => ?_
    cases hsent
    exact hown rfl
  · refine discreet_move (F := F.vacate p) hothers hsilent fun hsending => ?_
    exact absurd hsending (resting_ne_sending outcome _)

namespace Discreet

theorem move (h : Discreet d F) {s : Standing}
    (hown : ∀ {parcel}, s = .sending parcel → F.desk.distributor.InTurn p parcel.message) :
    Discreet d (F.move p s) :=
  discreet_move (fun _ => h.turn) h.silent hown

theorem compile (h : Discreet d F) (queries : List LogicalQuery)
    {messages : Pass → Pipeline → List Outgoing}
    (hmessages : ∀ {pass q parcel}, F.desk.begin (messages pass q) = .underway parcel →
      F.desk.distributor.InTurn p parcel.message) :
    Discreet d (F.compile c plan p queries messages) := by
  unfold Floor.compile
  rcases F.pipeline.run c plan.candidates queries with ⟨outcome, q⟩
  cases outcome with
  | error e => exact discreet_move (F := Floor.vacate _ p) (fun _ => h.turn) h.silent nofun
  | ok pass =>
    exact discreet_settle (F := { F with pipeline := q }) (fun _ => h.turn) h.silent hmessages

/-- An attempt has its outcome. Whatever is received then, the initial configuration is among what
the fabric manager has. -/
theorem attempt (h : Discreet d F) (hlocks : F.Locks) {parcel : Parcel}
    (hs : F.standing p = .sending parcel) (outcome : Except ChannelError Unit) :
    Discreet d
      (({ F with desk := (F.desk.attempt plan.terms parcel outcome).1 } : Floor).settle p
        (F.desk.attempt plan.terms parcel outcome).2) := by
  have hturn := h.turn hs
  have hseated : F.Seated p := hlocks.seated (by rw [hs]; rfl)
  have halone : ∀ {q sent}, q ≠ p → F.standing q ≠ .sending sent := by
    intro q sent hqp hsending
    have haway := hseated.away q hqp
    rw [hsending] at haway
    cases haway
  rcases F.desk.attempt_cases plan.terms parcel outcome with
    ⟨-, hattempt⟩ | ⟨e, -, hattempt⟩ | ⟨e, reason, -, -, hattempt⟩
  · rw [hattempt]
    have hsent : ((F.desk.receive parcel.message).conclude true
        parcel.message).distributor.initial = .sent := by
      rw [Desk.distributor_conclude, Desk.distributor_receive]
      exact hturn.initial_delivered
    refine discreet_settle ?_ ?_ ?_
    · intro q sent hqp hsending
      exact absurd hsending (halone hqp)
    · intro hunsent
      exact absurd hsent hunsent
    · intro next hnext
      exact Distributor.inTurn_of_sent hsent (Desk.permit_of_begin hnext).2
  · rw [hattempt]
    refine discreet_settle (fun _ => h.turn) h.silent ?_
    rintro next ⟨rfl⟩
    exact hturn
  · rw [hattempt]
    refine discreet_settle ?_ ?_ nofun
    · intro q sent hqp hsending
      exact absurd hsending (halone hqp)
    · intro hunsent
      refine h.silent fun hsent => hunsent ?_
      rw [Desk.distributor_conclude]
      exact hturn.initial_givenUp hsent

/-- What every step of the floor preserves. -/
theorem step (h : Discreet d F) (hlocks : F.Locks) (hs : Floor.Step c plan F ds G) :
    Discreet d G := by
  cases hs with
  | quiet => exact h
  | take => exact discreet_move (F := { F with holder := _ }) (fun _ => h.turn) h.silent (by simp)
  | enter => exact discreet_move (F := F.seat .runner) (fun _ => h.turn) h.silent (by simp)
  | abandon => exact discreet_move (F := F.vacate .runner) (fun _ => h.turn) h.silent (by simp)
  | initial queries =>
    refine h.compile queries fun {pass q parcel} hbegin => ?_
    obtain ⟨hhead, hpermit⟩ := Desk.permit_of_begin hbegin
    have hmessage : parcel.message = .init pass.data := (Option.some.inj hhead).symm
    rw [hmessage] at hpermit ⊢
    exact .inr ⟨Distributor.permit_init_iff.1 hpermit, rfl, _, rfl⟩
  | @refuse i =>
    exact discreet_move (F := F.vacate (.caller i)) (fun _ => h.turn) h.silent (by simp)
  | @refinement i queries free hholding hinit =>
    have hsent : F.desk.distributor.initial = .sent := by
      simpa [Distributor.isInitialized] using hinit
    have hseated : Discreet d (F.seat (.caller i)) := ⟨h.turn, h.silent⟩
    refine hseated.compile queries fun hbegin => ?_
    exact Distributor.inTurn_of_sent hsent (Desk.permit_of_begin hbegin).2
  | approach event =>
    refine discreet_settle (F := F.seat .listener) (fun _ => h.turn) h.silent ?_
    intro parcel hbegin
    obtain ⟨hhead, hpermit⟩ := Desk.permit_of_begin hbegin
    have hmessage : parcel.message = .delta (.output event) := (Option.some.inj hhead).symm
    rw [hmessage] at hpermit
    have hsent : F.desk.distributor.initial = .sent := Distributor.permit_delta_iff.1 hpermit
    refine .inl ⟨hsent, ?_⟩
    rw [hmessage]
    simp
  | attempt outcome hsending => exact h.attempt hlocks hsending outcome
  | stop => exact discreet_move (F := F.vacate .listener) (fun _ => h.turn) h.silent (by simp)
  | close => exact h.move (by simp)

/-- As long as the initial configuration is missing and the runner is not sending it, nobody is
sending anything. -/
theorem idle (h : Discreet d F) (hinit : F.desk.distributor.initial ≠ .sent)
    (hrunner : ∀ parcel, F.standing .runner ≠ .sending parcel) (p : Party) (parcel : Parcel) :
    F.standing p ≠ .sending parcel := by
  intro hsending
  rcases h.turn hsending with ⟨hsent, -⟩ | ⟨-, rfl, -⟩
  · exact hinit hsent
  · exact hrunner parcel hsending

/-- Nobody but the runner changes that the initial configuration is missing. -/
theorem initial_step (h : Discreet d F) (hinit : F.desk.distributor.initial ≠ .sent)
    (hrunner : ∀ parcel, F.standing .runner ≠ .sending parcel) (hs : Floor.Step c plan F ds G) :
    G.desk.distributor.initial ≠ .sent := by
  have hcompile : ∀ {F : Floor} {p : Party} {queries : List LogicalQuery}
      {messages : Pass → Pipeline → List Outgoing},
      (F.compile c plan p queries messages).desk.distributor = F.desk.distributor := by
    intro F p queries messages
    unfold Floor.compile
    split
    · rfl
    · rw [distributor_settle]
  cases hs with
  | quiet => exact hinit
  | take => exact hinit
  | enter => exact hinit
  | abandon => exact hinit
  | initial => rwa [hcompile]
  | refuse => exact hinit
  | refinement => rwa [hcompile]
  | approach => rwa [distributor_settle]
  | attempt outcome hsending => exact absurd hsending (h.idle hinit hrunner _ _)
  | stop => exact hinit
  | close => exact hinit

end Discreet

end Floor

/-! ## Early failures -/

/-- Whether a run that fails so has not begun to send. -/
def OrchestrationError.isBeforePush : OrchestrationError → Bool
  | .feedback (.bind ..) => true
  | .bootstrap _ => true
  | .pipeline _ => true
  | _ => false

/-- Whether a run in this phase has not begun to send. -/
def Run.Phase.isBeforePush : Run.Phase → Bool
  | .waiting => true
  | .approaching => true
  | .binding => true
  | .starting _ => true
  | .failing e _ => e.isBeforePush
  | .stopping e _ => e.isBeforePush
  | .ended (.error e) => e.isBeforePush
  | _ => false

theorem Run.Phase.standing_ne_sending {phase : Run.Phase} (h : phase.isBeforePush = true)
    (parcel : Parcel) : phase.standing ≠ .sending parcel := by
  have hover : ∀ e : OrchestrationError, e.standing ≠ .sending parcel := by
    intro e hsending
    have hnone := e.hasPipeline_standing
    rw [hsending] at hnone
    cases hnone
  cases phase with
  | pushing => cases h
  | failing e s => exact hover e
  | stopping e s => exact hover e
  | ended outcome =>
    cases outcome with
    | ok u => exact nofun
    | error e => exact hover e
  | _ => exact nofun

/-- What stays of a run whatever happens. -/
structure Run.Continues (r s : Run) : Prop where
  /-- Whoever has not begun to send had not begun before. -/
  before : s.phase.isBeforePush = true → r.phase.isBeforePush = true
  ended : ∀ {outcome}, r.phase = .ended outcome → s.phase = .ended outcome

namespace Run.Continues

variable {r s : Run}

theorem refl (r : Run) : r.Continues r := ⟨id, id⟩

/-- A run that has not begun to send may go on in any way, if it is not over. -/
theorem of_before (hbefore : r.phase.isBeforePush = true)
    (hopen : ∀ outcome, r.phase ≠ .ended outcome) : r.Continues s :=
  ⟨fun _ => hbefore, fun hended => absurd hended (hopen _)⟩

theorem of_same (hsame : s.phase.isBeforePush = r.phase.isBeforePush)
    (hopen : ∀ outcome, r.phase ≠ .ended outcome) : r.Continues s :=
  ⟨fun hbefore => hsame.symm.trans hbefore, fun hended => absurd hended (hopen _)⟩

theorem act (r : Run) (position : Nat) (e : Task.Event) : r.Continues (r.act position e) := by
  constructor <;> cases hphase : r.phase <;> simp [Run.act, hphase, Run.Phase.isBeforePush]

theorem request (r : Run) : r.Continues r.request := by
  constructor <;> cases hphase : r.phase <;> simp [Run.request, hphase, Run.Phase.isBeforePush]

end Run.Continues

namespace Orchestration

variable {c : Collaborators} {plan : Plan} {d : Desk} {o p q : Orchestration} {r : Run}

theorem continues_advance {requestFirst : Bool} (h : o.advance c plan requestFirst r = some q) :
    ∃ s, q.run = some s ∧ r.Continues s := by
  unfold advance at h
  split at h
  · next hphase =>
    split at h
    · cases h
      exact ⟨_, rfl, .of_before (by rw [hphase]; rfl) (by simp [hphase])⟩
    · cases h
  · next hphase =>
    obtain ⟨desk, -, rfl⟩ := Option.map_eq_some_iff.1 h
    exact ⟨_, rfl, .of_before (by rw [hphase]; rfl) (by simp [hphase])⟩
  · cases h
  · next b hphase =>
    have hstarting : ∀ s, r.Continues s :=
      fun s => .of_before (by rw [hphase]; rfl) (by simp [hphase])
    split at h
    · cases h
      unfold push
      split
      · exact ⟨_, rfl, hstarting _⟩
      · unfold pushed
        split <;> exact ⟨_, rfl, hstarting _⟩
    · cases h
      exact ⟨_, rfl, hstarting _⟩
    · cases h
      exact ⟨_, rfl, hstarting _⟩
  · cases h
  · next e s hphase =>
    cases h
    exact ⟨_, rfl, .of_same (by rw [hphase]; rfl) (by simp [hphase])⟩
  · next e s hphase =>
    obtain ⟨outcome, -, rfl⟩ := Option.map_eq_some_iff.1 h
    exact ⟨_, rfl, .of_same (by rw [hphase]; rfl) (by simp [hphase])⟩
  · next s hphase =>
    obtain ⟨outcome, -, rfl⟩ := Option.map_eq_some_iff.1 h
    refine ⟨_, rfl, .of_same ?_ (by simp [hphase])⟩
    rw [hphase]
    cases outcome <;> rfl
  · cases h

/-- Whatever happens, the run goes on. -/
theorem continues_next (hr : o.run = some r) {m : Move} (h : o.next c plan m = some q) :
    ∃ s, q.run = some s ∧ r.Continues s := by
  have hsame : q.run = o.run → ∃ s, q.run = some s ∧ r.Continues s :=
    fun hrun => ⟨r, hrun.trans hr, .refl r⟩
  cases m with
  | advance requestFirst =>
    rw [next, hr] at h
    exact continues_advance h
  | bind outcome =>
    rw [next, hr, Option.bind_some] at h
    unfold Orchestration.bind at h
    split at h
    · next hphase =>
      cases h
      exact ⟨_, rfl, .of_before (by rw [hphase]; rfl) (by simp [hphase])⟩
    · next hphase =>
      cases h
      exact ⟨_, rfl, .of_before (by rw [hphase]; rfl) (by simp [hphase])⟩
    · cases h
  | deliver outcome =>
    rw [next, hr, Option.bind_some, deliver] at h
    split at h
    · next parcel s hphase =>
      cases h
      unfold pushed
      split <;> exact ⟨_, rfl, .of_same (by rw [hphase]; rfl) (by simp [hphase])⟩
    · cases h
  | observe position =>
    rw [next, hr, Option.bind_some, observe] at h
    split at h
    · next e s hphase =>
      cases h
      exact ⟨_, rfl, .of_same (by rw [hphase]; rfl) (by simp [hphase])⟩
    · next s hphase =>
      cases h
      exact ⟨_, rfl, .of_same (by rw [hphase]; rfl) (by simp [hphase])⟩
    · cases h
  | work position event =>
    rw [next, hr, Option.bind_some] at h
    split at h
    · cases h
      exact ⟨_, rfl, .act ..⟩
    · cases h
  | announce =>
    rw [next, hr, Option.bind_some] at h
    split at h
    · cases h
    · cases h
      exact ⟨_, rfl, .act ..⟩
  | listen m =>
    rw [next, hr, Option.bind_some] at h
    obtain ⟨tokens, -, h⟩ := Option.bind_eq_some_iff.1 h
    obtain ⟨⟨l, desk⟩, -, h⟩ := Option.bind_eq_some_iff.1 h
    obtain rfl := Option.some.inj h
    refine ⟨_, rfl, ?_⟩
    -- How a run goes on is a matter of its phase alone.
    split
    · next ending _ =>
      have hact := Run.Continues.act { r with listener := l } (listenerPosition r) (.finish ending)
      exact ⟨hact.before, hact.ended⟩
    · exact ⟨id, id⟩
  | call queries =>
    cases h
    exact hsame rfl
  | proceed i =>
    obtain ⟨x, -, h⟩ := Option.bind_eq_some_iff.1 h
    exact hsame (run_proceed h)
  | send i outcome =>
    obtain ⟨x, -, h⟩ := Option.bind_eq_some_iff.1 h
    exact hsame (run_send h)
  | request =>
    cases h
    refine ⟨r.request, ?_, .request r⟩
    show o.run.map Run.request = some r.request
    rw [hr]
    rfl
  | wait d =>
    cases h
    exact hsame rfl

theorem continues_leads (hr : p.run = some r) (h : Leads plan p q) :
    ∃ s, q.run = some s ∧ r.Continues s := by
  induction h with
  | refl => exact ⟨r, hr, .refl r⟩
  | tail m _ hnext ih =>
    obtain ⟨s, hs, hcontinues⟩ := ih
    obtain ⟨t, ht, hnext⟩ := continues_next hs hnext
    exact ⟨t, ht, fun hbefore => hcontinues.before (hnext.before hbefore),
      fun hended => hnext.ended (hcontinues.ended hended)⟩

theorem runner_ne_sending (hr : o.run = some r) (hbefore : r.phase.isBeforePush = true)
    (parcel : Parcel) : o.standing .runner ≠ .sending parcel := by
  rw [standing_runner hr]
  exact Run.Phase.standing_ne_sending hbefore parcel

/-- The managers have received nothing since the desk was as `d` is, and nobody is sending
anything. -/
structure Untouched (d : Desk) (o : Orchestration) : Prop where
  fabric : o.desk.fabric = d.fabric
  streaming : o.desk.streaming = d.streaming
  idle : ∀ p parcel, o.standing p ≠ .sending parcel

namespace Arises

theorem discreet (h : Arises plan d o) : o.floor.Discreet d := by
  induction h with
  | new free =>
    refine ⟨fun {p parcel} hsending => ?_, fun _ => ⟨rfl, rfl⟩⟩
    cases p <;> cases hsending
  | @begin o q queries workers hbefore hbegin ih =>
    obtain ⟨-, rfl⟩ := begin_cases hbegin
    refine ⟨fun {p parcel} hsending => ?_, ih.silent⟩
    cases p with
    | runner => cases hsending
    | listener => cases hsending
    | caller i => exact ih.turn (p := .caller i) hsending
  | move m hbefore hnext ih => exact ih.step hbefore.locks (step_of_next hnext)

/-- The runner has sent nothing as long as it has not begun to send. -/
theorem initial_of_leads (ho : Arises plan d p) (hinit : p.desk.distributor.initial ≠ .sent)
    (hp : p.run = some r) (hq : Leads plan p q) {s : Run} (hs : q.run = some s)
    (hbefore : s.phase.isBeforePush = true) : q.desk.distributor.initial ≠ .sent := by
  induction hq generalizing s with
  | refl => exact hinit
  | @tail q u c m hq hnext ih =>
    obtain ⟨t, ht, -⟩ := continues_leads hp hq
    obtain ⟨s', hs', hcontinues⟩ := continues_next ht hnext
    obtain rfl := Option.some.inj (hs.symm.trans hs')
    have hearly := hcontinues.before hbefore
    exact (ho.of_leads hq).discreet.initial_step (ih ht hearly) (runner_ne_sending ht hearly)
      (step_of_next hnext)

theorem untouched_of_leads (ho : Arises plan d p) (hinit : p.desk.distributor.initial ≠ .sent)
    (hp : p.run = some r) (hq : Leads plan p q) {s : Run} (hs : q.run = some s)
    (hbefore : s.phase.isBeforePush = true) : q.Untouched d := by
  have hunsent := ho.initial_of_leads hinit hp hq hs hbefore
  have hdiscreet := (ho.of_leads hq).discreet
  obtain ⟨hfabric, hstreaming⟩ := hdiscreet.silent hunsent
  exact ⟨hfabric, hstreaming, hdiscreet.idle hunsent (runner_ne_sending hs hbefore)⟩

/-- A run that fails before it has begun to send leaves the managers untouched: they receive nothing
from its beginning to its end, and nothing afterwards until there is another run. Its listener has
ended by then. -/
theorem untouched_by_early_failure (ho : Arises plan d o)
    (hinit : o.desk.distributor.initial ≠ .sent) {queries : List LogicalQuery}
    {workers : List PendingWorker} (hbegin : o.begin queries workers = some p)
    (hq : Leads plan p q) (hr : q.run = some r) {e : OrchestrationError}
    (hended : r.outcome? = some (.error e)) (hearly : e.isBeforePush = true) :
    (r.listener = {} ∨ r.listener.hasEnded = true) ∧
      (∀ s, Leads plan p s → Leads plan s q → s.Untouched d) ∧
      ∀ s, Leads plan q s → s.Untouched d := by
  have hp : Arises plan d p := ho.begin queries workers hbegin
  have hunsent : p.desk.distributor.initial ≠ .sent ∧ ∃ first, p.run = some first := by
    obtain ⟨-, rfl⟩ := begin_cases hbegin
    exact ⟨hinit, _, rfl⟩
  obtain ⟨hunsent, first, hfirst⟩ := hunsent
  have hphase : r.phase = .ended (.error e) := Run.phase_of_outcome? hended
  have hbefore : r.phase.isBeforePush = true := by rw [hphase]; exact hearly
  refine ⟨?_, fun s hs hsq => ?_, fun s hqs => ?_⟩
  · have hnone : r.tokens? = none := by simp [Run.tokens?, hphase]
    exact (((hp.of_leads hq).attended r hr).absent hnone).imp_right And.right
  · -- If the run had begun to send by now, it could not fail early any more.
    obtain ⟨t, ht, -⟩ := continues_leads hfirst hs
    obtain ⟨r', hr', hcontinues⟩ := continues_leads ht hsq
    obtain rfl := Option.some.inj (hr.symm.trans hr')
    exact hp.untouched_of_leads hunsent hfirst hs ht (hcontinues.before hbefore)
  · -- The run stays as it was when it failed.
    obtain ⟨t, ht, hcontinues⟩ := continues_leads hr hqs
    have hstays : t.phase.isBeforePush = true := by
      rw [hcontinues.ended hphase]
      exact hearly
    have hunsent' := hp.initial_of_leads hunsent hfirst hq hr hbefore
    exact (hp.of_leads hq).untouched_of_leads hunsent' hr hqs ht hstays

end Arises

/-- A compiler that cannot compile the first query. -/
def refusing : Collaborators := .scripted { refusedData := [1] }

/-- The compilation fails while an event and a caller wait for the desk. Both come to it before the
run has stopped the listener. -/
def uncompiled : List Move :=
  [.advance true, .advance true, .bind (.ok ()), .announce,
    .listen (.accept (.ofFrame (OutputEvent.encode ⟨7, .null⟩))), .listen (.read 0 true),
    .listen (.enqueue 0), .listen .dequeue, .call [ddos], .advance true, .advance true,
    .advance true, .listen .approach, .proceed 0, .proceed 0, .advance true, .observe 0,
    .advance true]

/-- Why it fails. -/
def unsupported : OrchestrationError :=
  .pipeline (.compile 0 0 1 .data "unsupported operator")

/-- What a caller is told when the initial configuration is missing. -/
def tooSoon : Option (Except OrchestrationError Pass) :=
  some (.error (.distributor .notInitialized))

/-- Whether the run has failed so, and the listener and both callers have been refused. -/
def refusesAll (q s : Orchestration) : Bool :=
  q.run.any (fun r => r.outcome? = some (.error unsupported) &&
    r.listener.phase = .ended (.error (.forward .notInitialized))) &&
  s.callers.map (·.answer?) = [tooSoon, tooSoon]

/-- The event and the callers that come to the desk after the failure are refused, one of them when
the run is over. -/
theorem untouched_by_uncompiled_query : ∃ p q r s,
    ({} : Orchestration).begin [scan] [] = some p ∧ Leads twoAttempts p q ∧ q.run = some r ∧
      r.outcome? = some (.error unsupported) ∧
      r.listener.phase = .ended (.error (.forward .notInitialized)) ∧
      Leads twoAttempts q s ∧ s.callers.map (·.answer?) = [tooSoon, tooSoon] ∧
      q.Untouched {} ∧ s.Untouched {} := by
  have hbegin : ({} : Orchestration).begin [scan] [] =
      some { run := some { queries := [scan], workers := [] } } := rfl
  have hfacts : ((replay refusing twoAttempts
      { run := some { queries := [scan], workers := [] } } uncompiled).bind fun q =>
        (q.replay refusing twoAttempts [.call [ddos], .proceed 1, .proceed 1]).map fun s =>
          refusesAll q s) = some true := by
    decide +kernel
  obtain ⟨q, hq, hfacts⟩ := Option.bind_eq_some_iff.1 hfacts
  obtain ⟨s, hs, hfacts⟩ := Option.map_eq_some_iff.1 hfacts
  rw [refusesAll, Bool.and_eq_true, Option.any_eq_true, decide_eq_true_eq] at hfacts
  obtain ⟨⟨r, hr, hended⟩, hcallers⟩ := hfacts
  rw [Bool.and_eq_true, decide_eq_true_eq, decide_eq_true_eq] at hended
  have ho : Arises twoAttempts {} {} := .new rfl
  obtain ⟨-, hduring, hafter⟩ :=
    ho.untouched_by_early_failure nofun hbegin (.of_replay hq) hr hended.1 rfl
  exact ⟨_, q, r, s, hbegin, .of_replay hq, hr, hended.1, hended.2, .of_replay hs, hcallers,
    hduring q (.of_replay hq) .refl, hafter s (.of_replay hs)⟩

end Orchestration

end ControlPlane
