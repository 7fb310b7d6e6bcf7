import ControlPlane.Proofs.Delivery.Protocol
import ControlPlane.Proofs.Orchestration.Floor
import ControlPlane.Proofs.Pipeline.Growth

/-!
# The history of a control plane

What has happened so far determines what the pipeline keeps and what the managers have received.
Each party other than the output listener makes at most one pass, and nothing else comes between
its deeds.

## Main definitions

- `History.messages`, `History.given`, `History.kept`: what a history says about messages and ids.
- `History.opened`: the ids of passes whose first message has been received.
- `History.InOneGo`: the deeds of a party in a history.
- `Due`: what a party at the desk delivers, and what it has done so far.
- `Books`: how the pipeline and the desk stand to the history.

## Main statements

- `Desk.attempt_cases`: what an attempt comes to.
- `Books.compile`, `Books.deliver`, `Books.giveUp`: what one deed preserves.
-/

namespace ControlPlane

/-- The first message of a pass: all halves of the runner, and the new halves of anybody else. -/
def Party.opening (p : Party) (data : List CompiledQuery) : Outgoing :=
  if p = .runner then .init data else .delta (.queries data)

/-- Whether a message takes compiled queries to the fabric manager. -/
def Outgoing.isOpening : Outgoing → Bool
  | .init _ => true
  | .delta (.queries _) => true
  | _ => false

/-- The ids of the queries that a message takes to the fabric manager. -/
def Outgoing.openingIds : Outgoing → List QueryId
  | .init queries => Pipeline.ids queries
  | .delta (.queries queries) => Pipeline.ids queries
  | _ => []

@[simp] theorem Party.isOpening_opening (p : Party) (data : List CompiledQuery) :
    (p.opening data).isOpening = true := by
  unfold opening
  split <;> rfl

@[simp] theorem Party.openingIds_opening (p : Party) (data : List CompiledQuery) :
    (p.opening data).openingIds = Pipeline.ids data := by
  unfold opening
  split <;> rfl

/-- The ids that have gone to the fabric manager by messages, in order. -/
def fabricIds (messages : List Outgoing) : List QueryId := messages.flatMap (·.openingIds)

/-- The configurations that have gone to the streaming manager by messages, in order. -/
def configs (messages : List Outgoing) : List (List CompiledQuery) :=
  messages.filterMap fun
    | .streamConfig queries => some queries
    | _ => none

@[simp] theorem fabricIds_append (xs ys : List Outgoing) :
    fabricIds (xs ++ ys) = fabricIds xs ++ fabricIds ys := List.flatMap_append ..

@[simp] theorem fabricIds_singleton (o : Outgoing) : fabricIds [o] = o.openingIds := by
  simp [fabricIds]

@[simp] theorem configs_append (xs ys : List Outgoing) :
    configs (xs ++ ys) = configs xs ++ configs ys := List.filterMap_append

@[simp] theorem configs_opening (p : Party) (data : List CompiledQuery) :
    configs [p.opening data] = [] := by
  unfold Party.opening
  split <;> rfl

/-- Only what is for the fabric manager has ids for it. -/
theorem fabricIds_forFabric (messages : List Outgoing) :
    fabricIds (forFabric messages) = fabricIds messages := by
  induction messages with
  | nil => rfl
  | cons o rest ih =>
    have hone : fabricIds (forFabric [o]) = fabricIds [o] := by cases o <;> rfl
    have happend := forFabric_append [o] rest
    rw [List.singleton_append] at happend
    rw [happend, fabricIds_append, hone, ih, ← fabricIds_append, List.singleton_append]

/-- Only what is for the streaming manager is a configuration of it. -/
theorem configs_forStreaming (messages : List Outgoing) :
    configs (forStreaming messages) = configs messages := by
  induction messages with
  | nil => rfl
  | cons o rest ih =>
    have hone : configs (forStreaming [o]) = configs [o] := by cases o <;> rfl
    have happend := forStreaming_append [o] rest
    rw [List.singleton_append] at happend
    rw [happend, configs_append, hone, ih, ← configs_append, List.singleton_append]

namespace Desk

variable (d : Desk) (o : Outgoing) (delivered : Bool)

@[simp] theorem fabric_receive : (d.receive o).fabric = d.fabric ++ forFabric [o] := by
  cases o <;> simp [receive, Outgoing.isForStreaming]

@[simp] theorem streaming_receive : (d.receive o).streaming = d.streaming ++ forStreaming [o] := by
  cases o <;> simp [receive, Outgoing.isForStreaming]

@[simp] theorem distributor_receive : (d.receive o).distributor = d.distributor := by
  cases o <;> rfl

@[simp] theorem holder_receive : (d.receive o).holder = d.holder := by cases o <;> rfl

@[simp] theorem fabric_conclude : (d.conclude delivered o).fabric = d.fabric := rfl

@[simp] theorem streaming_conclude : (d.conclude delivered o).streaming = d.streaming := rfl

@[simp] theorem distributor_conclude :
    (d.conclude delivered o).distributor = d.distributor.conclude delivered o := rfl

@[simp] theorem holder_conclude : (d.conclude delivered o).holder = d.holder := rfl

end Desk

namespace Deed

/-- The message that was received, if it was one. -/
def message? : Deed → Option Outgoing
  | .compiled .. => none
  | .delivered _ message => some message

/-- The ids that were handed out. -/
def given : Deed → List QueryId
  | .compiled _ given _ => given
  | .delivered .. => []

/-- The ids of the variants that were kept. -/
def kept : Deed → List QueryId
  | .compiled _ _ kept => kept
  | .delivered .. => []

/-- Whether it is the delivery of the first message of a party's pass. -/
def opens (p : Party) : Deed → Bool
  | .compiled .. => false
  | .delivered party message => party = p && message.isOpening

end Deed

namespace History

/-- The messages that have been received, in order. -/
def messages (h : List Deed) : List Outgoing := h.filterMap (·.message?)

/-- The ids that have been handed out, in order. -/
def given (h : List Deed) : List QueryId := h.flatMap (·.given)

/-- The ids of the variants that have been kept, in order. -/
def kept (h : List Deed) : List QueryId := h.flatMap (·.kept)

/-- Whether the first message of a party's pass has been received. -/
def hasOpened (h : List Deed) (p : Party) : Bool := h.any (·.opens p)

/-- The ids that were kept by those of `h` for whom `f` holds, in order. -/
def keptBy (f : Party → Bool) (h : List Deed) : List QueryId :=
  h.flatMap fun d => if f d.party then d.kept else []

/-- The ids that were kept by passes whose first message has been received, in order. -/
def opened (h : List Deed) : List QueryId := keptBy (hasOpened h) h

variable (h h' : List Deed) (p : Party) (ids new : List QueryId) (o : Outgoing)

@[simp] theorem messages_append : messages (h ++ h') = messages h ++ messages h' :=
  List.filterMap_append

@[simp] theorem messages_compiled : messages [.compiled p ids new] = [] := rfl

@[simp] theorem messages_delivered : messages [.delivered p o] = [o] := rfl

@[simp] theorem given_append : given (h ++ h') = given h ++ given h' := List.flatMap_append ..

@[simp] theorem given_compiled : given [.compiled p ids new] = ids := List.flatMap_singleton ..

@[simp] theorem given_delivered : given [.delivered p o] = [] := rfl

@[simp] theorem kept_append : kept (h ++ h') = kept h ++ kept h' := List.flatMap_append ..

@[simp] theorem kept_compiled : kept [.compiled p ids new] = new := List.flatMap_singleton ..

@[simp] theorem kept_delivered : kept [.delivered p o] = [] := rfl

theorem hasOpened_append : hasOpened (h ++ h') p = (hasOpened h p || hasOpened h' p) :=
  List.any_append

theorem keptBy_append (f : Party → Bool) : keptBy f (h ++ h') = keptBy f h ++ keptBy f h' :=
  List.flatMap_append ..

variable {h h' p ids new o}

theorem keptBy_congr {f g : Party → Bool} (hfg : ∀ d ∈ h, f d.party = g d.party) :
    keptBy f h = keptBy g h := by
  induction h with
  | nil => rfl
  | cons d rest ih =>
    have hrest := ih fun e he => hfg e (List.mem_cons_of_mem d he)
    simp only [keptBy, List.flatMap_cons, hfg d List.mem_cons_self] at hrest ⊢
    rw [hrest]

/-- What some passes have kept is part of what all of them have kept. -/
theorem keptBy_sublist (f : Party → Bool) (h : List Deed) : (keptBy f h).Sublist (kept h) := by
  induction h with
  | nil => exact .slnil
  | cons d rest ih =>
    have hone : (if f d.party then d.kept else []).Sublist d.kept := by
      split
      · exact .refl _
      · exact List.nil_sublist _
    simp only [keptBy, kept, List.flatMap_cons] at ih ⊢
    exact hone.append ih

/-- Whoever has no part in a history has opened nothing in it. -/
theorem hasOpened_of_new (new : ∀ d ∈ h, d.party ≠ p) : hasOpened h p = false := by
  rw [hasOpened, List.any_eq_false]
  intro d hd
  cases d with
  | compiled party ids new => simp [Deed.opens]
  | delivered party o =>
    have hne : party ≠ p := new _ hd
    simp [Deed.opens, hne]

/-- A pass that has just been compiled has not been opened. -/
theorem opened_compiled (fresh : ∀ d ∈ h, d.party ≠ p) :
    opened (h ++ [.compiled p ids new]) = opened h := by
  have hsame : ∀ q, hasOpened (h ++ [.compiled p ids new]) q = hasOpened h q := by
    intro q
    rw [hasOpened_append]
    exact Bool.or_false _
  rw [opened, keptBy_append, keptBy_congr fun d _ => hsame d.party]
  have hlast : keptBy (hasOpened (h ++ [.compiled p ids new])) [.compiled p ids new] = [] := by
    simp [keptBy, Deed.party, hsame, hasOpened_of_new fresh]
  rw [hlast, List.append_nil]
  rfl

/-- The first message of a pass has been received: what the pass has kept counts from now on. -/
theorem opened_opening (fresh : ∀ d ∈ h, d.party ≠ p) (ho : o.isOpening = true) :
    opened (h ++ [.compiled p ids new] ++ [.delivered p o]) =
      opened (h ++ [.compiled p ids new]) ++ new := by
  have hother : ∀ d ∈ h, hasOpened (h ++ [.compiled p ids new] ++ [.delivered p o]) d.party =
      hasOpened h d.party := by
    intro d hd
    have hne : p ≠ d.party := (fresh d hd).symm
    simp [hasOpened, Deed.opens, hne]
  have hown : hasOpened (h ++ [.compiled p ids new, .delivered p o]) p = true := by
    simp [hasOpened, Deed.opens, ho]
  -- Only the last entry is the sender's, and it counts now for the first time.
  rw [opened_compiled fresh, opened, keptBy_append, keptBy_append, keptBy_congr hother]
  simp [keptBy, Deed.party, Deed.kept, hown, opened]

/-- Other deliveries change nothing about what has been opened. -/
theorem opened_delivered (ho : o.isOpening = false) :
    opened (h ++ [.delivered p o]) = opened h := by
  have hsame : ∀ q, hasOpened (h ++ [.delivered p o]) q = hasOpened h q := by
    intro q
    simp [hasOpened, Deed.opens, ho]
  rw [opened, keptBy_append, keptBy_congr fun d _ => hsame d.party]
  simp [keptBy, Deed.kept, opened]

/-- The deeds of one pass of a party, as far as it has got. -/
inductive IsPass (p : Party) : List Deed → Prop
  | none : IsPass p []
  | compiled (ids new : List QueryId) : IsPass p [.compiled p ids new]
  | opened (ids : List QueryId) (data : List CompiledQuery) :
      IsPass p [.compiled p ids (Pipeline.ids data), .delivered p (p.opening data)]
  | complete (ids : List QueryId) (data stream : List CompiledQuery) :
      IsPass p [.compiled p ids (Pipeline.ids data), .delivered p (p.opening data),
        .delivered p (.streamConfig stream)]

/-- A party makes at most one pass, and nobody else does anything between its deeds. -/
def InOneGo (h : List Deed) (p : Party) : Prop :=
  ∃ before own after, h = before ++ own ++ after ∧ IsPass p own ∧
    (∀ d ∈ before, d.party ≠ p) ∧ ∀ d ∈ after, d.party ≠ p

/-- Whoever has done nothing so far begins its pass. -/
theorem InOneGo.of_last {own : List Deed} (fresh : ∀ d ∈ h, d.party ≠ p) (hown : IsPass p own) :
    InOneGo (h ++ own) p :=
  ⟨h, own, [], by simp, hown, fresh, by simp⟩

/-- What somebody else does comes before or after a pass. -/
theorem InOneGo.other {d : Deed} (hp : InOneGo h p) (hd : d.party ≠ p) : InOneGo (h ++ [d]) p := by
  obtain ⟨before, own, after, rfl, hown, hbefore, hafter⟩ := hp
  refine ⟨before, own, after ++ [d], by simp, hown, hbefore, ?_⟩
  intro e he
  rcases List.mem_append.1 he with he | he
  · exact hafter e he
  · rw [List.mem_singleton.1 he]
    exact hd

end History

open History

/-- What a party at the desk delivers next, and what it has done so far. -/
inductive Due (pipeline : Pipeline) : List Deed → Party → Parcel → Prop
  | event {h : List Deed} (e : OutputEvent) (failures : Nat) :
      Due pipeline h .listener ⟨.delta (.output e), [], failures⟩
  | opening {h : List Deed} {p : Party} (hp : p ≠ .listener) (fresh : ∀ d ∈ h, d.party ≠ p)
      (ids : List QueryId) (data : List CompiledQuery) (failures : Nat) :
      Due pipeline (h ++ [.compiled p ids (Pipeline.ids data)]) p
        ⟨p.opening data, [.streamConfig pipeline.stream], failures⟩
  | config {h : List Deed} {p : Party} (hp : p ≠ .listener) (fresh : ∀ d ∈ h, d.party ≠ p)
      (ids : List QueryId) (data : List CompiledQuery) (failures : Nat) :
      Due pipeline
        (h ++ [.compiled p ids (Pipeline.ids data)] ++ [.delivered p (p.opening data)]) p
        ⟨.streamConfig pipeline.stream, [], failures⟩

/-- What an attempt comes to: the message is delivered and the next one begins, or it will be
attempted again, or it is given up. -/
theorem Desk.attempt_cases (d : Desk) (t : Terms) (parcel : Parcel)
    (outcome : Except ChannelError Unit) :
    (outcome = .ok () ∧ d.attempt t parcel outcome =
        ((d.receive parcel.message).conclude true parcel.message,
          ((d.receive parcel.message).conclude true parcel.message).begin parcel.rest)) ∨
      (∃ e, outcome = .error e ∧ d.attempt t parcel outcome =
        (d, .underway { parcel with failures := parcel.failures + 1 })) ∨
      ∃ e reason, outcome = .error e ∧ reason ≠ .notInitialized ∧ d.attempt t parcel outcome =
        (d.conclude false parcel.message, .over (.error reason)) := by
  unfold attempt
  split
  · next hverdict =>
    exact .inl ⟨(RetryPolicy.verdict_delivered hverdict).1, rfl⟩
  · next hverdict =>
    obtain ⟨e, he⟩ := RetryPolicy.verdict_retry hverdict
    exact .inr (.inl ⟨e, he, rfl⟩)
  · next hverdict =>
    obtain ⟨e, he, rfl⟩ := RetryPolicy.verdict_failed hverdict
    have hreason : DistributorError.gaveUp parcel.message.kind (t.endpoint parcel.message)
        (parcel.failures + 1) e ≠ .notInitialized := by simp
    exact .inr (.inr ⟨e, _, he, hreason, rfl⟩)

/-- The initial configuration is the runner's, so others do not change where it stands. -/
theorem Due.initial_conclude {pipeline : Pipeline} {h : List Deed} {p : Party} {parcel : Parcel}
    (hdue : Due pipeline h p parcel) (hp : p ≠ .runner) (d : Distributor) (delivered : Bool) :
    (d.conclude delivered parcel.message).initial = d.initial := by
  cases hdue with
  | event => cases delivered <;> rfl
  | opening =>
    rw [Party.opening, if_neg hp]
    cases delivered <;> rfl
  | config => cases delivered <;> rfl

/-- What is due stays due after an attempt that has failed. -/
theorem Due.again {pipeline : Pipeline} {h : List Deed} {p : Party} {parcel : Parcel}
    (hdue : Due pipeline h p parcel) (failures : Nat) :
    Due pipeline h p { parcel with failures } := by
  cases hdue with
  | event e => exact .event e failures
  | opening hp fresh ids data => exact .opening hp fresh ids data failures
  | config hp fresh ids data => exact .config hp fresh ids data failures

/-- What a successful pass has kept is what it has compiled. -/
theorem Deed.ofPass_of_ok {c : Collaborators} {plan : Plan} {pipeline q : Pipeline} {p : Party}
    {queries : List LogicalQuery} {pass : Pass}
    (h : pipeline.run c plan.candidates queries = (.ok pass, q)) :
    Deed.ofPass c plan pipeline p queries =
      .compiled p (pipeline.assigned c plan.candidates queries) (Pipeline.ids pass.data) := by
  obtain ⟨data, stream, hdata, -, hpass⟩ := pipeline.run_adds c plan.candidates queries
  rw [hpass pass (by rw [h]), ofPass, hdata, List.drop_left]

/-- How the pipeline and the desk stand to the history. -/
structure Books (h : List Deed) (p : Pipeline) (d : Desk) : Prop where
  accounts : d.distributor.Accounts (messages h)
  fabric : d.fabric = forFabric (messages h)
  streaming : d.streaming = forStreaming (messages h)
  numbered : p.Numbered (given h)
  committed : Pipeline.ids p.data = kept h
  /-- The fabric manager has the ids of the passes whose first message it has received. -/
  taken : fabricIds (messages h) = opened h
  latest : ∀ config ∈ configs (messages h), config <+: p.stream
  growing : (configs (messages h)).Pairwise (· <+: ·)
  oneGo : ∀ p, p ≠ .listener → InOneGo h p

namespace Books

variable {c : Collaborators} {plan : Plan} {h : List Deed} {pipeline : Pipeline} {d : Desk}
  {p : Party}

theorem fresh : Books [] .fresh {} where
  accounts := .fresh
  fabric := rfl
  streaming := rfl
  numbered := .fresh
  committed := rfl
  taken := rfl
  latest := by simp [messages, configs]
  growing := .nil
  oneGo _ _ := ⟨[], [], [], rfl, .none, by simp, by simp⟩

/-- A party has its queries compiled. -/
theorem compile (hb : Books h pipeline d) (tags : c.Tags) (hp : p ≠ .listener)
    (fresh : ∀ d ∈ h, d.party ≠ p) (queries : List LogicalQuery) :
    Books (h ++ [.ofPass c plan pipeline p queries])
      (pipeline.run c plan.candidates queries).2 d := by
  obtain ⟨data, stream, hdata, hstream, -⟩ := pipeline.run_adds c plan.candidates queries
  have hnew : Deed.ofPass c plan pipeline p queries =
      .compiled p (pipeline.assigned c plan.candidates queries) (Pipeline.ids data) := by
    rw [Deed.ofPass, hdata, List.drop_left]
  rw [hnew]
  refine
    { accounts := ?_, fabric := ?_, streaming := ?_, numbered := ?_, committed := ?_, taken := ?_
      latest := ?_, growing := ?_, oneGo := ?_ }
  · simpa using hb.accounts
  · simpa using hb.fabric
  · simpa using hb.streaming
  · simpa using hb.numbered.run plan.candidates tags queries
  · simp [hdata, hb.committed]
  · simpa [opened_compiled fresh] using hb.taken
  · intro config hconfig
    rw [hstream]
    exact (hb.latest config (by simpa using hconfig)).trans (List.prefix_append ..)
  · simpa using hb.growing
  · -- The pass begins with this deed, and for all others it comes after theirs.
    intro q hq
    by_cases hqp : q = p
    · subst hqp
      exact .of_last fresh (.compiled ..)
    · exact (hb.oneGo q hq).other (Ne.symm hqp)

/-- What a delivery does to the pass of its sender, and to those of others. -/
theorem oneGo_deliver (hb : Books h pipeline d) {parcel : Parcel}
    (hdue : Due pipeline h p parcel) (q : Party) (hq : q ≠ .listener) :
    InOneGo (h ++ [.delivered p parcel.message]) q := by
  by_cases hqp : q = p
  · subst hqp
    cases hdue with
    | event => exact absurd rfl hq
    | opening hp fresh ids data failures =>
      rw [List.append_assoc]
      exact .of_last fresh (.opened ..)
    | config hp fresh ids data failures =>
      rw [List.append_assoc, List.append_assoc]
      exact .of_last fresh (.complete ..)
  · exact (hb.oneGo q hq).other (Ne.symm hqp)

/-- A message that is due is delivered. -/
theorem deliver (hb : Books h pipeline d) {parcel : Parcel} (hdue : Due pipeline h p parcel)
    (hpermit : d.distributor.permit parcel.message = .ok ()) :
    Books (h ++ [.delivered p parcel.message]) pipeline
      ((d.receive parcel.message).conclude true parcel.message) where
  accounts := by simpa using hb.accounts.deliver hpermit
  fabric := by simp [hb.fabric]
  streaming := by simp [hb.streaming]
  numbered := by simpa using hb.numbered
  committed := by simp [hb.committed]
  taken := by
    rw [messages_append, messages_delivered, fabricIds_append, hb.taken, fabricIds_singleton]
    cases hdue with
    | event e =>
      have hevent : (Outgoing.delta (.output e)).isOpening = false := rfl
      rw [opened_delivered hevent]
      exact List.append_nil _
    | opening hp fresh ids data failures =>
      rw [opened_opening fresh (p.isOpening_opening data), p.openingIds_opening]
    | config =>
      have hconfig : (Outgoing.streamConfig pipeline.stream).isOpening = false := rfl
      rw [opened_delivered hconfig]
      exact List.append_nil _
  latest := by
    intro config hconfig
    rw [messages_append, configs_append, List.mem_append] at hconfig
    rcases hconfig with hold | hnew
    · exact hb.latest config hold
    · cases hdue with
      | event => cases hnew
      | opening hp fresh ids data failures =>
        rw [messages_delivered, configs_opening] at hnew
        cases hnew
      | config =>
        obtain rfl := List.mem_singleton.1 hnew
        exact List.prefix_refl _
  growing := by
    rw [messages_append, configs_append, messages_delivered]
    cases hdue with
    | event => simpa [configs] using hb.growing
    | opening hp fresh ids data failures =>
      rw [configs_opening, List.append_nil]
      exact hb.growing
    | config =>
      refine List.pairwise_append.2 ⟨hb.growing, List.pairwise_singleton .., ?_⟩
      intro config hconfig last hlast
      rw [List.mem_singleton.1 hlast]
      exact hb.latest config hconfig
  oneGo q hq := hb.oneGo_deliver hdue q hq

/-- The delivery of a message is given up. -/
theorem giveUp (hb : Books h pipeline d) {o : Outgoing}
    (hpermit : d.distributor.permit o = .ok ()) : Books h pipeline (d.conclude false o) :=
  { hb with accounts := hb.accounts.giveUp hpermit }

end Books

end ControlPlane
