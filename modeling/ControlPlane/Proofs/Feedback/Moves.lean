import ControlPlane.Proofs.Feedback.History

/-!
# What a move of the output listener can do

## Main definitions

- `Listener.Carries`: a listener that delivers nothing but the event that it has in hand.
- `Listener.Effect`: what a move does to the listener and the desk, and what it adds to the history.

## Main statements

- `Listener.effect_of_next`: the effects are all that moves have.
-/

namespace ControlPlane

/-- What the managers receive when the message of an event is delivered. -/
theorem Desk.gained_receive (d : Desk) (e : OutputEvent) :
    d.gained ((d.receive e.change).conclude true e.change).leave = [e.change] := by
  have hfabric : ((d.receive e.change).conclude true e.change).leave.fabric =
      d.fabric ++ [e.change] := rfl
  have hstreaming : ((d.receive e.change).conclude true e.change).leave.streaming =
      d.streaming := rfl
  rw [gained, hfabric, hstreaming, List.drop_left, List.drop_length]
  rfl

namespace Listener

variable {t : Terms} {limit : Nat} {o : Office} {l : Listener} {d : Desk}

/-- The listener delivers the event that it has in hand, and nothing else. -/
def Carries (phase : Phase) : Prop :=
  ∀ {e p}, phase = .sending e p → p.message = e.change ∧ p.rest = []

/-- What a move does to the listener and the desk, and what it adds to the history. -/
inductive Effect (t : Terms) (limit : Nat) (o : Office) :
    Move → List Record → Listener → Desk → Prop
  | accept (transmission : Transmission) (hphase : o.listener.phase = .idle) :
      Effect t limit o (.accept transmission) [.accepted transmission]
        { o.listener with readers := o.listener.readers ++ [.reading transmission] } o.desk
  | finish {i : Nat} {transmission : Transmission} (inTime : Bool)
      (hr : o.listener.readers[i]? = some (.reading transmission)) :
      Effect t limit o (.read i inTime)
        [.finished ⟨i, inTime, (Reader.afterReading limit transmission inTime).held?⟩]
        { o.listener with
          readers := o.listener.readers.set i (.afterReading limit transmission inTime) } o.desk
  /-- The listener has ended, and the event of a reader is discarded. -/
  | discard {i : Nat} {e : OutputEvent} (hr : o.listener.readers[i]? = some (.holding e))
      (hended : o.listener.hasEnded = true) :
      Effect t limit o (.enqueue i) []
        { o.listener with readers := o.listener.readers.set i .dropped } o.desk
  | enqueue {i : Nat} {e : OutputEvent} (hr : o.listener.readers[i]? = some (.holding e))
      (hroom : o.listener.queue.length < capacity) :
      Effect t limit o (.enqueue i) [.queued i e]
        { o.listener with
          readers := o.listener.readers.set i (.served e)
          queue := o.listener.queue ++ [e]
          entered := o.listener.entered ++ [e] } o.desk
  | dequeue {e : OutputEvent} {rest : List OutputEvent} (hphase : o.listener.phase = .idle)
      (hqueue : o.listener.queue = e :: rest) :
      Effect t limit o .dequeue [] { o.listener with phase := .waiting e, queue := rest } o.desk
  /-- The fabric manager has no initial configuration. -/
  | refuse {e : OutputEvent} (hphase : o.listener.phase = .waiting e)
      (hinit : o.desk.distributor.initial ≠ .sent) :
      Effect t limit o .approach []
        { o.listener with phase := .ended (.error (.forward .notInitialized)) } o.desk.leave
  | begin {e : OutputEvent} (hphase : o.listener.phase = .waiting e)
      (hinit : o.desk.distributor.initial = .sent) :
      Effect t limit o .approach [] { o.listener with phase := .sending e ⟨e.change, [], 0⟩ }
        { o.desk with holder := some .listener }
  | deliver {e : OutputEvent} {p : Parcel} (hphase : o.listener.phase = .sending e p) :
      Effect t limit o (.attempt (.ok ())) [.delivered e.change]
        { o.listener with phase := .idle, forwarded := o.listener.forwarded ++ [e] }
        ((o.desk.receive e.change).conclude true e.change).leave
  /-- An attempt has failed, and another one will be made. -/
  | again {e : OutputEvent} {p : Parcel} (reason : ChannelError)
      (hphase : o.listener.phase = .sending e p)
      (hallowed : p.failures + 1 < t.retry.allowed) :
      Effect t limit o (.attempt (.error reason)) []
        { o.listener with phase := .sending e { p with failures := p.failures + 1 } } o.desk
  /-- The last attempt has failed. -/
  | giveUp {e : OutputEvent} {p : Parcel} (reason : ChannelError)
      (hphase : o.listener.phase = .sending e p)
      (hlast : t.retry.allowed ≤ p.failures + 1) :
      Effect t limit o (.attempt (.error reason)) []
        { o.listener with
          phase := .ended (.error (.forward (.gaveUp .delta t.fabric (p.failures + 1) reason))) }
        o.desk.leave
  /-- The listener has been told to stop. -/
  | stop {d : Desk} (hcancelled : o.cancelled = true) (hd : d = o.desk ∨ d = o.desk.leave) :
      Effect t limit o .stop [] { o.listener with phase := .ended (.ok ()) } d

/-- A move after which the managers have what they had adds only what it takes in. -/
theorem Office.records_of_eq (m : Move) (hfabric : d.fabric = o.desk.fabric)
    (hstreaming : d.streaming = o.desk.streaming) :
    o.records ⟨l, d, o.cancelled⟩ m = o.intake ⟨l, d, o.cancelled⟩ m := by
  have hgained : o.desk.gained d = [] := Desk.gained_of_eq hfabric hstreaming
  rw [records, hgained]
  exact List.append_nil _

/-- A move that takes in nothing, and after which the managers have what they had, adds nothing. -/
theorem Office.records_eq_nil {m : Move} (hintake : o.intake ⟨l, d, o.cancelled⟩ m = [])
    (hfabric : d.fabric = o.desk.fabric) (hstreaming : d.streaming = o.desk.streaming) :
    o.records ⟨l, d, o.cancelled⟩ m = [] :=
  (Office.records_of_eq m hfabric hstreaming).trans hintake

/-! ## What each move does -/

theorem Effect.of_eq {m : Move} {records added : List Record} (h : records = added)
    (he : Effect t limit o m added l d) : Effect t limit o m records l d := h ▸ he

theorem effect_of_accept {transmission : Transmission}
    (h : o.listener.next t limit o.cancelled o.desk (.accept transmission) = some (l, d)) :
    Effect t limit o (.accept transmission)
      (o.records { o with listener := l, desk := d } (.accept transmission)) l d := by
  simp only [next] at h
  split at h
  · next hfree =>
    cases h
    rw [Office.records_of_eq (d := o.desk) _ rfl rfl]
    exact .accept transmission hfree.1
  · cases h

theorem effect_of_read {i : Nat} {inTime : Bool}
    (h : o.listener.next t limit o.cancelled o.desk (.read i inTime) = some (l, d)) :
    Effect t limit o (.read i inTime)
      (o.records { o with listener := l, desk := d } (.read i inTime)) l d := by
  simp only [next] at h
  split at h
  · next hr =>
    cases h
    have hlt := (List.getElem?_eq_some_iff.1 hr).1
    rw [Office.records_of_eq (d := o.desk) _ rfl rfl, Office.intake]
    simp only [List.getElem?_set_self hlt, Option.bind_some]
    exact .finish inTime hr
  · cases h

theorem effect_of_enqueue {i : Nat}
    (h : o.listener.next t limit o.cancelled o.desk (.enqueue i) = some (l, d)) :
    Effect t limit o (.enqueue i) (o.records { o with listener := l, desk := d } (.enqueue i))
      l d := by
  simp only [next] at h
  split at h
  · next hr =>
    split at h
    · next hended =>
      cases h
      have hrecords := Office.records_of_eq (o := o) (d := o.desk)
        (l := { o.listener with readers := o.listener.readers.set i .dropped }) (.enqueue i) rfl rfl
      rw [hrecords, Office.intake, List.drop_length]
      exact .discard hr hended
    · split at h
      · next hroom =>
        cases h
        rw [Office.records_of_eq (d := o.desk) _ rfl rfl, Office.intake, List.drop_left]
        exact .enqueue hr hroom
      · cases h
  · cases h

theorem effect_of_dequeue (h : o.listener.next t limit o.cancelled o.desk .dequeue = some (l, d)) :
    Effect t limit o .dequeue (o.records { o with listener := l, desk := d } .dequeue) l d := by
  simp only [next] at h
  split at h
  · next hphase hqueue =>
    split at h
    · cases h
    · cases h
      exact .of_eq (Office.records_eq_nil rfl rfl rfl) (.dequeue hphase hqueue)
  · cases h

theorem effect_of_approach
    (h : o.listener.next t limit o.cancelled o.desk .approach = some (l, d)) :
    Effect t limit o .approach (o.records { o with listener := l, desk := d } .approach) l d := by
  simp only [next] at h
  split at h
  · next hphase =>
    split at h
    · cases h
    · by_cases hfree : o.desk.holder = none
      · rw [Desk.take, if_pos hfree, Option.map_some, Desk.begin, Distributor.permit] at h
        -- A change is permitted just if the initial configuration has been sent.
        by_cases hinit : o.desk.distributor.initial = .sent
        · rw [if_pos hinit] at h
          cases h
          exact .of_eq (Office.records_eq_nil rfl rfl rfl) (.begin hphase hinit)
        · rw [if_neg hinit] at h
          cases h
          exact .of_eq (Office.records_eq_nil rfl rfl rfl) (.refuse hphase hinit)
      · rw [Desk.take, if_neg hfree] at h
        cases h
  · cases h

theorem effect_of_attempt {outcome : Except ChannelError Unit} (hcarries : Carries o.listener.phase)
    (h : o.listener.next t limit o.cancelled o.desk (.attempt outcome) = some (l, d)) :
    Effect t limit o (.attempt outcome)
      (o.records { o with listener := l, desk := d } (.attempt outcome)) l d := by
  simp only [next] at h
  split at h
  · next event parcel hphase =>
    split at h
    · cases h
    · obtain ⟨message, rest, failures⟩ := parcel
      -- Nothing comes after the event's message, so its delivery ends the stay at the desk.
      obtain ⟨rfl, rfl⟩ := hcarries hphase
      rw [Desk.attempt] at h
      cases outcome with
      | ok =>
        cases h
        have hrecords := congrArg (List.map Record.delivered) (o.desk.gained_receive event)
        exact .of_eq hrecords (.deliver hphase)
      | error reason =>
        rw [RetryPolicy.verdict] at h
        by_cases hagain : t.retry.allowsRetry (failures + 1)
        · rw [if_pos hagain] at h
          cases h
          have hallowed : failures + 1 < t.retry.allowed := of_decide_eq_true hagain
          exact .of_eq (Office.records_eq_nil rfl rfl rfl) (.again reason hphase hallowed)
        · rw [if_neg hagain] at h
          cases h
          have hlast : ¬failures + 1 < t.retry.allowed := fun hlt => hagain (decide_eq_true hlt)
          exact .of_eq (Office.records_eq_nil rfl rfl rfl)
            (.giveUp reason hphase (Nat.le_of_not_lt hlast))
  · cases h

theorem effect_of_stop (h : o.listener.next t limit o.cancelled o.desk .stop = some (l, d)) :
    Effect t limit o .stop (o.records { o with listener := l, desk := d } .stop) l d := by
  simp only [next] at h
  split at h
  · next hcancelled =>
    split at h
    · cases h
      exact .of_eq (Office.records_eq_nil rfl rfl rfl) (.stop hcancelled (.inl rfl))
    · cases h
      exact .of_eq (Office.records_eq_nil rfl rfl rfl) (.stop hcancelled (.inl rfl))
    · cases h
      exact .of_eq (Office.records_eq_nil rfl rfl rfl) (.stop hcancelled (.inr rfl))
    · cases h
  · cases h

/-- A listener that carries the event in hand makes no move with another effect. -/
theorem effect_of_next (hcarries : Carries o.listener.phase) {m : Move}
    (h : o.listener.next t limit o.cancelled o.desk m = some (l, d)) :
    Effect t limit o m (o.records { o with listener := l, desk := d } m) l d := by
  cases m with
  | accept => exact effect_of_accept h
  | read => exact effect_of_read h
  | enqueue => exact effect_of_enqueue h
  | dequeue => exact effect_of_dequeue h
  | approach => exact effect_of_approach h
  | attempt => exact effect_of_attempt hcarries h
  | stop => exact effect_of_stop h

end Listener

end ControlPlane
