import ControlPlane.Proofs.Feedback.Moves
import ControlPlane.Proofs.Feedback.Reception
import Mathlib.Data.List.Perm.Subperm

/-!
# What becomes of events

Every event that a reader has read is held by the reader, waits in the queue, is in the listener's
hand, or has been delivered, until the listener ends. Events are delivered in the order in which
they have entered the queue.

## Main definitions

- `Listener.Intake`: how the readers stand to the history.
- `Listener.Line`: how the queue and the listener's hand stand to the history.
- `Listener.Kept`: how a listener stands to its history.
- `Listener.Accounted`: what a history tells of its events.

## Main statements

- `Listener.Kept.move`: what one move preserves.
- `Listener.Unfolds.accounted`: what holds after any moves.
-/

namespace ControlPlane.Listener

open Log

variable {limit : Nat} {h : List Record} {readers : List Reader} {phase : Phase}
  {queue : List OutputEvent} {i : Nat} {e : OutputEvent}

/-- The listener has not ended. -/
def Phase.IsOpen (phase : Phase) : Prop := ∀ outcome, phase ≠ .ended outcome

theorem Phase.isOpen_idle : IsOpen .idle := by
  intro outcome h
  cases h

theorem Phase.isOpen_waiting : IsOpen (.waiting e) := by
  intro outcome h
  cases h

theorem Phase.isOpen_sending {p : Parcel} : IsOpen (.sending e p) := by
  intro outcome h
  cases h

theorem hasEnded_eq_false_iff {l : Listener} : l.hasEnded = false ↔ l.phase.IsOpen := by
  cases hphase : l.phase <;> simp [hasEnded, hphase, Phase.IsOpen]

/-! ## Readers -/

/-- When a reader changes, what it held is exchanged for what it holds. -/
theorem perm_held_set {r : Reader} (hr : readers[i]? = some r) (r' : Reader) :
    (held (readers.set i r') ++ r.heldAt i).Perm (held readers ++ r'.heldAt i) := by
  obtain ⟨hi, hget⟩ := List.getElem?_eq_some_iff.1 hr
  -- The readers are split at the one that changes; those after it keep their positions.
  have hlength : (readers.take i).length = i := List.length_take_of_le (Nat.le_of_lt hi)
  have hheld : ∀ s : Reader, held (readers.take i ++ s :: readers.drop (i + 1)) =
      held (readers.take i) ++ s.heldAt i ++
        ((readers.drop (i + 1)).zipIdx (i + 1)).flatMap fun x => x.1.heldAt x.2 := by
    intro s
    rw [held, List.zipIdx_append, List.zipIdx_cons, List.flatMap_append, List.flatMap_cons, hlength,
      Nat.zero_add, List.append_assoc]
    rfl
  have hsplit : readers = readers.take i ++ r :: readers.drop (i + 1) := by
    rw [← hget, ← List.drop_eq_getElem_cons hi, List.take_append_drop]
  have hset : readers.set i r' = readers.take i ++ r' :: readers.drop (i + 1) :=
    List.set_eq_take_append_cons_drop.trans (if_pos hi)
  have hbefore := (congrArg held hsplit).trans (hheld r)
  have hafter := (congrArg held hset).trans (hheld r')
  refine List.perm_iff_count.2 fun x => ?_
  rw [hbefore, hafter]
  simp only [List.count_append]
  omega

theorem held_append_reading (t : Transmission) : held (readers ++ [.reading t]) = held readers := by
  rw [held, List.zipIdx_append, List.flatMap_append]
  exact List.append_nil _

/-- What a reader has after its connection is an event or nothing. -/
theorem Reader.afterReading_cases (limit : Nat) (t : Transmission) (inTime : Bool) :
    (afterReading limit t inTime).held? = (if inTime then t.event? limit else none) ∧
      ∀ t', afterReading limit t inTime ≠ .reading t' := by
  unfold afterReading
  split
  · split
    · next hevent => exact ⟨hevent.symm, by simp⟩
    · next hevent => exact ⟨hevent.symm, by simp⟩
  · exact ⟨rfl, by simp⟩

theorem getElem?_concat_cases {α : Type} {l : List α} {a b : α} (hb : (l ++ [a])[i]? = some b) :
    l[i]? = some b ∨ i = l.length ∧ a = b := by
  rcases Nat.lt_or_ge i l.length with hlt | hge
  · exact .inl (List.getElem?_append_left hlt ▸ hb)
  · rw [List.getElem?_append_right hge, List.getElem?_singleton] at hb
    split at hb
    · exact .inr ⟨by omega, Option.some.inj hb⟩
    · cases hb

/-- How the readers stand to the history. -/
structure Intake (limit : Nat) (h : List Record) (readers : List Reader) (phase : Phase) :
    Prop where
  count : (accepted h).length = readers.length
  /-- A connection that is being read has not been read before. -/
  reading : ∀ {i t}, readers[i]? = some (.reading t) →
    (accepted h)[i]? = some t ∧ ∀ r ∈ readings h, r.connection ≠ i
  /-- What a reader has comes from its own connection. -/
  finished : ∀ r ∈ readings h, ∃ t, (accepted h)[r.connection]? = some t ∧
    r.event = if r.inTime then t.event? limit else none
  once : ((readings h).map (·.connection)).Nodup
  /-- What was read has entered the queue or is held, until events are discarded. -/
  balance : ∃ discarded, (decoded h).Perm (queued h ++ held readers ++ discarded) ∧
    (phase.IsOpen → discarded = [])

namespace Intake

theorem fresh : Intake limit [] [] .idle where
  count := rfl
  reading := by simp
  finished := List.forall_mem_nil _
  once := List.nodup_nil
  balance := ⟨[], .nil, fun _ => rfl⟩

/-- Readers do not care about what is delivered, nor about what the listener does until it ends. -/
theorem frame (hi : Intake limit h readers phase) (messages : List Outgoing) {phase' : Phase}
    (hphase : phase'.IsOpen → phase.IsOpen) :
    Intake limit (h ++ messages.map .delivered) readers phase' := by
  have hdecoded : decoded (messages.map .delivered) = [] := by simp [decoded]
  obtain ⟨discarded, hperm, hopen⟩ := hi.balance
  refine ⟨?_, fun hr => ?_, ?_, ?_, discarded, ?_, fun hp => hopen (hphase hp)⟩
  · simpa using hi.count
  · simpa using hi.reading hr
  · simpa using hi.finished
  · simpa using hi.once
  · simpa [hdecoded] using hperm

/-- A reader has finished with a connection that was accepted. -/
theorem lt_of_mem_readings (hi : Intake limit h readers phase) {r : Reading}
    (hr : r ∈ readings h) : r.connection < (accepted h).length := by
  obtain ⟨_, ht, -⟩ := hi.finished r hr
  exact (List.getElem?_eq_some_iff.1 ht).1

theorem turn (hi : Intake limit h readers phase) {phase' : Phase}
    (hphase : phase'.IsOpen → phase.IsOpen) : Intake limit h readers phase' := by
  simpa using hi.frame [] hphase

/-- A connection is accepted. -/
theorem accept (hi : Intake limit h readers phase) (t : Transmission) :
    Intake limit (h ++ [.accepted t]) (readers ++ [.reading t]) phase := by
  have haccepted : accepted (h ++ [.accepted t]) = accepted h ++ [t] := List.filterMap_append
  have hreadings : readings (h ++ [.accepted t]) = readings h := by simp [readings]
  have hdecoded : decoded (h ++ [.accepted t]) = decoded h := by rw [decoded, hreadings, decoded]
  have hqueued : queued (h ++ [.accepted t]) = queued h := by simp [queued]
  refine ⟨?_, fun {i u} hr => ?_, fun r hr => ?_, hreadings ▸ hi.once, ?_⟩
  · rw [haccepted, List.length_append, List.length_append, hi.count]
    rfl
  · rw [haccepted, hreadings]
    rcases getElem?_concat_cases hr with hold | ⟨rfl, hnew⟩
    · obtain ⟨hu, hnot⟩ := hi.reading hold
      exact ⟨by rw [List.getElem?_append_left (List.getElem?_eq_some_iff.1 hu).1, hu], hnot⟩
    · cases hnew
      rw [← hi.count]
      exact ⟨List.getElem?_concat_length, fun r hr => Nat.ne_of_lt (hi.lt_of_mem_readings hr)⟩
  · rw [hreadings] at hr
    obtain ⟨u, hu, hevent⟩ := hi.finished r hr
    exact ⟨u, by rw [haccepted, List.getElem?_append_left (hi.lt_of_mem_readings hr), hu], hevent⟩
  · rw [held_append_reading, hdecoded, hqueued]
    exact hi.balance

/-- Other readers stay as they are. -/
theorem reading_set (hi : Intake limit h readers phase) {r : Reader} (hr : ∀ t, r ≠ .reading t)
    {j : Nat} {t : Transmission} (hj : (readers.set i r)[j]? = some (.reading t)) :
    j ≠ i ∧ (accepted h)[j]? = some t ∧ ∀ r ∈ readings h, r.connection ≠ j := by
  have hne : j ≠ i := by
    rintro rfl
    rw [List.getElem?_set_self'] at hj
    cases hget : readers[j]? with
    | none => simp [hget] at hj
    | some _ => exact hr t (by simpa [hget] using hj)
  rw [List.getElem?_set_ne hne.symm] at hj
  exact ⟨hne, hi.reading hj⟩

/-- A reader finishes. -/
theorem finish (hi : Intake limit h readers phase) {t : Transmission} (inTime : Bool)
    (hr : readers[i]? = some (.reading t)) :
    Intake limit (h ++ [.finished ⟨i, inTime, (Reader.afterReading limit t inTime).held?⟩])
      (readers.set i (.afterReading limit t inTime)) phase := by
  obtain ⟨hevent, hother⟩ := Reader.afterReading_cases limit t inTime
  generalize Reader.afterReading limit t inTime = r' at hevent hother ⊢
  obtain ⟨ht, hnew⟩ := hi.reading hr
  obtain ⟨discarded, hperm, hopen⟩ := hi.balance
  have haccepted : accepted (h ++ [.finished ⟨i, inTime, r'.held?⟩]) = accepted h := by
    simp [accepted]
  have hreadings : readings (h ++ [.finished ⟨i, inTime, r'.held?⟩]) =
      readings h ++ [⟨i, inTime, r'.held?⟩] := List.filterMap_append
  have hdecoded : decoded (h ++ [.finished ⟨i, inTime, r'.held?⟩]) = decoded h ++ r'.heldAt i := by
    rw [decoded, hreadings, List.filterMap_append, decoded]
    cases hr' : r'.held? <;> simp [Reader.heldAt, hr']
  have hqueued : queued (h ++ [.finished ⟨i, inTime, r'.held?⟩]) = queued h := by simp [queued]
  refine ⟨?_, fun {j u} hj => ?_, fun r hmem => ?_, ?_, discarded, ?_, hopen⟩
  · rw [haccepted, List.length_set, hi.count]
  · obtain ⟨hne, hu, hnot⟩ := hi.reading_set hother hj
    rw [haccepted, hreadings]
    refine ⟨hu, fun r hmem => ?_⟩
    rcases List.mem_append.1 hmem with hold | hlast
    · exact hnot r hold
    · exact (List.mem_singleton.1 hlast ▸ hne.symm)
  · rw [haccepted]
    rcases List.mem_append.1 (hreadings ▸ hmem) with hold | hlast
    · exact hi.finished r hold
    · exact (List.mem_singleton.1 hlast) ▸ ⟨t, ht, hevent⟩
  · rw [hreadings, List.map_append, List.nodup_append]
    refine ⟨hi.once, List.pairwise_singleton _ _, fun j hj k hk => ?_⟩
    obtain ⟨r, hmem, rfl⟩ := List.mem_map.1 hj
    exact List.mem_singleton.1 hk ▸ hnew r hmem
  · rw [hdecoded, hqueued]
    -- What was read now is what the reader holds now.
    refine List.perm_iff_count.2 fun x => ?_
    have hcount := hperm.count_eq x
    have hheld := (perm_held_set hr r').count_eq x
    have hnone : (Reader.heldAt i (.reading t)).count x = 0 := rfl
    simp only [List.count_append, hnone] at hcount hheld ⊢
    omega

/-- An event enters the queue. -/
theorem enqueue (hi : Intake limit h readers phase) (hr : readers[i]? = some (.holding e)) :
    Intake limit (h ++ [.queued i e]) (readers.set i (.served e)) phase := by
  obtain ⟨discarded, hperm, hopen⟩ := hi.balance
  have haccepted : accepted (h ++ [.queued i e]) = accepted h := by simp [accepted]
  have hreadings : readings (h ++ [.queued i e]) = readings h := by simp [readings]
  have hdecoded : decoded (h ++ [.queued i e]) = decoded h := by rw [decoded, hreadings, decoded]
  have hqueued : queued (h ++ [.queued i e]) = queued h ++ [(i, e)] := List.filterMap_append
  refine ⟨?_, fun hj => ?_, ?_, hreadings ▸ hi.once, discarded, ?_, hopen⟩
  · rw [haccepted, List.length_set, hi.count]
  · rw [haccepted, hreadings]
    exact (hi.reading_set (r := .served e) (by simp) hj).2
  · rw [haccepted, hreadings]
    exact hi.finished
  · rw [hdecoded, hqueued]
    -- The event has gone from the reader to the queue.
    refine List.perm_iff_count.2 fun x => ?_
    have hcount := hperm.count_eq x
    have hheld := (perm_held_set hr (.served e)).count_eq x
    have hone : (Reader.heldAt i (.holding e)).count x = [(i, e)].count x := rfl
    have hnone : (Reader.heldAt i (.served e)).count x = 0 := rfl
    simp only [List.count_append, hone, hnone] at hcount hheld ⊢
    omega

/-- After the listener has ended, an event is discarded. -/
theorem discard (hi : Intake limit h readers phase) (hr : readers[i]? = some (.holding e))
    (hended : ¬phase.IsOpen) : Intake limit h (readers.set i .dropped) phase := by
  obtain ⟨discarded, hperm, -⟩ := hi.balance
  refine ⟨?_, fun hj => (hi.reading_set (r := .dropped) (by simp) hj).2, hi.finished, hi.once,
    (i, e) :: discarded, ?_, fun hopen => absurd hopen hended⟩
  · rw [List.length_set, hi.count]
  · refine List.perm_iff_count.2 fun x => ?_
    have hcount := hperm.count_eq x
    have hheld := (perm_held_set hr .dropped).count_eq x
    have hone : (Reader.heldAt i (.holding e)).count x = [(i, e)].count x := rfl
    have hnone : (Reader.heldAt i .dropped).count x = 0 := rfl
    rw [← List.singleton_append]
    simp only [List.count_append, hone, hnone] at hcount hheld ⊢
    omega

end Intake

/-! ## The queue -/

/-- How the queue and the listener's hand stand to the history. -/
structure Line (h : List Record) (phase : Phase) (queue : List OutputEvent) : Prop where
  /-- What has entered the queue was delivered, is in hand or still waits, in this order; the event
  in hand is lost when the listener ends. -/
  order : ∃ sent inHand, delivered h = sent.map (·.change) ∧
    (queued h).map (·.2) = sent ++ inHand ++ queue ∧ inHand.length ≤ 1 ∧
    (phase.IsOpen → inHand = phase.inHand)
  room : queue.length ≤ capacity
  parcel : Carries phase

namespace Line

theorem fresh : Line [] .idle [] where
  order := ⟨[], [], rfl, rfl, Nat.zero_le 1, fun _ => rfl⟩
  room := Nat.zero_le _
  parcel := by simp [Carries]

/-- The queue does not care about connections. -/
theorem frame (hl : Line h phase queue) {h' : List Record} (hdelivered : delivered h' = delivered h)
    (hqueued : queued h' = queued h) : Line h' phase queue :=
  ⟨hdelivered ▸ hqueued ▸ hl.order, hl.room, hl.parcel⟩

/-- An event enters the queue. -/
theorem enqueue (hl : Line h phase queue) (i : Nat) (e : OutputEvent)
    (hroom : queue.length < capacity) : Line (h ++ [.queued i e]) phase (queue ++ [e]) := by
  have hdelivered : delivered (h ++ [.queued i e]) = delivered h := by simp [delivered]
  have hqueued : queued (h ++ [.queued i e]) = queued h ++ [(i, e)] := List.filterMap_append
  obtain ⟨sent, inHand, hsent, hline, hrest⟩ := hl.order
  refine ⟨⟨sent, inHand, hdelivered ▸ hsent, ?_, hrest⟩, ?_, hl.parcel⟩
  · rw [hqueued, List.map_append, hline, List.append_assoc _ queue]
    rfl
  · rw [List.length_append]
    exact hroom

/-- The listener takes the first event in hand. -/
theorem dequeue (hl : Line h .idle (e :: queue)) : Line h (.waiting e) queue := by
  obtain ⟨sent, inHand, hsent, hline, -, hopen⟩ := hl.order
  cases hopen Phase.isOpen_idle
  refine ⟨⟨sent, [e], hsent, ?_, Nat.le_refl 1, fun _ => rfl⟩, Nat.le_of_succ_le hl.room,
    by simp [Carries]⟩
  rw [hline, List.append_assoc, List.append_assoc]
  rfl

/-- The listener goes on with the event that it has in hand. -/
theorem proceed (hl : Line h phase queue) (hopen : phase.IsOpen) (hhand : phase.inHand = [e])
    {p : Parcel} (hp : p.message = e.change ∧ p.rest = []) : Line h (.sending e p) queue := by
  obtain ⟨sent, inHand, hsent, hline, hone, hhold⟩ := hl.order
  refine ⟨⟨sent, inHand, hsent, hline, hone, fun _ => (hhold hopen).trans hhand⟩, hl.room, ?_⟩
  rintro _ _ ⟨⟩
  exact hp

/-- The event in hand is delivered. -/
theorem deliver {p : Parcel} (hl : Line h (.sending e p) queue) :
    Line (h ++ [.delivered e.change]) .idle queue := by
  have hdelivered : delivered (h ++ [.delivered e.change]) = delivered h ++ [e.change] :=
    List.filterMap_append
  have hqueued : queued (h ++ [.delivered e.change]) = queued h := by simp [queued]
  obtain ⟨sent, inHand, hsent, hline, -, hopen⟩ := hl.order
  cases hopen Phase.isOpen_sending
  refine ⟨⟨sent ++ [e], [], ?_, ?_, Nat.zero_le 1, fun _ => rfl⟩, hl.room, by simp [Carries]⟩
  · rw [hdelivered, hsent, List.map_append]
    rfl
  · rw [hqueued, hline, List.append_nil]
    rfl

/-- The listener ends. -/
theorem close (hl : Line h phase queue) (outcome : Except FeedbackError Unit) :
    Line h (.ended outcome) queue := by
  obtain ⟨sent, inHand, hsent, hline, hone, -⟩ := hl.order
  exact ⟨⟨sent, inHand, hsent, hline, hone, fun hopen => absurd rfl (hopen outcome)⟩, hl.room,
    by simp [Carries]⟩

end Line

/-! ## Moves -/

/-- How a listener stands to its history. -/
structure Kept (limit : Nat) (h : List Record) (o : Office) : Prop where
  intake : Intake limit h o.listener.readers o.listener.phase
  line : Line h o.listener.phase o.listener.queue
  /-- The listener has not ended well unless it was told to stop. -/
  ended : o.listener.phase = .ended (.ok ()) → o.cancelled = true
  entered : o.listener.entered = (queued h).map (·.2)
  forwarded : o.listener.forwarded.map (·.change) = delivered h

namespace Kept

variable {t : Terms} {o : Office} {l : Listener} {d : Desk} {m : Move} {records : List Record}

theorem fresh (d : Desk) : Kept limit [] { desk := d } := ⟨.fresh, .fresh, by simp, rfl, rfl⟩

/-- A move of the listener or of a reader. -/
theorem move (hk : Kept limit h o) (he : Effect t limit o m records l d) :
    Kept limit (h ++ records) { o with listener := l, desk := d } := by
  obtain ⟨hintake, hline, hended, hentered, hforwarded⟩ := hk
  cases he with
  | accept transmission hphase =>
    have hqueued : queued (h ++ [.accepted transmission]) = queued h :=
      (queued_append ..).trans (List.append_nil _)
    have hdelivered : delivered (h ++ [.accepted transmission]) = delivered h :=
      (delivered_append ..).trans (List.append_nil _)
    exact ⟨hintake.accept transmission, hline.frame hdelivered hqueued, hended, hqueued ▸ hentered,
      hdelivered ▸ hforwarded⟩
  | @finish i transmission inTime hr =>
    have hqueued (reading : Reading) : queued (h ++ [.finished reading]) = queued h :=
      (queued_append ..).trans (List.append_nil _)
    have hdelivered (reading : Reading) : delivered (h ++ [.finished reading]) = delivered h :=
      (delivered_append ..).trans (List.append_nil _)
    exact ⟨hintake.finish inTime hr, hline.frame (hdelivered _) (hqueued _), hended,
      hqueued _ ▸ hentered, hdelivered _ ▸ hforwarded⟩
  | discard hr hclosed =>
    have hopen : ¬o.listener.phase.IsOpen := fun hopen =>
      Bool.false_ne_true ((hasEnded_eq_false_iff.2 hopen).symm.trans hclosed)
    rw [List.append_nil]
    exact ⟨hintake.discard hr hopen, hline, hended, hentered, hforwarded⟩
  | @enqueue i e hr hroom =>
    have hqueued : queued (h ++ [.queued i e]) = queued h ++ [(i, e)] := List.filterMap_append
    have hdelivered : delivered (h ++ [.queued i e]) = delivered h :=
      (delivered_append ..).trans (List.append_nil _)
    refine ⟨hintake.enqueue hr, hline.enqueue i e hroom, hended, ?_, hdelivered ▸ hforwarded⟩
    show o.listener.entered ++ [e] = _
    rw [hentered, hqueued, List.map_append]
    rfl
  | dequeue hphase hqueue =>
    rw [hphase, hqueue] at hline
    rw [List.append_nil]
    exact ⟨hintake.turn fun _ => hphase ▸ Phase.isOpen_idle, hline.dequeue, by simp, hentered,
      hforwarded⟩
  | refuse hphase =>
    -- The event in hand is lost when the listener ends, here as well as below.
    rw [List.append_nil]
    exact ⟨hintake.turn fun hopen => absurd rfl (hopen _), hline.close _, by simp, hentered,
      hforwarded⟩
  | begin hphase =>
    have hopen : o.listener.phase.IsOpen := hphase ▸ Phase.isOpen_waiting
    rw [List.append_nil]
    exact ⟨hintake.turn fun _ => hopen,
      hline.proceed hopen (congrArg Phase.inHand hphase) ⟨rfl, rfl⟩, by simp, hentered,
      hforwarded⟩
  | @deliver e p hphase =>
    rw [hphase] at hline
    have hqueued : queued (h ++ [.delivered e.change]) = queued h :=
      (queued_append ..).trans (List.append_nil _)
    have hdelivered : delivered (h ++ [.delivered e.change]) = delivered h ++ [e.change] :=
      List.filterMap_append
    refine ⟨hintake.frame [e.change] fun _ => hphase ▸ Phase.isOpen_sending, hline.deliver, by simp,
      hqueued ▸ hentered, ?_⟩
    show (o.listener.forwarded ++ [e]).map (·.change) = _
    rw [hdelivered, ← hforwarded, List.map_append]
    rfl
  | again reason hphase =>
    have hopen : o.listener.phase.IsOpen := hphase ▸ Phase.isOpen_sending
    obtain ⟨hmessage, hrest⟩ := hline.parcel hphase
    rw [List.append_nil]
    exact ⟨hintake.turn fun _ => hopen,
      hline.proceed hopen (congrArg Phase.inHand hphase) ⟨hmessage, hrest⟩, by simp, hentered,
      hforwarded⟩
  | giveUp reason hphase =>
    rw [List.append_nil]
    exact ⟨hintake.turn fun hopen => absurd rfl (hopen _), hline.close _, by simp, hentered,
      hforwarded⟩
  | stop hcancelled =>
    rw [List.append_nil]
    exact ⟨hintake.turn fun hopen => absurd rfl (hopen _), hline.close _, fun _ => hcancelled,
      hentered, hforwarded⟩

end Kept

/-! ## Histories -/

/-- What the history of a listener tells of its events. -/
structure Accounted (limit : Nat) (h : List Record) (o : Office) : Prop where
  /-- No connection is read twice. -/
  once : ((readings h).map (·.connection)).Nodup
  /-- A reader has an event just if it was in time and the first frame of its connection is whole,
  not longer than the limit, and carries the event. -/
  source : ∀ r ∈ readings h, ∃ transmission, (accepted h)[r.connection]? = some transmission ∧
    ∀ e, r.event = some e ↔ r.inTime = true ∧ transmission.Gives limit e
  /-- A connection gives one event at most. -/
  single : ((decoded h).map (·.1)).Nodup
  /-- What enters the queue, or waits for that, was read before, and is not counted twice. -/
  origin : (queued h ++ held o.listener.readers).Subperm (decoded h)
  /-- Events are delivered in the order in which they have entered the queue. -/
  order : delivered h <+: (queued h).map (·.2.change)
  room : o.listener.queue.length ≤ capacity
  entered : o.listener.entered = (queued h).map (·.2)
  forwarded : o.listener.forwarded.map (·.change) = delivered h
  /-- Until the listener is told to stop or cannot deliver an event, every event that was read has
  been delivered, is in hand, waits in the queue or is held by its reader. -/
  places : o.cancelled = false → (∀ error, o.listener.phase ≠ .ended (.error error)) →
    ∃ done hand waiting : List (Nat × OutputEvent), delivered h = done.map (·.2.change) ∧
      hand.map (·.2) = o.listener.phase.inHand ∧ waiting.map (·.2) = o.listener.queue ∧
      queued h = done ++ hand ++ waiting ∧
      (decoded h).Perm (done ++ hand ++ waiting ++ held o.listener.readers)

/-- The events of readings that are not of the same connection are not, either. -/
theorem nodup_decoded (hnodup : ((readings h).map (·.connection)).Nodup) :
    ((decoded h).map (·.1)).Nodup := by
  rw [List.Nodup, List.pairwise_map] at hnodup ⊢
  rw [decoded, List.pairwise_filterMap]
  refine hnodup.imp fun {r r'} hne x hx y hy => ?_
  obtain ⟨_, -, rfl⟩ := Option.map_eq_some_iff.1 hx
  obtain ⟨_, -, rfl⟩ := Option.map_eq_some_iff.1 hy
  exact hne

namespace Kept

variable {o : Office}

/-- A listener that has neither been told to stop nor failed has not ended. -/
theorem isOpen (hk : Kept limit h o) (hrunning : o.cancelled = false)
    (hwell : ∀ error, o.listener.phase ≠ .ended (.error error)) : o.listener.phase.IsOpen := by
  intro outcome hphase
  cases outcome with
  | error error => exact hwell error hphase
  | ok => exact Bool.false_ne_true (hrunning.symm.trans (hk.ended hphase))

theorem source (hk : Kept limit h o) {r : Reading} (hr : r ∈ readings h) :
    ∃ transmission, (accepted h)[r.connection]? = some transmission ∧
      ∀ e, r.event = some e ↔ r.inTime = true ∧ transmission.Gives limit e := by
  obtain ⟨transmission, ht, hevent⟩ := hk.intake.finished r hr
  refine ⟨transmission, ht, fun e => ?_⟩
  rw [hevent, ← Transmission.event?_eq_some_iff]
  by_cases hinTime : r.inTime = true
  · rw [if_pos hinTime, and_iff_right hinTime]
  · rw [if_neg hinTime]
    exact ⟨by simp, fun hboth => absurd hboth.1 hinTime⟩

theorem places (hk : Kept limit h o) (hopen : o.listener.phase.IsOpen) :
    ∃ done hand waiting : List (Nat × OutputEvent), delivered h = done.map (·.2.change) ∧
      hand.map (·.2) = o.listener.phase.inHand ∧ waiting.map (·.2) = o.listener.queue ∧
      queued h = done ++ hand ++ waiting ∧
      (decoded h).Perm (done ++ hand ++ waiting ++ held o.listener.readers) := by
  obtain ⟨discarded, hperm, hnone⟩ := hk.intake.balance
  obtain ⟨sent, inHand, hsent, hline, -, hhand⟩ := hk.line.order
  cases hnone hopen
  cases hhand hopen
  obtain ⟨taken, waiting, hqueued, htaken, hwaiting⟩ := List.map_eq_append_iff.1 hline
  obtain ⟨done, hand, rfl, rfl, hhand⟩ := List.map_eq_append_iff.1 htaken
  rw [List.append_nil, hqueued] at hperm
  exact ⟨done, hand, waiting, hsent.trans List.map_map, hhand, hwaiting, hqueued, hperm⟩

end Kept

namespace Unfolds

variable {t : Terms} {o : Office}

theorem kept (hu : Unfolds t limit h o) : Kept limit h o := by
  induction hu with
  | fresh d => exact .fresh d
  | move m hu hnext ih => exact ih.move (effect_of_next ih.line.parcel hnext)
  | others d hu hbefore hafter ih => exact ⟨ih.intake, ih.line, ih.ended, ih.entered, ih.forwarded⟩
  | cancel hu ih => exact ⟨ih.intake, ih.line, fun _ => rfl, ih.entered, ih.forwarded⟩

/-- However the moves of the listener, of its readers and of others at the desk mix, no event is
lost, doubled or overtaken. -/
theorem accounted (hu : Unfolds t limit h o) : Accounted limit h o := by
  have hk := hu.kept
  obtain ⟨discarded, hperm, -⟩ := hk.intake.balance
  obtain ⟨sent, inHand, hsent, hline, -⟩ := hk.line.order
  refine ⟨hk.intake.once, fun r hr => hk.source hr, nodup_decoded hk.intake.once, ?_, ?_,
    hk.line.room, hk.entered, hk.forwarded,
    fun hrunning hwell => hk.places (hk.isOpen hrunning hwell)⟩
  · exact (List.sublist_append_left _ discarded).subperm.trans hperm.symm.subperm
  · have hchanges : (queued h).map (·.2.change) = ((queued h).map (·.2)).map (·.change) := by
      rw [List.map_map]
      rfl
    rw [hchanges, hline, List.append_assoc, List.map_append, ← hsent]
    exact List.prefix_append ..

/-- Every message is attempted twice. -/
def patient : Terms := ⟨.atLeastOnce 2 (.ofMillis 1) (.ofMillis 2), "fm", "sm"⟩

/-- A silent producer, one that sends no event, and two that send one each; the first event is
delivered by a second attempt. -/
def crowd : List Move :=
  [.accept ⟨[], false⟩, .accept (.ofFrame (OutputEvent.encode ⟨7, .null⟩)),
    .accept (.ofFrame [0x68, 0x69]), .read 2 true, .read 1 true, .enqueue 1, .dequeue, .approach,
    .attempt (.error (.timeout "fm" (.ofMillis 1))), .read 0 false, .attempt (.ok ()),
    .accept (.ofFrame (OutputEvent.encode ⟨8, .null⟩)), .read 3 true]

/-- The first event is delivered once, and the second one is held by its reader. -/
theorem accounted_crowd : ∃ h o, Unfolds patient 64 h o ∧
    decoded h = [(1, ⟨7, .null⟩), (3, ⟨8, .null⟩)] ∧
    delivered h = [OutputEvent.change ⟨7, .null⟩] ∧
    held o.listener.readers = [(3, ⟨8, .null⟩)] ∧ Accounted 64 h o := by
  have hreplay : (Office.replay patient 64 { desk := ready } crowd).map
      (fun o => held o.listener.readers) = some [(3, ⟨8, .null⟩)] := by
    decide +kernel
  have hdecoded : decoded (Office.chronicle patient 64 { desk := ready } crowd) =
      [(1, ⟨7, .null⟩), (3, ⟨8, .null⟩)] := by
    decide +kernel
  have hdelivered : delivered (Office.chronicle patient 64 { desk := ready } crowd) =
      [OutputEvent.change ⟨7, .null⟩] := by
    decide +kernel
  obtain ⟨o, ho, hheld⟩ := Option.map_eq_some_iff.1 hreplay
  have hfresh : Unfolds patient 64 [] { desk := ready } := .fresh ready (by decide)
  have hu := hfresh.of_replay ho
  exact ⟨_, o, hu, hdecoded, hdelivered, hheld, accounted hu⟩

end Unfolds

end ControlPlane.Listener
