import ControlPlane.Worker.Process
import Mathlib.Data.List.Induction

/-!
# The life of a worker with a process

Whatever such a worker sees, and in whatever order, it sends its ready signal at most once, and only
while nothing was in the way: it was not told to stop, and its process had not exited. It returns
only when it is told to stop, and then it has asked the system to kill its process; so whoever
supervises it takes it for done only then. It returns even if the system refuses, so that the
process may outlive a worker that is done.

Looks that see neither a request to stop nor the end of the process are calm. A life is a row of
calm looks, up to the first that is not; that one ends it.

## Main definitions

- `ProcessWorker.Calm`, `ProcessWorker.Finds`: what a look may see.
- `ProcessWorker.Concludes`: how a look that is not calm ends the work.
- `ProcessWorker.Comes`: what a row of looks comes to.
- `ProcessWorker.Lifecycle`: the life of a worker.

## Main statements

- `ProcessWorker.poll_calm`, `ProcessWorker.poll_stirred`: what one look does.
- `ProcessWorker.comes_live`: what a whole life comes to.
- `ProcessWorker.lifecycle`: every worker has such a life.
- `ProcessWorker.outlived_by_process`: a worker that is done, and its process lives on.
-/

namespace ControlPlane.ProcessWorker

variable (w : ProcessWorker) (launched : Except SystemError Unit)

/-- Nothing has to be launched, or it could be. -/
def Begins : Prop := w.settings.command = none ∨ launched = .ok ()

/-- A process was launched. -/
def HasProcess : Prop := w.settings.command.isSome ∧ launched = .ok ()

instance : Decidable (w.HasProcess launched) := inferInstanceAs (Decidable (_ ∧ _))

/-- What a look sees of the end of the process, if there is a process. -/
def exitAt (g : Glance) : Option (Except SystemError String) :=
  if w.HasProcess launched then g.sight.exit else none

/-- A look that sees neither a request to stop nor the end of the process. -/
def Calm (g : Glance) : Prop := g.sight.cancelled = false ∧ w.exitAt launched g = none

instance (g : Glance) : Decidable (w.Calm launched g) := inferInstanceAs (Decidable (_ ∧ _))

/-- A look that finds what the worker waits for: its endpoint has accepted a connection, or there is
none, or nobody looks at it. -/
def Finds (g : Glance) : Prop :=
  w.settings.endpoint = none ∨ w.probing = none ∨ g.sight.connected = true

instance (g : Glance) : Decidable (w.Finds g) := inferInstanceAs (Decidable (_ ∨ _ ∨ _))

/-- How a look that is not calm ends the work, and what becomes of the process. A worker that is not
ready yet looks for a request to stop first. -/
inductive Concludes (ready : Bool) (g : Glance) : Ending → Option Child → Prop
  | stopped (told : g.sight.cancelled = true)
      (order : (w.exitAt launched g).isSome → ready = true → g.exitFirst = false) :
      Concludes ready g .returned
        (if w.HasProcess launched then some (.ofKill g.sight.kill) else none)
  | exited {exit : Except SystemError String} (seen : w.exitAt launched g = some exit)
      (order : g.sight.cancelled = true → ready = true ∧ g.exitFirst = true) :
      Concludes ready g (.failed (.exited w.kind (exitText exit))) (some (.ofExit exit))

/-! ## One look -/

/-- How far a worker has got that has begun and not ended. -/
def standing (ready : Bool) : Course :=
  ⟨if ready then .ready else .starting, if w.HasProcess launched then some .running else none⟩

variable {w launched} {ready : Bool} {g : Glance} {gs before : List Glance}

theorem watched_isNone_iff :
    w.watched.isNone = true ↔ w.settings.endpoint = none ∨ w.probing = none := by
  rw [watched]
  cases w.settings.endpoint <;> cases w.probing <;> simp

theorem finds_iff : (w.watched.isNone || g.sight.connected) = true ↔ w.Finds g := by
  rw [Bool.or_eq_true, watched_isNone_iff, or_assoc, Finds]

theorem exitAt_eq_some {exit : Except SystemError String} :
    w.exitAt launched g = some exit ↔ w.HasProcess launched ∧ g.sight.exit = some exit := by
  rw [exitAt]
  by_cases h : w.HasProcess launched
  · rw [if_pos h, and_iff_right h]
  · rw [if_neg h]
    exact ⟨nofun, fun hexit => absurd hexit.1 h⟩

theorem exit?_standing : g.sight.exit? (w.standing launched ready) = w.exitAt launched g := by
  rw [Sight.exit?, standing, exitAt]
  by_cases h : w.HasProcess launched
  · simp only [if_pos h, if_true]
  · simp only [if_neg h, reduceCtorEq, if_false]

theorem exited_standing {exit : Except SystemError String} :
    w.exited (w.standing launched ready) exit =
      (⟨.ended, some (.ofExit exit)⟩, [.finish (.failed (.exited w.kind (exitText exit)))]) := rfl

theorem stop_standing : stop g.sight (w.standing launched ready) =
    (⟨.ended, if w.HasProcess launched then some (.ofKill g.sight.kill) else none⟩,
      [.finish .returned]) := by
  rw [stop, standing]
  by_cases h : w.HasProcess launched
  · simp only [if_pos h]
    rfl
  · simp only [if_neg h]
    rfl

/-- Before it is ready, a worker looks for a request to stop, then at its process. -/
theorem poll_starting : w.poll g.exitFirst g.sight (w.standing launched false) =
    if g.sight.cancelled then stop g.sight (w.standing launched false)
    else
      match w.exitAt launched g with
      | some exit => w.exited (w.standing launched false) exit
      | none =>
        if w.Finds g then (w.standing launched true, [.signal]) else (w.standing launched false, [])
    := by
  have hphase : (w.standing launched false).phase = .starting := rfl
  simp only [poll, hphase, exit?_standing, finds_iff]
  rfl

/-- Once it is ready, it looks at both in any order. -/
theorem poll_ready : w.poll g.exitFirst g.sight (w.standing launched true) =
    match w.exitAt launched g with
    | some exit =>
      if g.sight.cancelled && !g.exitFirst then stop g.sight (w.standing launched true)
      else w.exited (w.standing launched true) exit
    | none =>
      if g.sight.cancelled then stop g.sight (w.standing launched true)
      else (w.standing launched true, []) := by
  have hexit : w.exitAt launched g = g.sight.exit? (w.standing launched true) :=
    exit?_standing.symm
  rw [hexit]
  rfl

/-- A calm look changes nothing, unless it finds what the worker waits for. -/
theorem poll_calm (ready : Bool) (h : w.Calm launched g) :
    w.poll g.exitFirst g.sight (w.standing launched ready) =
      (w.standing launched (ready || decide (w.Finds g)),
        if !ready && decide (w.Finds g) then [.signal] else []) := by
  obtain ⟨hcancelled, hexit⟩ := h
  cases ready with
  | true => simp only [poll_ready, hexit, hcancelled, Bool.false_eq_true, if_false, Bool.true_or,
      Bool.not_true, Bool.false_and]
  | false =>
    rw [poll_starting, hcancelled, hexit]
    by_cases hfinds : w.Finds g
    · simp only [hfinds, Bool.false_eq_true, if_false, if_true, decide_true, Bool.or_true,
        Bool.not_false, Bool.and_true]
    · simp only [hfinds, Bool.false_eq_true, if_false, decide_false, Bool.or_false, Bool.and_false]

/-- Any other look ends the work. -/
theorem poll_stirred (ready : Bool) (h : ¬w.Calm launched g) :
    ∃ ending child, w.Concludes launched ready g ending child ∧
      w.poll g.exitFirst g.sight (w.standing launched ready) =
        (⟨.ended, child⟩, [.finish ending]) := by
  cases hexit : w.exitAt launched g with
  | none =>
    have htold : g.sight.cancelled = true := by
      rw [← Bool.not_eq_false]
      exact fun hcancelled => h ⟨hcancelled, hexit⟩
    refine ⟨_, _, .stopped htold fun hsome => ?_, ?_⟩
    · rw [hexit] at hsome
      cases hsome
    · cases ready with
      | true => simp only [poll_ready, hexit, htold, if_true, stop_standing]
      | false => simp only [poll_starting, htold, if_true, stop_standing]
  | some exit =>
    -- Both may be there at once; then the phase and the order of this look decide.
    by_cases hfirst : g.sight.cancelled = true ∧ ¬(ready = true ∧ g.exitFirst = true)
    · obtain ⟨htold, hfirst⟩ := hfirst
      refine ⟨_, _, .stopped htold fun _ hready => ?_, ?_⟩
      · rw [← Bool.not_eq_true]
        exact fun hexitFirst => hfirst ⟨hready, hexitFirst⟩
      · cases ready with
        | true =>
          simp only [true_and, Bool.not_eq_true] at hfirst
          rw [poll_ready]
          simp only [hexit, htold, hfirst, Bool.not_false, Bool.and_true, if_true, stop_standing]
        | false => simp only [poll_starting, htold, if_true, stop_standing]
    · have hlast : g.sight.cancelled = true → ready = true ∧ g.exitFirst = true := by
        intro htold
        exact Decidable.not_not.1 fun hnot => hfirst ⟨htold, hnot⟩
      refine ⟨_, _, .exited hexit hlast, ?_⟩
      cases hcancelled : g.sight.cancelled with
      | true =>
        obtain ⟨rfl, hexitFirst⟩ := hlast hcancelled
        rw [poll_ready]
        simp only [hexit, hcancelled, hexitFirst, Bool.not_true, Bool.and_false,
          Bool.false_eq_true, if_false, exited_standing]
      | false =>
        cases ready with
        | true => simp only [poll_ready, hexit, hcancelled, Bool.false_and, Bool.false_eq_true,
            if_false, exited_standing]
        | false => simp only [poll_starting, hexit, hcancelled, Bool.false_eq_true, if_false,
            exited_standing]

/-! ## A whole life -/

variable (w launched) in
/-- What has come of a worker that has begun and not ended. -/
def awaiting (ready : Bool) : Life where
  course := w.standing launched ready
  events := if ready then [.signal] else []
  task := { kind := w.kind, signal := if ready then .sent else .held }

variable (w) in
/-- What has come of a worker whose work has ended. -/
def concluded (ready : Bool) (child : Option Child) (ending : Ending) (cancelled : Bool) :
    Life where
  course := ⟨.ended, child⟩
  events := (if ready then [.signal] else []) ++ [.finish ending]
  task :=
    { kind := w.kind
      signal := if ready then .sent else .dropped
      outcome := some (ending.outcome w.kind cancelled) }

variable (w launched) in
/-- What a life comes to. It is a row of calm looks, or its launch has failed, or the first look
that is not calm has ended it. -/
inductive Comes : List Glance → Life → Prop
  | unlaunched {gs : List Glance} {command : String} {e : SystemError}
      (wanted : w.settings.command = some command) (failed : launched = .error e) :
      Comes gs (w.concluded false none (.failed (.spawn w.kind command e)) false)
  | lasting {gs : List Glance} (begins : w.Begins launched) (calm : ∀ g ∈ gs, w.Calm launched g) :
      Comes gs (w.awaiting launched (decide (∃ g ∈ gs, w.Finds g)))
  | ended {before after : List Glance} {g : Glance} {ending : Ending} {child : Option Child}
      (begins : w.Begins launched) (calm : ∀ h ∈ before, w.Calm launched h)
      (stirred : ¬w.Calm launched g)
      (how : w.Concludes launched (decide (∃ h ∈ before, w.Finds h)) g ending child) :
      Comes (before ++ g :: after)
        (w.concluded (decide (∃ h ∈ before, w.Finds h)) child ending g.sight.cancelled)

theorem born_of_begins (h : w.Begins launched) : w.born launched = w.awaiting launched false := by
  cases hcommand : w.settings.command with
  | none =>
    have hprocess : ¬w.HasProcess launched := fun hprocess => by
      rw [HasProcess, hcommand] at hprocess
      exact absurd hprocess.1 Bool.false_ne_true
    simp only [born, launch, hcommand, Life.next, awaiting, standing, if_neg hprocess]
    rfl
  | some command =>
    obtain rfl : launched = .ok () := by
      simpa only [Begins, hcommand, reduceCtorEq, false_or] using h
    have hprocess : w.HasProcess (.ok ()) := ⟨by rw [hcommand]; rfl, rfl⟩
    simp only [born, launch, hcommand, Life.next, awaiting, standing, if_pos hprocess]
    rfl

theorem look_calm (h : w.Calm launched g) : w.look (w.awaiting launched ready) g =
    w.awaiting launched (ready || decide (w.Finds g)) := by
  rw [look, awaiting, poll_calm ready h, awaiting]
  cases ready <;> cases decide (w.Finds g) <;> rfl

theorem look_stirred (h : ¬w.Calm launched g) :
    ∃ ending child, w.Concludes launched ready g ending child ∧
      w.look (w.awaiting launched ready) g =
        w.concluded ready child ending g.sight.cancelled := by
  obtain ⟨ending, child, how, hpoll⟩ := poll_stirred ready h
  refine ⟨ending, child, how, ?_⟩
  rw [look, awaiting, hpoll, concluded]
  cases ready <;> rfl

theorem look_concluded {child : Option Child} {ending : Ending} {cancelled : Bool} :
    w.look (w.concluded ready child ending cancelled) g =
      w.concluded ready child ending cancelled := by
  simp only [look, concluded, poll, Life.next, List.append_nil, List.foldl_nil]

theorem live_concat (gs : List Glance) (g : Glance) :
    w.live launched (gs ++ [g]) = w.look (w.live launched gs) g := by
  rw [live, List.foldl_append, List.foldl_cons, List.foldl_nil, live]

/-- Whether a row of looks and one more have found what the worker waits for. -/
theorem decide_finds_concat (gs : List Glance) (g : Glance) :
    (decide (∃ h ∈ gs, w.Finds h) || decide (w.Finds g)) = decide (∃ h ∈ gs ++ [g], w.Finds h) := by
  rw [← Bool.decide_or, decide_eq_decide]
  simp only [List.mem_append, List.mem_singleton, or_and_right, exists_or, exists_eq_left]

/-- A look at a time: one that is calm makes the row longer, the first that is not ends it, and
nothing comes of those after it. -/
theorem comes_live (gs : List Glance) : w.Comes launched gs (w.live launched gs) := by
  induction gs using List.reverseRecOn with
  | nil =>
    by_cases h : w.Begins launched
    · have hcalm : ∀ g ∈ ([] : List Glance), w.Calm launched g :=
        fun g hg => absurd hg List.not_mem_nil
      have hnil := Comes.lasting h hcalm
      simpa only [live, List.foldl_nil, born_of_begins h, List.not_mem_nil, false_and, exists_false,
        decide_false] using hnil
    · rw [Begins, not_or] at h
      obtain ⟨hcommand, hlaunched⟩ := h
      obtain ⟨command, hcommand⟩ := Option.ne_none_iff_exists'.1 hcommand
      cases launched with
      | ok u => exact absurd rfl hlaunched
      | error e =>
        have hborn : w.born (.error e) =
            w.concluded false none (.failed (.spawn w.kind command e)) false := by
          simp only [born, launch, hcommand, Life.next]
          rfl
        rw [live, List.foldl_nil, hborn]
        exact .unlaunched hcommand rfl
  | append_singleton gs g ih =>
    rw [live_concat]
    generalize w.live launched gs = life at ih ⊢
    cases ih with
    | unlaunched wanted failed =>
      rw [look_concluded]
      exact .unlaunched wanted failed
    | lasting begins calm =>
      by_cases h : w.Calm launched g
      · have hcalm : ∀ h ∈ gs ++ [g], w.Calm launched h := by
          simpa only [List.forall_mem_append, List.forall_mem_singleton] using ⟨calm, h⟩
        rw [look_calm h, decide_finds_concat]
        exact .lasting begins hcalm
      · obtain ⟨ending, child, how, hlook⟩ := look_stirred h
        rw [hlook]
        exact .ended begins calm h how
    | ended begins calm stirred how =>
      rw [look_concluded, List.append_assoc, List.cons_append]
      exact .ended begins calm stirred how

/-! ## What can be read off -/

@[simp] theorem signal_mem_awaiting :
    .signal ∈ (w.awaiting launched ready).events ↔ ready = true := by
  cases ready <;> simp [awaiting]

theorem sent_awaiting : (w.awaiting launched ready).task.signal = .sent ↔ ready = true := by
  cases ready <;> simp [awaiting]

theorem count_signal_awaiting_le : (w.awaiting launched ready).events.count .signal ≤ 1 := by
  cases ready <;> simp [awaiting]

@[simp] theorem finish_notMem_awaiting {ending : Ending} :
    .finish ending ∉ (w.awaiting launched ready).events := by
  cases ready <;> simp [awaiting]

section Concluded

variable {child : Option Child} {ending : Ending} {cancelled : Bool}

@[simp] theorem signal_mem_concluded :
    .signal ∈ (w.concluded ready child ending cancelled).events ↔ ready = true := by
  cases ready <;> simp [concluded]

theorem sent_concluded :
    (w.concluded ready child ending cancelled).task.signal = .sent ↔ ready = true := by
  cases ready <;> simp [concluded]

theorem count_signal_concluded_le :
    (w.concluded ready child ending cancelled).events.count .signal ≤ 1 := by
  cases ready <;> simp [concluded]

@[simp] theorem finish_mem_concluded {other : Ending} :
    .finish other ∈ (w.concluded ready child ending cancelled).events ↔ other = ending := by
  cases ready <;> simp [concluded]

end Concluded

theorem not_begins {command : String} {e : SystemError} (wanted : w.settings.command = some command)
    (failed : launched = .error e) : ¬w.Begins launched := by
  rintro (hcommand | hlaunched)
  · exact Option.some_ne_none _ (wanted.symm.trans hcommand)
  · cases failed.symm.trans hlaunched

namespace Comes

variable {life : Life} (h : w.Comes launched gs life)
include h

theorem signal_once : life.events.count .signal ≤ 1 := by
  cases h with
  | unlaunched => exact count_signal_concluded_le
  | lasting => exact count_signal_awaiting_le
  | ended => exact count_signal_concluded_le

theorem ends_iff : (∃ ending, .finish ending ∈ life.events) ↔
    ¬w.Begins launched ∨ ∃ g ∈ gs, ¬w.Calm launched g := by
  cases h with
  | unlaunched wanted failed =>
    exact iff_of_true ⟨_, finish_mem_concluded.2 rfl⟩ (.inl (not_begins wanted failed))
  | lasting begins calm =>
    refine iff_of_false (fun ⟨_, hending⟩ => finish_notMem_awaiting hending) ?_
    rintro (hbegins | ⟨g, hg, hcalm⟩)
    · exact hbegins begins
    · exact hcalm (calm g hg)
  | ended begins calm stirred how =>
    exact iff_of_true ⟨_, finish_mem_concluded.2 rfl⟩
      (.inr ⟨_, List.mem_append_cons_self, stirred⟩)

/-- Work ends with a launch that fails, or at the first look that is not calm. -/
theorem finish_cases {ending : Ending} (hending : .finish ending ∈ life.events) :
    (∃ command e, w.settings.command = some command ∧ launched = .error e ∧
      ending = .failed (.spawn w.kind command e) ∧ life = w.concluded false none ending false) ∨
    ∃ before g after child, gs = before ++ g :: after ∧ (∀ h ∈ before, w.Calm launched h) ∧
      w.Concludes launched (decide (∃ h ∈ before, w.Finds h)) g ending child ∧
      life = w.concluded (decide (∃ h ∈ before, w.Finds h)) child ending g.sight.cancelled := by
  cases h with
  | unlaunched wanted failed =>
    obtain rfl := finish_mem_concluded.1 hending
    exact .inl ⟨_, _, wanted, failed, rfl, rfl⟩
  | lasting => exact absurd hending finish_notMem_awaiting
  | ended begins calm stirred how =>
    obtain rfl := finish_mem_concluded.1 hending
    exact .inr ⟨_, _, _, _, rfl, calm, how, rfl⟩

theorem endings {ending : Ending} (hending : .finish ending ∈ life.events) :
    ending = .returned ∨ (∃ status, ending = .failed (.exited w.kind status)) ∨
      ∃ command e, ending = .failed (.spawn w.kind command e) := by
  obtain ⟨command, e, -, -, hspawn, -⟩ | ⟨before, g, after, child, -, -, how, -⟩ :=
    h.finish_cases hending
  · exact .inr (.inr ⟨command, e, hspawn⟩)
  · cases how with
    | stopped => exact .inl rfl
    | exited => exact .inr (.inl ⟨_, rfl⟩)

theorem returned (hreturned : .finish .returned ∈ life.events) :
    ∃ before g after, gs = before ++ g :: after ∧ (∀ h ∈ before, w.Calm launched h) ∧
      g.sight.cancelled = true ∧
      (w.HasProcess launched → life.course.child = some (.ofKill g.sight.kill)) := by
  obtain ⟨_, _, -, -, hspawn, -⟩ | ⟨before, g, after, child, hgs, calm, how, hlife⟩ :=
    h.finish_cases hreturned
  · cases hspawn
  · cases how with
    | stopped told order =>
      refine ⟨before, g, after, hgs, calm, told, fun hprocess => ?_⟩
      rw [hlife, concluded]
      exact if_pos hprocess

theorem exited {kind : WorkerKind} {status : String}
    (hexited : .finish (.failed (.exited kind status)) ∈ life.events) :
    kind = w.kind ∧ w.HasProcess launched ∧
      ∃ before g after exit, gs = before ++ g :: after ∧ (∀ h ∈ before, w.Calm launched h) ∧
        g.sight.exit = some exit ∧ status = exitText exit ∧
        (g.sight.cancelled = true → (∃ h ∈ before, w.Finds h) ∧ g.exitFirst = true) := by
  obtain ⟨_, _, -, -, hspawn, -⟩ | ⟨before, g, after, child, hgs, calm, how, -⟩ :=
    h.finish_cases hexited
  · cases hspawn
  · cases how with
    | exited seen order =>
      obtain ⟨hprocess, hexit⟩ := exitAt_eq_some.1 seen
      rw [decide_eq_true_eq] at order
      exact ⟨rfl, hprocess, before, g, after, _, hgs, calm, hexit, rfl, order⟩

theorem spawn {kind : WorkerKind} {command : String} {e : SystemError}
    (hspawn : .finish (.failed (.spawn kind command e)) ∈ life.events) :
    kind = w.kind ∧ w.settings.command = some command ∧ launched = .error e ∧
      .signal ∉ life.events := by
  obtain ⟨_, _, wanted, failed, heq, hlife⟩ | ⟨_, _, _, _, -, -, how, -⟩ := h.finish_cases hspawn
  · cases heq
    rw [hlife, signal_mem_concluded]
    exact ⟨rfl, wanted, failed, Bool.false_ne_true⟩
  · cases how

theorem sent_iff : life.task.signal = .sent ↔ .signal ∈ life.events := by
  cases h with
  | unlaunched => exact sent_concluded.trans signal_mem_concluded.symm
  | lasting => exact sent_awaiting.trans signal_mem_awaiting.symm
  | ended => exact sent_concluded.trans signal_mem_concluded.symm

/-- A supervisor takes a worker for done only if the worker has returned, and it has returned only
if it was told to stop. -/
theorem done_iff : life.task.outcome = some (.ok ()) ↔ .finish .returned ∈ life.events := by
  cases h with
  | unlaunched =>
    exact iff_of_false nofun (fun hreturned => nomatch finish_mem_concluded.1 hreturned)
  | lasting => exact iff_of_false nofun finish_notMem_awaiting
  | ended begins calm stirred how =>
    cases how with
    | stopped told =>
      rw [told]
      exact iff_of_true rfl (finish_mem_concluded.2 rfl)
    | exited =>
      exact iff_of_false nofun (fun hreturned => nomatch finish_mem_concluded.1 hreturned)

theorem outcome (hdone : life.task.outcome = some (.ok ())) :
    ∃ g ∈ gs, g.sight.cancelled = true := by
  obtain ⟨before, g, after, hgs, -, told, -⟩ := h.returned (h.done_iff.1 hdone)
  exact ⟨g, hgs ▸ List.mem_append_cons_self, told⟩

end Comes

variable (w launched) in
/-- What a look shows after those before it. -/
def shown (before : List Glance) (g : Glance) : List Task.Event :=
  (w.poll g.exitFirst g.sight (w.live launched before).course).2

theorem events_live_concat (before : List Glance) (g : Glance) :
    (w.live launched (before ++ [g])).events =
      (w.live launched before).events ++ w.shown launched before g := by
  rw [live_concat, look, Life.next, shown]

theorem signal_mem_shown (before : List Glance) (g : Glance) :
    .signal ∈ w.shown launched before g ↔
      w.Begins launched ∧ (∀ h ∈ before ++ [g], w.Calm launched h) ∧
        w.Finds g ∧ ∀ h ∈ before, ¬w.Finds h := by
  have hcomes : w.Comes launched before (w.live launched before) := comes_live before
  rw [shown]
  generalize w.live launched before = life at hcomes ⊢
  cases hcomes with
  | unlaunched wanted failed =>
    exact iff_of_false List.not_mem_nil fun hsignal => not_begins wanted failed hsignal.1
  | lasting begins calm =>
    rw [awaiting, List.forall_mem_append, List.forall_mem_singleton, and_iff_right begins,
      and_iff_right calm]
    by_cases h : w.Calm launched g
    · rw [poll_calm _ h, and_iff_right h]
      simp only [List.mem_ite_nil_right, List.mem_singleton, Bool.and_eq_true, Bool.not_eq_true',
        decide_eq_true_eq, decide_eq_false_iff_not, not_exists, not_and, and_true]
      exact and_comm
    · obtain ⟨ending, child, -, hpoll⟩ := poll_stirred (decide (∃ h ∈ before, w.Finds h)) h
      simp only [hpoll, h, false_and, List.mem_singleton, reduceCtorEq]
  | ended begins calm stirred how =>
    refine iff_of_false List.not_mem_nil fun ⟨_, hcalm, _⟩ => stirred (hcalm _ ?_)
    exact List.mem_append_left _ List.mem_append_cons_self

variable (w launched) in
/-- The life of a worker, whatever it sees. -/
structure Lifecycle : Prop where
  events_concat : ∀ before g, (w.live launched (before ++ [g])).events =
    (w.live launched before).events ++ w.shown launched before g
  signal_once : ∀ gs, (w.live launched gs).events.count .signal ≤ 1
  /-- A look shows the ready signal if it is the first that finds what the worker waits for, and no
  look so far has seen a request to stop or the end of the process. -/
  signal_iff : ∀ before g, .signal ∈ w.shown launched before g ↔
    w.Begins launched ∧ (∀ h ∈ before ++ [g], w.Calm launched h) ∧
      w.Finds g ∧ ∀ h ∈ before, ¬w.Finds h
  /-- The work ends when the launch fails, or at the first look that is not calm. -/
  ends_iff : ∀ gs, (∃ ending, .finish ending ∈ (w.live launched gs).events) ↔
    ¬w.Begins launched ∨ ∃ g ∈ gs, ¬w.Calm launched g
  endings : ∀ gs ending, .finish ending ∈ (w.live launched gs).events →
    ending = .returned ∨ (∃ status, ending = .failed (.exited w.kind status)) ∨
      ∃ command e, ending = .failed (.spawn w.kind command e)
  /-- It returns where it sees a request to stop, and what becomes of its process is what the system
  answers when it is asked to kill it. -/
  returned : ∀ gs, .finish .returned ∈ (w.live launched gs).events →
    ∃ before g after, gs = before ++ g :: after ∧ (∀ h ∈ before, w.Calm launched h) ∧
      g.sight.cancelled = true ∧
      (w.HasProcess launched → (w.live launched gs).course.child = some (.ofKill g.sight.kill))
  /-- It reports the end of its process where it sees it. A request to stop seen by the same look
  comes first, unless the worker was ready and happened to look at its process first. -/
  exited : ∀ gs kind status, .finish (.failed (.exited kind status)) ∈ (w.live launched gs).events →
    kind = w.kind ∧ w.HasProcess launched ∧
      ∃ before g after exit, gs = before ++ g :: after ∧ (∀ h ∈ before, w.Calm launched h) ∧
        g.sight.exit = some exit ∧ status = exitText exit ∧
        (g.sight.cancelled = true → (∃ h ∈ before, w.Finds h) ∧ g.exitFirst = true)
  spawn : ∀ gs kind command e,
    .finish (.failed (.spawn kind command e)) ∈ (w.live launched gs).events →
      kind = w.kind ∧ w.settings.command = some command ∧ launched = .error e ∧
        .signal ∉ (w.live launched gs).events
  /-- Whoever supervises the worker sees the signal that it sent, and takes it for done only if its
  work returned. -/
  supervised : ∀ gs,
    ((w.live launched gs).task.signal = .sent ↔ .signal ∈ (w.live launched gs).events) ∧
      ((w.live launched gs).task.outcome = some (.ok ()) ↔
        .finish .returned ∈ (w.live launched gs).events)
  outcome : ∀ gs, (w.live launched gs).task.outcome = some (.ok ()) →
    ∃ g ∈ gs, g.sight.cancelled = true

theorem lifecycle (w : ProcessWorker) (launched : Except SystemError Unit) :
    w.Lifecycle launched where
  events_concat := events_live_concat
  signal_once gs := (comes_live gs).signal_once
  signal_iff := signal_mem_shown
  ends_iff gs := (comes_live gs).ends_iff
  endings gs _ := (comes_live gs).endings
  returned gs := (comes_live gs).returned
  exited gs _ _ := (comes_live gs).exited
  spawn gs _ _ _ := (comes_live gs).spawn
  supervised gs := ⟨(comes_live gs).sent_iff, (comes_live gs).done_iff⟩
  outcome gs := (comes_live gs).outcome

/-- The process runs with the rights of somebody else, and the system refuses to kill it. The worker
returns all the same and counts as done. -/
theorem outlived_by_process :
    let w : ProcessWorker := { kind := .emitter, settings := { command := some "sudo" } }
    let nothing : Glance := ⟨false, { cancelled := false, exit := none, connected := false }⟩
    let refused : Glance := ⟨false, { nothing.sight with
      cancelled := true, kill := .error (.os 1) }⟩
    let life := w.live (.ok ()) [nothing, refused]
    life.events = [.signal, .finish .returned] ∧ life.task.outcome = some (.ok ()) ∧
      w.HasProcess (.ok ()) ∧ life.course.child = some .spared := by
  decide

-- One look sees a request to stop and the exit of the process. The request comes first until the
-- worker is ready.
example :
    let w : ProcessWorker := { kind := .emitter, settings := { command := some "emit" } }
    let nothing : Glance := ⟨true, { cancelled := false, exit := none, connected := false }⟩
    let both : Glance := ⟨true, { cancelled := true, exit := some (.ok "0"), connected := false }⟩
    (w.live (.ok ()) [both]).course.child = some .killed ∧
      (w.live (.ok ()) [both]).events = [.finish .returned] ∧
      (w.live (.ok ()) [nothing, both]).events =
        [.signal, .finish (.failed (.exited .emitter "0"))] := by
  decide

end ControlPlane.ProcessWorker
