import ControlPlane.Proofs.Orchestration.Chronicle
import ControlPlane.Proofs.Orchestration.Locks

/-!
# Taking turns at the desk

Where a party stands says something about the floor and about the history. It stays true while
others act, since only whoever is at the desk can change what it is about.

## Main definitions

- `Floor.Fits`: what a party's standing says.
- `Floor.Kept`: what holds between steps.
- `Floor.Busy`: what holds while a party acts at the desk.

## Main statements

- `Floor.Fits.frame`, `Floor.Fits.append`: what a standing says stays true.
- `Floor.Kept.step`: what one step preserves.
-/

namespace ControlPlane

open History

namespace Floor

/-- What the standing `s` of a party says about the floor and the history. -/
structure Fits (F : Floor) (h : List Deed) (p : Party) (s : Standing) : Prop where
  due : ∀ parcel, s = .sending parcel →
    Due F.pipeline h p parcel ∧ F.desk.distributor.permit parcel.message = .ok ()
  /-- Whoever has not compiled yet has no part in the history. -/
  fresh : p ≠ .listener → s.isNew = true → ∀ d ∈ h, d.party ≠ p
  /-- Whoever's first message has not been received has given up, or is still at the desk. -/
  unopened : p ≠ .listener →
    s = .gone ∨ s.isAtDesk = true ∨ ∀ d ∈ h, d.party = p → hasOpened h p = true
  /-- Nobody sends the initial configuration before the runner compiles. -/
  early : p = .runner → s.isEarly = true → F.desk.distributor.initial = .pending
  /-- If the listener is refused, the initial configuration will never be delivered. -/
  late : p = .listener → s = .refused →
    (F.standing .runner).isOver = true ∧ F.desk.distributor.initial ≠ .sent

/-- What holds between steps. -/
structure Kept (F : Floor) (h : List Deed) : Prop where
  books : Books h F.pipeline F.desk
  locks : F.Locks
  fits : ∀ p, F.Fits h p (F.standing p)

/-- What holds while a party is at the desk, apart from that party's own standing. -/
structure Busy (F : Floor) (p : Party) (h : List Deed) : Prop where
  books : Books h F.pipeline F.desk
  seated : F.Seated p
  fits : ∀ q, q ≠ p → F.Fits h q (F.standing q)
  late : p = .runner → F.standing .listener ≠ .refused

variable {F : Floor} {h : List Deed} {p q : Party} {s : Standing}

namespace Fits

/-- Whoever has not compiled yet fits in if it has no part in the history. -/
theorem new (hp : p ≠ .listener) (hs : s.isNew = true) (hfresh : ∀ d ∈ h, d.party ≠ p)
    (hearly : p = .runner → F.desk.distributor.initial = .pending) : F.Fits h p s where
  due parcel hsending := by
    rw [hsending] at hs
    cases hs
  fresh _ _ := hfresh
  unopened _ := .inr (.inr fun d hd hdp => absurd hdp (hfresh d hd))
  early hrunner _ := hearly hrunner
  late hlistener := absurd hlistener hp

theorem sending {parcel : Parcel} (hdue : Due F.pipeline h p parcel)
    (hpermit : F.desk.distributor.permit parcel.message = .ok ()) :
    F.Fits h p (.sending parcel) where
  due := by
    rintro parcel ⟨rfl⟩
    exact ⟨hdue, hpermit⟩
  fresh := by simp
  unopened _ := .inr (.inl rfl)
  early := by simp
  late := by simp

theorem served (hopened : hasOpened h p = true) : F.Fits h p .served where
  due := by simp
  fresh := by simp
  unopened _ := .inr (.inr fun _ _ _ => hopened)
  early := by simp
  late := by simp

theorem gone : F.Fits h p .gone where
  due := by simp
  fresh := by simp
  unopened _ := .inl rfl
  early := by simp
  late := by simp

/-- The listener may come at any time. -/
theorem outside : F.Fits h .listener .outside where
  due := by simp
  fresh hne := absurd rfl hne
  unopened hne := absurd rfl hne
  early := by simp
  late := by simp

/-- The listener is refused only if the initial configuration will never be delivered. -/
theorem refused (hover : (F.standing .runner).isOver = true)
    (hsent : F.desk.distributor.initial ≠ .sent) : F.Fits h .listener .refused where
  due := by simp
  fresh hne := absurd rfl hne
  unopened hne := absurd rfl hne
  early := by simp
  late _ _ := ⟨hover, hsent⟩

/-- A delivery that was given up leaves its sender gone, unless it is the listener. -/
theorem resting_error {reason : DistributorError} (hreason : reason ≠ .notInitialized) :
    F.Fits h p (resting p (.error reason)) := by
  rw [resting, if_neg hreason]
  split
  · next hp =>
    subst hp
    exact .outside
  · exact .gone

/-- What a standing says stays true when somebody gets on without any deed. -/
theorem frame (hf : F.Fits h q s) {G : Floor} (hpipeline : G.pipeline = F.pipeline)
    (hdistributor : G.desk.distributor = F.desk.distributor)
    (hover : q = .listener → s = .refused → (F.standing .runner).isOver = true →
      (G.standing .runner).isOver = true) : G.Fits h q s where
  due := by
    rw [hpipeline, hdistributor]
    exact hf.due
  fresh := hf.fresh
  unopened := hf.unopened
  early := by
    rw [hdistributor]
    exact hf.early
  late hlistener hrefused := by
    rw [hdistributor]
    obtain ⟨hrunner, hsent⟩ := hf.late hlistener hrefused
    exact ⟨hover hlistener hrefused hrunner, hsent⟩

/-- What a standing says stays true when somebody else acts at the desk. -/
theorem append (hf : F.Fits h q s) (haway : s.isAtDesk = false) {ds : List Deed}
    (hds : ∀ d ∈ ds, d.party ≠ q) {pipeline : Pipeline} {desk : Desk}
    (hinitial : q = .runner ∨ q = .listener ∧ s = .refused →
      desk.distributor.initial = F.desk.distributor.initial) :
    ({ F with pipeline, desk } : Floor).Fits (h ++ ds) q s where
  due parcel hsending := by
    rw [hsending] at haway
    cases haway
  fresh hlistener hnew d hd := by
    rcases List.mem_append.1 hd with hd | hd
    · exact hf.fresh hlistener hnew d hd
    · exact hds d hd
  unopened hlistener := by
    refine (hf.unopened hlistener).imp_right (.imp_right fun hopened d hd hdq => ?_)
    rcases List.mem_append.1 hd with hd | hd
    · rw [hasOpened_append, hopened d hd hdq, Bool.true_or]
    · exact absurd hdq (hds d hd)
  early hrunner hearly := (hinitial (.inl hrunner)).trans (hf.early hrunner hearly)
  late hlistener hrefused := by
    rw [hinitial (.inr ⟨hlistener, hrefused⟩)]
    exact hf.late hlistener hrefused

end Fits

/-- A party gets on to where it fits in, with the locks as they are then. -/
theorem kept_of_fits {holder seat : Option Party} (books : Books h F.pipeline F.desk)
    (others : ∀ q, q ≠ p → F.Fits h q (F.standing q)) (own : F.Fits h p s)
    (hover : p = .runner → F.standing .listener = .refused → s.isOver = true)
    (locks : ({ F with holder, desk := { F.desk with holder := seat } }.move p s).Locks) :
    ({ F with holder, desk := { F.desk with holder := seat } }.move p s).Kept h where
  books := { books with }
  locks := locks
  fits q := by
    by_cases hqp : q = p
    · subst hqp
      rw [standing_move_self]
      refine own.frame rfl rfl fun hlistener _ hrunner => ?_
      subst hlistener
      rwa [standing_move_of_ne (by simp)]
    · rw [standing_move_of_ne hqp]
      refine (others q hqp).frame rfl rfl fun hlistener hrefused hrunner => ?_
      subst hlistener
      by_cases hp : .runner = p
      · -- The listener looks at the runner, which has just moved.
        subst hp
        rw [standing_move_self]
        exact hover rfl hrefused
      · rwa [standing_move_of_ne hp]

/-- While the runner has the pipeline, the listener is not refused. -/
theorem Kept.ne_refused (hk : F.Kept h) (hrunner : (F.standing .runner).hasPipeline = true) :
    F.standing .listener ≠ .refused := by
  intro hrefused
  have hover := ((hk.fits .listener).late rfl hrefused).1
  rw [Standing.isOver_of_hasPipeline hrunner] at hover
  cases hover

/-- Whoever's standing says that it is at the desk is busy there. -/
theorem Kept.busy (hk : F.Kept h) (hp : (F.standing p).isAtDesk = true) : F.Busy p h where
  books := hk.books
  seated := hk.locks.seated hp
  fits q _ := hk.fits q
  late := by
    rintro rfl
    exact hk.ne_refused (Standing.hasPipeline_of_isAtDesk hp)

/-- Whoever comes to the free desk is busy there. -/
theorem Kept.busy_seat (hk : F.Kept h) (free : F.desk.holder = none)
    (hp : p ≠ .listener → (F.standing p).hasPipeline = true) : (F.seat p).Busy p h where
  books := { hk.books with }
  seated := hk.locks.seat free hp
  fits q _ := (hk.fits q).frame rfl rfl fun _ _ hover => hover
  late := by
    rintro rfl
    exact hk.ne_refused (hp (by simp))

namespace Busy

/-- A party at the desk acts. -/
theorem act (hb : F.Busy p h) (ds : List Deed) (hds : ∀ d ∈ ds, d.party = p) {pipeline : Pipeline}
    {desk : Desk} (books : Books (h ++ ds) pipeline desk) (hholder : desk.holder = F.desk.holder)
    (hinitial : p ≠ .runner → desk.distributor.initial = F.desk.distributor.initial) :
    ({ F with pipeline, desk } : Floor).Busy p (h ++ ds) where
  books := books
  seated := ⟨hholder.trans hb.seated.desk, hb.seated.away, hb.seated.pipeline, hb.seated.own⟩
  fits q hq := by
    have hother : ∀ d ∈ ds, d.party ≠ q := fun d hd => by
      rw [hds d hd]
      exact hq.symm
    -- Only the runner decides about the initial configuration, and then nobody else minds.
    refine (hb.fits q hq).append (hb.seated.away q hq) hother fun hmatters => hinitial ?_
    rintro rfl
    rcases hmatters with hrunner | ⟨hlistener, hrefused⟩
    · exact hq hrunner
    · subst hlistener
      exact hb.late rfl hrefused
  late := hb.late

/-- A party at the desk stays there. -/
theorem stay (hb : F.Busy p h) (hs : s.isAtDesk = true) (own : F.Fits h p s) :
    (F.move p s).Kept h :=
  kept_of_fits hb.books hb.fits own (fun hp hrefused => absurd hrefused (hb.late hp))
    (hb.seated.stay hs)

/-- A party at the desk leaves it. -/
theorem leave (hb : F.Busy p h) (hs : s.hasPipeline = false) (own : F.Fits h p s) :
    ((F.vacate p).move p s).Kept h :=
  kept_of_fits hb.books hb.fits own (fun hp hrefused => absurd hrefused (hb.late hp))
    (hb.seated.leave hs)

/-- A party at the desk has its queries compiled. -/
theorem compile {c : Collaborators} {plan : Plan} (hb : F.Busy p h) (tags : c.Tags)
    (hp : p ≠ .listener) (fresh : ∀ d ∈ h, d.party ≠ p) (queries : List LogicalQuery)
    {messages : Pass → Pipeline → List Outgoing}
    (hmessages : ∀ pass q, messages pass q = [p.opening pass.data, .streamConfig q.stream])
    (hpermit : ∀ data, F.desk.distributor.permit (p.opening data) = .ok ()) :
    (F.compile c plan p queries messages).Kept
      (h ++ [.ofPass c plan F.pipeline p queries]) := by
  rcases hrun : F.pipeline.run c plan.candidates queries with ⟨outcome, q⟩
  have hbooks : Books (h ++ [.ofPass c plan F.pipeline p queries])
      (F.pipeline.run c plan.candidates queries).2 F.desk :=
    hb.books.compile tags hp fresh queries
  rw [hrun] at hbooks
  have hbusy := hb.act [_] (by simp [Deed.ofPass, Deed.party]) hbooks rfl fun _ => rfl
  unfold Floor.compile
  rw [hrun]
  cases outcome with
  | error e => exact hbusy.leave rfl .gone
  | ok pass =>
    have hbegin : F.desk.begin [p.opening pass.data, .streamConfig q.stream] =
        .underway ⟨p.opening pass.data, [.streamConfig q.stream], 0⟩ := by
      simp [Desk.begin, hpermit]
    simp only [hmessages, hbegin, settle]
    refine hbusy.stay rfl (.sending ?_ (hpermit pass.data))
    rw [Deed.ofPass_of_ok hrun]
    exact .opening hp fresh _ pass.data 0

end Busy

namespace Kept

/-- The outcome of an attempt decides how the history goes on. -/
theorem attempt (hk : F.Kept h) {plan : Plan} {parcel : Parcel}
    (hs : F.standing p = .sending parcel) (outcome : Except ChannelError Unit) :
    (({ F with desk := (F.desk.attempt plan.terms parcel outcome).1 } : Floor).settle p
      (F.desk.attempt plan.terms parcel outcome).2).Kept
        (h ++ Deed.ofAttempt p parcel outcome) := by
  obtain ⟨hdue, hpermit⟩ := (hk.fits p).due parcel hs
  have hb := hk.busy (p := p) (by rw [hs]; rfl)
  rcases F.desk.attempt_cases plan.terms parcel outcome with
    ⟨rfl, hattempt⟩ | ⟨e, rfl, hattempt⟩ | ⟨e, reason, rfl, hreason, hattempt⟩
  · -- The message is delivered: what follows depends on which one it was.
    rw [hattempt]
    have hbusy := hb.act [.delivered p parcel.message] (by simp [Deed.party])
      (hb.books.deliver hdue hpermit) (by simp)
      fun hp => by simpa using hdue.initial_conclude hp F.desk.distributor true
    cases hdue with
    | event => exact hbusy.leave rfl .outside
    | opening hp fresh ids data =>
      exact hbusy.stay rfl (.sending (.config hp fresh ids data 0) rfl)
    | config hp =>
      have hresting : resting p (.ok ()) = .served := if_neg hp
      simp only [settle, Desk.begin, hresting]
      exact hbusy.leave rfl (.served (by simp [hasOpened, Deed.opens]))
  · -- It will be attempted again.
    rw [hattempt]
    have hbusy : F.Busy p (h ++ []) := by rwa [List.append_nil]
    refine hbusy.stay rfl (.sending ?_ hpermit)
    rw [List.append_nil]
    exact hdue.again _
  · -- It is given up, and its sender leaves.
    rw [hattempt]
    have hbooks : Books (h ++ []) F.pipeline (F.desk.conclude false parcel.message) := by
      rw [List.append_nil]
      exact hb.books.giveUp hpermit
    have hbusy := hb.act [] (by simp) hbooks rfl
      fun hp => hdue.initial_conclude hp F.desk.distributor false
    refine hbusy.leave ?_ (.resting_error hreason)
    rw [resting, if_neg hreason]
    split <;> rfl

/-- At first nobody has come. -/
theorem standing_fresh (p : Party) : ({} : Orchestration).floor.standing p = .outside := by
  cases p <;> rfl

theorem fresh_floor : ({} : Orchestration).floor.Kept [] where
  books := .fresh
  locks :=
    { pipeline := fun p => by
        rw [standing_fresh]
        simp [Orchestration.floor]
      desk := fun p => by
        rw [standing_fresh]
        simp [Orchestration.floor] }
  fits p := by
    rw [standing_fresh]
    by_cases hp : p = .listener
    · subst hp
      exact .outside
    · exact .new hp rfl (by simp) fun _ => rfl

/-- The runner or a caller takes the free pipeline. -/
theorem take (hk : F.Kept h) (hp : p ≠ .listener) (free : F.holder = none)
    (hs : F.standing p = .outside) : ({ F with holder := some p }.move p .holding).Kept h := by
  have hfits := hk.fits p
  rw [hs] at hfits
  have hover : p = .runner → F.standing .listener = .refused → Standing.holding.isOver = true := by
    rintro rfl hrefused
    have hrunner := ((hk.fits .listener).late rfl hrefused).1
    rw [hs] at hrunner
    cases hrunner
  exact kept_of_fits (F := F) hk.books (fun q _ => hk.fits q)
    (.new hp rfl (hfits.fresh hp rfl) fun hrunner => hfits.early hrunner rfl) hover
    (hk.locks.take hp free hs)

/-- The run fails after the initial configuration has been sent. -/
theorem close (hk : F.Kept h) (hs : F.standing .runner = .served) :
    (F.move .runner .gone).Kept h := by
  exact kept_of_fits hk.books (fun q _ => hk.fits q) .gone (fun _ _ => rfl) (hk.locks.close hs)

/-- The listener comes to the free desk with an event. -/
theorem approach (hk : F.Kept h) (event : OutputEvent) (free : F.desk.holder = none)
    (houtside : F.standing .runner ≠ .outside) (hholding : F.standing .runner ≠ .holding) :
    ((F.seat .listener).settle .listener
      (F.desk.begin [.delta (.output event)])).Kept h := by
  have hbusy : (F.seat .listener).Busy .listener h :=
    hk.busy_seat free fun hne => absurd rfl hne
  by_cases hsent : F.desk.distributor.initial = .sent
  · have hpermit : F.desk.distributor.permit (.delta (.output event)) = .ok () :=
      Distributor.permit_delta_iff.2 hsent
    simp only [settle, Desk.begin, hpermit]
    exact hbusy.stay rfl (.sending (.event event 0) hpermit)
  · -- The runner has been at the desk before, so it is over with it.
    have hover : (F.standing .runner).isOver = true := by
      have haway : (F.standing .runner).isAtDesk = false := by
        by_contra hat
        have hheld := (hk.locks.desk .runner).2 (Bool.of_not_eq_false hat)
        rw [free] at hheld
        cases hheld
      cases hr : F.standing .runner <;> simp_all [Standing.isAtDesk, Standing.isOver]
    have hrefuse : F.desk.distributor.permit (.delta (.output event)) = .error .notInitialized :=
      if_neg hsent
    have hresting : resting .listener (.error .notInitialized) = .refused := rfl
    simp only [settle, Desk.begin, hrefuse, hresting]
    exact hbusy.leave rfl (.refused hover hsent)

/-- What one step of the floor preserves. -/
theorem step {c : Collaborators} {plan : Plan} {G : Floor} {ds : List Deed} (hk : F.Kept h)
    (tags : c.Tags) (hstep : Floor.Step c plan F ds G) : G.Kept (h ++ ds) := by
  cases hstep with
  | quiet =>
    rw [List.append_nil]
    exact hk
  | take hp free hs =>
    rw [List.append_nil]
    exact hk.take hp free hs
  | enter free hs =>
    rw [List.append_nil]
    have hhas : (F.standing .runner).hasPipeline = true := by rw [hs]; rfl
    have hfresh := (hk.fits .runner).fresh (by simp) (by rw [hs]; rfl)
    have hpending := (hk.fits .runner).early rfl (by rw [hs]; rfl)
    exact (hk.busy_seat free fun _ => hhas).stay rfl
      (.new (by simp) rfl hfresh fun _ => hpending)
  | abandon hs =>
    rw [List.append_nil]
    exact (hk.busy (by rw [hs]; rfl)).leave rfl .gone
  | initial queries hs =>
    have hfresh := (hk.fits .runner).fresh (by simp) (by rw [hs]; rfl)
    have hpending := (hk.fits .runner).early rfl (by rw [hs]; rfl)
    exact (hk.busy (p := .runner) (by rw [hs]; rfl)).compile tags (by simp) hfresh queries
      (fun _ _ => rfl) fun _ => Distributor.permit_init_iff.2 hpending
  | @refuse i free hs hinit =>
    rw [List.append_nil]
    have hhas : (F.standing (.caller i)).hasPipeline = true := by rw [hs]; rfl
    have hfresh := (hk.fits (.caller i)).fresh (by simp) (by rw [hs]; rfl)
    exact (hk.busy_seat free fun _ => hhas).leave rfl (.new (by simp) rfl hfresh (by simp))
  | @refinement i queries free hs hinit =>
    have hhas : (F.standing (.caller i)).hasPipeline = true := by rw [hs]; rfl
    have hfresh := (hk.fits (.caller i)).fresh (by simp) (by rw [hs]; rfl)
    have hsent : F.desk.distributor.initial = .sent := by
      simpa [Distributor.isInitialized] using hinit
    exact (hk.busy_seat free fun _ => hhas).compile tags (by simp) hfresh queries
      (fun _ _ => rfl) fun _ => Distributor.permit_delta_iff.2 hsent
  | approach event free hs houtside hholding =>
    rw [List.append_nil]
    exact hk.approach event free houtside hholding
  | attempt outcome hs => exact hk.attempt hs outcome
  | stop hs =>
    rw [List.append_nil]
    exact (hk.busy (by rw [hs]; rfl)).leave rfl .outside
  | close hs =>
    rw [List.append_nil]
    exact hk.close hs

end Kept

end Floor

end ControlPlane
