import ControlPlane.Config.File
import ControlPlane.Proofs.Config.Changes
import ControlPlane.Proofs.Path

/-!
# What loaded settings are

Whatever a configuration file holds, the settings that are loaded from it are well formed: texts
have no blanks around them and are not empty, numbers that count something are not zero, and the
bounds on the backoff are in order.

## Main definitions

- `WorkerSettings.WellFormed`, `Settings.WellFormed`: settings as a file may give them.
- `Settings.Rule.Keeps`: a rule after which something holds that held before.

## Main statements

- `Settings.wellFormed_of_ofDocument`: loaded settings are well formed.
-/

namespace ControlPlane

/-- Settings of a worker as a file may give them. -/
structure WorkerSettings.WellFormed (w : WorkerSettings) : Prop where
  endpoint : ∀ v ∈ w.endpoint, Settings.Stands v
  command : ∀ v ∈ w.command, Settings.Stands v
  args : ∀ arg ∈ w.args, Text.IsWord arg.toList
  credentials : ∀ v ∈ w.credentials, Settings.Stands v
  bufferSize : ∀ n ∈ w.bufferSize, n ≠ 0

namespace Settings

/-- Settings as a file may give them, but for the order of the bounds on the backoff. -/
structure Shaped (s : Settings) : Prop where
  outputAddress : Stands s.outputAddress
  fabricManager : s.fabricManager.WellFormed
  fabricEndpoint : s.fabricManager.endpoint.isSome
  streamingManager : s.streamingManager.WellFormed
  streamingEndpoint : s.streamingManager.endpoint.isSome
  emitter : s.emitter.WellFormed
  connectTimeoutMs : s.connectTimeoutMs ≠ 0
  maxAttempts : s.maxAttempts ≠ 0
  partitionCandidates : s.partitionCandidates ≠ 0
  readinessTimeoutSecs : s.readinessTimeoutSecs ≠ 0
  probeIntervalMs : s.probeIntervalMs ≠ 0
  readTimeoutMs : s.readTimeoutMs ≠ 0
  maxFrameLength : s.maxFrameLength ≠ 0
  logFile : Stands s.logFile

/-- The bounds on the backoff are in order. -/
def Ordered (s : Settings) : Prop := s.initialBackoffMs ≤ s.maxBackoffMs

/-- Settings as a file may give them. -/
structure WellFormed (s : Settings) : Prop extends s.Shaped where
  ordered : s.Ordered

variable {P : Settings → Prop} {document : Ini.Document} {s t : Settings}

/-! ## Rules -/

/-- A rule after which something holds that held before. -/
def Rule.Keeps (P : Settings → Prop) : Rule → Prop
  | .key _ _ change => Change.Keeps P change
  | .backoffOrder => True

theorem Rule.keeps_key {sectionName name : String} {change : Change} :
    (Rule.key sectionName name change).Keeps P ↔ change.Keeps P :=
  Iff.rfl

theorem mapError_eq_ok {ε δ α : Type} {x : Except ε α} {f : ε → δ} {a : α} :
    x.mapError f = .ok a ↔ x = .ok a := by
  cases x <;> simp [Except.mapError]

/-- A key does nothing unless the document has it. -/
theorem Rule.apply_key {sectionName name : String} {change : Change}
    (ht : (Rule.key sectionName name change).apply document s = .ok t) :
    t = s ∨ (document.section? sectionName).isSome ∧ ∃ value, change value s = .ok t := by
  rw [Rule.apply] at ht
  cases hvalue : (document.section? sectionName).bind (·.get? name) with
  | none =>
    rw [hvalue] at ht
    cases ht
    exact .inl rfl
  | some value =>
    rw [hvalue] at ht
    obtain ⟨entries, hsection, -⟩ := Option.bind_eq_some_iff.mp hvalue
    exact .inr ⟨by rw [hsection]; rfl, value, mapError_eq_ok.mp ht⟩

theorem Rule.Keeps.apply {rule : Rule} (h : rule.Keeps P) (hs : P s)
    (ht : rule.apply document s = .ok t) : P t := by
  cases rule with
  | key sectionName name change =>
    rcases Rule.apply_key ht with rfl | ⟨-, value, hchange⟩
    · exact hs
    · exact h value s t hs hchange
  | backoffOrder =>
    rw [Rule.apply] at ht
    split at ht
    · cases ht
    · cases ht
      exact hs

/-- What each rule preserves, all of them preserve. -/
theorem applyRules_preserves {rules : List Rule}
    (h : ∀ rule ∈ rules, ∀ {s t}, P s → rule.apply document s = .ok t → P t) (hs : P s)
    (ht : applyRules document rules s = .ok t) : P t := by
  induction rules generalizing s with
  | nil =>
    cases ht
    exact hs
  | cons rule rest ih =>
    obtain ⟨hrule, hrest⟩ := List.forall_mem_cons.mp h
    rw [applyRules] at ht
    cases hu : rule.apply document s with
    | error e =>
      rw [hu] at ht
      cases ht
    | ok u =>
      rw [hu] at ht
      exact ih hrest (hrule hs hu) ht

/-- What all rules keep and the standard settings have, all settings of documents have. -/
theorem of_ofDocument {home : Option Path} (hrules : ∀ rule ∈ rules home, rule.Keeps P)
    (hstandard : P (standard home)) (h : ofDocument home document = .ok s) : P s :=
  applyRules_preserves (fun rule hrule _ _ hs ht => (hrules rule hrule).apply hs ht) hstandard h

theorem applyRules_append (front back : List Rule) (s : Settings) :
    applyRules document (front ++ back) s =
      match applyRules document front s with
      | .error e => .error e
      | .ok s => applyRules document back s := by
  induction front generalizing s with
  | nil => rfl
  | cons rule rest ih =>
    rw [List.cons_append, applyRules, applyRules]
    cases rule.apply document s with
    | error e => rfl
    | ok t => exact ih t

/-! ## What the rules keep -/

theorem uint64_ne_zero {n : Nat} (hpos : n ≠ 0) (h : n < 1 <<< 64) : UInt64.ofNat n ≠ 0 := by
  intro hzero
  have hnat : (UInt64.ofNat n).toNat = n := UInt64.toNat_ofNat_of_lt' h
  rw [hzero] at hnat
  exact hpos hnat.symm

theorem uint32_ne_zero {n : Nat} (hpos : n ≠ 0) (h : n < 1 <<< 32) : UInt32.ofNat n ≠ 0 := by
  intro hzero
  have hnat : (UInt32.ofNat n).toNat = n := UInt32.toNat_ofNat_of_lt' h
  rw [hzero] at hnat
  exact hpos hnat.symm

/-- The rules for a worker keep what every change of its settings keeps that leaves the endpoint as
it is and gives no other settings than a file may give. -/
theorem workerRules_keeps {sectionName : String} {on : OnWorker}
    (h : ∀ f s, (∀ w : WorkerSettings, (f w).endpoint = w.endpoint ∧
      (w.WellFormed → (f w).WellFormed)) → P s → P (on f s)) :
    ∀ rule ∈ workerRules sectionName on, rule.Keeps P := by
  simp only [workerRules, List.forall_mem_cons]
  refine ⟨?command, ?args, ?credentials, ?bufferSize, fun _ h => absurd h List.not_mem_nil⟩
  case command =>
    refine keeps_option fun v s hv hs => ?_
    exact h (fun w => { w with command := v }) s
      (fun w => ⟨rfl, fun hw => { hw with command := hv }⟩) hs
  case args =>
    intro value s t hs ht
    cases ht
    refine h _ s (fun w => ⟨rfl, fun hw => { hw with args := ?_ }⟩) hs
    intro arg harg
    obtain ⟨word, hword, rfl⟩ := List.mem_map.mp harg
    rw [String.toList_ofList]
    exact Text.isWord_of_mem_words hword
  case credentials =>
    refine keeps_option fun v s hv hs => ?_
    exact h (fun w => { w with credentials := v }) s
      (fun w => ⟨rfl, fun hw => { hw with credentials := hv }⟩) hs
  case bufferSize =>
    refine keeps_optionalPositive fun n s hn hs => ?_
    refine h (fun w => { w with bufferSize := n.map UInt64.ofNat }) s
      (fun w => ⟨rfl, fun hw => { hw with bufferSize := ?_ }⟩) hs
    intro m hm
    obtain ⟨k, hk, rfl⟩ := Option.map_eq_some_iff.mp hm
    exact uint64_ne_zero (hn k hk).1 (hn k hk).2

/-- Every rule keeps the settings in the shape that a file may give. -/
theorem rules_keep_shaped (home : Option Path) : ∀ rule ∈ rules home, rule.Keeps Shaped := by
  have hnil : ∀ rule ∈ ([] : List Rule), rule.Keeps Shaped := fun _ h => absurd h List.not_mem_nil
  simp only [rules, peerRules, programRules, List.forall_mem_append, List.forall_mem_cons]
  refine ⟨⟨⟨⟨⟨⟨⟨?runtime, ?fabric⟩, ?streamingAddress⟩, ?streaming⟩, ?emitterAddress⟩, ?emitter⟩,
    ?deliveries⟩, ?order, ?program⟩
  case runtime =>
    refine ⟨keeps_address fun v s hv hs => ?_, keeps_address fun v s hv hs => ?_, hnil⟩
    · exact { hs with
        fabricManager := { hs.fabricManager with endpoint := by rintro _ ⟨⟩; exact hv }
        fabricEndpoint := rfl }
    · exact { hs with outputAddress := hv }
  case fabric =>
    refine workerRules_keeps fun f s hf hs => ?_
    obtain ⟨hendpoint, hwell⟩ := hf s.fabricManager
    exact { hs with
      fabricManager := hwell hs.fabricManager
      fabricEndpoint := (congrArg Option.isSome hendpoint).trans hs.fabricEndpoint }
  case streamingAddress =>
    refine ⟨keeps_address fun v s hv hs => ?_, hnil⟩
    exact { hs with
      streamingManager := { hs.streamingManager with endpoint := by rintro _ ⟨⟩; exact hv }
      streamingEndpoint := rfl }
  case streaming =>
    refine workerRules_keeps fun f s hf hs => ?_
    obtain ⟨hendpoint, hwell⟩ := hf s.streamingManager
    exact { hs with
      streamingManager := hwell hs.streamingManager
      streamingEndpoint := (congrArg Option.isSome hendpoint).trans hs.streamingEndpoint }
  case emitterAddress =>
    refine ⟨keeps_option fun v s hv hs => ?_, hnil⟩
    exact { hs with emitter := { hs.emitter with endpoint := hv } }
  case emitter =>
    exact workerRules_keeps fun f s hf hs => { hs with emitter := (hf s.emitter).2 hs.emitter }
  case deliveries =>
    refine ⟨keeps_positive fun n s hpos hn hs => ?_, keeps_positive fun n s hpos hn hs => ?_,
      keeps_number fun n s hn hs => ?_, keeps_number fun n s hn hs => ?_, hnil⟩
    · exact { hs with connectTimeoutMs := uint64_ne_zero hpos hn }
    · exact { hs with maxAttempts := uint32_ne_zero hpos hn }
    · exact { hs with }
    · exact { hs with }
  case order => trivial
  case program =>
    refine ⟨keeps_positive fun n s hpos hn hs => ?_, keeps_positive fun n s hpos hn hs => ?_,
      keeps_positive fun n s hpos hn hs => ?_, keeps_positive fun n s hpos hn hs => ?_,
      keeps_positive fun n s hpos hn hs => ?_, keeps_unlessBlank fun v s hv hs => ?_,
      keeps_unlessBlank fun v s hv hs => ?_, hnil⟩
    · exact { hs with partitionCandidates := uint64_ne_zero hpos hn }
    · exact { hs with readinessTimeoutSecs := uint64_ne_zero hpos hn }
    · exact { hs with probeIntervalMs := uint64_ne_zero hpos hn }
    · exact { hs with readTimeoutMs := uint64_ne_zero hpos hn }
    · exact { hs with maxFrameLength := uint64_ne_zero hpos hn }
    · exact { hs with }
    · exact { hs with logFile := hv }

theorem wellFormed_worker {address : String} (h : Stands address) :
    WorkerSettings.WellFormed { endpoint := some address } where
  endpoint := by rintro _ ⟨⟩; exact h
  command := nofun
  args := nofun
  credentials := nofun
  bufferSize := nofun

theorem shaped_standard (home : Option Path) : (standard home).Shaped where
  outputAddress := (by decide +kernel : Stands "127.0.0.1:4949")
  fabricManager := wellFormed_worker (by decide +kernel)
  fabricEndpoint := rfl
  streamingManager := wellFormed_worker (by decide +kernel)
  streamingEndpoint := rfl
  emitter := ⟨nofun, nofun, nofun, nofun, nofun⟩
  connectTimeoutMs := (by decide : (2000 : UInt64) ≠ 0)
  maxAttempts := (by decide : RetryPolicy.standard.maxAttempts ≠ 0)
  partitionCandidates := (by decide : UInt64.ofNat defaultCandidates ≠ 0)
  readinessTimeoutSecs := (by decide : (30 : UInt64) ≠ 0)
  probeIntervalMs := (by decide : (100 : UInt64) ≠ 0)
  readTimeoutMs := (by decide : (5000 : UInt64) ≠ 0)
  maxFrameLength := (by decide : UInt64.ofNat Frame.defaultLimit ≠ 0)
  logFile := (by decide +kernel : Stands standardLogFile)

/-! ## The order of the bounds -/

/-- The rules that move the bounds on the backoff, and the one that moves the log directory. -/
inductive Rule.Moves (home : Option Path) : Rule → Prop
  | initial : Moves home (.key "distributor" "initial_backoff_ms"
      (number 64 fun n s => { s with initialBackoffMs := UInt64.ofNat n }))
  | longest : Moves home (.key "distributor" "max_backoff_ms"
      (number 64 fun n s => { s with maxBackoffMs := UInt64.ofNat n }))
  | directory : Moves home (.key "logging" "directory"
      (unlessBlank fun v s => { s with logDirectory := Path.expandHome home v }))

/-- What these rules move. -/
def bounds (s : Settings) : UInt64 × UInt64 × Path :=
  (s.initialBackoffMs, s.maxBackoffMs, s.logDirectory)

/-- All other rules keep what is said of that alone. -/
theorem rules_keep_or_move (home : Option Path) (P : UInt64 × UInt64 × Path → Prop) :
    ∀ rule ∈ rules home, rule.Moves home ∨ rule.Keeps fun s => P s.bounds := by
  have hworker : ∀ {sectionName : String} {on : OnWorker}, (∀ f s, (on f s).bounds = s.bounds) →
      ∀ rule ∈ workerRules sectionName on, rule.Moves home ∨ rule.Keeps fun s => P s.bounds := by
    intro sectionName on hon rule hrule
    exact .inr (workerRules_keeps (fun f s _ hs => (hon f s).symm ▸ hs) rule hrule)
  have hnil : ∀ rule ∈ ([] : List Rule), rule.Moves home ∨ rule.Keeps fun s => P s.bounds :=
    fun _ h => absurd h List.not_mem_nil
  simp only [rules, peerRules, programRules, List.forall_mem_append, List.forall_mem_cons]
  refine ⟨⟨⟨⟨⟨⟨⟨?runtime, ?fabric⟩, ?streamingAddress⟩, ?streaming⟩, ?emitterAddress⟩, ?emitter⟩,
    ?deliveries⟩, ?order, ?program⟩
  case runtime =>
    exact ⟨.inr (keeps_address fun _ _ _ hs => hs), .inr (keeps_address fun _ _ _ hs => hs), hnil⟩
  case fabric => exact hworker fun _ _ => rfl
  case streamingAddress => exact ⟨.inr (keeps_address fun _ _ _ hs => hs), hnil⟩
  case streaming => exact hworker fun _ _ => rfl
  case emitterAddress => exact ⟨.inr (keeps_option fun _ _ _ hs => hs), hnil⟩
  case emitter => exact hworker fun _ _ => rfl
  case deliveries =>
    exact ⟨.inr (keeps_positive fun _ _ _ _ hs => hs), .inr (keeps_positive fun _ _ _ _ hs => hs),
      .inl .initial, .inl .longest, hnil⟩
  case order => exact .inr trivial
  case program =>
    exact ⟨.inr (keeps_positive fun _ _ _ _ hs => hs), .inr (keeps_positive fun _ _ _ _ hs => hs),
      .inr (keeps_positive fun _ _ _ _ hs => hs), .inr (keeps_positive fun _ _ _ _ hs => hs),
      .inr (keeps_positive fun _ _ _ _ hs => hs), .inl .directory,
      .inr (keeps_unlessBlank fun _ _ _ hs => hs), hnil⟩

/-- The section that a key belongs to. -/
def Rule.sectionName? : Rule → Option String
  | .key sectionName _ _ => some sectionName
  | .backoffOrder => none

/-- Keys of other sections do not move the bounds on the backoff. -/
theorem keeps_ordered {home : Option Path} {rule : Rule} (hrule : rule ∈ rules home)
    (hother : rule.sectionName? ≠ some "distributor") : rule.Keeps Ordered := by
  rcases rules_keep_or_move home (fun b => b.1 ≤ b.2.1) rule hrule with hmoves | hkeeps
  · cases hmoves with
    | initial => exact absurd rfl hother
    | longest => exact absurd rfl hother
    | directory => exact Rule.keeps_key.mpr (keeps_unlessBlank fun _ _ _ hs => hs)
  · exact hkeeps

/-- Once the order of the bounds has been looked at, nothing moves them any more. -/
theorem ordered_of_backoffOrder {home : Option Path}
    (hsection : (document.section? "distributor").isSome)
    (h : applyRules document (.backoffOrder :: programRules home) s = .ok t) : t.Ordered := by
  rw [applyRules] at h
  cases hcheck : Rule.backoffOrder.apply document s with
  | error e =>
    rw [hcheck] at h
    cases h
  | ok u =>
    rw [hcheck] at h
    have hu : u.Ordered := by
      rw [Rule.apply, hsection, Bool.true_and] at hcheck
      split at hcheck
      · cases hcheck
      · next hlt =>
        cases hcheck
        exact UInt64.not_lt.mp (by simpa using hlt)
    have hprogram : (programRules home).all (·.sectionName? != some "distributor") = true := rfl
    refine applyRules_preserves (fun rule hrule s t hs ht => ?_) hu h
    have hother := bne_iff_ne.mp (List.all_eq_true.mp hprogram rule hrule)
    have hmem : rule ∈ rules home := List.mem_append_right _ (List.mem_cons_of_mem _ hrule)
    exact (keeps_ordered hmem hother).apply hs ht

theorem ordered_of_ofDocument {home : Option Path} (h : ofDocument home document = .ok s) :
    s.Ordered := by
  -- The order is looked at in a document with the section; without it nothing moves the bounds.
  by_cases hsection : (document.section? "distributor").isSome = true
  · rw [ofDocument, rules, applyRules_append] at h
    cases hpeers : applyRules document peerRules (standard home) with
    | error e =>
      rw [hpeers] at h
      cases h
    | ok u =>
      rw [hpeers] at h
      exact ordered_of_backoffOrder hsection h
  · have hstandard : (standard home).Ordered :=
      (by decide : UInt64.ofNat RetryPolicy.standard.initial.millis ≤
        UInt64.ofNat RetryPolicy.standard.longest.millis)
    refine applyRules_preserves (fun rule hrule s t hs ht => ?_) hstandard h
    by_cases hother : rule.sectionName? = some "distributor"
    · -- Without the section its keys do nothing.
      cases rule with
      | key sectionName name change =>
        obtain rfl : sectionName = "distributor" := Option.some.inj hother
        rcases Rule.apply_key ht with rfl | ⟨hsome, -⟩
        · exact hs
        · exact absurd hsome hsection
      | backoffOrder => cases hother
    · exact (keeps_ordered hrule hother).apply hs ht

/-! ## The log directory -/

/-- A directory that is read as it is written. -/
def Settled (home : Option Path) (directory : Path) : Prop :=
  directory.text ≠ "" ∧ Path.expandHome home directory.text = directory

theorem settled_of_isAbsolute {home : Option Path} {directory : Path} (htext : directory.IsText)
    (h : directory.isAbsolute = true) : Settled home directory := by
  refine ⟨fun hempty => ?_, Path.expandHome_text htext h⟩
  rw [Path.isText_iff, hempty] at htext
  rw [← htext] at h
  cases h

/-- A path that was expanded is not expanded again. -/
theorem settled_expandHome {home : Option Path} {text : String}
    (hhome : ∀ h ∈ home, h.isAbsolute = true ∧ h.IsText) (htext : Stands text) :
    Settled home (Path.expandHome home text) := by
  have htaken : Path.expandHome home text = .ofText text →
      Settled home (Path.expandHome home text) := by
    intro h
    rw [h, Settled, Path.text_ofText]
    exact ⟨(stands_iff.mp htext).1, h⟩
  unfold Path.expandHome at htaken ⊢
  split at htaken
  · next h rest _ =>
    obtain ⟨habsolute, hspelled⟩ := hhome h rfl
    exact settled_of_isAbsolute (hspelled.join (Path.isText_ofText _))
      (Path.isAbsolute_join habsolute)
  · exact htaken rfl

theorem settled_standard {home : Option Path}
    (hhome : ∀ h ∈ home, h.isAbsolute = true ∧ h.IsText) :
    Settled home (standard home).logDirectory := by
  cases home with
  | none => exact ⟨by decide +kernel, by decide +kernel⟩
  | some h =>
    obtain ⟨habsolute, hspelled⟩ := hhome h rfl
    have hdirectory : (standard (some h)).logDirectory =
        (h.join (.ofText ".sonata")).join (.ofText "logs") := rfl
    rw [hdirectory]
    exact settled_of_isAbsolute
      ((hspelled.join (Path.isText_ofText _)).join (Path.isText_ofText _))
      (Path.isAbsolute_join (Path.isAbsolute_join habsolute))

/-- Below an absolute home directory that is a text, and without any, the log directory is one that
is read as it is written. -/
theorem settled_of_ofDocument {home : Option Path}
    (hhome : ∀ h ∈ home, h.isAbsolute = true ∧ h.IsText)
    (h : ofDocument home document = .ok s) : Settled home s.logDirectory := by
  have hkeep : ∀ rule ∈ rules home, rule.Keeps fun s => Settled home s.logDirectory := by
    intro rule hrule
    rcases rules_keep_or_move home (fun b => Settled home b.2.2) rule hrule with hmoves | hkeeps
    · cases hmoves with
      | initial => exact Rule.keeps_key.mpr (keeps_number fun _ _ _ hs => hs)
      | longest => exact Rule.keeps_key.mpr (keeps_number fun _ _ _ hs => hs)
      | directory =>
        exact Rule.keeps_key.mpr (keeps_unlessBlank fun _ _ hv _ => settled_expandHome hhome hv)
    · exact hkeeps
  exact of_ofDocument hkeep (settled_standard hhome) h

/-! ## Loaded settings -/

theorem wellFormed_of_ofDocument {home : Option Path} (h : ofDocument home document = .ok s) :
    s.WellFormed :=
  { of_ofDocument (rules_keep_shaped home) (shaped_standard home) h with
    ordered := ordered_of_ofDocument h }

theorem ofDocument_nil (home : Option Path) : ofDocument home [] = .ok (standard home) := by
  have hrules : ∀ rules : List Rule, applyRules [] rules (standard home) = .ok (standard home) := by
    intro rules
    induction rules with
    | nil => rfl
    | cons rule rest ih =>
      have hrule : rule.apply [] (standard home) = .ok (standard home) := by
        cases rule <;> rfl
      rw [applyRules, hrule]
      exact ih
  exact hrules (rules home)

/-- Whatever is loaded is the settings of a document. -/
theorem exists_document_of_load {home : Option Path}
    {content : Option (Except SystemError (List UInt8))}
    (h : load home content = .ok s) : ∃ document, ofDocument home document = .ok s := by
  cases content with
  | none =>
    cases h
    exact ⟨[], ofDocument_nil home⟩
  | some read =>
    cases read with
    | error e => cases h
    | ok octets =>
      rw [load, ofOctets] at h
      split at h
      · cases h
      · split at h
        · cases h
        · exact ⟨_, h⟩

end Settings

end ControlPlane
