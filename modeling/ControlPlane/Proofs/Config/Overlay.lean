import Mathlib.Algebra.Group.Nat.Defs
import Mathlib.Data.List.Forall2
import ControlPlane.Proofs.Config.Loading

/-!
# The settings of a document

Every setting has a key of its own. A document sets it by the value under that key and by nothing
else, and what it does not set is as in the standard settings. Values are checked in a fixed order,
each by the check of its key; among them the bounds on the backoff are compared. The first value
that is refused is reported as it is written.

## Main definitions

- `Settings.Setting`: one of the settings.
- `Settings.Check`, `Settings.Check.Refuses`: which values a key refuses, and the reason.
- `Settings.Known`: a known key, with its check and its setting.
- `Settings.concerns`: what is checked, in order.
- `Settings.overlay`: what a document sets, over the standard settings.
- `Settings.Overlaid`: what comes of a document.

## Main statements

- `Settings.applyRules_of_obeys`: rules come to what is said of their keys.
- `Settings.value_overlay`: each setting is what its own key gives.
- `Settings.overlaid_of_document`: what comes of every document.
-/

namespace ControlPlane

/-- What a document has under a key of a section. -/
def Ini.Document.value? (d : Ini.Document) (sectionName key : String) : Option String :=
  (d.section? sectionName).bind (·.get? key)

namespace Settings

/-! ## Values -/

/-- A value with nothing but blanks in it. -/
def Blank (value : String) : Prop := ∀ c ∈ value.toList, Text.isBlank c = true

theorem present?_eq_none_iff {value : String} : present? value = none ↔ Blank value := by
  have htrimmed : (Text.trimmed value).isEmpty = true ↔ Blank value := by
    rw [String.isEmpty_iff, Text.trimmed, ← String.toList_inj, String.toList_ofList]
    exact Text.trim_eq_nil_iff
  rw [← htrimmed, present?]
  by_cases h : (Text.trimmed value).isEmpty = true <;> simp [h]

/-- The number below `2 ^ bits` that a value denotes. -/
def number? (bits : Nat) (value : String) : Option Nat :=
  Text.unsigned? (1 <<< bits) (Text.trim value.toList)

/-- The number below `2 ^ bits`, other than zero, that a value denotes. -/
def positive? (bits : Nat) (value : String) : Option Nat := (number? bits value).filter (· ≠ 0)

theorem number?_eq_some_iff {bits n : Nat} {value : String} :
    number? bits value = some n ↔ Text.Denotes (Text.trim value.toList) n ∧ n < 2 ^ bits := by
  rw [number?, Text.unsigned?_eq_some_iff, Nat.one_shiftLeft]

theorem positive?_eq_some_iff {bits n : Nat} {value : String} :
    positive? bits value = some n ↔
      Text.Denotes (Text.trim value.toList) n ∧ n < 2 ^ bits ∧ n ≠ 0 := by
  rw [positive?, Option.filter_eq_some_iff, number?_eq_some_iff, and_assoc, decide_eq_true_eq]

theorem number?_eq_none_iff {bits : Nat} {value : String} :
    number? bits value = none ↔
      ∀ n, Text.Denotes (Text.trim value.toList) n → 2 ^ bits ≤ n := by
  simp only [Option.eq_none_iff_forall_ne_some, ne_eq, number?_eq_some_iff, not_and, not_lt]

theorem positive?_eq_none_iff {bits : Nat} {value : String} :
    positive? bits value = none ↔
      ∀ n, Text.Denotes (Text.trim value.toList) n → n = 0 ∨ 2 ^ bits ≤ n := by
  simp only [Option.eq_none_iff_forall_ne_some, ne_eq, positive?_eq_some_iff, not_and, not_not]
  refine forall₂_congr fun n _ => ?_
  omega

/-! ## Keys -/

/-- One of the settings: how it is read off, and how it is replaced. -/
structure Setting (β : Type) where
  get : Settings → β
  put : β → Settings → Settings
  put_get : ∀ s, put (get s) s = s := by intro s; rfl

/-- What a key asks of its value. -/
inductive Check
  | anything
  | address
  | number (bits : Nat)
  | positive (bits : Nat)
  /-- A blank value is accepted as well. -/
  | optionalPositive (bits : Nat)

inductive Check.Refuses : Check → String → String → Prop
  | blank {value : String} : Blank value →
      Refuses .address value "must be a host:port address"
  | noNumber {bits : Nat} {value : String} :
      (∀ n, Text.Denotes (Text.trim value.toList) n → 2 ^ bits ≤ n) →
      Refuses (.number bits) value "must be a non-negative integer"
  | notPositive {bits : Nat} {value : String} :
      (∀ n, Text.Denotes (Text.trim value.toList) n → n = 0 ∨ 2 ^ bits ≤ n) →
      Refuses (.positive bits) value "must be a positive integer"
  | neitherBlank {bits : Nat} {value : String} : ¬Blank value →
      (∀ n, Text.Denotes (Text.trim value.toList) n → n = 0 ∨ 2 ^ bits ≤ n) →
      Refuses (.optionalPositive bits) value "must be a positive integer"

/-- A known key. -/
structure Known where
  sectionName : String
  key : String
  check : Check
  {β : Type}
  /-- What an accepted value sets; nothing if it leaves the setting as it is. -/
  read : String → Option β
  setting : Setting β

namespace Known

/-- What a document sets by a key, and otherwise what it would be. -/
def value (k : Known) (d : Ini.Document) (otherwise : k.β) : k.β :=
  ((d.value? k.sectionName k.key).bind k.read).getD otherwise

variable {β : Type} (sectionName key : String)

def address (use : String → β) (setting : Setting β) : Known :=
  { sectionName, key, check := .address, read := fun v => (present? v).map use, setting }

/-- A key for a text, for which a blank value sets that there is none. -/
def text (setting : Setting (Option String)) : Known :=
  { sectionName, key, check := .anything, read := fun v => some (present? v), setting }

def words (setting : Setting (List String)) : Known :=
  { sectionName, key, check := .anything
    read := fun v => some ((Text.words v.toList).map String.ofList), setting }

/-- A key for a text, for which a blank value sets nothing. -/
def unlessBlank (use : String → β) (setting : Setting β) : Known :=
  { sectionName, key, check := .anything, read := fun v => (present? v).map use, setting }

def number (bits : Nat) (use : Nat → β) (setting : Setting β) : Known :=
  { sectionName, key, check := .number bits, read := fun v => (number? bits v).map use, setting }

def positive (bits : Nat) (use : Nat → β) (setting : Setting β) : Known :=
  { sectionName, key, check := .positive bits, read := fun v => (positive? bits v).map use
    setting }

/-- A key for a number that is not zero, for which a blank value sets that there is none. -/
def optionalPositive (bits : Nat) (use : Nat → β) (setting : Setting (Option β)) : Known :=
  { sectionName, key, check := .optionalPositive bits
    read := fun v => match present? v with
      | none => some none
      | some _ => (positive? bits v).map fun n => some (use n)
    setting }

end Known

inductive Concern
  | key (k : Known)
  /-- The comparison of both bounds on the backoff. -/
  | bounds

/-- The keys that all workers have. -/
def workerConcerns (sectionName : String) (worker : Setting WorkerSettings) : List Concern :=
  [.key (.text sectionName "command"
     { get := fun s => (worker.get s).command
       put := fun v s => worker.put { worker.get s with command := v } s
       put_get := worker.put_get }),
   .key (.words sectionName "args"
     { get := fun s => (worker.get s).args
       put := fun v s => worker.put { worker.get s with args := v } s
       put_get := worker.put_get }),
   .key (.text sectionName "credentials"
     { get := fun s => (worker.get s).credentials
       put := fun v s => worker.put { worker.get s with credentials := v } s
       put_get := worker.put_get }),
   .key (.optionalPositive sectionName "buffer_size" 64 UInt64.ofNat
     { get := fun s => (worker.get s).bufferSize
       put := fun v s => worker.put { worker.get s with bufferSize := v } s
       put_get := worker.put_get })]

def fabric : Setting WorkerSettings where
  get := (·.fabricManager)
  put w s := { s with fabricManager := w }

def streaming : Setting WorkerSettings where
  get := (·.streamingManager)
  put w s := { s with streamingManager := w }

def emitting : Setting WorkerSettings where
  get := (·.emitter)
  put w s := { s with emitter := w }

def Setting.endpoint (worker : Setting WorkerSettings) : Setting (Option String) where
  get s := (worker.get s).endpoint
  put v s := worker.put { worker.get s with endpoint := v } s
  put_get := worker.put_get

/-- What is checked about the other parties and the deliveries to them, in its order. -/
def peerConcerns : List Concern :=
  [.key (.address "runtime" "fm_socket" some fabric.endpoint),
   .key (.address "runtime" "op_socket" id
     { get := (·.outputAddress), put := fun v s => { s with outputAddress := v } })] ++
  workerConcerns "fm_conf" fabric ++
  [.key (.address "sm_conf" "sm_socket" some streaming.endpoint)] ++
  workerConcerns "sm_conf" streaming ++
  [.key (.text "emitter_conf" "socket" emitting.endpoint)] ++
  workerConcerns "emitter_conf" emitting ++
  [.key (.positive "distributor" "connect_timeout_ms" 64 UInt64.ofNat
     { get := (·.connectTimeoutMs), put := fun n s => { s with connectTimeoutMs := n } }),
   .key (.positive "distributor" "max_attempts" 32 UInt32.ofNat
     { get := (·.maxAttempts), put := fun n s => { s with maxAttempts := n } }),
   .key (.number "distributor" "initial_backoff_ms" 64 UInt64.ofNat
     { get := (·.initialBackoffMs), put := fun n s => { s with initialBackoffMs := n } }),
   .key (.number "distributor" "max_backoff_ms" 64 UInt64.ofNat
     { get := (·.maxBackoffMs), put := fun n s => { s with maxBackoffMs := n } })]

/-- What is checked about the program itself, in its order. -/
def programConcerns (home : Option Path) : List Concern :=
  [.key (.positive "pipeline" "partition_candidates" 64 UInt64.ofNat
     { get := (·.partitionCandidates), put := fun n s => { s with partitionCandidates := n } }),
   .key (.positive "bootstrap" "readiness_timeout_secs" 64 UInt64.ofNat
     { get := (·.readinessTimeoutSecs), put := fun n s => { s with readinessTimeoutSecs := n } }),
   .key (.positive "bootstrap" "probe_interval_ms" 64 UInt64.ofNat
     { get := (·.probeIntervalMs), put := fun n s => { s with probeIntervalMs := n } }),
   .key (.positive "feedback" "read_timeout_ms" 64 UInt64.ofNat
     { get := (·.readTimeoutMs), put := fun n s => { s with readTimeoutMs := n } }),
   .key (.positive "feedback" "max_frame_length" 64 UInt64.ofNat
     { get := (·.maxFrameLength), put := fun n s => { s with maxFrameLength := n } }),
   .key (.unlessBlank "logging" "directory" (Path.expandHome home)
     { get := (·.logDirectory), put := fun v s => { s with logDirectory := v } }),
   .key (.unlessBlank "logging" "file" id
     { get := (·.logFile), put := fun v s => { s with logFile := v } })]

/-- Everything that is checked, in its order. -/
def concerns (home : Option Path) : List Concern :=
  peerConcerns ++ .bounds :: programConcerns home

/-- What becomes of settings when a document is looked at for what is checked. Values that are
refused are left out. -/
def Concern.settle (d : Ini.Document) : Concern → Settings → Settings
  | .key k, s => k.setting.put (k.value d (k.setting.get s)) s
  | .bounds, s => s

/-- What becomes of settings when a document is looked at for all that is checked. -/
def settled (d : Ini.Document) (xs : List Concern) (s : Settings) : Settings :=
  xs.foldl (fun s x => x.settle d s) s

/-- What a document sets, over the standard settings. -/
def overlay (home : Option Path) (d : Ini.Document) : Settings :=
  settled d (concerns home) (standard home)

/-- An error for which there is cause in a document that comes to the settings `r`. -/
inductive Concern.Raises (d : Ini.Document) (r : Settings) : Concern → ConfigError → Prop
  | refused {k : Known} {value reason : String} :
      d.value? k.sectionName k.key = some value → k.check.Refuses value reason →
      Raises d r (.key k) (.invalidValue k.sectionName k.key value reason)
  | bounds : (d.section? "distributor").isSome = true → r.maxBackoffMs < r.initialBackoffMs →
      Raises d r .bounds (.invalidValue "distributor" "max_backoff_ms"
        (toString r.maxBackoffMs.toNat) "must not be smaller than initial_backoff_ms")

inductive FirstRaised (d : Ini.Document) (r : Settings) : List Concern → ConfigError → Prop
  | here {x : Concern} {rest : List Concern} {e : ConfigError} :
      x.Raises d r e → FirstRaised d r (x :: rest) e
  | later {x : Concern} {rest : List Concern} {e : ConfigError} :
      (∀ e, ¬x.Raises d r e) → FirstRaised d r rest e → FirstRaised d r (x :: rest) e

variable {d : Ini.Document} {r s : Settings} {x : Concern} {xs : List Concern} {e e' : ConfigError}

theorem Check.Refuses.unique {check : Check} {value reason reason' : String}
    (h : check.Refuses value reason) (h' : check.Refuses value reason') : reason = reason' := by
  cases h <;> cases h' <;> rfl

theorem Concern.Raises.unique (h : x.Raises d r e) (h' : x.Raises d r e') : e = e' := by
  cases h with
  | refused hvalue hrefuses =>
    cases h' with
    | refused hvalue' hrefuses' =>
      obtain rfl := Option.some.inj (hvalue.symm.trans hvalue')
      rw [hrefuses.unique hrefuses']
  | bounds _ _ =>
    cases h'
    rfl

theorem FirstRaised.unique (h : FirstRaised d r xs e) (h' : FirstRaised d r xs e') : e = e' := by
  induction h with
  | here hx =>
    cases h' with
    | here hx' => exact hx.unique hx'
    | later hnone _ => exact absurd hx (hnone _)
  | later hnone _ ih =>
    cases h' with
    | here hx' => exact absurd hx' (hnone _)
    | later _ hrest => exact ih hrest

theorem FirstRaised.exists_mem (h : FirstRaised d r xs e) : ∃ x ∈ xs, x.Raises d r e := by
  induction h with
  | here hx => exact ⟨_, List.mem_cons_self, hx⟩
  | later _ _ ih =>
    obtain ⟨x, hmem, hx⟩ := ih
    exact ⟨x, List.mem_cons_of_mem _ hmem, hx⟩

/-! ## Changes -/

/-- A change does to settings what is said of a key. -/
def Change.Obeys (change : Change) (k : Known) : Prop := ∀ value s,
  (∃ reason, k.check.Refuses value reason ∧ change value s = .error reason) ∨
    (∀ reason, ¬k.check.Refuses value reason) ∧
      change value s = .ok (k.setting.put ((k.read value).getD (k.setting.get s)) s)

section Changes

variable {β : Type} {sectionName key : String} {setting : Setting β}

theorem address_obeys {set : String → Settings → Settings} {use : String → β}
    (hset : ∀ v s, set v s = setting.put (use v) s) :
    (address set).Obeys (.address sectionName key use setting) := by
  intro value s
  cases hv : present? value with
  | none =>
    refine .inl ⟨_, .blank (present?_eq_none_iff.mp hv), ?_⟩
    rw [address, hv]
  | some v =>
    refine .inr ⟨?_, ?_⟩
    · rintro reason ⟨hblank⟩
      rw [present?_eq_none_iff.mpr hblank] at hv
      cases hv
    · simp only [address, Known.address, hv, Option.map_some, Option.getD_some, hset]

theorem option_obeys {set : Option String → Settings → Settings}
    {setting : Setting (Option String)} (hset : ∀ v s, set v s = setting.put v s) :
    (option set).Obeys (.text sectionName key setting) := by
  intro value s
  refine .inr ⟨nofun, ?_⟩
  simp only [option, Known.text, Option.getD_some, hset]

theorem words_obeys {change : Change} {setting : Setting (List String)}
    (hchange : ∀ value s, change value s =
      .ok (setting.put ((Text.words value.toList).map String.ofList) s)) :
    change.Obeys (.words sectionName key setting) := by
  intro value s
  exact .inr ⟨nofun, hchange value s⟩

theorem unlessBlank_obeys {set : String → Settings → Settings} {use : String → β}
    (hset : ∀ v s, set v s = setting.put (use v) s) :
    (unlessBlank set).Obeys (.unlessBlank sectionName key use setting) := by
  intro value s
  refine .inr ⟨nofun, ?_⟩
  cases hv : present? value with
  | none =>
    simp only [unlessBlank, Known.unlessBlank, hv, Option.map_none, Option.getD_none,
      setting.put_get]
  | some v =>
    simp only [unlessBlank, Known.unlessBlank, hv, Option.map_some, Option.getD_some, hset]

theorem number_eq (bits : Nat) (set : Nat → Settings → Settings) (value : String) (s : Settings) :
    number bits set value s =
      (number? bits value).elim (.error "must be a non-negative integer")
        fun n => .ok (set n s) := by
  rw [number, number?]
  cases Text.unsigned? (1 <<< bits) (Text.trim value.toList) <;> rfl

theorem number_obeys {bits : Nat} {set : Nat → Settings → Settings} {use : Nat → β}
    (hset : ∀ n s, set n s = setting.put (use n) s) :
    (number bits set).Obeys (.number sectionName key bits use setting) := by
  intro value s
  rw [number_eq]
  cases hn : number? bits value with
  | none => exact .inl ⟨_, .noNumber (number?_eq_none_iff.mp hn), rfl⟩
  | some n =>
    refine .inr ⟨?_, ?_⟩
    · intro reason hrefuses
      cases hrefuses with
      | noNumber hnone =>
        rw [number?_eq_none_iff.mpr hnone] at hn
        cases hn
    · simp only [Known.number, hn, Option.elim_some, Option.map_some, Option.getD_some, hset]

theorem positive_eq (bits : Nat) (set : Nat → Settings → Settings) (value : String) (s : Settings) :
    positive bits set value s =
      (positive? bits value).elim (.error "must be a positive integer")
        fun n => .ok (set n s) := by
  rw [positive, positive?, number?]
  cases Text.unsigned? (1 <<< bits) (Text.trim value.toList) with
  | none => rfl
  | some n => by_cases hn : n = 0 <;> simp [hn, Option.filter]

theorem positive_obeys {bits : Nat} {set : Nat → Settings → Settings} {use : Nat → β}
    (hset : ∀ n s, set n s = setting.put (use n) s) :
    (positive bits set).Obeys (.positive sectionName key bits use setting) := by
  intro value s
  rw [positive_eq]
  cases hn : positive? bits value with
  | none => exact .inl ⟨_, .notPositive (positive?_eq_none_iff.mp hn), rfl⟩
  | some n =>
    refine .inr ⟨?_, ?_⟩
    · intro reason hrefuses
      cases hrefuses with
      | notPositive hnone =>
        rw [positive?_eq_none_iff.mpr hnone] at hn
        cases hn
    · simp only [Known.positive, hn, Option.elim_some, Option.map_some, Option.getD_some, hset]

theorem optionalPositive_obeys {bits : Nat} {set : Option Nat → Settings → Settings}
    {use : Nat → β} {setting : Setting (Option β)}
    (hset : ∀ v s, set v s = setting.put (v.map use) s) :
    (optionalPositive bits set).Obeys
      (.optionalPositive sectionName key bits use setting) := by
  intro value s
  rw [optionalPositive]
  cases hv : present? value with
  | none =>
    have hblank : Blank value := present?_eq_none_iff.mp hv
    refine .inr ⟨?_, ?_⟩
    · intro reason hrefuses
      cases hrefuses with
      | neitherBlank hsome _ => exact hsome hblank
    · simp only [Known.optionalPositive, hv, Option.getD_some, hset, Option.map_none]
  | some v =>
    have hsome : ¬Blank value := by
      intro hblank
      rw [present?_eq_none_iff.mpr hblank] at hv
      cases hv
    simp only [positive_eq]
    cases hn : positive? bits value with
    | none => exact .inl ⟨_, .neitherBlank hsome (positive?_eq_none_iff.mp hn), rfl⟩
    | some n =>
      refine .inr ⟨?_, ?_⟩
      · intro reason hrefuses
        cases hrefuses with
        | neitherBlank _ hnone =>
          rw [positive?_eq_none_iff.mpr hnone] at hn
          cases hn
      · simp only [Known.optionalPositive, hv, hn, Option.elim_some, Option.map_some,
          Option.getD_some, Function.comp_apply, hset]

end Changes

/-! ## Rules -/

/-- A rule does what is said of its key, or is the comparison of both bounds. -/
inductive Rule.Obeys : Rule → Concern → Prop
  | key {sectionName name : String} {change : Change} {k : Known} :
      k.sectionName = sectionName → k.key = name → change.Obeys k →
      Obeys (.key sectionName name change) (.key k)
  | bounds : Obeys .backoffOrder .bounds

theorem workerRules_obey {sectionName : String} {on : OnWorker} {worker : Setting WorkerSettings}
    (hon : ∀ f s, on f s = worker.put (f (worker.get s)) s) :
    List.Forall₂ Rule.Obeys (workerRules sectionName on) (workerConcerns sectionName worker) := by
  exact .cons (.key rfl rfl (option_obeys fun _ _ => hon _ _)) <|
    .cons (.key rfl rfl (words_obeys fun _ _ => congrArg Except.ok (hon _ _))) <|
    .cons (.key rfl rfl (option_obeys fun _ _ => hon _ _)) <|
    .cons (.key rfl rfl (optionalPositive_obeys fun _ _ => hon _ _)) .nil

/-- The rules are the keys and the comparison of both bounds, in the same order. -/
theorem rules_obey (home : Option Path) :
    List.Forall₂ Rule.Obeys (rules home) (concerns home) := by
  refine List.rel_append (List.rel_append (List.rel_append (List.rel_append (List.rel_append
    (List.rel_append (List.rel_append ?runtime ?fabric) ?streamingAddress) ?streaming)
    ?emitterAddress) ?emitter) ?deliveries) (.cons .bounds ?program)
  case runtime =>
    exact .cons (.key rfl rfl (address_obeys fun _ _ => rfl)) <|
      .cons (.key rfl rfl (address_obeys fun _ _ => rfl)) .nil
  case fabric => exact workerRules_obey fun _ _ => rfl
  case streamingAddress => exact .cons (.key rfl rfl (address_obeys fun _ _ => rfl)) .nil
  case streaming => exact workerRules_obey fun _ _ => rfl
  case emitterAddress => exact .cons (.key rfl rfl (option_obeys fun _ _ => rfl)) .nil
  case emitter => exact workerRules_obey fun _ _ => rfl
  case deliveries =>
    exact .cons (.key rfl rfl (positive_obeys fun _ _ => rfl)) <|
      .cons (.key rfl rfl (positive_obeys fun _ _ => rfl)) <|
      .cons (.key rfl rfl (number_obeys fun _ _ => rfl)) <|
      .cons (.key rfl rfl (number_obeys fun _ _ => rfl)) .nil
  case program =>
    exact .cons (.key rfl rfl (positive_obeys fun _ _ => rfl)) <|
      .cons (.key rfl rfl (positive_obeys fun _ _ => rfl)) <|
      .cons (.key rfl rfl (positive_obeys fun _ _ => rfl)) <|
      .cons (.key rfl rfl (positive_obeys fun _ _ => rfl)) <|
      .cons (.key rfl rfl (positive_obeys fun _ _ => rfl)) <|
      .cons (.key rfl rfl (unlessBlank_obeys fun _ _ => rfl)) <|
      .cons (.key rfl rfl (unlessBlank_obeys fun _ _ => rfl)) .nil

/-- What is checked after the comparison of both bounds does not move them. -/
def BoundsSettled (d : Ini.Document) : List Concern → Prop
  | [] => True
  | .key _ :: rest => BoundsSettled d rest
  | .bounds :: rest =>
    (∀ x ∈ rest, ∀ s, (x.settle d s).initialBackoffMs = s.initialBackoffMs ∧
      (x.settle d s).maxBackoffMs = s.maxBackoffMs) ∧ BoundsSettled d rest

theorem settled_keeps {β : Type} {f : Settings → β} (h : ∀ x ∈ xs, ∀ s, f (x.settle d s) = f s)
    (s : Settings) : f (settled d xs s) = f s := by
  induction xs generalizing s with
  | nil => rfl
  | cons x rest ih =>
    obtain ⟨hx, hrest⟩ := List.forall_mem_cons.mp h
    exact (ih hrest (x.settle d s)).trans (hx s)

theorem boundsSettled_concerns (d : Ini.Document) (home : Option Path) :
    BoundsSettled d (concerns home) := by
  simp only [concerns, peerConcerns, programConcerns, workerConcerns, List.cons_append,
    List.nil_append, BoundsSettled, and_true, List.forall_mem_cons]
  exact ⟨fun _ => ⟨rfl, rfl⟩, fun _ => ⟨rfl, rfl⟩, fun _ => ⟨rfl, rfl⟩, fun _ => ⟨rfl, rfl⟩,
    fun _ => ⟨rfl, rfl⟩, fun _ => ⟨rfl, rfl⟩, fun _ => ⟨rfl, rfl⟩, nofun⟩

/-- A rule fails with the error for which its key gives cause, and otherwise comes to what the
document sets. -/
theorem Rule.apply_of_obeys {rule : Rule} (h : rule.Obeys x)
    (hbounds : x = .bounds →
      r.initialBackoffMs = s.initialBackoffMs ∧ r.maxBackoffMs = s.maxBackoffMs) :
    (∃ e, x.Raises d r e ∧ rule.apply d s = .error e) ∨
      (∀ e, ¬x.Raises d r e) ∧ rule.apply d s = .ok (x.settle d s) := by
  cases h with
  | @key _ _ change k hsection hname hchange =>
    subst hsection hname
    have happly : Rule.apply d s (.key k.sectionName k.key change) =
        match d.value? k.sectionName k.key with
        | none => .ok s
        | some value =>
          (change value s).mapError (.invalidValue k.sectionName k.key value) := rfl
    rw [happly, Concern.settle, Known.value]
    cases hvalue : d.value? k.sectionName k.key with
    | none =>
      refine .inr ⟨?_, ?_⟩
      · rintro e ⟨hsome, -⟩
        rw [hvalue] at hsome
        cases hsome
      · exact congrArg Except.ok (k.setting.put_get s).symm
    | some value =>
      rcases hchange value s with ⟨reason, hrefuses, herror⟩ | ⟨hfree, hok⟩
      · refine .inl ⟨_, .refused hvalue hrefuses, ?_⟩
        simp only [herror]
        rfl
      · refine .inr ⟨?_, ?_⟩
        · rintro e ⟨hsome, hrefuses⟩
          obtain rfl := Option.some.inj (hvalue.symm.trans hsome)
          exact hfree _ hrefuses
        · simp only [hok]
          rfl
  | bounds =>
    obtain ⟨hinitial, hmax⟩ := hbounds rfl
    rw [Rule.apply, ← hinitial, ← hmax]
    by_cases hcause : (d.section? "distributor").isSome = true ∧ r.maxBackoffMs < r.initialBackoffMs
    · refine .inl ⟨_, .bounds hcause.1 hcause.2, if_pos ?_⟩
      simpa using hcause
    · refine .inr ⟨?_, if_neg ?_⟩
      · intro e hraises
        cases hraises with
        | bounds hsection hlt => exact hcause ⟨hsection, hlt⟩
      · simpa using hcause

/-- Rules fail with the first error for which there is cause, and otherwise come to what the
document sets. -/
theorem applyRules_of_obeys {rules : List Rule} (h : List.Forall₂ Rule.Obeys rules xs)
    (hbounds : BoundsSettled d xs) (s : Settings) :
    (∃ e, FirstRaised d (settled d xs s) xs e ∧ applyRules d rules s = .error e) ∨
      (∀ x ∈ xs, ∀ e, ¬x.Raises d (settled d xs s) e) ∧
        applyRules d rules s = .ok (settled d xs s) := by
  induction h generalizing s with
  | nil => exact .inr ⟨nofun, rfl⟩
  | @cons rule x rules rest hrule hrest ih =>
    have hsettled : settled d (x :: rest) s = settled d rest (x.settle d s) := rfl
    -- The bounds are compared as they are so far, which is as they are in the end.
    have hkeeps : x = .bounds →
        (settled d (x :: rest) s).initialBackoffMs = s.initialBackoffMs ∧
          (settled d (x :: rest) s).maxBackoffMs = s.maxBackoffMs := by
      rintro rfl
      exact ⟨settled_keeps (fun x hx s => (hbounds.1 x hx s).1) s,
        settled_keeps (fun x hx s => (hbounds.1 x hx s).2) s⟩
    have hafter : BoundsSettled d rest := by
      cases x with
      | key k => exact hbounds
      | bounds => exact hbounds.2
    rw [applyRules]
    rcases Rule.apply_of_obeys hrule hkeeps with ⟨e, hraises, herror⟩ | ⟨hfree, hok⟩
    · rw [herror]
      exact .inl ⟨e, .here hraises, rfl⟩
    · rw [hok, hsettled]
      rcases ih hafter (x.settle d s) with ⟨e, hfirst, herror⟩ | ⟨hnone, hrestOk⟩
      · exact .inl ⟨e, .later hfree hfirst, herror⟩
      · exact .inr ⟨List.forall_mem_cons.mpr ⟨hfree, hnone⟩, hrestOk⟩

/-! ## Documents -/

theorem ofDocument_of_concerns (home : Option Path) (d : Ini.Document) :
    (∃ e, FirstRaised d (overlay home d) (concerns home) e ∧ ofDocument home d = .error e) ∨
      (∀ x ∈ concerns home, ∀ e, ¬x.Raises d (overlay home d) e) ∧
        ofDocument home d = .ok (overlay home d) :=
  applyRules_of_obeys (rules_obey home) (boundsSettled_concerns d home) (standard home)

theorem ofDocument_eq_ok_iff {home : Option Path} :
    ofDocument home d = .ok s ↔
      (∀ x ∈ concerns home, ∀ e, ¬x.Raises d (overlay home d) e) ∧ s = overlay home d := by
  rcases ofDocument_of_concerns home d with ⟨e, hfirst, herror⟩ | ⟨hnone, hok⟩
  · obtain ⟨x, hx, hraises⟩ := hfirst.exists_mem
    rw [herror]
    refine ⟨nofun, ?_⟩
    rintro ⟨hnone, -⟩
    exact absurd hraises (hnone x hx e)
  · rw [hok, Except.ok.injEq]
    exact ⟨fun h => ⟨hnone, h.symm⟩, fun h => h.2.symm⟩

theorem ofDocument_eq_error_iff {home : Option Path} :
    ofDocument home d = .error e ↔ FirstRaised d (overlay home d) (concerns home) e := by
  rcases ofDocument_of_concerns home d with ⟨e', hfirst, herror⟩ | ⟨hnone, hok⟩
  · rw [herror, Except.error.injEq]
    constructor
    · rintro rfl
      exact hfirst
    · exact hfirst.unique
  · rw [hok]
    refine ⟨nofun, fun hfirst => ?_⟩
    obtain ⟨x, hx, hraises⟩ := hfirst.exists_mem
    exact absurd hraises (hnone x hx e)

/-- There are no settings if and only if there is cause for an error anywhere. -/
theorem exists_error_iff {home : Option Path} :
    (∃ e, ofDocument home d = .error e) ↔
      ∃ x ∈ concerns home, ∃ e, x.Raises d (overlay home d) e := by
  constructor
  · rintro ⟨e, herror⟩
    obtain ⟨x, hx, hraises⟩ := (ofDocument_eq_error_iff.mp herror).exists_mem
    exact ⟨x, hx, e, hraises⟩
  · rintro ⟨x, hx, e, hraises⟩
    cases hread : ofDocument home d with
    | error e' => exact ⟨e', rfl⟩
    | ok s => exact absurd hraises ((ofDocument_eq_ok_iff.mp hread).1 x hx e)

theorem value_overlay (home : Option Path) (d : Ini.Document) (k : Known)
    (hk : .key k ∈ concerns home) :
    k.setting.get (overlay home d) = k.value d (k.setting.get (standard home)) := by
  simp only [concerns, peerConcerns, programConcerns, workerConcerns, List.cons_append,
    List.nil_append, List.mem_cons, List.not_mem_nil, or_false, Concern.key.injEq, reduceCtorEq,
    false_or] at hk
  -- No key but its own moves a setting, so that each is found by evaluation.
  rcases hk with rfl | rfl | rfl | rfl | rfl | rfl | rfl | rfl | rfl | rfl | rfl | rfl | rfl | rfl |
    rfl | rfl | rfl | rfl | rfl | rfl | rfl | rfl | rfl | rfl | rfl | rfl | rfl <;> rfl

theorem eq_of_get_eq {home : Option Path} {s t : Settings}
    (h : ∀ k, .key k ∈ concerns home → k.setting.get s = k.setting.get t) : s = t := by
  simp only [concerns, peerConcerns, programConcerns, workerConcerns, List.cons_append,
    List.nil_append, List.mem_cons, List.not_mem_nil, or_false, Concern.key.injEq, reduceCtorEq,
    false_or, forall_eq_or_imp, forall_eq, Known.address, Known.text, Known.words,
    Known.unlessBlank, Known.number, Known.positive, Known.optionalPositive, Setting.endpoint,
    fabric, streaming, emitting] at h
  obtain ⟨_, ⟨_, _, _, _, _⟩, ⟨_, _, _, _, _⟩, ⟨_, _, _, _, _⟩⟩ := s
  obtain ⟨_, ⟨_, _, _, _, _⟩, ⟨_, _, _, _, _⟩, ⟨_, _, _, _, _⟩⟩ := t
  simp_all only

/-- What comes of a document. -/
structure Overlaid (home : Option Path) (d : Ini.Document) : Prop where
  /-- A setting is what its key gives alone, and otherwise the standard one. -/
  value : ∀ k, .key k ∈ concerns home →
    k.setting.get (overlay home d) = k.value d (k.setting.get (standard home))
  /-- The keys are those of all settings. -/
  complete : ∀ s t : Settings, (∀ k, .key k ∈ concerns home → k.setting.get s = k.setting.get t) →
    s = t
  ok_iff : ∀ s, ofDocument home d = .ok s ↔
    (∀ x ∈ concerns home, ∀ e, ¬x.Raises d (overlay home d) e) ∧ s = overlay home d
  error_iff : ∀ e, ofDocument home d = .error e ↔
    FirstRaised d (overlay home d) (concerns home) e
  fails_iff : (∃ e, ofDocument home d = .error e) ↔
    ∃ x ∈ concerns home, ∃ e, x.Raises d (overlay home d) e
  wellFormed : ∀ s, ofDocument home d = .ok s → s.WellFormed

theorem overlaid_of_document (home : Option Path) (d : Ini.Document) : Overlaid home d where
  value := value_overlay home d
  complete _ _ := eq_of_get_eq
  ok_iff _ := ofDocument_eq_ok_iff
  error_iff _ := ofDocument_eq_error_iff
  fails_iff := exists_error_iff
  wellFormed _ := wellFormed_of_ofDocument

end Settings

end ControlPlane
