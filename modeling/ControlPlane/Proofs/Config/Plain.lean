import ControlPlane.Proofs.Config.Reopening

/-!
# Settings with plain texts

Settings that were put together without any file come back from the file to which they are saved if
their texts are plain, but for two things. A file may not take away the pause between two probes,
and it has to spell the log directory, whose octets need not be those of a text.

## Main definitions

- `Settings.IsPlain`: a text without anything that means something to the reader of a file.
- `Settings.Plain`: settings with such texts, and with counts that may stand in a file.

## Main statements

- `Settings.load_toIni_eq_ok_iff`: which plain settings come back.
- `Settings.load_toIni_changed`: plain settings that do not.
-/

namespace ControlPlane

/-- A text that is not empty and has nothing in it that means something to the reader of a file. -/
structure Settings.IsPlain (text : String) : Prop extends Ini.IsVerbatim text where
  nonempty : text ≠ ""

instance : DecidablePred Settings.IsPlain := fun text =>
  decidable_of_iff (Ini.IsVerbatim text ∧ text ≠ "")
    ⟨fun ⟨h₁, h₂⟩ => ⟨h₁, h₂⟩, fun h => ⟨h.toIsVerbatim, h.nonempty⟩⟩

/-- Settings of a worker whose texts are plain. -/
structure WorkerSettings.Plain (w : WorkerSettings) : Prop where
  endpoint : ∀ v ∈ w.endpoint, Settings.IsPlain v
  command : ∀ v ∈ w.command, Settings.IsPlain v
  args : ∀ arg ∈ w.args, Settings.IsPlain arg
  words : ∀ arg ∈ w.args, Text.IsWord arg.toList
  credentials : ∀ v ∈ w.credentials, Settings.IsPlain v
  bufferSize : ∀ n ∈ w.bufferSize, n ≠ 0

/-- Settings whose texts are plain, and whose timeouts, counts and limits may stand in a file. -/
structure Settings.Plain (s : Settings) : Prop where
  outputAddress : Settings.IsPlain s.outputAddress
  fabricManager : s.fabricManager.Plain
  fabricEndpoint : s.fabricManager.endpoint.isSome
  streamingManager : s.streamingManager.Plain
  streamingEndpoint : s.streamingManager.endpoint.isSome
  emitter : s.emitter.Plain
  connectTimeoutMs : s.connectTimeoutMs ≠ 0
  maxAttempts : s.maxAttempts ≠ 0
  ordered : s.initialBackoffMs ≤ s.maxBackoffMs
  partitionCandidates : s.partitionCandidates ≠ 0
  readinessTimeoutSecs : s.readinessTimeoutSecs ≠ 0
  readTimeoutMs : s.readTimeoutMs ≠ 0
  maxFrameLength : s.maxFrameLength ≠ 0
  logDirectory : Settings.IsPlain s.logDirectory.text
  /-- The directory is not one below the home directory, by its spelling. -/
  notBelowHome : ¬['~', '/'] <+: s.logDirectory.text.toList
  logFile : Settings.IsPlain s.logFile

namespace Settings

theorem IsPlain.stands {text : String} (h : IsPlain text) : Stands text :=
  stands_iff.mpr ⟨h.nonempty, h.trimmed⟩

theorem isVerbatim_optional {value : Option String} (h : ∀ v ∈ value, IsPlain v) :
    Ini.IsVerbatim (optional value) := by
  cases value with
  | none => decide +kernel
  | some v => exact (h v rfl).toIsVerbatim

theorem isVerbatim_numeral (n : Nat) : Ini.IsVerbatim (toString n) := by
  have hdigit : ∀ c ∈ (toString n).toList, c.isDigit = true := by
    intro c hc
    rw [Nat.toString_eq_repr, Nat.toList_repr] at hc
    exact Nat.isDigit_of_mem_toDigits (by decide) (by decide) hc
  have hplain : ∀ c : Char, c.isDigit = true →
      c ≠ '\\' ∧ Ini.isBreak c = false ∧ c ≠ '"' ∧ c ≠ '\'' := by
    intro c hc
    have hbreak : Ini.isBreak c = false := Ini.isBreak_eq_false (Text.isBlank_of_isDigit hc)
    refine ⟨?_, hbreak, ?_, ?_⟩ <;> rintro rfl <;> exact absurd hc (by decide)
  exact
    { trimmed := Text.trim_of_forall (isWord_numeral n).2
      plain := fun c hc => ⟨(hplain c (hdigit c hc)).1, (hplain c (hdigit c hc)).2.1⟩
      unquoted := fun c hc => (hplain c (hdigit c (List.mem_of_head? hc))).2.2 }

/-- Plain arguments are plain when they are written one behind the other. -/
theorem isVerbatim_args {args : List String} (h : ∀ arg ∈ args, IsPlain arg)
    (hwords : ∀ arg ∈ args, Text.IsWord arg.toList) :
    Ini.IsVerbatim (String.intercalate " " args) := by
  have hlist : (String.intercalate " " args).toList =
      List.intercalate [' '] (args.map String.toList) := String.toList_intercalate
  have hrun : ∀ word ∈ args.map String.toList, Text.IsWord word := List.forall_mem_map.mpr hwords
  refine ⟨?trimmed, ?plain, ?unquoted⟩
  case trimmed =>
    rw [hlist]
    exact Text.trim_intercalate hrun
  case plain =>
    intro c hc
    rw [hlist] at hc
    rcases Text.mem_intercalate hc with rfl | ⟨word, hword, hmem⟩
    · decide
    · obtain ⟨arg, harg, rfl⟩ := List.mem_map.mp hword
      exact (h arg harg).plain c hmem
  case unquoted =>
    intro c hc
    rw [hlist] at hc
    obtain ⟨word, hword, hmem⟩ := Text.head?_intercalate hrun c hc
    obtain ⟨arg, harg, rfl⟩ := List.mem_map.mp hword
    exact (h arg harg).unquoted c hmem

end Settings

namespace WorkerSettings.Plain

variable {w : WorkerSettings}

theorem wellFormed (h : w.Plain) : w.WellFormed where
  endpoint v hv := (h.endpoint v hv).stands
  command v hv := (h.command v hv).stands
  args := h.words
  credentials v hv := (h.credentials v hv).stands
  bufferSize := h.bufferSize

theorem isVerbatim (h : w.Plain) : ∀ value ∈ w.lines.filterMap Ini.Line.value?,
    Ini.IsVerbatim value := by
  have hbuffer :
      Ini.IsVerbatim (Settings.optional (w.bufferSize.map fun n => toString n.toNat)) := by
    cases w.bufferSize with
    | none => decide +kernel
    | some n => exact Settings.isVerbatim_numeral n.toNat
  simp only [lines, List.filterMap_cons, Ini.Line.value?, List.filterMap_nil, List.forall_mem_cons]
  exact ⟨Settings.isVerbatim_optional h.command, Settings.isVerbatim_args h.args h.words,
    Settings.isVerbatim_optional h.credentials, hbuffer, fun _ hv => absurd hv List.not_mem_nil⟩

end WorkerSettings.Plain

namespace Settings

variable {s : Settings}

namespace Plain

variable (h : s.Plain)

include h

theorem wellFormed (hprobe : s.probeIntervalMs ≠ 0) : s.WellFormed where
  outputAddress := h.outputAddress.stands
  fabricManager := h.fabricManager.wellFormed
  fabricEndpoint := h.fabricEndpoint
  streamingManager := h.streamingManager.wellFormed
  streamingEndpoint := h.streamingEndpoint
  emitter := h.emitter.wellFormed
  connectTimeoutMs := h.connectTimeoutMs
  maxAttempts := h.maxAttempts
  partitionCandidates := h.partitionCandidates
  readinessTimeoutSecs := h.readinessTimeoutSecs
  probeIntervalMs := hprobe
  readTimeoutMs := h.readTimeoutMs
  maxFrameLength := h.maxFrameLength
  logFile := h.logFile.stands
  ordered := h.ordered

theorem verbatim : s.Verbatim := by
  have hnil : ∀ value ∈ ([] : List String), Ini.IsVerbatim value :=
    fun _ hv => absurd hv List.not_mem_nil
  simp only [Verbatim, values, lines, List.filterMap_append, List.filterMap_cons, Ini.Line.value?,
    List.filterMap_nil, List.forall_mem_append, List.forall_mem_cons]
  refine ⟨⟨⟨⟨⟨⟨?runtime, ?fabric⟩, ?streamingAddress⟩, ?streaming⟩, ?emitterAddress⟩, ?emitter⟩,
    ?others⟩
  case runtime =>
    exact ⟨isVerbatim_optional h.fabricManager.endpoint, h.outputAddress.toIsVerbatim, hnil⟩
  case fabric => exact h.fabricManager.isVerbatim
  case streamingAddress => exact ⟨isVerbatim_optional h.streamingManager.endpoint, hnil⟩
  case streaming => exact h.streamingManager.isVerbatim
  case emitterAddress => exact ⟨isVerbatim_optional h.emitter.endpoint, hnil⟩
  case emitter => exact h.emitter.isVerbatim
  case others =>
    exact ⟨isVerbatim_numeral _, isVerbatim_numeral _, isVerbatim_numeral _, isVerbatim_numeral _,
      isVerbatim_numeral _, isVerbatim_numeral _, isVerbatim_numeral _, isVerbatim_numeral _,
      isVerbatim_numeral _, h.logDirectory.toIsVerbatim, h.logFile.toIsVerbatim, hnil⟩

theorem reopened_logDirectory (home : Option Path) :
    reopened home s.logDirectory = .ofText s.logDirectory.text := by
  rw [reopened, h.logDirectory.stands]
  exact Path.expandHome_eq h.notBelowHome

/-- The directory comes back as what it shows as. -/
theorem load_toIni (hprobe : s.probeIntervalMs ≠ 0) (home : Option Path) :
    load home (some (.ok (Text.utf8 s.toIni))) =
      .ok { s with logDirectory := .ofText s.logDirectory.text } := by
  rw [load, ofOctets_toIni (h.wellFormed hprobe) h.verbatim.forall₂_readsAs,
    h.reopened_logDirectory]

end Plain

/-- Plain settings come back when they are saved and loaded, wherever the home directory is, if and
only if there is a pause between two probes and the log directory is what some text spells. -/
theorem load_toIni_eq_ok_iff (h : s.Plain) (home : Option Path) :
    load home (some (.ok (Text.utf8 s.toIni))) = .ok s ↔
      s.probeIntervalMs ≠ 0 ∧ s.logDirectory.IsText := by
  constructor
  · intro hload
    obtain ⟨document, hdocument⟩ := exists_document_of_load hload
    have hprobe := (wellFormed_of_ofDocument hdocument).probeIntervalMs
    rw [h.load_toIni hprobe, Except.ok.injEq] at hload
    exact ⟨hprobe, _, (congrArg logDirectory hload).symm⟩
  · rintro ⟨hprobe, hdirectory⟩
    rw [h.load_toIni hprobe, Path.isText_iff.mp hdirectory]

theorem plain_standard : (standard (some (.ofText "/home/sonata"))).Plain where
  outputAddress := by decide +kernel
  fabricManager := ⟨by rintro _ ⟨⟩; decide +kernel, nofun, nofun, nofun, nofun, nofun⟩
  fabricEndpoint := rfl
  streamingManager := ⟨by rintro _ ⟨⟩; decide +kernel, nofun, nofun, nofun, nofun, nofun⟩
  streamingEndpoint := rfl
  emitter := ⟨nofun, nofun, nofun, nofun, nofun, nofun⟩
  connectTimeoutMs := by decide
  maxAttempts := by decide
  ordered := by decide
  partitionCandidates := by decide
  readinessTimeoutSecs := by decide
  readTimeoutMs := by decide
  maxFrameLength := by decide
  logDirectory := by decide +kernel
  notBelowHome := by decide +kernel
  logFile := by decide +kernel

/-- A command with arguments and a directory with a space in its name come back below another home
directory. -/
theorem load_toIni_arguments :
    let s : Settings := { standard (some (.ofText "/home/sonata")) with
      fabricManager :=
        { endpoint := some "fabric:6666"
          command := some "/opt/fabric manager"
          args := ["--port", "6666"]
          bufferSize := some 512 }
      logDirectory := .ofText "logs of today" }
    s.Plain ∧ load (some (.ofText "/root")) (some (.ok (Text.utf8 s.toIni))) = .ok s := by
  intro s
  have hfabric : s.fabricManager.Plain :=
    { endpoint := by rintro _ ⟨⟩; decide +kernel
      command := by rintro _ ⟨⟩; decide +kernel
      args := by decide +kernel
      words := by decide +kernel
      credentials := nofun
      bufferSize := by rintro _ ⟨⟩; decide }
  have hplain : s.Plain :=
    { plain_standard with
      fabricManager := hfabric
      fabricEndpoint := rfl
      logDirectory := by decide +kernel
      notBelowHome := by decide +kernel }
  exact ⟨hplain, (load_toIni_eq_ok_iff hplain _).mpr ⟨by decide, Path.isText_ofText _⟩⟩

/-- Plain settings without a pause between two probes are refused when they are loaded again, and
those with a directory that no text spells come back with another one. -/
theorem load_toIni_changed :
    let home := some (Path.ofText "/home/sonata")
    let hasty : Settings := { standard home with probeIntervalMs := 0 }
    let nameless : Settings :=
      { standard home with logDirectory := ⟨[0x2F, 0x74, 0x6D, 0x70, 0x2F, 0xFF]⟩ }
    let named : Settings := { standard home with logDirectory := .ofText "/tmp/\uFFFD" }
    hasty.Plain ∧ load home (some (.ok (Text.utf8 hasty.toIni))) = .error
        (.invalidValue "bootstrap" "probe_interval_ms" "0" "must be a positive integer") ∧
      nameless.Plain ∧ load home (some (.ok (Text.utf8 nameless.toIni))) = .ok named ∧
      nameless.same named = false := by
  intro home hasty nameless named
  have hhasty : hasty.Plain := { plain_standard with }
  have hnameless : nameless.Plain :=
    { plain_standard with
      logDirectory := by decide +kernel
      notBelowHome := by decide +kernel }
  have hshown : nameless.logDirectory.text = "/tmp/\uFFFD" := by decide +kernel
  refine ⟨hhasty, ?refused, hnameless, ?changed, by decide +kernel⟩
  case refused =>
    rw [load, ofOctets_eq_ofDocument hhasty.verbatim.forall₂_readsAs]
    decide +kernel
  case changed => rw [hnameless.load_toIni (by decide), hshown]

end Settings

end ControlPlane
