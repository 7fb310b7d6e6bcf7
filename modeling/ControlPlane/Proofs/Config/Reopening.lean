import ControlPlane.Proofs.Config.Loading
import ControlPlane.Proofs.Ini.Rendering
import Mathlib.Data.List.Forall2

/-!
# Reading settings that were written

Settings are written under the very names under which they are read. What may come between is the
spelling of a value: the writer puts it down as it is, and the reader takes some of its characters
for more than that.

## Main definitions

- `Settings.document`: the document as which settings are written.
- `Settings.reopened`: the log directory that the file gives.

## Main statements

- `Settings.ofDocument_of_found`: a document with all the entries gives the settings back.
- `Settings.ofOctets_toIni`: a file gives the settings that have the values it is read to have.
-/

namespace ControlPlane

/-- The entries that all workers have. -/
def WorkerSettings.entries (w : WorkerSettings) : List (String × String) :=
  [("command", Settings.optional w.command),
   ("args", String.intercalate " " w.args),
   ("credentials", Settings.optional w.credentials),
   ("buffer_size", Settings.optional (w.bufferSize.map fun n => toString n.toNat))]

namespace Settings

/-- The document as which settings are written. -/
def document (s : Settings) : Ini.Document :=
  [⟨some "runtime",
     [("fm_socket", optional s.fabricManager.endpoint), ("op_socket", s.outputAddress)]⟩,
   ⟨some "fm_conf", s.fabricManager.entries⟩,
   ⟨some "sm_conf",
     ("sm_socket", optional s.streamingManager.endpoint) :: s.streamingManager.entries⟩,
   ⟨some "emitter_conf", ("socket", optional s.emitter.endpoint) :: s.emitter.entries⟩,
   ⟨some "distributor",
     [("connect_timeout_ms", toString s.connectTimeoutMs.toNat),
      ("max_attempts", toString s.maxAttempts.toNat),
      ("initial_backoff_ms", toString s.initialBackoffMs.toNat),
      ("max_backoff_ms", toString s.maxBackoffMs.toNat)]⟩,
   ⟨some "pipeline", [("partition_candidates", toString s.partitionCandidates.toNat)]⟩,
   ⟨some "bootstrap",
     [("readiness_timeout_secs", toString s.readinessTimeoutSecs.toNat),
      ("probe_interval_ms", toString s.probeIntervalMs.toNat)]⟩,
   ⟨some "feedback",
     [("read_timeout_ms", toString s.readTimeoutMs.toNat),
      ("max_frame_length", toString s.maxFrameLength.toNat)]⟩,
   ⟨some "logging", [("directory", s.logDirectory.text), ("file", s.logFile)]⟩]

theorem documentOf_lines (s : Settings) : Ini.documentOf s.lines = s.document := by
  simp [Ini.documentOf, lines, WorkerSettings.lines, Ini.Document.write, Ini.Document.openSection,
    Ini.Document.add, document, WorkerSettings.entries]

variable {document : Ini.Document} {s t u : Settings} {home : Option Path}

/-! ## Looking up -/

theorem find?_eq_of_nodup {α β : Type} [BEq β] [LawfulBEq β] {f : α → β} {l : List α} {a : α}
    (hnodup : (l.map f).Nodup) (h : a ∈ l) : l.find? (f · == f a) = some a := by
  induction l with
  | nil => exact absurd h List.not_mem_nil
  | cons b l ih =>
    rw [List.map_cons, List.nodup_cons] at hnodup
    rcases List.mem_cons.mp h with rfl | hmem
    · exact List.find?_cons_of_pos (beq_self_eq_true _)
    · have hne : f b ≠ f a := fun heq => hnodup.1 (heq ▸ List.mem_map_of_mem hmem)
      rw [List.find?_cons_of_neg (by simpa using hne)]
      exact ih hnodup.2 hmem

/-- Every entry of the document of settings is found in another document. -/
def Found (document : Ini.Document) (s : Settings) : Prop :=
  ∀ part ∈ s.document, ∀ entry ∈ part.entries,
    (part.name.bind document.section?).bind (·.get? entry.1) = some entry.2

/-- No name of a section and no key within a section stands twice in the document of settings. -/
theorem found_document (s : Settings) : Found s.document s := by
  intro part hpart entry hentry
  have hnames : (s.document.map (·.name)).Nodup := by
    have hlist : s.document.map (·.name) = [some "runtime", some "fm_conf", some "sm_conf",
        some "emitter_conf", some "distributor", some "pipeline", some "bootstrap",
        some "feedback", some "logging"] := rfl
    rw [hlist]
    decide +kernel
  have hkeys : ∀ part ∈ s.document, part.name.isSome ∧ (part.entries.map (·.1)).Nodup := by
    simp [Settings.document, WorkerSettings.entries]
  obtain ⟨hnamed, hkeys⟩ := hkeys part hpart
  obtain ⟨name, hname⟩ := Option.isSome_iff_exists.mp hnamed
  have hsection : s.document.section? name = some part := by
    have hfind := find?_eq_of_nodup hnames hpart
    rw [hname] at hfind
    exact hfind
  rw [hname, Option.bind_some, hsection, Option.bind_some, Ini.Section.get?,
    find?_eq_of_nodup hkeys hentry]
  rfl

/-! ## Rules on written values -/

/-- A key of the document whose value is taken. -/
theorem applyRules_key {sectionName name value : String} {change : Change}
    (hvalue : (document.section? sectionName).bind (·.get? name) = some value)
    (hchange : change value s = .ok t) (rest : List Rule) :
    applyRules document (.key sectionName name change :: rest) s = applyRules document rest t := by
  rw [applyRules, Rule.apply, hvalue]
  simp only [hchange, Except.mapError]

theorem applyRules_backoffOrder (h : s.Ordered) (rest : List Rule) :
    applyRules document (.backoffOrder :: rest) s = applyRules document rest s := by
  have hlt : ¬s.maxBackoffMs < s.initialBackoffMs := UInt64.not_lt.mpr h
  rw [applyRules, Rule.apply, if_neg (by simp [hlt])]

theorem words_args {args : List String} (h : ∀ arg ∈ args, Text.IsWord arg.toList) :
    (Text.words (String.intercalate " " args).toList).map String.ofList = args := by
  rw [String.toList_intercalate]
  have hspace : " ".toList = [' '] := rfl
  rw [hspace, Text.words_intercalate (List.forall_mem_map.mpr h), List.map_map]
  exact (List.map_congr_left fun _ _ => String.ofList_toList).trans (List.map_id args)

/-- The section of a worker gives its settings back, but for the endpoint. -/
theorem applyRules_workerRules {w : WorkerSettings} (hw : w.WellFormed) {sectionName : String}
    {on : OnWorker}
    (hvalue : ∀ entry ∈ w.entries,
      (document.section? sectionName).bind (·.get? entry.1) = some entry.2)
    (hon : ∀ f g s, on f (on g s) = on (f ∘ g) s) (rest : List Rule) (s : Settings) :
    applyRules document (workerRules sectionName on ++ rest) s =
      applyRules document rest (on (fun u => { w with endpoint := u.endpoint }) s) := by
  have hbuffer : (w.bufferSize.map fun n => toString n.toNat) =
      (w.bufferSize.map UInt64.toNat).map toString := (Option.map_map ..).symm
  have hpositive : ∀ n ∈ w.bufferSize.map UInt64.toNat, n ≠ 0 ∧ n < 1 <<< 64 := by
    intro n hn
    obtain ⟨m, hm, rfl⟩ := Option.map_eq_some_iff.mp hn
    exact ⟨fun hzero => hw.bufferSize m hm (UInt64.toNat_inj.mp hzero), m.toNat_lt⟩
  have hsame : (w.bufferSize.map UInt64.toNat).map UInt64.ofNat = w.bufferSize := by
    cases w.bufferSize <;> simp
  simp only [WorkerSettings.entries, List.forall_mem_cons] at hvalue
  obtain ⟨hcommand, hargs, hcredentials, hbufferSize, -⟩ := hvalue
  rw [hbuffer] at hbufferSize
  simp only [workerRules, List.cons_append, List.nil_append]
  rw [applyRules_key hcommand (option_written hw.command _ s), applyRules_key hargs rfl,
    applyRules_key hcredentials (option_written hw.credentials _ _),
    applyRules_key hbufferSize (optionalPositive_written hpositive _ _),
    words_args hw.args, hsame, hon, hon, hon]
  rfl

/-- The log directory that a file gives in which it is written. -/
def reopened (home : Option Path) (directory : Path) : Path :=
  match present? directory.text with
  | some text => Path.expandHome home text
  | none => (standard home).logDirectory

theorem directory_written (h : s.logDirectory = (standard home).logDirectory) (directory : Path) :
    unlessBlank (fun v s => { s with logDirectory := Path.expandHome home v }) directory.text s =
      .ok { s with logDirectory := reopened home directory } := by
  cases htext : present? directory.text with
  | none =>
    rw [unlessBlank, htext, reopened, htext]
    simp only
    rw [← h]
  | some text => rw [unlessBlank, htext, reopened, htext]

/-- A document with all entries gives the settings back, but perhaps for the log directory. -/
theorem ofDocument_of_found (h : s.WellFormed) (hfound : Found document s) :
    ofDocument home document = .ok { s with logDirectory := reopened home s.logDirectory } := by
  simp only [Found, Settings.document, List.forall_mem_cons, Option.bind_some] at hfound
  obtain ⟨⟨hfmSocket, hopSocket, -⟩, hfabric, ⟨hsmSocket, hstreaming⟩, ⟨hsocket, hemitter⟩,
    ⟨hconnect, hattempts, hinitial, hlongest, -⟩, ⟨hcandidates, -⟩, ⟨hreadiness, hprobe, -⟩,
    ⟨hread, hframe, -⟩, ⟨hdirectory, hfile, -⟩, -⟩ := hfound
  obtain ⟨fabric, hfabricEndpoint⟩ := Option.isSome_iff_exists.mp h.fabricEndpoint
  obtain ⟨streaming, hstreamingEndpoint⟩ := Option.isSome_iff_exists.mp h.streamingEndpoint
  have hpositive : ∀ {n : UInt64}, n ≠ 0 → n.toNat ≠ 0 :=
    fun hn hzero => hn (UInt64.toNat_inj.mp hzero)
  have hattempt : s.maxAttempts.toNat ≠ 0 := fun hzero => h.maxAttempts (UInt32.toNat_inj.mp hzero)
  rw [hfabricEndpoint] at hfmSocket
  rw [hstreamingEndpoint] at hsmSocket
  rw [ofDocument, rules, peerRules, programRules]
  simp only [List.append_assoc, List.cons_append, List.nil_append]
  -- The rules are applied one by one, each to the value that was written under its key.
  refine (applyRules_key hfmSocket
    (address_written (h.fabricManager.endpoint _ hfabricEndpoint) _ _) _).trans ?_
  refine (applyRules_key hopSocket (address_written h.outputAddress _ _) _).trans ?_
  refine (applyRules_workerRules h.fabricManager hfabric (fun _ _ _ => rfl) _ _).trans ?_
  refine (applyRules_key hsmSocket
    (address_written (h.streamingManager.endpoint _ hstreamingEndpoint) _ _) _).trans ?_
  refine (applyRules_workerRules h.streamingManager hstreaming (fun _ _ _ => rfl) _ _).trans ?_
  refine (applyRules_key hsocket (option_written h.emitter.endpoint _ _) _).trans ?_
  refine (applyRules_workerRules h.emitter hemitter (fun _ _ _ => rfl) _ _).trans ?_
  refine (applyRules_key hconnect
    (positive_written (hpositive h.connectTimeoutMs) (UInt64.toNat_lt _) _ _) _).trans ?_
  refine (applyRules_key hattempts
    (positive_written hattempt (UInt32.toNat_lt _) _ _) _).trans ?_
  refine (applyRules_key hinitial (number_written (UInt64.toNat_lt _) _ _) _).trans ?_
  refine (applyRules_key hlongest (number_written (UInt64.toNat_lt _) _ _) _).trans ?_
  refine (applyRules_backoffOrder ?ordered _).trans ?_
  case ordered =>
    show UInt64.ofNat s.initialBackoffMs.toNat ≤ UInt64.ofNat s.maxBackoffMs.toNat
    rw [UInt64.ofNat_toNat, UInt64.ofNat_toNat]
    exact h.ordered
  refine (applyRules_key hcandidates
    (positive_written (hpositive h.partitionCandidates) (UInt64.toNat_lt _) _ _) _).trans ?_
  refine (applyRules_key hreadiness
    (positive_written (hpositive h.readinessTimeoutSecs) (UInt64.toNat_lt _) _ _) _).trans ?_
  refine (applyRules_key hprobe
    (positive_written (hpositive h.probeIntervalMs) (UInt64.toNat_lt _) _ _) _).trans ?_
  refine (applyRules_key hread
    (positive_written (hpositive h.readTimeoutMs) (UInt64.toNat_lt _) _ _) _).trans ?_
  refine (applyRules_key hframe
    (positive_written (hpositive h.maxFrameLength) (UInt64.toNat_lt _) _ _) _).trans ?_
  refine (applyRules_key hdirectory (directory_written ?untouched _) _).trans ?_
  case untouched => rfl
  refine (applyRules_key hfile (unlessBlank_written h.logFile _ _) _).trans ?_
  simp only [applyRules, UInt64.ofNat_toNat, UInt32.ofNat_toNat, onFabric, onStreaming, onEmitter]
  rw [← hfabricEndpoint, ← hstreamingEndpoint]

/-! ## The file -/

/-- The values that the file has. -/
def values (s : Settings) : List String := s.lines.filterMap Ini.Line.value?

/-- The values of the file are read as they are written. -/
def Verbatim (s : Settings) : Prop := ∀ value ∈ s.values, Ini.IsVerbatim value

instance : DecidablePred Verbatim := fun s =>
  inferInstanceAs (Decidable (∀ value ∈ s.values, Ini.IsVerbatim value))

/-- All settings are written on the same lines, but for the values. -/
theorem map_form_lines (s t : Settings) : s.lines.map Ini.Line.form = t.lines.map Ini.Line.form :=
  rfl

theorem isPlain_lines (s : Settings) : ∀ l ∈ s.lines, l.IsPlain := by
  simp only [lines, WorkerSettings.lines, List.forall_mem_append, List.forall_mem_cons,
    List.not_mem_nil, Ini.Line.IsPlain, Ini.IsName, false_implies, implies_true]
  -- The characters of the names and the comments are spelled out for the kernel.
  repeat rw [String.toList_ofList]
  and_intros <;> decide +kernel

/-- No mark stands before a file that was written. -/
theorem withoutMark_toIni (s : Settings) :
    withoutMark (Text.utf8 s.toIni) = Text.utf8 s.toIni := by
  obtain ⟨rest, hrest⟩ : ∃ rest, s.toIni = "[" ++ rest := by
    rw [toIni, Ini.render, lines]
    simp only [List.cons_append, List.map_cons, String.join_cons, Ini.Line.text,
      String.append_assoc]
    exact ⟨_, rfl⟩
  have hoctets : Text.utf8 s.toIni = 0x5B :: Text.utf8 rest := by
    rw [hrest, Text.utf8_append]
    rfl
  rw [hoctets]
  rfl

/-- The file gives the settings of the document with the values that its values are read as. -/
theorem ofOctets_eq_ofDocument (hvalues : List.Forall₂ Ini.ReadsAs s.values t.values) :
    ofOctets home (Text.utf8 s.toIni) = ofDocument home t.document := by
  have hlines : List.Forall₂ Ini.Line.ReadsAs s.lines t.lines :=
    Ini.forall₂_readsAs (isPlain_lines s) (map_form_lines s t) hvalues
  rw [ofOctets, withoutMark_toIni, Text.ofUtf8?_utf8]
  simp only [toIni, Ini.ofText_render hlines, documentOf_lines]

/-- The file gives the settings with the values that its values are read as, but perhaps for the log
directory. -/
theorem ofOctets_toIni (h : t.WellFormed) (hvalues : List.Forall₂ Ini.ReadsAs s.values t.values) :
    ofOctets home (Text.utf8 s.toIni) =
      .ok { t with logDirectory := reopened home t.logDirectory } := by
  rw [ofOctets_eq_ofDocument hvalues]
  exact ofDocument_of_found h (found_document t)

theorem Verbatim.forall₂_readsAs (h : s.Verbatim) : List.Forall₂ Ini.ReadsAs s.values s.values :=
  List.forall₂_same.mpr fun value hvalue => (h value hvalue).readsAs

end Settings

end ControlPlane
