import ControlPlane.Proofs.Config.Reopening

/-!
# Loaded settings that are saved and loaded again

They come back only if their values are read as they are written. A file may give values that are
not: it may quote them or spell their characters by escapes, and both are gone when the value is
written.

## Main statements

- `Settings.reload_of_load`: what becomes of loaded settings that are saved and loaded again.
- `Settings.reload_escaped`: a path with backslashes that is another one then.
-/

namespace ControlPlane

namespace Settings

variable {s : Settings} {home : Option Path}

theorem reopened_of_settled {directory : Path} (h : Settled home directory)
    (htrimmed : Text.trim directory.text.toList = directory.text.toList) :
    reopened home directory = directory := by
  have hstands : Stands directory.text := stands_iff.mpr ⟨h.1, htrimmed⟩
  rw [reopened, hstands]
  exact h.2

theorem logDirectory_mem_values (s : Settings) : s.logDirectory.text ∈ s.values :=
  List.mem_filterMap.mpr ⟨.entry "directory" s.logDirectory.text, by simp [lines], rfl⟩

/-- Loaded settings whose values are read as they are written come back when they are saved and
loaded again, but perhaps for the log directory. It comes back as well below a home directory with
an absolute path that is a text, and if no home directory is known. -/
theorem reload_of_load {content : Option (Except SystemError (List UInt8))}
    (h : load home content = .ok s) (hvalues : s.Verbatim) :
    load home (some (.ok (Text.utf8 s.toIni))) =
        .ok { s with logDirectory := reopened home s.logDirectory } ∧
      ((∀ h ∈ home, h.isAbsolute = true ∧ h.IsText) →
        load home (some (.ok (Text.utf8 s.toIni))) = .ok s) := by
  obtain ⟨document, hdocument⟩ := exists_document_of_load h
  have hreload : load home (some (.ok (Text.utf8 s.toIni))) =
      .ok { s with logDirectory := reopened home s.logDirectory } := by
    rw [load]
    exact ofOctets_toIni (wellFormed_of_ofDocument hdocument) hvalues.forall₂_readsAs
  refine ⟨hreload, fun hhome => ?_⟩
  have htrimmed := (hvalues s.logDirectory.text (logDirectory_mem_values s)).trimmed
  rw [hreload, reopened_of_settled (settled_of_ofDocument hhome hdocument) htrimmed]

/-- A file with a value in quotation marks and a directory below the home directory comes back. -/
theorem reload_quoted :
    let home := some (Path.ofText "/home/sonata")
    let file := "[fm_conf]\ncommand = \"/opt/fabric manager\"\n[logging]\ndirectory = ~/logs\n"
    ∃ s, load home (some (.ok (Text.utf8 file))) = .ok s ∧ s.Verbatim ∧
      (∀ h ∈ home, h.isAbsolute = true ∧ h.IsText) ∧
      load home (some (.ok (Text.utf8 s.toIni))) = .ok s := by
  intro home file
  let s : Settings := { standard home with
    fabricManager := { endpoint := some fabricAddress, command := some "/opt/fabric manager" }
    logDirectory := .ofText "/home/sonata/logs" }
  have hload : load home (some (.ok (Text.utf8 file))) = .ok s := by decide +kernel
  have hvalues : s.Verbatim := by decide +kernel
  have hhome : ∀ h ∈ home, h.isAbsolute = true ∧ h.IsText := by
    intro h hmem
    obtain rfl : Path.ofText "/home/sonata" = h := Option.some.inj hmem
    exact ⟨by decide +kernel, Path.isText_ofText _⟩
  exact ⟨s, hload, hvalues, hhome, (reload_of_load hload hvalues).2 hhome⟩

/-- Behind a backslash, a `t` is a tabulator and an `f` is an `f`. -/
theorem readsAs_backslashes : Ini.ReadsAs "C:\\tools\\fm" "C:\toolsfm" := by
  refine Ini.readsAs_of_scan ?_ (fun _ => rfl) (by decide +kernel)
  intro c hc
  obtain rfl : 'C' = c := Option.some.inj hc
  decide

/-- A command with escaped backslashes is another one after it was loaded, saved and loaded
again. -/
theorem reload_escaped :
    let home := some (Path.ofText "/home/sonata")
    let file := "[fm_conf]\ncommand = C:\\\\tools\\\\fm\n"
    ∃ s t, load home (some (.ok (Text.utf8 file))) = .ok s ∧
      load home (some (.ok (Text.utf8 s.toIni))) = .ok t ∧ s.same t = false ∧
      s.fabricManager.command = some "C:\\tools\\fm" ∧
      t.fabricManager.command = some "C:\toolsfm" := by
  intro home file
  let s : Settings := { standard home with
    fabricManager := { endpoint := some fabricAddress, command := some "C:\\tools\\fm" } }
  let t : Settings := { standard home with
    fabricManager := { endpoint := some fabricAddress, command := some "C:\toolsfm" } }
  have hload : load home (some (.ok (Text.utf8 file))) = .ok s := by decide +kernel
  have ht : t.WellFormed :=
    { shaped_standard home with
      fabricManager := { wellFormed_worker (by decide +kernel : Stands fabricAddress) with
        command := by rintro _ ⟨⟩; decide +kernel }
      fabricEndpoint := rfl
      ordered := (by decide : UInt64.ofNat RetryPolicy.standard.initial.millis ≤
        UInt64.ofNat RetryPolicy.standard.longest.millis) }
  -- But for the command, the values are read as they are written.
  have hvalues : List.Forall₂ (fun v w => v = w ∧ Ini.IsVerbatim v ∨
      v = "C:\\tools\\fm" ∧ w = "C:\toolsfm") s.values t.values := by
    decide +kernel
  have hreads : List.Forall₂ Ini.ReadsAs s.values t.values :=
    hvalues.imp fun v w h => by
      rcases h with ⟨rfl, hverbatim⟩ | ⟨rfl, rfl⟩
      · exact hverbatim.readsAs
      · exact readsAs_backslashes
  have hdirectory : reopened home t.logDirectory = t.logDirectory := by decide +kernel
  have hreload : load home (some (.ok (Text.utf8 s.toIni))) = .ok t := by
    rw [load, ofOctets_toIni ht hreads, hdirectory]
  exact ⟨s, t, hload, hreload, by decide +kernel, rfl, rfl⟩

end Settings

end ControlPlane
