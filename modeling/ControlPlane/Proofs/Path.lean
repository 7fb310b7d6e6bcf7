import ControlPlane.Path
import ControlPlane.Proofs.Text.Lossy

/-!
# Paths that are texts

## Main definitions

- `Path.IsText`: a path that some text spells.

## Main statements

- `Path.isText_iff`: a path is what its own text spells if and only if any text spells it.
- `Path.IsText.join`, `Path.isAbsolute_join`: paths from others of their kind.
- `Path.expandHome_eq`, `Path.expandHome_text`: what is not expanded.
-/

namespace ControlPlane.Path

variable {path base next : Path}

/-- A path that some text spells. -/
def IsText (path : Path) : Prop := ∃ text, path = ofText text

theorem text_ofText (text : String) : (ofText text).text = text := Text.lossy_utf8 text

theorem isText_ofText (text : String) : (ofText text).IsText := ⟨text, rfl⟩

theorem isText_iff : path.IsText ↔ ofText path.text = path := by
  refine ⟨?_, fun h => ⟨path.text, h.symm⟩⟩
  rintro ⟨text, rfl⟩
  rw [text_ofText]

instance : DecidablePred IsText := fun _ => decidable_of_iff _ isText_iff.symm

theorem ofText_append (s t : String) : ofText (s ++ t) = ⟨(ofText s).octets ++ (ofText t).octets⟩ :=
  congrArg Path.mk (Text.utf8_append s t)

theorem IsText.join (hbase : base.IsText) (hnext : next.IsText) : (base.join next).IsText := by
  obtain ⟨b, rfl⟩ := hbase
  obtain ⟨n, rfl⟩ := hnext
  rw [Path.join]
  split
  · exact isText_ofText n
  · split
    · exact ⟨b ++ n, (ofText_append b n).symm⟩
    · refine ⟨b ++ ("/" ++ n), ?_⟩
      rw [ofText_append, ofText_append]
      rfl

theorem isAbsolute_iff : path.isAbsolute = true ↔ ∃ rest, path.octets = slash :: rest := by
  rw [isAbsolute, beq_iff_eq, List.head?_eq_some_iff]

theorem isAbsolute_join (h : base.isAbsolute = true) : (base.join next).isAbsolute = true := by
  obtain ⟨rest, hbase⟩ := isAbsolute_iff.mp h
  rw [Path.join]
  split
  · assumption
  · split <;> exact isAbsolute_iff.mpr ⟨_, by rw [hbase, List.cons_append]⟩

/-- A text that does not begin below the home directory is taken as it is. -/
theorem expandHome_eq {home : Option Path} {text : String} (h : ¬['~', '/'] <+: text.toList) :
    expandHome home text = ofText text := by
  unfold expandHome
  split
  · next rest htext => exact absurd ⟨rest, htext.symm⟩ h
  · rfl

theorem expandHome_text {home : Option Path} (htext : path.IsText) (h : path.isAbsolute = true) :
    expandHome home path.text = path := by
  rw [expandHome_eq, isText_iff.mp htext]
  -- A text that begins with a tilde spells no absolute path.
  rintro ⟨rest, hrest⟩
  obtain ⟨octets, hoctets⟩ := isAbsolute_iff.mp h
  rw [← isText_iff.mp htext, ofText, ← String.ofList_toList (s := path.text), ← hrest,
    List.cons_append, Text.utf8_ofList_cons] at hoctets
  cases hoctets

end ControlPlane.Path
