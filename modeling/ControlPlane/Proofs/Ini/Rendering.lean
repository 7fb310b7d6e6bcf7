import ControlPlane.Ini.Reader
import ControlPlane.Proofs.Text.Blanks

/-!
# Reading what was written

A document that is written line by line is read line by line, as long as no value goes on behind the
end of its line. What a value is read as is up to its characters: a value that begins with a
quotation mark, or that has a backslash in it, is read as another one.

## Main definitions

- `Ini.ReadsAs`, `Ini.Line.ReadsAs`: what a written value and a written line are read as.
- `Ini.IsVerbatim`: values without anything that has a meaning of its own.
- `Ini.documentOf`: the document that lines hold.

## Main statements

- `Ini.ofText_render`: the text of lines has the document that the lines hold as they are read.
- `Ini.IsVerbatim.readsAs`: a value without anything special is read as it is written.
-/

namespace ControlPlane.Ini

/-- Whether a character means nothing to the reader where a name stands. -/
def isNameChar (c : Char) : Bool :=
  !Text.isBlank c && !(['\\', '[', ']', ';', '#', '=', ':'].contains c)

/-- A name of a section or a key without escapes. -/
def IsName (name : String) : Prop :=
  name.toList ≠ [] ∧ name.toList.all isNameChar = true

instance : DecidablePred IsName := fun _ => inferInstanceAs (Decidable (_ ∧ _))

/-- A value that is read as it is written. -/
structure IsVerbatim (value : String) : Prop where
  trimmed : Text.trim value.toList = value.toList
  plain : ∀ c ∈ value.toList, c ≠ '\\' ∧ isBreak c = false
  unquoted : ∀ c ∈ value.toList.head?, c ≠ '"' ∧ c ≠ '\''

instance : DecidablePred IsVerbatim := fun value =>
  -- The characters of the value are gone through, not all characters.
  letI : Decidable (∀ c ∈ value.toList, c ≠ '\\' ∧ isBreak c = false) := List.decidableBAll _ _
  letI : Decidable (∀ c ∈ value.toList.head?, c ≠ '"' ∧ c ≠ '\'') := Option.decidableForallMem _
  decidable_of_iff (Text.trim value.toList = value.toList ∧
      (∀ c ∈ value.toList, c ≠ '\\' ∧ isBreak c = false) ∧
      ∀ c ∈ value.toList.head?, c ≠ '"' ∧ c ≠ '\'')
    ⟨fun ⟨h₁, h₂, h₃⟩ => ⟨h₁, h₂, h₃⟩, fun h => ⟨h.trimmed, h.plain, h.unquoted⟩⟩

/-- The value of a line. -/
def Line.value? : Line → Option String
  | .entry _ value => some value
  | _ => none

/-- What a value is read as that stands behind its key up to the end of the line. -/
def ReadsAs (written value : String) : Prop :=
  ∀ p rest, readEntry p (' ' :: (written.toList ++ '\n' :: rest)) =
    .ok ⟨⟨p.document.add (String.ofList p.key) value, []⟩, false, '\n' :: rest⟩

/-- A line whose name, comment or key means what it says. -/
def Line.IsPlain : Line → Prop
  | .header name => IsName name
  | .comment text => '\n' ∉ text.toList
  | .entry key _ => IsName key
  | .blank => True

instance : DecidablePred Line.IsPlain
  | .header name => inferInstanceAs (Decidable (IsName name))
  | .comment text => inferInstanceAs (Decidable ('\n' ∉ text.toList))
  | .entry key _ => inferInstanceAs (Decidable (IsName key))
  | .blank => inferInstanceAs (Decidable True)

/-- What a line is read as. -/
inductive Line.ReadsAs : Line → Line → Prop
  | plain {l : Line} (h : l.IsPlain) (hvalue : l.value? = none) : ReadsAs l l
  | entry {key written value : String} (hkey : IsName key) (hvalue : Ini.ReadsAs written value) :
    ReadsAs (.entry key written) (.entry key value)

/-- The document with what a line adds to it. -/
def Document.write (d : Document) : Line → Document
  | .header name => d.openSection name
  | .entry key value => d.add key value
  | .comment _ | .blank => d

/-- The document that lines hold. -/
def documentOf (lines : List Line) : Document := lines.foldl Document.write []

/-- The characters of a line and of its end. -/
def Line.chars (l : Line) : List Char := l.text.toList ++ ['\n']

variable {ending : Ending} {p : Progress} {fresh : Bool} {c : Char} {run rest : List Char}
  {d : Document} {lines : List Line}

theorem toList_render (lines : List Line) : (render lines).toList = lines.flatMap Line.chars := by
  rw [render, String.toList_join, List.flatMap_map]
  exact List.flatMap_congr fun l _ => String.toList_append

/-! ## Parts of a line -/

/-- Characters without a meaning of their own are taken up to the ending. -/
theorem scan_plain (hrun : ∀ c ∈ run, ending.stops c = false ∧ c ≠ '\\')
    (hstop : ending.stops c = true) (taken : List Char) :
    scan ending .plain taken (run ++ c :: rest) = .ok (taken.reverse ++ run, c :: rest) := by
  induction run generalizing taken with
  | nil => rw [List.nil_append, scan, if_pos hstop, List.append_nil]
  | cons a run ih =>
    obtain ⟨⟨hgoes, hslash⟩, hrest⟩ := List.forall_mem_cons.mp hrun
    rw [List.cons_append, scan, if_neg (by simp [hgoes]), if_neg (by simpa using hslash), ih hrest,
      List.reverse_cons, List.append_assoc, List.singleton_append]

namespace IsName

variable {name : String} (h : IsName name)

include h

theorem isNameChar_of_mem : ∀ c ∈ name.toList, isNameChar c = true := List.all_eq_true.mp h.2

/-- A name is taken as it is up to its ending. -/
theorem scan_name (hending : ending = .header ∨ ending = .key) :
    ∀ c ∈ name.toList, ending.stops c = false ∧ c ≠ '\\' := by
  intro c hc
  have hchar := h.isNameChar_of_mem c hc
  rcases hending with rfl | rfl
  · simp [isNameChar, Ending.stops] at hchar ⊢
    tauto
  · simp [isNameChar, Ending.stops] at hchar ⊢
    tauto

theorem isBlank_eq_false : ∀ c ∈ name.toList, Text.isBlank c = false := by
  intro c hc
  have hchar := h.isNameChar_of_mem c hc
  rw [isNameChar, Bool.and_eq_true_iff, Bool.not_eq_true'] at hchar
  exact hchar.1

end IsName

theorem isSpace_eq_false (h : Text.isBlank c = false) : isSpace c = false := by
  rw [isSpace, Bool.or_eq_false_iff, beq_eq_false_iff_ne, beq_eq_false_iff_ne]
  constructor <;> rintro rfl <;> exact absurd h (by decide)

theorem isBreak_eq_false (h : Text.isBlank c = false) : isBreak c = false := by
  rw [isBreak, Bool.or_eq_false_iff, beq_eq_false_iff_ne, beq_eq_false_iff_ne]
  constructor <;> rintro rfl <;> exact absurd h (by decide)

/-! ## Lines as characters -/

namespace Line

theorem chars_header (name : String) :
    (header name).chars = '[' :: (name.toList ++ [']', '\n']) := by
  simp [chars, text]

theorem chars_comment (content : String) :
    (comment content).chars = ';' :: ' ' :: (content.toList ++ ['\n']) := by
  simp [chars, text]

theorem chars_entry (key value : String) :
    (entry key value).chars = key.toList ++ ' ' :: '=' :: ' ' :: (value.toList ++ ['\n']) := by
  simp [chars, text]

theorem chars_blank : blank.chars = ['\n'] := rfl

/-- A line begins with no blank, unless it is empty. -/
theorem IsPlain.chars_eq_cons {l : Line} (h : l.IsPlain) (hne : l ≠ .blank) :
    ∃ c rest, l.chars = c :: rest ∧ Text.isBlank c = false := by
  cases l with
  | header name => exact ⟨_, _, chars_header name, by decide⟩
  | comment text => exact ⟨_, _, chars_comment text, by decide⟩
  | entry key value =>
    have hname : IsName key := h
    obtain ⟨c, rest, hkey⟩ := List.exists_cons_of_ne_nil hname.1
    refine ⟨c, rest ++ ' ' :: '=' :: ' ' :: (value.toList ++ ['\n']), ?_, ?_⟩
    · rw [chars_entry, hkey]
      rfl
    · exact hname.isBlank_eq_false c (hkey ▸ List.mem_cons_self)
  | blank => exact absurd rfl hne

end Line

/-! ## Blanks between lines -/

/-- The characters of lines, from the first line on that is not empty. -/
def charsOf (lines : List Line) : List Char := (lines.dropWhile (· = .blank)).flatMap Line.chars

theorem charsOf_blank (lines : List Line) : charsOf (.blank :: lines) = charsOf lines := by
  rw [charsOf, List.dropWhile_cons_of_pos (by simp), charsOf]

theorem charsOf_cons {l : Line} (h : l ≠ .blank) (lines : List Line) :
    charsOf (l :: lines) = l.chars ++ lines.flatMap Line.chars := by
  rw [charsOf, List.dropWhile_cons_of_neg (by simpa using h), List.flatMap_cons]

theorem skipBlanks_of_not_isBlank (h : Text.isBlank c = false) (fresh : Bool) (rest : List Char) :
    skipBlanks fresh (c :: rest) = (fresh, c :: rest) := by
  rw [skipBlanks.eq_def]
  simp only [isBreak_eq_false h, h, Bool.false_eq_true, if_false]

/-- Behind the end of a line the reader passes over the lines that are empty. -/
theorem skipBlanks_newline (h : ∀ l ∈ lines, l.IsPlain) (fresh : Bool) :
    skipBlanks fresh ('\n' :: lines.flatMap Line.chars) =
      (true, charsOf lines) := by
  induction lines generalizing fresh with
  | nil => rfl
  | cons l lines ih =>
    obtain ⟨hl, hlines⟩ := List.forall_mem_cons.mp h
    by_cases hblank : l = .blank
    · subst hblank
      rw [charsOf_blank, List.flatMap_cons, Line.chars_blank, skipBlanks.eq_def]
      exact ih hlines true
    · obtain ⟨c, rest, hchars, hc⟩ := hl.chars_eq_cons hblank
      rw [charsOf_cons hblank, List.flatMap_cons, hchars, List.cons_append, skipBlanks.eq_def]
      simp only [isBreak, beq_self_eq_true, Bool.true_or, if_true, isSpace_eq_false hc,
        Bool.false_eq_true, if_false]
      exact skipBlanks_of_not_isBlank hc true _

/-- At the start of a line the reader does the same. -/
theorem skipBlanks_lines (h : ∀ l ∈ lines, l.IsPlain) :
    skipBlanks true (lines.flatMap Line.chars) = (true, charsOf lines) := by
  cases lines with
  | nil => rfl
  | cons l lines =>
    obtain ⟨hl, hlines⟩ := List.forall_mem_cons.mp h
    by_cases hblank : l = .blank
    · subst hblank
      rw [charsOf_blank]
      exact skipBlanks_newline hlines true
    · obtain ⟨c, rest, hchars, hc⟩ := hl.chars_eq_cons hblank
      rw [charsOf_cons hblank, List.flatMap_cons, hchars]
      exact skipBlanks_of_not_isBlank hc true _

/-! ## Elements -/

theorem readHeader_line {name : String} (h : IsName name) (p : Progress) (rest : List Char) :
    readHeader p (name.toList ++ ']' :: rest) =
      .ok ⟨{ p with document := p.document.openSection name }, false, rest⟩ := by
  have hscan : scan .header .plain [] (name.toList ++ ']' :: rest) =
      .ok (name.toList, ']' :: rest) := scan_plain (h.scan_name (.inl rfl)) rfl []
  simp only [readHeader, hscan, Text.trim_of_forall h.isBlank_eq_false, String.ofList_toList]
  rfl

theorem afterLine_text {content : List Char} (h : '\n' ∉ content) (rest : List Char) :
    afterLine (content ++ '\n' :: rest) = rest := by
  have hdrop : (content ++ '\n' :: rest).dropWhile (· != '\n') = '\n' :: rest := by
    rw [List.dropWhile_append_of_pos fun c hc => ?_]
    · rfl
    · rw [bne_iff_ne]
      rintro rfl
      exact h hc
  rw [afterLine, hdrop]
  rfl

theorem readKey_line {key : String} (h : IsName key) (p : Progress) (rest : List Char) :
    readKey p (key.toList ++ ' ' :: '=' :: rest) =
      .ok ⟨{ p with key := key.toList }, false, '=' :: rest⟩ := by
  have hrun : ∀ c ∈ key.toList ++ [' '], Ending.key.stops c = false ∧ c ≠ '\\' := by
    intro c hc
    rcases List.mem_append.mp hc with hc | hc
    · exact h.scan_name (.inr rfl) c hc
    · rw [List.mem_singleton.mp hc]
      decide
  have hscan : scan .key .plain [] (key.toList ++ [' '] ++ '=' :: rest) =
      .ok (key.toList ++ [' '], '=' :: rest) := scan_plain hrun rfl []
  rw [List.append_assoc, List.singleton_append] at hscan
  have htrim : Text.trim (key.toList ++ [' ']) = key.toList :=
    Text.trim_concat_of_isWord ⟨h.1, h.isBlank_eq_false⟩ (by decide)
  simp only [readKey, hscan, htrim]

/-- A line that begins with a name begins with a key. -/
theorem readElement_key {key : String} (h : IsName key) (p : Progress) (fresh : Bool)
    (rest : List Char) :
    ∃ c tail, key.toList = c :: tail ∧ Text.isBlank c = false ∧
      readElement p fresh c (tail ++ ' ' :: '=' :: rest) =
        .ok ⟨{ p with key := key.toList }, false, '=' :: rest⟩ := by
  obtain ⟨c, tail, hkey⟩ := List.exists_cons_of_ne_nil h.1
  have hmem : c ∈ key.toList := hkey ▸ List.mem_cons_self
  have hblank : Text.isBlank c = false := h.isBlank_eq_false c hmem
  refine ⟨c, tail, hkey, hblank, ?_⟩
  have hread := readKey_line h p rest
  rw [hkey, List.cons_append] at hread
  have hchar := h.isNameChar_of_mem c hmem
  simp only [isNameChar, Bool.and_eq_true, Bool.not_eq_true', List.contains_eq_mem,
    decide_eq_false_iff_not, List.mem_cons, List.not_mem_nil, or_false, not_or] at hchar
  obtain ⟨-, -, hopen, -, hsemicolon, hhash, hequals, hcolon⟩ := hchar
  simp only [readElement, beq_iff_eq, hopen, hsemicolon, hhash, hequals, hcolon,
    isBreak_eq_false hblank, Bool.or_eq_true, or_self, if_false, Bool.false_eq_true]
  rw [hread, hkey]

/-- A value that is not quoted is read as the characters that are taken from its line. -/
theorem readsAs_of_scan {written value : String}
    (hhead : ∀ c ∈ written.toList.head?, Text.isBlank c = false ∧ c ≠ '"' ∧ c ≠ '\'')
    (hscan : ∀ rest, scan .line .plain [] (written.toList ++ '\n' :: rest) =
      .ok (value.toList, '\n' :: rest))
    (htrim : Text.trim value.toList = value.toList) : ReadsAs written value := by
  intro p rest
  obtain ⟨c, tail, htext, hquote, hblank⟩ : ∃ c tail, written.toList ++ '\n' :: rest = c :: tail ∧
      ¬(c == '"' || c == '\'') = true ∧ ¬(Text.isBlank c && !isBreak c) = true := by
    cases hwritten : written.toList with
    | nil => exact ⟨_, _, rfl, by decide, by decide⟩
    | cons a l =>
      obtain ⟨ha, hdouble, hsingle⟩ := hhead a (by rw [hwritten]; rfl)
      exact ⟨_, _, rfl, by simp [hdouble, hsingle], by simp [ha]⟩
  have hdrop : (' ' :: (written.toList ++ '\n' :: rest)).dropWhile
      (fun c => Text.isBlank c && !isBreak c) = written.toList ++ '\n' :: rest := by
    rw [List.dropWhile_cons_of_pos (by decide), htext]
    exact List.dropWhile_cons_of_neg hblank
  have hvalue : readValue [] true (written.toList ++ '\n' :: rest) =
      .ok (value.toList, '\n' :: rest) := by
    have hscan := hscan rest
    rw [htext] at hscan ⊢
    rw [readValue, if_neg hquote, hscan]
    simp only [if_true, List.nil_append, htrim]
  simp only [readEntry, hdrop, hvalue, String.ofList_toList]

/-- A value without anything special is read as it is written. -/
theorem IsVerbatim.readsAs {value : String} (h : IsVerbatim value) : ReadsAs value value := by
  have hrun : ∀ c ∈ value.toList, Ending.line.stops c = false ∧ c ≠ '\\' :=
    fun c hc => ⟨(h.plain c hc).2, (h.plain c hc).1⟩
  refine readsAs_of_scan (fun c hc => ⟨?_, h.unquoted c hc⟩) (fun rest => ?_) h.trimmed
  · exact (Text.trim_eq_self_iff.mp h.trimmed).1 c hc
  · exact scan_plain hrun rfl []

/-! ## Whole documents -/

/-- The reader goes on behind an element and the blanks that follow it. -/
theorem readFrom_element {e : Element} (hc : isSpace c = false)
    (h : readElement p fresh c rest = .ok e) :
    readFrom p fresh (c :: rest) = readFrom e.skip.progress e.skip.fresh e.skip.rest := by
  have hnext : readNext p fresh c rest = .ok e.skip := by
    rw [readNext, hc, if_neg (by decide), h]
    rfl
  rw [readFrom]
  split
  · next hf => rw [hnext] at hf; cases hf
  · next he => rw [hnext] at he; cases he; rfl

section

variable (h : ∀ l ∈ lines, l.IsPlain)

include h

theorem readFrom_header {name : String} (hname : IsName name) (d : Document) :
    readFrom ⟨d, []⟩ true ((Line.header name).chars ++ lines.flatMap Line.chars) =
      readFrom ⟨d.openSection name, []⟩ true (charsOf lines) := by
  have helement : readElement ⟨d, []⟩ true '['
      (name.toList ++ ']' :: '\n' :: lines.flatMap Line.chars) =
        .ok ⟨⟨d.openSection name, []⟩, false, '\n' :: lines.flatMap Line.chars⟩ :=
    readHeader_line hname ⟨d, []⟩ _
  rw [Line.chars_header, List.cons_append, List.append_assoc]
  exact (readFrom_element (by decide) helement).trans (by rw [Element.skip, skipBlanks_newline h])

theorem readFrom_comment {content : String} (hcontent : '\n' ∉ content.toList) (d : Document) :
    readFrom ⟨d, []⟩ true ((Line.comment content).chars ++ lines.flatMap Line.chars) =
      readFrom ⟨d, []⟩ true (charsOf lines) := by
  have hline : afterLine (' ' :: content.toList ++ '\n' :: lines.flatMap Line.chars) =
      lines.flatMap Line.chars := afterLine_text (by simpa using hcontent) _
  have helement : readElement ⟨d, []⟩ true ';'
      (' ' :: content.toList ++ '\n' :: lines.flatMap Line.chars) =
        .ok ⟨⟨d, []⟩, true, lines.flatMap Line.chars⟩ := by
    simp only [readElement, hline]
    rfl
  rw [Line.chars_comment, List.cons_append, List.cons_append, List.append_assoc]
  exact (readFrom_element (by decide) helement).trans (by rw [Element.skip, skipBlanks_lines h])

theorem readFrom_entry {key written value : String} (hkey : IsName key)
    (hvalue : ReadsAs written value) (d : Document) :
    readFrom ⟨d, []⟩ true ((Line.entry key written).chars ++ lines.flatMap Line.chars) =
      readFrom ⟨d.add key value, []⟩ true (charsOf lines) := by
  -- A key and its value are two elements, and the key waits in between.
  let behind := ' ' :: (written.toList ++ '\n' :: lines.flatMap Line.chars)
  have hkeyElement := readElement_key hkey ⟨d, []⟩ true behind
  have hvalueElement : readElement ⟨d, key.toList⟩ false '=' behind =
      .ok ⟨⟨d.add key value, []⟩, false, '\n' :: lines.flatMap Line.chars⟩ := by
    have hentry := hvalue ⟨d, key.toList⟩ (lines.flatMap Line.chars)
    rw [String.ofList_toList] at hentry
    have hempty : ¬key.toList.isEmpty = true := by simpa using hkey.1
    rw [readElement, if_neg (by decide), if_neg (by decide), if_pos (by decide), if_neg hempty]
    exact hentry
  obtain ⟨c, tail, hcons, hc, helement⟩ := hkeyElement
  have hchars : (Line.entry key written).chars ++ lines.flatMap Line.chars =
      c :: (tail ++ ' ' :: '=' :: behind) := by
    rw [Line.chars_entry, hcons]
    simp [behind]
  rw [hchars, readFrom_element (isSpace_eq_false hc) helement, Element.skip,
    skipBlanks_of_not_isBlank (by decide), readFrom_element (by decide) hvalueElement,
    Element.skip, skipBlanks_newline h]

end

theorem Line.ReadsAs.isPlain {l m : Line} (h : l.ReadsAs m) : l.IsPlain := by
  cases h with
  | plain h => exact h
  | entry hkey => exact hkey

theorem isPlain_of_forall₂ {read : List Line} (h : List.Forall₂ Line.ReadsAs lines read) :
    ∀ l ∈ lines, l.IsPlain := by
  induction h with
  | nil => exact fun _ hl => absurd hl List.not_mem_nil
  | cons hline _ ih => exact List.forall_mem_cons.mpr ⟨hline.isPlain, ih⟩

/-- Line by line, the reader takes what the lines hold. -/
theorem readFrom_lines {read : List Line} (h : List.Forall₂ Line.ReadsAs lines read)
    (d : Document) :
    readFrom ⟨d, []⟩ true (charsOf lines) = .ok (read.foldl Document.write d) := by
  -- Every line leaves the reader at the next line that is not empty, with no key that waits.
  induction h generalizing d with
  | nil => rw [charsOf, List.dropWhile_nil, List.flatMap_nil, readFrom, List.foldl_nil]
  | @cons l m lines read hline hlines ih =>
    have hplain := isPlain_of_forall₂ hlines
    cases hline with
    | plain hl hvalue =>
      cases l with
      | blank =>
        rw [charsOf_blank]
        exact ih d
      | header name =>
        rw [charsOf_cons (by simp), readFrom_header hplain hl]
        exact ih _
      | comment content =>
        rw [charsOf_cons (by simp), readFrom_comment hplain hl]
        exact ih d
      | entry key value => cases hvalue
    | entry hkey hvalue =>
      rw [charsOf_cons (by simp), readFrom_entry hplain hkey hvalue]
      exact ih _

/-- The text of lines has the document that the lines hold as they are read. -/
theorem ofText_render {read : List Line} (h : List.Forall₂ Line.ReadsAs lines read) :
    ofText (render lines).toList = .ok (documentOf read) := by
  have hplain := isPlain_of_forall₂ h
  have hstart : readFrom {} true (lines.flatMap Line.chars) = readFrom {} true (charsOf lines) := by
    cases lines with
    | nil => rfl
    | cons l lines =>
      by_cases hblank : l = .blank
      · subst hblank
        -- The end of an empty first line is an element of its own.
        have helement : readElement {} true '\n' (lines.flatMap Line.chars) =
            .ok ⟨{}, true, lines.flatMap Line.chars⟩ := rfl
        rw [charsOf_blank, List.flatMap_cons, Line.chars_blank, List.singleton_append,
          readFrom_element (by decide) helement, Element.skip,
          skipBlanks_lines (List.forall_mem_cons.mp hplain).2]
      · rw [charsOf_cons hblank, List.flatMap_cons]
  rw [ofText, toList_render, hstart, readFrom_lines h []]
  rfl

/-! ## Lines with other values -/

/-- A line without its value. -/
def Line.form : Line → Line
  | .entry key _ => .entry key ""
  | l => l

theorem Line.form_eq_form {l m : Line} (h : l.form = m.form) :
    (l.value? = none ∧ m = l) ∨
      ∃ key written value, l = .entry key written ∧ m = .entry key value := by
  cases l <;> cases m <;> simp_all [form, value?]

/-- Lines are read as the same lines with the values that theirs are read as. -/
theorem forall₂_readsAs {read : List Line} (hplain : ∀ l ∈ lines, l.IsPlain)
    (hform : lines.map Line.form = read.map Line.form)
    (hvalues : List.Forall₂ ReadsAs (lines.filterMap Line.value?) (read.filterMap Line.value?)) :
    List.Forall₂ Line.ReadsAs lines read := by
  induction lines generalizing read with
  | nil =>
    rw [List.map_eq_nil_iff.mp hform.symm]
    exact .nil
  | cons l lines ih =>
    obtain ⟨m, read, rfl, hhead, htail⟩ := List.map_eq_cons_iff.mp hform.symm
    obtain ⟨hl, hlines⟩ := List.forall_mem_cons.mp hplain
    rcases Line.form_eq_form hhead.symm with ⟨hnone, rfl⟩ | ⟨key, written, value, rfl, rfl⟩
    · rw [List.filterMap_cons_none hnone, List.filterMap_cons_none hnone] at hvalues
      exact .cons (.plain hl hnone) (ih hlines htail.symm hvalues)
    · simp only [List.filterMap_cons, Line.value?] at hvalues
      obtain ⟨hvalue, hvalues⟩ := List.forall₂_cons.mp hvalues
      exact .cons (.entry hl hvalue) (ih hlines htail.symm hvalues)

end ControlPlane.Ini
