import ControlPlane.Ini.Basic
import ControlPlane.Text.Blank
import ControlPlane.Text.Quoted

/-!
# Reading configuration documents

The text is read character by character. Keys, section names and values may contain escapes, values
may be quoted in parts, and a comment stands on a line of its own.

## Main definitions

- `Ini.scan`: the characters up to an ending, with escapes resolved.
- `Ini.readValue`: a value.
- `Ini.readFrom`: the sections and entries of the rest of a text.
- `Ini.ofText`: the document of a text, or where and why it has none.

## Design notes

A fault carries the characters that were left when it arose, of which the first has been looked at.
Its line and column follow from that, so no function has to count.
-/

namespace ControlPlane.Ini

/-- What ends a run of characters. -/
inductive Ending
  /-- The end of a section's name. -/
  | header
  /-- The end of a key. -/
  | key
  /-- The end of a quoted part. -/
  | quote (mark : Char)
  /-- The end of a line or of the text. -/
  | line
deriving DecidableEq

namespace Ending

/-- Whether a character ends the run. -/
def stops : Ending → Char → Bool
  | .header, c => c == ']'
  | .key, c => c == '=' || c == ':'
  | .quote mark, c => c == mark
  | .line, c => c == '\n' || c == '\r'

/-- Whether the end of the text ends the run, too. -/
def stopsAtEnd : Ending → Bool
  | .line => true
  | _ => false

/-- How the endings of a run are shown in an error. -/
def text : Ending → String
  | .header => "[Some(']')]"
  | .key => "[Some('='), Some(':')]"
  | .quote mark => "[Some(" ++ Text.quotedChar mark ++ ")]"
  | .line => "[Some('\\n'), Some('\\r'), None]"

end Ending

/-- What is wrong with a text. -/
inductive Problem
  /-- The text ends inside a run of characters. -/
  | unfinished (ending : Ending)
  /-- A backslash among the digits of an escape does not end its line. -/
  | expectedLineEnd (found : Option Char)
  /-- The digits of an escape denote no character. -/
  | unknownCharacter
  /-- A comment stands behind something else. -/
  | inlineComment
  | missingKey
deriving DecidableEq

/-- How a character that may be missing is shown in an error. -/
def shown : Option Char → String
  | some c => "Some(" ++ Text.quotedChar c ++ ")"
  | none => "None"

/-- The text of a problem. -/
def Problem.text : Problem → String
  | .unfinished ending => "expecting \"" ++ ending.text ++ "\" but found EOF."
  | .expectedLineEnd found => "expecting \"\\\\n\" but found \"" ++ shown found ++ "\"."
  | .unknownCharacter => "unknown character in \\xHH form"
  | .inlineComment => "doesn't support inline comment"
  | .missingKey => "missing key"

/-- A problem, and what was left of the text when it arose. -/
structure Fault where
  problem : Problem
  rest : List Char
  /-- Whether what is left begins a line. -/
  fresh : Bool
deriving DecidableEq

/-- The character that a letter behind a backslash stands for. -/
def escape (c : Char) : Char :=
  if c == '0' then '\x00'
  else if c == 'a' then '\x07'
  else if c == 'b' then '\x08'
  else if c == 't' then '\t'
  else if c == 'r' then '\r'
  else if c == 'n' then '\n'
  else c

/-- The value of a hexadecimal digit. -/
def digit? (c : Char) : Option Nat :=
  if '0' ≤ c ∧ c ≤ '9' then some (c.toNat - '0'.toNat)
  else if 'a' ≤ c ∧ c ≤ 'f' then some (c.toNat - 'a'.toNat + 10)
  else if 'A' ≤ c ∧ c ≤ 'F' then some (c.toNat - 'A'.toNat + 10)
  else none

/-- The number that hexadecimal digits denote. -/
def hex? (digits : List Char) : Option Nat :=
  (digits.mapM digit?).map (List.foldl (fun n d => n * 16 + d) 0)

/-- The character that the four characters of an escape denote; the first may be a plus sign. -/
def codeChar? (code : List Char) : Option Char :=
  let number := match code with
    | '+' :: digits => hex? digits
    | _ => hex? code
  number.bind fun n => if h : n.isValidChar then some (Char.ofNatAux n h) else none

/-- What the characters read last are part of. -/
inductive Scanning
  | plain
  /-- A backslash has been read. -/
  | escape
  /-- An escape by number has begun; `code` are its characters so far, the last one first, and
  `fresh` says whether the line has just begun. -/
  | code (code : List Char) (fresh : Bool)
  /-- A backslash stands among the characters of an escape by number. -/
  | codeBreak (code : List Char)
deriving DecidableEq

/-- The characters up to an ending, with escapes resolved, and the rest from the ending on. `taken`
are the characters so far, the last one first. -/
def scan (ending : Ending) : Scanning → (taken : List Char) → List Char →
    Except Fault (List Char × List Char)
  | .plain, taken, [] =>
    if ending.stopsAtEnd then .ok (taken.reverse, []) else .error ⟨.unfinished ending, [], false⟩
  | .escape, taken, [] =>
    if ending.stopsAtEnd then .ok (('\\' :: taken).reverse, [])
    else .error ⟨.unfinished ending, [], false⟩
  | .code _ _, _, [] => .error ⟨.unfinished ending, [], false⟩
  | .codeBreak _, _, [] => .error ⟨.expectedLineEnd none, [], false⟩
  | .plain, taken, c :: rest =>
    if ending.stops c then .ok (taken.reverse, c :: rest)
    else if c == '\\' then scan ending .escape taken rest
    else scan ending .plain (c :: taken) rest
  | .escape, taken, c :: rest =>
    if c == '\n' then scan ending .plain taken rest
    else if c == 'x' then scan ending (.code [] false) taken rest
    else scan ending .plain (escape c :: taken) rest
  | .code code fresh, taken, c :: rest =>
    if c == '\\' then scan ending (.codeBreak code) taken rest
    else if code.length < 3 then scan ending (.code (c :: code) false) taken rest
    else
      match codeChar? (c :: code).reverse with
      | some d => scan ending .plain (d :: taken) rest
      | none => .error ⟨.unknownCharacter, c :: rest, fresh⟩
  | .codeBreak code, taken, c :: rest =>
    if c == '\n' then
      -- The break counts as a character of the escape, which then denotes nothing.
      if code.length < 3 then scan ending (.code ('\\' :: code) true) taken rest
      else .error ⟨.unknownCharacter, c :: rest, false⟩
    else .error ⟨.expectedLineEnd (some c), c :: rest, false⟩

/-- Scanning only ever shortens the text. -/
theorem length_scan_le {ending : Ending} {state : Scanning} {taken text : List Char}
    {run rest : List Char} (h : scan ending state taken text = .ok (run, rest)) :
    rest.length ≤ text.length := by
  fun_induction scan ending state taken text <;> grind

/-- A fault leaves no more than the text had. -/
theorem length_fault_le {ending : Ending} {state : Scanning} {taken text : List Char} {f : Fault}
    (h : scan ending state taken text = .error f) : f.rest.length ≤ text.length := by
  fun_induction scan ending state taken text <;> grind

/-- Whether a character is a space or a tabulator. -/
def isSpace (c : Char) : Bool := c == ' ' || c == '\t'

/-- Whether a character ends a line. -/
def isBreak (c : Char) : Bool := c == '\n' || c == '\r'

/-- A value from its first character on, and the rest. `value` is what has been read of it; blanks
are dropped at its end, and at its start unless a quoted part stands there. -/
def readValue (value : List Char) (first : Bool) (text : List Char) :
    Except Fault (List Char × List Char) :=
  match text with
  | [] => .ok (value, [])
  | c :: rest =>
    if c == '"' || c == '\'' then
      match _h : scan (.quote c) .plain [] rest with
      | .error f => .error f
      | .ok (run, rest) => readValue (value ++ run) false (rest.drop 1)
    else
      match scan .line .plain [] (c :: rest) with
      | .error f => .error f
      | .ok (run, rest) =>
        .ok (value ++ (if first then Text.trim run else Text.trimEnd run), rest)
termination_by text.length
decreasing_by
  have := length_scan_le _h
  simp
  omega

theorem length_readValue_le {value text run rest : List Char} {first : Bool}
    (h : readValue value first text = .ok (run, rest)) : rest.length ≤ text.length := by
  fun_induction readValue value first text with
  | case1 => simp_all
  | case2 => simp at h
  | case3 value first c rest' _ run' rest'' hs ih =>
    have := length_scan_le hs
    have := ih h
    simp at *
    omega
  | case4 => simp at h
  | case5 value first c rest' _ run' rest'' hs =>
    have := length_scan_le hs
    simp only [Except.ok.injEq, Prod.mk.injEq] at h
    simp_all

/-- A text without the blanks at its start, and whether the rest begins a line. A line that begins
with a space or a tabulator is left as it is. -/
def skipBlanks (fresh : Bool) : List Char → Bool × List Char
  | [] => (fresh, [])
  | c :: rest =>
    if isBreak c then
      match rest with
      | d :: _ => if isSpace d then (c == '\n', rest) else skipBlanks (c == '\n') rest
      | [] => (c == '\n', [])
    else if Text.isBlank c then skipBlanks false rest
    else (fresh, c :: rest)

theorem length_skipBlanks_le (fresh : Bool) (text : List Char) :
    (skipBlanks fresh text).2.length ≤ text.length := by
  fun_induction skipBlanks fresh text <;> simp_all <;> omega

/-- What has been read of a document: the sections, and the key that waits for its value. -/
structure Progress where
  document : Document := []
  key : List Char := []
deriving DecidableEq

/-- What one element of a document gives: the progress, whether the rest begins a line, and the
rest. -/
structure Element where
  progress : Progress
  fresh : Bool
  rest : List Char

/-- A section's header, behind its bracket. -/
def readHeader (p : Progress) (text : List Char) : Except Fault Element :=
  match scan .header .plain [] text with
  | .error f => .error f
  | .ok (name, rest) =>
    .ok ⟨{ p with document := p.document.openSection (String.ofList (Text.trim name)) }, false,
      rest.drop 1⟩

/-- The value of the key that waits, behind the sign between the two. -/
def readEntry (p : Progress) (text : List Char) : Except Fault Element :=
  match readValue [] true (text.dropWhile fun c => Text.isBlank c && !isBreak c) with
  | .error f => .error f
  | .ok (value, rest) =>
    .ok ⟨⟨p.document.add (String.ofList p.key) (String.ofList value), []⟩, false, rest⟩

/-- A key. -/
def readKey (p : Progress) (text : List Char) : Except Fault Element :=
  match scan .key .plain [] text with
  | .error f => .error f
  | .ok (key, rest) => .ok ⟨{ p with key := Text.trim key }, false, rest⟩

/-- A key on a line that begins with a space; if there is none, that is passed over. -/
def readIndentedKey (p : Progress) (text : List Char) : Element :=
  match readKey p text with
  | .error f => ⟨p, f.fresh, f.rest⟩
  | .ok e => e

/-- The rest of a text behind the next end of a line. -/
def afterLine (text : List Char) : List Char := (text.dropWhile (· != '\n')).drop 1

/-- The element that begins with the character `c`, which is no space. -/
def readElement (p : Progress) (fresh : Bool) (c : Char) (rest : List Char) :
    Except Fault Element :=
  if c == ';' || c == '#' then
    if fresh then .ok ⟨p, true, afterLine rest⟩ else .error ⟨.inlineComment, c :: rest, fresh⟩
  else if c == '[' then readHeader p rest
  else if c == '=' || c == ':' then
    if p.key.isEmpty then .error ⟨.missingKey, c :: rest, fresh⟩ else readEntry p rest
  else if isBreak c then .ok ⟨p, c == '\n', rest⟩
  else readKey p (c :: rest)

/-- An element together with the blanks behind it. -/
def Element.skip (e : Element) : Element :=
  let (fresh, rest) := skipBlanks e.fresh e.rest
  ⟨e.progress, fresh, rest⟩

/-- What a text that begins with the character `c` gives next. -/
def readNext (p : Progress) (fresh : Bool) (c : Char) (rest : List Char) : Except Fault Element :=
  if isSpace c then
    match rest.dropWhile isSpace with
    | [] => .ok ⟨p, false, []⟩
    | d :: rest =>
      if d == '[' then (readHeader p rest).map (·.skip)
      else if isBreak d then .ok ⟨p, d == '\n', rest⟩
      else .ok (readIndentedKey p (d :: rest)).skip
  else (readElement p fresh c rest).map (·.skip)

theorem Element.length_skip_le (e : Element) : e.skip.rest.length ≤ e.rest.length :=
  length_skipBlanks_le e.fresh e.rest

theorem length_readHeader_le {p : Progress} {text : List Char} {e : Element}
    (h : readHeader p text = .ok e) : e.rest.length ≤ text.length := by
  unfold readHeader at h
  split at h
  · cases h
  · next hs =>
    have := length_scan_le hs
    cases h
    simp
    omega

theorem length_readEntry_le {p : Progress} {text : List Char} {e : Element}
    (h : readEntry p text = .ok e) : e.rest.length ≤ text.length := by
  unfold readEntry at h
  split at h
  · cases h
  · next hs =>
    have := length_readValue_le hs
    have := (text.dropWhile_sublist fun c => Text.isBlank c && !isBreak c).length_le
    cases h
    simp only
    omega

theorem length_readKey_le {p : Progress} {c : Char} {rest : List Char} {e : Element}
    (hc : Ending.key.stops c = false) (h : readKey p (c :: rest) = .ok e) :
    e.rest.length ≤ rest.length := by
  unfold readKey at h
  split at h
  · cases h
  · next hs =>
    cases h
    simp only [scan, hc, Bool.false_eq_true, if_false] at hs
    split at hs <;> exact length_scan_le hs

theorem length_readIndentedKey_le (p : Progress) (text : List Char) :
    (readIndentedKey p text).rest.length ≤ text.length := by
  unfold readIndentedKey readKey
  split
  · next hs =>
    split at hs
    · next hf =>
      cases hs
      exact length_fault_le hf
    · cases hs
  · next hs =>
    split at hs
    · cases hs
    · next hf =>
      cases hs
      exact length_scan_le hf

theorem length_readElement_le {p : Progress} {fresh : Bool} {c : Char} {rest : List Char}
    {e : Element} (h : readElement p fresh c rest = .ok e) : e.rest.length ≤ rest.length := by
  unfold readElement at h
  split at h
  · split at h
    · cases h
      have := (rest.dropWhile_sublist (· != '\n')).length_le
      simp [afterLine]
      omega
    · cases h
  · split at h
    · exact length_readHeader_le h
    · split at h
      · split at h
        · cases h
        · exact length_readEntry_le h
      · split at h
        · cases h
          exact Nat.le_refl _
        · exact length_readKey_le (by simp_all [Ending.stops]) h

/-- Every step of the reader takes at least one character. -/
theorem length_readNext_le {p : Progress} {fresh : Bool} {c : Char} {rest : List Char}
    {e : Element} (h : readNext p fresh c rest = .ok e) : e.rest.length ≤ rest.length := by
  unfold readNext at h
  split at h
  · have hd := (rest.dropWhile_sublist isSpace).length_le
    split at h
    · cases h
      simp
    · next d rest' hrest =>
      rw [hrest] at hd
      simp only [List.length_cons] at hd
      split at h
      · cases hh : readHeader p rest' with
        | error f => simp [hh, Except.map] at h
        | ok e' =>
          simp only [hh, Except.map, Except.ok.injEq] at h
          have := length_readHeader_le hh
          have := e'.length_skip_le
          subst h
          omega
      · split at h
        · cases h
          simp only
          omega
        · cases h
          have := (readIndentedKey p (d :: rest')).length_skip_le
          have := length_readIndentedKey_le p (d :: rest')
          simp only [List.length_cons] at this
          omega
  · cases hh : readElement p fresh c rest with
    | error f => simp [hh, Except.map] at h
    | ok e' =>
      simp only [hh, Except.map, Except.ok.injEq] at h
      have := length_readElement_le hh
      have := e'.length_skip_le
      subst h
      omega

/-- The document of a text of which a part has been read. -/
def readFrom (p : Progress) (fresh : Bool) (text : List Char) : Except Fault Document :=
  match text with
  | [] => .ok p.document
  | c :: rest =>
    match _h : readNext p fresh c rest with
    | .error f => .error f
    | .ok e => readFrom e.progress e.fresh e.rest
termination_by text.length
decreasing_by
  have := length_readNext_le _h
  simp
  omega

/-- Where a text has no document, and why. Lines and columns are counted from one; the column is the
one behind the character that was looked at last. -/
structure Error where
  line : Nat
  column : Nat
  problem : Problem
deriving DecidableEq

/-- The text of an error. -/
def Error.message (e : Error) : String :=
  toString e.line ++ ":" ++ toString e.column ++ " " ++ e.problem.text

/-- The place of a fault in its text. -/
def Fault.locate (text : List Char) (f : Fault) : Error :=
  let seen := text.take (text.length - f.rest.length + 1)
  ⟨seen.count '\n' + 1, (seen.reverse.takeWhile (· != '\n')).length + 1, f.problem⟩

/-- The document of a text, or where and why it has none. -/
def ofText (text : List Char) : Except Error Document :=
  (readFrom {} true text).mapError (·.locate text)

end ControlPlane.Ini
