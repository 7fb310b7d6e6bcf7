import ControlPlane.Text.Numeral
import Mathlib.Data.List.DropRight

/-!
# Trimmed texts, words and numerals

## Main statements

- `Text.trim_trim`: a trimmed text stays as it is when it is trimmed again.
- `Text.words_intercalate`: words that are written with spaces between them are found again.
- `Text.unsigned?_eq_some_iff`: what the numerals of a number are.
- `Text.unsigned?_toDigits`: a number is read back from its digits.
-/

namespace ControlPlane.Text

variable {cs word : List Char}

/-! ## Trimming -/

theorem trimStart_eq_self_iff : trimStart cs = cs ↔ ∀ c ∈ cs.head?, isBlank c = false := by
  cases cs with
  | nil => simp [trimStart]
  | cons c rest => simp [trimStart, List.dropWhile_eq_self_iff]

theorem trimEnd_eq_self_iff : trimEnd cs = cs ↔ ∀ c ∈ cs.getLast?, isBlank c = false := by
  have hdrop : trimEnd cs = cs.rdropWhile isBlank := rfl
  rw [hdrop, List.rdropWhile_eq_self_iff]
  rcases List.eq_nil_or_concat cs with rfl | ⟨front, c, rfl⟩
  · simp
  · simp

theorem trim_eq_self_iff : trim cs = cs ↔
    (∀ c ∈ cs.head?, isBlank c = false) ∧ ∀ c ∈ cs.getLast?, isBlank c = false := by
  rw [← trimStart_eq_self_iff, ← trimEnd_eq_self_iff]
  constructor
  · intro h
    -- Nothing may be lost on either side.
    have hstart : (trimStart cs).length ≤ cs.length := (List.dropWhile_sublist isBlank).length_le
    have hend : (trim cs).length ≤ (trimStart cs).length :=
      (List.rdropWhile_prefix isBlank (trimStart cs)).length_le
    have hlength : (trimStart cs).length = cs.length := by
      rw [h] at hend
      omega
    have hsame : trimStart cs = cs := (List.dropWhile_suffix isBlank).eq_of_length hlength
    rw [trim, hsame] at h
    exact ⟨hsame, h⟩
  · rintro ⟨hstart, hend⟩
    rw [trim, hstart, hend]

theorem trim_of_forall (h : ∀ c ∈ cs, isBlank c = false) : trim cs = cs :=
  trim_eq_self_iff.mpr
    ⟨fun c hc => h c (List.mem_of_head? hc), fun c hc => h c (List.mem_of_getLast? hc)⟩

theorem isBlank_head?_trim : ∀ c ∈ (trim cs).head?, isBlank c = false := by
  intro c hc
  obtain ⟨rest, hrest⟩ := List.head?_eq_some_iff.mp hc
  obtain ⟨cut, hcut⟩ := List.rdropWhile_prefix isBlank (trimStart cs)
  have hhead : (cs.dropWhile isBlank).head? = some c := by
    have htrim : trim cs = (trimStart cs).rdropWhile isBlank := rfl
    rw [htrim] at hrest
    rw [hrest] at hcut
    have hcons : c :: (rest ++ cut) = cs.dropWhile isBlank := hcut
    rw [← hcons]
    rfl
  have hnot := List.head?_dropWhile_not isBlank cs
  rw [hhead] at hnot
  exact hnot

/-- A trimmed text stays as it is when it is trimmed again. -/
theorem trim_trim (cs : List Char) : trim (trim cs) = trim cs := by
  have hstart : trimStart (trim cs) = trim cs := trimStart_eq_self_iff.mpr isBlank_head?_trim
  have hend : trimEnd (trim cs) = trim cs := List.rdropWhile_idempotent isBlank (trimStart cs)
  rw [trim, hstart, hend]

theorem trim_eq_nil_iff : trim cs = [] ↔ ∀ c ∈ cs, isBlank c = true := by
  rw [trim, trimEnd, List.reverse_eq_nil_iff, List.dropWhile_eq_nil_iff]
  simp only [List.mem_reverse]
  constructor
  · intro h c hc
    rw [← List.takeWhile_append_dropWhile (p := isBlank) (l := cs)] at hc
    rcases List.mem_append.mp hc with hfront | hrest
    · exact List.mem_takeWhile_imp hfront
    · exact h c hrest
  · intro h c hc
    exact h c ((List.dropWhile_sublist isBlank).subset hc)

/-! ## Words -/

/-- A run of characters that are no blanks. -/
def IsWord (word : List Char) : Prop := word ≠ [] ∧ ∀ c ∈ word, isBlank c = false

instance : DecidablePred IsWord := fun word =>
  letI : Decidable (∀ c ∈ word, isBlank c = false) := List.decidableBAll _ _
  inferInstanceAs (Decidable (_ ∧ _))

theorem trim_concat_of_isWord {c : Char} (h : IsWord word) (hc : isBlank c = true) :
    trim (word ++ [c]) = word := by
  obtain ⟨a, rest, rfl⟩ := List.exists_cons_of_ne_nil h.1
  have hstart : trimStart ((a :: rest) ++ [c]) = (a :: rest) ++ [c] :=
    trimStart_eq_self_iff.mpr fun d hd => by
      obtain rfl : a = d := Option.some.inj hd
      exact h.2 a List.mem_cons_self
  have hend : trimEnd ((a :: rest) ++ [c]) = trimEnd (a :: rest) :=
    List.rdropWhile_concat_pos isBlank (a :: rest) c hc
  rw [trim, hstart, hend, trimEnd_eq_self_iff]
  exact fun d hd => h.2 d (List.mem_of_getLast? hd)

/-- Characters that are no blanks belong to the word that is open. -/
theorem wordsFrom_append (h : ∀ c ∈ cs, isBlank c = false) (rest : List Char) :
    wordsFrom word (cs ++ rest) = wordsFrom (cs.reverse ++ word) rest := by
  induction cs generalizing word with
  | nil => rfl
  | cons c cs ih =>
    obtain ⟨hc, hcs⟩ := List.forall_mem_cons.mp h
    rw [List.cons_append, wordsFrom, if_neg (by simp [hc]), ih hcs, List.reverse_cons,
      List.append_assoc, List.singleton_append]

/-- A blank ends the word that is open. -/
theorem words_append_space (h : IsWord word) (rest : List Char) :
    words (word ++ ' ' :: rest) = word :: words rest := by
  have hopen : word.reverse.isEmpty = false := by simp [h.1]
  rw [words, wordsFrom_append h.2, List.append_nil, wordsFrom, if_pos (by decide), hopen,
    if_neg (by decide), List.reverse_reverse, words]

theorem words_of_isWord (h : IsWord word) : words word = [word] := by
  have hopen : word.reverse.isEmpty = false := by simp [h.1]
  have hwords : wordsFrom [] (word ++ []) = wordsFrom (word.reverse ++ []) [] :=
    wordsFrom_append h.2 []
  rw [List.append_nil, List.append_nil, wordsFrom, hopen, if_neg (by decide),
    List.reverse_reverse] at hwords
  exact hwords

/-- Words that are written with spaces between them are found again. -/
theorem words_intercalate {run : List (List Char)} (h : ∀ word ∈ run, IsWord word) :
    words (List.intercalate [' '] run) = run := by
  induction run with
  | nil => rfl
  | cons word rest ih =>
    obtain ⟨hword, hrest⟩ := List.forall_mem_cons.mp h
    cases rest with
    | nil =>
      rw [List.intercalate_singleton]
      exact words_of_isWord hword
    | cons next rest =>
      rw [List.intercalate_cons_cons, List.append_assoc, List.singleton_append,
        words_append_space hword, ih hrest]

theorem intercalate_cons (word : List Char) (run : List (List Char)) :
    List.intercalate [' '] (word :: run) = word ++ run.flatMap (' ' :: ·) := by
  induction run generalizing word with
  | nil => simp
  | cons next rest ih => rw [List.intercalate_cons_cons, ih, List.flatMap_cons]; simp

theorem mem_intercalate {run : List (List Char)} {c : Char}
    (h : c ∈ List.intercalate [' '] run) : c = ' ' ∨ ∃ word ∈ run, c ∈ word := by
  cases run with
  | nil => cases h
  | cons word rest =>
    rw [intercalate_cons] at h
    rcases List.mem_append.mp h with hword | hrest
    · exact .inr ⟨word, List.mem_cons_self, hword⟩
    · obtain ⟨next, hnext, hc⟩ := List.mem_flatMap.mp hrest
      rcases List.mem_cons.mp hc with rfl | hc
      · exact .inl rfl
      · exact .inr ⟨next, List.mem_cons_of_mem _ hnext, hc⟩

/-- Words that are written with spaces between them begin as the first one does. -/
theorem head?_intercalate {run : List (List Char)} (h : ∀ word ∈ run, IsWord word) :
    ∀ c ∈ (List.intercalate [' '] run).head?, ∃ word ∈ run, c ∈ word.head? := by
  intro c hc
  cases run with
  | nil => cases hc
  | cons word rest =>
    have hword : word ≠ [] := (h word List.mem_cons_self).1
    rw [intercalate_cons, List.head?_append_of_ne_nil _ hword] at hc
    exact ⟨word, List.mem_cons_self, hc⟩

/-- They end as the last one does. -/
theorem getLast?_intercalate {run : List (List Char)} (h : ∀ word ∈ run, IsWord word) :
    ∀ c ∈ (List.intercalate [' '] run).getLast?, ∃ word ∈ run, c ∈ word := by
  intro c hc
  cases run with
  | nil => cases hc
  | cons word rest =>
    rw [intercalate_cons] at hc
    rcases List.eq_nil_or_concat rest with rfl | ⟨front, last, rfl⟩
    · rw [List.flatMap_nil, List.append_nil] at hc
      exact ⟨word, List.mem_cons_self, List.mem_of_getLast? hc⟩
    · have hlast : last ∈ word :: front.concat last := by simp
      obtain ⟨c', tail, hcons⟩ := List.exists_cons_of_ne_nil (h last hlast).1
      rw [List.concat_eq_append, List.flatMap_append, List.flatMap_singleton, ← List.append_assoc,
        List.getLast?_append_of_ne_nil _ (List.cons_ne_nil _ _), hcons, List.getLast?_cons_cons,
        ← hcons] at hc
      exact ⟨last, hlast, List.mem_of_getLast? hc⟩

/-- Words that are written with spaces between them have no blanks around them. -/
theorem trim_intercalate {run : List (List Char)} (h : ∀ word ∈ run, IsWord word) :
    trim (List.intercalate [' '] run) = List.intercalate [' '] run := by
  refine trim_eq_self_iff.mpr ⟨fun c hc => ?_, fun c hc => ?_⟩
  · obtain ⟨word, hword, hmem⟩ := head?_intercalate h c hc
    exact (h word hword).2 c (List.mem_of_head? hmem)
  · obtain ⟨word, hword, hmem⟩ := getLast?_intercalate h c hc
    exact (h word hword).2 c hmem

theorem isWord_of_mem_wordsFrom {opened : List Char} (hopened : ∀ c ∈ opened, isBlank c = false)
    (h : word ∈ wordsFrom opened cs) : IsWord word := by
  have hclosed : opened.isEmpty = false → IsWord opened.reverse := by
    intro hne
    refine ⟨fun hnil => ?_, fun c hc => hopened c (List.mem_reverse.mp hc)⟩
    rw [List.reverse_eq_nil_iff] at hnil
    rw [hnil] at hne
    cases hne
  induction cs generalizing opened with
  | nil =>
    rw [wordsFrom] at h
    cases hempty : opened.isEmpty with
    | true => simp [hempty] at h
    | false =>
      rw [hempty, if_neg (by decide), List.mem_singleton] at h
      rw [h]
      exact hclosed hempty
  | cons c rest ih =>
    have hnil : ∀ c ∈ ([] : List Char), isBlank c = false := fun _ hc => absurd hc List.not_mem_nil
    rw [wordsFrom] at h
    cases hblank : isBlank c with
    | false =>
      rw [hblank, if_neg (by decide)] at h
      have hmore : ∀ d ∈ c :: opened, isBlank d = false :=
        List.forall_mem_cons.mpr ⟨hblank, hopened⟩
      refine ih hmore h fun _ => ⟨by simp, fun d hd => hmore d (List.mem_reverse.mp hd)⟩
    | true =>
      rw [hblank, if_pos rfl] at h
      cases hempty : opened.isEmpty with
      | true =>
        rw [hempty, if_pos rfl] at h
        exact ih hnil h nofun
      | false =>
        rw [hempty, if_neg (by decide)] at h
        rcases List.mem_cons.mp h with rfl | h
        · exact hclosed hempty
        · exact ih hnil h nofun

theorem isWord_of_mem_words (h : word ∈ words cs) : IsWord word :=
  isWord_of_mem_wordsFrom (fun _ hc => absurd hc List.not_mem_nil) h

/-! ## Numerals -/

theorem isBlank_of_isDigit {c : Char} (h : c.isDigit = true) : isBlank c = false := by
  have hrange : 48 ≤ c.toNat ∧ c.toNat ≤ 57 := by
    simpa [Char.isDigit, UInt32.le_iff_toNat_le] using h
  simp only [isBlank, Bool.or_eq_false_iff, Bool.and_eq_false_iff, decide_eq_false_iff_not,
    beq_eq_false_iff_ne]
  omega

theorem isWord_toDigits (n : Nat) : IsWord (Nat.toDigits 10 n) :=
  ⟨Nat.toDigits_ne_nil, fun _ hc =>
    isBlank_of_isDigit (Nat.isDigit_of_mem_toDigits (by decide) (by decide) hc)⟩

/-- A numeral of a number: decimal digits, perhaps behind a plus sign. -/
def Denotes (numeral : List Char) (n : Nat) : Prop :=
  ∃ digits, (numeral = digits ∨ numeral = '+' :: digits) ∧ digits ≠ [] ∧
    (∀ c ∈ digits, c.isDigit = true) ∧ Nat.ofDigitChars 10 digits 0 = n

theorem decimal?_eq_some_iff {digits : List Char} {n : Nat} :
    decimal? digits = some n ↔
      digits ≠ [] ∧ (∀ c ∈ digits, c.isDigit = true) ∧ Nat.ofDigitChars 10 digits 0 = n := by
  have hguard : (digits.isEmpty || !digits.all Char.isDigit) = false ↔
      digits ≠ [] ∧ ∀ c ∈ digits, c.isDigit = true := by
    rw [Bool.or_eq_false_iff, Bool.not_eq_false', List.isEmpty_eq_false_iff, List.all_eq_true]
  rw [decimal?]
  cases h : digits.isEmpty || !digits.all Char.isDigit with
  | true =>
    rw [if_pos rfl]
    refine ⟨nofun, fun ⟨hne, hall, _⟩ => ?_⟩
    rw [hguard.mpr ⟨hne, hall⟩] at h
    cases h
  | false =>
    obtain ⟨hne, hall⟩ := hguard.mp h
    rw [if_neg (by decide), Option.some.injEq]
    exact ⟨fun hn => ⟨hne, hall, hn⟩, fun hdigits => hdigits.2.2⟩

/-- A number is read from its numerals, and from nothing else. -/
theorem unsigned?_eq_some_iff {bound n : Nat} {numeral : List Char} :
    unsigned? bound numeral = some n ↔ Denotes numeral n ∧ n < bound := by
  have hplus : ¬('+' : Char).isDigit = true := by decide
  simp only [unsigned?, Option.filter_eq_some_iff, decimal?_eq_some_iff, decide_eq_true_eq]
  refine and_congr_left fun _ => ?_
  split
  · next digits =>
    refine ⟨fun h => ⟨digits, .inr rfl, h⟩, ?_⟩
    rintro ⟨others, rfl | hothers, hne, hall, hn⟩
    · exact absurd (hall '+' List.mem_cons_self) hplus
    · obtain rfl := (List.cons.inj hothers).2
      exact ⟨hne, hall, hn⟩
  · next hfirst =>
    refine ⟨fun h => ⟨numeral, .inl rfl, h⟩, ?_⟩
    rintro ⟨digits, rfl | rfl, h⟩
    · exact h
    · exact absurd rfl (hfirst digits)

/-- A number is read back from its digits. -/
theorem unsigned?_toDigits {n bound : Nat} (h : n < bound) :
    unsigned? bound (Nat.toDigits 10 n) = some n := by
  have hdigit : ∀ c ∈ Nat.toDigits 10 n, c.isDigit = true :=
    fun _ hc => Nat.isDigit_of_mem_toDigits (by decide) (by decide) hc
  have hdecimal : decimal? (Nat.toDigits 10 n) = some n := by
    have hall : (Nat.toDigits 10 n).all Char.isDigit = true := List.all_eq_true.mpr hdigit
    have hempty : (Nat.toDigits 10 n).isEmpty = false :=
      List.isEmpty_eq_false_iff.mpr Nat.toDigits_ne_nil
    rw [decimal?, hall, hempty, if_neg (by decide), Nat.ofDigitChars_ten_toDigits]
  rw [unsigned?, hdecimal, Option.filter_some, if_pos (by simpa using h)]
  -- A digit is no plus sign.
  intro digits hplus
  exact absurd (hdigit '+' (hplus ▸ List.mem_cons_self)) (by decide)

end ControlPlane.Text
