import ControlPlane.Json.Scan
import Mathlib.Data.List.Forall2

/-!
# The texts of values

Which octets are a text of which value, said without the reader. A value has many texts: blanks may
stand around every mark, a character of a string may be escaped or not, members may stand in any
order. A text holds no blanks in front and behind; where they may stand, the text around it says so.

A string is a sequence of characters, so the text of one has no escaped half of a pair without the
other half, and its octets form a text. The values of members that nobody asks for are held to less:
their brackets, marks and escapes must be right, but their strings may hold any octets from 32 on,
their numbers may be of any size, and they may nest to any depth.

## Main definitions

- `Json.Spells`, `Json.Passes`: what may stand between quotes.
- `Json.NumberSpelled`: the parts of a number that is written.
- `Json.Entries`: the inside of a bracket, item by item.
- `Json.Denotes`: the texts of a value that nests no deeper than a limit.
- `Json.Skimmed`: the texts that are passed over as the value of an unknown member.

## Main statements

- `Json.Denotes.skimmed`: the text of a value can be passed over.
-/

namespace ControlPlane.Json

variable {α σ κ : Type}

/-- Nothing but blanks. -/
def Blanks (text : List UInt8) : Prop := ∀ b ∈ text, isBlankOctet b = true

theorem Blanks.nil : Blanks [] := fun _ hb => absurd hb List.not_mem_nil

theorem Blanks.append {ws ws' : List UInt8} (h : Blanks ws) (h' : Blanks ws') :
    Blanks (ws ++ ws') :=
  fun b hb => (List.mem_append.1 hb).elim (h b) (h' b)

/-! ## Strings -/

/-- An escape of four hexadecimal digits. -/
def unitEscape (w x y z : UInt8) : List UInt8 := [ascii '\\', ascii 'u', w, x, y, z]

/-- `raw`, between quotes, is written for `octets`. -/
inductive Spells : (raw octets : List UInt8) → Prop
  | nil : Spells [] []
  /-- An octet that stands for itself. -/
  | plain {b : UInt8} {raw octets : List UInt8} (quote : b ≠ ascii '"') (slash : b ≠ ascii '\\')
      (visible : ¬b < 32) (more : Spells raw octets) : Spells (b :: raw) (b :: octets)
  | short {b c : UInt8} {raw octets : List UInt8} (letter : shortEscape? b = some c)
      (more : Spells raw octets) : Spells (ascii '\\' :: b :: raw) (c :: octets)
  /-- A character that one code unit encodes. -/
  | unit {w x y z : UInt8} {u : Nat} {raw octets : List UInt8} (value : codeUnit? w x y z = some u)
      (high : isHighHalf u = false) (low : isLowHalf u = false) (more : Spells raw octets) :
      Spells (unitEscape w x y z ++ raw) (Text.utf8Char (Char.ofNat u) ++ octets)
  /-- A character that takes two code units. -/
  | pair {w x y z w' x' y' z' : UInt8} {u u' : Nat} {raw octets : List UInt8}
      (value : codeUnit? w x y z = some u) (high : isHighHalf u = true)
      (value' : codeUnit? w' x' y' z' = some u') (low : isLowHalf u' = true)
      (more : Spells raw octets) :
      Spells (unitEscape w x y z ++ (unitEscape w' x' y' z' ++ raw))
        (Text.utf8Char (Char.ofNat (pairPoint u u')) ++ octets)

/-- `raw` may stand between the quotes of a string that is passed over. -/
inductive Passes : (raw : List UInt8) → Prop
  | nil : Passes []
  | plain {b : UInt8} {raw : List UInt8} (quote : b ≠ ascii '"') (slash : b ≠ ascii '\\')
      (visible : ¬b < 32) (more : Passes raw) : Passes (b :: raw)
  | short {b : UInt8} {raw : List UInt8} (letter : (shortEscape? b).isSome) (more : Passes raw) :
      Passes (ascii '\\' :: b :: raw)
  | unit {w x y z : UInt8} {raw : List UInt8} (value : (codeUnit? w x y z).isSome)
      (more : Passes raw) : Passes (unitEscape w x y z ++ raw)

theorem Spells.passes {raw octets : List UInt8} (h : Spells raw octets) : Passes raw := by
  induction h with
  | nil => exact .nil
  | plain quote slash visible _ ih => exact .plain quote slash visible ih
  | short letter _ ih => exact .short (letter ▸ rfl) ih
  | unit value _ _ _ ih => exact .unit (value ▸ rfl) ih
  | pair value _ value' _ _ ih => exact .unit (value ▸ rfl) (.unit (value' ▸ rfl) ih)

/-- `raw`, between quotes, is written for the text `s`. -/
def SpellsText (raw : List UInt8) (s : String) : Prop := Spells raw (Text.utf8 s)

/-- A string between its quotes. -/
def quoted (raw : List UInt8) : List UInt8 := ascii '"' :: (raw ++ [ascii '"'])

theorem quoted_append (raw rest : List UInt8) :
    quoted raw ++ rest = ascii '"' :: (raw ++ ascii '"' :: rest) := by
  rw [quoted, List.cons_append, List.append_assoc, List.singleton_append]

/-! ## Numbers -/

/-- Decimal digits, at least one. -/
structure Digits (text : List UInt8) : Prop where
  nonempty : text ≠ []
  digits : ∀ d ∈ text, isDigitOctet d = true

/-- The digits of a natural number: a zero, or digits that do not start with one. -/
structure Numeral (text : List UInt8) : Prop extends Digits text where
  head : text.head? = some (ascii '0') → text.length = 1

/-- The part of a number after its point, with the point. -/
inductive FractionText : List UInt8 → Option (List UInt8) → Prop
  | none : FractionText [] none
  | some {ds : List UInt8} (digits : Digits ds) : FractionText (ascii '.' :: ds) (some ds)

/-- The sign of an exponent, and whether it is a minus. -/
inductive SignText : List UInt8 → Bool → Prop
  | none : SignText [] false
  | plus : SignText [ascii '+'] false
  | minus : SignText [ascii '-'] true

/-- An exponent with its letter. -/
inductive ExponentText : List UInt8 → Option (Bool × List UInt8) → Prop
  | none : ExponentText [] none
  | some {b : UInt8} {s ds : List UInt8} {negative : Bool} (letter : b = ascii 'e' ∨ b = ascii 'E')
      (sign : SignText s negative) (digits : Digits ds) :
      ExponentText (b :: (s ++ ds)) (some (negative, ds))

/-- A number from after its sign. -/
inductive Magnitude (negative : Bool) : List UInt8 → NumberText → Prop
  | intro {ds fs es : List UInt8} {f : Option (List UInt8)} {e : Option (Bool × List UInt8)}
      (whole : Numeral ds) (fraction : FractionText fs f) (exponent : ExponentText es e) :
      Magnitude negative (ds ++ (fs ++ es)) ⟨negative, ds, f, e⟩

/-- A number and its parts. -/
inductive NumberSpelled : List UInt8 → NumberText → Prop
  | positive {text : List UInt8} {t : NumberText} (rest : Magnitude false text t) :
      NumberSpelled text t
  | negative {text : List UInt8} {t : NumberText} (rest : Magnitude true text t) :
      NumberSpelled (ascii '-' :: text) t

/-! ## Scalars -/

/-- The text of a value that has no brackets. A number must not be too large for one. -/
inductive ScalarText : List UInt8 → Json → Prop
  | null : ScalarText (asciiList ['n', 'u', 'l', 'l']) .null
  | true : ScalarText (asciiList ['t', 'r', 'u', 'e']) (.bool true)
  | false : ScalarText (asciiList ['f', 'a', 'l', 's', 'e']) (.bool false)
  | number {text : List UInt8} {t : NumberText} {n : Number} (parts : NumberSpelled text t)
      (value : t.value? = some n) : ScalarText text (.number n)
  | string {raw : List UInt8} {s : String} (spelled : SpellsText raw s) :
      ScalarText (quoted raw) (.string s)

/-! ## Arrays and objects -/

/-- What stands in front of an entry: blanks, and a comma if it is not the first one. -/
inductive Lead : (first : Bool) → List UInt8 → Prop
  | first {ws : List UInt8} (blanks : Blanks ws) : Lead true ws
  | next {ws ws' : List UInt8} (blanks : Blanks ws) (blanks' : Blanks ws') :
      Lead false (ws ++ ascii ',' :: ws')

theorem Lead.append {first : Bool} {lead ws : List UInt8} (h : Lead first lead) (hws : Blanks ws) :
    Lead first (lead ++ ws) := by
  cases h with
  | first blanks => exact .first (blanks.append hws)
  | next blanks blanks' =>
    rw [List.append_assoc, List.cons_append]
    exact .next blanks (blanks'.append hws)

/-- The inside of a bracket up to `close`, in which the texts of entries stand for `as`. -/
inductive Entries (close : UInt8) (entry : List UInt8 → α → Prop) :
    (first : Bool) → List UInt8 → List α → Prop
  | close {first : Bool} {ws : List UInt8} (blanks : Blanks ws) :
      Entries close entry first (ws ++ [close]) []
  | next {first : Bool} {lead text inside : List UInt8} {a : α} {as : List α}
      (front : Lead first lead) (here : entry text a) (more : Entries close entry false inside as) :
      Entries close entry first (lead ++ (text ++ inside)) (a :: as)

theorem Entries.map {β : Type} {close : UInt8} {entry : List UInt8 → α → Prop}
    {entry' : List UInt8 → β → Prop} {f : α → β} (hentry : ∀ {text a}, entry text a → entry' text (f a))
    {first : Bool} {inside : List UInt8} {as : List α} (h : Entries close entry first inside as) :
    Entries close entry' first inside (as.map f) := by
  induction h with
  | close blanks => exact .close blanks
  | next front here _ ih => exact .next front (hentry here) ih

/-- The inside of an array, cut into the texts of its items. -/
def ItemTexts : List UInt8 → List (List UInt8) → Prop := Entries (ascii ']') (· = ·) true

/-- A member: its key, as `key` reads it, and the text of its value. -/
inductive MemberText (key : List UInt8 → κ → Prop) : List UInt8 → κ × List UInt8 → Prop
  | intro {raw ws ws' : List UInt8} {k : κ} (here : key raw k) (blanks : Blanks ws)
      (blanks' : Blanks ws') (text : List UInt8) :
      MemberText key (quoted raw ++ (ws ++ ascii ':' :: (ws' ++ text))) (k, text)

/-- The inside of an object, cut into its keys and the texts of their values. -/
def MemberTexts (key : List UInt8 → κ → Prop) : List UInt8 → List (κ × List UInt8) → Prop :=
  Entries (ascii '\x7d') (MemberText key) true

/-- What a list makes of a state, one entry after another. -/
inductive Along (step : σ → α → σ → Prop) : σ → List α → σ → Prop
  | nil {s : σ} : Along step s [] s
  | cons {s s' s'' : σ} {a : α} {as : List α} (head : step s a s') (tail : Along step s' as s'') :
      Along step s (a :: as) s''

theorem Along.cons_iff {step : σ → α → σ → Prop} {s s'' : σ} {a : α} {as : List α} :
    Along step s (a :: as) s'' ↔ ∃ s', step s a s' ∧ Along step s' as s'' := by
  constructor
  · intro h
    cases h with
    | cons head tail => exact ⟨_, head, tail⟩
  · rintro ⟨s', head, tail⟩
    exact .cons head tail

/-- What every step asks of its entry holds of all entries. -/
theorem Along.forall_mem {step : σ → α → σ → Prop} {p : α → Prop} {s s' : σ} {as : List α}
    (h : Along step s as s') (hstep : ∀ {s a s'}, step s a s' → p a) : ∀ a ∈ as, p a := by
  induction h with
  | nil => exact fun a ha => absurd ha List.not_mem_nil
  | cons head _ ih => exact List.forall_mem_cons.2 ⟨hstep head, ih⟩

/-- A member is entered into those before it. -/
def Entered (inner : List UInt8 → Json → Prop) (before : List (String × Json))
    (m : String × List UInt8) (after : List (String × Json)) : Prop :=
  ∃ v, inner m.2 v ∧ after = putMember before m.1 v

/-- The text of a value whose items and members have the texts that `inner` says. -/
inductive Layer (inner : List UInt8 → Json → Prop) : List UInt8 → Json → Prop
  | scalar {text : List UInt8} {v : Json} (here : ScalarText text v) : Layer inner text v
  | array {inside : List UInt8} {texts : List (List UInt8)} {items : List Json}
      (cut : ItemTexts inside texts) (values : List.Forall₂ inner texts items) :
      Layer inner (ascii '[' :: inside) (.array items)
  | object {inside : List UInt8} {texts : List (String × List UInt8)}
      {members : List (String × Json)} (cut : MemberTexts SpellsText inside texts)
      (values : Along (Entered inner) [] texts members) :
      Layer inner (ascii '\x7b' :: inside) (.object members)

/-- The text of a value in which at most `levels` arrays and objects nest. -/
def Denotes : (levels : Nat) → List UInt8 → Json → Prop
  | 0 => ScalarText
  | levels + 1 => Layer (Denotes levels)

/-- A text that is passed over as the value of an unknown member. -/
inductive Skimmed : List UInt8 → Prop
  | null : Skimmed (asciiList ['n', 'u', 'l', 'l'])
  | true : Skimmed (asciiList ['t', 'r', 'u', 'e'])
  | false : Skimmed (asciiList ['f', 'a', 'l', 's', 'e'])
  | number {text : List UInt8} {t : NumberText} (parts : NumberSpelled text t) : Skimmed text
  | string {raw : List UInt8} (passes : Passes raw) : Skimmed (quoted raw)
  | array {inside : List UInt8} {texts : List (List UInt8)} (cut : ItemTexts inside texts)
      (items : ∀ t ∈ texts, Skimmed t) : Skimmed (ascii '[' :: inside)
  | object {inside : List UInt8} {texts : List (Unit × List UInt8)}
      (cut : MemberTexts (fun raw _ => Passes raw) inside texts)
      (members : ∀ m ∈ texts, Skimmed m.2) : Skimmed (ascii '\x7b' :: inside)

theorem ScalarText.skimmed {text : List UInt8} {v : Json} (h : ScalarText text v) :
    Skimmed text := by
  cases h with
  | null => exact .null
  | true => exact .true
  | false => exact .false
  | number parts _ => exact .number parts
  | string spelled => exact .string spelled.passes

/-- The text of a value can be passed over. -/
theorem Denotes.skimmed {levels : Nat} {text : List UInt8} {v : Json} (h : Denotes levels text v) :
    Skimmed text := by
  induction levels generalizing text v with
  | zero => exact ScalarText.skimmed h
  | succ levels ih =>
    cases h with
    | scalar here => exact here.skimmed
    | array cut values =>
      have hitems : List.Forall₂ (fun t v => Skimmed t ∧ Denotes levels t v) _ _ :=
        values.imp fun _ _ hv => ⟨ih hv, hv⟩
      exact .array cut ((List.forall₂_and_left _ _).1 hitems).1
    | object cut values =>
      have hmembers := values.forall_mem fun ⟨_, hv, _⟩ => ih hv
      refine .object (cut.map (f := fun m => ((), m.2)) ?_) (List.forall_mem_map.2 hmembers)
      rintro _ _ ⟨here, blanks, blanks', text⟩
      exact .intro here.passes blanks blanks' text

end ControlPlane.Json
