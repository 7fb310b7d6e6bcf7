import ControlPlane.Config.Printer
import ControlPlane.Config.Reading
import ControlPlane.Proofs.Text.Blanks

/-!
# Changes of settings by values

Each kind of change is looked at from both sides: what it makes of a value that was written by the
program itself, and what it can put into the settings at all.

## Main definitions

- `Settings.Stands`: a value that is taken as it is written.
- `Settings.Change.Keeps`: a change after which something holds that held before.

## Main statements

- `Settings.option_written` and its like: a value that was written is read back.
- `Settings.keeps_option` and its like: what has to be shown of the values that may be set.
-/

namespace ControlPlane.Settings

/-- A value that is taken as it is written: it is not empty, and no blank stands around it. -/
def Stands (value : String) : Prop := present? value = some value

instance : DecidablePred Stands := fun value => inferInstanceAs (Decidable (present? value = _))

theorem present?_eq_some_iff {written value : String} :
    present? written = some value ↔ value ≠ "" ∧ Text.trim written.toList = value.toList := by
  have htrimmed : Text.trimmed written = value ↔ Text.trim written.toList = value.toList := by
    rw [Text.trimmed, ← String.toList_inj, String.toList_ofList]
  rw [← htrimmed, present?]
  by_cases hempty : (Text.trimmed written).isEmpty = true
  · rw [if_pos hempty]
    refine ⟨nofun, ?_⟩
    rintro ⟨hne, rfl⟩
    exact absurd (String.isEmpty_iff.mp hempty) hne
  · rw [if_neg hempty, Option.some.injEq]
    refine ⟨?_, And.right⟩
    rintro rfl
    exact ⟨fun hnil => hempty (String.isEmpty_iff.mpr hnil), rfl⟩

theorem stands_iff {value : String} :
    Stands value ↔ value ≠ "" ∧ Text.trim value.toList = value.toList :=
  present?_eq_some_iff

theorem stands_of_present? {written value : String} (h : present? written = some value) :
    Stands value := by
  obtain ⟨hne, htrim⟩ := present?_eq_some_iff.mp h
  rw [stands_iff, ← htrim, Text.trim_trim]
  exact ⟨hne, rfl⟩

theorem stands_of_isWord {value : String} (h : Text.IsWord value.toList) : Stands value := by
  refine stands_iff.mpr ⟨?_, Text.trim_of_forall h.2⟩
  rintro rfl
  exact h.1 rfl

variable {P : Settings → Prop} {bits : Nat} {value : String} {s t : Settings}

/-! ## Values that were written -/

theorem address_written (h : Stands value) (set : String → Settings → Settings) (s : Settings) :
    address set value s = .ok (set value s) := by
  rw [address, h]

theorem option_written {value : Option String} (h : ∀ v ∈ value, Stands v)
    (set : Option String → Settings → Settings) (s : Settings) :
    option set (optional value) s = .ok (set value s) := by
  cases value with
  | none => rfl
  | some v =>
    have hv : present? (optional (some v)) = some v := h v rfl
    rw [option, hv]

theorem unlessBlank_written (h : Stands value) (set : String → Settings → Settings)
    (s : Settings) : unlessBlank set value s = .ok (set value s) := by
  rw [unlessBlank, h]

theorem isWord_numeral (n : Nat) : Text.IsWord (toString n).toList := by
  rw [Nat.toString_eq_repr, Nat.toList_repr]
  exact Text.isWord_toDigits n

theorem unsigned?_numeral {n bound : Nat} (h : n < bound) :
    Text.unsigned? bound (Text.trim (toString n).toList) = some n := by
  rw [Text.trim_of_forall (isWord_numeral n).2, Nat.toString_eq_repr, Nat.toList_repr,
    Text.unsigned?_toDigits h]

theorem number_written {n : Nat} (h : n < 1 <<< bits) (set : Nat → Settings → Settings)
    (s : Settings) : number bits set (toString n) s = .ok (set n s) := by
  rw [number, unsigned?_numeral h]

theorem positive_written {n : Nat} (hpos : n ≠ 0) (h : n < 1 <<< bits)
    (set : Nat → Settings → Settings) (s : Settings) :
    positive bits set (toString n) s = .ok (set n s) := by
  rw [positive, unsigned?_numeral h]
  exact if_neg hpos

theorem optionalPositive_written {n : Option Nat} (h : ∀ m ∈ n, m ≠ 0 ∧ m < 1 <<< bits)
    (set : Option Nat → Settings → Settings) (s : Settings) :
    optionalPositive bits set (optional (n.map toString)) s = .ok (set n s) := by
  cases n with
  | none => rfl
  | some m =>
    obtain ⟨hpos, hlt⟩ := h m rfl
    have hstands : Stands (toString m) := stands_of_isWord (isWord_numeral m)
    have hvalue : optional ((some m).map toString) = toString m := rfl
    rw [optionalPositive, hvalue, hstands]
    exact positive_written hpos hlt (set ∘ some) s

/-! ## Values that may be set -/

/-- A change after which something holds that held before. -/
def Change.Keeps (P : Settings → Prop) (change : Change) : Prop :=
  ∀ value s t, P s → change value s = .ok t → P t

theorem keeps_address {set : String → Settings → Settings}
    (h : ∀ v s, Stands v → P s → P (set v s)) : (address set).Keeps P := by
  intro value s t hs ht
  cases hv : present? value with
  | none => rw [address, hv] at ht; cases ht
  | some v =>
    rw [address, hv] at ht
    cases ht
    exact h v s (stands_of_present? hv) hs

theorem keeps_option {set : Option String → Settings → Settings}
    (h : ∀ v s, (∀ w ∈ v, Stands w) → P s → P (set v s)) : (option set).Keeps P := by
  intro value s t hs ht
  rw [option] at ht
  cases ht
  exact h _ s (fun w hw => stands_of_present? hw) hs

theorem keeps_unlessBlank {set : String → Settings → Settings}
    (h : ∀ v s, Stands v → P s → P (set v s)) : (unlessBlank set).Keeps P := by
  intro value s t hs ht
  cases hv : present? value with
  | none => rw [unlessBlank, hv] at ht; cases ht; exact hs
  | some v =>
    rw [unlessBlank, hv] at ht
    cases ht
    exact h v s (stands_of_present? hv) hs

theorem lt_of_unsigned? {n bound : Nat} {numeral : List Char}
    (h : Text.unsigned? bound numeral = some n) : n < bound := by
  have hfilter := (Option.filter_eq_some_iff.mp h).2
  simpa using hfilter

theorem keeps_number {set : Nat → Settings → Settings}
    (h : ∀ n s, n < 1 <<< bits → P s → P (set n s)) : (number bits set).Keeps P := by
  intro value s t hs ht
  cases hn : Text.unsigned? (1 <<< bits) (Text.trim value.toList) with
  | none => rw [number, hn] at ht; cases ht
  | some n =>
    rw [number, hn] at ht
    cases ht
    exact h n s (lt_of_unsigned? hn) hs

theorem keeps_positive {set : Nat → Settings → Settings}
    (h : ∀ n s, n ≠ 0 → n < 1 <<< bits → P s → P (set n s)) : (positive bits set).Keeps P := by
  intro value s t hs ht
  cases hn : Text.unsigned? (1 <<< bits) (Text.trim value.toList) with
  | none => rw [positive, hn] at ht; cases ht
  | some n =>
    rw [positive, hn] at ht
    simp only at ht
    split at ht
    · cases ht
    · next hpos =>
      cases ht
      exact h n s hpos (lt_of_unsigned? hn) hs

theorem keeps_optionalPositive {set : Option Nat → Settings → Settings}
    (h : ∀ n s, (∀ m ∈ n, m ≠ 0 ∧ m < 1 <<< bits) → P s → P (set n s)) :
    (optionalPositive bits set).Keeps P := by
  intro value s t hs ht
  cases hv : present? value with
  | none =>
    rw [optionalPositive, hv] at ht
    cases ht
    exact h none s nofun hs
  | some v =>
    rw [optionalPositive, hv] at ht
    refine keeps_positive (fun n s hpos hlt => h (some n) s ?_) value s t hs ht
    rintro m ⟨⟩
    exact ⟨hpos, hlt⟩

end ControlPlane.Settings
