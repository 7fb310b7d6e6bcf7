import ControlPlane.Json.Record
import ControlPlane.Proofs.Json.Reading
import ControlPlane.Proofs.Json.Tokens

/-!
# Reading values that were written

The compact text of a value, followed by anything that does not go on with a number, is read as that
value with the members of its objects in key order, if the value nests no deeper than the reader
goes. If it does, the reader refuses the text at the bracket that is one too many.

## Main definitions

- `Json.ReadsBack`: what reading the text of a value comes to.

## Main statements

- `Json.readItems_printItems`, `Json.readMembers_printMembers`: the insides of arrays and objects.
- `Json.readsBack`: every value with whole numbers reads back.
-/

namespace ControlPlane.Json

variable {levels : Nat} {rest : List UInt8}

/-! ## Scalars -/

theorem Number.Whole.cases {n : Number} (h : n.Whole) :
    (∃ m : Nat, n = .int m ∧ m < UInt64.size) ∨
      ∃ m : Nat, n = .int (-m) ∧ 0 < m ∧ m ≤ 1 <<< 63 := by
  cases n with
  | float x => exact h.elim
  | int i =>
    obtain ⟨hlow, hhigh⟩ := h
    cases i with
    | ofNat m => exact .inl ⟨m, rfl, Int.ofNat_lt.1 hhigh⟩
    | negSucc m =>
      refine .inr ⟨m + 1, rfl, Nat.succ_pos m, ?_⟩
      simp only [Int.negSucc_eq, Nat.reduceShiftLeft] at hlow ⊢
      omega

theorem isBlankOctet_of_isDigitOctet {b : UInt8} (h : isDigitOctet b = true) :
    isBlankOctet b = false := by
  have hle : 48 ≤ b.toNat :=
    UInt8.le_iff_toNat_le.1 (of_decide_eq_true (Bool.and_eq_true_iff.1 h).1)
  have hne : ∀ c : UInt8, c.toNat < 48 → (b == c) = false := fun c hc =>
    beq_eq_false_iff_ne.2 fun he => absurd (he ▸ hle) (Nat.not_le.2 hc)
  rw [isBlankOctet, hne 32 (by decide), hne 9 (by decide), hne 10 (by decide), hne 13 (by decide)]
  rfl

/-- The front of a number that is written in digits. -/
theorem readStart_digits {input : List UInt8} {b : UInt8} {more : List UInt8}
    (hinput : input = b :: more) (hb : isDigitOctet b = true) :
    readStart input =
      (scanNumberValue false input).map fun (n, rest) => .scalar (.number n) rest := by
  subst hinput
  have hne {c : UInt8} (hc : isDigitOctet c = false) : b ≠ c := ne_of_isDigitOctet hb hc
  simp only [readStart, skipBlanks_cons (isBlankOctet_of_isDigitOctet hb)]
  rw [if_neg (hne (by decide)), if_neg (hne (by decide)), if_neg (hne (by decide)),
    if_neg (hne (by decide)), if_neg (hne (by decide)), if_neg (hne (by decide)),
    if_neg (hne (by decide)), if_pos hb]

theorem readStart_printNat {n : Nat} (hn : n < UInt64.size) (hrest : EndsNumber rest) :
    readStart (printNat n ++ rest) = .ok (.scalar (.number (.int n)) rest) := by
  obtain ⟨b, more, hdigits⟩ := List.exists_cons_of_ne_nil (printNat_ne_nil n)
  have hb : isDigitOctet b = true :=
    isDigitOctet_of_mem_printNat (n := n) (hdigits ▸ List.mem_cons_self)
  rw [readStart_digits (by rw [hdigits, List.cons_append]) hb, scanNumberValue_printNat hn hrest]
  rfl

theorem readStart_printNat_neg {n : Nat} (hpos : 0 < n) (hn : n ≤ 1 <<< 63)
    (hrest : EndsNumber rest) :
    readStart (ascii '-' :: printNat n ++ rest) = .ok (.scalar (.number (.int (-n))) rest) := by
  have hstart : readStart (ascii '-' :: (printNat n ++ rest)) =
      (scanNumberValue true (printNat n ++ rest)).map fun (n, rest) =>
        .scalar (.number n) rest := rfl
  rw [List.cons_append, hstart, scanNumberValue_printNat_neg hpos hn hrest]
  rfl

theorem readStart_printNumber {n : Number} (h : n.Whole) (hrest : EndsNumber rest) :
    readStart (printNumber n ++ rest) = .ok (.scalar (.number n) rest) := by
  rcases h.cases with ⟨m, rfl, hm⟩ | ⟨m, rfl, hpos, hm⟩
  · exact readStart_printNat hm hrest
  · obtain ⟨k, rfl⟩ := Nat.exists_eq_succ_of_ne_zero (Nat.ne_of_gt hpos)
    exact readStart_printNat_neg hpos hm hrest

theorem readStart_printString (s : String) (rest : List UInt8) :
    readStart (printString s ++ rest) = .ok (.scalar (.string s) rest) := by
  have hstart : readStart (printString s ++ rest) =
      (scanString ((Text.utf8 s).flatMap escapeOctet ++ [ascii '"'] ++ rest)).map
        fun p => .scalar (.string p.1) p.2 := rfl
  rw [hstart, List.append_assoc, List.singleton_append, scanString_escaped]
  rfl

/-! ## Arrays and objects -/

/-- What reading the text of a value comes to, whatever follows. -/
def ReadsBack (levels : Nat) (v : Json) : Prop :=
  ∀ rest, EndsNumber rest →
    readValue levels (print v ++ rest) =
      if depth v ≤ levels then .ok (sorted v, rest) else .error .malformed

/-- The text of a value does not start with a blank or a closing bracket. -/
theorem print_eq_cons {v : Json} (h : v.Whole) :
    ∃ b more, print v = b :: more ∧ isBlankOctet b = false ∧ b ≠ ascii ']' := by
  cases v with
  | null => exact ⟨_, _, rfl, by decide, by decide⟩
  | bool b => cases b <;> exact ⟨_, _, rfl, by decide, by decide⟩
  | string s => exact ⟨_, _, rfl, by decide, by decide⟩
  | array items => exact ⟨_, _, rfl, by decide, by decide⟩
  | object members => exact ⟨_, _, rfl, by decide, by decide⟩
  | number n =>
    have hn : n.Whole := h.here
    rcases hn.cases with ⟨m, rfl, -⟩ | ⟨m, rfl, hpos, -⟩
    · obtain ⟨b, more, hdigits⟩ := List.exists_cons_of_ne_nil (printNat_ne_nil m)
      have hb : isDigitOctet b = true :=
        isDigitOctet_of_mem_printNat (n := m) (hdigits ▸ List.mem_cons_self)
      refine ⟨b, more, hdigits, isBlankOctet_of_isDigitOctet hb, ?_⟩
      rintro rfl
      exact absurd hb (by decide)
    · obtain ⟨k, rfl⟩ := Nat.exists_eq_succ_of_ne_zero (Nat.ne_of_gt hpos)
      exact ⟨_, _, rfl, by decide, by decide⟩

theorem endsNumber_printMoreItems (items : List Json) (rest : List UInt8) :
    EndsNumber (printMoreItems items ++ ascii ']' :: rest) := by
  cases items with
  | nil => exact endsNumber_bracket
  | cons v items => exact endsNumber_comma

theorem endsNumber_printMoreMembers (members : List (String × Json)) (rest : List UInt8) :
    EndsNumber (printMoreMembers members ++ ascii '\x7d' :: rest) := by
  cases members with
  | nil => exact endsNumber_brace
  | cons m members => exact endsNumber_comma

theorem readItems_close {α : Type} (item : Reader α) (fuel : Nat) (first : Bool)
    (rest : List UInt8) : readItems item (fuel + 1) first (ascii ']' :: rest) = .ok ([], rest) := by
  simp only [readItems, nextEntry_close first (by decide : isBlankOctet (ascii ']') = false)]

theorem readMembers_close {σ κ : Type} (key : Reader κ) (member : σ → κ → Reader σ) (fuel : Nat)
    (first : Bool) (state : σ) (rest : List UInt8) :
    readMembers key member (fuel + 1) first state (ascii '\x7d' :: rest) = .ok (state, rest) := by
  simp only [readMembers, nextEntry_close first (by decide : isBlankOctet (ascii '\x7d') = false)]

/-- Every item takes an octet at least. -/
theorem length_le_printMoreItems (items : List Json) :
    items.length ≤ (printMoreItems items).length := by
  induction items with
  | nil => exact Nat.le_refl 0
  | cons v items ih =>
    simp only [printMoreItems, List.length_cons, List.length_append]
    omega

theorem length_le_printMoreMembers (members : List (String × Json)) :
    members.length ≤ (printMoreMembers members).length := by
  induction members with
  | nil => exact Nat.le_refl 0
  | cons m members ih =>
    simp only [printMoreMembers, List.length_cons, List.length_append]
    omega

theorem length_lt_printItems (items : List Json) (rest : List UInt8) :
    items.length < (printItems items ++ ascii ']' :: rest).length + 1 := by
  cases items with
  | nil => exact Nat.succ_pos _
  | cons v items =>
    have hitems := length_le_printMoreItems items
    simp only [printItems, List.length_cons, List.length_append]
    omega

theorem length_lt_printMembers (members : List (String × Json)) (rest : List UInt8) :
    members.length < (printMembers members ++ ascii '\x7d' :: rest).length + 1 := by
  cases members with
  | nil => exact Nat.succ_pos _
  | cons m members =>
    have hmembers := length_le_printMoreMembers members
    simp only [printMembers, List.length_cons, List.length_append]
    omega

/-- One item is read, and then those after it. -/
theorem readItems_step {first : Bool} {fuel : Nat} {v : Json} {items : List Json}
    {input : List UInt8} (hv : ReadsBack levels v)
    (hentry : nextEntry (ascii ']') first input =
      .ok (.more (print v ++ (printMoreItems items ++ ascii ']' :: rest))))
    (hitems : readItems (readValue levels) fuel false (printMoreItems items ++ ascii ']' :: rest) =
      if itemsDepth items ≤ levels then .ok (sortedItems items, rest) else .error .malformed) :
    readItems (readValue levels) (fuel + 1) first input =
      if itemsDepth (v :: items) ≤ levels then .ok (sortedItems (v :: items), rest)
      else .error .malformed := by
  have hread := hv _ (endsNumber_printMoreItems items rest)
  simp only [readItems, hentry, hread, itemsDepth, Nat.max_le, sortedItems]
  by_cases hdepth : depth v ≤ levels
  · simp only [hdepth, if_true, true_and, hitems]
    by_cases hrest : itemsDepth items ≤ levels
    · simp only [hrest, if_true]
    · simp only [hrest, if_false]
  · simp only [hdepth, if_false, false_and]

/-- Items after the first are read back up to the closing bracket. -/
theorem readItems_printMoreItems {fuel : Nat} {items : List Json} (hwhole : ∀ w ∈ items, w.Whole)
    (hback : ∀ w ∈ items, ReadsBack levels w) (hfuel : items.length < fuel) :
    readItems (readValue levels) fuel false (printMoreItems items ++ ascii ']' :: rest) =
      if itemsDepth items ≤ levels then .ok (sortedItems items, rest) else .error .malformed := by
  induction items generalizing fuel with
  | nil =>
    obtain ⟨fuel, rfl⟩ := Nat.exists_eq_succ_of_ne_zero (Nat.ne_of_gt hfuel)
    exact (readItems_close ..).trans (if_pos (Nat.zero_le levels)).symm
  | cons v items ih =>
    obtain ⟨fuel, rfl⟩ := Nat.exists_eq_succ_of_ne_zero (Nat.ne_of_gt (Nat.zero_lt_of_lt hfuel))
    obtain ⟨hv, hitems⟩ := List.forall_mem_cons.1 hback
    obtain ⟨hwv, hwitems⟩ := List.forall_mem_cons.1 hwhole
    refine readItems_step hv ?_ (ih hwitems hitems (Nat.lt_of_succ_lt_succ hfuel))
    obtain ⟨b, more, hprint, hblank, hb⟩ := print_eq_cons hwv
    simp only [printMoreItems, hprint, List.cons_append, List.append_assoc]
    exact nextEntry_comma (by decide) hblank hb

/-- All items are read back up to the closing bracket. -/
theorem readItems_printItems {fuel : Nat} {items : List Json} (hwhole : ∀ w ∈ items, w.Whole)
    (hback : ∀ w ∈ items, ReadsBack levels w) (hfuel : items.length < fuel) :
    readItems (readValue levels) fuel true (printItems items ++ ascii ']' :: rest) =
      if itemsDepth items ≤ levels then .ok (sortedItems items, rest) else .error .malformed := by
  obtain ⟨fuel, rfl⟩ := Nat.exists_eq_succ_of_ne_zero (Nat.ne_of_gt (Nat.zero_lt_of_lt hfuel))
  cases items with
  | nil =>
    exact (readItems_close ..).trans (if_pos (Nat.zero_le levels)).symm
  | cons v items =>
    obtain ⟨hv, hitems⟩ := List.forall_mem_cons.1 hback
    obtain ⟨hwv, hwitems⟩ := List.forall_mem_cons.1 hwhole
    refine readItems_step hv ?_
      (readItems_printMoreItems hwitems hitems (Nat.lt_of_succ_lt_succ hfuel))
    obtain ⟨b, more, hprint, hblank, hb⟩ := print_eq_cons hwv
    simp only [printItems, hprint, List.cons_append, List.append_assoc]
    exact nextEntry_first hblank hb

/-- One member is read into those before it. -/
theorem readInto_printMember {v : Json} (hv : ReadsBack levels v) (hrest : EndsNumber rest)
    (before : List (String × Json)) (key : String) :
    readInto levels before key (ascii ':' :: print v ++ rest) =
      if depth v ≤ levels then .ok (putMember before key (sorted v), rest)
      else .error .malformed := by
  rw [List.cons_append]
  simp only [readInto, readColon_cons, hv rest hrest, bind, Except.bind]
  by_cases hdepth : depth v ≤ levels
  · simp only [hdepth, if_true]
    rfl
  · simp only [hdepth, if_false]

/-- The first member stands where its object starts. -/
theorem nextEntry_printMember (m : String × Json) (more : List UInt8) :
    nextEntry (ascii '\x7d') true (printMember m ++ more) =
      .ok (.more (printMember m ++ more)) := by
  obtain ⟨key, v⟩ := m
  simp only [printMember, printString, List.cons_append]
  exact nextEntry_first (by decide) (by decide)

/-- Another member stands behind a comma. -/
theorem nextEntry_comma_printMember (m : String × Json) (more : List UInt8) :
    nextEntry (ascii '\x7d') false (ascii ',' :: (printMember m ++ more)) =
      .ok (.more (printMember m ++ more)) := by
  obtain ⟨key, v⟩ := m
  simp only [printMember, printString, List.cons_append]
  exact nextEntry_comma (by decide) (by decide) (by decide)

/-- A member is read by its key, and then those after it. -/
theorem readMembers_printMember {σ : Type} {member : σ → String → Reader σ} {fuel : Nat}
    {first : Bool} {state : σ} {key : String} {v : Json} {input more : List UInt8}
    (hentry : nextEntry (ascii '\x7d') first input = .ok (.more (printMember (key, v) ++ more))) :
    readMembers scanString member (fuel + 1) first state input =
      match member state key (ascii ':' :: print v ++ more) with
      | .error e => .error e
      | .ok (state, rest) => readMembers scanString member fuel false state rest := by
  have hkey := scanString_escaped key (ascii ':' :: (print v ++ more))
  simp only [printMember, printString, List.cons_append, List.append_assoc, List.nil_append]
    at hentry
  cases hmember : member state key (ascii ':' :: (print v ++ more)) with
  | error e => simp only [readMembers, hentry, hkey, if_true, List.cons_append, hmember]
  | ok p => simp only [readMembers, hentry, hkey, if_true, List.cons_append, hmember]

/-- One member is read, and then those after it. -/
theorem readMembers_step {first : Bool} {fuel : Nat} {before : List (String × Json)} {key : String}
    {v : Json} {members : List (String × Json)} {input : List UInt8} (hv : ReadsBack levels v)
    (hentry : nextEntry (ascii '\x7d') first input =
      .ok (.more (printMember (key, v) ++ (printMoreMembers members ++ ascii '\x7d' :: rest))))
    (hmembers : readMembers scanString (readInto levels) fuel false
        (putMember before key (sorted v)) (printMoreMembers members ++ ascii '\x7d' :: rest) =
      if membersDepth members ≤ levels then
        .ok (sortedMembers (putMember before key (sorted v)) members, rest)
      else .error .malformed) :
    readMembers scanString (readInto levels) (fuel + 1) first before input =
      if membersDepth ((key, v) :: members) ≤ levels then
        .ok (sortedMembers before ((key, v) :: members), rest)
      else .error .malformed := by
  have hread := readInto_printMember hv (endsNumber_printMoreMembers members rest) before key
  rw [readMembers_printMember hentry, hread]
  simp only [membersDepth, memberDepth, Nat.max_le, sortedMembers, sortedMember]
  by_cases hdepth : depth v ≤ levels
  · simp only [hdepth, if_true, true_and, hmembers]
  · simp only [hdepth, if_false, false_and]

/-- Members after the first are read back up to the closing bracket. -/
theorem readMembers_printMoreMembers {fuel : Nat} {before members : List (String × Json)}
    (hback : ∀ m ∈ members, ReadsBack levels m.2) (hfuel : members.length < fuel) :
    readMembers scanString (readInto levels) fuel false before
        (printMoreMembers members ++ ascii '\x7d' :: rest) =
      if membersDepth members ≤ levels then .ok (sortedMembers before members, rest)
      else .error .malformed := by
  induction members generalizing fuel before with
  | nil =>
    obtain ⟨fuel, rfl⟩ := Nat.exists_eq_succ_of_ne_zero (Nat.ne_of_gt hfuel)
    exact (readMembers_close ..).trans (if_pos (Nat.zero_le levels)).symm
  | cons m members ih =>
    obtain ⟨fuel, rfl⟩ := Nat.exists_eq_succ_of_ne_zero (Nat.ne_of_gt (Nat.zero_lt_of_lt hfuel))
    obtain ⟨key, v⟩ := m
    obtain ⟨hv, hmembers⟩ := List.forall_mem_cons.1 hback
    refine readMembers_step hv ?_ (ih hmembers (Nat.lt_of_succ_lt_succ hfuel))
    rw [printMoreMembers, List.cons_append, List.cons_append, List.append_assoc]
    exact nextEntry_comma_printMember ..

/-- All members are read back up to the closing bracket. -/
theorem readMembers_printMembers {fuel : Nat} {members : List (String × Json)}
    (hback : ∀ m ∈ members, ReadsBack levels m.2) (hfuel : members.length < fuel) :
    readMembers scanString (readInto levels) fuel true []
        (printMembers members ++ ascii '\x7d' :: rest) =
      if membersDepth members ≤ levels then .ok (sortedMembers [] members, rest)
      else .error .malformed := by
  obtain ⟨fuel, rfl⟩ := Nat.exists_eq_succ_of_ne_zero (Nat.ne_of_gt (Nat.zero_lt_of_lt hfuel))
  cases members with
  | nil =>
    exact (readMembers_close ..).trans (if_pos (Nat.zero_le levels)).symm
  | cons m members =>
    obtain ⟨key, v⟩ := m
    obtain ⟨hv, hmembers⟩ := List.forall_mem_cons.1 hback
    refine readMembers_step hv ?_
      (readMembers_printMoreMembers hmembers (Nat.lt_of_succ_lt_succ hfuel))
    rw [printMembers, List.append_assoc]
    exact nextEntry_printMember ..

/-- Every value with whole numbers reads back, as far as the reader goes. -/
theorem readsBack {v : Json} (h : v.Whole) (levels : Nat) : ReadsBack levels v := by
  induction v using induction_children generalizing levels with
  | inside v ih =>
    intro rest hrest
    cases v with
    | null => exact readValue_of_scalar rfl
    | bool b =>
      cases b
      · exact readValue_of_scalar rfl
      · exact readValue_of_scalar rfl
    | number n => exact readValue_of_scalar (readStart_printNumber h.here hrest)
    | string s => exact readValue_of_scalar (readStart_printString s rest)
    | array items =>
      cases levels with
      | zero => rfl
      | succ levels =>
        have hback : ∀ w ∈ items, ReadsBack levels w := fun w hw => ih w hw (h.child hw) levels
        have hwhole : ∀ w ∈ items, w.Whole := fun w hw => h.child hw
        simp only [print, List.cons_append, List.append_assoc, List.nil_append]
        rw [readValue_of_array rfl,
          readItems_printItems hwhole hback (length_lt_printItems items rest)]
        simp only [depth, Nat.add_le_add_iff_right, sorted]
        split <;> rfl
    | object members =>
      cases levels with
      | zero => rfl
      | succ levels =>
        have hback : ∀ m ∈ members, ReadsBack levels m.2 := fun m hm =>
          have hchild : m.2 ∈ (object members).children := List.mem_map_of_mem hm
          ih m.2 hchild (h.child hchild) levels
        simp only [print, List.cons_append, List.append_assoc, List.nil_append]
        rw [readValue_of_object rfl,
          readMembers_printMembers hback (length_lt_printMembers members rest)]
        simp only [depth, Nat.add_le_add_iff_right, sorted]
        split <;> rfl

/-! ## Records -/

section Record

variable {σ : Type} {fields : List (Field σ)} {state : σ} {input : List UInt8}

/-- A member with the key of a field that is still missing is read as that field. -/
theorem readMember_of_find? {key : String} {f : Field σ}
    (hf : fields.find? (·.key == key) = some f) (hnew : f.filled state = false) :
    readMember fields state key (ascii ':' :: input) = f.read state input := by
  rw [readMember, hf]
  simp only [hnew, Bool.false_eq_true, if_false, readColon_cons, bind, Except.bind]

/-- A record that is written as an object is complete when no field is missing. -/
theorem readRecord_of_object {name : String} (hstart : readStart input = .ok (.object rest)) :
    readRecord name fields state input =
      match readMembers scanString (readMember fields) (rest.length + 1) true state rest with
      | .error e => .error e
      | .ok (state, rest) =>
        match missing? fields state with
        | some key => .error (.mismatch (.missingField key))
        | none => .ok (state, rest) := by
  simp only [readRecord, hstart, bind, Except.bind]
  cases readMembers scanString (readMember fields) (rest.length + 1) true state rest <;> rfl

end Record

end ControlPlane.Json
