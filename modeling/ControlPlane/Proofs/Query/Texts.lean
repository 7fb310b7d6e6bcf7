import ControlPlane.Query.File
import ControlPlane.Proofs.Json.Escapes

/-!
# The texts of query files

A list of queries has many texts. The members of a query stand in any order with others between
them, levels may be left out where there are none, blanks stand around every mark, and a character
of a string is escaped or not. Whichever of them stands in a file, loading the file gives the list,
in its order, and no file with another content gives it.

## Main definitions

- `LogicalQuery.Written`: the texts of a query.
- `QueryFile.Written`: the texts of a list of queries.

## Main statements

- `QueryFile.parse_eq_ok_iff`: a list of queries is read from its texts and from no others.
- `QueryFile.load_eq_ok_iff`: the same for files.
- `QueryFile.exists_load`: every list of queries can be loaded.
-/

namespace ControlPlane

open Json (Along Ascii Blanks FieldPart Filled HasMember Independent ItemTexts ListText MemberTexts
  NaturalText Once Puts ReadsAll ReadsOnly Reader RecordText Skimmed SpellsText Starts StringText
  Taken ascii missing? readList readText readUnsigned)

namespace LogicalQuery

/-! ## The texts of a query -/

/-- The text of a level. -/
def LevelText (text : List UInt8) (level : UInt8) : Prop := NaturalText 8 text level.toNat

/-- A text of a query: an object with its fields, or an array of them in their order. -/
inductive Written (q : LogicalQuery) : List UInt8 → Prop
  | object {inside : List UInt8} {members : List (String × List UInt8)}
      (cut : MemberTexts SpellsText inside members)
      (name : HasMember members "name" StringText q.name)
      (operators : HasMember members "operators" (ListText StringText) q.operators)
      (levels : HasMember members "refinement_levels" (ListText LevelText) q.levels ∨
        members.filter (·.1 == "refinement_levels") = [] ∧ q.levels = [])
      (others : ∀ m ∈ members, m.1 ∉ ["name", "operators", "refinement_levels"] → Skimmed m.2) :
      Written q (ascii '\x7b' :: inside)
  | array {inside name operators : List UInt8} {levels : List (List UInt8)}
      (cut : ItemTexts inside (name :: operators :: levels)) (named : StringText name q.name)
      (operated : ListText StringText operators q.operators)
      (levelled : (∃ text, levels = [text] ∧ ListText LevelText text q.levels) ∨
        levels = [] ∧ q.levels = []) :
      Written q (ascii '[' :: inside)

/-! ## Reading levels -/

/-- A list of levels, from the numbers that are read for it. -/
def readLevels : Reader (List UInt8) := fun input =>
  (readList (readUnsigned 8) input).map fun (ns, rest) => (ns.map UInt8.ofNat, rest)

theorem LevelText.starts {text : List UInt8} {level : UInt8} (h : LevelText text level) :
    Starts text :=
  (h.scalarText (by decide)).skimmed.starts

theorem readsOnly_readLevels : ReadsOnly readLevels (ListText LevelText) := by
  intro input levels rest h
  obtain ⟨ws, text, hws, ⟨ns, htext, rfl⟩, hinput⟩ :=
    (Json.readsOnly_readList (Json.readsOnly_readUnsigned 8)).map (f := List.map UInt8.ofNat) h
  refine ⟨ws, text, hws, ?_, hinput⟩
  cases htext with
  | intro cut values =>
    refine .intro cut ((List.forall₂_map_right_iff).2 (values.imp fun text n hn => ?_))
    have hback : (UInt8.ofNat n).toNat = n := UInt8.toNat_ofNat_of_lt hn.fits
    rw [LevelText, hback]
    exact hn

theorem readsAll_readLevels : ReadsAll readLevels (ListText LevelText) := by
  intro ws text levels rest hws h hrest
  have hnumbers : ListText (NaturalText 8) text (levels.map UInt8.toNat) := by
    cases h with
    | intro cut values => exact .intro cut ((List.forall₂_map_right_iff).2 values)
  have hback : (levels.map UInt8.toNat).map UInt8.ofNat = levels := by
    rw [List.map_map]
    exact List.map_id'' (fun _ => UInt8.ofNat_toNat) levels
  have hbits : 8 ≤ 64 := by decide
  have hread := Json.readsAll_readList (Json.readsAll_readUnsigned hbits)
    (fun h => (h.scalarText (by decide)).skimmed.starts) hws hnumbers hrest
  simp only [readLevels, hread, Except.map, hback]

/-! ## Reading a query -/

/-- The name of a query as a part of what has been read. -/
def namePart : FieldPart Partial where
  key := "name"
  optional := false
  reader := readText
  texts := StringText
  get := (·.name)
  put := fun p s => { p with name := some s }
  get_put _ _ := rfl
  readsOnly := Json.readsOnly_readText
  readsAll := Json.readsAll_readText
  starts := StringText.starts

/-- Its operators. -/
def operatorsPart : FieldPart Partial where
  key := "operators"
  optional := false
  reader := readList readText
  texts := ListText StringText
  get := (·.operators)
  put := fun p l => { p with operators := some l }
  get_put _ _ := rfl
  readsOnly := Json.readsOnly_readList Json.readsOnly_readText
  readsAll := Json.readsAll_readList Json.readsAll_readText StringText.starts
  starts := ListText.starts

/-- Its levels, which may be left out. -/
def levelsPart : FieldPart Partial where
  key := "refinement_levels"
  optional := true
  reader := readLevels
  texts := ListText LevelText
  get := (·.levels)
  put := fun p l => { p with levels := some l }
  get_put _ _ := rfl
  readsOnly := readsOnly_readLevels
  readsAll := readsAll_readLevels
  starts := ListText.starts

/-- The parts of a query, in the order of an array. -/
def parts : List (FieldPart Partial) := [namePart, operatorsPart, levelsPart]

/-- How a query file reads levels. -/
def readPartLevels (p : Partial) : Reader Partial := fun input =>
  (readList (readUnsigned 8) input).map fun r =>
    ({ p with levels := some (r.1.map UInt8.ofNat) }, r.2)

theorem fields_eq_parts : fields = parts.map FieldPart.field := by
  have hlevels : readPartLevels = levelsPart.field.read := by
    funext p input
    simp only [readPartLevels, levelsPart, FieldPart.field, readLevels]
    cases readList (readUnsigned 8) input <;> rfl
  calc fields = [namePart.field, operatorsPart.field,
        { levelsPart.field with read := readPartLevels }] := rfl
    _ = parts.map FieldPart.field := by
      rw [hlevels]
      rfl

theorem forall_mem_parts {P : FieldPart Partial → Prop} :
    (∀ p ∈ parts, P p) ↔ P namePart ∧ P operatorsPart ∧ P levelsPart := by
  simp only [parts, List.forall_mem_cons, List.not_mem_nil, false_implies, implies_true, and_true]

theorem independent_parts : Independent parts where
  keys := by decide
  get_put_of_ne := by
    simp only [forall_mem_parts]
    exact ⟨⟨fun h => absurd rfl h, fun _ _ _ => rfl, fun _ _ _ => rfl⟩,
      ⟨fun _ _ _ => rfl, fun h => absurd rfl h, fun _ _ _ => rfl⟩,
      fun _ _ _ => rfl, fun _ _ _ => rfl, fun h => absurd rfl h⟩
  ext := by
    intro p q h
    obtain ⟨hname, hoperators, hlevels⟩ := forall_mem_parts.1 h
    obtain ⟨name, operators, levels⟩ := p
    obtain ⟨name', operators', levels'⟩ := q
    dsimp only [namePart, operatorsPart, levelsPart] at hname hoperators hlevels
    rw [hname, hoperators, hlevels]

/-- The query that has been read. -/
def ofPartial (p : Partial) : LogicalQuery :=
  { name := p.name.getD "", operators := p.operators.getD [], levels := p.levels.getD [] }

variable {text : List UInt8} {p : Partial} {q : LogicalQuery}
  {members : List (String × List UInt8)}

/-- Members that fill a whole record. -/
theorem exists_along_iff :
    (∃ p, Along (Taken fields (Puts parts)) {} members p ∧ missing? fields p = none ∧
      ofPartial p = q) ↔
      HasMember members "name" StringText q.name ∧
      HasMember members "operators" (ListText StringText) q.operators ∧
      (HasMember members "refinement_levels" (ListText LevelText) q.levels ∨
        members.filter (·.1 == "refinement_levels") = [] ∧ q.levels = []) ∧
      Json.Others parts members := by
  simp only [fields_eq_parts, independent_parts.along_iff_once, Json.missing?_eq_none_iff_parts,
    forall_mem_parts]
  constructor
  · rintro ⟨⟨name, operators, levels⟩, ⟨⟨hname, hoperators, hlevels⟩, hothers⟩,
      ⟨hnamed, hoperated, -⟩, rfl⟩
    obtain ⟨name, rfl⟩ := Option.isSome_iff_exists.1 (hnamed rfl)
    obtain ⟨operators, rfl⟩ := Option.isSome_iff_exists.1 (hoperated rfl)
    refine ⟨Once.some_iff.1 hname, Once.some_iff.1 hoperators, ?_, hothers⟩
    cases levels with
    | none => exact .inr ⟨Once.none_iff.1 hlevels, rfl⟩
    | some levels => exact .inl (Once.some_iff.1 hlevels)
  · rintro ⟨hname, hoperators, hlevels | ⟨habsent, hempty⟩, hothers⟩
    · exact ⟨⟨some q.name, some q.operators, some q.levels⟩,
        ⟨⟨Once.some_iff.2 hname, Once.some_iff.2 hoperators, Once.some_iff.2 hlevels⟩, hothers⟩,
        ⟨fun _ => rfl, fun _ => rfl, fun h => absurd h (by decide)⟩, rfl⟩
    · refine ⟨⟨some q.name, some q.operators, none⟩,
        ⟨⟨Once.some_iff.2 hname, Once.some_iff.2 hoperators, Once.none_iff.2 habsent⟩, hothers⟩,
        ⟨fun _ => rfl, fun _ => rfl, fun h => absurd h (by decide)⟩, ?_⟩
      obtain ⟨name, operators, levels⟩ := q
      obtain rfl : levels = [] := hempty
      rfl

/-- Items that fill a whole record. -/
theorem exists_filled_iff {texts : List (List UInt8)} :
    (∃ p, Filled (Puts parts) fields {} texts p ∧ ofPartial p = q) ↔
      ∃ name operators levels, texts = name :: operators :: levels ∧ StringText name q.name ∧
        ListText StringText operators q.operators ∧
        ((∃ text, levels = [text] ∧ ListText LevelText text q.levels) ∨
          levels = [] ∧ q.levels = []) := by
  obtain ⟨hname, hoperators, hlevels⟩ := forall_mem_parts.1 fun p (hp : p ∈ parts) => hp
  have hfields : fields = [namePart.field, operatorsPart.field, levelsPart.field] :=
    fields_eq_parts
  rw [hfields]
  simp only [independent_parts.filled_cons_iff hname, independent_parts.filled_cons_iff hoperators,
    independent_parts.filled_cons_iff hlevels, Independent.filled_nil_iff]
  constructor
  · rintro ⟨p, hfilled, rfl⟩
    obtain ⟨-, -, hall⟩ | ⟨nameText, _, name, rfl, hn, hfilled⟩ := hfilled
    · cases hall
    obtain ⟨-, -, hall⟩ | ⟨operatorsText, _, operators, rfl, ho, hfilled⟩ := hfilled
    · cases hall
    obtain ⟨rfl, rfl, -⟩ | ⟨levelsText, _, levels, rfl, hl, rfl, rfl⟩ := hfilled
    · exact ⟨_, _, _, rfl, hn, ho, .inr ⟨rfl, rfl⟩⟩
    · exact ⟨_, _, _, rfl, hn, ho, .inl ⟨_, rfl, hl⟩⟩
  · rintro ⟨nameText, operatorsText, _, rfl, hn, ho, ⟨levelsText, rfl, hl⟩ | ⟨rfl, hempty⟩⟩
    · exact ⟨_, .inr ⟨_, _, _, rfl, hn, .inr ⟨_, _, _, rfl, ho, .inr ⟨_, _, _, rfl, hl, rfl, rfl⟩⟩⟩,
        rfl⟩
    · refine ⟨_, .inr ⟨_, _, _, rfl, hn, .inr ⟨_, _, _, rfl, ho, .inl ⟨rfl, rfl, rfl⟩⟩⟩, ?_⟩
      obtain ⟨name, operators, levels⟩ := q
      obtain rfl : levels = [] := hempty
      rfl

/-! ## The two forms -/

theorem others_iff : Json.Others parts members ↔
    ∀ m ∈ members, m.1 ∉ ["name", "operators", "refinement_levels"] → Skimmed m.2 := by
  refine forall₂_congr fun m _ => ?_
  simp only [forall_mem_parts, List.mem_cons, List.not_mem_nil, or_false, not_or, ne_eq,
    eq_comm (a := m.1)]
  rfl

theorem written_iff :
    q.Written text ↔ ∃ p, RecordText fields (Puts parts) {} text p ∧ ofPartial p = q := by
  constructor
  · intro h
    cases h with
    | object cut name operators levels others =>
      obtain ⟨p, halong, hcomplete, hq⟩ :=
        exists_along_iff.2 ⟨name, operators, levels, others_iff.2 others⟩
      exact ⟨p, .object cut halong hcomplete, hq⟩
    | array cut named operated levelled =>
      obtain ⟨p, hfilled, hq⟩ := exists_filled_iff.2 ⟨_, _, _, rfl, named, operated, levelled⟩
      exact ⟨p, .array cut hfilled, hq⟩
  · rintro ⟨p, hrecord, hq⟩
    cases hrecord with
    | object cut values complete =>
      obtain ⟨hname, hoperators, hlevels, hothers⟩ :=
        exists_along_iff.1 ⟨p, values, complete, hq⟩
      exact .object cut hname hoperators hlevels (others_iff.1 hothers)
    | array cut values =>
      obtain ⟨name, operators, levels, rfl, hname, hoperators, hlevels⟩ :=
        exists_filled_iff.1 ⟨p, values, hq⟩
      exact .array cut hname hoperators hlevels

theorem readsOnly_read : ReadsOnly read fun text q => q.Written text := by
  intro input q rest h
  have hrecord : ReadsOnly (Json.readRecord "struct LogicalQuery" fields {})
      (RecordText fields (Puts parts) {}) := fields_eq_parts ▸ Json.readsOnly_record
  obtain ⟨ws, text, hws, htext, hinput⟩ := hrecord.map (f := ofPartial) h
  exact ⟨ws, text, hws, written_iff.2 htext, hinput⟩

theorem readsAll_read : ReadsAll read fun text q => q.Written text := by
  intro ws text q rest hws h hrest
  have hrecord : ReadsAll (Json.readRecord "struct LogicalQuery" fields {})
      (RecordText fields (Puts parts) {}) :=
    fields_eq_parts ▸ Json.readsAll_record independent_parts
  exact hrecord.map (f := ofPartial) hws (written_iff.1 h) hrest

theorem Written.starts (h : q.Written text) : Starts text := by
  cases h with
  | object _ _ _ _ _ => exact ⟨_, _, rfl, by decide, by decide⟩
  | array _ _ _ _ => exact ⟨_, _, rfl, by decide, by decide⟩

theorem exists_written (q : LogicalQuery) : ∃ text, Ascii text ∧ q.Written text := by
  obtain ⟨name, hname, named⟩ := Json.exists_stringText q.name
  obtain ⟨operators, hoperators, operated⟩ :=
    Json.exists_listText fun s (_ : s ∈ q.operators) => Json.exists_stringText s
  obtain ⟨levels, hlevels, levelled⟩ : ∃ text, Ascii text ∧ ListText LevelText text q.levels :=
    Json.exists_listText fun level _ => Json.exists_naturalText level.toNat_lt
  have htexts : ∀ t ∈ [name, operators, levels], Ascii t := by
    simp only [List.forall_mem_cons, List.not_mem_nil, false_implies, implies_true, and_true]
    exact ⟨hname, hoperators, hlevels⟩
  obtain ⟨inside, hinside, cut⟩ := Json.exists_itemTexts htexts
  exact ⟨ascii '[' :: inside, .cons (by decide) hinside,
    .array cut named operated (.inl ⟨levels, rfl, levelled⟩)⟩

end LogicalQuery

/-! ## Files -/

namespace QueryFile

/-- A text of a list of queries, with blanks around it. -/
def Written (queries : List LogicalQuery) (octets : List UInt8) : Prop :=
  ∃ ws text ws', Blanks ws ∧ Blanks ws' ∧ ListText (fun text q => q.Written text) text queries ∧
    octets = ws ++ (text ++ ws')

theorem parse_eq_ok_iff {text : String} {queries : List LogicalQuery} :
    parse text = .ok queries ↔ Written queries (Text.utf8 text) :=
  Json.ofText_eq_ok_iff (Json.readsOnly_readList LogicalQuery.readsOnly_read)
    (Json.readsAll_readList LogicalQuery.readsAll_read LogicalQuery.Written.starts)

/-- Loading a file gives a list of queries just if the octets of the file form a text and that is
one of the texts of the list. -/
theorem load_eq_ok_iff {path : String} {octets : List UInt8} {queries : List LogicalQuery} :
    load path (.ok octets) = .ok queries ↔
      (∃ text, octets = Text.utf8 text) ∧ Written queries octets := by
  constructor
  · intro h
    simp only [load] at h
    split at h
    · cases h
    · next text htext =>
      have hutf8 := Json.utf8_of_ofUtf8? htext
      split at h
      · cases h
      · next queries hparse =>
        cases h
        exact ⟨⟨text, hutf8.symm⟩, hutf8 ▸ parse_eq_ok_iff.1 hparse⟩
  · rintro ⟨⟨text, rfl⟩, hwritten⟩
    simp only [load, Text.ofUtf8?_utf8, parse_eq_ok_iff.2 hwritten]

-- Fields in another order, a member that is no field, an escape of two code units, levels left out.
example :
    parse "[\x7b\"operators\": [\"map(\\ud83d\\ude00)\"], \"x\": [null, -1.5e3], \"name\":\"q\"\x7d ]" =
      .ok [{ name := "q", operators := ["map(😀)"], levels := [] }] := by
  decide +kernel

/-- Every list of queries can be written to a file from which it is loaded. -/
theorem exists_load (path : String) (queries : List LogicalQuery) :
    ∃ octets, load path (.ok octets) = .ok queries := by
  obtain ⟨octets, hascii, hlist⟩ :=
    Json.exists_listText fun q (_ : q ∈ queries) => q.exists_written
  obtain ⟨text, rfl⟩ := hascii.exists_utf8
  refine ⟨Text.utf8 text, ?_⟩
  have hwritten : Written queries (Text.utf8 text) :=
    ⟨[], _, [], .nil, .nil, hlist, (List.append_nil _).symm⟩
  simp only [load, Text.ofUtf8?_utf8, parse_eq_ok_iff.2 hwritten]

end QueryFile

end ControlPlane
