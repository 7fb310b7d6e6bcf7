import ControlPlane.Json.Value
import Mathlib.Data.String.Basic

/-!
# The parts of a value

Arrays and objects hold values, and these hold values in their turn. What is said of a value and of
everything inside it is proved by induction on the values that stand directly inside.

A text gives the members of an object in any order and may repeat a key. The object that it denotes
has them in key order, and of equal keys it has the last.

## Main definitions

- `Json.children`: the values directly inside an array or object.
- `Json.Everywhere`: a property of a value and of everything inside it.
- `Json.Whole`: all numbers are whole and fit 64 bits.
- `Json.Ordered`: all objects have their keys in increasing order.
- `Json.sorted`: the value with the members of all objects in key order.

## Main statements

- `Json.induction_children`: induction on the values directly inside.
- `Json.depth_le_succ_iff`: how deep a value is, told by the values directly inside.
- `Json.sorted_of_ordered`: a value in order stays as it is.
-/

namespace ControlPlane.Json

/-- The values directly inside an array or object. -/
def children : Json → List Json
  | .array items => items
  | .object members => members.map (·.2)
  | _ => []

theorem sizeOf_lt_of_mem_children {v w : Json} (h : w ∈ v.children) : sizeOf w < sizeOf v := by
  cases v with
  | array items =>
    have hitem : sizeOf w < sizeOf items := List.sizeOf_lt_of_mem h
    simp only [array.sizeOf_spec]
    omega
  | object members =>
    obtain ⟨⟨k, u⟩, hm, rfl⟩ := List.mem_map.1 h
    have hmember := List.sizeOf_lt_of_mem hm
    simp only [object.sizeOf_spec, Prod.mk.sizeOf_spec] at hmember ⊢
    omega
  | null => cases h
  | bool b => cases h
  | number n => cases h
  | string s => cases h

/-- Induction on the values directly inside. -/
theorem induction_children {motive : Json → Prop}
    (inside : ∀ v, (∀ w ∈ v.children, motive w) → motive v) (v : Json) : motive v :=
  inside v fun w _ => induction_children inside w
termination_by sizeOf v
decreasing_by exact sizeOf_lt_of_mem_children ‹_›

/-- A property of a value and of everything inside it. -/
inductive Everywhere (p : Json → Prop) : Json → Prop
  | intro {v : Json} (here : p v) (inside : ∀ w ∈ v.children, Everywhere p w) : Everywhere p v

namespace Everywhere

variable {p q : Json → Prop} {v : Json}

theorem here (h : Everywhere p v) : p v := by
  cases h with
  | intro here _ => exact here

theorem child (h : Everywhere p v) {w : Json} (hw : w ∈ v.children) : Everywhere p w := by
  cases h with
  | intro _ inside => exact inside w hw

end Everywhere

/-! ## Depth -/

theorem itemsDepth_le_iff {items : List Json} {n : Nat} :
    itemsDepth items ≤ n ↔ ∀ w ∈ items, depth w ≤ n := by
  induction items with
  | nil => simp [itemsDepth]
  | cons v rest ih => simp only [itemsDepth, Nat.max_le, ih, List.forall_mem_cons]

theorem membersDepth_le_iff {members : List (String × Json)} {n : Nat} :
    membersDepth members ≤ n ↔ ∀ m ∈ members, depth m.2 ≤ n := by
  induction members with
  | nil => simp [membersDepth]
  | cons m rest ih =>
    obtain ⟨k, v⟩ := m
    simp only [membersDepth, memberDepth, Nat.max_le, ih, List.forall_mem_cons]

/-- A value is at most one deeper than the deepest value inside. -/
theorem depth_le_succ_iff {v : Json} {n : Nat} :
    depth v ≤ n + 1 ↔ ∀ w ∈ v.children, depth w ≤ n := by
  cases v with
  | array items => simp only [depth, Nat.add_le_add_iff_right, itemsDepth_le_iff, children]
  | object members =>
    simp only [depth, Nat.add_le_add_iff_right, membersDepth_le_iff, children, List.forall_mem_map]
  | null => simp [depth, children]
  | bool b => simp [depth, children]
  | number n => simp [depth, children]
  | string s => simp [depth, children]

theorem depth_lt_of_mem_children {v w : Json} (h : w ∈ v.children) : depth w < depth v := by
  cases hv : depth v with
  | zero =>
    cases v with
    | array items => simp [depth] at hv
    | object members => simp [depth] at hv
    | null => cases h
    | bool b => cases h
    | number n => cases h
    | string s => cases h
  | succ n => exact Nat.lt_succ_of_le (depth_le_succ_iff.1 (Nat.le_of_eq hv) w h)

theorem depth_pair {k l : String} {v w : Json} :
    depth (object [(k, v), (l, w)]) = max (depth v) (depth w) + 1 := by
  simp only [depth, membersDepth, memberDepth, Nat.max_zero]

/-! ## Numbers -/

/-- The numbers that fit a word of 64 bits, signed below zero and unsigned from zero on. -/
def Number.Whole : Number → Prop
  | .int n => -(1 <<< 63) ≤ n ∧ n < 1 <<< 64
  | .float _ => False

/-- All numbers are whole and fit 64 bits. -/
def Whole : Json → Prop :=
  Everywhere fun
    | .number n => n.Whole
    | _ => True

theorem whole_ofNat {n : Nat} (h : n < 1 <<< 64) : (ofNat n).Whole :=
  .intro ⟨Int.le_trans (by decide) (Int.natCast_nonneg n), Int.ofNat_lt.2 h⟩ (List.forall_mem_nil _)

theorem whole_string (s : String) : (string s).Whole :=
  .intro trivial (List.forall_mem_nil _)

theorem whole_array {items : List Json} (h : ∀ v ∈ items, v.Whole) : (array items).Whole :=
  .intro trivial h

theorem whole_singleton {k : String} {v : Json} (h : v.Whole) : (object [(k, v)]).Whole :=
  .intro trivial (List.forall_mem_singleton.2 h)

theorem whole_pair {k l : String} {v w : Json} (hv : v.Whole) (hw : w.Whole) :
    (object [(k, v), (l, w)]).Whole :=
  .intro trivial (List.forall_mem_cons.2 ⟨hv, List.forall_mem_singleton.2 hw⟩)

/-! ## Members in order -/

/-- The keys of members increase. -/
def KeysIncrease (members : List (String × Json)) : Prop :=
  members.Pairwise fun m n => m.1 < n.1

/-- All objects have their keys in increasing order. -/
def Ordered : Json → Prop :=
  Everywhere fun
    | .object members => KeysIncrease members
    | _ => True

/-- A member with a larger key than all others comes last. -/
theorem putMember_of_lt {members : List (String × Json)} {key : String} {value : Json}
    (h : ∀ m ∈ members, m.1 < key) : putMember members key value = members ++ [(key, value)] := by
  induction members with
  | nil => rfl
  | cons m rest ih =>
    obtain ⟨k, v⟩ := m
    have hk : k < key := h (k, v) List.mem_cons_self
    have hne : key ≠ k := fun he => String.lt_irrefl k (he ▸ hk)
    rw [putMember, if_neg (String.lt_asymm hk), if_neg hne,
      ih fun m hm => h m (List.mem_cons_of_mem _ hm), List.cons_append]

/-- Every member is the one that was put, or was there before. -/
theorem mem_putMember {members : List (String × Json)} {key : String} {value : Json}
    {m : String × Json} (h : m ∈ putMember members key value) : m = (key, value) ∨ m ∈ members := by
  induction members with
  | nil => exact .inl (List.mem_singleton.1 h)
  | cons n rest ih =>
    obtain ⟨k, v⟩ := n
    rw [putMember] at h
    split at h
    · exact (List.mem_cons.1 h).imp_right id
    · split at h
      · exact (List.mem_cons.1 h).imp_right (List.mem_cons_of_mem _)
      · rcases List.mem_cons.1 h with rfl | h
        · exact .inr List.mem_cons_self
        · exact (ih h).imp_right (List.mem_cons_of_mem _)

/-- Putting a member keeps the keys increasing. -/
theorem KeysIncrease.putMember {members : List (String × Json)} (h : KeysIncrease members)
    (key : String) (value : Json) : KeysIncrease (putMember members key value) := by
  induction members with
  | nil => exact List.pairwise_singleton _ _
  | cons n rest ih =>
    obtain ⟨k, v⟩ := n
    obtain ⟨hfirst, hrest⟩ := List.pairwise_cons.1 h
    rw [Json.putMember]
    split
    · next hlt =>
      refine List.pairwise_cons.2 ⟨fun m hm => ?_, h⟩
      rcases List.mem_cons.1 hm with rfl | hm
      · exact hlt
      · exact String.lt_trans hlt (hfirst m hm)
    · next hnlt =>
      split
      · next heq => exact List.pairwise_cons.2 ⟨heq ▸ hfirst, hrest⟩
      · next hne =>
        refine List.pairwise_cons.2 ⟨fun m hm => ?_, ih hrest⟩
        rcases mem_putMember hm with rfl | hm
        · exact (String.not_lt.1 hnlt).lt_of_ne (Ne.symm hne)
        · exact hfirst m hm

mutual

/-- The value with the members of all objects in key order, of equal keys the last. -/
def sorted : Json → Json
  | .array items => .array (sortedItems items)
  | .object members => .object (sortedMembers [] members)
  | v => v
  termination_by structural v => v

/-- Items with the members of all objects in key order. -/
def sortedItems : List Json → List Json
  | [] => []
  | v :: rest => sorted v :: sortedItems rest
  termination_by structural vs => vs

/-- The members `before`, which are in key order, with more members put among them. -/
def sortedMembers (before : List (String × Json)) : List (String × Json) → List (String × Json)
  | [] => before
  | m :: rest => sortedMembers (sortedMember before m) rest
  termination_by structural ms => ms

/-- The members `before`, which are in key order, with one more member put among them. -/
def sortedMember (before : List (String × Json)) : String × Json → List (String × Json)
  | (key, v) => putMember before key (sorted v)
  termination_by structural m => m

end

theorem sortedItems_eq_map (items : List Json) : sortedItems items = items.map sorted := by
  induction items with
  | nil => rfl
  | cons v rest ih => rw [sortedItems, ih, List.map_cons]

/-- Members that come after all others in key order stay in their order. -/
theorem sortedMembers_of_increasing {before members : List (String × Json)}
    (h : KeysIncrease (before ++ members)) (hv : ∀ m ∈ members, sorted m.2 = m.2) :
    sortedMembers before members = before ++ members := by
  induction members generalizing before with
  | nil => rw [sortedMembers, List.append_nil]
  | cons m rest ih =>
    obtain ⟨k, v⟩ := m
    have hlast : ∀ n ∈ before, n.1 < k := fun n hn =>
      (List.pairwise_append.1 h).2.2 n hn (k, v) List.mem_cons_self
    have hput : sortedMember before (k, v) = before ++ [(k, v)] := by
      rw [sortedMember, hv (k, v) List.mem_cons_self, putMember_of_lt hlast]
    rw [sortedMembers, hput, ih (by simpa using h) fun m hm => hv m (List.mem_cons_of_mem _ hm),
      List.append_assoc, List.singleton_append]

/-- A value in order stays as it is. -/
theorem sorted_of_ordered {v : Json} (h : v.Ordered) : sorted v = v := by
  induction v using induction_children with
  | inside v ih =>
    cases v with
    | array items =>
      have hitems : items.map sorted = items :=
        (List.map_congr_left fun w hw => ih w hw (h.child hw)).trans (List.map_id' items)
      rw [sorted, sortedItems_eq_map, hitems]
    | object members =>
      have hkeys : KeysIncrease members := h.here
      have hmembers : ∀ m ∈ members, sorted m.2 = m.2 := fun m hm =>
        have hchild : m.2 ∈ (object members).children := List.mem_map_of_mem hm
        ih m.2 hchild (h.child hchild)
      have hsame : sortedMembers [] members = [] ++ members :=
        sortedMembers_of_increasing hkeys hmembers
      rw [sorted, hsame, List.nil_append]
    | null => rfl
    | bool b => rfl
    | number n => rfl
    | string s => rfl

end ControlPlane.Json
