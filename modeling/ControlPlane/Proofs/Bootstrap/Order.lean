import ControlPlane.Bootstrap.Sequence

/-!
# The order in which workers are started

Workers are sorted by the ranks of their kinds, and sorting them leaves those of one kind in the
order in which they were given.

## Main definitions

- `InStartOrder`: workers in the order in which they are started.

## Main statements

- `Bootstrap.startOrder_eq_mergeSort`: the order is that of the library's stable sort.
- `Bootstrap.inStartOrder`: each worker once, by rank, and otherwise as they were given.
-/

namespace ControlPlane

variable {α : Type} {kind : α → WorkerKind} {workers : List α}

/-- `order` has the workers in the order in which they are started. -/
structure InStartOrder (kind : α → WorkerKind) (workers order : List α) : Prop where
  /-- Each worker is there once. -/
  once : order.Perm workers
  ranked : order.Pairwise fun v w => (kind v).rank ≤ (kind w).rank
  /-- Workers of one kind are in the order in which they were given. -/
  stable : ∀ k, order.filter (kind · = k) = workers.filter (kind · = k)

namespace Bootstrap

/-- Whether a worker may be started before another. -/
def mayPrecede (kind : α → WorkerKind) (v w : α) : Bool := (kind v).rank ≤ (kind w).rank

theorem mayPrecede_trans (a b c : α) (hab : mayPrecede kind a b) (hbc : mayPrecede kind b c) :
    mayPrecede kind a c :=
  decide_eq_true (Nat.le_trans (of_decide_eq_true hab) (of_decide_eq_true hbc))

theorem mayPrecede_total (a b : α) : (mayPrecede kind a b || mayPrecede kind b a) = true := by
  simpa [mayPrecede] using Nat.le_total (kind a).rank (kind b).rank

/-- A worker finds its place behind those of lower rank and in front of the others. -/
theorem insertByRank_append {w : α} {lower others : List α}
    (hlower : ∀ v ∈ lower, ¬mayPrecede kind w v) (hothers : ∀ v ∈ others, mayPrecede kind w v) :
    insertByRank kind w (lower ++ others) = lower ++ w :: others := by
  induction lower with
  | nil =>
    cases others with
    | nil => rfl
    | cons v rest =>
      have hle : (kind w).rank ≤ (kind v).rank :=
        of_decide_eq_true (hothers v List.mem_cons_self)
      exact if_pos hle
  | cons v rest ih =>
    obtain ⟨hv, hrest⟩ := List.forall_mem_cons.mp hlower
    have hlt : ¬(kind w).rank ≤ (kind v).rank := fun h => hv (decide_eq_true h)
    rw [List.cons_append, insertByRank, if_neg hlt, ih hrest, List.cons_append]

theorem startOrder_eq_mergeSort (kind : α → WorkerKind) (workers : List α) :
    startOrder kind workers = workers.mergeSort (mayPrecede kind) := by
  induction workers with
  | nil => rw [List.mergeSort_nil, startOrder, List.foldr_nil]
  | cons w rest ih =>
    obtain ⟨lower, others, hsorted, hrest, hlower⟩ :=
      @List.mergeSort_cons _ (mayPrecede kind) mayPrecede_trans mayPrecede_total w rest
    have hpairwise : ((w :: rest).mergeSort (mayPrecede kind)).Pairwise (mayPrecede kind · ·) :=
      List.pairwise_mergeSort mayPrecede_trans mayPrecede_total (w :: rest)
    rw [hsorted, List.pairwise_append, List.pairwise_cons] at hpairwise
    have hcons : startOrder kind (w :: rest) = insertByRank kind w (startOrder kind rest) := rfl
    rw [hcons, ih, hrest, hsorted]
    exact insertByRank_append (fun v hv => by simpa using hlower v hv) hpairwise.2.1.1

/-- Workers are started in the order of the ranks of their kinds, and those of one kind in the order
in which they were given. -/
theorem inStartOrder (kind : α → WorkerKind) (workers : List α) :
    InStartOrder kind workers (startOrder kind workers) := by
  rw [startOrder_eq_mergeSort]
  have honce := List.mergeSort_perm workers (mayPrecede kind)
  refine ⟨honce, ?ranked, fun k => ?stable⟩
  case ranked =>
    exact (List.pairwise_mergeSort mayPrecede_trans mayPrecede_total workers).imp
      of_decide_eq_true
  case stable =>
    -- Workers of one kind are in order as they were given, so that sorting keeps them in line.
    have hkind : (workers.filter (kind · = k)).Pairwise (mayPrecede kind · ·) := by
      refine List.pairwise_of_forall_mem_list fun v hv w hw => ?_
      have hv := of_decide_eq_true (List.mem_filter.mp hv).2
      have hw := of_decide_eq_true (List.mem_filter.mp hw).2
      exact decide_eq_true (Nat.le_of_eq (by rw [hv, hw]))
    have hsublist : (workers.filter (kind · = k)).Sublist (workers.mergeSort (mayPrecede kind)) :=
      List.sublist_mergeSort mayPrecede_trans mayPrecede_total hkind List.filter_sublist
    have hfiltered := hsublist.filter (kind · = k)
    rw [List.filter_filter] at hfiltered
    simp only [Bool.and_self] at hfiltered
    exact (hfiltered.eq_of_length (honce.filter _).length_eq.symm).symm

/-- A worker of the highest rank that is given last is started last. -/
theorem startOrder_concat {w : α} (hlast : ∀ v ∈ workers, (kind v).rank ≤ (kind w).rank) :
    startOrder kind (workers ++ [w]) = startOrder kind workers ++ [w] := by
  have hinsert : ∀ {v : α} {rest : List α}, (kind v).rank ≤ (kind w).rank →
      insertByRank kind v (rest ++ [w]) = insertByRank kind v rest ++ [w] := by
    intro v rest hv
    induction rest with
    | nil => exact if_pos hv
    | cons x rest ih =>
      rw [List.cons_append, insertByRank, insertByRank]
      split
      · rfl
      · rw [ih, List.cons_append]
  induction workers with
  | nil => rfl
  | cons v rest ih =>
    obtain ⟨hv, hrest⟩ := List.forall_mem_cons.mp hlast
    have hcons : startOrder kind (v :: rest ++ [w]) =
        insertByRank kind v (startOrder kind (rest ++ [w])) := rfl
    rw [hcons, ih hrest, hinsert hv]
    rfl

end Bootstrap

end ControlPlane
