import Mathlib

/-!
# Amplifier.Lib.Greedy — the heaviest elements first

A list sorted by non-increasing weight is taken from the front until the total
reaches a threshold. No selection of fewer elements reaches the threshold: the
`k` heaviest elements weigh at least as much as any `k` elements of the list
(`sum_le_sum_take_of_subperm`), so a selection lighter than the threshold on
its first `k` elements needs more than `k` (`lt_length_of_subperm`).

Selections are subpermutations (`List.Subperm`) of the list: each element is used at most
as often as it occurs, in any order. Mapping and filtering keep a selection one, and
a partial function injective on a list keeps it free of duplicates
(`nodup_filterMap_of_injOn`).
-/

namespace Amplifier

section Greedy

variable {α : Type} (w : α → ℕ)

/-- The first elements weigh no more than a few more of them. -/
theorem sum_take_le_sum_take {k k' : ℕ} (hk : k ≤ k') (L : List α) :
    ((L.take k).map w).sum ≤ ((L.take k').map w).sum := by
  have hsub : (L.take k).Sublist (L.take k') := by
    rw [← min_eq_left hk, ← List.take_take]
    exact List.take_sublist _ _
  exact (hsub.map w).sum_le_sum fun _ _ => Nat.zero_le _

variable [DecidableEq α]

/-- The exchange argument: in a list sorted by non-increasing weight, any
selection weighs no more than as many elements taken from the front. -/
theorem sum_le_sum_take_of_subperm {L T : List α} (hsorted : L.Pairwise fun a b => w b ≤ w a)
    (hT : T.Subperm L) : (T.map w).sum ≤ ((L.take T.length).map w).sum := by
  induction L generalizing T with
  | nil =>
      rw [List.subperm_nil.mp hT]
      simp
  | cons a L ih =>
      obtain ⟨hhead, htail⟩ := List.pairwise_cons.mp hsorted
      -- the selection without one `a` is a selection from the rest
      have hrest : (T.erase a).Subperm L := by simpa using hT.erase a
      by_cases ha : a ∈ T
      · -- `a` is selected: both sides start with it
        have hperm := List.perm_cons_erase ha
        have hlen : T.length = (T.erase a).length + 1 := by
          rw [hperm.length_eq, List.length_cons]
        calc (T.map w).sum = w a + ((T.erase a).map w).sum := by
              rw [(hperm.map w).sum_eq, List.map_cons, List.sum_cons]
          _ ≤ w a + ((L.take (T.erase a).length).map w).sum :=
              Nat.add_le_add_left (ih htail hrest) _
          _ = (((a :: L).take T.length).map w).sum := by
              rw [hlen, List.take_succ_cons, List.map_cons, List.sum_cons]
      · -- `a` is not selected, and no element after it weighs more
        have hT' : T.Subperm L := by rwa [List.erase_of_not_mem ha] at hrest
        cases hlen : T.length with
        | zero => simp [List.length_eq_zero_iff.mp hlen]
        | succ k =>
            have hnext : ((L[k]?.toList).map w).sum ≤ w a := by
              cases hk : L[k]? with
              | none => simp
              | some b =>
                  simpa using hhead b (List.mem_of_getElem? hk)
            calc (T.map w).sum ≤ ((L.take (k + 1)).map w).sum := hlen ▸ ih htail hT'
              _ = ((L.take k).map w).sum + ((L[k]?.toList).map w).sum := by
                  rw [List.take_add_one, List.map_append, List.sum_append]
              _ ≤ ((L.take k).map w).sum + w a := Nat.add_le_add_left hnext _
              _ = (((a :: L).take (k + 1)).map w).sum := by
                  rw [List.take_succ_cons, List.map_cons, List.sum_cons, Nat.add_comm]

/-- A selection that reaches a threshold the first `k` elements of the sorted list
do not reach has more than `k` elements. -/
theorem lt_length_of_subperm {L T : List α} (hsorted : L.Pairwise fun a b => w b ≤ w a)
    {k threshold : ℕ} (hshort : ((L.take k).map w).sum < threshold) (hT : T.Subperm L)
    (hreach : threshold ≤ (T.map w).sum) : k < T.length := by
  by_contra hle
  have hexchange := sum_le_sum_take_of_subperm w hsorted hT
  have hfront := sum_take_le_sum_take w (Nat.le_of_not_lt hle) L
  omega

end Greedy

/-! ## Selections -/

section Selections

variable {α β : Type}

theorem subperm_filterMap (f : α → Option β) {l₁ l₂ : List α} (h : l₁.Subperm l₂) :
    (l₁.filterMap f).Subperm (l₂.filterMap f) := by
  obtain ⟨l, hperm, hsub⟩ := h
  exact ⟨l.filterMap f, hperm.filterMap f, hsub.filterMap f⟩

theorem subperm_map (f : α → β) {l₁ l₂ : List α} (h : l₁.Subperm l₂) :
    (l₁.map f).Subperm (l₂.map f) := by
  obtain ⟨l, hperm, hsub⟩ := h
  exact ⟨l.map f, hperm.map f, hsub.map f⟩

theorem nodup_of_subperm {l₁ l₂ : List α} (h : l₁.Subperm l₂) (hnodup : l₂.Nodup) : l₁.Nodup := by
  obtain ⟨l, hperm, hsub⟩ := h
  exact hperm.nodup_iff.mp (hnodup.sublist hsub)

/-- A partial function that is injective on a list keeps it free of duplicates. -/
theorem nodup_filterMap_of_injOn {f : α → Option β} :
    ∀ {l : List α}, l.Nodup → (∀ x ∈ l, ∀ y ∈ l, ∀ b, f x = some b → f y = some b → x = y) →
      (l.filterMap f).Nodup
  | [], _, _ => List.nodup_nil
  | a :: l, hnodup, hinj => by
      obtain ⟨ha, hl⟩ := List.nodup_cons.mp hnodup
      have ih := nodup_filterMap_of_injOn hl fun x hx y hy => hinj x (List.mem_cons_of_mem _ hx) y
        (List.mem_cons_of_mem _ hy)
      cases hfa : f a with
      | none => simpa [List.filterMap_cons, hfa] using ih
      | some b =>
          rw [List.filterMap_cons, hfa]
          refine List.nodup_cons.mpr ⟨?_, ih⟩
          -- `b` is the image of `a` alone, and `a` does not occur again
          intro hb
          obtain ⟨y, hy, hfy⟩ := List.mem_filterMap.mp hb
          exact ha (hinj a List.mem_cons_self y (List.mem_cons_of_mem _ hy) b hfa hfy ▸ hy)

end Selections

/-! ## Sorting by a key -/

section Sorted

variable {α β : Type} [LinearOrder β] (key : α → β)

/-- A stable sort by a key orders the list by it. -/
theorem pairwise_mergeSort_key (l : List α) :
    (l.mergeSort fun a b => decide (key a ≤ key b)).Pairwise fun a b => key a ≤ key b := by
  have htrans : ∀ a b c : α, decide (key a ≤ key b) = true → decide (key b ≤ key c) = true →
      decide (key a ≤ key c) = true := by
    simp only [decide_eq_true_eq]
    exact fun _ _ _ => le_trans
  have htotal : ∀ a b : α, (decide (key a ≤ key b) || decide (key b ≤ key a)) = true := by
    simp only [Bool.or_eq_true, decide_eq_true_eq]
    exact fun a b => le_total (key a) (key b)
  exact (List.pairwise_mergeSort htrans htotal l).imp of_decide_eq_true

/-- A list sorted by a key that no two elements share is sorted strictly. -/
theorem pairwise_lt_of_pairwise_le {l : List α} (hle : l.Pairwise fun a b => key a ≤ key b)
    (hnodup : (l.map key).Nodup) : l.Pairwise fun a b => key a < key b :=
  ((List.pairwise_map.mp hnodup).and hle).imp fun h => lt_of_le_of_ne h.2 h.1

/-- A selection from a list, both strictly sorted by a key, is a subsequence of
the list: the part of the list it permutes is sorted the same way. -/
theorem sublist_of_subperm_of_lt {l₁ l₂ : List α} (hp : l₁.Subperm l₂)
    (h₁ : l₁.Pairwise fun a b => key a < key b) (h₂ : l₂.Pairwise fun a b => key a < key b) :
    l₁.Sublist l₂ := by
  obtain ⟨l, hperm, hsub⟩ := hp
  have heq : l = l₁ := hperm.eq_of_pairwise
    (fun _ _ _ _ hab hba => absurd (hab.trans hba) (lt_irrefl _)) (h₂.sublist hsub) h₁
  exact heq ▸ hsub

end Sorted

end Amplifier
