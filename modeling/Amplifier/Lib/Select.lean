import Mathlib

/-!
# Amplifier.Lib.Select — selecting the element of a given rank

`slice::select_nth_unstable_by(index, compare)` reorders a slice so that the
element at `index` is the one a sort by `compare` would put there, everything
before it compares no greater and everything after it no smaller. The standard
library does not say which reordering it makes, so an implementation is a
parameter here (`SelectNthUnstable`) that meets this contract (`SelectsNth`) for
every comparator that orders by a key into a linear order (`OrdersBy`).

What any such reordering determines:

* the pivot's key is the order statistic of rank `index`: fewer than `index + 1`
  elements are below it and more than `index` are at most it
  (`SelectsNth.countP_lt_le`, `SelectsNth.lt_countP_le`), and that pins it down
  (`eq_of_countP_bounds`);
* when no other element shares the pivot's key, the first `index + 1` elements
  are exactly those with at most `index` elements below them
  (`SelectsNth.mem_take_iff`) — a condition on the input alone, the same for
  every implementation and every order of the input.

Any sort by the comparator meets the contract (`selectsNth_of_pairwise`):
`mergeSelect`, a merge sort, and `insertionSelect`, an insertion sort that
`decide` can run on fixed inputs.
-/

namespace Amplifier

universe u v

section Contract

variable {α : Type u} {β : Type v} [LinearOrder β]

/-- A comparator that orders by `key`. -/
def OrdersBy (cmp : α → α → Ordering) (key : α → β) : Prop :=
  ∀ a b, (cmp a b = .lt ↔ key a < key b) ∧ (cmp a b = .gt ↔ key b < key a)

/-- What `select_nth_unstable_by` guarantees of its result `l'` for a comparator
that orders by `key`: `l'` reorders `l`, `pivot` stands at index `i`, nothing
before it is above it and nothing after it below. -/
structure SelectsNth (key : α → β) (l : List α) (i : ℕ) (l' : List α) (pivot : α) : Prop where
  perm : l'.Perm l
  getElem?_eq : l'[i]? = some pivot
  le_pivot : ∀ a ∈ l'.take i, key a ≤ key pivot
  pivot_le : ∀ a ∈ l'.drop (i + 1), key pivot ≤ key a

end Contract

/-- `slice::select_nth_unstable_by`, as a reordering of a list: any function that
meets the contract for every comparator ordering by a key. -/
structure SelectNthUnstable where
  selectNthUnstableBy : {α : Type} → List α → ℕ → (α → α → Ordering) → List α
  selects : ∀ {α β : Type} [LinearOrder β] (l : List α) (i : ℕ) (cmp : α → α → Ordering)
    (key : α → β), OrdersBy cmp key → i < l.length →
      ∃ pivot, SelectsNth key l i (selectNthUnstableBy l i cmp) pivot

section Rank

variable {α : Type u} {β : Type v} [LinearOrder β] {key : α → β}

/-- The order statistic of a rank is unique: a key with fewer than `i + 1`
elements below it and more than `i` at most it is the only one. -/
theorem eq_of_countP_bounds {l : List α} {i : ℕ} {k k' : β}
    (hlt : l.countP (fun b => key b < k) ≤ i) (hle : i < l.countP (fun b => key b ≤ k))
    (hlt' : l.countP (fun b => key b < k') ≤ i) (hle' : i < l.countP (fun b => key b ≤ k')) :
    k = k' := by
  -- the larger key has every element at most the smaller one below it
  have below : ∀ {k₁ k₂ : β}, k₁ < k₂ →
      l.countP (fun b => key b ≤ k₁) ≤ l.countP (fun b => key b < k₂) := by
    intro k₁ k₂ hk
    apply List.countP_mono_left
    intro b _ hb
    simp only [decide_eq_true_eq] at hb ⊢
    exact lt_of_le_of_lt hb hk
  rcases lt_trichotomy k k' with hk | hk | hk
  · have := below hk
    omega
  · exact hk
  · have := below hk
    omega

variable {l l' : List α} {i : ℕ} {pivot : α}

/-- A list around one of its elements: what is before it, it, and what is after. -/
theorem eq_take_append_cons_drop (h : l'[i]? = some pivot) :
    l' = l'.take i ++ pivot :: l'.drop (i + 1) := by
  obtain ⟨hi, hpivot⟩ := List.getElem?_eq_some_iff.mp h
  conv_lhs => rw [← List.take_append_drop i l']
  rw [List.drop_eq_getElem_cons hi, hpivot]

namespace SelectsNth

theorem lt_length (h : SelectsNth key l i l' pivot) : i < l'.length :=
  (List.getElem?_eq_some_iff.mp h.getElem?_eq).1

/-- The reordering around the pivot: what is before it, it, and what is after. -/
theorem eq_append (h : SelectsNth key l i l' pivot) :
    l' = l'.take i ++ pivot :: l'.drop (i + 1) :=
  eq_take_append_cons_drop h.getElem?_eq

theorem length_take (h : SelectsNth key l i l' pivot) : (l'.take i).length = i :=
  List.length_take_of_le (Nat.le_of_lt h.lt_length)

/-- Fewer than `i + 1` elements are below the pivot: all of them stand before it. -/
theorem countP_lt_le (h : SelectsNth key l i l' pivot) :
    l.countP (fun b => key b < key pivot) ≤ i := by
  rw [← h.perm.countP_eq, h.eq_append, List.countP_append, List.countP_cons]
  -- nothing after the pivot, nor the pivot itself, is below it
  have hafter : (l'.drop (i + 1)).countP (fun b => key b < key pivot) = 0 := by
    rw [List.countP_eq_zero]
    intro a ha
    simpa using h.pivot_le a ha
  have hbefore := (List.countP_le_length (p := fun b => key b < key pivot) (l := l'.take i))
  rw [hafter, h.length_take] at *
  simp only [lt_self_iff_false, decide_false, Bool.false_eq_true, if_false]
  omega

/-- More than `i` elements are at most the pivot: it and all before it. -/
theorem lt_countP_le (h : SelectsNth key l i l' pivot) :
    i < l.countP (fun b => key b ≤ key pivot) := by
  rw [← h.perm.countP_eq, h.eq_append, List.countP_append, List.countP_cons]
  have hbefore : (l'.take i).countP (fun b => key b ≤ key pivot) = i := by
    rw [List.countP_eq_length.mpr, h.length_take]
    intro a ha
    simpa using h.le_pivot a ha
  rw [hbefore]
  simp

/-- Where no other element has the pivot's key, the first `i + 1` elements are
those with at most `i` elements below them. -/
theorem mem_take_iff (h : SelectsNth key l i l' pivot)
    (hclass : ∀ b ∈ l, key b = key pivot → b = pivot) (a : α) :
    a ∈ l'.take (i + 1) ↔ a ∈ l ∧ l.countP (fun b => key b < key a) ≤ i := by
  have hsplit := h.eq_append
  have htake : l'.take (i + 1) = l'.take i ++ [pivot] := by
    rw [List.take_add_one, h.getElem?_eq, Option.toList_some]
  -- fewer elements are below a smaller key
  have hmono : ∀ {k₁ k₂ : β}, k₁ ≤ k₂ →
      l.countP (fun b => key b < k₁) ≤ l.countP (fun b => key b < k₂) := by
    intro k₁ k₂ hk
    apply List.countP_mono_left
    intro b _ hb
    simp only [decide_eq_true_eq] at hb ⊢
    exact lt_of_lt_of_le hb hk
  constructor
  · intro ha
    have hkey : key a ≤ key pivot := by
      rw [htake] at ha
      rcases List.mem_append.mp ha with ha | ha
      · exact h.le_pivot a ha
      · rw [List.mem_singleton.mp ha]
    exact ⟨h.perm.subset (List.mem_of_mem_take ha), le_trans (hmono hkey) h.countP_lt_le⟩
  · rintro ⟨ha, hcount⟩
    rw [htake]
    have ha' : a ∈ l' := h.perm.symm.subset ha
    rw [hsplit, List.mem_append, List.mem_cons] at ha'
    rcases ha' with ha' | rfl | ha'
    · exact List.mem_append.mpr (.inl ha')
    · exact List.mem_append.mpr (.inr (List.mem_singleton_self _))
    · -- an element after the pivot has the pivot's key or one above it
      rcases (h.pivot_le a ha').lt_or_eq with hlt | heq
      · have hbelow : l.countP (fun b => key b ≤ key pivot) ≤
            l.countP (fun b => key b < key a) := by
          apply List.countP_mono_left
          intro b _ hb
          simp only [decide_eq_true_eq] at hb ⊢
          exact lt_of_le_of_lt hb hlt
        have := h.lt_countP_le
        omega
      · rw [hclass a ha heq.symm]
        exact List.mem_append.mpr (.inr (List.mem_singleton_self _))

end SelectsNth

end Rank

/-! ## Sorts meet the contract -/

section Sorts

variable {α : Type} {β : Type} [LinearOrder β] {cmp : α → α → Ordering} {key : α → β}

/-- Under a comparator that orders by `key`, "not after" is the order of the keys. -/
theorem ne_gt_iff_le (hcmp : OrdersBy cmp key) (a b : α) : cmp a b ≠ .gt ↔ key a ≤ key b := by
  rw [ne_eq, (hcmp a b).2, not_lt]

/-- A reordering sorted by the comparator meets the contract at every index: what
comes before the element there is below it, what comes after above. -/
theorem selectsNth_of_pairwise (hcmp : OrdersBy cmp key) {l l' : List α} {i : ℕ}
    (hi : i < l.length) (hperm : l'.Perm l) (hsorted : l'.Pairwise fun a b => cmp a b ≠ .gt) :
    ∃ pivot, SelectsNth key l i l' pivot := by
  have hi' : i < l'.length := hperm.length_eq ▸ hi
  have hget : l'[i]? = some l'[i] := List.getElem?_eq_getElem hi'
  refine ⟨l'[i], hperm, hget, ?_, ?_⟩
  · rw [eq_take_append_cons_drop hget, List.pairwise_append] at hsorted
    intro a ha
    exact (ne_gt_iff_le hcmp a _).mp (hsorted.2.2 a ha _ List.mem_cons_self)
  · rw [eq_take_append_cons_drop hget, List.pairwise_append, List.pairwise_cons] at hsorted
    intro a ha
    exact (ne_gt_iff_le hcmp _ a).mp (hsorted.2.1.1 a ha)

end Sorts

/-- A sort by the comparator, which leaves every element, the one at the index
included, where it belongs. -/
def mergeSelect : SelectNthUnstable where
  selectNthUnstableBy l _ cmp := l.mergeSort fun a b => cmp a b != .gt
  selects := by
    intro α β _ l i cmp key hcmp hi
    -- the sort's relation is the order of the keys
    have hle : ∀ a b, (cmp a b != .gt) = true ↔ key a ≤ key b := fun a b =>
      bne_iff_ne.trans (ne_gt_iff_le hcmp a b)
    have hsorted : (l.mergeSort fun a b => cmp a b != .gt).Pairwise
        (fun a b => cmp a b != .gt) := List.pairwise_mergeSort
      (fun a b c hab hbc => (hle a c).mpr (le_trans ((hle a b).mp hab) ((hle b c).mp hbc)))
      (fun a b => by
        rcases le_total (key a) (key b) with hab | hba
        · simp [(hle a b).mpr hab]
        · simp [(hle b a).mpr hba])
      l
    exact selectsNth_of_pairwise hcmp hi (List.mergeSort_perm _ _)
      (hsorted.imp fun h => bne_iff_ne.mp h)

/-- An insertion sort by the comparator: a sort like `mergeSelect`, by structural
recursion, so that `decide` evaluates it. -/
def insertionSelect : SelectNthUnstable where
  selectNthUnstableBy l _ cmp := l.insertionSort fun a b => cmp a b ≠ .gt
  selects := by
    intro α β _ l i cmp key hcmp hi
    -- the sort's relation is the order of the keys: total and transitive
    have : Std.Total fun a b => cmp a b ≠ .gt := ⟨fun a b => by
      rcases le_total (key a) (key b) with hab | hba
      · exact .inl ((ne_gt_iff_le hcmp a b).mpr hab)
      · exact .inr ((ne_gt_iff_le hcmp b a).mpr hba)⟩
    have : IsTrans α fun a b => cmp a b ≠ .gt := ⟨fun a b c hab hbc =>
      (ne_gt_iff_le hcmp a c).mpr
        (le_trans ((ne_gt_iff_le hcmp a b).mp hab) ((ne_gt_iff_le hcmp b c).mp hbc))⟩
    exact selectsNth_of_pairwise hcmp hi (List.perm_insertionSort _ _)
      (List.pairwise_insertionSort _ _)

end Amplifier
