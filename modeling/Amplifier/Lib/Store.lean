import Mathlib

/-!
# Amplifier.Lib.Store — storage maps and their accounting

A cw-storage-plus `Map<K, V>` (and an in-memory `BTreeMap` or `HashMap`) holds at
most one value per key. It is modelled by Mathlib's `AList`, a duplicate-free
association list: `lookup` is `may_load`, `insert` is `save`, `erase` is
`remove`, and the entries are what a range over the map yields.

The iteration order of the entries is not the storage's key order. Everything
defined here that reads the whole map — sums of a weight over the entries,
hence also counts — does not depend on it.

The accounting rules (`sum_insert`, `sum_erase`) say how one write moves such a
sum: the new entry's weight comes in and the old entry's weight, if there was
one, goes out. The ledgers of the contracts (authorized verifier counts, bonded
amounts, tallies of votes) are proved invariant from them.

Grouped by a key and read back group by group, a list keeps its items, up to
order (`perm_flatMap_filter`).
-/

namespace Amplifier

universe u v

/-- A storage map with keys `κ` and values `ν`. -/
abbrev Map (κ : Type u) (ν : Type v) := AList fun _ : κ => ν

namespace Map

variable {κ : Type u} {ν : Type v}

/-- The sum of a weight `f` over the entries of a map. -/
def sum (f : κ → ν → ℕ) (m : Map κ ν) : ℕ :=
  (m.entries.map fun e => f e.1 e.2).sum

@[simp] theorem sum_empty (f : κ → ν → ℕ) : sum f (∅ : Map κ ν) = 0 := rfl

/-- The map with the same keys and every value transformed by `g`. -/
def mapValues {ν' : Type v} (g : κ → ν → ν') (m : Map κ ν) : Map κ ν' :=
  ⟨m.entries.map fun e => ⟨e.1, g e.1 e.2⟩, by
    have hkeys : (m.entries.map fun e => (⟨e.1, g e.1 e.2⟩ : Σ _ : κ, ν')).keys = m.entries.keys := by
      simp [List.keys, List.map_map, Function.comp_def]
    unfold List.NodupKeys
    rw [hkeys]
    exact m.nodupKeys⟩

theorem sum_mapValues {ν' : Type v} (f : κ → ν' → ℕ) (g : κ → ν → ν') (m : Map κ ν) :
    sum f (mapValues g m) = sum (fun k v => f k (g k v)) m := by
  simp [sum, mapValues, List.map_map, Function.comp_def]

variable [DecidableEq κ]

/-- What a `save` leaves at a key: the saved value at its own key, the old entry
elsewhere. -/
theorem lookup_insert_eq_some {m : Map κ ν} {k k' : κ} {v v' : ν} :
    (m.insert k v).lookup k' = some v' ↔ (k' = k ∧ v = v') ∨ (k' ≠ k ∧ m.lookup k' = some v') := by
  by_cases h : k' = k
  · subst h
    simp
  · simp [AList.lookup_insert_ne h, h]

/-- The weight of the entry at `k`, or `0` when the map holds none. -/
def weightAt (f : κ → ν → ℕ) (m : Map κ ν) (k : κ) : ℕ :=
  match m.lookup k with
  | some v => f k v
  | none => 0

theorem weightAt_of_lookup {f : κ → ν → ℕ} {m : Map κ ν} {k : κ} {v : ν}
    (h : m.lookup k = some v) : weightAt f m k = f k v := by
  simp [weightAt, h]

theorem weightAt_of_lookup_none {f : κ → ν → ℕ} {m : Map κ ν} {k : κ}
    (h : m.lookup k = none) : weightAt f m k = 0 := by
  simp [weightAt, h]

theorem weightAt_eq_getD (f : κ → ν → ℕ) (m : Map κ ν) (k : κ) :
    weightAt f m k = ((m.lookup k).map (f k)).getD 0 := by
  unfold weightAt
  cases m.lookup k <;> rfl

/-- Removing the entry at `k` from the list of entries takes exactly its weight
out of the sum. -/
theorem sum_kerase (f : κ → ν → ℕ) (m : Map κ ν) (k : κ) :
    ((m.entries.kerase k).map fun e => f e.1 e.2).sum + weightAt f m k = sum f m := by
  by_cases hk : k ∈ m
  · obtain ⟨b, l₁, l₂, hnot, hsplit, herase⟩ := List.exists_of_kerase (AList.mem_keys.mp hk)
    -- the entry at `k` is the one the split exposes: `l₁` holds no key `k`
    have hlook : m.lookup k = some b := by
      rw [← Option.mem_def, AList.mem_lookup_iff, hsplit]
      simp
    rw [herase, weightAt_of_lookup hlook, sum, hsplit]
    simp only [List.map_append, List.map_cons, List.sum_append, List.sum_cons]
    omega
  · have hnone : m.lookup k = none := AList.lookup_eq_none.mpr hk
    rw [List.kerase_of_notMem_keys (fun h => hk (AList.mem_keys.mpr h)),
      weightAt_of_lookup_none hnone]
    rfl

/-- Accounting for a write: the sum after `insert k v`, plus the weight of the
entry it replaced, is the old sum plus the new entry's weight. -/
theorem sum_insert (f : κ → ν → ℕ) (m : Map κ ν) (k : κ) (v : ν) :
    sum f (m.insert k v) + weightAt f m k = sum f m + f k v := by
  have hk := sum_kerase f m k
  simp only [sum, AList.entries_insert, List.map_cons, List.sum_cons] at hk ⊢
  omega

/-- A write that gives its key the weight the old entry had leaves the sum as it was. -/
theorem sum_insert_of_weight {f : κ → ν → ℕ} {m : Map κ ν} {k : κ} {v : ν}
    (h : f k v = weightAt f m k) : sum f (m.insert k v) = sum f m := by
  have := sum_insert f m k v
  omega

/-- Accounting for a removal: the removed entry's weight leaves the sum. -/
theorem sum_erase (f : κ → ν → ℕ) (m : Map κ ν) (k : κ) :
    sum f (m.erase k) + weightAt f m k = sum f m :=
  sum_kerase f m k

/-- Two weights that agree on every entry of the map have the same sum. -/
theorem sum_congr {f g : κ → ν → ℕ} (m : Map κ ν)
    (h : ∀ k v, m.lookup k = some v → f k v = g k v) : sum f m = sum g m := by
  unfold sum
  congr 1
  apply List.map_congr_left
  intro e he
  apply h
  rw [← Option.mem_def, AList.mem_lookup_iff]
  exact he

/-- A weight that vanishes on every entry of the map sums to nothing. -/
theorem sum_eq_zero {f : κ → ν → ℕ} (m : Map κ ν) (h : ∀ k v, m.lookup k = some v → f k v = 0) :
    sum f m = 0 := by
  rw [show sum f m = sum (fun _ _ => 0) m from sum_congr m h]
  simp [sum]

/-- A weight bounded by another on every entry has the smaller sum. -/
theorem sum_le_sum {f g : κ → ν → ℕ} (m : Map κ ν)
    (h : ∀ k v, m.lookup k = some v → f k v ≤ g k v) : sum f m ≤ sum g m := by
  unfold sum
  apply List.sum_le_sum
  intro e he
  apply h
  rw [← Option.mem_def, AList.mem_lookup_iff]
  exact he

/-- One entry's weight is at most the whole sum. -/
theorem le_sum_of_lookup (f : κ → ν → ℕ) {m : Map κ ν} {k : κ} {v : ν}
    (h : m.lookup k = some v) : f k v ≤ sum f m := by
  have := sum_kerase f m k
  rw [weightAt_of_lookup h] at this
  omega

theorem lookup_mapValues {ν' : Type v} (g : κ → ν → ν') (m : Map κ ν) (k : κ) :
    (mapValues g m).lookup k = (m.lookup k).map (g k) := by
  obtain ⟨entries, hnd⟩ := m
  simp only [mapValues, AList.lookup]
  induction entries with
  | nil => rfl
  | cons e rest ih =>
      obtain ⟨a, b⟩ := e
      by_cases hk : k = a
      · subst hk
        simp only [List.map_cons, List.dlookup_cons_eq, Option.map_some]
      · rw [List.map_cons, List.dlookup_cons_ne _ _ hk, List.dlookup_cons_ne _ _ hk]
        exact ih (List.nodupKeys_cons.mp hnd).2

/-- Every entry of `m` is an entry of `m'`: a store that only gains entries,
and whose entries never change. -/
def Extends (m m' : Map κ ν) : Prop := ∀ k v, m.lookup k = some v → m'.lookup k = some v

theorem Extends.refl (m : Map κ ν) : Extends m m := fun _ _ h => h

theorem Extends.trans {m₁ m₂ m₃ : Map κ ν} (h₁₂ : Extends m₁ m₂) (h₂₃ : Extends m₂ m₃) :
    Extends m₁ m₃ :=
  fun k v h => h₂₃ k v (h₁₂ k v h)

/-- A `save` under a key without an entry only adds an entry. -/
theorem extends_insert {m : Map κ ν} {k : κ} (hk : m.lookup k = none) (v : ν) :
    Extends m (m.insert k v) := by
  intro k' v' h
  have hne : k' ≠ k := by
    rintro rfl
    rw [hk] at h
    cases h
  rw [AList.lookup_insert_ne hne]
  exact h

/-- Every entry of `m` is still in `m'`, its value moved along `R`: a store whose
entries are never removed and change only as `R` allows. -/
def Evolves (R : ν → ν → Prop) (m m' : Map κ ν) : Prop :=
  ∀ k v, m.lookup k = some v → ∃ v', m'.lookup k = some v' ∧ R v v'

section Evolves

variable {R : ν → ν → Prop}

theorem Evolves.refl (hR : ∀ v, R v v) (m : Map κ ν) : Evolves R m m :=
  fun _ v h => ⟨v, h, hR v⟩

theorem Evolves.trans (hR : ∀ a b c, R a b → R b c → R a c) {m₁ m₂ m₃ : Map κ ν}
    (h₁₂ : Evolves R m₁ m₂) (h₂₃ : Evolves R m₂ m₃) : Evolves R m₁ m₃ := by
  intro k v h
  obtain ⟨v₂, h₂, hv₂⟩ := h₁₂ k v h
  obtain ⟨v₃, h₃, hv₃⟩ := h₂₃ k v₂ h₂
  exact ⟨v₃, h₃, hR _ _ _ hv₂ hv₃⟩

/-- A `save` moves the entry under its key, if any, along `R`. -/
theorem evolves_insert (hR : ∀ v, R v v) {m : Map κ ν} {k : κ} {v' : ν}
    (hk : ∀ v, m.lookup k = some v → R v v') : Evolves R m (m.insert k v') := by
  intro k' v h
  by_cases hkk : k' = k
  · subst hkk
    exact ⟨v', AList.lookup_insert _, hk v h⟩
  · rw [AList.lookup_insert_ne hkk]
    exact ⟨v, h, hR v⟩

end Evolves

/-- The map a `collect()` builds from a list of pairs: later pairs overwrite
earlier ones with the same key. -/
def ofList (l : List (κ × ν)) : Map κ ν :=
  l.foldl (fun m e => m.insert e.1 e.2) ∅

/-- An entry of a map built on top of `m` from a list is an entry of `m` or one
of the list's pairs. -/
theorem lookup_foldl_insert {k : κ} {v : ν} :
    ∀ (l : List (κ × ν)) (m : Map κ ν), (l.foldl (fun m e => m.insert e.1 e.2) m).lookup k = some v →
      m.lookup k = some v ∨ (k, v) ∈ l
  | [], _, h => .inl h
  | e :: rest, m, h => by
      rcases lookup_foldl_insert rest _ h with hins | hrest
      · rcases lookup_insert_eq_some.mp hins with ⟨rfl, rfl⟩ | ⟨-, hm⟩
        · exact .inr List.mem_cons_self
        · exact .inl hm
      · exact .inr (List.mem_cons_of_mem _ hrest)

theorem mem_of_lookup_ofList {l : List (κ × ν)} {k : κ} {v : ν} (h : (ofList l).lookup k = some v) :
    (k, v) ∈ l := by
  rcases lookup_foldl_insert l ∅ h with hempty | hmem
  · simp at hempty
  · exact hmem

/-- The map that gives one value to every key of a list holds exactly those keys. -/
theorem lookup_ofList_const (l : List κ) (c : ν) (k : κ) :
    (ofList (l.map fun k => (k, c))).lookup k = if k ∈ l then some c else none := by
  have hfold : ∀ (l : List κ) (m : Map κ ν),
      ((l.map fun k => (k, c)).foldl (fun m e => m.insert e.1 e.2) m).lookup k =
        if k ∈ l then some c else m.lookup k := by
    intro l
    induction l with
    | nil => simp
    | cons a l ih =>
        intro m
        rw [List.map_cons, List.foldl_cons, ih]
        by_cases hk : k = a
        · subst hk
          simp
        · simp [hk, AList.lookup_insert_ne hk]
  rw [ofList, hfold]
  simp

/-- Building on top of `m` from pairs with distinct keys, none already in `m`,
adds exactly their weights. -/
theorem sum_foldl_insert (f : κ → ν → ℕ) :
    ∀ (l : List (κ × ν)) (m : Map κ ν), (l.map Prod.fst).Nodup → (∀ e ∈ l, e.1 ∉ m) →
      sum f (l.foldl (fun m e => m.insert e.1 e.2) m) = sum f m + (l.map fun e => f e.1 e.2).sum
  | [], m, _, _ => by simp
  | e :: rest, m, hnd, hfresh => by
      rw [List.map_cons, List.nodup_cons] at hnd
      have hnew : m.lookup e.1 = none :=
        AList.lookup_eq_none.mpr (hfresh e List.mem_cons_self)
      -- the head goes in first; the rest meets neither `m` nor the head's key
      have hrest : ∀ e' ∈ rest, e'.1 ∉ m.insert e.1 e.2 := by
        intro e' he' hmem
        rcases (AList.mem_insert _).mp hmem with h | h
        · exact hnd.1 (h ▸ List.mem_map_of_mem he')
        · exact hfresh e' (List.mem_cons_of_mem _ he') h
      have hstep := sum_insert f m e.1 e.2
      rw [weightAt_of_lookup_none hnew] at hstep
      rw [List.foldl_cons, sum_foldl_insert f rest _ hnd.2 hrest, List.map_cons, List.sum_cons]
      omega

/-- With distinct keys, the map built from a list carries the list's total weight. -/
theorem sum_ofList (f : κ → ν → ℕ) {l : List (κ × ν)} (hnd : (l.map Prod.fst).Nodup) :
    sum f (ofList l) = (l.map fun e => f e.1 e.2).sum := by
  rw [ofList, sum_foldl_insert f l ∅ hnd (fun e _ h => AList.notMem_empty e.1 h)]
  simp

end Map

/-! ## Grouping by key

`Itertools::into_group_map` collects items into a map from each key to the items
of that key, in the order they came, and a caller reads the groups in some order
of the keys. Whatever that order, each item is read exactly once. -/

/-- Reading the groups of `l` by `key` in the order `ks`, a list of distinct keys
that covers every item's key, gives back the items of `l`, up to order. -/
theorem perm_flatMap_filter {α κ : Type*} [DecidableEq κ] (key : α → κ) :
    ∀ (ks : List κ) (l : List α), ks.Nodup → (∀ a ∈ l, key a ∈ ks) →
      (ks.flatMap fun k => l.filter fun a => key a = k).Perm l
  | [], [], _, _ => List.Perm.refl _
  | [], a :: _, _, hcover => absurd (hcover a List.mem_cons_self) List.not_mem_nil
  | k :: ks, l, hnodup, hcover => by
      obtain ⟨hk, hks⟩ := List.nodup_cons.mp hnodup
      -- the other keys read the items whose key is not `k`
      have hrest : (ks.flatMap fun k' => l.filter fun a => key a = k') =
          ks.flatMap fun k' => (l.filter fun a => !decide (key a = k)).filter fun a => key a = k' := by
        refine List.flatMap_congr fun k' hk' => ?_
        rw [List.filter_filter]
        have hne : k' ≠ k := fun h => hk (h ▸ hk')
        refine List.filter_congr fun a _ => ?_
        by_cases h : key a = k' <;> simp [h, hne]
      have hcover' : ∀ a ∈ l.filter (fun a => !decide (key a = k)), key a ∈ ks := by
        intro a ha
        obtain ⟨hal, hne⟩ := List.mem_filter.mp ha
        simp only [Bool.not_eq_eq_eq_not, Bool.not_true, decide_eq_false_iff_not] at hne
        exact (List.mem_cons.mp (hcover a hal)).resolve_left hne
      rw [List.flatMap_cons, hrest]
      exact (List.Perm.append_left _ (perm_flatMap_filter key ks _ hks hcover')).trans
        (List.filter_append_perm _ l)

end Amplifier
