import Amplifier.Lib.Store
import Amplifier.Lib.Transaction
import Amplifier.Lib.Bytes

/-!
# Amplifier.Lib.IndexedMap — a map with a secondary index

`cw-storage-plus`'s `IndexedMap` with one `MultiIndex`: beside the primary map
it stores, for each entry `k ↦ v`, the index key `(idx v, k)`, and every write
goes through `replace`, which removes the index key of the value it overwrites
and adds that of the value it writes. A prefix query (`prefixRange`) lists the
primary keys stored under one index value, each loaded from the primary map.

The index is data here, not a function of the primary map: `Agrees` says it
holds exactly the index keys of the primary entries, `agrees_empty` and
`Agrees.replace` show every write keeps that, and under it a prefix query lists
exactly the entries whose value has that index (`mem_prefixRange`). Where the
index function is injective on the entries, a prefix query returns at most one
entry (`prefixRange_eq_of_unique`).

A prefix range comes in ascending order of the primary keys' bytes, as the
storage iterates them: the key's bytes are a parameter (`keyBytes`, what the key
type's `PrimaryKey::key` writes), and the entries are sorted by `compareBytes` of
them.
-/

namespace Amplifier

universe u

/-- An `IndexedMap` with one `MultiIndex`: the primary map, and the index keys
`(idx v, k)` written for its entries. -/
structure IndexedMap (κ ν ι : Type u) [DecidableEq κ] [DecidableEq ι] where
  primary : Map κ ν
  index : Map (ι × κ) Unit

namespace IndexedMap

variable {κ ν ι : Type u} [DecidableEq κ] [DecidableEq ι]

/-- The empty map, with an empty index. -/
def empty : IndexedMap κ ν ι := ⟨∅, ∅⟩

/-- `IndexedMap::replace`: the index key of the old value removed, that of the new
value added, and the primary entry written (or removed, for no new value). -/
def replace (idx : ν → ι) (m : IndexedMap κ ν ι) (k : κ) (new old : Option ν) :
    IndexedMap κ ν ι :=
  let index := match old with
    | some o => m.index.erase (idx o, k)
    | none => m.index
  match new with
  | some v => ⟨m.primary.insert k v, index.insert (idx v, k) ()⟩
  | none => ⟨m.primary.erase k, index⟩

/-- `IndexedMap::update`: the action sees the stored value, if any; what it
returns is written with `replace`, and its error leaves the map as it was. -/
def update {ε : Type*} (idx : ν → ι) (m : IndexedMap κ ν ι) (k : κ)
    (action : Option ν → Except ε ν) : Except ε (IndexedMap κ ν ι × ν) := do
  let output ← action (m.primary.lookup k)
  return (replace idx m k (some output) (m.primary.lookup k), output)

/-- `MultiIndex::prefix(i).range(.., Order::Ascending)`: the primary keys indexed
under `i`, in the order of their bytes, each with its value loaded from the
primary map. -/
def prefixRange (keyBytes : κ → List UInt8) (m : IndexedMap κ ν ι) (i : ι) : List (κ × ν) :=
  (m.index.keys.filterMap fun key =>
    if key.1 = i then (m.primary.lookup key.2).map fun v => (key.2, v) else none).insertionSort
    fun a b => compareBytes (keyBytes a.1) (keyBytes b.1) ≠ .gt

/-- The index holds exactly the index key of each primary entry. -/
def Agrees (idx : ν → ι) (m : IndexedMap κ ν ι) : Prop :=
  ∀ i k, (i, k) ∈ m.index ↔ ∃ v, m.primary.lookup k = some v ∧ idx v = i

theorem agrees_empty (idx : ν → ι) : Agrees idx (empty : IndexedMap κ ν ι) := by
  intro i k
  simp [empty]

/-- A write through `replace`, given the value it overwrites, keeps the index in
agreement with the primary map. -/
theorem Agrees.replace {idx : ν → ι} {m : IndexedMap κ ν ι} (hm : Agrees idx m) (k : κ)
    (new : Option ν) : Agrees idx (m.replace idx k new (m.primary.lookup k)) := by
  intro i k'
  -- the index keys of `k` other than the old one's were never there
  have hold : ∀ i, (i, k) ∈ m.index ↔ ∃ v, m.primary.lookup k = some v ∧ idx v = i := fun i =>
    hm i k
  by_cases hk : k' = k
  · subst hk
    -- after the write, `k'` is indexed under its new value only
    have herased : ∀ i, (i, k') ∈ (match m.primary.lookup k' with
        | some o => m.index.erase (idx o, k')
        | none => m.index) → False := by
      intro i hi
      cases hlook : m.primary.lookup k' with
      | none =>
          rw [hlook] at hi
          obtain ⟨v, hv, -⟩ := (hold i).mp hi
          rw [hlook] at hv
          cases hv
      | some o =>
          rw [hlook] at hi
          have hne : (i, k') ≠ (idx o, k') := fun h => (AList.mem_erase.mp hi).1 h
          obtain ⟨v, hv, hvi⟩ := (hold i).mp (AList.mem_erase.mp hi).2
          rw [hlook, Option.some.injEq] at hv
          subst hv
          exact hne (by rw [hvi])
    cases new with
    | none =>
        simp only [IndexedMap.replace, AList.lookup_erase, reduceCtorEq, false_and, exists_false,
          iff_false]
        exact herased i
    | some v =>
        simp only [IndexedMap.replace, AList.lookup_insert, Option.some.injEq, exists_eq_left',
          AList.mem_insert, Prod.mk.injEq, and_true]
        constructor
        · rintro (h | h)
          · exact h.symm
          · exact (herased i h).elim
        · rintro rfl
          exact .inl rfl
  · -- entries at other keys, and their index keys, are untouched
    have hother : ((i, k') ∈ (match m.primary.lookup k with
        | some o => m.index.erase (idx o, k)
        | none => m.index)) ↔ (i, k') ∈ m.index := by
      cases m.primary.lookup k with
      | none => rfl
      | some o =>
          rw [AList.mem_erase]
          exact ⟨And.right, fun h => ⟨fun heq => hk (Prod.mk.inj heq).2, h⟩⟩
    cases new with
    | none =>
        simp only [IndexedMap.replace, AList.lookup_erase_ne hk]
        rw [hother]
        exact hm i k'
    | some v =>
        simp only [IndexedMap.replace, AList.lookup_insert_ne hk, AList.mem_insert, Prod.mk.injEq]
        rw [hother]
        constructor
        · rintro (⟨-, h⟩ | h)
          · exact (hk h).elim
          · exact (hm i k').mp h
        · exact fun h => .inr ((hm i k').mpr h)

/-- A write of a value stores it in the primary map, whatever it overwrites. -/
@[simp] theorem primary_replace_some (idx : ν → ι) (m : IndexedMap κ ν ι) (k : κ) (v : ν)
    (old : Option ν) : (m.replace idx k (some v) old).primary = m.primary.insert k v := rfl

/-- A committed `update`: the action's value on what was stored, written with
`replace`. -/
theorem update_eq_ok {ε : Type*} {idx : ν → ι} {m m' : IndexedMap κ ν ι} {k : κ}
    {action : Option ν → Except ε ν} {v : ν} :
    m.update idx k action = .ok (m', v) ↔
      action (m.primary.lookup k) = .ok v ∧ m' = m.replace idx k (some v) (m.primary.lookup k) := by
  simp only [IndexedMap.update, bind_eq_ok, pure, Except.pure, Except.ok.injEq, Prod.mk.injEq]
  constructor
  · rintro ⟨output, haction, rfl, rfl⟩
    exact ⟨haction, rfl⟩
  · rintro ⟨haction, rfl⟩
    exact ⟨v, haction, rfl, rfl⟩

/-- A committed `update` keeps the index in agreement with the primary map, and
stores what the action returned. -/
theorem Agrees.update {ε : Type*} {idx : ν → ι} {m m' : IndexedMap κ ν ι} {k : κ}
    {action : Option ν → Except ε ν} {v : ν} (hm : Agrees idx m)
    (h : m.update idx k action = .ok (m', v)) :
    Agrees idx m' ∧ action (m.primary.lookup k) = .ok v ∧ m'.primary = m.primary.insert k v := by
  obtain ⟨haction, rfl⟩ := update_eq_ok.mp h
  exact ⟨hm.replace k (some v), haction, primary_replace_some idx m k v _⟩

/-- Under agreement, a prefix query lists exactly the entries whose value has the
index. -/
theorem mem_prefixRange (keyBytes : κ → List UInt8) {idx : ν → ι} {m : IndexedMap κ ν ι}
    (hm : Agrees idx m) (i : ι) (k : κ) (v : ν) :
    (k, v) ∈ m.prefixRange keyBytes i ↔ m.primary.lookup k = some v ∧ idx v = i := by
  unfold prefixRange
  rw [(List.perm_insertionSort _ _).mem_iff, List.mem_filterMap]
  constructor
  · rintro ⟨⟨i', k'⟩, hkey, hsome⟩
    dsimp only at hsome
    split_ifs at hsome with hi
    obtain ⟨v', hv', hpair⟩ := Option.map_eq_some_iff.mp hsome
    obtain ⟨rfl, rfl⟩ := Prod.mk.inj hpair
    subst hi
    obtain ⟨v'', hv'', hidx⟩ := (hm i' k').mp (AList.mem_keys.mp hkey)
    rw [hv'] at hv''
    cases hv''
    exact ⟨hv', hidx⟩
  · rintro ⟨hv, hidx⟩
    refine ⟨(i, k), AList.mem_keys.mpr ((hm i k).mpr ⟨v, hv, hidx⟩), ?_⟩
    simp [hv]

/-- The keys of a prefix query are distinct: each index key is stored once. -/
theorem nodup_keys_prefixRange (keyBytes : κ → List UInt8) (m : IndexedMap κ ν ι) (i : ι) :
    ((m.prefixRange keyBytes i).map Prod.fst).Nodup := by
  unfold prefixRange
  -- sorting only reorders the entries
  rw [((List.perm_insertionSort _ _).map Prod.fst).nodup_iff, List.map_filterMap]
  apply List.Nodup.filterMap _ m.index.keys_nodup
  intro key key' k hk hk'
  split_ifs at hk hk' with hi hi'
  · simp only [Option.map_map, Function.comp_def, Option.mem_def, Option.map_eq_some_iff] at hk hk'
    obtain ⟨_, -, rfl⟩ := hk
    obtain ⟨_, -, hkeys⟩ := hk'
    exact Prod.ext (hi.trans hi'.symm) hkeys.symm
  -- a key outside the prefix yields no entry
  all_goals simp at hk hk'

/-- Under agreement, when at most one entry has index `i`, a prefix query on `i`
returns nothing or that one entry. -/
theorem prefixRange_eq_of_unique (keyBytes : κ → List UInt8) {idx : ν → ι}
    {m : IndexedMap κ ν ι} (hm : Agrees idx m)
    {i : ι} (hunique : ∀ k k' v v', m.primary.lookup k = some v → m.primary.lookup k' = some v' →
      idx v = i → idx v' = i → k = k') :
    m.prefixRange keyBytes i = [] ∨
      ∃ k v, m.prefixRange keyBytes i = [(k, v)] ∧ m.primary.lookup k = some v ∧ idx v = i := by
  have hnd := nodup_keys_prefixRange keyBytes m i
  cases hrange : m.prefixRange keyBytes i with
  | nil => exact .inl rfl
  | cons kv rest =>
      obtain ⟨k, v⟩ := kv
      rw [hrange] at hnd
      have hkv := (mem_prefixRange keyBytes hm i k v).mp (hrange ▸ List.mem_cons_self)
      refine .inr ⟨k, v, ?_, hkv⟩
      -- any further entry would carry the same key, which appears once
      cases rest with
      | nil => rfl
      | cons kv' rest' =>
          obtain ⟨k', v'⟩ := kv'
          have hkv' := (mem_prefixRange keyBytes hm i k' v').mp
            (hrange ▸ List.mem_cons_of_mem _ List.mem_cons_self)
          have hkk' := hunique k k' v v' hkv.1 hkv'.1 hkv.2 hkv'.2
          simp only [List.map_cons, List.nodup_cons, List.mem_cons] at hnd
          exact (hnd.1 (.inl hkk')).elim

end IndexedMap

end Amplifier
