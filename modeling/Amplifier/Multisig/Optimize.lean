import Amplifier.Multisig.Execute
import Amplifier.Lib.Greedy

/-!
# Amplifier.Multisig.Optimize — the signers a proof is built from

`Multisig::optimize_signatures` sorts the submitted signers heaviest first and
takes them while their running weight, a `Uint128` that saturates, is below the
threshold. Here:

* `submittedSigners` — each submitted signature with its signer, as the sort
  looks them up;
* `takeUntilThreshold_spec` — the scan takes a prefix, which reaches the
  threshold unless it is everything, and whose elements but the last stay below
  it; the saturation never matters, the threshold being a `Uint128` itself;
* `optimizeSignatures_spec` — with every signature under a key of the verifier
  set, the result is that prefix of the sorted signers, so by `Lib.Greedy` no
  selection of fewer submitted signers reaches the threshold.
-/

namespace Amplifier.Multisig

open WasmStd

/-- The weight a signer with its signature contributes. -/
def entryWeight (e : Signer × Signature) : ℕ := e.1.weight

/-- The submitted signatures with their signers, in the order of the map. -/
def submittedSigners (m : Multisig) : List (Signer × Signature) :=
  m.signatures.filterMap fun e => (m.verifierSet.signers.lookup e.1).map (·, e.2)

/-- The order of `optimize_signatures`'s sort: heaviest first. -/
def heavierFirst (a b : Signer × Signature) : Bool := decide (b.1.weight ≤ a.1.weight)

/-! ## The scan -/

section Scan

variable {threshold : ℕ}

theorem takeUntilThreshold_of_le {acc : ℕ} (h : threshold ≤ acc) (L : List (Signer × Signature)) :
    takeUntilThreshold threshold acc L = [] := by
  cases L with
  | nil => rfl
  | cons e rest => simp [takeUntilThreshold, Nat.not_lt.mpr h]

theorem takeUntilThreshold_prefix :
    ∀ (acc : ℕ) (L : List (Signer × Signature)), takeUntilThreshold threshold acc L <+: L
  | _, [] => List.prefix_refl _
  | acc, e :: rest => by
      unfold takeUntilThreshold
      split_ifs
      · exact List.cons_prefix_cons.mpr ⟨rfl, takeUntilThreshold_prefix _ rest⟩
      · exact List.nil_prefix

/-- The scan stops at the first prefix that reaches the threshold, or takes
everything: its elements but the last stay below the threshold. The running
weight saturates at `Uint128::MAX`, which is at least the threshold, so it
crosses the threshold where the true sum does. -/
theorem takeUntilThreshold_spec (hthreshold : threshold ≤ uint128Max) :
    ∀ (acc : ℕ) (L : List (Signer × Signature)),
      (takeUntilThreshold threshold acc L = L ∨
        threshold ≤ acc + ((takeUntilThreshold threshold acc L).map entryWeight).sum) ∧
      (takeUntilThreshold threshold acc L ≠ [] →
        acc + ((takeUntilThreshold threshold acc L).dropLast.map entryWeight).sum < threshold)
  | acc, [] => by simp [takeUntilThreshold]
  | acc, e :: rest => by
      by_cases hacc : acc < threshold
      · -- `e` is taken, and the scan goes on from the saturated weight
        rw [takeUntilThreshold, if_pos hacc]
        by_cases hfit : acc + e.1.weight ≤ uint128Max
        · obtain ⟨hreach, hshort⟩ := takeUntilThreshold_spec hthreshold (acc + e.1.weight) rest
          rw [saturatingAdd_of_le hfit]
          refine ⟨?_, fun _ => ?_⟩
          · rcases hreach with heq | hle
            · exact Or.inl (by rw [heq])
            · right
              simp only [List.map_cons, List.sum_cons, entryWeight]
              omega
          · by_cases hnil : takeUntilThreshold threshold (acc + e.1.weight) rest = []
            · simpa [hnil] using hacc
            · have hbelow := hshort hnil
              rw [List.dropLast_cons_of_ne_nil hnil]
              simp only [List.map_cons, List.sum_cons, entryWeight] at hbelow ⊢
              omega
        · -- the weight saturates at `Uint128::MAX`, past the threshold: the scan stops
          have hsat : saturatingAdd acc e.1.weight = uint128Max := min_eq_right (by omega)
          rw [hsat, takeUntilThreshold_of_le hthreshold]
          refine ⟨Or.inr ?_, fun _ => by simpa using hacc⟩
          simp only [List.map_cons, List.map_nil, List.sum_cons, List.sum_nil, entryWeight]
          omega
      · rw [takeUntilThreshold, if_neg hacc]
        exact ⟨Or.inr (by simp only [List.map_nil, List.sum_nil]; omega), fun h => absurd rfl h⟩

end Scan

/-! ## `optimize_signatures` -/

section Optimize

variable {m : Multisig}

theorem mem_submittedSigners {e : Signer × Signature} :
    e ∈ submittedSigners m ↔
      ∃ key, (key, e.2) ∈ m.signatures ∧ m.verifierSet.signers.lookup key = some e.1 := by
  simp only [submittedSigners, List.mem_filterMap, Option.map_eq_some_iff]
  constructor
  · rintro ⟨⟨key, sig⟩, hmem, signer, hlookup, rfl⟩
    exact ⟨key, hmem, hlookup⟩
  · rintro ⟨key, hmem, hlookup⟩
    exact ⟨(key, e.2), hmem, e.1, hlookup, rfl⟩

/-- Signatures under distinct keys are from distinct signers of the verifier set. -/
theorem map_fst_submittedSigners_subperm (hunique : (m.signatures.map Prod.fst).Nodup) :
    ((submittedSigners m).map Prod.fst).Subperm m.verifierSet.values := by
  -- each key with the signer under it: distinct entries of the verifier set
  let entries := m.signatures.filterMap fun e => (m.verifierSet.signers.lookup e.1).map (e.1, ·)
  have hnodup : entries.Nodup := by
    refine nodup_filterMap_of_injOn (List.Nodup.of_map Prod.fst hunique) ?_
    intro x hx y hy b hxb hyb
    obtain ⟨_, _, hx'⟩ := Option.map_eq_some_iff.mp hxb
    obtain ⟨_, _, hy'⟩ := Option.map_eq_some_iff.mp hyb
    have hkey : x.1 = y.1 := (congrArg Prod.fst hx').trans (congrArg Prod.fst hy').symm
    exact List.inj_on_of_nodup_map hunique hx hy hkey
  have hsubset : entries ⊆ m.verifierSet.signers := by
    intro b hb
    obtain ⟨e, -, he⟩ := List.mem_filterMap.mp hb
    obtain ⟨signer, hlookup, rfl⟩ := Option.map_eq_some_iff.mp he
    obtain ⟨l₁, l₂, heq, -⟩ := List.lookup_eq_some_iff.mp hlookup
    rw [heq]
    simp
  have hmap : (submittedSigners m).map Prod.fst = entries.map Prod.snd := by
    simp only [submittedSigners, entries, List.map_filterMap, Option.map_map]
    rfl
  rw [hmap]
  exact subperm_map Prod.snd (List.subperm_of_subset hnodup hsubset)

/-- Looking the signers up succeeds when every key is in the verifier set. -/
theorem mapM_signer_eq_ok :
    ∀ (signatures : List (String × Signature)),
      (∀ e ∈ signatures, (m.verifierSet.signers.lookup e.1).isSome) →
      signatures.mapM (fun e => do
          let signer ← m.signer e.1
          pure (signer, e.2)) =
        .ok (signatures.filterMap fun e => (m.verifierSet.signers.lookup e.1).map (·, e.2))
  | [], _ => rfl
  | e :: rest, h => by
      obtain ⟨signer, hsigner⟩ := Option.isSome_iff_exists.mp (h e List.mem_cons_self)
      rw [List.mapM_cons, mapM_signer_eq_ok rest fun e' he' => h e' (List.mem_cons_of_mem _ he')]
      simp [Multisig.signer, hsigner, okOr, bind, Except.bind, pure, Except.pure]

/-- With every signature under a key of the verifier set, `optimize_signatures`
takes the submitted signers, heaviest first, until the threshold. -/
theorem optimizeSignatures_eq
    (hsigned : ∀ e ∈ m.signatures, (m.verifierSet.signers.lookup e.1).isSome) :
    m.optimizeSignatures =
      .ok (takeUntilThreshold m.verifierSet.threshold 0
        ((submittedSigners m).mergeSort heavierFirst)) := by
  unfold Multisig.optimizeSignatures
  rw [mapM_signer_eq_ok m.signatures hsigned]
  rfl

/-- The sort orders the submitted signers heaviest first. -/
theorem pairwise_mergeSort_heavierFirst (L : List (Signer × Signature)) :
    (L.mergeSort heavierFirst).Pairwise fun a b => b.1.weight ≤ a.1.weight := by
  have htrans : ∀ a b c : Signer × Signature, heavierFirst a b = true → heavierFirst b c = true →
      heavierFirst a c = true := by
    simp only [heavierFirst, decide_eq_true_eq]
    intro a b c hab hbc
    omega
  have htotal : ∀ a b : Signer × Signature, (heavierFirst a b || heavierFirst b a) = true := by
    simp only [heavierFirst, Bool.or_eq_true, decide_eq_true_eq]
    intro a b
    omega
  exact (List.pairwise_mergeSort htrans htotal L).imp fun h => by simpa [heavierFirst] using h

/-- What `optimize_signatures` returns: submitted signers, heaviest first; when
the submitted weight reaches the threshold, a selection that reaches it with the
fewest signers any selection needs, and otherwise every submitted signer. -/
theorem optimizeSignatures_spec
    (hsigned : ∀ e ∈ m.signatures, (m.verifierSet.signers.lookup e.1).isSome)
    (hthreshold : m.verifierSet.threshold ≤ uint128Max) :
    ∃ S, m.optimizeSignatures = .ok S ∧ S.Subperm (submittedSigners m) ∧
      S.Pairwise (fun a b => b.1.weight ≤ a.1.weight) ∧
      (m.verifierSet.threshold ≤ ((submittedSigners m).map entryWeight).sum →
        m.verifierSet.threshold ≤ (S.map entryWeight).sum ∧
        (S ≠ [] → (S.dropLast.map entryWeight).sum < m.verifierSet.threshold) ∧
        ∀ T : List (Signer × Signature), T.Subperm (submittedSigners m) →
          m.verifierSet.threshold ≤ (T.map entryWeight).sum → S.length ≤ T.length) ∧
      (((submittedSigners m).map entryWeight).sum < m.verifierSet.threshold →
        S.Perm (submittedSigners m)) := by
  set sorted := (submittedSigners m).mergeSort heavierFirst with hsorted_def
  set S := takeUntilThreshold m.verifierSet.threshold 0 sorted with hS
  have hperm : sorted.Perm (submittedSigners m) := List.mergeSort_perm _ _
  have hsorted := pairwise_mergeSort_heavierFirst (submittedSigners m)
  have htaken : S <+: sorted := takeUntilThreshold_prefix 0 sorted
  have hsub : S.Subperm (submittedSigners m) := (htaken.sublist.subperm).trans hperm.subperm
  have htotal : (sorted.map entryWeight).sum = ((submittedSigners m).map entryWeight).sum :=
    (hperm.map entryWeight).sum_eq
  have hle_total : (S.map entryWeight).sum ≤ (sorted.map entryWeight).sum :=
    (htaken.sublist.map entryWeight).sum_le_sum fun _ _ => Nat.zero_le _
  obtain ⟨hreach, hshort⟩ := takeUntilThreshold_spec hthreshold 0 sorted
  rw [← hS, Nat.zero_add] at hreach
  simp only [← hS, Nat.zero_add] at hshort
  refine ⟨S, optimizeSignatures_eq hsigned, hsub, hsorted.sublist htaken.sublist, ?_, ?_⟩
  · intro henough
    have hS_reach : m.verifierSet.threshold ≤ (S.map entryWeight).sum := by
      rcases hreach with heq | hle
      · rw [heq, htotal]
        exact henough
      · exact hle
    refine ⟨hS_reach, hshort, ?_⟩
    intro T hT hTreach
    rcases List.eq_nil_or_concat S with hnil | ⟨init, last, hsnoc⟩
    · rw [hnil]
      exact Nat.zero_le _
    · -- all but the last signer taken are the front of the sorted list, short of the threshold
      have hne : S ≠ [] := by simp [hsnoc]
      have hfront : S.dropLast = sorted.take (S.length - 1) := by
        rw [List.dropLast_eq_take, List.prefix_iff_eq_take.mp htaken, List.take_take,
          List.length_take, min_eq_left (htaken.length_le), min_eq_left (Nat.sub_le _ _)]
      have hbelow := hshort hne
      rw [hfront] at hbelow
      have hlt := lt_length_of_subperm entryWeight (hsorted.imp id) hbelow
        (hT.trans hperm.symm.subperm) hTreach
      omega
  · intro hshort_total
    have hall : S = sorted := by
      rcases hreach with heq | hle
      · exact heq
      · omega
    rw [hall]
    exact hperm

end Optimize

end Amplifier.Multisig
