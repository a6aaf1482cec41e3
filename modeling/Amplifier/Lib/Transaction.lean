import Mathlib

/-!
# Amplifier.Lib.Transaction — transactional state machines

A CosmWasm contract handles one message per transaction. The handler either
fails — the chain then discards every write it made, so the storage is the
one it started from — or it commits a new storage together with a response
(events and messages). This module fixes that shape once, for any storage
type `σ`, message type `α`, error type `ε` and response type `ρ`:

* `Reachable exec init` — the storages reachable from `init` by committed
  transactions, with the invariant rule `Reachable.induction_inv`;
* `Later exec s t` — `t` is reached from `s` by committed transactions; a
  predicate preserved by every committed step holds at every later state
  (`Later.preserves`);
* `run exec s as` — a whole run: the transactions of `as` applied in order,
  the failed ones leaving the storage unchanged, with the responses of the
  committed ones collected in order;
* `runLog exec s as` — the same run with its log of committed transactions,
  with the rules that read a history off it: properties of every transaction
  of a run whose clock never goes back (`runLog_forall_of_clocked`), quantities
  conserved over the run (`runLog_conserves`), counters that emit each number
  once (`runLog_flatMap_range'`), keys that a transaction consumes and so
  commits once (`runLog_nodup_of_consumes`), and a predicate of the storage
  switched on between two transactions of the run (`runLog_exists_switch`);
* `ensure` and `okOr` — the guards of a handler, `ensure!` and `ok_or`;
* `bind_eq_ok`, `mapM_eq_ok` and their kin — how a handler written in the
  `Except` monad succeeds, so that its inversion lemma peels it step by step;
  `foldlM_inv` is the invariant rule of a loop that can fail.

Nothing here names a contract; the contract modules instantiate `exec` with
their own `execute` function and prove their invariants through these rules.
-/

namespace Amplifier

universe u v w x

variable {σ : Type u} {α : Type v} {ε : Type w} {ρ : Type x}

/-- One committed transaction: from `s`, message `a` commits `s'` with response `r`. -/
def Commits (exec : σ → α → Except ε (σ × ρ)) (s : σ) (a : α) (s' : σ) (r : ρ) : Prop :=
  exec s a = .ok (s', r)

/-- The one-step relation of committed transactions, forgetting message and response. -/
def CommitStep (exec : σ → α → Except ε (σ × ρ)) (s s' : σ) : Prop :=
  ∃ a r, exec s a = .ok (s', r)

/-- Storages reachable from `init` by committed transactions. Failed transactions
leave the storage as it was, so they add no state. -/
inductive Reachable (exec : σ → α → Except ε (σ × ρ)) (init : σ) : σ → Prop
  | init : Reachable exec init init
  | step {s s' : σ} {a : α} {r : ρ} :
      Reachable exec init s → exec s a = .ok (s', r) → Reachable exec init s'

/-- `t` is a later storage than `s`: reached from it by committed transactions. -/
def Later (exec : σ → α → Except ε (σ × ρ)) : σ → σ → Prop :=
  Relation.ReflTransGen (CommitStep exec)

section Rules

variable {exec : σ → α → Except ε (σ × ρ)}

/-- The invariant rule: a predicate true initially and preserved by every
committed transaction holds in every reachable storage. -/
theorem Reachable.induction_inv {init : σ} (inv : σ → Prop) (hinit : inv init)
    (hstep : ∀ s a s' r, inv s → exec s a = .ok (s', r) → inv s') :
    ∀ {s}, Reachable exec init s → inv s := by
  intro s hs
  induction hs with
  | init => exact hinit
  | step _ hexec ih => exact hstep _ _ _ _ ih hexec

theorem Later.refl (s : σ) : Later exec s s := Relation.ReflTransGen.refl

theorem Later.single {s s' : σ} {a : α} {r : ρ} (h : exec s a = .ok (s', r)) :
    Later exec s s' :=
  Relation.ReflTransGen.single ⟨a, r, h⟩

theorem Later.trans {s t u : σ} (hst : Later exec s t) (htu : Later exec t u) :
    Later exec s u :=
  Relation.ReflTransGen.trans hst htu

/-- Every storage later than a reachable one is reachable. -/
theorem Reachable.later {init s t : σ} (hs : Reachable exec init s) (hst : Later exec s t) :
    Reachable exec init t := by
  induction hst with
  | refl => exact hs
  | tail _ hstep ih =>
      obtain ⟨a, r, hexec⟩ := hstep
      exact ih.step hexec

/-- Every reachable storage is later than the initial one. -/
theorem Reachable.later_init {init s : σ} (hs : Reachable exec init s) :
    Later exec init s := by
  induction hs with
  | init => exact Later.refl _
  | step _ hexec ih => exact ih.trans (Later.single hexec)

/-- A predicate preserved by every committed transaction out of a state satisfying
`inv` holds at every later state, as long as `inv` holds along the way. -/
theorem Later.preserves (inv P : σ → Prop)
    (hinv : ∀ s a s' r, inv s → exec s a = .ok (s', r) → inv s')
    (hstep : ∀ s a s' r, inv s → P s → exec s a = .ok (s', r) → P s')
    {s t : σ} (hst : Later exec s t) (hi : inv s) (hP : P s) : inv t ∧ P t := by
  induction hst with
  | refl => exact ⟨hi, hP⟩
  | tail _ hlast ih =>
      obtain ⟨a, r, hexec⟩ := hlast
      exact ⟨hinv _ _ _ _ ih.1 hexec, hstep _ _ _ _ ih.1 ih.2 hexec⟩

/-- A reflexive and transitive relation that every committed transaction out of
a reachable storage satisfies relates each reachable storage to every later one. -/
theorem Later.rel {init : σ} (R : σ → σ → Prop) (hrefl : ∀ s, R s s)
    (htrans : ∀ s t u, R s t → R t u → R s u)
    (hstep : ∀ s a s' r, Reachable exec init s → exec s a = .ok (s', r) → R s s')
    {s t : σ} (hs : Reachable exec init s) (hst : Later exec s t) : R s t := by
  induction hst with
  | refl => exact hrefl s
  | tail hlater hlast ih =>
      obtain ⟨a, r, hexec⟩ := hlast
      exact htrans _ _ _ ih (hstep _ a _ r (hs.later hlater) hexec)

end Rules

/-! ## Runs -/

section Runs

variable (exec : σ → α → Except ε (σ × ρ))

/-- A run: the transactions of the list applied in order. A failed transaction
leaves the storage as it was and emits nothing; the responses of the committed
ones are collected in order. -/
def run : σ → List α → σ × List ρ
  | s, [] => (s, [])
  | s, a :: as =>
      match exec s a with
      | .ok (s', r) => ((run s' as).1, r :: (run s' as).2)
      | .error _ => run s as

@[simp] theorem run_nil (s : σ) : run exec s [] = (s, []) := rfl

theorem run_cons_ok {s s' : σ} {a : α} {r : ρ} (as : List α) (h : exec s a = .ok (s', r)) :
    run exec s (a :: as) = ((run exec s' as).1, r :: (run exec s' as).2) := by
  simp [run, h]

theorem run_cons_error {s : σ} {a : α} {e : ε} (as : List α) (h : exec s a = .error e) :
    run exec s (a :: as) = run exec s as := by
  simp [run, h]

/-- The final storage of a run is later than its start. -/
theorem run_later (s : σ) (as : List α) : Later exec s (run exec s as).1 := by
  induction as generalizing s with
  | nil => exact Later.refl s
  | cons a as ih =>
      cases hexec : exec s a with
      | ok sr =>
          obtain ⟨s', r⟩ := sr
          rw [run_cons_ok exec as hexec]
          exact (Later.single hexec).trans (ih s')
      | error e =>
          rw [run_cons_error exec as hexec]
          exact ih s

/-- The final storage of a run from a reachable storage is reachable. -/
theorem run_reachable {init s : σ} (hs : Reachable exec init s) (as : List α) :
    Reachable exec init (run exec s as).1 :=
  hs.later (run_later exec s as)

end Runs

/-! ## Logs of a run

A property of a whole history — a total paid out, the sequence of numbers a
handler emitted — is read off the log of the run: each committed transaction
with the storage it started from and the one it left. -/

/-- One committed transaction of a run. -/
structure Committed (σ : Type u) (α : Type v) (ρ : Type x) where
  before : σ
  msg : α
  after : σ
  response : ρ

section Logs

variable (exec : σ → α → Except ε (σ × ρ))

/-- A run with its log: the final storage, and the committed transactions in order. -/
def runLog : σ → List α → σ × List (Committed σ α ρ)
  | s, [] => (s, [])
  | s, a :: as =>
      match exec s a with
      | .ok (s', r) => ((runLog s' as).1, ⟨s, a, s', r⟩ :: (runLog s' as).2)
      | .error _ => runLog s as

@[simp] theorem runLog_nil (s : σ) : runLog exec s [] = (s, []) := rfl

theorem runLog_cons_ok {s s' : σ} {a : α} {r : ρ} (as : List α) (h : exec s a = .ok (s', r)) :
    runLog exec s (a :: as) = ((runLog exec s' as).1, ⟨s, a, s', r⟩ :: (runLog exec s' as).2) := by
  simp [runLog, h]

theorem runLog_cons_error {s : σ} {a : α} {e : ε} (as : List α) (h : exec s a = .error e) :
    runLog exec s (a :: as) = runLog exec s as := by
  simp [runLog, h]

/-- A transaction that always commits, with its outcome as its response: a
failed transaction commits the storage it started from, so the log of a run of
`withOutcome exec` lists every transaction, the failed ones included. -/
def withOutcome (s : σ) (a : α) : Except ε (σ × Except ε ρ) :=
  match exec s a with
  | .ok (s', r) => .ok (s', .ok r)
  | .error e => .ok (s, .error e)

variable {exec}

theorem withOutcome_eq_ok {s s' : σ} {a : α} {r : Except ε ρ} :
    withOutcome exec s a = .ok (s', r) ↔
      (∃ r', exec s a = .ok (s', r') ∧ r = .ok r') ∨ (∃ e, exec s a = .error e ∧ s' = s ∧ r = .error e) := by
  unfold withOutcome
  cases exec s a with
  | ok sr =>
      obtain ⟨s₁, r₁⟩ := sr
      simp [eq_comm]
  | error e => simp [eq_comm]

/-- The invariant rule for runs whose messages carry a clock that never goes
back, such as the block height: an invariant at a time, that holds at every
later time and that a transaction committed at its own time preserves, holds
along the run; so every committed transaction has each property that such a
transaction has. -/
theorem runLog_forall_of_clocked (clock : α → ℕ) (inv : ℕ → σ → Prop)
    (P : Committed σ α ρ → Prop)
    (hlater : ∀ h h' s, h ≤ h' → inv h s → inv h' s)
    (hstep : ∀ e : Committed σ α ρ, inv (clock e.msg) e.before →
      exec e.before e.msg = .ok (e.after, e.response) → inv (clock e.msg) e.after ∧ P e) :
    ∀ {h : ℕ} {s : σ} {as : List α}, inv h s → (∀ a ∈ as, h ≤ clock a) →
      as.Pairwise (fun a b => clock a ≤ clock b) → ∀ e ∈ (runLog exec s as).2, P e
  | _, _, [], _, _, _ => by simp
  | h, s, a :: as, hs, hclock, hsorted => by
      rw [List.pairwise_cons] at hsorted
      -- the invariant moves to the clock of `a`, which bounds the rest of the run
      have hs' : inv (clock a) s := hlater h (clock a) s (hclock a List.mem_cons_self) hs
      have hrest : ∀ b ∈ as, clock a ≤ clock b := hsorted.1
      cases hexec : exec s a with
      | error err =>
          rw [runLog_cons_error exec as hexec]
          exact runLog_forall_of_clocked clock inv P hlater hstep hs' hrest hsorted.2
      | ok sr =>
          obtain ⟨s', r⟩ := sr
          obtain ⟨hs'', hP⟩ := hstep ⟨s, a, s', r⟩ hs' hexec
          rw [runLog_cons_ok exec as hexec]
          intro e he
          rcases List.mem_cons.mp he with rfl | he
          · exact hP
          · exact runLog_forall_of_clocked clock inv P hlater hstep hs'' hrest hsorted.2 e he

/-- A potential of the storage read at a clock, that grows with the clock and that
no committed transaction lowers, never decreases along a run whose clock never
goes back: each transaction of the log finds it at least where the run started
and where every earlier transaction found it. -/
theorem runLog_pairwise_of_clocked {β : Type*} [Preorder β] (clock : α → ℕ)
    (inv : ℕ → σ → Prop) (V : ℕ → σ → β)
    (hlater : ∀ h h' s, h ≤ h' → inv h s → inv h' s ∧ V h s ≤ V h' s)
    (hstep : ∀ s a s' r, inv (clock a) s → exec s a = .ok (s', r) →
      inv (clock a) s' ∧ V (clock a) s ≤ V (clock a) s') :
    ∀ {h : ℕ} {s : σ} {as : List α}, inv h s → (∀ a ∈ as, h ≤ clock a) →
      as.Pairwise (fun a b => clock a ≤ clock b) →
      (∀ e ∈ (runLog exec s as).2, V h s ≤ V (clock e.msg) e.before) ∧
        (runLog exec s as).2.Pairwise fun e e' => V (clock e.msg) e.before ≤ V (clock e'.msg) e'.before
  | _, _, [], _, _, _ => by simp
  | h, s, a :: as, hs, hclock, hsorted => by
      rw [List.pairwise_cons] at hsorted
      -- the potential moves up to the clock of `a`, which bounds the rest of the run
      obtain ⟨hs', hV⟩ := hlater h (clock a) s (hclock a List.mem_cons_self) hs
      have hrest : ∀ b ∈ as, clock a ≤ clock b := hsorted.1
      cases hexec : exec s a with
      | error err =>
          rw [runLog_cons_error exec as hexec]
          obtain ⟨hbound, hpair⟩ := runLog_pairwise_of_clocked clock inv V hlater hstep hs' hrest hsorted.2
          exact ⟨fun e he => le_trans hV (hbound e he), hpair⟩
      | ok sr =>
          obtain ⟨s', r⟩ := sr
          obtain ⟨hs'', hV'⟩ := hstep s a s' r hs' hexec
          obtain ⟨hbound, hpair⟩ :=
            runLog_pairwise_of_clocked clock inv V hlater hstep hs'' hrest hsorted.2
          rw [runLog_cons_ok exec as hexec]
          refine ⟨?_, List.pairwise_cons.mpr ⟨fun e he => le_trans hV' (hbound e he), hpair⟩⟩
          intro e he
          rcases List.mem_cons.mp he with rfl | he
          · exact hV
          · exact le_trans (le_trans hV hV') (hbound e he)

/-- Conservation over a run: a quantity that each committed transaction changes
by what it takes in minus what it gives out ends as its start plus all that
came in, minus all that went out. -/
theorem runLog_conserves (f : σ → ℕ) (inp out : Committed σ α ρ → ℕ) :
    ∀ {s : σ} {as : List α}, (∀ e ∈ (runLog exec s as).2, f e.after + out e = f e.before + inp e) →
      f (runLog exec s as).1 + ((runLog exec s as).2.map out).sum =
        f s + ((runLog exec s as).2.map inp).sum
  | _, [], _ => by simp
  | s, a :: as, h => by
      cases hexec : exec s a with
      | error err =>
          rw [runLog_cons_error exec as hexec] at h ⊢
          exact runLog_conserves f inp out h
      | ok sr =>
          obtain ⟨s', r⟩ := sr
          rw [runLog_cons_ok exec as hexec] at h ⊢
          have hhead := h _ List.mem_cons_self
          have hrest := runLog_conserves f inp out fun e he => h e (List.mem_cons_of_mem _ he)
          simp only [List.map_cons, List.sum_cons] at hhead ⊢
          omega

/-- A counter that each committed transaction moves forward, emitting the
numbers it moved past, emits over a run exactly the numbers from its start to
its end: each once, in order. -/
theorem runLog_flatMap_range' (f : σ → ℕ) (emit : Committed σ α ρ → List ℕ) :
    ∀ {s : σ} {as : List α}, (∀ e ∈ (runLog exec s as).2,
      f e.before ≤ f e.after ∧ emit e = List.range' (f e.before) (f e.after - f e.before)) →
      f s ≤ f (runLog exec s as).1 ∧
        (runLog exec s as).2.flatMap emit = List.range' (f s) (f (runLog exec s as).1 - f s)
  | _, [], _ => by simp
  | s, a :: as, h => by
      cases hexec : exec s a with
      | error err =>
          rw [runLog_cons_error exec as hexec] at h ⊢
          exact runLog_flatMap_range' f emit h
      | ok sr =>
          obtain ⟨s', r⟩ := sr
          rw [runLog_cons_ok exec as hexec] at h ⊢
          obtain ⟨hle, hemit⟩ := h _ List.mem_cons_self
          dsimp only at hle hemit
          obtain ⟨hle', hrest⟩ :=
            runLog_flatMap_range' f emit fun e he => h e (List.mem_cons_of_mem _ he)
          refine ⟨hle.trans hle', ?_⟩
          -- the head's numbers run up to where the rest of the run starts
          have hsplit : f (runLog exec s' as).1 - f s =
              (f s' - f s) + (f (runLog exec s' as).1 - f s') := by omega
          rw [List.flatMap_cons, hemit, hrest, hsplit, ← List.range'_append_1,
            Nat.add_sub_cancel' hle]

/-- Every transaction of a run's log commits, from a storage reachable from
where the run started; the run ends in a reachable storage too. -/
theorem runLog_reachable {init : σ} :
    ∀ {s : σ} (as : List α), Reachable exec init s →
      Reachable exec init (runLog exec s as).1 ∧
        ∀ e ∈ (runLog exec s as).2, Reachable exec init e.before ∧
          exec e.before e.msg = .ok (e.after, e.response)
  | _, [], hs => by simpa using hs
  | s, a :: as, hs => by
      cases hexec : exec s a with
      | error err =>
          rw [runLog_cons_error exec as hexec]
          exact runLog_reachable as hs
      | ok sr =>
          obtain ⟨s', r⟩ := sr
          rw [runLog_cons_ok exec as hexec]
          obtain ⟨hend, hrest⟩ := runLog_reachable as (hs.step hexec)
          refine ⟨hend, ?_⟩
          intro e he
          rcases List.mem_cons.mp he with rfl | he
          · exact ⟨hs, hexec⟩
          · exact hrest e he

/-- Every transaction of a run's log is one of the run's messages. -/
theorem runLog_msg_mem : ∀ (s : σ) (as : List α), ∀ e ∈ (runLog exec s as).2, e.msg ∈ as
  | _, [] => by simp
  | s, a :: as => by
      cases hexec : exec s a with
      | error err =>
          rw [runLog_cons_error exec as hexec]
          exact fun e he => List.mem_cons_of_mem _ (runLog_msg_mem s as e he)
      | ok sr =>
          obtain ⟨s', r⟩ := sr
          rw [runLog_cons_ok exec as hexec]
          intro e he
          rcases List.mem_cons.mp he with rfl | he
          · exact List.mem_cons_self
          · exact List.mem_cons_of_mem _ (runLog_msg_mem s' as e he)

/-- The run ends in a storage later than the one each committed transaction left. -/
theorem runLog_later_after :
    ∀ (s : σ) (as : List α), ∀ e ∈ (runLog exec s as).2, Later exec e.after (runLog exec s as).1
  | _, [] => by simp
  | s, a :: as => by
      cases hexec : exec s a with
      | error err =>
          rw [runLog_cons_error exec as hexec]
          exact runLog_later_after s as
      | ok sr =>
          obtain ⟨s', r⟩ := sr
          rw [runLog_cons_ok exec as hexec]
          intro e he
          rcases List.mem_cons.mp he with rfl | he
          · exact (runLog_reachable as (Reachable.init : Reachable exec s' s')).1.later_init
          · exact runLog_later_after s' as e he

/-- A run whose transactions each consume a key — one commits only while its key
is unconsumed, consumes it, and no transaction gives a consumed key back —
commits each key at most once, and never a key consumed before it started. -/
theorem runLog_nodup_of_consumes {κ : Type*} (key : α → κ) (used : κ → σ → Prop)
    (hstep : ∀ s a s' r, exec s a = .ok (s', r) →
      ¬used (key a) s ∧ used (key a) s' ∧ ∀ k, used k s → used k s') :
    ∀ (s : σ) (as : List α), ((runLog exec s as).2.map fun e => key e.msg).Nodup ∧
      ∀ k, used k s → ∀ e ∈ (runLog exec s as).2, key e.msg ≠ k
  | _, [] => by simp
  | s, a :: as => by
      cases hexec : exec s a with
      | error err =>
          rw [runLog_cons_error exec as hexec]
          exact runLog_nodup_of_consumes key used hstep s as
      | ok sr =>
          obtain ⟨s', r⟩ := sr
          rw [runLog_cons_ok exec as hexec]
          obtain ⟨hfresh, hused, hkeep⟩ := hstep s a s' r hexec
          obtain ⟨hnd, hafter⟩ := runLog_nodup_of_consumes key used hstep s' as
          refine ⟨?_, ?_⟩
          · -- the rest of the run starts with this transaction's key consumed
            rw [List.map_cons, List.nodup_cons]
            refine ⟨fun hmem => ?_, hnd⟩
            obtain ⟨e, he, hkey⟩ := List.mem_map.mp hmem
            exact hafter (key a) hused e he hkey
          · intro k hk e he
            rcases List.mem_cons.mp he with rfl | he
            · intro hkey
              exact hfresh (hkey ▸ hk)
            · exact hafter k (hkeep k hk) e he

/-- The log is a chain: each committed transaction starts from the storage the
one before it left, and the first from the storage the run started from. -/
theorem runLog_isChain :
    ∀ (s : σ) (as : List α), (∀ e ∈ (runLog exec s as).2.head?, e.before = s) ∧
      (runLog exec s as).2.IsChain fun e e' => e.after = e'.before
  | _, [] => by simp
  | s, a :: as => by
      cases hexec : exec s a with
      | error err =>
          rw [runLog_cons_error exec as hexec]
          exact runLog_isChain s as
      | ok sr =>
          obtain ⟨s', r⟩ := sr
          rw [runLog_cons_ok exec as hexec]
          obtain ⟨hhead, hchain⟩ := runLog_isChain s' as
          refine ⟨by simp, ?_⟩
          -- the rest of the log starts where this transaction left the storage
          cases hlog : (runLog exec s' as).2 with
          | nil => exact List.IsChain.singleton _
          | cons e rest =>
              rw [hlog] at hhead hchain
              exact List.IsChain.cons_cons (hhead e rfl).symm hchain

/-- In a chain of committed transactions, a predicate false after the first and
true before the last was switched on by a transaction in between. -/
theorem exists_switch_of_isChain (P : σ → Prop) :
    ∀ {e₁ e₂ : Committed σ α ρ} {l : List (Committed σ α ρ)},
      (e₁ :: (l ++ [e₂])).IsChain (fun e e' => e.after = e'.before) →
      ¬P e₁.after → P e₂.before → ∃ e ∈ l, ¬P e.before ∧ P e.after
  | e₁, e₂, [], hchain, h₁, h₂ => by
      rw [List.nil_append, List.isChain_pair] at hchain
      exact absurd (hchain ▸ h₂) h₁
  | e₁, e₂, e :: l, hchain, h₁, h₂ => by
      rw [List.cons_append, List.isChain_cons_cons] at hchain
      obtain ⟨hlink, hrest⟩ := hchain
      have hbefore : ¬P e.before := hlink ▸ h₁
      by_cases hafter : P e.after
      · exact ⟨e, List.mem_cons_self, hbefore, hafter⟩
      · obtain ⟨e', he', hswitch⟩ := exists_switch_of_isChain P hrest hafter h₂
        exact ⟨e', List.mem_cons_of_mem _ he', hswitch⟩

/-- Between two committed transactions of a run, one that leaves a predicate
false and a later one that finds it true, some transaction switched it on. -/
theorem runLog_exists_switch (P : σ → Prop) {s : σ} {as : List α}
    {l₁ l₂ l₃ : List (Committed σ α ρ)} {e₁ e₂ : Committed σ α ρ}
    (hlog : (runLog exec s as).2 = l₁ ++ e₁ :: (l₂ ++ e₂ :: l₃))
    (h₁ : ¬P e₁.after) (h₂ : P e₂.before) : ∃ e ∈ l₂, ¬P e.before ∧ P e.after := by
  have hchain : (runLog exec s as).2.IsChain fun e e' => e.after = e'.before :=
    (runLog_isChain s as).2
  rw [hlog] at hchain
  have hmid : (e₁ :: (l₂ ++ [e₂]) ++ l₃).IsChain fun e e' => e.after = e'.before := by
    simpa using hchain.right_of_append
  exact exists_switch_of_isChain P hmid.left_of_append h₁ h₂

end Logs

/-! ## Handlers in the `Except` monad -/

section Handlers

variable {ε' : Type w} {β : Type v}

/-- `ensure!`: the condition, or the error. -/
def ensure (c : Bool) (e : ε) : Except ε Unit :=
  if c then .ok () else .error e

/-- `Option::ok_or`, and a `load` whose error is mapped: the value, or the error. -/
def okOr (o : Option α) (e : ε) : Except ε α :=
  match o with
  | some a => .ok a
  | none => .error e

@[simp]
theorem ensure_eq_ok {c : Bool} {e : ε} {u : Unit} : ensure c e = .ok u ↔ c = true := by
  cases c <;> simp [ensure]

@[simp]
theorem okOr_eq_ok {o : Option α} {e : ε} {a : α} : okOr o e = .ok a ↔ o = some a := by
  cases o <;> simp [okOr]

/-- A `do` block succeeds exactly when its first step does and the rest succeeds
on that step's value. -/
theorem bind_eq_ok {x : Except ε α} {f : α → Except ε β} {b : β} :
    x >>= f = .ok b ↔ ∃ a, x = .ok a ∧ f a = .ok b := by
  cases x with
  | error e => simp [bind, Except.bind]
  | ok a => simp [bind, Except.bind]

theorem map_eq_ok {x : Except ε α} {f : α → β} {b : β} :
    f <$> x = .ok b ↔ ∃ a, x = .ok a ∧ f a = b := by
  cases x with
  | error e => simp [Functor.map, Except.map]
  | ok a => simp [Functor.map, Except.map]

theorem map_eq_error {x : Except ε α} {f : α → β} {e : ε} : f <$> x = .error e ↔ x = .error e := by
  cases x <;> simp [Functor.map, Except.map]

theorem mapError_eq_ok {x : Except ε α} {g : ε → ε'} {a : α} :
    x.mapError g = .ok a ↔ x = .ok a := by
  cases x <;> simp [Except.mapError]

/-- The invariant rule of a loop that folds a fallible step over a list: a
property of the accumulator that every committed step keeps holds of the result. -/
theorem foldlM_inv {f : β → α → Except ε β} (P : β → Prop)
    (hstep : ∀ b a b', P b → f b a = .ok b' → P b') :
    ∀ {l : List α} {b b' : β}, P b → l.foldlM f b = .ok b' → P b'
  | [], b, b', hb, h => by
      simp only [List.foldlM_nil, pure, Except.pure, Except.ok.injEq] at h
      exact h ▸ hb
  | a :: l, b, b', hb, h => by
      rw [List.foldlM_cons, bind_eq_ok] at h
      obtain ⟨b₁, h₁, hrest⟩ := h
      exact foldlM_inv P hstep (hstep b a b₁ hb h₁) hrest

/-- A loop `try_map`ped over a list succeeds exactly when every element does,
the results in order. -/
theorem mapM_eq_ok {f : α → Except ε β} :
    ∀ {l : List α} {l' : List β}, l.mapM f = .ok l' ↔ List.Forall₂ (fun a b => f a = .ok b) l l'
  | [], l' => by
      cases l' <;> simp [pure, Except.pure]
  | a :: l, l' => by
      rw [List.mapM_cons, bind_eq_ok]
      constructor
      · rintro ⟨b, hb, hrest⟩
        rw [bind_eq_ok] at hrest
        obtain ⟨bs, hbs, hpure⟩ := hrest
        cases hpure
        exact List.Forall₂.cons hb (mapM_eq_ok.mp hbs)
      · intro h
        cases h with
        | cons hb hrest =>
            exact ⟨_, hb, bind_eq_ok.mpr ⟨_, mapM_eq_ok.mpr hrest, rfl⟩⟩

/-- Every result of a loop that succeeded is the result of one of its elements. -/
theorem exists_of_mapM_eq_ok {f : α → Except ε β} {l : List α} {l' : List β}
    (h : l.mapM f = .ok l') {b : β} (hb : b ∈ l') : ∃ a ∈ l, f a = .ok b := by
  have h₂ := mapM_eq_ok.mp h
  clear h
  induction h₂ with
  | nil => simp at hb
  | @cons a b' as bs hab _ ih =>
      rcases List.mem_cons.mp hb with rfl | hb
      · exact ⟨a, List.mem_cons_self, hab⟩
      · obtain ⟨a', ha', hfa'⟩ := ih hb
        exact ⟨a', List.mem_cons_of_mem _ ha', hfa'⟩

/-- The result at an index of a loop that succeeded is the result of the element
at that index. -/
theorem getElem?_of_mapM_eq_ok {f : α → Except ε β} {l : List α} {l' : List β}
    (h : l.mapM f = .ok l') {i : ℕ} {b : β} (hb : l'[i]? = some b) :
    ∃ a, l[i]? = some a ∧ f a = .ok b := by
  have h₂ := mapM_eq_ok.mp h
  clear h
  induction h₂ generalizing i with
  | nil => simp at hb
  | @cons a b' as bs hab _ ih =>
      cases i with
      | zero =>
          simp only [List.getElem?_cons_zero, Option.some.injEq] at hb ⊢
          subst hb
          exact ⟨a, rfl, hab⟩
      | succ i =>
          simp only [List.getElem?_cons_succ] at hb ⊢
          exact ih hb

/-- A loop whose step succeeds on every element succeeds. -/
theorem exists_mapM_eq_ok {f : α → Except ε β} :
    ∀ {l : List α}, (∀ a ∈ l, ∃ b, f a = .ok b) → ∃ l', l.mapM f = .ok l'
  | [], _ => ⟨[], rfl⟩
  | a :: l, h => by
      obtain ⟨b, hb⟩ := h a List.mem_cons_self
      obtain ⟨l', hl'⟩ := exists_mapM_eq_ok fun a' ha' => h a' (List.mem_cons_of_mem _ ha')
      exact ⟨b :: l', mapM_eq_ok.mpr (List.Forall₂.cons hb (mapM_eq_ok.mp hl'))⟩

/-- A loop of `ok_or`s over values that are all present returns them. -/
theorem mapM_okOr_eq_ok {f : α → Option β} {e : ε} :
    ∀ {l : List α}, (∀ a ∈ l, (f a).isSome) → l.mapM (fun a => okOr (f a) e) = .ok (l.filterMap f)
  | [], _ => rfl
  | a :: l, h => by
      obtain ⟨b, hb⟩ := Option.isSome_iff_exists.mp (h a List.mem_cons_self)
      rw [List.mapM_cons, mapM_okOr_eq_ok fun a' ha' => h a' (List.mem_cons_of_mem _ ha')]
      simp [okOr, hb, bind, Except.bind, pure, Except.pure]

/-- A loop fails when its step fails on one of the elements. -/
theorem mapM_eq_error_of_mem {f : α → Except ε β} {l : List α} {a : α} (ha : a ∈ l) {e : ε}
    (he : f a = .error e) : ∃ e', l.mapM f = .error e' := by
  cases h : l.mapM f with
  | error e' => exact ⟨e', rfl⟩
  | ok l' =>
      -- a successful loop succeeded on every element, `a` included
      exfalso
      have h₂ := mapM_eq_ok.mp h
      clear h
      induction h₂ with
      | nil => simp at ha
      | @cons a' b' as bs hab _ ih =>
          rcases List.mem_cons.mp ha with rfl | ha
          · rw [he] at hab
            cases hab
          · exact ih ha

end Handlers

end Amplifier
