import Amplifier.WasmStd.Threshold

/-!
# Amplifier.Ampd.MsgQueue — batching messages for broadcast

`ampd`'s `MsgQueue` collects the messages its handlers enqueue and releases them
in batches whose estimated gas stays within a cap. `Queue::push_or` has three
branches: a message over the cap goes to the error handler; one that would take
the queued gas past the cap (or past `u64::MAX`) releases the queue and starts a
new one; one that brings it exactly to the cap is released with the queue.
`MsgQueue::poll_next` loops over what the input stream answers: a message is
pushed, the end of the stream and an elapsed deadline release the queue.

The model keeps a message's payload abstract (`α`) and its gas as a natural
number, with `u64::checked_add` bounded by `uint64Max`; the result callback is
the list of messages handed to the error handler. The timer itself is left out:
`poll_next` sees it only as whether the deadline has elapsed when the stream is
pending.

The run lemma `drive_spec` is one induction over the stream's answers from the
step lemma `step_spec`: the counter is the queued gas, within the cap, and what
has been released followed by what is queued is the input without the messages
over the cap. A call of `poll_next` is `drive` over the answers it consumes
(`pollNext_drive`), so each call keeps the invariant too (`pollNext_spec`).
-/

namespace Amplifier.Ampd

open WasmStd

variable {α : Type}

/-- `QueueMsg`: a message with its estimated gas. -/
structure QueueMsg (α : Type) where
  msg : α
  gas : ℕ

/-- A batch handed to the broadcaster: `nonempty::Vec<QueueMsg>`. -/
abbrev Batch (α : Type) := {msgs : List (QueueMsg α) // msgs ≠ []}

/-- `Queue`: the queued messages, the gas counted for them and the cap. -/
structure Queue (α : Type) where
  msgs : List (QueueMsg α)
  gasCost : ℕ
  gasCap : ℕ

namespace Queue

/-- `Queue::new`. -/
def new (gasCap : ℕ) : Queue α := ⟨[], 0, gasCap⟩

/-- `is_empty`. -/
def isEmpty (q : Queue α) : Bool := q.msgs.isEmpty

/-- `pop_all`: empty the queue, releasing what it held if it held anything. -/
def popAll (q : Queue α) : Queue α × Option (Batch α) :=
  ({ q with gasCost := 0, msgs := [] }, if h : q.msgs = [] then none else some ⟨q.msgs, h⟩)

/-- `push_or`: the queue after the push, the batch it releases and the message it
hands to the error handler. -/
def pushOr (q : Queue α) (msg : QueueMsg α) : Queue α × Option (Batch α) × Option (QueueMsg α) :=
  if msg.gas > q.gasCap then (q, none, some msg)
  else
    match (checkedAdd uint64Max q.gasCost msg.gas).filter fun gasCost => gasCost ≤ q.gasCap with
    | none =>
        -- over the cap, or past `u64::MAX`: release the queue, then push the message
        let popped := q.popAll
        ({ popped.1 with gasCost := msg.gas, msgs := popped.1.msgs ++ [msg] }, popped.2, none)
    | some gasCost =>
        if gasCost = q.gasCap then
          -- exactly at the cap: release the queue with the message
          let popped := q.popAll
          (popped.1, some ⟨((popped.2.map Subtype.val).getD []) ++ [msg], by simp⟩, none)
        else ({ q with gasCost := gasCost, msgs := q.msgs ++ [msg] }, none, none)

end Queue

/-- What the input stream answers when `poll_next` polls it: a message, its end,
or nothing yet, with whether the deadline has elapsed by then. -/
inductive StreamPoll (α : Type) where
  | ready (msg : QueueMsg α)
  | closed
  | pending (deadlineElapsed : Bool)

/-- What `poll_next` returns: `Poll::Ready(item)` or `Poll::Pending`. -/
inductive PollResult (α : Type) where
  | ready (item : Option (Batch α))
  | pending

/-- The message an answer brings. -/
def StreamPoll.input : StreamPoll α → List (QueueMsg α)
  | .ready msg => [msg]
  | _ => []

namespace MsgQueue

/-- One round of the loop of `poll_next` on one answer of the stream: the queue
after it, the message handed to the error handler, and what `poll_next` returns
if the round returns. -/
def step (q : Queue α) : StreamPoll α → Queue α × Option (QueueMsg α) × Option (PollResult α)
  | .ready msg =>
      -- resetting the deadline when the queue was empty only times the next flush
      let pushed := q.pushOr msg
      (pushed.1, pushed.2.2, pushed.2.1.map fun batch => .ready (some batch))
  | .closed =>
      let popped := q.popAll
      (popped.1, none, some (.ready popped.2))
  | .pending deadlineElapsed =>
      if q.isEmpty then (q, none, some .pending)
      else if deadlineElapsed then
        let popped := q.popAll
        (popped.1, none, some (.ready popped.2))
      else (q, none, some .pending)

/-- `poll_next`: rounds of the loop until one returns; the queue after them, the
messages handed to the error handler, the result, and the answers left. With no
answer left the model stops without a result. -/
def pollNext (q : Queue α) :
    List (StreamPoll α) → Queue α × List (QueueMsg α) × Option (PollResult α) × List (StreamPoll α)
  | [] => (q, [], none, [])
  | answer :: answers =>
      match step q answer with
      | (q', dropped, some result) => (q', dropped.toList, some result, answers)
      | (q', dropped, none) =>
          let polled := pollNext q' answers
          (polled.1, dropped.toList ++ polled.2.1, polled.2.2)

/-- The batch a round releases. -/
def released : Option (PollResult α) → List (Batch α)
  | some (.ready (some batch)) => [batch]
  | _ => []

/-- The stream of batches over a sequence of answers, however `poll_next` calls
group them: the queue after them, the batches released and the messages dropped. -/
def drive (q : Queue α) : List (StreamPoll α) → Queue α × List (Batch α) × List (QueueMsg α)
  | [] => (q, [], [])
  | answer :: answers =>
      let stepped := step q answer
      let driven := drive stepped.1 answers
      (driven.1, released stepped.2.2 ++ driven.2.1, stepped.2.1.toList ++ driven.2.2)

end MsgQueue

/-! ## The queue's invariant and what one round does -/

/-- The counter is the gas of the queued messages, and that is within the cap. -/
structure QueueInv (q : Queue α) : Prop where
  gasCost_eq : q.gasCost = (q.msgs.map QueueMsg.gas).sum
  gasCost_le : q.gasCost ≤ q.gasCap

theorem queueInv_new (gasCap : ℕ) : QueueInv (Queue.new gasCap : Queue α) :=
  ⟨rfl, Nat.zero_le _⟩

/-- The gas of a list of messages. -/
def totalGas (msgs : List (QueueMsg α)) : ℕ := (msgs.map QueueMsg.gas).sum

@[simp]
theorem totalGas_append (msgs msgs' : List (QueueMsg α)) :
    totalGas (msgs ++ msgs') = totalGas msgs + totalGas msgs' := by
  simp [totalGas]

@[simp]
theorem totalGas_singleton (msg : QueueMsg α) : totalGas [msg] = msg.gas := by
  simp [totalGas]

namespace Queue

@[simp]
theorem popAll_fst (q : Queue α) : q.popAll.1 = ⟨[], 0, q.gasCap⟩ := rfl

/-- What `pop_all` releases is what was queued. -/
theorem popAll_snd (q : Queue α) : (q.popAll.2.map Subtype.val).getD [] = q.msgs := by
  unfold popAll
  split_ifs with h
  · simp [h]
  · rfl

/-- The checked sum below the cap: some sum exactly when it is within both bounds. -/
theorem filter_checkedAdd (q : Queue α) (msg : QueueMsg α) :
    ((checkedAdd uint64Max q.gasCost msg.gas).filter fun gasCost => gasCost ≤ q.gasCap) =
      if q.gasCost + msg.gas ≤ uint64Max ∧ q.gasCost + msg.gas ≤ q.gasCap then
        some (q.gasCost + msg.gas)
      else none := by
  unfold checkedAdd
  by_cases hbound : q.gasCost + msg.gas ≤ uint64Max
  · by_cases hcap : q.gasCost + msg.gas ≤ q.gasCap
    · simp [hbound, hcap]
    · simp [hbound, hcap, Nat.lt_of_not_le hcap]
  · simp [hbound]

/-- The four branches of `push_or`. -/
theorem pushOr_cases (q : Queue α) (msg : QueueMsg α) :
    (q.gasCap < msg.gas ∧ q.pushOr msg = (q, none, some msg)) ∨
    (msg.gas ≤ q.gasCap ∧ ¬ (q.gasCost + msg.gas ≤ uint64Max ∧ q.gasCost + msg.gas ≤ q.gasCap) ∧
      q.pushOr msg = (⟨[msg], msg.gas, q.gasCap⟩, q.popAll.2, none)) ∨
    (q.gasCost + msg.gas = q.gasCap ∧
      ∃ batch : Batch α, batch.val = q.msgs ++ [msg] ∧
        q.pushOr msg = (⟨[], 0, q.gasCap⟩, some batch, none)) ∨
    (q.gasCost + msg.gas < q.gasCap ∧
      q.pushOr msg = (⟨q.msgs ++ [msg], q.gasCost + msg.gas, q.gasCap⟩, none, none)) := by
  by_cases hover : q.gasCap < msg.gas
  · exact .inl ⟨hover, if_pos hover⟩
  have hpush : q.pushOr msg = match (checkedAdd uint64Max q.gasCost msg.gas).filter
      (fun gasCost => gasCost ≤ q.gasCap) with
    | none => (⟨[msg], msg.gas, q.gasCap⟩, q.popAll.2, none)
    | some gasCost => if gasCost = q.gasCap then
        (⟨[], 0, q.gasCap⟩, some ⟨((q.popAll.2.map Subtype.val).getD []) ++ [msg], by simp⟩, none)
      else (⟨q.msgs ++ [msg], gasCost, q.gasCap⟩, none, none) := by
    simp only [pushOr, gt_iff_lt, if_neg hover, popAll_fst, List.nil_append]
  rw [filter_checkedAdd] at hpush
  split_ifs at hpush with hsum
  · -- the sum is within both bounds: at the cap, or below it
    dsimp only at hpush
    rcases Nat.lt_or_eq_of_le hsum.2 with hlt | heq
    · exact .inr (.inr (.inr ⟨hlt, by rw [hpush, if_neg (Nat.ne_of_lt hlt)]⟩))
    · refine .inr (.inr (.inl ⟨heq, ⟨(q.popAll.2.map Subtype.val).getD [] ++ [msg], by simp⟩,
        ?_, by rw [hpush, if_pos heq]⟩))
      rw [← popAll_snd q]
  · exact .inr (.inl ⟨Nat.le_of_not_lt hover, hsum, hpush⟩)

/-- A released queue is what was queued. -/
theorem popAll_snd_eq_some {q : Queue α} {batch : Batch α} (h : q.popAll.2 = some batch) :
    batch.val = q.msgs := by
  have hsnd := popAll_snd q
  rw [h] at hsnd
  exact hsnd

end Queue

namespace MsgQueue

@[simp]
theorem released_map (item : Option (Batch α)) :
    released (item.map fun batch => PollResult.ready (some batch)) =
      released (some (.ready item)) := by
  cases item <;> rfl

theorem mem_released_ready {item : Option (Batch α)} {batch : Batch α} :
    batch ∈ released (some (.ready item)) ↔ item = some batch := by
  cases item <;> simp [released, eq_comm]

theorem flatMap_released_ready (item : Option (Batch α)) :
    (released (some (.ready item))).flatMap Subtype.val = (item.map Subtype.val).getD [] := by
  cases item <;> simp [released]

/-- A round that releases the queue keeps the invariant, and releases it whole
within the cap. -/
theorem popAll_round {q : Queue α} (hinv : QueueInv q) :
    QueueInv q.popAll.1 ∧ q.popAll.1.gasCap = q.gasCap ∧
    (∀ batch ∈ released (some (.ready q.popAll.2)), totalGas batch.val ≤ q.gasCap) ∧
    (released (some (.ready q.popAll.2))).flatMap Subtype.val ++ q.popAll.1.msgs = q.msgs := by
  refine ⟨⟨rfl, Nat.zero_le _⟩, rfl, ?_, ?_⟩
  · intro batch hbatch
    rw [Queue.popAll_snd_eq_some (mem_released_ready.mp hbatch), totalGas, ← hinv.gasCost_eq]
    exact hinv.gasCost_le
  · rw [flatMap_released_ready, Queue.popAll_snd, Queue.popAll_fst, List.append_nil]

/-- One round keeps the invariant and the cap, releases batches within the cap and
passes the input on: what it releases followed by what stays queued is what was
queued followed by the message it brings, if that is within the cap; a message
over the cap is dropped instead. -/
theorem step_spec {q : Queue α} (hinv : QueueInv q) (answer : StreamPoll α) :
    QueueInv (step q answer).1 ∧ (step q answer).1.gasCap = q.gasCap ∧
    (∀ batch ∈ released (step q answer).2.2, totalGas batch.val ≤ q.gasCap) ∧
    (released (step q answer).2.2).flatMap Subtype.val ++ (step q answer).1.msgs =
      q.msgs ++ answer.input.filter (fun msg => msg.gas ≤ q.gasCap) ∧
    (step q answer).2.1.toList = answer.input.filter (fun msg => q.gasCap < msg.gas) := by
  have hpop := popAll_round hinv
  cases answer with
  | ready msg =>
      simp only [step, released_map, StreamPoll.input]
      rcases Queue.pushOr_cases q msg with ⟨hover, hpush⟩ | ⟨hle, hsum, hpush⟩ |
        ⟨heq, batch, hbatch, hpush⟩ | ⟨hlt, hpush⟩
      · -- over the cap: handed to the error handler, the queue untouched
        have hnot : ¬ msg.gas ≤ q.gasCap := Nat.not_le_of_lt hover
        simp [hpush, hover, hnot, released, hinv]
      · -- past the cap: the queue is released and the message starts a new one
        obtain ⟨-, -, hbound, hflat⟩ := hpop
        rw [Queue.popAll_fst, List.append_nil] at hflat
        have hnot : ¬ q.gasCap < msg.gas := Nat.not_lt_of_le hle
        refine ⟨⟨by simp [hpush], by simpa [hpush] using hle⟩, by simp [hpush], ?_, ?_, ?_⟩
        · simpa [hpush] using hbound
        · simp [hpush, hle, ← hflat]
        · simp [hpush, hnot]
      · -- exactly at the cap: released with the queue
        have hle : msg.gas ≤ q.gasCap := by omega
        have hnot : ¬ q.gasCap < msg.gas := by omega
        refine ⟨⟨by simp [hpush], by simp [hpush]⟩, by simp [hpush], ?_, ?_, ?_⟩
        · intro b hb
          simp only [hpush, mem_released_ready, Option.some.injEq] at hb
          rw [← hb, hbatch, totalGas_append, totalGas_singleton, totalGas, ← hinv.gasCost_eq]
          omega
        · simp [hpush, released, hbatch, hle]
        · simp [hpush, hnot]
      · -- below the cap: queued
        have hle : msg.gas ≤ q.gasCap := by omega
        have hnot : ¬ q.gasCap < msg.gas := by omega
        refine ⟨⟨?_, by simp [hpush]; omega⟩, by simp [hpush], by simp [hpush, released], ?_, ?_⟩
        · simp [hpush, hinv.gasCost_eq]
        · simp [hpush, released, hle]
        · simp [hpush, hnot]
  | closed =>
      simpa [step, StreamPoll.input] using hpop
  | pending deadlineElapsed =>
      by_cases hempty : q.isEmpty
      · -- nothing queued: nothing to release
        simp [step, hempty, released, StreamPoll.input, hinv]
      · cases deadlineElapsed
        · simp [step, hempty, released, StreamPoll.input, hinv]
        · simpa [step, hempty, StreamPoll.input] using hpop

/-- Over any answers, from a queue that keeps the invariant: the invariant and the
cap are kept, every batch is within the cap, what is released followed by what
stays queued is what was queued followed by the messages within the cap, and the
messages over the cap are dropped, in the order they came. -/
theorem drive_spec {q : Queue α} (hinv : QueueInv q) (answers : List (StreamPoll α)) :
    QueueInv (drive q answers).1 ∧ (drive q answers).1.gasCap = q.gasCap ∧
    (∀ batch ∈ (drive q answers).2.1, totalGas batch.val ≤ q.gasCap) ∧
    (drive q answers).2.1.flatMap Subtype.val ++ (drive q answers).1.msgs =
      q.msgs ++ (answers.flatMap StreamPoll.input).filter (fun msg => msg.gas ≤ q.gasCap) ∧
    (drive q answers).2.2 =
      (answers.flatMap StreamPoll.input).filter (fun msg => q.gasCap < msg.gas) := by
  induction answers generalizing q with
  | nil => simp [drive, hinv]
  | cons answer answers ih =>
      -- the first round, then the rest from the queue it leaves
      obtain ⟨hinv', hcap, hbatches, hflow, hdropped⟩ := step_spec hinv answer
      obtain ⟨hinv'', hcap', hbatches', hflow', hdropped'⟩ := ih hinv'
      rw [hcap] at hcap' hbatches' hflow' hdropped'
      refine ⟨hinv'', hcap', ?_, ?_, ?_⟩
      · intro batch hbatch
        simp only [drive, List.mem_append] at hbatch
        rcases hbatch with hbatch | hbatch
        · exact hbatches batch hbatch
        · exact hbatches' batch hbatch
      · calc (drive q (answer :: answers)).2.1.flatMap Subtype.val ++
              (drive q (answer :: answers)).1.msgs
            = (released (step q answer).2.2).flatMap Subtype.val ++
                ((drive (step q answer).1 answers).2.1.flatMap Subtype.val ++
                  (drive (step q answer).1 answers).1.msgs) := by
              simp [drive]
          _ = ((released (step q answer).2.2).flatMap Subtype.val ++ (step q answer).1.msgs) ++
                (answers.flatMap StreamPoll.input).filter (fun msg => msg.gas ≤ q.gasCap) := by
              rw [hflow', List.append_assoc]
          _ = q.msgs ++ ((answer :: answers).flatMap StreamPoll.input).filter
                (fun msg => msg.gas ≤ q.gasCap) := by
              rw [hflow, List.flatMap_cons, List.filter_append, List.append_assoc]
      · simp only [drive, hdropped, hdropped', List.flatMap_cons, List.filter_append]

/-- A call of `poll_next` runs rounds over a prefix of the answers, and returns
what `drive` releases and drops over that prefix: the batches of successive calls
are those of `drive` over the answers they consume. -/
theorem pollNext_drive (q : Queue α) (answers : List (StreamPoll α)) :
    ∃ consumed, answers = consumed ++ (pollNext q answers).2.2.2 ∧
      drive q consumed = ((pollNext q answers).1, released (pollNext q answers).2.2.1,
        (pollNext q answers).2.1) := by
  induction answers generalizing q with
  | nil => exact ⟨[], rfl, rfl⟩
  | cons answer answers ih =>
      -- the round on the first answer returns, or the call goes on with the rest
      rcases hstep : step q answer with ⟨q', dropped, _ | result⟩
      · obtain ⟨consumed, hsplit, hdrive⟩ := ih q'
        refine ⟨answer :: consumed, ?_, ?_⟩
        · simp only [pollNext, hstep, List.cons_append]
          rw [← hsplit]
        · simp [drive, pollNext, hstep, hdrive, released]
      · refine ⟨[answer], ?_, ?_⟩
        · simp [pollNext, hstep]
        · simp [drive, pollNext, hstep]

/-- One call of `poll_next`, from a queue that keeps the invariant: the queue it
leaves keeps it and the cap, and the batch it returns, if any, is within the cap. -/
theorem pollNext_spec {q : Queue α} (hinv : QueueInv q) (answers : List (StreamPoll α)) :
    QueueInv (pollNext q answers).1 ∧ (pollNext q answers).1.gasCap = q.gasCap ∧
    ∀ batch ∈ released (pollNext q answers).2.2.1, totalGas batch.val ≤ q.gasCap := by
  -- the call is `drive` over the answers it consumes
  obtain ⟨consumed, -, hdrive⟩ := pollNext_drive q answers
  obtain ⟨hinv', hcap, hbatches, -⟩ := drive_spec hinv consumed
  rw [hdrive] at hinv' hcap hbatches
  exact ⟨hinv', hcap, hbatches⟩

end MsgQueue

/-- The broadcaster's batches over any answers of the stream, from a new queue.
Successive `poll_next` calls release the batches of `drive` over the answers they
consume (`pollNext_drive`), so these are the batches the broadcaster receives: the
queued gas is counted exactly and stays within the cap at every point, every
batch is nonempty and within the cap, the messages over the cap are dropped in
order, and the others are released, or still queued, in order. -/
theorem broadcast_batching (gasCap : ℕ) (answers : List (StreamPoll α)) :
    (∀ n, (MsgQueue.drive (Queue.new gasCap) (answers.take n)).1.gasCost =
        totalGas (MsgQueue.drive (Queue.new gasCap) (answers.take n)).1.msgs ∧
      (MsgQueue.drive (Queue.new gasCap) (answers.take n)).1.gasCost ≤ gasCap) ∧
    (∀ batch ∈ (MsgQueue.drive (Queue.new gasCap) answers).2.1,
      batch.val ≠ [] ∧ totalGas batch.val ≤ gasCap ∧ ∀ msg ∈ batch.val, msg.gas ≤ gasCap) ∧
    (MsgQueue.drive (Queue.new gasCap) answers).2.2 =
      (answers.flatMap StreamPoll.input).filter (fun msg => gasCap < msg.gas) ∧
    (MsgQueue.drive (Queue.new gasCap) answers).2.1.flatMap Subtype.val ++
        (MsgQueue.drive (Queue.new gasCap) answers).1.msgs =
      (answers.flatMap StreamPoll.input).filter (fun msg => msg.gas ≤ gasCap) := by
  obtain ⟨-, -, hbatches, hflow, hdropped⟩ := MsgQueue.drive_spec (queueInv_new gasCap) answers
  refine ⟨fun n => ?_, fun batch hbatch => ?_, hdropped, hflow⟩
  · -- every point of the run is the end of the run over a prefix
    obtain ⟨hinv, hcap, -⟩ := MsgQueue.drive_spec (queueInv_new gasCap) (answers.take n)
    exact ⟨hinv.gasCost_eq, hinv.gasCost_le.trans_eq hcap⟩
  · -- a message weighs at most its batch
    have hle := hbatches batch hbatch
    refine ⟨batch.property, hle, fun msg hmsg => le_trans ?_ hle⟩
    exact List.le_sum_of_mem (List.mem_map_of_mem hmsg)

end Amplifier.Ampd
