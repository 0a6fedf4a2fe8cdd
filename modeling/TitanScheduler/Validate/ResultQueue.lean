import Mathlib.Logic.Relation

/-!
# The result queue (validate.go:74-90, 377-407)

`PushResultToQueue` appends a result to `resultQueue` and then sends a token on
`resultChannel`, whose buffer holds one; the consumer `initCallbackTask` waits
for a token, and `doCallback` drains the queue from its front, handing each
element to `handleValidateResult` before it removes it. Each list operation is
one atomic step; a pusher takes two, its `PushBack` and its send, which blocks
while the buffer is full, so pushers past their `PushBack` are counted in
`senders`. Results are named by the order of their pushes.

`handleValidateResult` can end in a runtime panic (the `Panic` outcome of the
engine's handler), and nothing in the consumer goroutine recovers it: the panic
ends the process, with whatever is still queued. A result reaches the handler at
most once, so on every run which results make it panic is a predicate `panics`
on push indices; the machine takes it as a parameter.
-/

namespace TitanScheduler.Validate

/-- The buffer of `resultChannel`: `make(chan bool, 1)` (validate.go:80). -/
def resultChannelCap : Nat := 1

/-- Where the consumer goroutine is. -/
inductive Consumer where
  /-- blocked in `select` on `resultChannel` -/
  | waiting
  /-- at `for v.resultQueue.Len() > 0` -/
  | checking
  /-- at `element := v.resultQueue.Front()` -/
  | fronting
  /-- `handleValidateResult` returned on element `e`, at `v.resultQueue.Remove(element)` -/
  | removing (e : Nat)
  /-- `handleValidateResult` panicked on element `e`, and the process has ended -/
  | crashed (e : Nat)
  deriving Repr, DecidableEq

namespace Consumer

/-- The element handed to `handleValidateResult` and not removed from the queue. -/
def held : Consumer → Option Nat
  | .removing e | .crashed e => some e
  | _ => none

/-- Whether a panic in `handleValidateResult` has ended the process. -/
def ended : Consumer → Bool
  | .crashed _ => true
  | _ => false

end Consumer

structure ResultQueue where
  queue : List Nat
  chan : Nat
  senders : Nat
  next : Nat
  /-- The results passed to `handleValidateResult`, in order. -/
  handled : List Nat
  consumer : Consumer
  deriving Repr, DecidableEq

/-- The steps of the pushers and of the consumer. -/
inductive QueueOp where
  | pushBack
  | send
  | receive
  | len
  | front
  | remove
  deriving Repr, DecidableEq

namespace ResultQueue

/-- The queue as `NewValidate` builds it, the consumer waiting. -/
def init : ResultQueue := ⟨[], 0, 0, 0, [], .waiting⟩

/-- The state after `op`, when `op` can happen; `panics e` says whether
`handleValidateResult` panics on the result `e`, after which no goroutine runs. -/
def step (panics : Nat → Bool) (q : ResultQueue) (op : QueueOp) : Option ResultQueue :=
  if q.consumer.ended then none else
  match op with
  | .pushBack =>
    some { q with queue := q.queue ++ [q.next], next := q.next + 1, senders := q.senders + 1 }
  | .send =>
    if 0 < q.senders ∧ q.chan < resultChannelCap then
      some { q with chan := q.chan + 1, senders := q.senders - 1 }
    else none
  | .receive =>
    if q.consumer = .waiting ∧ 0 < q.chan then
      some { q with chan := q.chan - 1, consumer := .checking }
    else none
  | .len =>
    if q.consumer = .checking then
      some { q with consumer := if 0 < q.queue.length then .fronting else .waiting }
    else none
  | .front =>
    if q.consumer = .fronting then
      match q.queue.head? with
      | none => some { q with consumer := .waiting }
      | some e =>
        some { q with handled := q.handled ++ [e],
                      consumer := if panics e then .crashed e else .removing e }
    else none
  | .remove =>
    match q.consumer with
    | .removing e => some { q with queue := q.queue.erase e, consumer := .checking }
    | _ => none

/-- One step of some goroutine. -/
def Next (panics : Nat → Bool) (q q' : ResultQueue) : Prop := ∃ op, q.step panics op = some q'

/-- The states some interleaving reaches from `init`. -/
def Reachable (panics : Nat → Bool) (q : ResultQueue) : Prop :=
  Relation.ReflTransGen (Next panics) init q

/-- The queue once the element handed to `handleValidateResult` is removed. -/
def rest (q : ResultQueue) : List Nat :=
  match q.consumer.held with
  | some _ => q.queue.tail
  | none => q.queue

theorem rest_eq_queue {q : ResultQueue} (h : q.consumer.held = none) : q.rest = q.queue := by
  simp only [rest, h]

theorem step_ended {panics : Nat → Bool} {q : ResultQueue} {op : QueueOp}
    (h : q.consumer.ended) : q.step panics op = none :=
  if_pos h

end ResultQueue

open ResultQueue

/-- What every interleaving keeps: the handled results and those still queued
are all pushed results, in push order; the element in the handler is the front;
and a waiting consumer with work queued has a token buffered or a pusher about
to send one. -/
structure QueueInv (q : ResultQueue) : Prop where
  handled_rest : q.handled ++ q.rest = List.range q.next
  held_front : ∀ e, q.consumer.held = some e → q.queue.head? = some e
  wakeup : q.consumer = .waiting → q.queue = [] ∨ 0 < q.chan ∨ 0 < q.senders

namespace QueueInv

variable {panics : Nat → Bool} {q q' : ResultQueue}

theorem init : QueueInv ResultQueue.init :=
  ⟨rfl, fun _ h => Option.noConfusion h, fun _ => .inl rfl⟩

/-- With no element in the handler, the handled results and the queue are the pushes. -/
theorem handled_queue (h : QueueInv q) (hc : q.consumer.held = none) :
    q.handled ++ q.queue = List.range q.next :=
  rest_eq_queue hc ▸ h.handled_rest

theorem queue_eq_cons (h : QueueInv q) {e : Nat} (hc : q.consumer.held = some e) :
    ∃ t, q.queue = e :: t := by
  have := h.held_front e hc
  cases hq : q.queue <;> simp_all

/-- A push appends to what is left once the element in the handler is removed. -/
theorem rest_pushBack (h : QueueInv q) :
    { q with queue := q.queue ++ [q.next], next := q.next + 1, senders := q.senders + 1 }.rest =
      q.rest ++ [q.next] := by
  cases hc : q.consumer.held with
  | some e =>
    obtain ⟨t, ht⟩ := h.queue_eq_cons hc
    simp [rest, hc, ht]
  | none => simp [rest, hc]

theorem step {op : QueueOp} (h : QueueInv q) (hs : q.step panics op = some q') : QueueInv q' := by
  by_cases hend : q.consumer.ended
  · simp [step_ended hend] at hs
  unfold ResultQueue.step at hs
  rw [if_neg hend] at hs
  cases op with
  | pushBack =>
    cases hs
    refine ⟨?_, fun e he => ?_, fun _ => .inr (.inr (Nat.succ_pos _))⟩
    · rw [h.rest_pushBack, ← List.append_assoc, h.handled_rest, List.range_succ]
    · simp [List.head?_append, h.held_front e he]
  | send =>
    dsimp only at hs
    split_ifs at hs
    cases hs
    exact ⟨h.handled_rest, h.held_front, fun _ => .inr (.inl (Nat.succ_pos _))⟩
  | receive =>
    dsimp only at hs
    split_ifs at hs with hc
    cases hs
    exact ⟨h.handled_queue (by simp [hc.1, Consumer.held]), fun _ he => Option.noConfusion he,
      fun he => Consumer.noConfusion he⟩
  | len =>
    dsimp only at hs
    split_ifs at hs with hc hl <;> cases hs
    · exact ⟨h.handled_queue (by simp [hc, Consumer.held]), fun _ he => Option.noConfusion he,
        fun he => Consumer.noConfusion he⟩
    · exact ⟨h.handled_queue (by simp [hc, Consumer.held]), fun _ he => Option.noConfusion he,
        fun _ => .inl (List.length_eq_zero.mp (Nat.eq_zero_of_not_pos hl))⟩
  | front =>
    dsimp only at hs
    split_ifs at hs with hc
    have hq := h.handled_queue (by simp [hc, Consumer.held])
    cases hqe : q.queue with
    | nil =>
      simp only [hqe, List.head?_nil, Option.some.injEq] at hs
      subst hs
      exact ⟨by rw [← hqe]; exact hq, fun _ he => Option.noConfusion he, fun _ => .inl rfl⟩
    | cons e t =>
      simp only [hqe, List.head?_cons, Option.some.injEq] at hs
      subst hs
      -- returning or panicking, the handler holds `e`, the front
      have hheld : (if panics e then Consumer.crashed e else .removing e).held = some e := by
        split <;> rfl
      refine ⟨?_, fun e' he => ?_, fun he => ?_⟩
      · simp only [rest, hheld, hqe, List.tail_cons, List.append_assoc, List.singleton_append]
        rw [← hqe]
        exact hq
      · cases hheld.symm.trans he
        simp [hqe]
      · exact Option.noConfusion (hheld.symm.trans (congrArg Consumer.held he))
  | remove =>
    dsimp only at hs
    split at hs
    · rename_i e hc
      cases hs
      obtain ⟨t, ht⟩ := h.queue_eq_cons (e := e) (by simp [hc, Consumer.held])
      have hr : q.rest = t := by simp [rest, hc, Consumer.held, ht]
      refine ⟨?_, fun _ he => Option.noConfusion he, fun he => Consumer.noConfusion he⟩
      show q.handled ++ q.queue.erase e = _
      rw [ht, List.erase_cons_head, ← hr, h.handled_rest]
    · cases hs

theorem of_reachable (h : q.Reachable panics) : QueueInv q := by
  induction h with
  | refl => exact init
  | tail _ hs ih => obtain ⟨op, hop⟩ := hs; exact ih.step hop

end QueueInv

/-- Over every interleaving of pushers with the consumer, whichever results make
`handleValidateResult` panic: the results handed to it are the first pushes,
each once and in push order; and a consumer blocked on `resultChannel` while the
queue is non-empty has a token buffered or a pusher still to send one. -/
theorem resultQueue_handled_in_order {panics : Nat → Bool} {q : ResultQueue}
    (h : q.Reachable panics) :
    q.handled <+: List.range q.next ∧
      (q.consumer = .waiting → q.queue ≠ [] → 0 < q.chan ∨ 0 < q.senders) := by
  have inv := QueueInv.of_reachable h
  exact ⟨⟨q.rest, inv.handled_rest⟩, fun hw hne => (inv.wakeup hw).resolve_left hne⟩

/-- Two pushes, the first token received, and the front handled. -/
theorem resultQueue_handled_first_push :
    ∃ q : ResultQueue, q.Reachable (fun _ => false) ∧ q.handled = [0] ∧ q.queue = [0, 1] ∧
      (q.handled <+: List.range q.next ∧
        (q.consumer = .waiting → q.queue ≠ [] → 0 < q.chan ∨ 0 < q.senders)) :=
  have h : Relation.ReflTransGen (Next fun _ => false) ResultQueue.init _ :=
    .tail (.tail (.tail (.tail (.tail (.single ⟨.pushBack, rfl⟩) ⟨.pushBack, rfl⟩)
      ⟨.send, rfl⟩) ⟨.receive, rfl⟩) ⟨.len, rfl⟩) ⟨.front, rfl⟩
  ⟨_, h, rfl, rfl, resultQueue_handled_in_order h⟩

/-! ### Progress -/

/-- What the consumer leaves once it has worked through `pending`, the results
queued behind `handled`: either `handleValidateResult` returned on all of them,
and the consumer is back in `select` with the queue empty; or it returned on
`pre` and panicked on `e`, and the process ended with `e` and `post` queued. -/
def Drained (panics : Nat → Bool) (handled pending : List Nat) (q : ResultQueue) : Prop :=
  ((∀ e ∈ pending, panics e = false) ∧ q.handled = handled ++ pending ∧ q.queue = [] ∧
      q.consumer = .waiting) ∨
    ∃ pre e post, pending = pre ++ e :: post ∧ (∀ x ∈ pre, panics x = false) ∧
      panics e = true ∧ q.handled = handled ++ pre ++ [e] ∧ q.queue = e :: post ∧
      q.consumer = .crashed e

namespace Drained

variable {panics : Nat → Bool} {handled t : List Nat} {e : Nat} {q : ResultQueue}

theorem nil (hh : q.handled = handled) (hq : q.queue = []) (hc : q.consumer = .waiting) :
    Drained panics handled [] q :=
  .inl ⟨fun _ h => absurd h (List.not_mem_nil _), by simp [hh], hq, hc⟩

theorem crash (hp : panics e = true) (hh : q.handled = handled ++ [e]) (hq : q.queue = e :: t)
    (hc : q.consumer = .crashed e) : Drained panics handled (e :: t) q :=
  .inr ⟨[], e, t, rfl, fun _ h => absurd h (List.not_mem_nil _), hp, by simp [hh], hq, hc⟩

/-- A result the handler returns on joins the handled ones. -/
theorem cons (hp : panics e = false) (hd : Drained panics (handled ++ [e]) t q) :
    Drained panics handled (e :: t) q := by
  rcases hd with ⟨hall, hh, hq, hc⟩ | ⟨pre, e', post, ht, hpre, hp', hh, hq, hc⟩
  · exact .inl ⟨List.forall_mem_cons.mpr ⟨hp, hall⟩, by simp [hh], hq, hc⟩
  · exact .inr ⟨e :: pre, e', post, by simp [ht], List.forall_mem_cons.mpr ⟨hp, hpre⟩, hp',
      by simp [hh], hq, hc⟩

end Drained

namespace ResultQueue

variable {panics : Nat → Bool}

/-- `Front` hands the result `e` at the front to `handleValidateResult`; when it
returns, `Remove` takes `e` off and the consumer is back at `Len`. -/
theorem handle_front {q : ResultQueue} {e : Nat} {t : List Nat} (hc : q.consumer = .fronting)
    (hl : q.queue = e :: t) (hp : panics e = false) :
    Relation.ReflTransGen (Next panics) q
      { q with handled := q.handled ++ [e], queue := t, consumer := .checking } := by
  have hfront : q.step panics .front =
      some { q with handled := q.handled ++ [e], consumer := .removing e } := by
    simp [step, hc, hl, hp, Consumer.ended]
  have hremove : ({ q with handled := q.handled ++ [e], consumer := .removing e } :
      ResultQueue).step panics .remove =
        some { q with handled := q.handled ++ [e], queue := t, consumer := .checking } := by
    simp [step, hl, Consumer.ended]
  exact .tail (.single ⟨_, hfront⟩) ⟨_, hremove⟩

/-- When `handleValidateResult` panics on the result at the front, the process ends. -/
theorem crash_front {q : ResultQueue} {e : Nat} {t : List Nat} (hc : q.consumer = .fronting)
    (hl : q.queue = e :: t) (hp : panics e = true) :
    Next panics q { q with handled := q.handled ++ [e], consumer := .crashed e } :=
  ⟨.front, by simp [step, hc, hl, hp, Consumer.ended]⟩

/-- One pass of the loop body from `Front`, given how the consumer goes on from
`Len` after a handler that returns. -/
theorem drain_front {q : ResultQueue} {e : Nat} {t : List Nat} (hc : q.consumer = .fronting)
    (hl : q.queue = e :: t)
    (hnext : panics e = false → ∃ q', Relation.ReflTransGen (Next panics)
      { q with handled := q.handled ++ [e], queue := t, consumer := .checking } q' ∧
      q'.next = q.next ∧ Drained panics (q.handled ++ [e]) t q') :
    ∃ q', Relation.ReflTransGen (Next panics) q q' ∧ q'.next = q.next ∧
      Drained panics q.handled (e :: t) q' := by
  cases hp : panics e
  · obtain ⟨q', hrun, hn, hd⟩ := hnext hp
    exact ⟨q', (handle_front hc hl hp).trans hrun, hn, hd.cons hp⟩
  · exact ⟨_, .single (crash_front hc hl hp), rfl, .crash hp rfl hl rfl⟩

/-- From `Len`, the consumer alone works through the queue. -/
theorem drain_checking {q : ResultQueue} (hc : q.consumer = .checking) :
    ∃ q', Relation.ReflTransGen (Next panics) q q' ∧ q'.next = q.next ∧
      Drained panics q.handled q.queue q' := by
  generalize hl : q.queue = l
  induction l generalizing q with
  | nil =>
    exact ⟨{ q with consumer := .waiting },
      .single ⟨.len, by simp [step, hc, hl, Consumer.ended]⟩, rfl, .nil rfl hl rfl⟩
  | cons e t ih =>
    have hlen : q.step panics .len = some { q with consumer := .fronting } := by
      simp [step, hc, hl, Consumer.ended]
    obtain ⟨q', hrun, hn, hd⟩ :=
      drain_front (q := { q with consumer := .fronting }) rfl hl (fun _ => ih rfl rfl)
    exact ⟨q', .head ⟨_, hlen⟩ hrun, hn, hd⟩

/-- A run to `Len` that handles nothing and leaves `q.rest` queued continues to a drain. -/
theorem drain_via {q q₁ : ResultQueue} (h₁ : Relation.ReflTransGen (Next panics) q q₁)
    (hc : q₁.consumer = .checking) (hn : q₁.next = q.next) (hh : q₁.handled = q.handled)
    (hq : q₁.queue = q.rest) :
    ∃ q', Relation.ReflTransGen (Next panics) q q' ∧ q'.next = q.next ∧
      Drained panics q.handled q.rest q' := by
  obtain ⟨q', h', hn', hd⟩ := @drain_checking panics q₁ hc
  exact ⟨q', h₁.trans h', hn'.trans hn, hh ▸ hq ▸ hd⟩

/-- Every live state of the invariant drains: the consumer, with at most one
send of a pusher past its `PushBack`, works through what is left to handle. -/
theorem drain {q : ResultQueue} (inv : QueueInv q) (hlive : ∀ e, q.consumer ≠ .crashed e) :
    ∃ q', Relation.ReflTransGen (Next panics) q q' ∧ q'.next = q.next ∧
      Drained panics q.handled q.rest q' := by
  cases hc : q.consumer with
  | waiting =>
    have hr := rest_eq_queue (q := q) (by simp [hc, Consumer.held])
    have hrecv : ∀ q₀ : ResultQueue, q₀.consumer = .waiting → 0 < q₀.chan →
        Next panics q₀ { q₀ with chan := q₀.chan - 1, consumer := .checking } :=
      fun q₀ hc₀ hch₀ => ⟨.receive, by simp [step, hc₀, hch₀, Consumer.ended]⟩
    rcases inv.wakeup hc with hnil | hwake
    · exact ⟨q, .refl, rfl, by rw [hr, hnil]; exact .nil rfl hnil hc⟩
    by_cases hch : 0 < q.chan
    · exact drain_via (.single (hrecv q hc hch)) rfl rfl rfl hr.symm
    · have hsend : Next panics q { q with chan := q.chan + 1, senders := q.senders - 1 } :=
        ⟨.send, by simp [step, hc, Consumer.ended, resultChannelCap]; omega⟩
      exact drain_via (.tail (.single hsend) (hrecv _ hc (Nat.succ_pos _))) rfl rfl rfl hr.symm
  | checking =>
    exact drain_via .refl hc rfl rfl (rest_eq_queue (by simp [hc, Consumer.held])).symm
  | fronting =>
    rw [rest_eq_queue (by simp [hc, Consumer.held])]
    cases hl : q.queue with
    | nil =>
      exact ⟨{ q with consumer := .waiting },
        .single ⟨.front, by simp [step, hc, hl, Consumer.ended]⟩, rfl, .nil rfl hl rfl⟩
    | cons e t => exact drain_front hc hl (fun _ => drain_checking rfl)
  | removing e =>
    obtain ⟨t, ht⟩ := inv.queue_eq_cons (e := e) (by simp [hc, Consumer.held])
    have hremove : q.step panics .remove = some { q with queue := t, consumer := .checking } := by
      simp [step, hc, ht, Consumer.ended]
    exact drain_via (.single ⟨_, hremove⟩) rfl rfl rfl (by simp [rest, hc, Consumer.held, ht])
  | crashed e => exact absurd hc (hlive e)

end ResultQueue

/-- Over every interleaving and whichever results make `handleValidateResult`
panic: from every reachable state where the process still runs, the consumer and
the sends of pushers already past their `PushBack`, with no further push, hand
the queued results to the handler in push order. Either it returns on all of
them, and the consumer waits in `select` with the queue empty; or it panics on
the first of them it panics on, and the process ends with that result and every
one behind it still queued, never to be handled. -/
theorem resultQueue_drains_until_panic {panics : Nat → Bool} {q : ResultQueue}
    (h : q.Reachable panics) (hlive : ∀ e, q.consumer ≠ .crashed e) :
    ∃ q', Relation.ReflTransGen (Next panics) q q' ∧ q'.next = q.next ∧
      Drained panics q.handled q.rest q' ∧
      ∀ e, q'.consumer = .crashed e → ∀ op, q'.step panics op = none := by
  obtain ⟨q', hrun, hn, hd⟩ := drain (QueueInv.of_reachable h) hlive
  exact ⟨q', hrun, hn, hd, fun e hc _ => step_ended (by simp [hc, Consumer.ended])⟩

/-- Two pushes whose tokens are not sent yet, and a handler that panics on the
first: the process ends with the second still queued. -/
theorem resultQueue_drains_until_panic_first_push :
    ∃ q : ResultQueue, q.Reachable (fun e => e == 0) ∧ q.queue = [0, 1] ∧
      (∀ e, q.consumer ≠ .crashed e) ∧
      ∃ q', Relation.ReflTransGen (Next fun e => e == 0) q q' ∧ q'.next = q.next ∧
        Drained (fun e => e == 0) q.handled q.rest q' ∧
        ∀ e, q'.consumer = .crashed e → ∀ op, q'.step (fun e => e == 0) op = none :=
  have h : Relation.ReflTransGen (Next fun e => e == 0) ResultQueue.init _ :=
    .tail (.single ⟨.pushBack, rfl⟩) ⟨.pushBack, rfl⟩
  ⟨_, h, rfl, fun _ he => Consumer.noConfusion he,
    resultQueue_drains_until_panic h (fun _ he => Consumer.noConfusion he)⟩

end TitanScheduler.Validate
