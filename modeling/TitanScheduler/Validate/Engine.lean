import TitanScheduler.Validate.Mapping
import TitanScheduler.Validate.Assembly
import TitanScheduler.Validate.Scoring
import Mathlib.Logic.Relation

/-!
# The round engine (validate.go:92-215, 409-518)

The operations of the engine as one step function over `Engine`: a round
started by the crontab (`startValidate`) or by `StartValidateOnceTask`, the
switch `EnableValidate`, the goroutine that restarts the crontab after a manual
round, one dispatch goroutine of `execute` running
`assemblyValidateReqAndStore`, and the callback consumer handing one result to
`handleValidateResult`. Every store call takes its answer from the operation's
replies, so a run quantifies over every pattern of store failures.

Goroutines the code starts and never waits for are steps of their own
(`tasks`, `cronRestarts`), except the timeout writes of `checkValidateTimeOut`,
which read `v.preRoundId` and are run at once. A panic ends the process: such an
operation has no next state.
-/

namespace TitanScheduler.Validate

open ValidateState ValidateStatus

/-- What the stores, the clock and the node manager answer during one
`startValidate`. A store error is Go's `error`: `none` is `nil`. -/
structure RoundReplies where
  roundIdErr : Option String
  now : Int
  verifyingListErr : Option String
  timeOutOk : String → Bool
  removeVerifyingListErr : Option String
  validators : Except String (List String)
  edges : List OnlineNode
  candidates : List OnlineNode
  clock : Nat → Int

/-- What the stores answer to the calls of one `handleValidateResult`:
`GetBlocksFID`, the terminal write, and the deferred `RemoveNodeWithVerifyingList`
and `CountVerifyingNode`. -/
structure CallbackReplies where
  blocks : Except String (List (Int × String))
  updateErr : Option String
  removeErr : Option String
  countErr : Option String

namespace Engine

/-- validate.go:115-121: the round ids from the store, and the new seed. -/
def newRound (s : Engine) (now : Int) : Engine :=
  let (pre, cur, s) := s.getPreviousAndCurrentRoundId
  { s with preRoundId := pre, curRoundId := cur, seed := now }

def setState (s : Engine) (st : ValidateState) : Engine := { s with validateState := st }

theorem newRound_eq (s : Engine) (now : Int) :
    s.newRound now =
      { s with
        roundId := s.roundId + 1, preRoundId := s.roundId, curRoundId := s.roundId + 1
        seed := now } := rfl

/-- A state reset that may not happen is still a `setState`. -/
theorem ite_setState (c : Prop) [Decidable c] (s : Engine) (st : ValidateState) :
    ∃ st', (if c then s.setState st else s) = s.setState st' := by
  by_cases hc : c
  · exact ⟨st, if_pos hc⟩
  · exact ⟨s.validateState, if_neg hc⟩

end Engine

section Operations
variable {σ : Type} (rng : Rand σ) (cidToHash : String → Option String)

/-- `checkValidateTimeOut()` (validate.go:145-166). -/
def checkValidateTimeOut (r : RoundReplies) (s : Engine) : Option String × Engine :=
  match r.verifyingListErr with
  | some err => (some err, s)
  | none => (none, s.timeOut r.timeOutOk)

/-- `execute()` (validate.go:168-215); the goroutine started for each validator
of the plan is queued in `tasks`. -/
def execute (r : RoundReplies) (s : Engine) : Except Panic (Option String × Engine) :=
  let s := s.setState validationStarting
  match r.removeVerifyingListErr with
  | some err => .ok (some err, s)
  | none =>
    let s := s.removeVerifyingList
    match r.validators with
    | .error err => .ok (some err, s)
    | .ok validatorList =>
      if validatorList = [] then .ok (none, s)
      else do
        match ← validateMapping rng r.clock validatorList r.edges r.candidates with
        | .error err => return (some err, s)
        | .ok validatorMap => return (none, { s with tasks := s.tasks ++ validatorMap })

/-- `startValidate()` (validate.go:112-143). -/
def startValidate (r : RoundReplies) (s : Engine) : Except Panic (Option String × Engine) :=
  match r.roundIdErr with
  | some err => .ok (some err, s)
  | none =>
    match checkValidateTimeOut r (s.newRound r.now) with
    | (some err, s) => .ok (some err, s)
    | (none, s) =>
      if !s.enable then .ok (none, s.setState validationNotStarted)
      else do
        let (err, s) ← execute rng r s
        match err with
        | some err => return (some err, s.setState validationNotStarted)
        | none => return (none, s)

/-- `StartValidateOnceTask()` (validate.go:500-518): the goroutine that restarts
the crontab after one interval is counted in `cronRestarts`. -/
def startValidateOnceTask (r : RoundReplies) (s : Engine) :
    Except Panic (Option String × Engine) :=
  if s.validateState = validationStarting then
    .ok (some "validation in progress, cannot start again", s)
  else
    let s := { s with cronRestarts := s.cronRestarts + 1, enable := true, cronRunning := false }
    startValidate rng r s

/-- `EnableValidate(enable)` (validate.go:492-494). -/
def enableValidate (enable : Bool) (s : Engine) : Engine := { s with enable := enable }

/-- `handleValidateResult(validateResults)` (validate.go:409-476): the round
check, the body `validateVerdict` and its one terminal write, then the two
deferred calls, the last registered first. -/
def handleValidateResult (res : ValidateResults) (r : CallbackReplies) (s : Engine) :
    Except Panic (Option String × Engine) :=
  if res.roundID ≠ s.curRoundId then .ok (some "round id mismatch", s)
  else do
    let row ← validateVerdict rng cidToHash s.seed s.maxFidMap res r.blocks
    let s := if r.updateErr = none then s.updateValidateResultInfo row else s
    let s := if r.removeErr = none then s.removeNodeWithVerifyingList res.deviceID else s
    let s := if r.countErr = none ∧ s.verifying.length = 0 then s.setState validationNotStarted
      else s
    return (r.updateErr, s)

/-- The dispatch goroutine `i` of `execute` (validate.go:195-212): its store
writes; the `ValidateBlocks` call that follows changes nothing here. -/
def runTask (i : Nat) (replies : Nat → TargetReplies) (s : Engine) : Option Engine :=
  match s.tasks[i]? with
  | none => none
  | some (validatorID, list) =>
    some (assemblyValidateReqAndStore validatorID list replies
      { s with tasks := s.tasks.eraseIdx i }).1

end Operations

/-! ### What one operation can do -/

section Cases
variable {σ : Type} (rng : Rand σ) (cidToHash : String → Option String)

/-- What `startValidate` can do: nothing (the round ids cannot be read), open the
round without a preflight, open it and time out the verifying devices, or also
clear the set in `execute` and queue the dispatch tasks of a plan. -/
theorem startValidate_cases {r : RoundReplies} {s s' : Engine} {e : Option String}
    (h : startValidate rng r s = .ok (e, s')) :
    (r.roundIdErr ≠ none ∧ s' = s) ∨
    (r.roundIdErr = none ∧ r.verifyingListErr ≠ none ∧ s' = s.newRound r.now) ∨
    (r.roundIdErr = none ∧ r.verifyingListErr = none ∧
      (s.enable = false ∨ r.removeVerifyingListErr ≠ none) ∧
      ∃ st, s' = ((s.newRound r.now).timeOut r.timeOutOk).setState st) ∨
    (r.roundIdErr = none ∧ r.verifyingListErr = none ∧ s.enable = true ∧
      r.removeVerifyingListErr = none ∧ ∃ st plan,
      s' = { (((s.newRound r.now).timeOut r.timeOutOk).removeVerifyingList).setState st with
        tasks := s.tasks ++ plan } ∧
      (plan = [] ∨ ∃ V, r.validators = .ok V ∧ V ≠ [] ∧
        validateMapping rng r.clock V r.edges r.candidates = .ok (.ok plan))) := by
  unfold startValidate at h
  rcases hid : r.roundIdErr with _ | err
  swap
  · simp only [hid, Except.ok.injEq, Prod.mk.injEq] at h
    exact .inl ⟨Option.some_ne_none err, h.2.symm⟩
  simp only [hid, checkValidateTimeOut] at h
  rcases hv : r.verifyingListErr with _ | err
  swap
  · simp only [hv, Except.ok.injEq, Prod.mk.injEq] at h
    exact .inr (.inl ⟨rfl, Option.some_ne_none err, h.2.symm⟩)
  have hen : ((s.newRound r.now).timeOut r.timeOutOk).enable = s.enable := rfl
  simp only [hv, hen] at h
  cases hs : s.enable
  · simp only [hs, Bool.not_false, if_true, Except.ok.injEq, Prod.mk.injEq] at h
    exact .inr (.inr (.inl ⟨rfl, rfl, .inl rfl, _, h.2.symm⟩))
  simp only [hs, Bool.not_true, Bool.false_eq_true, if_false, execute] at h
  rcases hrm : r.removeVerifyingListErr with _ | err
  swap
  · simp only [hrm, ok_bind, pure_except, Except.ok.injEq, Prod.mk.injEq] at h
    exact .inr (.inr (.inl ⟨rfl, rfl, .inr (by simp), validationNotStarted, by rw [← h.2]; rfl⟩))
  refine .inr (.inr (.inr ⟨rfl, rfl, rfl, rfl, ?_⟩))
  simp only [hrm] at h
  rcases hval : r.validators with err | V
  · simp only [hval, ok_bind, pure_except, Except.ok.injEq, Prod.mk.injEq] at h
    exact ⟨validationNotStarted, [], by rw [← h.2, List.append_nil]; rfl, .inl rfl⟩
  simp only [hval] at h
  by_cases hV : V = []
  · simp only [hV, if_true, ok_bind, pure_except, Except.ok.injEq, Prod.mk.injEq] at h
    exact ⟨validationStarting, [], by rw [← h.2, List.append_nil]; rfl, .inl rfl⟩
  simp only [hV, if_false] at h
  rcases hm : validateMapping rng r.clock V r.edges r.candidates with p | (err | plan) <;>
    simp only [hm, error_bind, ok_bind, pure_except, Except.ok.injEq, Prod.mk.injEq,
      reduceCtorEq] at h
  · exact ⟨validationNotStarted, [], by rw [← h.2, List.append_nil]; rfl, .inl rfl⟩
  · exact ⟨validationStarting, plan, by rw [← h.2]; rfl, .inr ⟨V, rfl, hV, hm⟩⟩

/-- What `handleValidateResult` can do: reject a result of another round, or make
the one write `validateVerdict` decides, as far as it succeeds, and then run the
two deferred calls. -/
theorem handleValidateResult_cases {res : ValidateResults} {r : CallbackReplies} {s s' : Engine}
    {e : Option String} (h : handleValidateResult rng cidToHash res r s = .ok (e, s')) :
    (res.roundID ≠ s.curRoundId ∧ s' = s) ∨
    (res.roundID = s.curRoundId ∧ ∃ row,
      validateVerdict rng cidToHash s.seed s.maxFidMap res r.blocks = .ok row ∧
      let s₁ := if r.updateErr = none then s.updateValidateResultInfo row else s
      let s₂ := if r.removeErr = none then s₁.removeNodeWithVerifyingList res.deviceID else s₁
      ∃ st, s' = s₂.setState st) := by
  unfold handleValidateResult at h
  by_cases hr : res.roundID = s.curRoundId
  · refine .inr ⟨hr, ?_⟩
    simp only [hr, ne_eq, not_true_eq_false, if_false] at h
    rcases hv : validateVerdict rng cidToHash s.seed s.maxFidMap res r.blocks with p | row <;>
      simp only [hv, error_bind, ok_bind, pure_except, reduceCtorEq, Except.ok.injEq,
        Prod.mk.injEq] at h
    rw [← h.2]
    exact ⟨row, rfl, Engine.ite_setState _ _ _⟩
  · simp only [hr, ne_eq, not_false_eq_true, if_true, Except.ok.injEq, Prod.mk.injEq] at h
    exact .inl ⟨hr, h.2.symm⟩

theorem toOption_map_snd {ε α β : Type} {x : Except ε (α × β)} {b : β}
    (h : x.toOption.map Prod.snd = some b) : ∃ a, x = .ok (a, b) := by
  rcases x with _ | ⟨a, b'⟩ <;> simp [Except.toOption] at h
  exact ⟨a, by rw [h]⟩

end Cases

/-- What can happen next. -/
inductive Op where
  | timer (r : RoundReplies)
  | startValidateOnceTask (r : RoundReplies)
  | enableValidate (enable : Bool)
  | restartCrontab
  | dispatch (i : Nat) (replies : Nat → TargetReplies)
  | callback (res : ValidateResults) (r : CallbackReplies)

section Step
variable {σ : Type} (rng : Rand σ) (cidToHash : String → Option String)

/-- The state after `op`, when `op` can happen and does not panic. -/
def step (s : Engine) : Op → Option Engine
  | .timer r => if s.cronRunning then (startValidate rng r s).toOption.map Prod.snd else none
  | .startValidateOnceTask r => (startValidateOnceTask rng r s).toOption.map Prod.snd
  | .enableValidate enable => some (enableValidate enable s)
  | .restartCrontab =>
    if 0 < s.cronRestarts then
      some { s with cronRunning := true, cronRestarts := s.cronRestarts - 1 }
    else none
  | .dispatch i replies => runTask i replies s
  | .callback res r => (handleValidateResult rng cidToHash res r s).toOption.map Prod.snd

section Steps
variable {s s' : Engine}

theorem step_timer {r : RoundReplies} (h : step rng cidToHash s (.timer r) = some s') :
    s.cronRunning = true ∧ ∃ e, startValidate rng r s = .ok (e, s') := by
  simp only [step] at h
  split_ifs at h with hc
  exact ⟨hc, toOption_map_snd h⟩

theorem step_startValidateOnceTask {r : RoundReplies}
    (h : step rng cidToHash s (.startValidateOnceTask r) = some s') :
    (s.validateState = validationStarting ∧ s' = s) ∨
    (s.validateState ≠ validationStarting ∧ ∃ e, startValidate rng r
      { s with cronRestarts := s.cronRestarts + 1, enable := true, cronRunning := false } =
        .ok (e, s')) := by
  obtain ⟨e, he⟩ := toOption_map_snd h
  unfold startValidateOnceTask at he
  split_ifs at he with hs
  · simp only [Except.ok.injEq, Prod.mk.injEq] at he
    exact .inl ⟨hs, he.2.symm⟩
  · exact .inr ⟨hs, e, he⟩

theorem step_enableValidate {b : Bool}
    (h : step rng cidToHash s (.enableValidate b) = some s') : s' = enableValidate b s :=
  (Option.some.inj h).symm

theorem step_restartCrontab (h : step rng cidToHash s .restartCrontab = some s') :
    0 < s.cronRestarts ∧
      s' = { s with cronRunning := true, cronRestarts := s.cronRestarts - 1 } := by
  simp only [step] at h
  split_ifs at h with hc
  exact ⟨hc, (Option.some.inj h).symm⟩

theorem step_dispatch {i : Nat} {replies : Nat → TargetReplies}
    (h : step rng cidToHash s (.dispatch i replies) = some s') :
    ∃ validatorID list, s.tasks[i]? = some (validatorID, list) ∧
      s' = (assemblyValidateReqAndStore validatorID list replies
        { s with tasks := s.tasks.eraseIdx i }).1 := by
  simp only [step, runTask] at h
  split at h
  · cases h
  · rename_i validatorID list ht
    exact ⟨validatorID, list, ht, (Option.some.inj h).symm⟩

theorem step_callback {res : ValidateResults} {r : CallbackReplies}
    (h : step rng cidToHash s (.callback res r) = some s') :
    ∃ e, handleValidateResult rng cidToHash res r s = .ok (e, s') :=
  toOption_map_snd h

end Steps

/-- The state after running `ops` in order, when each can happen. -/
def runOps (s : Engine) : List Op → Option Engine
  | [] => some s
  | op :: ops => (step rng cidToHash s op).bind fun s' => runOps s' ops

/-- One step whose operation `P` allows. -/
def StepBy (P : Engine → Op → Prop) (s s' : Engine) : Prop :=
  ∃ op, P s op ∧ step rng cidToHash s op = some s'

/-- The states some run from a freshly built engine reaches. -/
def Reachable (s : Engine) : Prop :=
  ∃ enable, Relation.ReflTransGen (StepBy rng cidToHash fun _ _ => True) (newValidate enable) s

/-- An invariant of the steps `P` allows holds along every run of them. -/
theorem StepBy.invariant {P : Engine → Op → Prop} {Inv : Engine → Prop}
    (hstep : ∀ s op s', Inv s → P s op → step rng cidToHash s op = some s' → Inv s')
    {s₀ s : Engine} (h₀ : Inv s₀) (h : Relation.ReflTransGen (StepBy rng cidToHash P) s₀ s) :
    Inv s := by
  induction h with
  | refl => exact h₀
  | tail _ hs ih => obtain ⟨op, hp, he⟩ := hs; exact hstep _ op _ ih hp he

theorem reachable_of_runOps {enable : Bool} {ops : List Op} {s : Engine}
    (h : runOps rng cidToHash (newValidate enable) ops = some s) : Reachable rng cidToHash s := by
  refine ⟨enable, ?_⟩
  generalize newValidate enable = s₀ at h
  induction ops generalizing s₀ with
  | nil => cases h; exact .refl
  | cons op ops ih =>
    simp only [runOps, Option.bind_eq_some] at h
    obtain ⟨s₁, h₁, h₂⟩ := h
    exact .head ⟨op, trivial, h₁⟩ (ih s₁ h₂)

/-- A state with property `P` that a given run reaches. -/
theorem exists_reachable_of_runOps (enable : Bool) (ops : List Op) {P : Engine → Prop}
    (h : ∃ s, runOps rng cidToHash (newValidate enable) ops = some s ∧ P s) :
    ∃ s, Reachable rng cidToHash s ∧ P s := by
  obtain ⟨s, hrun, hp⟩ := h
  exact ⟨s, reachable_of_runOps rng cidToHash hrun, hp⟩

end Step

end TitanScheduler.Validate
