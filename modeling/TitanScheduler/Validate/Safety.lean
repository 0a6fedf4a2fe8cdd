import TitanScheduler.Validate.Rounds

/-!
# What every run keeps (validate.go:112-215, 292-348, 409-518)

An invariant of every run from a freshly built engine, whatever the stores, the
clock and the node manager answer, and in whatever order the dispatch
goroutines, the callbacks and the crontab's restarts interleave: every
dispatched device has its `maxFid`, and a stopped crontab has a restart pending.

From it: the handler never reaches its failing type assertion on a result for a
dispatched device, a round start never panics at all, and a crontab round can
always start.
-/

namespace TitanScheduler.Validate

open ValidateState ValidateStatus

/-- What every run keeps. -/
structure EngineInv (s : Engine) : Prop where
  dispatched_maxFid : ∀ p ∈ s.dispatched, (s.maxFidMap p.2).isSome
  cron_restart : s.cronRunning = true ∨ 0 < s.cronRestarts

namespace EngineInv

section
variable {σ : Type} {rng : Rand σ} {cidToHash : String → Option String} {s s' : Engine}

theorem init (enable : Bool) : EngineInv (newValidate enable) :=
  ⟨by simp [newValidate], .inl rfl⟩

/-- `EngineInv` reads four fields of the engine only. -/
theorem of_fields (h : EngineInv s) (s' : Engine) (h₁ : s'.dispatched = s.dispatched)
    (h₂ : s'.maxFidMap = s.maxFidMap) (h₃ : s'.cronRunning = s.cronRunning)
    (h₄ : s'.cronRestarts = s.cronRestarts) : EngineInv s' :=
  ⟨h₁ ▸ h₂ ▸ h.dispatched_maxFid, h₃ ▸ h₄ ▸ h.cron_restart⟩

/-- A round start dispatches nothing and leaves the crontab alone. -/
theorem startValidate {r : RoundReplies} {e : Option String} (h : EngineInv s)
    (hs : startValidate rng r s = .ok (e, s')) : EngineInv s' := by
  rcases startValidate_cases rng hs with
    ⟨-, rfl⟩ | ⟨-, -, rfl⟩ | ⟨-, -, -, st, rfl⟩ | ⟨-, -, -, -, st, plan, rfl, -⟩
  · exact h
  all_goals exact h.of_fields _ rfl rfl rfl rfl

/-- A dispatch task dispatches only targets whose `maxFid` it has stored. -/
theorem assembly (h : EngineInv s) (validatorID : String) (list : List TmpDeviceMeta)
    (replies : Nat → TargetReplies) :
    EngineInv (assemblyValidateReqAndStore validatorID list replies s).1 := by
  obtain ⟨new, tracked, inserted, -, -, -, -, -, -, -, hdis, hfid, hkeep⟩ :=
    assemblyLoop_writes validatorID replies list 0 s []
  obtain ⟨m, v, rs, d, hfr⟩ := assemblyLoop_frame validatorID replies list 0 s []
  refine ⟨fun p hp => ?_, by rw [assemblyValidateReqAndStore, hfr]; exact h.cron_restart⟩
  rw [assemblyValidateReqAndStore, hdis] at hp
  rcases List.mem_append.mp hp with hp | hp
  · exact hkeep _ (h.dispatched_maxFid p hp)
  · obtain ⟨q, hq, rfl⟩ := List.mem_map.mp hp
    exact hfid q hq

/-- The handler dispatches nothing and leaves the crontab alone. -/
theorem callback {res : ValidateResults} {r : CallbackReplies} {e : Option String}
    (h : EngineInv s) (he : handleValidateResult rng cidToHash res r s = .ok (e, s')) :
    EngineInv s' := by
  rcases handleValidateResult_cases rng cidToHash he with ⟨-, rfl⟩ | ⟨-, row, -, st, rfl⟩
  · exact h
  simp only [Engine.setState, Engine.removeNodeWithVerifyingList, Engine.updateValidateResultInfo]
  split_ifs <;> exact h.of_fields _ rfl rfl rfl rfl

variable (rng cidToHash) in
theorem step {op : Op} (h : EngineInv s) (hs : step rng cidToHash s op = some s') :
    EngineInv s' := by
  cases op with
  | timer r =>
    obtain ⟨-, e, he⟩ := step_timer rng cidToHash hs
    exact h.startValidate he
  | startValidateOnceTask r =>
    rcases step_startValidateOnceTask rng cidToHash hs with ⟨-, rfl⟩ | ⟨-, e, he⟩
    · exact h
    · refine EngineInv.startValidate ?_ he
      exact ⟨h.dispatched_maxFid, .inr (Nat.succ_pos _)⟩
  | enableValidate b =>
    rw [step_enableValidate rng cidToHash hs]
    exact h.of_fields _ rfl rfl rfl rfl
  | restartCrontab =>
    rw [(step_restartCrontab rng cidToHash hs).2]
    exact ⟨h.dispatched_maxFid, .inl rfl⟩
  | dispatch i replies =>
    obtain ⟨validatorID, list, -, rfl⟩ := step_dispatch rng cidToHash hs
    refine EngineInv.assembly ?_ validatorID list replies
    exact h.of_fields _ rfl rfl rfl rfl
  | callback res r =>
    obtain ⟨e, he⟩ := step_callback rng cidToHash hs
    exact h.callback he

theorem of_reachable (h : Reachable rng cidToHash s) : EngineInv s := by
  obtain ⟨enable, hrun⟩ := h
  exact StepBy.invariant rng cidToHash (fun _ _ _ hi _ hs => hi.step rng cidToHash hs)
    (init enable) hrun

end

end EngineInv

section Runs
variable {σ : Type} (rng : Rand σ) (cidToHash : String → Option String)

/-- On every run, a result for a device that some round dispatched is handled
without a runtime panic when its `RandomCount` does not exceed its cids, unless
`GetBlocksFID` returns an empty map with a nil error: the failing type assertion
on `maxFidMap` is out of reach for dispatched devices. -/
theorem dispatched_result_handled {s : Engine} (hs : Reachable rng cidToHash s) {round : Int}
    {res : ValidateResults} (hd : (round, res.deviceID) ∈ s.dispatched)
    (hcount : res.randomCount ≤ res.cids.length) (r : CallbackReplies) (hblocks : r.blocks ≠ .ok []) :
    ∃ e s', handleValidateResult rng cidToHash res r s = .ok (e, s') := by
  unfold handleValidateResult
  by_cases hr : res.roundID ≠ s.curRoundId
  · exact ⟨_, _, if_pos hr⟩
  rw [if_neg hr]
  obtain ⟨row, hrow⟩ := validateVerdict_ok rng cidToHash s.seed s.maxFidMap res r.blocks hcount
    hblocks ((EngineInv.of_reachable hs).dispatched_maxFid _ hd)
  rw [hrow]
  exact ⟨_, _, rfl⟩

end Runs

/-- After one round dispatches `e1`, its answer is handled without a panic. -/
theorem dispatched_result_handled_one_round :
    ∃ s, Reachable seedRand some s ∧ ∃ e s', handleValidateResult seedRand some
      ⟨1, "e1", ["cidA"], 1, false, false, 0, 0⟩ ⟨.ok [(5, "cidB")], none, none, none⟩ s =
        .ok (e, s') := by
  obtain ⟨s, hrun, hd⟩ : ∃ s, runOps seedRand some (newValidate true) oneRound = some s ∧
      ((1 : Int), "e1") ∈ s.dispatched := ⟨_, rfl, by decide⟩
  have hs := reachable_of_runOps seedRand some hrun
  exact ⟨s, hs, dispatched_result_handled seedRand some hs hd (by decide) _ (by simp)⟩

section NoPanic
variable {σ : Type} (rng : Rand σ) (cidToHash : String → Option String)

/-- `execute` never panics: the slice index into the validator list is guarded by
its non-empty check. -/
theorem execute_ok (r : RoundReplies) (s : Engine) : ∃ e s', execute rng r s = .ok (e, s') := by
  unfold execute
  split
  · exact ⟨_, _, rfl⟩
  split
  · exact ⟨_, _, rfl⟩
  rename_i V _
  by_cases hV : V = []
  · exact ⟨_, _, if_pos hV⟩
  rw [if_neg hV]
  obtain ⟨P, hm, -, -⟩ := validateMapping_perm rng r.clock r.edges r.candidates hV
  rw [hm, ok_bind]
  split_ifs <;> exact ⟨_, _, rfl⟩

theorem startValidate_ok (r : RoundReplies) (s : Engine) :
    ∃ e s', startValidate rng r s = .ok (e, s') := by
  unfold startValidate
  split
  · exact ⟨_, _, rfl⟩
  split
  · exact ⟨_, _, rfl⟩
  split_ifs
  · exact ⟨_, _, rfl⟩
  obtain ⟨e, s', he⟩ := execute_ok rng r _
  rw [he, ok_bind]
  cases e <;> exact ⟨_, _, rfl⟩

/-- The crontab's timer can fire exactly while the crontab runs. -/
theorem step_timer_isSome (r : RoundReplies) (s : Engine) :
    (step rng cidToHash s (.timer r)).isSome = s.cronRunning := by
  obtain ⟨e, s', he⟩ := startValidate_ok rng r s
  cases hc : s.cronRunning <;> simp [step, hc, he, Except.toOption]

/-- A round start never panics: whatever the stores, the clock and the node
manager answer, `startValidate` and `StartValidateOnceTask` return, so the
crontab's timer can fire exactly while the crontab runs. -/
theorem round_start_never_panics (r : RoundReplies) (s : Engine) :
    (∃ e s', startValidate rng r s = .ok (e, s')) ∧
    (∃ e s', startValidateOnceTask rng r s = .ok (e, s')) ∧
    (step rng cidToHash s (.timer r)).isSome = s.cronRunning := by
  refine ⟨startValidate_ok rng r s, ?_, step_timer_isSome rng cidToHash r s⟩
  unfold startValidateOnceTask
  split_ifs
  exacts [⟨_, _, rfl⟩, startValidate_ok rng r _]

/-- The engine never deadlocks: from every reachable state a crontab round can
start, at once or after the restart that a `StartValidateOnceTask` goroutine
still has pending, whatever the stores answer. -/
theorem round_can_start {s : Engine} (hs : Reachable rng cidToHash s) (r : RoundReplies) :
    ∃ s₁ s', (s₁ = s ∨ step rng cidToHash s .restartCrontab = some s₁) ∧
      step rng cidToHash s₁ (.timer r) = some s' := by
  have htimer : ∀ s₁ : Engine, s₁.cronRunning = true →
      ∃ s', step rng cidToHash s₁ (.timer r) = some s' := fun s₁ hc =>
    Option.isSome_iff_exists.mp ((step_timer_isSome rng cidToHash r s₁).trans hc)
  rcases (EngineInv.of_reachable hs).cron_restart with hc | hp
  · obtain ⟨s', h'⟩ := htimer s hc
    exact ⟨s, s', .inl rfl, h'⟩
  · obtain ⟨s', h'⟩ :=
      htimer { s with cronRunning := true, cronRestarts := s.cronRestarts - 1 } rfl
    exact ⟨_, s', .inr (by simp [step, hp]), h'⟩

end NoPanic

/-- After `StartValidateOnceTask` stops the crontab, its restart lets a round start. -/
theorem round_can_start_once_task :
    ∃ s, Reachable seedRand some s ∧ s.cronRunning = false ∧
      ∃ s₁ s', (s₁ = s ∨ step seedRand some s .restartCrontab = some s₁) ∧
        step seedRand some s₁ (.timer (.ok 0 [] [] [])) = some s' := by
  obtain ⟨s, hrun, hc⟩ : ∃ s, runOps seedRand some (newValidate true)
      [.startValidateOnceTask (.ok 0 [] [] [])] = some s ∧ s.cronRunning = false := ⟨_, rfl, rfl⟩
  have hs := reachable_of_runOps seedRand some hrun
  exact ⟨s, hs, hc, round_can_start seedRand some hs _⟩

end TitanScheduler.Validate
