import TitanScheduler.Validate.Engine

/-!
# The verifying set across rounds (validate.go:112-215, 292-348, 492-518)

What the preflight of a round reads. `checkValidateTimeOut` fails every device
still in the verifying set for `preRoundId`, the round before; the set is
emptied only by `execute`, so a round that ends before `execute` clears it (the
switch is off, or a store call fails) hands its devices on to the round after.
`RoundInv` records what does hold on every run: a device in the set was
dispatched after the last clearing. Then the switch: which operations turn it
on, and what a timer round does while it is off.
-/

namespace TitanScheduler.Validate

open ValidateState

/-- A round in which every store call succeeds, on the given validators and
online nodes. -/
def RoundReplies.ok (now : Int) (validators : List String) (edges candidates : List OnlineNode) :
    RoundReplies where
  roundIdErr := none
  now := now
  verifyingListErr := none
  timeOutOk := fun _ => true
  removeVerifyingListErr := none
  validators := .ok validators
  edges := edges
  candidates := candidates
  clock := fun _ => now

/-- Target replies on which every store call succeeds: three cached cids, max fid 10. -/
def TargetReplies.ok : Nat → TargetReplies := fun _ => ⟨some 3, some 10, true, true⟩

/-! ### What each operation leaves unchanged -/

section Frames
variable {σ : Type} {rng : Rand σ} {cidToHash : String → Option String} {s s' : Engine}

/-- A round leaves the switch alone and, with the switch off, queues no dispatch. -/
theorem startValidate_switch {r : RoundReplies} {e : Option String}
    (h : startValidate rng r s = .ok (e, s')) :
    s'.enable = s.enable ∧ (s.enable = false → s'.tasks = s.tasks) := by
  rcases startValidate_cases rng h with
    ⟨-, rfl⟩ | ⟨-, -, rfl⟩ | ⟨-, -, -, st, rfl⟩ | ⟨-, -, hen, -, st, plan, rfl, -⟩
  · exact ⟨rfl, fun _ => rfl⟩
  · exact ⟨rfl, fun _ => rfl⟩
  · exact ⟨rfl, fun _ => rfl⟩
  · exact ⟨rfl, fun hoff => absurd (hen.symm.trans hoff) Bool.noConfusion⟩

theorem step_dispatch_frame {i : Nat} {replies : Nat → TargetReplies}
    (h : step rng cidToHash s (.dispatch i replies) = some s') :
    ∃ m v rs d, s' =
      { s with
        tasks := s.tasks.eraseIdx i, maxFidMap := m, verifying := v, results := rs
        dispatched := d } := by
  obtain ⟨validatorID, list, -, rfl⟩ := step_dispatch rng cidToHash h
  obtain ⟨m, v, rs, d, h⟩ := assemblyLoop_frame validatorID replies list 0
    { s with tasks := s.tasks.eraseIdx i } []
  exact ⟨m, v, rs, d, h⟩

theorem step_callback_frame {res : ValidateResults} {r : CallbackReplies}
    (h : step rng cidToHash s (.callback res r) = some s') :
    ∃ st us v, v.Sublist s.verifying ∧
      s' = { s with validateState := st, updates := us, verifying := v } := by
  obtain ⟨e, he⟩ := step_callback rng cidToHash h
  rcases handleValidateResult_cases rng cidToHash he with ⟨-, rfl⟩ | ⟨-, row, -, st, rfl⟩
  · exact ⟨_, _, _, .refl _, rfl⟩
  · simp only [Engine.setState, Engine.removeNodeWithVerifyingList,
      Engine.updateValidateResultInfo]
    split_ifs <;> exact ⟨_, _, _, by simp [List.erase_sublist], rfl⟩

end Frames

/-! ### The devices the preflight reads -/

/-- Every device in the verifying set was dispatched in a round between the
last clearing of the set and the current one; the store's round counter is the
current round. -/
structure RoundInv (s : Engine) : Prop where
  round_eq : s.roundId = s.curRoundId
  cleared_le : ∀ c, s.clearedIn = some c → c ≤ s.curRoundId
  verifying_dispatched : ∀ d ∈ s.verifying, ∃ r, (r, d) ∈ s.dispatched ∧ r ≤ s.curRoundId ∧
    ∀ c, s.clearedIn = some c → c ≤ r

namespace RoundInv

section
variable {σ : Type} {rng : Rand σ} {cidToHash : String → Option String} {s s' : Engine}

theorem init (enable : Bool) : RoundInv (newValidate enable) :=
  ⟨rfl, by simp [newValidate], by simp [newValidate]⟩

/-- `RoundInv` reads five fields of the engine only. -/
theorem of_fields (h : RoundInv s) (s' : Engine) (h₁ : s'.roundId = s.roundId)
    (h₂ : s'.curRoundId = s.curRoundId) (h₃ : s'.clearedIn = s.clearedIn)
    (h₄ : s'.verifying = s.verifying) (h₅ : s'.dispatched = s.dispatched) : RoundInv s' := by
  refine ⟨?_, ?_, ?_⟩ <;> simp only [h₁, h₂, h₃, h₄, h₅]
  exacts [h.round_eq, h.cleared_le, h.verifying_dispatched]

theorem newRound (h : RoundInv s) (now : Int) : RoundInv (s.newRound now) := by
  have hr := h.round_eq
  rw [Engine.newRound_eq]
  refine ⟨rfl, fun c hc => ?_, fun d hd => ?_⟩
  · have := h.cleared_le c hc
    show c ≤ s.roundId + 1
    omega
  · obtain ⟨r, hd, hle, hc⟩ := h.verifying_dispatched d hd
    exact ⟨r, hd, show r ≤ s.roundId + 1 by omega, hc⟩

theorem removeVerifyingList (h : RoundInv s) : RoundInv s.removeVerifyingList :=
  ⟨h.round_eq, fun c hc => by cases hc; exact le_rfl, fun d hd => absurd hd (List.not_mem_nil d)⟩

theorem startValidate {r : RoundReplies} {e : Option String} (h : RoundInv s)
    (hs : startValidate rng r s = .ok (e, s')) : RoundInv s' := by
  rcases startValidate_cases rng hs with
    ⟨-, rfl⟩ | ⟨-, -, rfl⟩ | ⟨-, -, -, st, rfl⟩ | ⟨-, -, -, -, st, plan, rfl, -⟩
  · exact h
  · exact h.newRound _
  · exact (h.newRound r.now).of_fields _ rfl rfl rfl rfl rfl
  · have h₁ := ((h.newRound r.now).of_fields ((s.newRound r.now).timeOut r.timeOutOk)
      rfl rfl rfl rfl rfl).removeVerifyingList
    exact h₁.of_fields _ rfl rfl rfl rfl rfl

/-- A dispatch task adds to the verifying set only devices it dispatches in the
current round. -/
theorem assembly (h : RoundInv s) (validatorID : String) (list : List TmpDeviceMeta)
    (replies : Nat → TargetReplies) :
    RoundInv (assemblyValidateReqAndStore validatorID list replies s).1 := by
  obtain ⟨new, tracked, -, -, ht, -, -, -, hver, -, hdis, -, -⟩ :=
    assemblyLoop_writes validatorID replies list 0 s []
  obtain ⟨m, v, rs, d, hfr⟩ := assemblyLoop_frame validatorID replies list 0 s []
  unfold assemblyValidateReqAndStore
  set out := (assemblyLoop validatorID replies 0 list s []).1
  have hcur : out.curRoundId = s.curRoundId := by rw [hfr]
  have hcl : out.clearedIn = s.clearedIn := by rw [hfr]
  refine ⟨by rw [hcur, hfr]; exact h.round_eq, by rw [hcur, hcl]; exact h.cleared_le,
    fun d hd => ?_⟩
  rw [hcur, hcl, hdis]
  rw [hver, mem_insertAll] at hd
  rcases hd with hd | hd
  · obtain ⟨r, hr, hle, hc⟩ := h.verifying_dispatched d hd
    exact ⟨r, List.mem_append_left _ hr, hle, hc⟩
  · obtain ⟨t, ht', rfl⟩ := List.mem_map.mp hd
    obtain ⟨p, hp, rfl⟩ := List.mem_map.mp (ht.subset ht')
    exact ⟨s.curRoundId, List.mem_append_right _ (List.mem_map_of_mem _ hp), le_rfl,
      h.cleared_le⟩

variable (rng cidToHash) in
theorem step {op : Op} (h : RoundInv s) (hs : step rng cidToHash s op = some s') :
    RoundInv s' := by
  cases op with
  | timer r =>
    obtain ⟨-, e, he⟩ := step_timer rng cidToHash hs
    exact h.startValidate he
  | startValidateOnceTask r =>
    rcases step_startValidateOnceTask rng cidToHash hs with ⟨-, rfl⟩ | ⟨-, e, he⟩
    · exact h
    · refine RoundInv.startValidate ?_ he
      exact h.of_fields _ rfl rfl rfl rfl rfl
  | enableValidate b =>
    rw [step_enableValidate rng cidToHash hs]
    exact h.of_fields _ rfl rfl rfl rfl rfl
  | restartCrontab =>
    rw [(step_restartCrontab rng cidToHash hs).2]
    exact h.of_fields _ rfl rfl rfl rfl rfl
  | dispatch i replies =>
    obtain ⟨validatorID, list, -, rfl⟩ := step_dispatch rng cidToHash hs
    refine RoundInv.assembly ?_ validatorID list replies
    exact h.of_fields _ rfl rfl rfl rfl rfl
  | callback res r =>
    obtain ⟨st, us, v, hv, rfl⟩ := step_callback_frame hs
    exact ⟨h.round_eq, h.cleared_le, fun d hd => h.verifying_dispatched d (hv.subset hd)⟩

theorem of_reachable (h : Reachable rng cidToHash s) : RoundInv s := by
  obtain ⟨enable, hrun⟩ := h
  exact StepBy.invariant rng cidToHash (fun _ _ _ hi _ hs => hi.step rng cidToHash hs)
    (init enable) hrun

end

end RoundInv

section Preflight
variable {σ : Type} (rng : Rand σ) (cidToHash : String → Option String)

/-- When the current round's `execute` was the last to clear the verifying set,
every device the next round's preflight reads was dispatched in the round that
preflight times it out for, its `preRoundId`. -/
theorem preflight_verifying_dispatched {s : Engine} (hs : Reachable rng cidToHash s)
    (hc : s.clearedIn = some s.curRoundId) (now : Int) :
    ∀ d ∈ (s.newRound now).verifying,
      ((s.newRound now).preRoundId, d) ∈ (s.newRound now).dispatched := by
  have h := RoundInv.of_reachable hs
  intro d hd
  obtain ⟨r, hr, hle, hcl⟩ := h.verifying_dispatched d hd
  have hround : r = s.roundId := by
    have := hcl _ hc
    have := h.round_eq
    omega
  rw [hround] at hr
  exact hr

end Preflight

/-- One round on validator `c1` and edge `e1`, whose dispatch task then runs. -/
def oneRound : List Op :=
  [.timer (.ok 0 ["c1"] [⟨"e1", "a1"⟩] []), .dispatch 0 TargetReplies.ok]

theorem preflight_verifying_dispatched_one_round :
    ∃ s, Reachable seedRand some s ∧ s.verifying = ["e1"] ∧ s.clearedIn = some s.curRoundId ∧
      ∀ d ∈ (s.newRound 0).verifying,
        ((s.newRound 0).preRoundId, d) ∈ (s.newRound 0).dispatched := by
  obtain ⟨s, hrun, hv, hc⟩ : ∃ s, runOps seedRand some (newValidate true) oneRound = some s ∧
      s.verifying = ["e1"] ∧ s.clearedIn = some s.curRoundId := ⟨_, rfl, rfl, rfl⟩
  have hs := reachable_of_runOps seedRand some hrun
  exact ⟨s, hs, hv, hc, preflight_verifying_dispatched seedRand some hs hc 0⟩

/-- A round whose `execute` cannot clear the set hands `e1`, dispatched in round
1, to the preflight of round 3, which times it out for round 2. -/
theorem preflight_stale_verifying :
    ∃ s, Reachable seedRand some s ∧ "e1" ∈ (s.newRound 0).verifying ∧
      ((s.newRound 0).preRoundId, "e1") ∉ (s.newRound 0).dispatched :=
  exists_reachable_of_runOps seedRand some true (oneRound ++
      [Op.timer { RoundReplies.ok 0 ["c1"] [⟨"e1", "a1"⟩] [] with
        removeVerifyingListErr := some "redis: connection refused" }])
    ⟨_, rfl, by decide, by decide⟩

/-! ### A round with nothing to verify -/

/-- A round whose validator list comes back empty ends `validationStarting` with
no dispatch pending and nothing verifying, and `StartValidateOnceTask` is then
refused. -/
theorem execute_empty_validators_stuck :
    ∃ s, Reachable seedRand some s ∧ s.tasks = [] ∧ s.validateState = validationStarting ∧
      s.verifying = [] ∧ ∀ r, startValidateOnceTask seedRand r s =
        .ok (some "validation in progress, cannot start again", s) :=
  exists_reachable_of_runOps seedRand some true [.timer (.ok 0 [] [] [])]
    ⟨_, rfl, rfl, rfl, rfl, fun _ => rfl⟩

/-! ### The switch -/

/-- The operations that can turn the switch on: `EnableValidate(true)`, and a
`StartValidateOnceTask` that is not refused (validate.go:509). -/
def SwitchesOn (s : Engine) : Op → Prop
  | .enableValidate enable => enable = true
  | .startValidateOnceTask _ => s.validateState ≠ validationStarting
  | _ => False

section Switch
variable {σ : Type} (rng : Rand σ) (cidToHash : String → Option String)

/-- With the switch off, an operation that does not turn it on leaves it off. -/
theorem step_switch_off {s s' : Engine} {op : Op} (hoff : s.enable = false)
    (hn : ¬ SwitchesOn s op) (hs : step rng cidToHash s op = some s') : s'.enable = false := by
  cases op with
  | timer r =>
    obtain ⟨-, e, he⟩ := step_timer rng cidToHash hs
    exact (startValidate_switch he).1.trans hoff
  | startValidateOnceTask r =>
    rcases step_startValidateOnceTask rng cidToHash hs with ⟨-, rfl⟩ | ⟨hst, -⟩
    exacts [hoff, absurd hst hn]
  | enableValidate b =>
    rw [step_enableValidate rng cidToHash hs]
    exact Bool.eq_false_iff.mpr hn
  | restartCrontab =>
    rw [(step_restartCrontab rng cidToHash hs).2]
    exact hoff
  | dispatch i replies =>
    obtain ⟨m, v, rs, d, rfl⟩ := step_dispatch_frame hs
    exact hoff
  | callback res r =>
    obtain ⟨st, us, v, -, rfl⟩ := step_callback_frame hs
    exact hoff

/-- After `EnableValidate(false)`, as long as no operation turns the switch on
again, the switch stays off and a timer round queues no dispatch. -/
theorem switched_off_timer_idle {s₀ s s' : Engine} {r : RoundReplies}
    (hrun : Relation.ReflTransGen (StepBy rng cidToHash fun s op => ¬ SwitchesOn s op)
      (enableValidate false s₀) s)
    (ht : step rng cidToHash s (.timer r) = some s') :
    s.enable = false ∧ s'.enable = false ∧ s'.tasks = s.tasks := by
  have hoff : s.enable = false :=
    @StepBy.invariant σ rng cidToHash _ (fun s => s.enable = false)
      (fun _ _ _ hi hn hs => step_switch_off rng cidToHash hi hn hs) _ _ rfl hrun
  obtain ⟨-, e, he⟩ := step_timer rng cidToHash ht
  have hsw := startValidate_switch he
  exact ⟨hoff, hsw.1.trans hoff, hsw.2 hoff⟩

end Switch

theorem switched_off_timer_idle_fresh :
    ∃ s', step seedRand some (enableValidate false (newValidate true))
      (.timer (.ok 0 ["c1"] [⟨"e1", "a1"⟩] [])) = some s' ∧ s'.enable = false ∧ s'.tasks = [] := by
  obtain ⟨s', ht⟩ : ∃ s', step seedRand some (enableValidate false (newValidate true))
      (.timer (.ok 0 ["c1"] [⟨"e1", "a1"⟩] [])) = some s' := ⟨_, rfl⟩
  obtain ⟨-, hoff, htasks⟩ := switched_off_timer_idle seedRand some .refl ht
  exact ⟨s', ht, hoff, htasks⟩

/-- A manual round leaves the switch on: after `EnableValidate(false)`, one
`StartValidateOnceTask` and the crontab's restart, the next timer round queues a
dispatch. -/
theorem once_task_leaves_switch_on :
    ∃ s s', runOps seedRand some (newValidate true)
        [.enableValidate false, .startValidateOnceTask (.ok 0 [] [] []), .restartCrontab] =
        some s ∧ s.enable = true ∧
      step seedRand some s (.timer (.ok 0 ["c1"] [⟨"e1", "a1"⟩] [])) = some s' ∧ s'.tasks ≠ [] :=
  ⟨_, _, rfl, rfl, rfl, by decide⟩

end TitanScheduler.Validate
