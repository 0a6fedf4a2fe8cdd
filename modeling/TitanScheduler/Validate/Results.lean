import TitanScheduler.Validate.Rounds

/-!
# Terminal updates (validate.go:145-166, 292-348, 409-476)

Every `validate_result` row a dispatch inserts is to be closed by one terminal
update: the handler's, when the node answers, or the timeout of the next
round's preflight. A node may answer twice or for a device it was not asked
about, and any store call may fail, so this holds of orderly runs only
(`Orderly`); `ResultInv` is what such a run keeps. Then the runtime faults the
handler reaches on results that no check of it rules out.
-/

namespace TitanScheduler.Validate

open ValidateState ValidateStatus

/-- The replies of a round on which every store call succeeds, over node maps
with distinct device ids. -/
def RoundReplies.Succeed (r : RoundReplies) : Prop :=
  r.roundIdErr = none ∧ r.verifyingListErr = none ∧ (∀ d, r.timeOutOk d = true) ∧
    r.removeVerifyingListErr = none ∧ ((r.edges ++ r.candidates).map OnlineNode.deviceId).Nodup

/-- The operations of an orderly run: every store call succeeds, a round starts
with the switch on and once the dispatch tasks of the round before have run,
and a node answers for itself only, while it is verifying. -/
def Orderly (s : Engine) : Op → Prop
  | .timer r => r.Succeed ∧ s.enable = true ∧ s.tasks = []
  | .startValidateOnceTask r => r.Succeed ∧ s.tasks = []
  | .enableValidate _ => True
  | .restartCrontab => True
  | .dispatch _ replies => ∀ j, (replies j).Succeed
  | .callback res r => r.updateErr = none ∧ r.removeErr = none ∧
      (res.roundID = s.curRoundId → res.deviceID ∈ s.verifying)

/-- An orderly round runs `execute` to the end: the preflight times out, the set
is cleared, and a plan of distinct devices is queued. -/
theorem startValidate_succeed {σ : Type} {rng : Rand σ} {r : RoundReplies} {s s' : Engine}
    {e : Option String} (hr : r.Succeed) (hen : s.enable = true)
    (hs : startValidate rng r s = .ok (e, s')) :
    ∃ st plan,
      s' = { (((s.newRound r.now).timeOut r.timeOutOk).removeVerifyingList).setState st with
        tasks := s.tasks ++ plan } ∧
      ((assigned plan).map TmpDeviceMeta.deviceId).Nodup := by
  obtain ⟨hid, hv, -, hrm, hids⟩ := hr
  rcases startValidate_cases rng hs with ⟨hid', -⟩ | ⟨-, hv', -⟩ | ⟨-, -, hoff | hrm', -⟩ |
    ⟨-, -, -, -, st, plan, rfl, hplan⟩
  · exact absurd hid hid'
  · exact absurd hv hv'
  · exact absurd (hen.symm.trans hoff) Bool.noConfusion
  · exact absurd hrm hrm'
  refine ⟨st, plan, rfl, ?_⟩
  rcases hplan with rfl | ⟨V, -, hV, hm⟩
  · simp [assigned]
  · exact validateMapping_nodup rng r.clock hV hids hm

/-- The queued dispatch tasks, with task `i` taken out and put first. -/
theorem assigned_eraseIdx {tasks : Plan} {i : Nat} {e : String × List TmpDeviceMeta}
    (h : tasks[i]? = some e) : (assigned tasks).Perm (e.2 ++ assigned (tasks.eraseIdx i)) := by
  induction tasks generalizing i with
  | nil => simp at h
  | cons t ts ih =>
    cases i with
    | zero =>
      obtain rfl : t = e := by simpa using h
      simp [assigned]
    | succ i =>
      simp only [assigned, List.flatMap_cons, List.eraseIdx_cons_succ] at ih ⊢
      exact ((ih (by simpa using h)).append_left t.2).trans (List.perm_append_comm_assoc _ _ _)

/-- What an orderly run keeps. A terminal update is for a dispatched pair, one
per pair; a dispatched pair is closed, or open with its device verifying in the
current round; a row is for a dispatched pair; the queued dispatch tasks hold
distinct devices not yet dispatched in the current round. -/
structure ResultInv (s : Engine) : Prop where
  round_eq : s.roundId = s.curRoundId
  updates_nodup : (s.updates.map ValidateResult.key).Nodup
  updates_dispatched : ∀ u ∈ s.updates, u.key ∈ s.dispatched
  dispatched_le : ∀ p ∈ s.dispatched, p.1 ≤ s.curRoundId
  dispatched_closed : ∀ p ∈ s.dispatched,
    p ∈ s.updates.map ValidateResult.key ∨ (p.1 = s.curRoundId ∧ p.2 ∈ s.verifying)
  verifying_nodup : s.verifying.Nodup
  verifying_open : ∀ d ∈ s.verifying,
    (s.curRoundId, d) ∈ s.dispatched ∧ (s.curRoundId, d) ∉ s.updates.map ValidateResult.key
  results_dispatched : ∀ row ∈ s.results, row.key ∈ s.dispatched
  tasks_nodup : ((assigned s.tasks).map TmpDeviceMeta.deviceId).Nodup
  tasks_fresh : ∀ t ∈ assigned s.tasks, (s.curRoundId, t.deviceId) ∉ s.dispatched

namespace ResultInv

section
variable {σ : Type} {rng : Rand σ} {cidToHash : String → Option String} {s s' : Engine}

theorem init (enable : Bool) : ResultInv (newValidate enable) := by
  constructor <;> simp [newValidate, assigned]

/-- `ResultInv` reads seven fields of the engine only. -/
theorem of_fields (h : ResultInv s) (s' : Engine) (h₁ : s'.roundId = s.roundId)
    (h₂ : s'.curRoundId = s.curRoundId) (h₃ : s'.updates = s.updates)
    (h₄ : s'.dispatched = s.dispatched) (h₅ : s'.verifying = s.verifying)
    (h₆ : s'.results = s.results) (h₇ : s'.tasks = s.tasks) : ResultInv s' := by
  obtain ⟨a, b, c, d, e, f, g, i, j, k⟩ := h
  constructor <;> simp only [h₁, h₂, h₃, h₄, h₅, h₆, h₇] <;> assumption

/-- An orderly round opens: the preflight closes every open pair of the round
before with its timeout, `execute` clears the verifying set and queues a plan of
distinct devices. -/
theorem openRound (h : ResultInv s) (now : Int) (ok : String → Bool) (hok : ∀ d, ok d = true)
    (st : ValidateState) (plan : Plan) (ht : s.tasks = [])
    (hplan : ((assigned plan).map TmpDeviceMeta.deviceId).Nodup) :
    ResultInv { (((s.newRound now).timeOut ok).removeVerifyingList).setState st with
      tasks := s.tasks ++ plan } := by
  have hf : s.verifying.filter ok = s.verifying := List.filter_eq_self.mpr fun d _ => hok d
  have hr := h.round_eq
  have hkeys : (s.updates ++ s.verifying.map fun d =>
      failResult s.roundId d errMsgTimeOut validateStatusTimeOut).map ValidateResult.key =
      s.updates.map ValidateResult.key ++ s.verifying.map fun d => (s.curRoundId, d) := by
    rw [List.map_append, List.map_map, hr]
    rfl
  refine
    { round_eq := ?_, updates_nodup := ?updates_nodup
      updates_dispatched := ?updates_dispatched, dispatched_le := ?dispatched_le
      dispatched_closed := ?dispatched_closed, verifying_nodup := ?_
      verifying_open := ?verifying_open, results_dispatched := h.results_dispatched
      tasks_nodup := ?tasks_nodup, tasks_fresh := ?tasks_fresh } <;>
    simp only [Engine.newRound_eq, Engine.timeOut, Engine.removeVerifyingList, Engine.setState,
      hf, hkeys, ht, List.nil_append, List.nodup_nil]
  case updates_nodup =>
    refine List.nodup_append.mpr
      ⟨h.updates_nodup, h.verifying_nodup.map fun a b hab => congrArg Prod.snd hab, ?_⟩
    intro p hp hp'
    obtain ⟨d, hd, rfl⟩ := List.mem_map.mp hp'
    exact (h.verifying_open d hd).2 hp
  case updates_dispatched =>
    intro u hu
    rcases List.mem_append.mp hu with hu | hu
    · exact h.updates_dispatched u hu
    · obtain ⟨d, hd, rfl⟩ := List.mem_map.mp hu
      rw [failResult_key, hr]
      exact (h.verifying_open d hd).1
  case dispatched_le =>
    intro p hp
    have := h.dispatched_le p hp
    omega
  case dispatched_closed =>
    intro p hp
    refine .inl (List.mem_append.mpr ?_)
    rcases h.dispatched_closed p hp with hk | ⟨h₁, h₂⟩
    · exact .inl hk
    · exact .inr (List.mem_map.mpr ⟨p.2, h₂, by rw [← h₁]⟩)
  case verifying_open => exact fun d hd => absurd hd (List.not_mem_nil d)
  case tasks_nodup => exact hplan
  case tasks_fresh =>
    intro t _ hd
    have := h.dispatched_le _ hd
    dsimp only at this
    omega

/-- An orderly round: its replies succeed, the switch is on, no task is queued. -/
theorem startValidate {r : RoundReplies} {e : Option String} (h : ResultInv s) (hr : r.Succeed)
    (hen : s.enable = true) (ht : s.tasks = []) (hs : startValidate rng r s = .ok (e, s')) :
    ResultInv s' := by
  obtain ⟨st, plan, rfl, hplan⟩ := startValidate_succeed hr hen hs
  exact h.openRound r.now r.timeOutOk hr.2.2.1 st plan ht hplan

/-- A dispatch task on which every store call succeeds: each target it
challenges is verifying, has its row, and has an open pair in the current
round. -/
theorem dispatch {i : Nat} {validatorID : String} {list : List TmpDeviceMeta}
    {replies : Nat → TargetReplies} (h : ResultInv s) (hrep : ∀ j, (replies j).Succeed)
    (hi : s.tasks[i]? = some (validatorID, list)) :
    ResultInv (assemblyValidateReqAndStore validatorID list replies
      { s with tasks := s.tasks.eraseIdx i }).1 := by
  obtain ⟨new, tracked, inserted, hnew, -, -, hsucc, -, hver, hres, hdis, -, -⟩ :=
    assemblyLoop_writes validatorID replies list 0 { s with tasks := s.tasks.eraseIdx i } []
  obtain ⟨rfl, rfl⟩ := hsucc hrep
  obtain ⟨m, v, rs, d, hfr⟩ :=
    assemblyLoop_frame validatorID replies list 0 { s with tasks := s.tasks.eraseIdx i } []
  have hperm := assigned_eraseIdx hi
  have hnd := (hperm.map TmpDeviceMeta.deviceId).nodup_iff.mp h.tasks_nodup
  rw [List.map_append, List.nodup_append] at hnd
  obtain ⟨-, hrest, hdisj⟩ := hnd
  have hlist : ∀ q ∈ new, q.1 ∈ list := fun q hq => hnew.subset (List.mem_map_of_mem _ hq)
  have hfresh : ∀ x ∈ list, (s.curRoundId, x.deviceId) ∉ s.dispatched := fun x hx =>
    h.tasks_fresh x (hperm.symm.subset (List.mem_append_left _ hx))
  unfold assemblyValidateReqAndStore
  rw [hfr] at hver hres hdis ⊢
  dsimp only at hver hres hdis
  subst hver hres hdis
  refine
    { round_eq := h.round_eq, updates_nodup := h.updates_nodup
      updates_dispatched := fun u hu => List.mem_append_left _ (h.updates_dispatched u hu)
      dispatched_le := ?dispatched_le, dispatched_closed := ?dispatched_closed
      verifying_nodup := insertAll_nodup h.verifying_nodup _
      verifying_open := ?verifying_open, results_dispatched := ?results_dispatched
      tasks_nodup := hrest, tasks_fresh := ?tasks_fresh }
  case dispatched_le =>
    intro p hp
    rcases List.mem_append.mp hp with hp | hp
    · exact h.dispatched_le p hp
    · obtain ⟨q, -, rfl⟩ := List.mem_map.mp hp
      exact le_rfl
  case dispatched_closed =>
    intro p hp
    rcases List.mem_append.mp hp with hp | hp
    · rcases h.dispatched_closed p hp with hk | ⟨h₁, h₂⟩
      exacts [.inl hk, .inr ⟨h₁, mem_insertAll.mpr (.inl h₂)⟩]
    · obtain ⟨q, hq, rfl⟩ := List.mem_map.mp hp
      exact .inr ⟨rfl, mem_insertAll.mpr
        (.inr (List.mem_map_of_mem _ (List.mem_map_of_mem _ hq)))⟩
  case verifying_open =>
    intro d hd
    rcases mem_insertAll.mp hd with hd | hd
    · exact ⟨List.mem_append_left _ (h.verifying_open d hd).1, (h.verifying_open d hd).2⟩
    · obtain ⟨x, hx, rfl⟩ := List.mem_map.mp hd
      obtain ⟨q, hq, rfl⟩ := List.mem_map.mp hx
      refine ⟨List.mem_append_right _ (List.mem_map_of_mem _ hq), fun hk => ?_⟩
      obtain ⟨u, hu, hku⟩ := List.mem_map.mp hk
      exact hfresh q.1 (hlist q hq) (hku ▸ h.updates_dispatched u hu)
  case results_dispatched =>
    intro row hr
    rcases List.mem_append.mp hr with hr | hr
    · exact List.mem_append_left _ (h.results_dispatched row hr)
    · obtain ⟨x, hx, rfl⟩ := List.mem_map.mp hr
      obtain ⟨q, hq, rfl⟩ := List.mem_map.mp hx
      rw [createdResult_key]
      exact List.mem_append_right _ (List.mem_map_of_mem _ hq)
  case tasks_fresh =>
    intro t ht hd
    rcases List.mem_append.mp hd with hd | hd
    · exact h.tasks_fresh t (hperm.symm.subset (List.mem_append_right _ ht)) hd
    · obtain ⟨q, hq, hqt⟩ := List.mem_map.mp hd
      exact hdisj (List.mem_map.mpr ⟨q.1, hlist q hq, congrArg Prod.snd hqt⟩)
        (List.mem_map_of_mem _ ht)

/-- An answer on which both store calls succeed, from a device verifying in the
current round, closes that device's pair. -/
theorem callback {res : ValidateResults} {r : CallbackReplies} {e : Option String}
    (h : ResultInv s) (hu : r.updateErr = none) (hrm : r.removeErr = none)
    (hmine : res.roundID = s.curRoundId → res.deviceID ∈ s.verifying)
    (hs : handleValidateResult rng cidToHash res r s = .ok (e, s')) : ResultInv s' := by
  rcases handleValidateResult_cases rng cidToHash hs with ⟨-, rfl⟩ | ⟨hround, row, hrow, st, rfl⟩
  · exact h
  have hkey : row.key = (s.curRoundId, res.deviceID) := by
    rw [validateVerdict_key rng cidToHash _ _ _ _ _ hrow, hround]
  obtain ⟨hdd, hdk⟩ := h.verifying_open _ (hmine hround)
  simp only [hu, hrm, if_true, Engine.setState, Engine.removeNodeWithVerifyingList,
    Engine.updateValidateResultInfo]
  refine
    { round_eq := h.round_eq, updates_nodup := ?updates_nodup
      updates_dispatched := ?updates_dispatched, dispatched_le := h.dispatched_le
      dispatched_closed := ?dispatched_closed, verifying_nodup := h.verifying_nodup.erase _
      verifying_open := ?verifying_open, results_dispatched := h.results_dispatched
      tasks_nodup := h.tasks_nodup, tasks_fresh := h.tasks_fresh } <;>
    simp only [List.map_append, List.map_cons, List.map_nil, hkey]
  case updates_nodup =>
    refine List.nodup_append.mpr ⟨h.updates_nodup, List.nodup_singleton _, fun p hp hp' => ?_⟩
    rw [List.mem_singleton] at hp'
    exact hdk (hp' ▸ hp)
  case updates_dispatched =>
    intro u hu
    rcases List.mem_append.mp hu with hu | hu
    · exact h.updates_dispatched u hu
    · rw [List.mem_singleton] at hu
      rw [hu, hkey]
      exact hdd
  case dispatched_closed =>
    intro p hp
    rcases h.dispatched_closed p hp with hk | ⟨h₁, h₂⟩
    · exact .inl (List.mem_append_left _ hk)
    by_cases hpd : p.2 = res.deviceID
    · exact .inl (List.mem_append_right _ (List.mem_singleton.mpr (Prod.ext h₁ hpd)))
    · exact .inr ⟨h₁, (List.mem_erase_of_ne hpd).mpr h₂⟩
  case verifying_open =>
    intro d hd
    obtain ⟨hne, hd⟩ := h.verifying_nodup.mem_erase_iff.mp hd
    refine ⟨(h.verifying_open d hd).1, fun hk => ?_⟩
    rcases List.mem_append.mp hk with hk | hk
    · exact (h.verifying_open d hd).2 hk
    · exact hne (congrArg Prod.snd (List.mem_singleton.mp hk))

variable (rng cidToHash) in
theorem step {op : Op} (h : ResultInv s) (ho : Orderly s op)
    (hs : step rng cidToHash s op = some s') : ResultInv s' := by
  cases op with
  | timer r =>
    obtain ⟨hr, hen, ht⟩ := ho
    obtain ⟨-, e, he⟩ := step_timer rng cidToHash hs
    exact h.startValidate hr hen ht he
  | startValidateOnceTask r =>
    obtain ⟨hr, ht⟩ := ho
    rcases step_startValidateOnceTask rng cidToHash hs with ⟨-, rfl⟩ | ⟨-, e, he⟩
    · exact h
    · refine ResultInv.startValidate ?_ hr ?_ ?_ he
      · exact h.of_fields _ rfl rfl rfl rfl rfl rfl rfl
      · rfl
      · exact ht
  | enableValidate b =>
    rw [step_enableValidate rng cidToHash hs]
    exact h.of_fields _ rfl rfl rfl rfl rfl rfl rfl
  | restartCrontab =>
    rw [(step_restartCrontab rng cidToHash hs).2]
    exact h.of_fields _ rfl rfl rfl rfl rfl rfl rfl
  | dispatch i replies =>
    obtain ⟨validatorID, list, hi, rfl⟩ := step_dispatch rng cidToHash hs
    exact h.dispatch ho hi
  | callback res r =>
    obtain ⟨hu, hrm, hmine⟩ := ho
    obtain ⟨e, he⟩ := step_callback rng cidToHash hs
    exact h.callback hu hrm hmine he

theorem of_orderly {enable : Bool}
    (hrun : Relation.ReflTransGen (StepBy rng cidToHash Orderly) (newValidate enable) s) :
    ResultInv s :=
  StepBy.invariant rng cidToHash (fun _ _ _ hi ho hs => hi.step rng cidToHash ho hs)
    (init enable) hrun

/-- The preflight of an orderly round closes every pair still open. -/
theorem timer_closes {r : RoundReplies} (h : ResultInv s) (ho : Orderly s (.timer r))
    (hs : TitanScheduler.Validate.step rng cidToHash s (.timer r) = some s') :
    ∀ p ∈ s.dispatched, p ∈ s'.updates.map ValidateResult.key := by
  obtain ⟨hr, hen, -⟩ := ho
  obtain ⟨-, e, he⟩ := step_timer rng cidToHash hs
  obtain ⟨st, plan, rfl, -⟩ := startValidate_succeed hr hen he
  intro p hp
  have hf : s.verifying.filter r.timeOutOk = s.verifying :=
    List.filter_eq_self.mpr fun d _ => hr.2.2.1 d
  simp only [Engine.newRound_eq, Engine.timeOut, Engine.removeVerifyingList, Engine.setState, hf,
    List.map_append, List.map_map, List.mem_append]
  rcases h.dispatched_closed p hp with hk | ⟨h₁, h₂⟩
  · exact .inl hk
  · exact .inr (List.mem_map.mpr ⟨p.2, h₂, Prod.ext (h.round_eq.trans h₁.symm) rfl⟩)

end

end ResultInv

section Orderly
variable {σ : Type} (rng : Rand σ) (cidToHash : String → Option String)

/-- Over every orderly run from a fresh engine: no two terminal updates are for
one row, each is for a pair dispatched in its round, every inserted row is
closed or its device is still verifying in the current round, and after the
preflight of the next orderly round every row has a terminal update, still no
two for one row. -/
theorem orderly_terminal_updates {enable : Bool} {s : Engine}
    (hrun : Relation.ReflTransGen (StepBy rng cidToHash Orderly) (newValidate enable) s) :
    (s.updates.map ValidateResult.key).Nodup ∧ (∀ u ∈ s.updates, u.key ∈ s.dispatched) ∧
    (∀ row ∈ s.results, row.key ∈ s.updates.map ValidateResult.key ∨
      (row.roundID = s.curRoundId ∧ row.deviceID ∈ s.verifying)) ∧
    ∀ r s', Orderly s (.timer r) → step rng cidToHash s (.timer r) = some s' →
      (s'.updates.map ValidateResult.key).Nodup ∧
      ∀ row ∈ s.results, row.key ∈ s'.updates.map ValidateResult.key := by
  have h := ResultInv.of_orderly hrun
  exact ⟨h.updates_nodup, h.updates_dispatched,
    fun row hrow => h.dispatched_closed _ (h.results_dispatched row hrow),
    fun r s' ho hs => ⟨(h.step rng cidToHash ho hs).updates_nodup,
      fun row hrow => h.timer_closes ho hs _ (h.results_dispatched row hrow)⟩⟩

end Orderly

theorem orderly_terminal_updates_one_round :
    ∃ s, Relation.ReflTransGen (StepBy seedRand some Orderly) (newValidate true) s ∧
      s.results = [createdResult 1 "e1" "c1"] ∧ s.updates = [] ∧
      ∀ r s', Orderly s (.timer r) → step seedRand some s (.timer r) = some s' →
        (s'.updates.map ValidateResult.key).Nodup ∧
        ∀ row ∈ s.results, row.key ∈ s'.updates.map ValidateResult.key :=
  have hrun : Relation.ReflTransGen (StepBy seedRand some Orderly) (newValidate true) _ :=
    .tail (.single ⟨.timer (.ok 0 ["c1"] [⟨"e1", "a1"⟩] []),
      ⟨⟨rfl, rfl, fun _ => rfl, rfl, by decide⟩, rfl, rfl⟩, rfl⟩)
      ⟨.dispatch 0 TargetReplies.ok, fun _ => ⟨rfl, rfl⟩, rfl⟩
  ⟨_, hrun, rfl, rfl, (orderly_terminal_updates seedRand some hrun).2.2.2⟩

/-- After one round dispatches `e1`, the node answers twice for it, and once
for `x9`, which no round dispatched: the row of `e1` gets two terminal updates,
and `x9` one without a dispatch. -/
theorem duplicate_callback_updates :
    ∃ s, Reachable seedRand some s ∧ createdResult 1 "e1" "c1" ∈ s.results ∧
      (s.updates.map ValidateResult.key).count (1, "e1") = 2 ∧
      (1, "x9") ∈ s.updates.map ValidateResult.key ∧ (1, "x9") ∉ s.dispatched :=
  exists_reachable_of_runOps seedRand some true (oneRound ++
    [Op.callback ⟨1, "e1", [], 0, true, false, 0, 0⟩ ⟨.ok [], none, none, none⟩,
     Op.callback ⟨1, "e1", [], 0, true, false, 0, 0⟩ ⟨.ok [], none, none, none⟩,
     Op.callback ⟨1, "x9", [], 0, true, false, 0, 0⟩ ⟨.ok [], none, none, none⟩])
    ⟨_, rfl, by decide⟩

/-! ### The verifying set of an orderly run -/

section Verifying
variable {σ : Type} (rng : Rand σ) (cidToHash : String → Option String)

end Verifying

/-- On the state one round and its dispatch reach (round 1, `e1` dispatched
with max fid 10, seed 0) the handler faults on a block map that comes back
empty with a nil error, on a device with no `maxFidMap` entry, and on a
`RandomCount` beyond the answer's cids. -/
theorem handleValidateResult_faults :
    ∃ s, Reachable seedRand some s ∧
      handleValidateResult seedRand some ⟨1, "e1", ["cidA"], 1, false, false, 0, 0⟩
        ⟨.ok [], none, none, none⟩ s = .error .nilErrorDereference ∧
      handleValidateResult seedRand some ⟨1, "x9", ["cidA"], 1, false, false, 0, 0⟩
        ⟨.ok [(5, "cidB")], none, none, none⟩ s = .error .failedTypeAssertion ∧
      handleValidateResult seedRand some ⟨1, "e1", ["cidA"], 2, false, false, 0, 0⟩
        ⟨.ok [(5, "cidB")], none, none, none⟩ s = .error .indexOutOfRange :=
  exists_reachable_of_runOps seedRand some true oneRound ⟨_, rfl, rfl, rfl, rfl⟩

end TitanScheduler.Validate
