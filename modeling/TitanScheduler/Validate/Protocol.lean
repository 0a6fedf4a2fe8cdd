import TitanScheduler.Validate.Results

/-!
# The challenge protocol (validate.go:195-210, 292-348, 409-476)

What a validator is sent and how the answer comes back scored. Each dispatch
goroutine hands the batch `assemblyValidateReqAndStore` built to its validator's
`ValidateBlocks`; the node draws its fids from the seed and max fid of its
request, and the handler draws them again from `v.seed` and the device's
`maxFidMap` entry. `Wire` is the engine together with the batches sent so far;
forgetting the batches, its steps are the engine's steps (`Wire.step_engine`),
and every run of the engine is the shadow of a run of `Wire`.

Over every orderly run the two draws agree (`WireInv`): a request of the current
round carries the engine's seed and the `maxFid` stored for the device it
challenges, so the handler scores an answer to it by exactly the draws that
request fixes.
-/

namespace TitanScheduler.Validate

open ValidateState ValidateStatus

/-- The engine with the `ValidateBlocks` batches sent so far, each with its validator. -/
structure Wire where
  engine : Engine
  sent : List (String × List ReqValidate)

namespace Wire

/-- `NewValidate`, nothing sent yet. -/
def init (enable : Bool) : Wire := ⟨newValidate enable, []⟩

section
variable {σ : Type} (rng : Rand σ) (cidToHash : String → Option String)

/-- The engine's step; a dispatch goroutine also sends the batch it built to its
validator (validate.go:197-208). -/
def step (w : Wire) : Op → Option Wire
  | .dispatch i replies =>
    match w.engine.tasks[i]? with
    | none => none
    | some (validatorID, list) =>
      let out := assemblyValidateReqAndStore validatorID list replies
        { w.engine with tasks := w.engine.tasks.eraseIdx i }
      some ⟨out.1, w.sent ++ [(validatorID, out.2)]⟩
  | op => (TitanScheduler.Validate.step rng cidToHash w.engine op).map fun e => ⟨e, w.sent⟩

/-- One step whose operation `P` allows. -/
def StepBy (P : Engine → Op → Prop) (w w' : Wire) : Prop :=
  ∃ op, P w.engine op ∧ w.step rng cidToHash op = some w'

/-- Forgetting the batches, a step of `Wire` is a step of the engine. -/
theorem step_engine (w : Wire) (op : Op) :
    (w.step rng cidToHash op).map Wire.engine = TitanScheduler.Validate.step rng cidToHash w.engine op := by
  cases op with
  | dispatch i replies =>
    simp only [step, TitanScheduler.Validate.step, runTask]
    cases w.engine.tasks[i]? <;> rfl
  | _ => simp [step, Option.map_map, Function.comp_def]

theorem step_some {w w' : Wire} {op : Op} (h : w.step rng cidToHash op = some w') :
    TitanScheduler.Validate.step rng cidToHash w.engine op = some w'.engine := by
  rw [← step_engine, h]
  rfl

/-- A step other than a dispatch sends nothing. -/
theorem step_sent_eq {w w' : Wire} {op : Op} (hop : ∀ i replies, op ≠ .dispatch i replies)
    (h : w.step rng cidToHash op = some w') : w' = ⟨w'.engine, w.sent⟩ := by
  cases op with
  | dispatch i replies => exact absurd rfl (hop i replies)
  | _ =>
    simp only [step, Option.map_eq_some'] at h
    obtain ⟨e, -, rfl⟩ := h
    rfl

/-- Every run of the engine is the shadow of a run of `Wire` from any batches. -/
theorem exists_run {P : Engine → Op → Prop} {s₀ s : Engine}
    (h : Relation.ReflTransGen (Validate.StepBy rng cidToHash P) s₀ s)
    (sent : List (String × List ReqValidate)) :
    ∃ w, w.engine = s ∧ Relation.ReflTransGen (StepBy rng cidToHash P) ⟨s₀, sent⟩ w := by
  induction h with
  | refl => exact ⟨_, rfl, .refl⟩
  | tail _ hs ih =>
    obtain ⟨w, rfl, hw⟩ := ih
    obtain ⟨op, hp, he⟩ := hs
    have hm := step_engine rng cidToHash w op
    rw [he] at hm
    obtain ⟨w', hw', rfl⟩ := Option.map_eq_some'.mp hm
    exact ⟨w', rfl, hw.tail ⟨op, hp, hw'⟩⟩

/-- The engine of a run of `Wire` runs the same operations. -/
theorem engine_run {P : Engine → Op → Prop} {w₀ w : Wire}
    (h : Relation.ReflTransGen (StepBy rng cidToHash P) w₀ w) :
    Relation.ReflTransGen (Validate.StepBy rng cidToHash P) w₀.engine w.engine := by
  induction h with
  | refl => exact .refl
  | tail _ hs ih =>
    obtain ⟨op, hp, hw⟩ := hs
    exact ih.tail ⟨op, hp, step_some rng cidToHash hw⟩

end

end Wire

/-- The targets of a queued dispatch task of an orderly run are distinct devices
not yet dispatched in the current round. -/
theorem ResultInv.task_fresh {s : Engine} (hr : ResultInv s) {i : Nat} {validatorID : String}
    {list : List TmpDeviceMeta} (hi : s.tasks[i]? = some (validatorID, list)) :
    (list.map TmpDeviceMeta.deviceId).Nodup ∧
      ∀ x ∈ list, (s.curRoundId, x.deviceId) ∉ s.dispatched := by
  have hperm := assigned_eraseIdx hi
  have hnd := (hperm.map TmpDeviceMeta.deviceId).nodup_iff.mp hr.tasks_nodup
  rw [List.map_append] at hnd
  exact ⟨(List.nodup_append.mp hnd).1,
    fun x hx => hr.tasks_fresh x (hperm.symm.subset (List.mem_append_left _ hx))⟩

/-- Every request sent is for a round already begun; one of the current round
carries the engine's seed and challenges a device dispatched in the current
round whose stored `maxFid` is the request's. -/
structure WireInv (w : Wire) : Prop where
  sent_le : ∀ b ∈ w.sent, ∀ q ∈ b.2, q.roundID ≤ w.engine.curRoundId
  sent_agree : ∀ b ∈ w.sent, ∀ q ∈ b.2, q.roundID = w.engine.curRoundId →
    q.seed = w.engine.seed ∧ ∃ d : TmpDeviceMeta, q.nodeURL = d.addr ∧
      q.nodeType = d.nodeType ∧ (w.engine.curRoundId, d.deviceId) ∈ w.engine.dispatched ∧
      w.engine.maxFidMap d.deviceId = some q.maxFid

namespace WireInv

section
variable {σ : Type} {rng : Rand σ} {cidToHash : String → Option String} {w w' : Wire}

theorem init (enable : Bool) : WireInv (Wire.init enable) :=
  ⟨by simp [Wire.init], by simp [Wire.init]⟩

/-- `WireInv` reads four fields of the engine and the batches only. -/
theorem of_engine (h : WireInv w) (e : Engine) (h₁ : e.curRoundId = w.engine.curRoundId)
    (h₂ : e.seed = w.engine.seed) (h₃ : e.dispatched = w.engine.dispatched)
    (h₄ : e.maxFidMap = w.engine.maxFidMap) : WireInv ⟨e, w.sent⟩ := by
  obtain ⟨a, b⟩ := h
  constructor <;> simp only [h₁, h₂, h₃, h₄] <;> assumption

/-- A new round leaves every request sent so far in an earlier round. -/
theorem of_round_lt (h : WireInv w) (e : Engine) (hlt : w.engine.curRoundId < e.curRoundId) :
    WireInv ⟨e, w.sent⟩ := by
  refine ⟨fun b hb q hq => (h.sent_le b hb q hq).trans hlt.le, fun b hb q hq hcur => ?_⟩
  have := h.sent_le b hb q hq
  simp only at hcur
  omega

theorem startValidate_round {r : RoundReplies} {s s' : Engine} {e : Option String}
    (hs : startValidate rng r s = .ok (e, s')) : s' = s ∨ s'.curRoundId = s.roundId + 1 := by
  rcases startValidate_cases rng hs with
    ⟨-, rfl⟩ | ⟨-, -, rfl⟩ | ⟨-, -, -, st, rfl⟩ | ⟨-, -, -, -, st, plan, rfl, -⟩
  exacts [.inl rfl, .inr rfl, .inr rfl, .inr rfl]

/-- A round start either changes nothing or opens a round past every request sent. -/
theorem startValidate (h : WireInv w) (hr : ResultInv w.engine) {r : RoundReplies}
    {s e : Engine} {err : Option String} (hs₀ : WireInv ⟨s, w.sent⟩)
    (hs : startValidate rng r s = .ok (err, e)) (hround : s.roundId = w.engine.roundId) :
    WireInv ⟨e, w.sent⟩ := by
  rcases startValidate_round hs with rfl | hcur
  · exact hs₀
  · refine h.of_round_lt e ?_
    rw [hcur, hround, hr.round_eq]
    exact Int.lt_add_one_iff.mpr le_rfl

/-- A dispatch task of an orderly run sends requests for devices it dispatches
now, after storing their `maxFid`; no device of an earlier request of the
round is among its targets. -/
theorem dispatch {i : Nat} {validatorID : String} {list : List TmpDeviceMeta}
    {replies : Nat → TargetReplies} (h : WireInv w) (hr : ResultInv w.engine)
    (hi : w.engine.tasks[i]? = some (validatorID, list)) :
    WireInv ⟨(assemblyValidateReqAndStore validatorID list replies
        { w.engine with tasks := w.engine.tasks.eraseIdx i }).1,
      w.sent ++ [(validatorID, (assemblyValidateReqAndStore validatorID list replies
        { w.engine with tasks := w.engine.tasks.eraseIdx i }).2)]⟩ := by
  obtain ⟨hnd, hfresh⟩ := hr.task_fresh hi
  obtain ⟨new, -, hreq, hdis, hfid, hkeep⟩ := assemblyLoop_requests validatorID replies list 0
    { w.engine with tasks := w.engine.tasks.eraseIdx i } [] hnd
  obtain ⟨m, v, rs, d, hfr⟩ := assemblyLoop_frame validatorID replies list 0
    { w.engine with tasks := w.engine.tasks.eraseIdx i } []
  have hcur := congrArg Engine.curRoundId hfr
  have hseed := congrArg Engine.seed hfr
  unfold assemblyValidateReqAndStore
  generalize assemblyLoop validatorID replies 0 list
    { w.engine with tasks := w.engine.tasks.eraseIdx i } [] = out at hreq hdis hfid hkeep hcur hseed
  obtain ⟨e, batch⟩ := out
  dsimp only at hreq hdis hfid hkeep hcur hseed
  subst hreq
  refine ⟨fun b hb q hq => ?sent_le, fun b hb q hq hq' => ?sent_agree⟩ <;>
    simp only [List.mem_append, List.mem_singleton] at hb
  case sent_le =>
    rw [hcur]
    rcases hb with hb | rfl
    · exact h.sent_le b hb q hq
    · obtain ⟨p, -, rfl⟩ := List.mem_map.mp (by simpa only [List.nil_append] using hq)
      exact le_rfl
  case sent_agree =>
    dsimp only at hq' ⊢
    rw [hcur] at hq' ⊢
    rcases hb with hb | rfl
    · obtain ⟨hs, dv, hurl, htype, hd, hmax⟩ := h.sent_agree b hb q hq hq'
      refine ⟨hs.trans hseed.symm, dv, hurl, htype,
        by rw [hdis]; exact List.mem_append_left _ hd, ?_⟩
      rw [hkeep dv.deviceId fun hx => ?_]
      · exact hmax
      obtain ⟨x, hx, hxd⟩ := List.mem_map.mp hx
      exact hfresh x hx (hxd ▸ hd)
    · obtain ⟨p, hp, rfl⟩ := List.mem_map.mp (by simpa only [List.nil_append] using hq)
      exact ⟨hseed.symm, p.1, rfl, rfl,
        by rw [hdis]; exact List.mem_append_right _ (List.mem_map_of_mem _ hp), hfid p hp⟩

variable (rng cidToHash) in
/-- A step from a state of `ResultInv` keeps `WireInv`. -/
theorem step {op : Op} (h : WireInv w) (hr : ResultInv w.engine)
    (hs : w.step rng cidToHash op = some w') : WireInv w' := by
  have he := Wire.step_some rng cidToHash hs
  cases op with
  | dispatch i replies =>
    simp only [Wire.step] at hs
    split at hs
    · cases hs
    · rename_i validatorID list hi
      cases hs
      exact h.dispatch hr hi
  | timer r =>
    rw [Wire.step_sent_eq rng cidToHash (fun _ _ => Op.noConfusion) hs]
    obtain ⟨-, err, hv⟩ := step_timer rng cidToHash he
    exact h.startValidate hr h hv rfl
  | startValidateOnceTask r =>
    rw [Wire.step_sent_eq rng cidToHash (fun _ _ => Op.noConfusion) hs]
    rcases step_startValidateOnceTask rng cidToHash he with ⟨-, hst⟩ | ⟨-, err, hv⟩
    · exact hst ▸ h
    · refine h.startValidate hr ?_ hv rfl
      exact h.of_engine _ rfl rfl rfl rfl
  | enableValidate b =>
    rw [Wire.step_sent_eq rng cidToHash (fun _ _ => Op.noConfusion) hs,
      step_enableValidate rng cidToHash he]
    exact h.of_engine _ rfl rfl rfl rfl
  | restartCrontab =>
    rw [Wire.step_sent_eq rng cidToHash (fun _ _ => Op.noConfusion) hs,
      (step_restartCrontab rng cidToHash he).2]
    exact h.of_engine _ rfl rfl rfl rfl
  | callback res r =>
    rw [Wire.step_sent_eq rng cidToHash (fun _ _ => Op.noConfusion) hs]
    obtain ⟨st, us, v, -, hfr⟩ := step_callback_frame he
    rw [hfr]
    exact h.of_engine _ rfl rfl rfl rfl

/-- What every orderly run of `Wire` keeps. -/
theorem of_orderly {enable : Bool}
    (hrun : Relation.ReflTransGen (Wire.StepBy rng cidToHash Orderly) (Wire.init enable) w) :
    ResultInv w.engine ∧ WireInv w := by
  induction hrun with
  | refl => exact ⟨ResultInv.init enable, init enable⟩
  | tail _ hs ih =>
    obtain ⟨op, ho, hop⟩ := hs
    exact ⟨ih.1.step rng cidToHash ho (Wire.step_some rng cidToHash hop),
      ih.2.step rng cidToHash ih.1 hop⟩

end

end WireInv

/-! ### One request per device and round -/

section Once
variable {σ : Type} (rng : Rand σ) (cidToHash : String → Option String)

/-- A round start dispatches nothing itself. -/
theorem startValidate_dispatched {r : RoundReplies} {s s' : Engine} {e : Option String}
    (hs : startValidate rng r s = .ok (e, s')) : s'.dispatched = s.dispatched := by
  rcases startValidate_cases rng hs with
    ⟨-, rfl⟩ | ⟨-, -, rfl⟩ | ⟨-, -, -, st, rfl⟩ | ⟨-, -, -, -, st, plan, rfl, -⟩ <;> rfl

/-- A dispatch task of an orderly run adds only pairs not dispatched before, each once. -/
theorem dispatched_nodup_step {s s' : Engine} {op : Op} (hr : ResultInv s)
    (hnd : s.dispatched.Nodup) (hs : step rng cidToHash s op = some s') : s'.dispatched.Nodup := by
  cases op with
  | timer r =>
    obtain ⟨-, e, hv⟩ := step_timer rng cidToHash hs
    rwa [startValidate_dispatched rng hv]
  | startValidateOnceTask r =>
    rcases step_startValidateOnceTask rng cidToHash hs with ⟨-, rfl⟩ | ⟨-, e, hv⟩
    · exact hnd
    · rwa [startValidate_dispatched rng hv]
  | enableValidate b =>
    rwa [step_enableValidate rng cidToHash hs]
  | restartCrontab =>
    rwa [(step_restartCrontab rng cidToHash hs).2]
  | dispatch i replies =>
    obtain ⟨validatorID, list, hi, rfl⟩ := step_dispatch rng cidToHash hs
    obtain ⟨hlist, hfresh⟩ := hr.task_fresh hi
    obtain ⟨new, hsub, -, hdis, -, -⟩ := assemblyLoop_requests validatorID replies list 0
      { s with tasks := s.tasks.eraseIdx i } [] hlist
    rw [assemblyValidateReqAndStore, hdis]
    have hnew : (new.map fun p => p.1.deviceId).Nodup := by
      have := (hsub.map TmpDeviceMeta.deviceId).nodup hlist
      rwa [List.map_map] at this
    refine List.nodup_append.mpr ⟨hnd, ?_, fun p hp hp' => ?_⟩
    · have hinj : Function.Injective (Prod.mk s.curRoundId : String → Int × String) :=
        fun _ _ h => (Prod.mk.inj h).2
      simpa only [List.map_map, Function.comp_def] using hnew.map hinj
    · obtain ⟨q, hq, rfl⟩ := List.mem_map.mp hp'
      exact hfresh q.1 (hsub.subset (List.mem_map_of_mem _ hq)) hp
  | callback res r =>
    obtain ⟨st, us, v, -, rfl⟩ := step_callback_frame hs
    exact hnd

/-- Over every orderly run no `(round, device)` pair is dispatched twice: a device
gets at most one `ReqValidate` per round, so its `maxFidMap` entry is written once
in the round. -/
theorem orderly_dispatch_once {enable : Bool} {s : Engine}
    (hrun : Relation.ReflTransGen (StepBy rng cidToHash Orderly) (newValidate enable) s) :
    s.dispatched.Nodup :=
  (@StepBy.invariant σ rng cidToHash _ (fun s => ResultInv s ∧ s.dispatched.Nodup)
    (fun _ _ _ hi ho hs => ⟨hi.1.step rng cidToHash ho hs,
      dispatched_nodup_step rng cidToHash hi.1 hi.2 hs⟩)
    _ _ ⟨ResultInv.init enable, List.nodup_nil⟩ hrun).2

end Once

/-- One orderly round dispatching `e1` and `e2`, each once. -/
theorem orderly_dispatch_once_one_round :
    ∃ s, Relation.ReflTransGen (StepBy seedRand some Orderly) (newValidate true) s ∧
      s.dispatched = [(1, "e1"), (1, "e2")] ∧ s.dispatched.Nodup :=
  have hrun : Relation.ReflTransGen (StepBy seedRand some Orderly) (newValidate true) _ :=
    .tail (.single ⟨.timer (.ok 0 ["c1"] [⟨"e1", "a1"⟩, ⟨"e2", "a2"⟩] []),
      ⟨⟨rfl, rfl, fun _ => rfl, rfl, by decide⟩, rfl, rfl⟩, rfl⟩)
      ⟨.dispatch 0 TargetReplies.ok, fun _ => ⟨rfl, rfl⟩, rfl⟩
  ⟨_, hrun, rfl, orderly_dispatch_once seedRand some hrun⟩

section Agreement
variable {σ : Type} (rng : Rand σ) (cidToHash : String → Option String)

/-- Over every orderly run, a request sent for the current round carries the
engine's seed and challenges a device dispatched in the current round whose
stored `maxFid` is the request's: the node and the handler draw the same fids. -/
theorem orderly_requests_agree {enable : Bool} {w : Wire}
    (hrun : Relation.ReflTransGen (Wire.StepBy rng cidToHash Orderly) (Wire.init enable) w) :
    ∀ b ∈ w.sent, ∀ q ∈ b.2, q.roundID = w.engine.curRoundId →
      q.seed = w.engine.seed ∧ ∃ d : TmpDeviceMeta, q.nodeURL = d.addr ∧
        q.nodeType = d.nodeType ∧ (w.engine.curRoundId, d.deviceId) ∈ w.engine.dispatched ∧
        w.engine.maxFidMap d.deviceId = some q.maxFid :=
  (WireInv.of_orderly hrun).2.sent_agree

/-- One orderly round on validator `c1` and edge `e1`, whose dispatch sends `e1`'s
request, seed `0` and max fid `10`. -/
theorem orderly_requests_agree_one_round :
    ∃ w : Wire, Relation.ReflTransGen (Wire.StepBy seedRand some Orderly) (Wire.init true) w ∧
      w.sent = [("c1", [⟨0, "a1", 10, 1, .nodeEdge, 10⟩])] ∧
      ∀ b ∈ w.sent, ∀ q ∈ b.2, q.roundID = w.engine.curRoundId →
        q.seed = w.engine.seed ∧ ∃ d : TmpDeviceMeta, q.nodeURL = d.addr ∧
          q.nodeType = d.nodeType ∧ (w.engine.curRoundId, d.deviceId) ∈ w.engine.dispatched ∧
          w.engine.maxFidMap d.deviceId = some q.maxFid :=
  have hrun : Relation.ReflTransGen (Wire.StepBy seedRand some Orderly) (Wire.init true) _ :=
    .tail (.single ⟨.timer (.ok 0 ["c1"] [⟨"e1", "a1"⟩] []),
      ⟨⟨rfl, rfl, fun _ => rfl, rfl, by decide⟩, rfl, rfl⟩, rfl⟩)
      ⟨.dispatch 0 TargetReplies.ok, fun _ => ⟨rfl, rfl⟩, rfl⟩
  ⟨_, hrun, rfl, orderly_requests_agree seedRand some hrun⟩

end Agreement

end TitanScheduler.Validate
