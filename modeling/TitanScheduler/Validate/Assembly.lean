import TitanScheduler.Validate.State
import Mathlib.Data.List.Nodup

/-!
# One dispatch task's store writes (validate.go:292-348)

`assemblyValidateReqAndStore` walks a validator's targets. A target whose
`CountCidOfDevice` fails or is not positive, or whose `GetNodeCacheFid` fails,
is skipped. Otherwise its `maxFid` is stored, its `ReqValidate` is appended to
the batch, and then `SetNodeToVerifyingList` and `InsertValidateResultInfo` are
called, each failure ending in a `continue` that no longer removes the request.

`assembleTarget_cases` says once what one pass can do, and `assemblyLoop_writes`
what the walk writes, derived from it. A target is tracked as far as the two
writes go: its row exists only if it is in the verifying set, and it is there
only if it got a request.
-/

namespace TitanScheduler.Validate

/-- What the stores answer to the calls made for one target: `CountCidOfDevice`
and `GetNodeCacheFid` (`none` is an error), and whether `SetNodeToVerifyingList`
and `InsertValidateResultInfo` succeed. -/
structure TargetReplies where
  countCidOfDevice : Option Int
  getNodeCacheFid : Option Int
  setNodeToVerifyingList : Bool
  insertValidateResultInfo : Bool
  deriving Repr, DecidableEq

/-- Every store call made for a target succeeds. -/
def TargetReplies.Succeed (r : TargetReplies) : Prop :=
  r.setNodeToVerifyingList = true ∧ r.insertValidateResultInfo = true

/-- The request validate.go:317-324 appends for `device`. -/
def reqValidate (s : Engine) (device : TmpDeviceMeta) (maxFid : Int) : ReqValidate :=
  ⟨s.seed, device.addr, s.duration, s.curRoundId, device.nodeType, maxFid⟩

/-- `maxFidMap.Store` of a target that gets a request, with the history entry. -/
def Engine.dispatchTo (s : Engine) (device : TmpDeviceMeta) (maxFid : Int) : Engine :=
  { s.storeMaxFid device.deviceId maxFid with
    dispatched := s.dispatched ++ [(s.curRoundId, device.deviceId)] }

/-- One pass of the loop (validate.go:295-345). -/
def assembleTarget (validatorID : String) (device : TmpDeviceMeta) (r : TargetReplies)
    (s : Engine) (req : List ReqValidate) : Engine × List ReqValidate :=
  match r.countCidOfDevice with
  | none => (s, req)
  | some num =>
    if num ≤ 0 then (s, req) else
    match r.getNodeCacheFid with
    | none => (s, req)
    | some maxFid =>
      let req := req ++ [reqValidate s device maxFid]
      let s := s.dispatchTo device maxFid
      if !r.setNodeToVerifyingList then (s, req) else
      let s := s.setNodeToVerifyingList device.deviceId
      if !r.insertValidateResultInfo then (s, req) else
      (s.insertValidateResultInfo (createdResult s.curRoundId device.deviceId validatorID), req)

/-- The loop from the `i`-th target on; `replies i` answers the `i`-th target's calls. -/
def assemblyLoop (validatorID : String) (replies : Nat → TargetReplies) :
    Nat → List TmpDeviceMeta → Engine → List ReqValidate → Engine × List ReqValidate
  | _, [], s, req => (s, req)
  | i, device :: rest, s, req =>
    let out := assembleTarget validatorID device (replies i) s req
    assemblyLoop validatorID replies (i + 1) rest out.1 out.2

/-- `assemblyValidateReqAndStore(validatorID, list)` (validate.go:292-348). -/
def assemblyValidateReqAndStore (validatorID : String) (list : List TmpDeviceMeta)
    (replies : Nat → TargetReplies) (s : Engine) : Engine × List ReqValidate :=
  assemblyLoop validatorID replies 0 list s []

/-- `SetNodeToVerifyingList` for each of `ds`, in order. -/
def insertAll (l : List String) (ds : List String) : List String :=
  ds.foldl (fun l d => l.insert d) l

@[simp] theorem insertAll_nil (l : List String) : insertAll l [] = l := rfl
@[simp] theorem insertAll_cons (l : List String) (d : String) (ds : List String) :
    insertAll l (d :: ds) = insertAll (l.insert d) ds := rfl
@[simp] theorem insertAll_append (l ds ds' : List String) :
    insertAll l (ds ++ ds') = insertAll (insertAll l ds) ds' := List.foldl_append _ _ _ _

@[simp] theorem mem_insertAll {l ds : List String} {x : String} :
    x ∈ insertAll l ds ↔ x ∈ l ∨ x ∈ ds := by
  induction ds generalizing l with
  | nil => simp
  | cons d ds ih => simp only [insertAll_cons, ih, List.mem_insert_iff, List.mem_cons]; tauto

theorem insertAll_nodup {l : List String} (h : l.Nodup) (ds : List String) :
    (insertAll l ds).Nodup := by
  induction ds generalizing l with
  | nil => exact h
  | cons d ds ih => exact ih (h.insert)

/-! ### One target -/

section Target
variable (validatorID : String) (device : TmpDeviceMeta) (r : TargetReplies) (s : Engine)
  (req : List ReqValidate)

/-- What one pass can do: skip the target, or dispatch it and then track it as far
as `SetNodeToVerifyingList` and `InsertValidateResultInfo` succeed. -/
theorem assembleTarget_cases :
    assembleTarget validatorID device r s req = (s, req) ∨
    ∃ maxFid, r.getNodeCacheFid = some maxFid ∧
      let s₁ := s.dispatchTo device maxFid
      let req₁ := req ++ [reqValidate s device maxFid]
      (r.setNodeToVerifyingList = false ∧ assembleTarget validatorID device r s req = (s₁, req₁)) ∨
      (r.setNodeToVerifyingList = true ∧ r.insertValidateResultInfo = false ∧
        assembleTarget validatorID device r s req =
          (s₁.setNodeToVerifyingList device.deviceId, req₁)) ∨
      (r.Succeed ∧ assembleTarget validatorID device r s req =
        ((s₁.setNodeToVerifyingList device.deviceId).insertValidateResultInfo
          (createdResult s.curRoundId device.deviceId validatorID), req₁)) := by
  obtain ⟨count, fid, set, ins⟩ := r
  unfold assembleTarget
  rcases count with _ | num
  · exact .inl rfl
  by_cases hn : num ≤ 0
  · exact .inl (by simp [hn])
  rcases fid with _ | maxFid
  · exact .inl (by simp [hn])
  refine .inr ⟨maxFid, rfl, ?_⟩
  cases set <;> cases ins <;> simp [hn, TargetReplies.Succeed]
  rfl

/-- What a pass leaves as it was. -/
theorem assembleTarget_frame :
    ∃ m v rs d, (assembleTarget validatorID device r s req).1 =
      { s with maxFidMap := m, verifying := v, results := rs, dispatched := d } := by
  rcases assembleTarget_cases validatorID device r s req with
    h | ⟨_, _, ⟨_, h⟩ | ⟨_, _, h⟩ | ⟨_, h⟩⟩ <;> rw [h] <;>
    exact ⟨_, _, _, _, rfl⟩

/-- The three outcomes of a dispatched target as one: the verifying set and the
rows gain the target as far as the two writes succeed. -/
theorem assembleTarget_tracked :
    assembleTarget validatorID device r s req = (s, req) ∨
    ∃ maxFid tracked inserted, tracked.Sublist [device] ∧ inserted.Sublist tracked ∧
      (r.Succeed → tracked = [device] ∧ inserted = tracked) ∧
      assembleTarget validatorID device r s req =
        ({ s.dispatchTo device maxFid with
            verifying := insertAll s.verifying (tracked.map TmpDeviceMeta.deviceId)
            results := s.results ++
              inserted.map fun d => createdResult s.curRoundId d.deviceId validatorID },
          req ++ [reqValidate s device maxFid]) := by
  rcases assembleTarget_cases validatorID device r s req with
    h | ⟨f, -, ⟨hset, h⟩ | ⟨-, hins, h⟩ | ⟨-, h⟩⟩
  · exact .inl h
  · exact .inr ⟨f, [], [], List.nil_sublist _, .slnil, fun hs => absurd hs.1 (by simp [hset]),
      by rw [h]; simp [Engine.dispatchTo, Engine.storeMaxFid]⟩
  · exact .inr ⟨f, [device], [], .refl _, List.nil_sublist _,
      fun hs => absurd hs.2 (by simp [hins]), by
        rw [h]; simp [Engine.setNodeToVerifyingList, Engine.dispatchTo, Engine.storeMaxFid]⟩
  · exact .inr ⟨f, [device], [device], .refl _, .refl _, fun _ => ⟨rfl, rfl⟩, h⟩

end Target

/-! ### The walk -/

/-- What the walk leaves as it was. -/
theorem assemblyLoop_frame (validatorID : String) (replies : Nat → TargetReplies)
    (list : List TmpDeviceMeta) (i : Nat) (s : Engine) (req : List ReqValidate) :
    ∃ m v rs d, (assemblyLoop validatorID replies i list s req).1 =
      { s with maxFidMap := m, verifying := v, results := rs, dispatched := d } := by
  induction list generalizing i s req with
  | nil => exact ⟨_, _, _, _, rfl⟩
  | cons device rest ih =>
    obtain ⟨m, v, rs, d, h⟩ := assembleTarget_frame validatorID device (replies i) s req
    obtain ⟨m', v', rs', d', h'⟩ :=
      ih (i + 1) (assembleTarget validatorID device (replies i) s req).1
        (assembleTarget validatorID device (replies i) s req).2
    refine ⟨m', v', rs', d', ?_⟩
    simp only [assemblyLoop]
    rw [h']
    simp only [h]

theorem dispatchTo_maxFidMap_isSome {s : Engine} {device : TmpDeviceMeta} {f : Int} {k : String}
    (h : (s.maxFidMap k).isSome ∨ k = device.deviceId) :
    ((s.dispatchTo device f).maxFidMap k).isSome := by
  by_cases hk : k = device.deviceId
  · subst hk; simp [Engine.dispatchTo, Engine.storeMaxFid]
  · simpa [Engine.dispatchTo, Engine.storeMaxFid, hk] using h

/-- The walk's writes: the targets `new` that get a request (with their `maxFid`),
those of them `tracked` that `SetNodeToVerifyingList` added, and those of these
`inserted` that got a row; when every store call succeeds, all three agree. -/
theorem assemblyLoop_writes (validatorID : String) (replies : Nat → TargetReplies)
    (list : List TmpDeviceMeta) (i : Nat) (s : Engine) (req : List ReqValidate) :
    ∃ (new : List (TmpDeviceMeta × Int)) (tracked inserted : List TmpDeviceMeta),
      (new.map Prod.fst).Sublist list ∧ tracked.Sublist (new.map Prod.fst) ∧
      inserted.Sublist tracked ∧
      ((∀ j, (replies j).Succeed) → tracked = new.map Prod.fst ∧ inserted = tracked) ∧
      let out := assemblyLoop validatorID replies i list s req
      out.2 = req ++ new.map (fun p => reqValidate s p.1 p.2) ∧
      out.1.verifying = insertAll s.verifying (tracked.map TmpDeviceMeta.deviceId) ∧
      out.1.results = s.results ++
        inserted.map (fun d => createdResult s.curRoundId d.deviceId validatorID) ∧
      out.1.dispatched = s.dispatched ++ new.map (fun p => (s.curRoundId, p.1.deviceId)) ∧
      (∀ p ∈ new, (out.1.maxFidMap p.1.deviceId).isSome) ∧
      (∀ k, (s.maxFidMap k).isSome → (out.1.maxFidMap k).isSome) := by
  induction list generalizing i s req with
  | nil => exact ⟨[], [], [], by simp, by simp, by simp, by simp, by simp [assemblyLoop]⟩
  | cons device rest ih =>
    simp only [assemblyLoop]
    rcases assembleTarget_tracked validatorID device (replies i) s req with
      h | ⟨f, tr₀, ins₀, ht₀, hi₀, hsucc₀, h⟩ <;> rw [h]
    · obtain ⟨new, tr, ins, hn, ht, hi, hsucc, hout⟩ := ih (i + 1) s req
      exact ⟨new, tr, ins, hn.cons _, ht, hi, hsucc, hout⟩
    obtain ⟨new, tr, ins, hn, ht, hi, hsucc, hreq, hver, hres, hdis, hfid, hkeep⟩ := ih (i + 1) _ _
    refine ⟨(device, f) :: new, tr₀ ++ tr, ins₀ ++ ins, hn.cons₂ _, ht₀.append ht, hi₀.append hi,
      fun hs => ?_, ?_, ?_, ?_, ?_, ?_, ?_⟩
    · obtain ⟨rfl, rfl⟩ := hsucc₀ (hs i)
      obtain ⟨rfl, rfl⟩ := hsucc hs
      exact ⟨rfl, rfl⟩
    · rw [hreq]
      simp [reqValidate, Engine.dispatchTo, Engine.storeMaxFid]
    · rw [hver, List.map_append, insertAll_append]
    · rw [hres, List.map_append, List.append_assoc]
      rfl
    · rw [hdis]
      simp [Engine.dispatchTo, Engine.storeMaxFid]
    · intro p hp
      rcases List.mem_cons.mp hp with rfl | hp
      exacts [hkeep _ (dispatchTo_maxFidMap_isSome (.inr rfl)), hfid p hp]
    · exact fun k hk => hkeep k (dispatchTo_maxFidMap_isSome (.inl hk))

/-- On distinct targets, each request the walk appends carries the `maxFid` the
walk leaves stored for its target, and a device the walk does not target keeps
its entry. -/
theorem assemblyLoop_requests (validatorID : String) (replies : Nat → TargetReplies)
    (list : List TmpDeviceMeta) (i : Nat) (s : Engine) (req : List ReqValidate)
    (hnd : (list.map TmpDeviceMeta.deviceId).Nodup) :
    ∃ new : List (TmpDeviceMeta × Int), (new.map Prod.fst).Sublist list ∧
      let out := assemblyLoop validatorID replies i list s req
      out.2 = req ++ new.map (fun p => reqValidate s p.1 p.2) ∧
      out.1.dispatched = s.dispatched ++ new.map (fun p => (s.curRoundId, p.1.deviceId)) ∧
      (∀ p ∈ new, out.1.maxFidMap p.1.deviceId = some p.2) ∧
      ∀ k, k ∉ list.map TmpDeviceMeta.deviceId → out.1.maxFidMap k = s.maxFidMap k := by
  induction list generalizing i s req with
  | nil => exact ⟨[], by simp, by simp [assemblyLoop], by simp [assemblyLoop], by simp,
      fun _ _ => rfl⟩
  | cons device rest ih =>
    rw [List.map_cons, List.nodup_cons] at hnd
    simp only [assemblyLoop]
    rcases assembleTarget_tracked validatorID device (replies i) s req with
      h | ⟨f, tr₀, ins₀, -, -, -, h⟩ <;> rw [h]
    · obtain ⟨new, hn, hreq, hdis, hfid, hkeep⟩ := ih (i + 1) s req hnd.2
      exact ⟨new, hn.cons _, hreq, hdis, hfid,
        fun k hk => hkeep k fun hr => hk (List.mem_cons_of_mem _ hr)⟩
    obtain ⟨new, hn, hreq, hdis, hfid, hkeep⟩ := ih (i + 1) _ _ hnd.2
    refine ⟨(device, f) :: new, hn.cons₂ _, ?_, ?_, ?_, fun k hk => ?_⟩
    · rw [hreq]
      simp [reqValidate, Engine.dispatchTo, Engine.storeMaxFid]
    · rw [hdis]
      simp [Engine.dispatchTo, Engine.storeMaxFid]
    · intro p hp
      rcases List.mem_cons.mp hp with rfl | hp
      · rw [hkeep _ hnd.1]
        simp [Engine.dispatchTo, Engine.storeMaxFid]
      · exact hfid p hp
    · rw [List.map_cons, List.mem_cons, not_or] at hk
      rw [hkeep k hk.2]
      simp [Engine.dispatchTo, Engine.storeMaxFid, hk.1]

/-- A failing `SetNodeToVerifyingList` after the request is in the batch: the
target is challenged, yet neither verifying nor given a row. -/
theorem assembly_challenged_untracked :
    (assemblyValidateReqAndStore "c1" [⟨"e1", .nodeEdge, "a1"⟩]
        (fun _ => ⟨some 3, some 10, false, true⟩) (newValidate true)).2 =
      [⟨0, "a1", 10, 0, .nodeEdge, 10⟩] ∧
    (assemblyValidateReqAndStore "c1" [⟨"e1", .nodeEdge, "a1"⟩]
        (fun _ => ⟨some 3, some 10, false, true⟩) (newValidate true)).1.verifying = [] ∧
    (assemblyValidateReqAndStore "c1" [⟨"e1", .nodeEdge, "a1"⟩]
        (fun _ => ⟨some 3, some 10, false, true⟩) (newValidate true)).1.results = [] :=
  ⟨rfl, rfl, rfl⟩

end TitanScheduler.Validate
