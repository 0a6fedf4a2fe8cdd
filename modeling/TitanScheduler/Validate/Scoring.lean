import TitanScheduler.Validate.Basic
import Mathlib.Logic.Function.Iterate

/-!
# Scoring a node's answer (validate.go:434-490)

`validateVerdict` is the body of `handleValidateResult` after the round check:
it decides the one terminal write the handler makes (`UpdateFailValidateResult`
or `UpdateSuccessValidateResult`), or the runtime panic it hits first. The
generator is `rand.New(rand.NewSource(v.seed))`; each index draws
`getRandNum(maxFid, r) + 1`, looks the fid up in the node's block map (a missing
fid reads as `""` and is skipped) and compares the cids by hash.

The reference verdict `referenceStatus` states the status in the words of the
scoring rule: the draws that hit a cid are the checked ones, and the answer
fails exactly when a checked draw mismatches. `validateVerdict_status`: whenever
the body completes without a panic, its write carries that status.
-/

namespace TitanScheduler.Validate

open ValidateStatus

variable {σ : Type} (rng : Rand σ) (cidToHash : String → Option String)

/-- `getRandNum(max, r)` (validate.go:350-356). -/
def getRandNum (max : Int) (r : σ) : Int × σ :=
  if max > 0 then rng.intn r max else (max, r)

/-- `compareCid(cidStr1, cidStr2)` (validate.go:478-490); `cidToHash` is
`helper.CIDString2HashString`, `none` its error. -/
def compareCid (cidStr1 cidStr2 : String) : Bool :=
  match cidToHash cidStr1, cidToHash cidStr2 with
  | some hash1, some hash2 => hash1 == hash2
  | _, _ => false

/-- `cacheInfos[fid]` on the node's fid → cid map: `""` when absent. -/
def blockCid (cacheInfos : List (Int × String)) (fid : Int) : String :=
  (cacheInfos.lookup fid).getD ""

def validateFailMsg (resultCid cid : String) (fid : Int) (index : Nat) : String :=
  "validate fail; resultCid:" ++ resultCid ++ ",cid_db:" ++ cid ++ ",fid:" ++ toString fid ++
    ",index:" ++ toString index

/-- The scoring loop (validate.go:459-475) at `index` with `n` draws left. -/
def scoreLoop (res : ValidateResults) (cacheInfos : List (Int × String)) (maxFid : Int) :
    Nat → Nat → σ → Except Panic ValidateResult
  | 0, _, _ => .ok (successResult res)
  | n + 1, index, r =>
    let draw := getRandNum rng maxFid r
    let fid := draw.1 + 1
    match res.cids[index]? with
    | none => .error .indexOutOfRange
    | some resultCid =>
      let cid := blockCid cacheInfos fid
      if cid = "" then scoreLoop res cacheInfos maxFid n (index + 1) draw.2
      else if !compareCid cidToHash cid resultCid then
        .ok (failResult res.roundID res.deviceID (validateFailMsg resultCid cid fid index)
          validateStatusFail)
      else scoreLoop res cacheInfos maxFid n (index + 1) draw.2

/-- The body of `handleValidateResult` after the round check (validate.go:434-475):
the terminal write, or the panic hit first. `blocks` is `GetBlocksFID`'s answer.
A query error is reported through `err.Error()`; an empty map with a `nil` error
reaches the same `err.Error()`, and a device missing from `maxFidMap` reaches
`mFValue.(int64)` on `nil`. -/
def validateVerdict (seed : Int) (maxFidMap : String → Option Int) (res : ValidateResults)
    (blocks : Except String (List (Int × String))) : Except Panic ValidateResult :=
  if res.isCancel then
    .ok (failResult res.roundID res.deviceID errMsgCancel validateStatusCancel)
  else if res.isTimeout then
    .ok (failResult res.roundID res.deviceID errMsgTimeOut validateStatusTimeOut)
  else if res.cids.length ≤ 0 ∨ res.randomCount ≤ 0 then
    .ok (failResult res.roundID res.deviceID "validate result is null or random count is 0"
      validateStatusFail)
  else match blocks with
    | .error err =>
      .ok (failResult res.roundID res.deviceID ("failed to query : " ++ err) validateStatusOther)
    | .ok cacheInfos =>
      if cacheInfos.length ≤ 0 then .error .nilErrorDereference
      else match maxFidMap res.deviceID with
        | none => .error .failedTypeAssertion
        | some maxFid =>
          scoreLoop rng cidToHash res cacheInfos maxFid res.randomCount.toNat 0
            (rng.newSource seed)

/-! ### The reference verdict -/

/-- The generator after `i` draws from the round seed. -/
def drawState (seed maxFid : Int) (i : Nat) : σ :=
  (fun r => (getRandNum rng maxFid r).2)^[i] (rng.newSource seed)

/-- The fid the `i`-th draw challenges. -/
def drawnFid (seed maxFid : Int) (i : Nat) : Int :=
  (getRandNum rng maxFid (drawState rng seed maxFid i)).1 + 1

/-- The draws among `is` whose fid has a cid in the node's map. -/
def checkedIndices (seed maxFid : Int) (cacheInfos : List (Int × String)) (is : List Nat) :
    List Nat :=
  is.filter fun i => blockCid cacheInfos (drawnFid rng seed maxFid i) ≠ ""

/-- Some checked draw among `is` mismatches the node's answer. -/
def someMismatch (seed maxFid : Int) (cacheInfos : List (Int × String)) (cids : List String)
    (is : List Nat) : Bool :=
  (checkedIndices rng seed maxFid cacheInfos is).any fun i =>
    !compareCid cidToHash (blockCid cacheInfos (drawnFid rng seed maxFid i)) (cids.getD i "")

/-- The status the scoring rule assigns: cancelled, timed out, failed on an empty
answer, other on a failed query, then failed exactly when a checked draw
mismatches. -/
def referenceStatus (seed : Int) (maxFidMap : String → Option Int) (res : ValidateResults)
    (blocks : Except String (List (Int × String))) : ValidateStatus :=
  if res.isCancel then validateStatusCancel
  else if res.isTimeout then validateStatusTimeOut
  else if res.cids = [] ∨ res.randomCount ≤ 0 then validateStatusFail
  else match blocks, maxFidMap res.deviceID with
    | .error _, _ => validateStatusOther
    | .ok cacheInfos, some maxFid =>
      if someMismatch rng cidToHash seed maxFid cacheInfos res.cids
          (List.range res.randomCount.toNat) then validateStatusFail
      else validateStatusSuccess
    | .ok _, none => validateStatusFail

theorem drawState_succ (seed maxFid : Int) (i : Nat) :
    drawState rng seed maxFid (i + 1) = (getRandNum rng maxFid (drawState rng seed maxFid i)).2 :=
  Function.iterate_succ_apply' _ _ _

theorem drawnFid_def (seed maxFid : Int) (i : Nat) :
    (getRandNum rng maxFid (drawState rng seed maxFid i)).1 + 1 = drawnFid rng seed maxFid i := rfl

theorem someMismatch_cons (seed maxFid : Int) (cacheInfos : List (Int × String))
    (cids : List String) (i : Nat) (is : List Nat) :
    someMismatch rng cidToHash seed maxFid cacheInfos cids (i :: is) =
      (decide (blockCid cacheInfos (drawnFid rng seed maxFid i) ≠ "") &&
        !compareCid cidToHash (blockCid cacheInfos (drawnFid rng seed maxFid i)) (cids.getD i "") ||
      someMismatch rng cidToHash seed maxFid cacheInfos cids is) := by
  simp only [someMismatch, checkedIndices, List.filter_cons]
  split_ifs with h <;> simp_all

/-- The loop's status from `index` on, with `n` draws left. -/
theorem scoreLoop_status (res : ValidateResults) (cacheInfos : List (Int × String))
    (seed maxFid : Int) (n index : Nat) (row : ValidateResult)
    (h : scoreLoop rng cidToHash res cacheInfos maxFid n index (drawState rng seed maxFid index) =
      .ok row) :
    row.status = if someMismatch rng cidToHash seed maxFid cacheInfos res.cids
      (List.range' index n) then validateStatusFail else validateStatusSuccess := by
  induction n generalizing index with
  | zero =>
    simp only [scoreLoop, Except.ok.injEq] at h
    subst h
    simp [someMismatch, checkedIndices, successResult]
  | succ n ih =>
    simp only [scoreLoop, ← drawState_succ, drawnFid_def] at h
    rcases hc : res.cids[index]? with _ | resultCid
    · simp [hc] at h
    have hget : res.cids.getD index "" = resultCid := by simp [hc]
    simp only [hc] at h
    rw [List.range'_succ, someMismatch_cons, hget]
    by_cases hcid : blockCid cacheInfos (drawnFid rng seed maxFid index) = ""
    · simp only [hcid, if_true] at h
      simpa [hcid] using ih (index + 1) h
    · simp only [hcid, if_false] at h
      cases hcmp : compareCid cidToHash (blockCid cacheInfos (drawnFid rng seed maxFid index))
          resultCid
      · simp only [hcmp, Bool.not_false, if_true, Except.ok.injEq] at h
        subst h
        simp [hcid, failResult]
      · simp only [hcmp, Bool.not_true, Bool.false_eq_true, if_false] at h
        simpa [hcid] using ih (index + 1) h

/-- Every row the loop writes is the result's own `(round, device)` row. -/
theorem scoreLoop_key (res : ValidateResults) (cacheInfos : List (Int × String)) (maxFid : Int)
    (n index : Nat) (r : σ) (row : ValidateResult)
    (h : scoreLoop rng cidToHash res cacheInfos maxFid n index r = .ok row) :
    row.key = (res.roundID, res.deviceID) := by
  induction n generalizing index r with
  | zero => cases h; rfl
  | succ n ih =>
    simp only [scoreLoop] at h
    split at h
    · cases h
    split_ifs at h
    · exact ih _ _ h
    · cases h; rfl
    · exact ih _ _ h

/-- What the handler's body can return, along its `if` chain: the row of a
cancelled or timed-out result or of an empty answer, the row of a failed block
query, or the scoring loop's row. -/
theorem validateVerdict_cases (seed : Int) (maxFidMap : String → Option Int)
    (res : ValidateResults) (blocks : Except String (List (Int × String))) (row : ValidateResult)
    (h : validateVerdict rng cidToHash seed maxFidMap res blocks = .ok row) :
    res.isCancel = true ∧
      row = failResult res.roundID res.deviceID errMsgCancel validateStatusCancel ∨
    ¬res.isCancel = true ∧
      (res.isTimeout = true ∧
        row = failResult res.roundID res.deviceID errMsgTimeOut validateStatusTimeOut ∨
      ¬res.isTimeout = true ∧
        ((res.cids.length ≤ 0 ∨ res.randomCount ≤ 0) ∧ row = failResult res.roundID res.deviceID
          "validate result is null or random count is 0" validateStatusFail ∨
        ¬(res.cids.length ≤ 0 ∨ res.randomCount ≤ 0) ∧
          ((∃ err, blocks = .error err ∧ row = failResult res.roundID res.deviceID
            ("failed to query : " ++ err) validateStatusOther) ∨
          ∃ cacheInfos maxFid, blocks = .ok cacheInfos ∧ maxFidMap res.deviceID = some maxFid ∧
            scoreLoop rng cidToHash res cacheInfos maxFid res.randomCount.toNat 0
              (rng.newSource seed) = .ok row))) := by
  unfold validateVerdict at h
  by_cases h₁ : res.isCancel = true
  · rw [if_pos h₁] at h
    exact .inl ⟨h₁, (Except.ok.inj h).symm⟩
  rw [if_neg h₁] at h
  refine .inr ⟨h₁, ?_⟩
  by_cases h₂ : res.isTimeout = true
  · rw [if_pos h₂] at h
    exact .inl ⟨h₂, (Except.ok.inj h).symm⟩
  rw [if_neg h₂] at h
  refine .inr ⟨h₂, ?_⟩
  by_cases h₃ : res.cids.length ≤ 0 ∨ res.randomCount ≤ 0
  · rw [if_pos h₃] at h
    exact .inl ⟨h₃, (Except.ok.inj h).symm⟩
  rw [if_neg h₃] at h
  refine .inr ⟨h₃, ?_⟩
  rcases blocks with err | cacheInfos
  · exact .inl ⟨err, rfl, (Except.ok.inj h).symm⟩
  simp only at h
  split_ifs at h
  rcases hm : maxFidMap res.deviceID with _ | maxFid
  · simp [hm] at h
  simp only [hm] at h
  exact .inr ⟨cacheInfos, maxFid, rfl, rfl, h⟩

/-- The handler writes the row of the result it handles. -/
theorem validateVerdict_key (seed : Int) (maxFidMap : String → Option Int)
    (res : ValidateResults) (blocks : Except String (List (Int × String))) (row : ValidateResult)
    (h : validateVerdict rng cidToHash seed maxFidMap res blocks = .ok row) :
    row.key = (res.roundID, res.deviceID) := by
  rcases validateVerdict_cases rng cidToHash seed maxFidMap res blocks row h with
    ⟨-, rfl⟩ | ⟨-, ⟨-, rfl⟩ | ⟨-, ⟨-, rfl⟩ | ⟨-, ⟨err, -, rfl⟩ | ⟨_, _, -, -, hl⟩⟩⟩⟩
  · rfl
  · rfl
  · rfl
  · rfl
  · exact scoreLoop_key rng cidToHash _ _ _ _ _ _ _ hl

/-- Whenever the handler's body completes without a panic, the status it writes is
the reference verdict; in particular an answer none of whose draws hits a cid
succeeds. -/
theorem validateVerdict_status (seed : Int) (maxFidMap : String → Option Int)
    (res : ValidateResults) (blocks : Except String (List (Int × String))) (row : ValidateResult)
    (h : validateVerdict rng cidToHash seed maxFidMap res blocks = .ok row) :
    row.status = referenceStatus rng cidToHash seed maxFidMap res blocks := by
  have hempty : (res.cids.length ≤ 0 ∨ res.randomCount ≤ 0) ↔
      (res.cids = [] ∨ res.randomCount ≤ 0) := by
    rw [Nat.le_zero, List.length_eq_zero]
  unfold referenceStatus
  rcases validateVerdict_cases rng cidToHash seed maxFidMap res blocks row h with
    ⟨h₁, rfl⟩ | ⟨h₁, ⟨h₂, rfl⟩ | ⟨h₂, ⟨h₃, rfl⟩ | ⟨h₃, ⟨err, rfl, rfl⟩ | ⟨ci, m, rfl, hm, hl⟩⟩⟩⟩
  · rw [if_pos h₁]
    rfl
  · rw [if_neg h₁, if_pos h₂]
    rfl
  · rw [if_neg h₁, if_neg h₂, if_pos (hempty.mp h₃)]
    rfl
  · rw [if_neg h₁, if_neg h₂, if_neg (mt hempty.mpr h₃)]
    rfl
  · rw [if_neg h₁, if_neg h₂, if_neg (mt hempty.mpr h₃), hm]
    simpa [List.range_eq_range'] using scoreLoop_status rng cidToHash res ci seed m _ 0 row hl

/-- A node answering `cidX` where its map holds `cidB` at the drawn fid `1`. -/
theorem validateVerdict_status_mismatch :
    validateVerdict seedRand some 0 (fun _ => some 1) ⟨0, "e1", ["cidX"], 1, false, false, 0, 0⟩
        (.ok [(1, "cidB")]) =
      .ok (failResult 0 "e1" (validateFailMsg "cidX" "cidB" 1 0) validateStatusFail) ∧
    (failResult 0 "e1" (validateFailMsg "cidX" "cidB" 1 0) validateStatusFail).status =
      referenceStatus seedRand some 0 (fun _ => some 1) ⟨0, "e1", ["cidX"], 1, false, false, 0, 0⟩
        (.ok [(1, "cidB")]) :=
  ⟨rfl, validateVerdict_status seedRand some 0 _ _ _ _ rfl⟩

/-- The loop completes while the draws stay within the node's answer. -/
theorem scoreLoop_ok (res : ValidateResults) (cacheInfos : List (Int × String)) (maxFid : Int)
    (n index : Nat) (r : σ) (hn : index + n ≤ res.cids.length) :
    ∃ row, scoreLoop rng cidToHash res cacheInfos maxFid n index r = .ok row := by
  induction n generalizing index r with
  | zero => exact ⟨_, rfl⟩
  | succ n ih =>
    have hi : index < res.cids.length := by omega
    simp only [scoreLoop, List.getElem?_eq_getElem hi]
    split_ifs
    · exact ih (index + 1) _ (by omega)
    · exact ⟨_, rfl⟩
    · exact ih (index + 1) _ (by omega)

/-- The handler's body completes when the draws stay within the answer, the block
query does not return an empty map without an error, and the device has a
`maxFid`. -/
theorem validateVerdict_ok (seed : Int) (maxFidMap : String → Option Int)
    (res : ValidateResults) (blocks : Except String (List (Int × String)))
    (hcount : res.randomCount ≤ res.cids.length) (hblocks : blocks ≠ .ok [])
    (hmax : (maxFidMap res.deviceID).isSome) :
    ∃ row, validateVerdict rng cidToHash seed maxFidMap res blocks = .ok row := by
  unfold validateVerdict
  by_cases h₁ : res.isCancel = true
  · exact ⟨_, if_pos h₁⟩
  rw [if_neg h₁]
  by_cases h₂ : res.isTimeout = true
  · exact ⟨_, if_pos h₂⟩
  rw [if_neg h₂]
  by_cases h₃ : res.cids.length ≤ 0 ∨ res.randomCount ≤ 0
  · exact ⟨_, if_pos h₃⟩
  rw [if_neg h₃]
  rcases blocks with err | cacheInfos
  · exact ⟨_, rfl⟩
  have hne : ¬cacheInfos.length ≤ 0 := fun h =>
    hblocks (by rw [List.length_eq_zero.mp (Nat.le_zero.mp h)])
  rcases hm : maxFidMap res.deviceID with _ | maxFid
  · simp [hm] at hmax
  simp only [hne, if_false, hm]
  exact scoreLoop_ok rng cidToHash res cacheInfos maxFid _ 0 _ (by omega)

/-- The scoring records `success` for an answer no draw of which hits a cid:
`maxFid = 1` makes every draw fid `1`, which the node's map lacks. -/
theorem validateVerdict_success_unchecked :
    validateVerdict seedRand some 0 (fun _ => some 1) ⟨0, "e1", ["cidA"], 1, false, false, 0, 0⟩
        (.ok [(5, "cidB")]) =
      .ok (successResult ⟨0, "e1", ["cidA"], 1, false, false, 0, 0⟩) ∧
    checkedIndices seedRand 0 1 [(5, "cidB")] (List.range 1) = [] :=
  ⟨rfl, by decide⟩

/-! ### The row the scoring writes -/

/-- The first checked draw among `is` whose cid the node's answer does not match. -/
def firstMismatch (seed maxFid : Int) (cacheInfos : List (Int × String)) (cids : List String)
    (is : List Nat) : Option Nat :=
  is.find? fun i => decide (blockCid cacheInfos (drawnFid rng seed maxFid i) ≠ "") &&
    !compareCid cidToHash (blockCid cacheInfos (drawnFid rng seed maxFid i)) (cids.getD i "")

/-- The row written for `res` once the draws are scored: success, or the fail row
naming the mismatching draw `i`, its fid and both cids. -/
def mismatchRow (seed maxFid : Int) (res : ValidateResults) (cacheInfos : List (Int × String)) :
    Option Nat → ValidateResult
  | none => successResult res
  | some i =>
    failResult res.roundID res.deviceID
      (validateFailMsg (res.cids.getD i "") (blockCid cacheInfos (drawnFid rng seed maxFid i))
        (drawnFid rng seed maxFid i) i) validateStatusFail

/-- The row the scoring rule writes for a well-formed answer: the fail row of the
first checked draw the answer mismatches, the success row when there is none. -/
def scoredRow (seed maxFid : Int) (res : ValidateResults) (cacheInfos : List (Int × String)) :
    ValidateResult :=
  mismatchRow rng seed maxFid res cacheInfos
    (firstMismatch rng cidToHash seed maxFid cacheInfos res.cids
      (List.range res.randomCount.toNat))

theorem firstMismatch_cons (seed maxFid : Int) (cacheInfos : List (Int × String))
    (cids : List String) (i : Nat) (is : List Nat) :
    firstMismatch rng cidToHash seed maxFid cacheInfos cids (i :: is) =
      if blockCid cacheInfos (drawnFid rng seed maxFid i) ≠ "" ∧
          compareCid cidToHash (blockCid cacheInfos (drawnFid rng seed maxFid i))
            (cids.getD i "") = false
      then some i else firstMismatch rng cidToHash seed maxFid cacheInfos cids is := by
  rw [firstMismatch, List.find?_cons]
  by_cases hcid : blockCid cacheInfos (drawnFid rng seed maxFid i) = ""
  · simp [hcid, firstMismatch]
  · cases hcmp : compareCid cidToHash (blockCid cacheInfos (drawnFid rng seed maxFid i))
        (cids.getD i "") <;> simp [hcid, hcmp, firstMismatch]

/-- A cid that parses matches itself. -/
theorem compareCid_self {c : String} (h : (cidToHash c).isSome) :
    compareCid cidToHash c c = true := by
  obtain ⟨hash, hh⟩ := Option.isSome_iff_exists.mp h
  simp [compareCid, hh]

/-- One pass of the loop at a draw within the answer: skip an unchecked draw,
stop on a mismatch, go on after a match. -/
theorem scoreLoop_succ (res : ValidateResults) (cacheInfos : List (Int × String))
    (seed maxFid : Int) (n index : Nat) (hi : index < res.cids.length) :
    scoreLoop rng cidToHash res cacheInfos maxFid (n + 1) index
        (drawState rng seed maxFid index) =
      if blockCid cacheInfos (drawnFid rng seed maxFid index) ≠ "" ∧
          compareCid cidToHash (blockCid cacheInfos (drawnFid rng seed maxFid index))
            (res.cids.getD index "") = false
      then .ok (mismatchRow rng seed maxFid res cacheInfos (some index))
      else scoreLoop rng cidToHash res cacheInfos maxFid n (index + 1)
        (drawState rng seed maxFid (index + 1)) := by
  have hget : res.cids.getD index "" = res.cids[index] := by
    simp [List.getD_eq_getElem?_getD, List.getElem?_eq_getElem hi]
  simp only [scoreLoop, ← drawState_succ, drawnFid_def, List.getElem?_eq_getElem hi, hget]
  by_cases hcid : blockCid cacheInfos (drawnFid rng seed maxFid index) = ""
  · simp [hcid]
  · cases hcmp : compareCid cidToHash (blockCid cacheInfos (drawnFid rng seed maxFid index))
        res.cids[index] <;> simp [hcid, hcmp, mismatchRow, List.getElem?_eq_getElem hi]

/-- The loop, run from the generator after `index` draws and within the answer,
writes the row of the first checked draw from `index` on that mismatches. -/
theorem scoreLoop_eq_mismatchRow (res : ValidateResults) (cacheInfos : List (Int × String))
    (seed maxFid : Int) (n index : Nat) (hn : index + n ≤ res.cids.length) :
    scoreLoop rng cidToHash res cacheInfos maxFid n index (drawState rng seed maxFid index) =
      .ok (mismatchRow rng seed maxFid res cacheInfos
        (firstMismatch rng cidToHash seed maxFid cacheInfos res.cids (List.range' index n))) := by
  induction n generalizing index with
  | zero => rfl
  | succ n ih =>
    rw [scoreLoop_succ rng cidToHash res cacheInfos seed maxFid n index (by omega),
      List.range'_succ, firstMismatch_cons]
    split_ifs
    · rfl
    · exact ih (index + 1) (by omega)

/-- On an answer that is neither cancelled nor timed out, with `0 < RandomCount`
and at least as many cids as draws, a non-empty block map and the device's
`maxFid`, the handler's body is the scoring loop from the round seed. -/
theorem validateVerdict_eq_scoreLoop {seed : Int} {maxFidMap : String → Option Int}
    {res : ValidateResults} {cacheInfos : List (Int × String)} {maxFid : Int}
    (hcancel : res.isCancel = false) (htimeout : res.isTimeout = false)
    (hcount : 0 < res.randomCount) (hlen : res.randomCount ≤ res.cids.length)
    (hne : cacheInfos ≠ []) (hm : maxFidMap res.deviceID = some maxFid) :
    validateVerdict rng cidToHash seed maxFidMap res (.ok cacheInfos) =
      scoreLoop rng cidToHash res cacheInfos maxFid res.randomCount.toNat 0
        (drawState rng seed maxFid 0) := by
  have h₃ : ¬(res.cids.length ≤ 0 ∨ res.randomCount ≤ 0) := by omega
  have h₄ : ¬cacheInfos.length ≤ 0 := by simpa [List.length_eq_zero] using hne
  simp only [validateVerdict, hcancel, htimeout, Bool.false_eq_true, if_false, h₃, h₄, hm]
  rfl

/-- On a well-formed answer (not cancelled or timed out, `0 < RandomCount`, at
least as many cids as draws, a non-empty block map, the device's `maxFid`) the
handler never faults, and writes the fail row of the first checked draw the
answer mismatches, naming its index, fid and both cids, or the success row
when there is none. -/
theorem validateVerdict_eq_scoredRow (seed : Int) (maxFidMap : String → Option Int)
    (res : ValidateResults) (cacheInfos : List (Int × String)) (maxFid : Int)
    (hcancel : res.isCancel = false) (htimeout : res.isTimeout = false)
    (hcount : 0 < res.randomCount) (hlen : res.randomCount ≤ res.cids.length)
    (hne : cacheInfos ≠ []) (hm : maxFidMap res.deviceID = some maxFid) :
    validateVerdict rng cidToHash seed maxFidMap res (.ok cacheInfos) =
      .ok (scoredRow rng cidToHash seed maxFid res cacheInfos) := by
  rw [validateVerdict_eq_scoreLoop rng cidToHash hcancel htimeout hcount hlen hne hm,
    scoreLoop_eq_mismatchRow rng cidToHash res cacheInfos seed maxFid _ 0 (by omega),
    scoredRow, List.range_eq_range']

/-- The answer `cidX` against `cidB` at the drawn fid `1` fails at draw `0`. -/
theorem validateVerdict_eq_scoredRow_mismatch :
    validateVerdict seedRand some 0 (fun _ => some 1) ⟨0, "e1", ["cidX"], 1, false, false, 0, 0⟩
        (.ok [(1, "cidB")]) =
      .ok (scoredRow seedRand some 0 1 ⟨0, "e1", ["cidX"], 1, false, false, 0, 0⟩
        [(1, "cidB")]) ∧
    scoredRow seedRand some 0 1 ⟨0, "e1", ["cidX"], 1, false, false, 0, 0⟩ [(1, "cidB")] =
      failResult 0 "e1" (validateFailMsg "cidX" "cidB" 1 0) validateStatusFail :=
  ⟨validateVerdict_eq_scoredRow seedRand some 0 _ _ _ 1 rfl rfl (by decide) (by decide)
    (by decide) rfl, rfl⟩

/-- A node that answers, at every draw that hits a cid of its map, that very cid,
in a form that parses, gets the success row: the scoring accepts every honest
answer. -/
theorem validateVerdict_honest (seed : Int) (maxFidMap : String → Option Int)
    (res : ValidateResults) (cacheInfos : List (Int × String)) (maxFid : Int)
    (hcancel : res.isCancel = false) (htimeout : res.isTimeout = false)
    (hcount : 0 < res.randomCount) (hlen : res.randomCount ≤ res.cids.length)
    (hne : cacheInfos ≠ []) (hm : maxFidMap res.deviceID = some maxFid)
    (honest : ∀ i < res.randomCount.toNat,
      blockCid cacheInfos (drawnFid rng seed maxFid i) ≠ "" →
        res.cids.getD i "" = blockCid cacheInfos (drawnFid rng seed maxFid i) ∧
        (cidToHash (res.cids.getD i "")).isSome) :
    validateVerdict rng cidToHash seed maxFidMap res (.ok cacheInfos) = .ok (successResult res) := by
  have hnone : firstMismatch rng cidToHash seed maxFid cacheInfos res.cids
      (List.range' 0 res.randomCount.toNat) = none := by
    refine List.find?_eq_none.mpr fun i hi => ?_
    have hi : i < res.randomCount.toNat := by simpa [List.mem_range'_1] using hi
    by_cases hcid : blockCid cacheInfos (drawnFid rng seed maxFid i) = ""
    · simp [hcid]
    · obtain ⟨heq, hparse⟩ := honest i hi hcid
      rw [← heq, compareCid_self cidToHash hparse]
      simp
  rw [validateVerdict_eq_scoreLoop rng cidToHash hcancel htimeout hcount hlen hne hm,
    scoreLoop_eq_mismatchRow rng cidToHash res cacheInfos seed maxFid _ 0 (by omega), hnone]
  rfl

/-- A node whose one draw hits fid `1` and that answers the cid stored there. -/
theorem validateVerdict_honest_one_draw :
    validateVerdict seedRand some 0 (fun _ => some 1) ⟨0, "e1", ["cidB"], 1, false, false, 0, 0⟩
        (.ok [(1, "cidB")]) = .ok (successResult ⟨0, "e1", ["cidB"], 1, false, false, 0, 0⟩) :=
  validateVerdict_honest seedRand some 0 _ _ _ 1 rfl rfl (by decide) (by decide) (by decide) rfl
    (by decide)

end TitanScheduler.Validate
