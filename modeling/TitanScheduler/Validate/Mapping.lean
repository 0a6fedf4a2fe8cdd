import TitanScheduler.Validate.Basic
import Mathlib.Data.List.Perm.Basic
import Mathlib.Data.List.Nodup

/-!
# Partition of the online nodes among the validators (validate.go:223-290)

`validateMapping` walks the node manager's `EdgeNodeMap`, then its
`CandidateNodeMap`, and appends each node to the list of a validator drawn by
`generatorForRandomNumber(0, len(validatorList))`; a candidate that draws
itself is dropped. The maps are the lists `Range` visits, the `k`-th draw
seeds the global source with the clock reading `now k`.

The main result, `validateMapping_plan`: for a non-empty validator list the
walk never panics, and the plan it builds keys validators only, holds every
edge once and every candidate at most once (absent exactly when it drew
itself), never under its own key, holds online nodes only, and is refused
exactly when it assigns nobody.
-/

namespace TitanScheduler.Validate

variable {σ : Type}

/-- `generatorForRandomNumber(start, end)` (validate.go:282-290); `now` is the
`time.Now().UnixNano()` that `rand.Seed` is given. -/
def generatorForRandomNumber (rng : Rand σ) (now : Int) (start «end» : Int) : Int :=
  let max := «end» - start
  if max ≤ 0 then start else start + (rng.intn (rng.newSource now) max).1

/-- Go's `s[i]` on a slice: the element, or the out-of-range panic. -/
def sliceIndex {α : Type} (s : List α) (i : Int) : Except Panic α :=
  if 0 ≤ i then
    match s[i.toNat]? with
    | some a => .ok a
    | none => .error .indexOutOfRange
  else .error .indexOutOfRange

/-- A validator's plan, `map[string][]tmpDeviceMeta`, as its list of entries. -/
abbrev Plan := List (String × List TmpDeviceMeta)

/-- `result[validatorID] = append(result[validatorID], tn)`, both branches of
validate.go:237-244: append to the validator's list, or add the validator
with the one-element list. -/
def appendTo (tn : TmpDeviceMeta) (validatorID : String) : Plan → Plan
  | [] => [(validatorID, [tn])]
  | (k, validated) :: rest =>
    if k = validatorID then (k, validated ++ [tn]) :: rest
    else (k, validated) :: appendTo tn validatorID rest

def edgeMeta (e : OnlineNode) : TmpDeviceMeta := ⟨e.deviceId, .nodeEdge, e.addr⟩
def candidateMeta (c : OnlineNode) : TmpDeviceMeta := ⟨c.deviceId, .nodeCandidate, c.addr⟩

section Mapping
variable (rng : Rand σ) (now : Nat → Int) (validatorList : List String)

/-- The `EdgeNodeMap.Range` callback (validate.go:228-247); `k` counts the draws. -/
def mappingEdges : Nat → List OnlineNode → Plan → Except Panic Plan
  | _, [], result => .ok result
  | k, e :: es, result => do
    let validatorID ← sliceIndex validatorList
      (generatorForRandomNumber rng (now k) 0 validatorList.length)
    mappingEdges (k + 1) es (appendTo (edgeMeta e) validatorID result)

/-- The `CandidateNodeMap.Range` callback (validate.go:251-273): a candidate
that draws itself is skipped. -/
def mappingCandidates : Nat → List OnlineNode → Plan → Except Panic Plan
  | _, [], result => .ok result
  | k, c :: cs, result => do
    let validatorID ← sliceIndex validatorList
      (generatorForRandomNumber rng (now k) 0 validatorList.length)
    if validatorID = c.deviceId then mappingCandidates (k + 1) cs result
    else mappingCandidates (k + 1) cs (appendTo (candidateMeta c) validatorID result)

/-- `validateMapping(validatorList)` (validate.go:224-280): the outer `Except`
is a runtime panic, the inner one the returned error. -/
def validateMapping (edges candidates : List OnlineNode) :
    Except Panic (Except String Plan) := do
  let result ← mappingEdges rng now validatorList 0 edges []
  let result ← mappingCandidates rng now validatorList edges.length candidates result
  if result.length = 0 then
    return .error "edge node and candidate node are empty"
  else
    return .ok result

/-- The validator the `k`-th draw picks. -/
def drawnValidator (k : Nat) : String :=
  validatorList.getD (generatorForRandomNumber rng (now k) 0 validatorList.length).toNat ""

/-- The candidates from the `k`-th draw on that do not draw themselves. -/
def keptCandidates : Nat → List OnlineNode → List TmpDeviceMeta
  | _, [] => []
  | k, c :: cs =>
    if drawnValidator rng now validatorList k = c.deviceId then keptCandidates (k + 1) cs
    else candidateMeta c :: keptCandidates (k + 1) cs

end Mapping

/-- Every device a plan assigns, across all validators' lists. -/
def assigned (P : Plan) : List TmpDeviceMeta := P.flatMap (·.2)

/-- What every plan built by the walk satisfies: validators only as keys, no
empty list, and no candidate under its own key. -/
structure PlanOk (validatorList : List String) (P : Plan) : Prop where
  keys_mem : ∀ e ∈ P, e.1 ∈ validatorList
  lists_ne : ∀ e ∈ P, e.2 ≠ []
  not_self : ∀ e ∈ P, ∀ t ∈ e.2, t.nodeType = .nodeCandidate → t.deviceId ≠ e.1

/-! ### The draw -/

theorem generatorForRandomNumber_mem (rng : Rand σ) (t : Int) {n : Nat} (hn : 0 < n) :
    0 ≤ generatorForRandomNumber rng t 0 n ∧ generatorForRandomNumber rng t 0 n < n := by
  have h := rng.intn_mem (rng.newSource t) (n - 0) (by omega)
  simp only [generatorForRandomNumber]
  split_ifs <;> omega

theorem sliceIndex_drawn (rng : Rand σ) (now : Nat → Int) {validatorList : List String}
    (hV : validatorList ≠ []) (k : Nat) :
    sliceIndex validatorList (generatorForRandomNumber rng (now k) 0 validatorList.length) =
      .ok (drawnValidator rng now validatorList k) := by
  obtain ⟨h0, hlt⟩ := generatorForRandomNumber_mem rng (now k) (List.length_pos.mpr hV)
  have hi : (generatorForRandomNumber rng (now k) 0 validatorList.length).toNat <
      validatorList.length := by omega
  simp only [sliceIndex, if_pos h0, drawnValidator, List.getElem?_eq_getElem hi,
    List.getD_eq_getElem?_getD, Option.getD_some]

theorem drawnValidator_mem (rng : Rand σ) (now : Nat → Int) {validatorList : List String}
    (hV : validatorList ≠ []) (k : Nat) :
    drawnValidator rng now validatorList k ∈ validatorList := by
  obtain ⟨h0, hlt⟩ := generatorForRandomNumber_mem rng (now k) (List.length_pos.mpr hV)
  have hi : (generatorForRandomNumber rng (now k) 0 validatorList.length).toNat <
      validatorList.length := by omega
  simp only [drawnValidator, List.getD_eq_getElem?_getD, List.getElem?_eq_getElem hi,
    Option.getD_some]
  exact List.getElem_mem hi

/-! ### One append -/

theorem assigned_appendTo (tn : TmpDeviceMeta) (v : String) (P : Plan) :
    (assigned (appendTo tn v P)).Perm (assigned P ++ [tn]) := by
  induction P with
  | nil => simp [appendTo, assigned]
  | cons e rest ih =>
    obtain ⟨k, l⟩ := e
    simp only [assigned, appendTo] at ih ⊢
    split_ifs
    · simpa only [List.flatMap_cons, List.append_assoc] using
        (@List.perm_append_comm _ [tn] _).append_left l
    · simpa only [List.flatMap_cons, List.append_assoc] using ih.append_left l

theorem mem_appendTo {tn : TmpDeviceMeta} {v : String} {P : Plan}
    {e : String × List TmpDeviceMeta} (he : e ∈ appendTo tn v P) :
    e ∈ P ∨ e.1 = v ∧ tn ∈ e.2 ∧ ∀ t ∈ e.2, t = tn ∨ ∃ l, (v, l) ∈ P ∧ t ∈ l := by
  induction P with
  | nil =>
    simp only [appendTo, List.mem_singleton] at he
    subst he
    simp
  | cons f rest ih =>
    obtain ⟨k, l⟩ := f
    simp only [appendTo] at he
    split_ifs at he with hk
    · rcases List.mem_cons.mp he with rfl | he
      · subst hk
        refine .inr ⟨rfl, by simp, fun t ht => ?_⟩
        rcases List.mem_append.mp ht with ht | ht
        · exact .inr ⟨l, List.mem_cons_self _ _, ht⟩
        · exact .inl (List.mem_singleton.mp ht)
      · exact .inl (List.mem_cons_of_mem _ he)
    · rcases List.mem_cons.mp he with rfl | he
      · exact .inl (List.mem_cons_self _ _)
      · rcases ih he with h | ⟨h1, h2, h3⟩
        · exact .inl (List.mem_cons_of_mem _ h)
        · refine .inr ⟨h1, h2, fun t ht => ?_⟩
          rcases h3 t ht with h | ⟨l', hl', ht'⟩
          · exact .inl h
          · exact .inr ⟨l', List.mem_cons_of_mem _ hl', ht'⟩

theorem PlanOk.appendTo {V : List String} {P : Plan} (h : PlanOk V P) (tn : TmpDeviceMeta)
    {v : String} (hv : v ∈ V) (hself : tn.nodeType = .nodeCandidate → tn.deviceId ≠ v) :
    PlanOk V (appendTo tn v P) where
  keys_mem e he := by
    rcases mem_appendTo he with he | ⟨rfl, -⟩
    exacts [h.keys_mem e he, hv]
  lists_ne e he := by
    rcases mem_appendTo he with he | ⟨-, ht, -⟩
    exacts [h.lists_ne e he, List.ne_nil_of_mem ht]
  not_self e he t ht hc := by
    rcases mem_appendTo he with he | ⟨rfl, -, h2⟩
    · exact h.not_self e he t ht hc
    · rcases h2 t ht with rfl | ⟨l, hl, ht'⟩
      exacts [hself hc, h.not_self _ hl t ht' hc]

theorem PlanOk.nil (V : List String) : PlanOk V [] := ⟨by simp, by simp, by simp⟩

theorem PlanOk.length_eq_zero {V : List String} {P : Plan} (h : PlanOk V P) :
    P.length = 0 ↔ assigned P = [] := by
  constructor
  · intro hl
    simp [List.length_eq_zero.mp hl, assigned]
  · intro ha
    cases P with
    | nil => rfl
    | cons e rest =>
      have : e.2 = [] := by simp_all [assigned]
      exact absurd this (h.lists_ne e (List.mem_cons_self _ _))

/-! ### The two walks -/

section Walks
variable (rng : Rand σ) (now : Nat → Int) {validatorList : List String}

theorem mappingEdges_ok (hV : validatorList ≠ []) (k : Nat) (es : List OnlineNode) (P : Plan)
    (hP : PlanOk validatorList P) :
    ∃ P', mappingEdges rng now validatorList k es P = .ok P' ∧ PlanOk validatorList P' ∧
      (assigned P').Perm (assigned P ++ es.map edgeMeta) := by
  induction es generalizing k P with
  | nil => exact ⟨P, rfl, hP, by simp⟩
  | cons e es ih =>
    obtain ⟨P', h, hok, hperm⟩ := ih (k + 1) _
      (hP.appendTo (edgeMeta e) (drawnValidator_mem rng now hV k) (by simp [edgeMeta]))
    refine ⟨P', by simpa only [mappingEdges, sliceIndex_drawn rng now hV k, ok_bind] using h,
      hok, ?_⟩
    refine hperm.trans ?_
    simpa only [List.map_cons, List.append_assoc, List.singleton_append] using
      (assigned_appendTo (edgeMeta e) _ P).append_right (es.map edgeMeta)

theorem mappingCandidates_ok (hV : validatorList ≠ []) (k : Nat) (cs : List OnlineNode) (P : Plan)
    (hP : PlanOk validatorList P) :
    ∃ P', mappingCandidates rng now validatorList k cs P = .ok P' ∧ PlanOk validatorList P' ∧
      (assigned P').Perm (assigned P ++ keptCandidates rng now validatorList k cs) := by
  induction cs generalizing k P with
  | nil => exact ⟨P, rfl, hP, by simp [keptCandidates]⟩
  | cons c cs ih =>
    by_cases hd : drawnValidator rng now validatorList k = c.deviceId
    · obtain ⟨P', h, hok, hperm⟩ := ih (k + 1) P hP
      exact ⟨P', by
        simpa only [mappingCandidates, sliceIndex_drawn rng now hV k, ok_bind, hd] using h,
        hok, by simpa only [keptCandidates, hd] using hperm⟩
    · obtain ⟨P', h, hok, hperm⟩ := ih (k + 1) _
        (hP.appendTo (candidateMeta c) (drawnValidator_mem rng now hV k)
          (fun _ h => hd h.symm))
      refine ⟨P', by
        simpa only [mappingCandidates, sliceIndex_drawn rng now hV k, ok_bind, hd] using h,
        hok, hperm.trans ?_⟩
      simpa only [keptCandidates, hd, List.append_assoc, List.singleton_append] using
        (assigned_appendTo (candidateMeta c) _ P).append_right _

end Walks

/-! ### The candidates kept -/

theorem keptCandidates_sublist (rng : Rand σ) (now : Nat → Int) (V : List String) (k : Nat)
    (cs : List OnlineNode) : (keptCandidates rng now V k cs).Sublist (cs.map candidateMeta) := by
  induction cs generalizing k with
  | nil => exact List.Sublist.slnil
  | cons c cs ih =>
    simp only [keptCandidates, List.map_cons]
    split_ifs
    exacts [(ih (k + 1)).cons _, (ih (k + 1)).cons₂ _]

/-- A candidate is kept once, unless its own draw picked it. -/
theorem count_keptCandidates (rng : Rand σ) (now : Nat → Int) (V : List String) (k : Nat)
    (cs : List OnlineNode) (hnd : (cs.map OnlineNode.deviceId).Nodup) (j : Nat) (c : OnlineNode)
    (hc : cs[j]? = some c) :
    ((keptCandidates rng now V k cs).map TmpDeviceMeta.deviceId).count c.deviceId =
      if drawnValidator rng now V (k + j) = c.deviceId then 0 else 1 := by
  have ids (k : Nat) (cs : List OnlineNode) :
      ((keptCandidates rng now V k cs).map TmpDeviceMeta.deviceId).Sublist
        (cs.map OnlineNode.deviceId) := by
    simpa only [List.map_map] using
      (keptCandidates_sublist rng now V k cs).map TmpDeviceMeta.deviceId
  induction cs generalizing k j with
  | nil => simp at hc
  | cons c' cs ih =>
    rw [List.map_cons, List.nodup_cons] at hnd
    cases j with
    | zero =>
      obtain rfl : c' = c := by simpa using hc
      have h0 : ((keptCandidates rng now V (k + 1) cs).map TmpDeviceMeta.deviceId).count
          c'.deviceId = 0 := List.count_eq_zero.mpr fun h => hnd.1 ((ids _ _).subset h)
      simp only [keptCandidates, Nat.add_zero]
      split_ifs <;> simp [h0, candidateMeta]
    | succ j =>
      have hcs : cs[j]? = some c := by simpa using hc
      have hne : c'.deviceId ≠ c.deviceId := fun h =>
        hnd.1 (h ▸ List.mem_map_of_mem _ (List.getElem?_mem hcs))
      have hrest := ih (k + 1) hnd.2 j hcs
      rw [show k + 1 + j = k + (j + 1) by omega] at hrest
      by_cases hk : drawnValidator rng now V k = c'.deviceId
      · simpa only [keptCandidates, hk, if_true] using hrest
      · simpa [keptCandidates, hk, candidateMeta, List.count_cons_of_ne (Ne.symm hne)] using hrest

/-! ### The plan -/

/-- What `validateMapping` is to produce on the node maps `edges`, `candidates`:
the plan `P` it builds (returned, or refused when it assigns nobody), keyed by
validators only, holding every edge once and every candidate at most once
(absent exactly when the draw for it picked itself), no candidate under its own
key, and online nodes only. -/
structure MappingSound (rng : Rand σ) (now : Nat → Int) (validatorList : List String)
    (edges candidates : List OnlineNode) (P : Plan) : Prop where
  result : validateMapping rng now validatorList edges candidates =
    .ok (if assigned P = [] then .error "edge node and candidate node are empty" else .ok P)
  keys_mem : ∀ e ∈ P, e.1 ∈ validatorList
  edges_once : ∀ e ∈ edges, ((assigned P).map TmpDeviceMeta.deviceId).count e.deviceId = 1
  candidates_kept : ∀ j c, candidates[j]? = some c →
    ((assigned P).map TmpDeviceMeta.deviceId).count c.deviceId =
      if drawnValidator rng now validatorList (edges.length + j) = c.deviceId then 0 else 1
  not_self : ∀ e ∈ P, ∀ t ∈ e.2, t.nodeType = .nodeCandidate → t.deviceId ≠ e.1
  online : ∀ t ∈ assigned P, t ∈ edges.map edgeMeta ∨ t ∈ candidates.map candidateMeta

/-- On a non-empty validator list `validateMapping` never panics: it builds a plan
holding every edge and the candidates kept, in some order. -/
theorem validateMapping_perm (rng : Rand σ) (now : Nat → Int) {validatorList : List String}
    (edges candidates : List OnlineNode) (hV : validatorList ≠ []) :
    ∃ P, validateMapping rng now validatorList edges candidates =
      .ok (if assigned P = [] then .error "edge node and candidate node are empty" else .ok P) ∧
      PlanOk validatorList P ∧
      (assigned P).Perm (edges.map edgeMeta ++
        keptCandidates rng now validatorList edges.length candidates) := by
  obtain ⟨P₁, h₁, hok₁, hp₁⟩ := mappingEdges_ok rng now hV 0 edges [] (PlanOk.nil _)
  obtain ⟨P, h₂, hok, hp₂⟩ :=
    mappingCandidates_ok rng now hV edges.length candidates P₁ hok₁
  refine ⟨P, ?_, hok, hp₂.trans (by simpa [assigned] using hp₁.append_right _)⟩
  simp only [validateMapping, h₁, h₂, ok_bind, hok.length_eq_zero]
  split_ifs <;> rfl

theorem map_deviceId_edgeMeta (edges : List OnlineNode) :
    (edges.map edgeMeta).map TmpDeviceMeta.deviceId = edges.map OnlineNode.deviceId := by
  simp [Function.comp_def, edgeMeta]

theorem map_deviceId_candidateMeta (candidates : List OnlineNode) :
    (candidates.map candidateMeta).map TmpDeviceMeta.deviceId =
      candidates.map OnlineNode.deviceId := by
  simp [Function.comp_def, candidateMeta]

/-- On node maps with distinct ids, a plan assigns each device at most once. -/
theorem validateMapping_nodup (rng : Rand σ) (now : Nat → Int) {validatorList : List String}
    {edges candidates : List OnlineNode} {P : Plan} (hV : validatorList ≠ [])
    (hids : ((edges ++ candidates).map OnlineNode.deviceId).Nodup)
    (h : validateMapping rng now validatorList edges candidates = .ok (.ok P)) :
    ((assigned P).map TmpDeviceMeta.deviceId).Nodup := by
  obtain ⟨P', hres, -, hperm⟩ := validateMapping_perm rng now edges candidates hV
  rw [hres] at h
  split_ifs at h
  · cases h
  obtain rfl := Except.ok.inj (Except.ok.inj h)
  have hkept := (keptCandidates_sublist rng now validatorList edges.length candidates).map
    TmpDeviceMeta.deviceId
  rw [map_deviceId_candidateMeta] at hkept
  refine (hperm.map _).nodup_iff.mpr (List.Sublist.nodup ?_ hids)
  rw [List.map_append, List.map_append, map_deviceId_edgeMeta]
  exact hkept.append_left _

/-- On a non-empty validator list (execute's guard, validate.go:182) and node
maps with distinct device ids, `validateMapping` never panics and its plan is
sound. -/
theorem validateMapping_plan (rng : Rand σ) (now : Nat → Int) (validatorList : List String)
    (edges candidates : List OnlineNode) (hV : validatorList ≠ [])
    (hids : ((edges ++ candidates).map OnlineNode.deviceId).Nodup) :
    ∃ P, MappingSound rng now validatorList edges candidates P := by
  obtain ⟨P, hres, hok, hperm⟩ := validateMapping_perm rng now edges candidates hV
  have hids' := hperm.map TmpDeviceMeta.deviceId
  have hkept := (keptCandidates_sublist rng now validatorList edges.length candidates).map
    TmpDeviceMeta.deviceId
  rw [List.map_append, List.nodup_append] at hids
  rw [map_deviceId_candidateMeta] at hkept
  refine ⟨P, ⟨hres, hok.keys_mem, fun e he => ?_, fun j c hc => ?_, hok.not_self, fun t ht => ?_⟩⟩
  · have hc0 : ((keptCandidates rng now validatorList edges.length candidates).map
        TmpDeviceMeta.deviceId).count e.deviceId = 0 :=
      List.count_eq_zero.mpr fun h =>
        hids.2.2 (List.mem_map_of_mem _ he) (hkept.subset h)
    rw [hids'.count_eq, List.map_append, List.count_append, hc0, map_deviceId_edgeMeta,
      List.count_eq_one_of_mem hids.1 (List.mem_map_of_mem _ he)]
  · have he0 : (edges.map OnlineNode.deviceId).count c.deviceId = 0 :=
      List.count_eq_zero.mpr fun h =>
        hids.2.2 h (List.mem_map_of_mem _ (List.getElem?_mem hc))
    rw [hids'.count_eq, List.map_append, List.count_append, map_deviceId_edgeMeta, he0,
      Nat.zero_add]
    exact count_keptCandidates rng now validatorList _ candidates hids.2.1 j c hc
  · rcases List.mem_append.mp (hperm.subset ht) with h | h
    exacts [.inl h, .inr ((keptCandidates_sublist rng now validatorList _ candidates).subset h)]

theorem validateMapping_plan_two_edges :
    ["c1"] ≠ [] ∧ (([⟨"e1", "a1"⟩, ⟨"e2", "a2"⟩] ++ [⟨"c1", "a3"⟩] : List OnlineNode).map
      OnlineNode.deviceId).Nodup ∧
    ∃ P, MappingSound seedRand (fun _ => 0) ["c1"] [⟨"e1", "a1"⟩, ⟨"e2", "a2"⟩] [⟨"c1", "a3"⟩] P :=
  ⟨by decide, by decide,
    validateMapping_plan seedRand (fun _ => 0) ["c1"] _ _ (by decide) (by decide)⟩

end TitanScheduler.Validate
