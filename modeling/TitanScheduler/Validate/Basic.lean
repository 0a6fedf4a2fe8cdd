import Mathlib.Data.List.Basic

/-!
# Data of the validation engine (node/scheduler/validate/validate.go)

The values the validation engine reads and writes: its round state
(`validateState`, validate.go:28-33), the per-target record `tmpDeviceMeta`
(validate.go:217-221), the challenge `api.ReqValidate` it sends
(validate.go:317-324), the callback `api.ValidateResults` it scores and the
`persistent.ValidateResult` rows it inserts and updates (validate.go:332-373).
The declarations of the `api` and `persistent` types are not under src/; their
fields are the ones validate.go reads and fills in. Times (`StartTime`,
`EndTime`) are left out.

Go's `math/rand` and `helper.CIDString2HashString` are library code the engine
calls; they enter as the parameters `Rand` and `cidToHash`.
-/

namespace TitanScheduler.Validate

/-- `validateState` (validate.go:28-33). -/
inductive ValidateState where
  | validationNotStarted
  | validationStarting
  deriving Repr, DecidableEq

/-- The two `api.NodeType` values the engine assigns. -/
inductive NodeType where
  | nodeEdge
  | nodeCandidate
  deriving Repr, DecidableEq

/-- `persistent.ValidateStatus`, the statuses validate.go writes. -/
inductive ValidateStatus where
  | validateStatusCreate
  | validateStatusSuccess
  | validateStatusFail
  | validateStatusTimeOut
  | validateStatusCancel
  | validateStatusOther
  deriving Repr, DecidableEq

open ValidateStatus

def errMsgTimeOut : String := "time out"
def errMsgCancel : String := "verification canceled due to download"

/-- `tmpDeviceMeta` (validate.go:217-221). -/
structure TmpDeviceMeta where
  deviceId : String
  nodeType : NodeType
  addr : String
  deriving Repr, DecidableEq

/-- An online node as `validateMapping` reads it from the node manager's
`EdgeNodeMap` or `CandidateNodeMap`: its `DeviceId` and `Node.GetAddress()`. -/
structure OnlineNode where
  deviceId : String
  addr : String
  deriving Repr, DecidableEq

/-- `api.ReqValidate`, as validate.go:317-324 fills it in. -/
structure ReqValidate where
  seed : Int
  nodeURL : String
  duration : Int
  roundID : Int
  nodeType : NodeType
  maxFid : Int
  deriving Repr, DecidableEq

/-- `api.ValidateResults`, the fields `handleValidateResult` reads. `Bandwidth`
and `CostTime` are only copied into the row. -/
structure ValidateResults where
  roundID : Int
  deviceID : String
  cids : List String
  randomCount : Int
  isCancel : Bool
  isTimeout : Bool
  bandwidth : Int
  costTime : Int
  deriving Repr, DecidableEq

/-- `persistent.ValidateResult`, the fields the engine fills in. -/
structure ValidateResult where
  roundID : Int
  deviceID : String
  validatorID : String
  blockNumber : Int
  msg : String
  status : ValidateStatus
  bandwidth : Int
  duration : Int
  deriving Repr, DecidableEq

/-- The `(round, device)` key of a `validate_result` row. -/
def ValidateResult.key (r : ValidateResult) : Int × String := (r.roundID, r.deviceID)

/-- The row `InsertValidateResultInfo` gets (validate.go:332-338). -/
def createdResult (roundID : Int) (deviceID validatorID : String) : ValidateResult :=
  ⟨roundID, deviceID, validatorID, 0, "", validateStatusCreate, 0, 0⟩

/-- The update `UpdateFailValidateResult` sends (validate.go:358-361). -/
def failResult (roundId : Int) (deviceID msg : String) (status : ValidateStatus) :
    ValidateResult :=
  ⟨roundId, deviceID, "", 0, msg, status, 0, 0⟩

/-- The update `UpdateSuccessValidateResult` sends (validate.go:363-375). -/
def successResult (res : ValidateResults) : ValidateResult :=
  ⟨res.roundID, res.deviceID, "", res.cids.length, "ok", validateStatusSuccess,
    res.bandwidth, res.costTime⟩

@[simp] theorem createdResult_key (r : Int) (d v : String) :
    (createdResult r d v).key = (r, d) := rfl
@[simp] theorem failResult_key (r : Int) (d m : String) (st : ValidateStatus) :
    (failResult r d m st).key = (r, d) := rfl
@[simp] theorem successResult_key (res : ValidateResults) :
    (successResult res).key = (res.roundID, res.deviceID) := rfl

/-- The `math/rand` generator: `rand.New(rand.NewSource(seed))` (and the global
source after `rand.Seed(seed)`) and `Intn`, of which only its contract is
fixed: for `0 < n` a value in `[0, n)`, and the next generator state. -/
structure Rand (σ : Type) where
  newSource : Int → σ
  intn : σ → Int → Int × σ
  intn_mem : ∀ s n, 0 < n → 0 ≤ (intn s n).1 ∧ (intn s n).1 < n

/-- A generator for concrete runs: the seed reduced into range, then the next seed. -/
def seedRand : Rand Int where
  newSource s := s
  intn s n := (s % n, s + 1)
  intn_mem s n hn := ⟨Int.emod_nonneg s (by omega), Int.emod_lt_of_pos s hn⟩

@[simp] theorem ok_bind {ε α β : Type} (a : α) (f : α → Except ε β) :
    (Except.ok a >>= f) = f a := rfl
@[simp] theorem pure_except {ε α : Type} (a : α) : (pure a : Except ε α) = .ok a := rfl
@[simp] theorem error_bind {ε α β : Type} (e : ε) (f : α → Except ε β) :
    (Except.error e >>= f) = .error e := rfl

/-- The Go runtime panics the engine can hit. -/
inductive Panic where
  | indexOutOfRange
  | nilErrorDereference
  | failedTypeAssertion
  deriving Repr, DecidableEq

end TitanScheduler.Validate
