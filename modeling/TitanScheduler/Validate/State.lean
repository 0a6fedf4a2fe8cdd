import TitanScheduler.Validate.Basic
import Mathlib.Logic.Function.Basic

/-!
# The engine's state and the store calls it makes

One record for the `Validate` struct (validate.go:37-72) and the store contents
the engine reads and writes: the round-id counter and the verifying set of the
ephemeral store (`cache.GetDB()`), and the `validate_result` rows of the
persistent store (`persistent.GetDB()`), the rows `InsertValidateResultInfo`
inserted and the terminal updates `UpdateFailValidateResultInfo` and
`UpdateSuccessValidateResultInfo` applied, in order. The crontab is its running
flag and the number of `StartValidateOnceTask` goroutines still sleeping before
they restart it; `tasks` are the dispatch goroutines `execute` started that have
not run yet.

Two fields record history only: `dispatched`, every `(round, device)` that got
a `ReqValidate`, and `clearedIn`, the round whose `execute` last emptied the
verifying set.
-/

namespace TitanScheduler.Validate

/-- The validation engine and the store contents it reads and writes. -/
structure Engine where
  seed : Int
  preRoundId : Int
  curRoundId : Int
  duration : Int
  maxFidMap : String → Option Int
  validateState : ValidateState
  enable : Bool
  cronRunning : Bool
  cronRestarts : Nat
  tasks : List (String × List TmpDeviceMeta)
  roundId : Int
  verifying : List String
  results : List ValidateResult
  updates : List ValidateResult
  dispatched : List (Int × String)
  clearedIn : Option Int

/-- `NewValidate(manager, enable)` (validate.go:74-90) over a fresh store;
`initValidateTask` starts the crontab. -/
def newValidate (enable : Bool) : Engine where
  seed := 0
  preRoundId := 0
  curRoundId := 0
  duration := 10
  maxFidMap := fun _ => none
  validateState := .validationNotStarted
  enable := enable
  cronRunning := true
  cronRestarts := 0
  tasks := []
  roundId := 0
  verifying := []
  results := []
  updates := []
  dispatched := []
  clearedIn := none

namespace Engine

/-! ### Store calls -/

/-- `maxFidMap.Store(deviceID, maxFid)`. -/
def storeMaxFid (s : Engine) (deviceID : String) (maxFid : Int) : Engine :=
  { s with maxFidMap := Function.update s.maxFidMap deviceID (some maxFid) }

/-- `SetNodeToVerifyingList(deviceID)`: add to the verifying set. -/
def setNodeToVerifyingList (s : Engine) (deviceID : String) : Engine :=
  { s with verifying := s.verifying.insert deviceID }

/-- `RemoveNodeWithVerifyingList(deviceID)`. -/
def removeNodeWithVerifyingList (s : Engine) (deviceID : String) : Engine :=
  { s with verifying := s.verifying.erase deviceID }

/-- `RemoveVerifyingList()`, by the `execute` of the current round. -/
def removeVerifyingList (s : Engine) : Engine :=
  { s with verifying := [], clearedIn := some s.curRoundId }

/-- `InsertValidateResultInfo(row)`. -/
def insertValidateResultInfo (s : Engine) (row : ValidateResult) : Engine :=
  { s with results := s.results ++ [row] }

/-- An applied `UpdateFailValidateResultInfo` or `UpdateSuccessValidateResultInfo`. -/
def updateValidateResultInfo (s : Engine) (row : ValidateResult) : Engine :=
  { s with updates := s.updates ++ [row] }

/-- The timeout writes of `checkValidateTimeOut` (validate.go:154-162): each
device still verifying is failed for the previous round, as far as its write
succeeds. -/
def timeOut (s : Engine) (ok : String → Bool) : Engine :=
  { s with updates := s.updates ++ (s.verifying.filter ok).map fun d =>
      failResult s.preRoundId d errMsgTimeOut .validateStatusTimeOut }

/-- Modelled from the spec: `GetPreviousAndCurrentRoundId()` of the ephemeral
store, which is not under src/ ("Read and increment the round id from B,
obtaining (previous_round_id, current_round_id)"). -/
def getPreviousAndCurrentRoundId (s : Engine) : Int × Int × Engine :=
  (s.roundId, s.roundId + 1, { s with roundId := s.roundId + 1 })

end Engine

end TitanScheduler.Validate
