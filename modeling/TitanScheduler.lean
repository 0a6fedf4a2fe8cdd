import TitanScheduler.Validate.Basic
import TitanScheduler.Validate.Mapping
import TitanScheduler.Validate.State
import TitanScheduler.Validate.Assembly
import TitanScheduler.Validate.Scoring
import TitanScheduler.Validate.Engine
import TitanScheduler.Validate.Rounds
import TitanScheduler.Validate.Results
import TitanScheduler.Validate.Safety
import TitanScheduler.Validate.Protocol
import TitanScheduler.Validate.ResultQueue
