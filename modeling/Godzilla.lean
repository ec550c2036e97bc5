import Godzilla.Alphas.BetaOrder
import Godzilla.Alphas.BreakoutEmission
import Godzilla.Alphas.BreakoutModels
import Godzilla.Alphas.CrossSectionalMomentum
import Godzilla.Alphas.MomentumMirror
import Godzilla.Alphas.MomentumModels
import Godzilla.Alphas.MomentumScores
import Godzilla.Alphas.MomentumSelection
import Godzilla.Alphas.PairsAttention
import Godzilla.Alphas.PairsLeastSquares
import Godzilla.Alphas.PairsSlots
import Godzilla.Alphas.RankLaws
import Godzilla.Alphas.Ranking
import Godzilla.Alphas.RelativeValueBeta
import Godzilla.Alphas.RelativeValueExposure
import Godzilla.Alphas.RelativeValueInventory
import Godzilla.Alphas.RelativeValueReturns
import Godzilla.Alphas.RelativeValueModels
import Godzilla.Alphas.RelativeValueWire
import Godzilla.Alphas.SignalWire
import Godzilla.Alphas.VwapMirror
import Godzilla.Alphas.VwapModels
import Godzilla.Alphas.VwapReturns
import Godzilla.App.Shutdown
import Godzilla.Compliance.LocalDates
import Godzilla.Config.ConfigHash
import Godzilla.Config.Loader
import Godzilla.Core.Events.DispatchSafety
import Godzilla.Core.Events.Identity
import Godzilla.Core.Events.ReplayOrder
import Godzilla.Core.Events.RoundTrip
import Godzilla.Core.Events.Wire
import Godzilla.Core.Float
import Godzilla.Core.Health
import Godzilla.Core.LogSecrets
import Godzilla.Core.Platform
import Godzilla.Core.Scalars
import Godzilla.Ensemble.HealthCausality
import Godzilla.Ensemble.HealthDrawdown
import Godzilla.Ensemble.HealthPace
import Godzilla.Ensemble.Rearrangement
import Godzilla.Ensemble.Resolution
import Godzilla.Features.Baseline
import Godzilla.Features.Causality
import Godzilla.Features.Engine
import Godzilla.Features.Models
import Godzilla.Features.Names
import Godzilla.Features.Series
import Godzilla.Features.Session
import Godzilla.Features.Swings
import Godzilla.Features.VwapReversion
import Godzilla.MarketData.AggregationOrder
import Godzilla.MarketData.AggregationReady
import Godzilla.MarketData.Calendar
import Godzilla.MarketData.CalendarReads
import Godzilla.MarketData.FreshnessRuns
import Godzilla.MarketData.Instruments
import Godzilla.MarketData.Models
import Godzilla.MarketData.NoRepaint
import Godzilla.MarketData.NseCalendar
import Godzilla.MarketData.ReconnectRuns
import Godzilla.MarketData.Replay
import Godzilla.MarketData.WindowHealth
import Godzilla.MarketData.Wire
import Godzilla.MarketState.Confirmation
import Godzilla.MarketState.Degradation
import Godzilla.MarketState.Mirror
import Godzilla.MarketState.Models
import Godzilla.MarketState.Readings
import Godzilla.MarketState.Recovery
import Godzilla.MarketState.Rules
import Godzilla.MarketState.Wire
import Godzilla.Misc.Codec
import Godzilla.Misc.Dict
import Godzilla.Misc.FrozenSet
import Godzilla.Misc.Greedy
import Godzilla.Misc.HashChain
import Godzilla.Misc.Json
import Godzilla.Misc.JsonCode
import Godzilla.Misc.JsonText
import Godzilla.Misc.Latest
import Godzilla.Misc.Related
import Godzilla.Misc.Sorted
import Godzilla.Misc.TieGroups
import Godzilla.Misc.Transition
import Godzilla.Portfolio.Completeness
import Godzilla.Portfolio.FailClosed
import Godzilla.Portfolio.Identity
import Godzilla.Portfolio.Permissions
import Godzilla.Portfolio.Rearrangement
import Godzilla.Portfolio.SessionGates
import Godzilla.Portfolio.Wire
import Godzilla.Storage.AuditLog
import Godzilla.Storage.Integrity
import Godzilla.Storage.Masters
import Godzilla.Storage.Publishing
import Godzilla.Storage.Redelivery
import Godzilla.Universe.Builder
import Godzilla.Universe.Generation
import Godzilla.Universe.Reproducible
