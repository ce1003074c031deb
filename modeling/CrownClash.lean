import CrownClash.Parity.BotBattle
import CrownClash.Parity.Simulate2v2
import CrownClash.Parity.LaneReplay
import CrownClash.Parity.LaneElimination
import CrownClash.Go.Live
import CrownClash.Go.LiveSeats
import CrownClash.Go.Live2v2
import CrownClash.Go.Live2v2Run
import CrownClash.Go.Live2v2Captures
import CrownClash.Go.Live2v2Lobby
import CrownClash.Go.Live2v2Log
import CrownClash.Go.Live2v2Authority
import CrownClash.Go.Live2v2Start
import CrownClash.Go.Live2v2Forfeit
import CrownClash.Parity.Live2v2Wire
import CrownClash.Ts.LiveReconnect
import CrownClash.Ts.LiveMatchView
import CrownClash.Ts.LaneScene
import CrownClash.Go.LiveForfeit
import CrownClash.Store.Settle2v2Atomic
import CrownClash.Store.Ledger
import CrownClash.Ts.LiveMatchClient
import CrownClash.Parity.Live2v2Cancel
import CrownClash.Parity.LaneLive
import CrownClash.Lib.Numbered
import CrownClash.Go.LiveOrders
import CrownClash.Parity.LiveOrders
import CrownClash.Parity.Live2v2Orders
import CrownClash.Go.BattleRun
import CrownClash.Go.Perspective
import CrownClash.Go.Conservation
import CrownClash.Ts.Progression
import CrownClash.Parity.Progression
import CrownClash.Store.Careers
import CrownClash.Lib.Transactions
import CrownClash.Store.Rewards
import CrownClash.Store.RewardsOnce
import CrownClash.Store.RewardsRun
import CrownClash.Lib.Programs
import CrownClash.Store.Coins
import CrownClash.Store.CoinsRun
import CrownClash.Store.Realm
import CrownClash.Store.RealmRun
import CrownClash.Store.Answers
import CrownClash.Store.Retries
import CrownClash.Ts.CareerManager
import CrownClash.Lib.Bytes
import CrownClash.Lib.JsonText
import CrownClash.Go.Auth
import CrownClash.Go.AuthIdentity
import CrownClash.Lib.Oracle
import CrownClash.Go.Live2v2Settle
import CrownClash.Go.Live2v2Rematch
import CrownClash.Lib.CheapestPath
import CrownClash.Go.Routes
import CrownClash.Ts.Routes
import CrownClash.Parity.Routes
import CrownClash.Go.March
import CrownClash.Parity.March
import CrownClash.Go.BotLegal
import CrownClash.Go.Combat
import CrownClash.Go.BotDecided
import CrownClash.Go.LaneTowers
import CrownClash.Parity.LaneInvariants
import CrownClash.MapRules
import CrownClash.Go.Validation
import CrownClash.Ts.Validation
import CrownClash.Parity.Validation
import CrownClash.Go.IdleBattle
import CrownClash.Go.Live2v2Replay
import CrownClash.Lib.Carry
import CrownClash.Ts.Clock
import CrownClash.Parity.Production
import CrownClash.Ts.AnalyticsSink
import CrownClash.Go.Analytics
import CrownClash.Parity.AnalyticsQueue
import CrownClash.Go.DisplayName
import CrownClash.Lib.Utf8
import CrownClash.Lib.Pattern
import CrownClash.Lib.Utf16
import CrownClash.Ts.ClientErrors
import CrownClash.Go.ClientErrors
import CrownClash.Parity.ErrorSource
import CrownClash.Ts.ErrorWords
import CrownClash.Parity.ClientErrors
import CrownClash.Ts.OrderPreview
import CrownClash.Go.Approach
import CrownClash.Parity.OrderPreview
import CrownClash.Parity.BotTurns
import CrownClash.Ts.BotScene
import CrownClash.Ts.ArmyNames
import CrownClash.Parity.TickedReplay
import CrownClash.Parity.SceneTicks
import CrownClash.Parity.SceneRecord
import CrownClash.Parity.BotScene
import CrownClash.Parity.SceneClock
import CrownClash.Store.BotMatches
import CrownClash.Ts.Launch
import CrownClash.Parity.SavedBattle
import CrownClash.Store.TicketsRun
import CrownClash.Parity.BotSettlement
