import CrownClash.Go.Live2v2
import CrownClash.Lib.Json

/-!
# Server: the wire form of the 2v2 messages

What `json.Marshal` makes of the records and the ad-hoc maps that the 2v2 match
sends.  The fields of a record come in the order of its declaration, and those that
are `omitempty` are left out when they are zero.  A map is written with its keys
sorted, which no reader of fields can tell.
-/

namespace CrownClash.Go

open Lib

/-! ### Texts -/

def territoryTypeText : TerritoryType → String
  | .fortress => "fortress"
  | .barracks => "barracks"
  | .stable => "stable"

def statusText : MatchStatus → String
  | .playing => "playing"
  | .victory => "victory"
  | .defeat => "defeat"
  | .draw => "draw"

def teamIdText : TeamId → String
  | .a => "a"
  | .b => "b"

def Live2v2Rejection.text : Live2v2Rejection → String
  | .notInMatch => "not_in_match"
  | .invalidPayload => "invalid_payload"
  | .unknownMessage => "unknown_message"
  | .notStarted => "live_match_not_started"
  | .slotDisconnected => "slot_disconnected"
  | .invalidSequence => "invalid_sequence"
  | .tooManyActions => "too_many_actions"
  | .invalidSource => "invalid_source"
  | .invalidTarget => "invalid_target"
  | .invalidDispatch => "invalid_dispatch"

/-! ### Records -/

/-- A field that is left out when it is zero. -/
def omitEmpty (zero : Bool) (key : String) (value : Json) : List (String × Json) :=
  if zero then [] else [(key, value)]

def jsonRecord {α : Type} (value : α → Json) (r : Record String α) : Json :=
  .obj (r.entries.map fun e => (e.1, value e.2))

def jsonTerritory (t : Territory) : Json :=
  .obj [("id", .str t.id), ("name", .str t.name), ("x", .num t.x), ("y", .num t.y),
    ("radius", .num t.radius), ("owner", .str (roleText t.owner)), ("units", .ofInt t.units),
    ("maxUnits", .ofInt t.maxUnits), ("productionRate", .num t.productionRate),
    ("tier", .ofInt t.tier), ("type", .str (territoryTypeText t.type))]

def jsonArmy (a : MarchingArmy) : Json :=
  .obj (omitEmpty a.routeIds.isEmpty "routeIds" (.arr (a.routeIds.map .str)) ++
    omitEmpty (a.routeLeg = 0) "routeLeg" (.ofInt a.routeLeg) ++
    omitEmpty (a.routeSpeedMultiplier = 0) "routeSpeedMultiplier" (.num a.routeSpeedMultiplier) ++
    [("id", .str a.id), ("sourceId", .str a.sourceId), ("targetId", .str a.targetId),
      ("owner", .str (roleText a.owner)), ("units", .ofInt a.units), ("startX", .num a.startX),
      ("startY", .num a.startY), ("targetX", .num a.targetX), ("targetY", .num a.targetY),
      ("progress", .num a.progress), ("speed", .num a.speed), ("distance", .num a.distance)])

def jsonStats (s : MatchStats) : Json :=
  .obj [("matchDurationSeconds", .num s.matchDurationSeconds),
    ("playerUnitsDispatched", .ofInt s.playerUnitsDispatched),
    ("enemyUnitsDispatched", .ofInt s.enemyUnitsDispatched),
    ("territoriesCapturedByPlayer", .ofInt s.territoriesCapturedByPlayer),
    ("territoriesCapturedByEnemy", .ofInt s.territoriesCapturedByEnemy)]

def jsonGameState (s : GameState) : Json :=
  .obj (omitEmpty (s.battlefieldId = "") "battlefieldId" (.str s.battlefieldId) ++
    [("territories", jsonRecord jsonTerritory s.territories),
      ("armies", .arr (s.armies.map jsonArmy)), ("status", .str (statusText s.status)),
      ("elapsedTimeSeconds", .num s.elapsedTimeSeconds),
      ("timeLimitSeconds", .num s.timeLimitSeconds), ("stats", jsonStats s.stats)] ++
    omitEmpty (s.gameplayRulesVersion = 0) "gameplayRulesVersion"
      (.ofInt s.gameplayRulesVersion) ++
    omitEmpty s.productionReadyAtMs.entries.isEmpty "productionReadyAtMs"
      (jsonRecord .ofInt s.productionReadyAtMs) ++
    omitEmpty s.shieldedUntilMs.entries.isEmpty "shieldedUntilMs"
      (jsonRecord .ofInt s.shieldedUntilMs) ++
    omitEmpty (!s.playerAbilityUsed) "playerAbilityUsed" (.bool s.playerAbilityUsed) ++
    omitEmpty (!s.enemyAbilityUsed) "enemyAbilityUsed" (.bool s.enemyAbilityUsed))

def jsonCareer (c : PlayerCareer) : Json :=
  .obj [("playerId", .str c.playerId), ("coins", .ofInt c.coins), ("gems", .ofInt c.gems),
    ("trophies", .ofInt c.trophies), ("startingGarrisonLevel", .ofInt c.startingGarrisonLevel),
    ("productionLevel", .ofInt c.productionLevel), ("armySpeedLevel", .ofInt c.armySpeedLevel),
    ("treasuryLevel", .ofInt c.treasuryLevel),
    ("selectedCommanderId", .str c.selectedCommanderId),
    ("matchesPlayed", .ofInt c.matchesPlayed), ("matchesWon", .ofInt c.matchesWon),
    ("currentStreak", .ofInt c.currentStreak), ("bestStreak", .ofInt c.bestStreak),
    ("lastMatchTimestamp", .ofInt c.lastMatchTimestamp),
    ("tutorialCompleted", .bool c.tutorialCompleted)]

def jsonRank (r : Store.RankTierInfo) : Json :=
  .obj [("id", .str r.id), ("name", .str r.name), ("badge", .str r.badge),
    ("minTrophies", .ofInt r.minTrophies), ("maxTrophies", .ofInt r.maxTrophies),
    ("color", .ofInt r.color)]

def jsonBreakdown (b : Store.MatchRewardBreakdown) : Json :=
  .obj [("baseCoins", .ofInt b.baseCoins), ("speedBonus", .ofInt b.speedBonus),
    ("dominationBonus", .ofInt b.dominationBonus), ("streakBonus", .ofInt b.streakBonus),
    ("treasuryBonus", .ofInt b.treasuryBonus), ("totalCoins", .ofInt b.totalCoins),
    ("trophyDelta", .ofInt b.trophyDelta)]

def jsonLedgerEntry (e : Store.EconomyLedgerEntry) : Json :=
  .obj [("id", .str e.id), ("player", .str e.player), ("currency", .str e.currency.text),
    ("amount", .ofInt e.amount), ("reason", .str e.reason), ("source", .str e.source),
    ("previousBalance", .ofInt e.previousBalance),
    ("resultingBalance", .ofInt e.resultingBalance), ("timestamp", .ofInt e.timestamp)]

def jsonSettlement (s : Store.MatchSettlement) : Json :=
  .obj [("matchId", .str s.matchId), ("status", .str (statusText s.status)),
    ("breakdown", jsonBreakdown s.breakdown), ("stats", jsonStats s.stats),
    ("previousCareer", jsonCareer s.previousCareer), ("newCareer", jsonCareer s.newCareer),
    ("previousRank", jsonRank s.previousRank), ("newRank", jsonRank s.newRank),
    ("rankPromoted", .bool s.rankPromoted),
    ("ledgerEntries", .arr (s.ledgerEntries.map jsonLedgerEntry))]

/-! ### Messages -/

def jsonRosterEntry (e : RosterEntry) : Json :=
  .obj [("slot", .ofInt e.slot), ("teamId", .str (teamIdText e.teamId)), ("userId", .str e.userId),
    ("displayName", .str e.displayName)]

def jsonParticipant (p : TwoVTwoParticipantOutcome × Store.MatchSettlement) : Json :=
  .obj [("slot", .ofInt p.1.slot.val), ("teamId", .str (teamIdText p.1.teamId)),
    ("userId", .str p.1.userId), ("status", .str (statusText p.1.status)),
    ("stats", jsonStats p.1.stats), ("abandoned", .bool p.1.abandoned),
    ("settlement", jsonSettlement p.2)]

/-- Every payload has the schema version and its type in front. -/
def jsonMessage (type : String) (fields : List (String × Json)) : Json :=
  .obj (("schemaVersion", .ofInt matchSchemaVersion2) :: ("type", .str type) :: fields)

def Live2v2ServerMessage.opCode : Live2v2ServerMessage → ℤ
  | .matchStarted .. => 2
  | .state .. => 3
  | .commandAccepted .. => 5
  | .commandRejected .. => 6
  | .rematchStarted _ => 2
  | .matchResult .. => 7
  | .matchCancelled _ => 7
  | .matchClosed _ => 9
  | .settlementFailed => 8

/-- A match that nobody has won has an empty winner. -/
def Live2v2ServerMessage.json : Live2v2ServerMessage → Json
  | .matchStarted matchId slot teamId nextSequence players battle =>
    jsonMessage "match_started"
      [("matchId", .str matchId), ("mode", .str "2v2"), ("slot", .ofInt slot.val),
        ("teamId", .str (teamIdText teamId)), ("nextSequence", .ofInt nextSequence),
        ("players", .arr (players.map jsonRosterEntry)), ("state", jsonGameState battle)]
  | .state tick battle =>
    jsonMessage "state" [("tick", .ofInt tick), ("state", jsonGameState battle)]
  | .commandAccepted sequence slot =>
    jsonMessage "command_accepted" [("sequence", .ofInt sequence), ("slot", .ofInt slot.val)]
  | .commandRejected code sequence =>
    jsonMessage "command_rejected"
      [("code", .str code.text), ("sequence", .ofInt sequence), ("slot", .ofInt (-1))]
  | .rematchStarted matchId => jsonMessage "rematch_started" [("matchId", .str matchId)]
  | .matchResult matchId winnerTeamId participants =>
    jsonMessage "match_result"
      [("result", .obj [("matchId", .str matchId), ("mode", .str "2v2"),
        ("winnerTeamId", .str (winnerTeamId.elim "" teamIdText)),
        ("participants", .arr (participants.map jsonParticipant))])]
  | .matchCancelled matchId =>
    jsonMessage "match_result"
      [("result", .obj [("matchId", .str matchId), ("mode", .str "2v2"),
        ("outcome", .str "cancelled")])]
  | .matchClosed matchId => jsonMessage "match_closed" [("matchId", .str matchId)]
  | .settlementFailed => jsonMessage "error" [("code", .str "settlement_failed")]

end CrownClash.Go
