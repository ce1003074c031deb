import CrownClash.Store.Realm

/-!
# Store: tickets of bot matches

A player asks for a match against the bot and gets a ticket.  When the server runs the pilot
the ticket is a practice, with the modifiers that it is going to be replayed with; otherwise
it only names the map, the rules and the commander, and the career of the player says the
rest.  The ticket is what the client plays by, and the row next to it what the server settles
by.
-/

namespace CrownClash.Store

open Lib
open Go (battlefieldIds)

structure BotMatchTicket where
  botDifficulty : BotDifficulty
  playerModifiers : Option PlayerUpgradeModifiers
  expiresAt : Option ℤ
  gameplayRulesVersion : ℤ
  matchId : String
  battlefieldId : String
  commanderId : Option CommanderId
  deriving DecidableEq, Repr

/-- What `ASYNC_GAMEPLAY_RULES_VERSION` sets. -/
def parseAsyncGameplayRulesVersion (value : String) : ℕ :=
  if value = "" ∨ value = "4" then 4 else if value = "3" then TacticalRulesVersion else 2

def negotiatedAsyncRules (server : RealmServer) (supported : List ℤ) : ℤ :=
  negotiatedAsyncRulesUpTo supported server.asyncGameplayRulesVersion

/-- A name that is no commander's counts as the first. -/
def normalizeCommanderID (commanderId : String) : CommanderId :=
  if commanderId = "quartermaster" then .quartermaster
  else if commanderId = "vanguard" then .vanguard
  else .crownGuard

/-- The ticket of a practice, which is stored with it. -/
def practiceTicket (row : BotMatchRow) (pilot : PilotPractice) : BotMatchTicket where
  botDifficulty := pilot.botDifficulty
  playerModifiers := some pilot.modifiers
  expiresAt := some pilot.expiresAt
  gameplayRulesVersion := pilot.gameplayRulesVersion
  matchId := row.matchId
  battlefieldId := pilot.battlefieldId
  commanderId := none

def BotMatchRow.ticket (row : BotMatchRow) : BotMatchTicket :=
  match row.pilot with
  | some pilot => practiceTicket row pilot
  | none =>
    { botDifficulty := row.botDifficulty
      playerModifiers := none
      expiresAt := none
      gameplayRulesVersion := row.gameplayRulesVersion
      matchId := row.matchId
      battlefieldId := row.battlefieldId
      commanderId := row.commander }

/-- The bytes that a match is drawn with: the first picks the map, the others are the id. -/
structure Draw where
  first : ℕ
  suffix : String

def botMatchRow (server : RealmServer) (userId selectedCommanderId : String)
    (level : BotDifficulty) (supported : List ℤ) (draw : Draw) : BotMatchRow :=
  let rules := negotiatedAsyncRules server supported
  { matchId := "bot_" ++ draw.suffix
    playerId := userId
    battlefieldId := battlefieldIds.getD (draw.first % battlefieldIds.length) ""
    gameplayRulesVersion := rules
    botDifficulty := level
    commander :=
      if Go.hasCommanderAbilities rules then some (normalizeCommanderID selectedCommanderId)
      else none
    settled := false
    pilot := none }

def RealmStore.createBotMatchWithDifficulty (db : RealmStore) (server : RealmServer)
    (userId difficulty : String) (supported : List ℤ) (draw : Draw) (now : ℤ) :
    Except RealmError (BotMatchRow × RealmStore) := do
  let level ← normalizeBotDifficulty difficulty
  if server.pilotEnabled then
    db.createPilotPractice server userId difficulty supported draw.suffix now
  else
    let db := { db with toAccounts := db.toAccounts.getOrCreateCareer userId }
    match db.career? userId with
    | none => throw (.store .database)
    | some career =>
      let row := botMatchRow server userId career.selectedCommanderId level supported draw
      if Holds BotMatchRow.matchId db.botMatches row.matchId then throw (.store .database)
      return (row, { db with botMatches := db.botMatches ++ [row] })

/-- The career is made in any case; a match only after the tutorial. -/
def RealmStore.startBotMatch (db : RealmStore) (server : RealmServer)
    (userId difficulty : String) (supported : List ℤ) (draw : Draw) (now : ℤ) :
    Except RealmError BotMatchRow × RealmStore :=
  match normalizeBotDifficulty difficulty with
  | .error e => (.error e, db)
  | .ok _ =>
    let db := { db with toAccounts := db.toAccounts.getOrCreateCareer userId }
    match db.career? userId with
    | none => (.error (.store .database), db)
    | some career =>
      if career.tutorialCompleted = false then (.error .tutorialRequired, db)
      else
        match db.createBotMatchWithDifficulty server userId difficulty supported draw now with
        | .error e => (.error e, db)
        | .ok (row, db) => (.ok row, db)

end CrownClash.Store
