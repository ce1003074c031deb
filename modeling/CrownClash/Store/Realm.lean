import CrownClash.Lib.Sorting
import CrownClash.Store.Careers

/-!
# Store: attacks on other realms

A player attacks on a ticket: against an opponent of the same rank, against a friend who
has sent a challenge, or in revenge for an attack.  A ticket is settled by its battle or
given up, and one that has run out is given up the next time the player comes to the
realm.  A practice of the pilot is a bot match with an expiry of its own, and a player has
either an attack or a practice.

Settling and giving up are `settleRealmAttack` and `abandonRealmAttack` of `Store.Battles`;
here is what comes before them.
-/

namespace CrownClash.Store

open Lib
open Go (PlayerCareer botAiTickSeconds roundMultiplier)

inductive RealmError
  | invalidRealmSource
  | tutorialRequired
  | clientUpdateRequired
  | realmPracticeActive
  | realmAttackActive
  | challengeNotFound
  | challengeExpired
  | defenseChanged
  | revengeUnavailable
  | noRealmOpponent
  | commanderInvalid
  | commanderLocked
  | invalidBotDifficulty
  | store (e : StoreError)
  deriving DecidableEq, Repr

/-! ### The clock -/

/-- The days of the players.  Any zone has them: every time is in its day, and all the times
of a day have the same day. -/
structure RealmCalendar where
  realmDay : ℤ → ℤ × ℤ
  mem : ∀ t, (realmDay t).1 ≤ t ∧ t < (realmDay t).2
  same : ∀ t u, (realmDay t).1 ≤ u → u < (realmDay t).2 → realmDay u = realmDay t

/-- The zone that is used when the zone of the players is not found. -/
def fixedZone : RealmCalendar where
  realmDay t := ((t + 12600000) / 86400000 * 86400000 - 12600000,
    (t + 12600000) / 86400000 * 86400000 - 12600000 + 86400000)
  mem t := by
    dsimp only
    omega
  same t u hlow hhigh := by
    dsimp only at hlow hhigh
    have hday : (u + 12600000) / 86400000 = (t + 12600000) / 86400000 := by omega
    rw [hday]

/-- What the server runs with. -/
structure RealmServer where
  calendar : RealmCalendar
  dayKey : ℤ → String
  pilotEnabled : Bool
  seedBots : Bool
  asyncGameplayRulesVersion : ℕ

def RealmServer.env (server : RealmServer) (now : ℤ) : Env where
  nowMillis := now
  dayKey := server.dayKey now
  dayStart := (server.calendar.realmDay now).1
  dayEnd := (server.calendar.realmDay now).2
  pilotEnabled := server.pilotEnabled

def realmTicketLifetimeMs : ℤ := 15 * 60 * 1000

def realmChallengeLifetimeMs : ℤ := 7 * 24 * 60 * 60 * 1000

/-! ### The tables -/

inductive CombatPolicy
  | equal
  | bounded
  deriving DecidableEq, Repr

structure CombatLevels where
  garrison : ℤ
  production : ℤ
  armySpeed : ℤ
  deriving DecidableEq, Repr

structure RealmDefense where
  playerId : String
  trophies : ℤ
  commanderId : String
  levels : CombatLevels
  deriving DecidableEq, Repr

structure RealmChallengeRow where
  token : String
  playerId : String
  expiresAt : ℤ
  commanderId : Option String
  deriving DecidableEq, Repr

/-- What a ticket is issued with besides its document: its policy and, if it is in revenge,
the attack it is for. -/
structure RealmTerms where
  policy : CombatPolicy
  originId : Option String
  deriving DecidableEq, Repr

structure RealmStore extends Database where
  /-- For the id of a ticket. -/
  terms : String → RealmTerms
  /-- Whose defence is published, the latest first. -/
  realmDefenses : List String
  realmChallenges : List RealmChallengeRow
  isBot : String → Bool

/-! ### Levels and modifiers -/

def combatLevels (career : PlayerCareer) : CombatLevels :=
  ⟨career.startingGarrisonLevel, career.productionLevel, career.armySpeedLevel⟩

/-- A level counts for two more than that of the opponent at most. -/
def effectiveLevel (policy : CombatPolicy) (level opponent : ℤ) : ℤ :=
  match policy with
  | .equal => 0
  | .bounded => min (min 20 (max 0 level)) (min 20 (max 0 opponent) + 2)

def realmModifiers (levels opponent : CombatLevels) (commander : String) (policy : CombatPolicy) :
    PlayerUpgradeModifiers :=
  let garrison := effectiveLevel policy levels.garrison opponent.garrison
  let production := effectiveLevel policy levels.production opponent.production
  let armySpeed := effectiveLevel policy levels.armySpeed opponent.armySpeed
  let units := 20 + garrison
  let rate := 1 + Float.ofInt production * 0.02
  let speed := 1 + Float.ofInt armySpeed * 0.015
  if commander = "quartermaster" then
    ⟨units, exactValue (roundMultiplier (rate * 1.15)), exactValue (roundMultiplier (speed * 0.9))⟩
  else if commander = "vanguard" then
    ⟨units - 3, exactValue (roundMultiplier rate), exactValue (roundMultiplier (speed * 1.15))⟩
  else ⟨units, exactValue (roundMultiplier rate), exactValue (roundMultiplier speed)⟩

def realmDefense (career : PlayerCareer) : RealmDefense :=
  ⟨career.playerId, career.trophies, career.selectedCommanderId, combatLevels career⟩

def clientSupportsRules (supported : List ℤ) (version : ℤ) : Bool :=
  version < 3 || supported.contains version

/-- The highest version up to a ceiling that the client knows, or 2. -/
def negotiatedAsyncRulesUpTo (supported : List ℤ) : ℕ → ℤ
  | 0 => 2
  | version + 1 =>
    if version + 1 < 3 then 2
    else if supported.contains (version + 1) then version + 1
    else negotiatedAsyncRulesUpTo supported version

def TacticalRulesVersion : ℕ := 3

def normalizeBotDifficulty (value : String) : Except RealmError BotDifficulty :=
  if value = "" then .ok .normal
  else if value = "easy" then .ok .easy
  else if value = "normal" then .ok .normal
  else if value = "hard" then .ok .hard
  else .error .invalidBotDifficulty

/-! ### Giving up -/

def RealmStore.lockCareer (db : RealmStore) (userId : String) : Except RealmError PlayerCareer :=
  match db.realmCareerForUpdate userId with
  | .error e => .error (.store e)
  | .ok career => .ok career

def RealmStore.abandonRealmInTx (db : RealmStore) (career : PlayerCareer) (ticket : RealmTicket)
    (now : ℤ) : Except RealmError (PlayerCareer × RealmStore) :=
  if (db.findStoredSettlement ticket.matchId).isSome then .error (.store .database)
  else
    let settlement := abandonSettlement career ticket now
    .ok (settlement.newCareer, { db with
      toDatabase := (db.toDatabase.pay (settlementPayment settlement)).closeRealmTicket
        career.playerId ⟨ticket, settlement, false⟩ .abandoned })

/-- The active ticket of a player, which is given up if it has run out. -/
def RealmStore.expireRealmActive (db : RealmStore) (career : PlayerCareer) (now : ℤ) :
    Except RealmError (PlayerCareer × Option RealmTicket × RealmStore) :=
  match db.realmTickets.find? fun row =>
      row.playerId = career.playerId ∧ row.state = .active with
  | none => .ok (career, none, db)
  | some row =>
    if row.document.expiresAt > now then .ok (career, some row.document, db)
    else
      match db.abandonRealmInTx career row.document now with
      | .error e => .error e
      | .ok (career, db) => .ok (career, none, db)

/-! ### Practices of the pilot -/

/-- An open practice of a player, unless it has run out; then it is closed. -/
def RealmStore.activePilotPractice (db : RealmStore) (userId : String) (now : ℤ) :
    Option (BotMatchRow × PilotPractice) × RealmStore :=
  match db.botMatches.find? fun row =>
      row.playerId = userId ∧ row.pilot.isSome ∧ row.settled = false with
  | none => (none, db)
  | some row =>
    match row.pilot with
    | none => (none, db)
    | some pilot =>
      if pilot.expiresAt ≤ now then
        (none, { db with toDatabase := db.toDatabase.closeBotMatch row.matchId })
      else (some (row, pilot), db)

/-- The id is unique, and so is the open practice of a player. -/
def RealmStore.insertPractice (db : RealmStore) (row : BotMatchRow) :
    Except RealmError RealmStore :=
  if db.botMatches.any fun other => other.matchId = row.matchId ∨
      (other.playerId = row.playerId ∧ other.pilot.isSome ∧ other.settled = false) then
    .error (.store .database)
  else .ok { db with botMatches := db.botMatches ++ [row] }

def RealmStore.createPilotPractice (db : RealmStore) (server : RealmServer)
    (userId difficulty : String) (supported : List ℤ) (suffix : String) (now : ℤ) :
    Except RealmError (BotMatchRow × RealmStore) := do
  let level ← normalizeBotDifficulty difficulty
  let career ← db.lockCareer userId
  if career.tutorialCompleted = false then throw .tutorialRequired
  let (career, active, db) ← db.expireRealmActive career now
  if active.isSome then throw .realmAttackActive
  match db.activePilotPractice userId now with
  | (some (old, pilot), db) =>
    if !clientSupportsRules supported pilot.gameplayRulesVersion ∨
        difficulty = "" ∧ botAiTickSeconds pilot.botDifficulty ≠ 1.8 then
      throw .clientUpdateRequired
    return (old, db)
  | (none, db) =>
    let rules := negotiatedAsyncRulesUpTo supported
      (min server.asyncGameplayRulesVersion TacticalRulesVersion)
    let modifiers := realmModifiers (combatLevels career) (combatLevels career)
      career.selectedCommanderId .bounded
    let pilot : PilotPractice :=
      ⟨career.treasuryLevel, now, now + realmTicketLifetimeMs, modifiers, "crown_cross", rules,
        level⟩
    let row : BotMatchRow :=
      ⟨"practice_" ++ suffix, userId, "crown_cross", rules, level, none, false, some pilot⟩
    let db ← db.insertPractice row
    return (row, db)

/-! ### Opponents -/

structure RealmStartRequest where
  supportedGameplayRulesVersions : List ℤ
  source : String
  token : String
  originId : String
  commanderId : String
  defenseVersion : String

def realmSource? (source : String) : Except RealmError RealmSource :=
  if source = "ranked" then .ok .ranked
  else if source = "friend" then .ok .friend
  else if source = "revenge" then .ok .revenge
  else .error .invalidRealmSource

def RealmStore.resolveRealmChallenge (db : RealmStore) (userId token : String) (now : ℤ) :
    Except RealmError RealmDefense :=
  match db.realmChallenges.find? fun row => row.token = token with
  | none => .error .challengeNotFound
  | some row =>
    if row.expiresAt ≤ now then .error .challengeExpired
    else if row.playerId = userId then .error (.store .pvpSelfAttack)
    else
      match db.career? row.playerId with
      | none => .error (.store .playerNotFound)
      | some career =>
        .ok (realmDefense { career with
          selectedCommanderId := row.commanderId.getD career.selectedCommanderId })

/-- An opponent, the policy of the battle and the attack it is in revenge for. -/
structure Opponent where
  defense : RealmDefense
  policy : CombatPolicy
  originId : Option String

/-- An attack is revenged once, by the player who was attacked, and not too late. -/
def RealmStore.revengeOpponent (db : RealmStore) (userId originId : String) (now : ℤ) :
    Except RealmError Opponent :=
  if db.realmTickets.any fun row =>
      row.playerId = userId ∧ (db.terms row.id).originId = some originId then
    .error .revengeUnavailable
  else
    match db.realmTickets.find? fun row => row.id = originId with
    | none => .error .revengeUnavailable
    | some row =>
      match row.settledAt with
      | none => .error (.store .database)
      | some settledAt =>
        if row.defenderId ≠ userId ∨ row.state ≠ .settled ∨
            settledAt + realmChallengeLifetimeMs ≤ now then
          .error .revengeUnavailable
        else
          match db.career? row.playerId with
          | none => .error (.store .playerNotFound)
          | some career =>
            .ok ⟨realmDefense career, (db.terms row.id).policy, some originId⟩

/-- Two players have fought each other on the day. -/
def RealmStore.foughtOn (db : RealmStore) (userId opponentId : String) (env : Env) : Bool :=
  db.realmTickets.any fun row =>
    ((row.playerId = userId ∧ row.defenderId = opponentId) ∨
      (row.defenderId = userId ∧ row.playerId = opponentId)) ∧
    row.state = .settled ∧ row.settledAt.any fun t => env.dayStart ≤ t ∧ t < env.dayEnd

/-- Players come before bots, and who is nearer in trophies before others. -/
def nearer (trophies : ℤ) (a b : Bool × PlayerCareer) : Bool :=
  a.1 = false ∧ b.1 = true ∨
    a.1 = b.1 ∧ |a.2.trophies - trophies| < |b.2.trophies - trophies|

def RealmStore.rankedOpponent (db : RealmStore) (server : RealmServer) (career : PlayerCareer)
    (now : ℤ) : Except RealmError Opponent :=
  let candidates := db.realmDefenses.filterMap fun id =>
    (db.career? id).map fun opponent => (db.isBot id, opponent)
  let eligible := candidates.filter fun p =>
    p.2.playerId ≠ career.playerId ∧ p.2.tutorialCompleted = true ∧
      |p.2.trophies - career.trophies| ≤ 250 ∧ (p.1 = false ∨ server.seedBots = true) ∧
      db.foughtOn career.playerId p.2.playerId (server.env now) = false
  match (sortBy (nearer career.trophies) eligible).head? with
  | none => .error .noRealmOpponent
  | some p => .ok ⟨realmDefense p.2, .bounded, none⟩

/-- `version` is the version that a client knows a defence by. -/
def RealmStore.opponent (db : RealmStore) (server : RealmServer) (version : RealmDefense → String)
    (career : PlayerCareer) (source : RealmSource) (req : RealmStartRequest) (now : ℤ) :
    Except RealmError Opponent :=
  match source with
  | .friend =>
    match db.resolveRealmChallenge career.playerId req.token now with
    | .error e => .error e
    | .ok defense =>
      if req.defenseVersion ≠ "" ∧ version defense ≠ req.defenseVersion then
        .error .defenseChanged
      else .ok ⟨defense, .equal, none⟩
  | .revenge => db.revengeOpponent career.playerId req.originId now
  | .ranked => db.rankedOpponent server career now

/-! ### Starting an attack -/

def chooseCommander (career : PlayerCareer) (commanderId : String) (policy : CombatPolicy) :
    Except RealmError String :=
  if commanderId = "" then .ok career.selectedCommanderId
  else
    match commanderUnlockLevel commanderId with
    | none => .error .commanderInvalid
    | some unlock =>
      if policy ≠ .equal ∧ kingdomLevel career < unlock then .error .commanderLocked
      else .ok commanderId

def RealmStore.publishRealmDefense (db : RealmStore) (userId : String) : RealmStore :=
  { db with realmDefenses := userId :: db.realmDefenses.filter fun id => id ≠ userId }

def RealmStore.issueTicket (db : RealmStore) (server : RealmServer) (career : PlayerCareer)
    (source : RealmSource) (opponent : Opponent) (commander : String) (supported : List ℤ)
    (id : String) (now : ℤ) : RealmTicket where
  rewardTreasuryLevel := career.treasuryLevel
  matchId := id
  source := source
  battlefieldId := "crown_cross"
  gameplayRulesVersion := negotiatedAsyncRulesUpTo supported
    (min server.asyncGameplayRulesVersion TacticalRulesVersion)
  defenderId := opponent.defense.playerId
  playerModifiers := realmModifiers (combatLevels career) opponent.defense.levels commander
    opponent.policy
  enemyModifiers := realmModifiers opponent.defense.levels (combatLevels career)
    opponent.defense.commanderId opponent.policy
  createdAt := now
  expiresAt := now + realmTicketLifetimeMs
  rewardEligible := db.realmEligibility career.playerId opponent.defense.playerId source
    (server.env now)

/-- The id is unique, and so are the active ticket of a player and the revenge of a player
for an attack. -/
def RealmStore.insertTicket (db : RealmStore) (userId : String) (ticket : RealmTicket)
    (terms : RealmTerms) : Except RealmError RealmStore :=
  if db.realmTickets.any fun row => row.id = ticket.matchId ∨
      (row.playerId = userId ∧ (row.state = .active ∨
        terms.originId.isSome ∧ (db.terms row.id).originId = terms.originId)) then
    .error (.store .database)
  else
    .ok { db with
      terms := Function.update db.terms ticket.matchId terms
      realmTickets := db.realmTickets ++
        [⟨ticket.matchId, userId, ticket.defenderId, ticket.source, ticket, .active, false, none,
          none⟩] }

def RealmStore.startRealmAttack (db : RealmStore) (server : RealmServer)
    (version : RealmDefense → String) (userId : String) (req : RealmStartRequest)
    (suffix : String) (now : ℤ) : Except RealmError (RealmTicket × RealmStore) := do
  let source ← realmSource? req.source
  let career ← db.lockCareer userId
  if career.tutorialCompleted = false then throw .tutorialRequired
  let (career, active, db) ← db.expireRealmActive career now
  match active with
  | some ticket =>
    if !clientSupportsRules req.supportedGameplayRulesVersions ticket.gameplayRulesVersion then
      throw .clientUpdateRequired
    return (ticket, db)
  | none =>
    let db := db.publishRealmDefense userId
    let (practice, db) := db.activePilotPractice userId now
    if practice.isSome then throw .realmPracticeActive
    let opponent ← db.opponent server version career source req now
    let commander ← chooseCommander career req.commanderId opponent.policy
    let ticket := db.issueTicket server career source opponent commander
      req.supportedGameplayRulesVersions ("realm_" ++ suffix) now
    let db ← db.insertTicket userId ticket ⟨opponent.policy, opponent.originId⟩
    return (ticket, db)

/-- Looking at the realm closes what has run out. -/
def RealmStore.realmHome (db : RealmStore) (userId : String) (now : ℤ) :
    Except RealmError RealmStore := do
  let career ← db.lockCareer userId
  if career.tutorialCompleted = false then throw .tutorialRequired
  let (_, _, db) ← db.expireRealmActive career now
  return ((db.publishRealmDefense userId).activePilotPractice userId now).2

/-! ### Everything that is done to tickets and practices -/

inductive RealmOp
  | startRealmAttack (userId : String) (req : RealmStartRequest)
      (version : RealmDefense → String) (suffix : String)
  | settleRealmAttack (userId id : String) (actions : List PvpAction)
  | abandonRealmAttack (userId id : String)
  | realmHome (userId : String)
  | createPilotPractice (userId difficulty : String) (supported : List ℤ) (suffix : String)
  /-- A practice of the pilot is settled, or another bot match. -/
  | settleMatchVerified (userId matchId : String) (actions : List PvpAction)
  | createBotMatch (row : BotMatchRow)
  /-- Everything else, which writes no ticket and no bot match. -/
  | elsewhere (db : Database) (realmDefenses : List String)
      (realmChallenges : List RealmChallengeRow) (isBot : String → Bool)

/-- What is stored after an operation that returns or fails. -/
def RealmStore.committed {ε ρ : Type} (db : RealmStore) (result : Except ε (ρ × RealmStore)) :
    RealmStore :=
  match result with
  | .ok (_, db') => db'
  | .error _ => db

def RealmStore.apply [MathLib] (server : RealmServer) (now : ℤ) (db : RealmStore) :
    RealmOp → RealmStore
  | .startRealmAttack userId req version suffix =>
    db.committed (db.startRealmAttack server version userId req suffix now)
  | .settleRealmAttack userId id actions =>
    { db with toDatabase := db.toDatabase.run (.settleRealmAttack userId id actions
        (server.env now)) }
  | .abandonRealmAttack userId id =>
    { db with toDatabase := db.toDatabase.run (.abandonRealmAttack userId id (server.env now)) }
  | .realmHome userId =>
    match db.realmHome userId now with
    | .ok db' => db'
    | .error _ => db
  | .createPilotPractice userId difficulty supported suffix =>
    db.committed (db.createPilotPractice server userId difficulty supported suffix now)
  | .settleMatchVerified userId matchId actions =>
    { db with toDatabase := db.toDatabase.run (.settleMatchVerified userId matchId actions
        (server.env now)) }
  | .createBotMatch row =>
    if Holds BotMatchRow.matchId db.botMatches row.matchId then db
    else { db with botMatches := db.botMatches ++ [{ row with settled := false, pilot := none }] }
  | .elsewhere other realmDefenses realmChallenges isBot =>
    { db with
      toDatabase := { other with realmTickets := db.realmTickets, botMatches := db.botMatches }
      realmDefenses := realmDefenses
      realmChallenges := realmChallenges
      isBot := isBot }

/-- The store and the time of the last operation. -/
structure RealmWorld where
  store : RealmStore
  now : ℤ

/-- An operation, and how long after the one before it runs. -/
structure RealmEvent where
  later : ℕ
  op : RealmOp

def RealmWorld.step [MathLib] (server : RealmServer) (s : RealmWorld) (e : RealmEvent) :
    RealmWorld :=
  ⟨s.store.apply server (s.now + e.later) e.op, s.now + e.later⟩

def RealmWorld.start (now : ℤ) : RealmWorld :=
  ⟨{ toDatabase := emptyStore
     terms := fun _ => ⟨.bounded, none⟩
     realmDefenses := []
     realmChallenges := []
     isBot := fun _ => false }, now⟩

end CrownClash.Store
