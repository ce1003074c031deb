import CrownClash.Lib.Text
import CrownClash.Store.Rewards

/-!
# Store: every reward is paid once

A claim is refused when its id or its reward is stored, by the unique keys of its table,
and so is an attack.  The settlement of a match is not: its insert does nothing when the
match has a row.  There it is the lock that helps.  A match belongs to one player
(`Owns`), the part of a 2v2 match to the one it is paid to, all calls for it lock the
career of that player, and so a call still finds at its commit what it has read (`Sees`).
-/

namespace CrownClash.Store

open Lib
open Go (PlayerCareer)

/-! ### Ids -/

/-- The ids of bot matches, which no other matches have. -/
def BotId (id : String) : Prop := ∃ suffix, id = "bot_" ++ suffix ∨ id = "practice_" ++ suffix

def RealmId (id : String) : Prop := ∃ suffix, id = "realm_" ++ suffix

theorem livePlayerMatchId_toList (startedAt : ℤ) (userId : String) :
    (Go.livePlayerMatchId startedAt userId).toList =
      'l' :: 'i' :: 'v' :: 'e' :: '_' :: ((toString startedAt).toList ++ '_' :: userId.toList) := by
  unfold Go.livePlayerMatchId
  simp

/-- The player of a live match can be read off its id. -/
theorem livePlayerMatchId_user {t t' : ℤ} {u u' : String}
    (h : Go.livePlayerMatchId t u = Go.livePlayerMatchId t' u') : u = u' := by
  have hlist := congrArg String.toList h
  rw [livePlayerMatchId_toList, livePlayerMatchId_toList] at hlist
  have hrest := hlist
  simp only [List.cons.injEq, true_and] at hrest
  obtain ⟨-, huser⟩ := append_cons_inj (notMem_toString_int (by decide) (by decide) t)
    (notMem_toString_int (by decide) (by decide) t') hrest
  exact String.toList_injective huser

theorem not_botId_live (t : ℤ) (u : String) : ¬ BotId (Go.livePlayerMatchId t u) := by
  rintro ⟨suffix, h | h⟩
  · have hlist := congrArg String.toList h
    rw [livePlayerMatchId_toList] at hlist
    simp at hlist
  · have hlist := congrArg String.toList h
    rw [livePlayerMatchId_toList] at hlist
    simp at hlist

theorem not_realmId_live (t : ℤ) (u : String) : ¬ RealmId (Go.livePlayerMatchId t u) := by
  rintro ⟨suffix, h⟩
  have hlist := congrArg String.toList h
  rw [livePlayerMatchId_toList] at hlist
  simp at hlist

theorem not_realmId_bot {id : String} (h : BotId id) : ¬ RealmId id := by
  rintro ⟨suffix', hrealm⟩
  obtain ⟨suffix, rfl | rfl⟩ := h
  · have hlist := congrArg String.toList hrealm
    simp at hlist
  · have hlist := congrArg String.toList hrealm
    simp at hlist

/-- Whose match it is. -/
def Owns (db : Database) (u m : String) : Prop :=
  (∃ t, m = Go.livePlayerMatchId t u) ∨ ∃ row, db.botMatch? m = some row ∧ row.playerId = u

/-- Rows are issued under ids of their kind, and a ticket that has a result has a
settlement. -/
structure IdsOk (db : Database) : Prop where
  bots : ∀ row ∈ db.botMatches, BotId row.matchId
  tickets : ∀ row ∈ db.realmTickets, row.document.matchId = row.id ∧ RealmId row.id
  results : ∀ row ∈ db.realmTickets, row.result.isSome →
    Holds MatchSettlementRow.matchId db.matchSettlements row.id

theorem botMatch?_mem {db : Database} {m : String} {row : BotMatchRow}
    (h : db.botMatch? m = some row) : row ∈ db.botMatches ∧ row.matchId = m :=
  ⟨List.mem_of_find?_eq_some h, by simpa using List.find?_some h⟩

/-- A match belongs to one player. -/
theorem Owns.unique {db : Database} (hids : IdsOk db) {u v m : String} (h : Owns db u m)
    (h' : Owns db v m) : u = v := by
  rcases h with ⟨t, rfl⟩ | ⟨row, hrow, rfl⟩ <;> rcases h' with ⟨t', ht⟩ | ⟨row', hrow', rfl⟩
  · exact livePlayerMatchId_user ht
  · obtain ⟨hmem, hid⟩ := botMatch?_mem hrow'
    exact absurd (hid ▸ hids.bots row' hmem) (not_botId_live t u)
  · obtain ⟨hmem, hid⟩ := botMatch?_mem hrow
    exact absurd (ht ▸ hid ▸ hids.bots row hmem) (not_botId_live t' v)
  · rw [hrow] at hrow'
    cases hrow'
    rfl

/-- A realm ticket is no match of anybody. -/
theorem not_owns_realm {db : Database} (hids : IdsOk db) {u m : String} (h : RealmId m) :
    ¬ Owns db u m := by
  rintro (⟨t, rfl⟩ | ⟨row, hrow, -⟩)
  · exact not_realmId_live t u h
  · obtain ⟨hmem, hid⟩ := botMatch?_mem hrow
    exact not_realmId_bot (hid ▸ hids.bots row hmem) h

/-! ### What every transaction keeps -/

/-- No claim, no attack, no settlement and no result of a ticket is taken away, and a bot
match keeps its player. -/
structure Grows (db db' : Database) : Prop where
  daily : db.dailyRewardClaims <+: db'.dailyRewardClaims
  league : db.leagueRewardClaims <+: db'.leagueRewardClaims
  level : db.levelRewardClaims <+: db'.levelRewardClaims
  weekly : db.weeklyChallengeClaims <+: db'.weeklyChallengeClaims
  lane : db.laneRewardClaims <+: db'.laneRewardClaims
  attacks : db.pvpAttacks <+: db'.pvpAttacks
  settlements : db.matchSettlements <+: db'.matchSettlements
  multi : db.matchSettlementsMulti <+: db'.matchSettlementsMulti
  bots : ∀ m row, db.botMatch? m = some row →
    ∃ row', db'.botMatch? m = some row' ∧ row'.playerId = row.playerId
  results : ∀ row ∈ db.realmTickets, ∀ r, row.result = some r →
    ∃ row' ∈ db'.realmTickets, row'.id = row.id ∧ row'.result = some r

theorem Grows.refl (db : Database) : Grows db db :=
  ⟨List.prefix_refl _, List.prefix_refl _, List.prefix_refl _, List.prefix_refl _,
    List.prefix_refl _, List.prefix_refl _, List.prefix_refl _, List.prefix_refl _,
    fun _ row h => ⟨row, h, rfl⟩, fun row hrow _ h => ⟨row, hrow, rfl, h⟩⟩

theorem Grows.trans {a b c : Database} (h : Grows a b) (g : Grows b c) : Grows a c where
  daily := h.daily.trans g.daily
  league := h.league.trans g.league
  level := h.level.trans g.level
  weekly := h.weekly.trans g.weekly
  lane := h.lane.trans g.lane
  attacks := h.attacks.trans g.attacks
  settlements := h.settlements.trans g.settlements
  multi := h.multi.trans g.multi
  bots m row hrow := by
    obtain ⟨row', hrow', hplayer⟩ := h.bots m row hrow
    obtain ⟨row'', hrow'', hplayer'⟩ := g.bots m row' hrow'
    exact ⟨row'', hrow'', hplayer'.trans hplayer⟩
  results row hrow r hr := by
    obtain ⟨row', hrow', hid, hr'⟩ := h.results row hrow r hr
    obtain ⟨row'', hrow'', hid', hr''⟩ := g.results row' hrow' r hr'
    exact ⟨row'', hrow'', hid'.trans hid, hr''⟩

theorem claimed_iff {κ ρ : Type} [DecidableEq κ] {rows : List (ClaimRow κ ρ)} {userId : String}
    {subject : κ} : claimed rows userId subject = true ↔
      ∃ row ∈ rows, row.playerId = userId ∧ row.subject = subject := by
  unfold claimed
  rw [List.any_eq_true]
  simp

theorem claimed_mono {κ ρ : Type} [DecidableEq κ] {rows rows' : List (ClaimRow κ ρ)}
    {userId : String} {subject : κ} (h : claimed rows userId subject = true)
    (hgrow : rows <+: rows') : claimed rows' userId subject = true := by
  obtain ⟨row, hrow, hkey⟩ := claimed_iff.mp h
  exact claimed_iff.mpr ⟨row, hgrow.subset hrow, hkey⟩

theorem Grows.recorded {db db' : Database} (h : Grows db db') {key : RewardKey}
    (hkey : db.recorded key = true) : db'.recorded key = true := by
  cases key with
  | daily => exact claimed_mono hkey h.daily
  | league => exact claimed_mono hkey h.league
  | level => exact claimed_mono hkey h.level
  | weekly => exact claimed_mono hkey h.weekly
  | lane => exact claimed_mono hkey h.lane
  | ofMatch => exact decide_eq_true (Holds.mono (of_decide_eq_true hkey) h.settlements)
  | ofAttack => exact decide_eq_true (Holds.mono (of_decide_eq_true hkey) h.attacks)
  | ofMatch2v2 => exact decide_eq_true (Holds.mono (of_decide_eq_true hkey) h.multi)

theorem Grows.idStored {db db' : Database} (h : Grows db db') {call : RewardCall}
    (hid : call.IdStored db) : call.IdStored db' := by
  cases call with
  | daily => exact Holds.mono hid h.daily
  | league => exact Holds.mono hid h.league
  | level => exact Holds.mono hid h.level
  | weekly => exact Holds.mono hid h.weekly
  | lane => exact Holds.mono hid h.lane
  | live => exact Holds.mono hid h.settlements
  | bot => exact Holds.mono hid h.settlements
  | realm => exact Holds.mono hid h.settlements
  | abandon => exact Holds.mono hid h.settlements
  | attack => exact Holds.mono hid h.attacks
  | match2v2 => exact Holds.mono hid h.multi

/-- A player's part of a 2v2 match is settled. -/
def PartStored (db : Database) (m u : String) : Prop :=
  Holds MatchSettlementMultiRow.key db.matchSettlementsMulti (m, u)

/-- What a player sees of the store: it only grows, and so do the settlements of others. -/
structure Sees (u : String) (db db' : Database) : Prop where
  grows : Grows db db'
  settlements : ∀ m, Owns db u m → db'.findStoredSettlement m = db.findStoredSettlement m
  parts : ∀ m, PartStored db' m u → PartStored db m u

theorem Owns.mono {db db' : Database} (h : Grows db db') {u m : String} (hown : Owns db u m) :
    Owns db' u m := by
  rcases hown with hlive | ⟨row, hrow, hplayer⟩
  · exact Or.inl hlive
  · obtain ⟨row', hrow', hsame⟩ := h.bots m row hrow
    exact Or.inr ⟨row', hrow', hsame.trans hplayer⟩

theorem Sees.refl (u : String) (db : Database) : Sees u db db :=
  ⟨Grows.refl db, fun _ _ => rfl, fun _ h => h⟩

theorem Sees.trans {u : String} {a b c : Database} (h : Sees u a b) (g : Sees u b c) :
    Sees u a c where
  grows := h.grows.trans g.grows
  settlements m hown := (g.settlements m (hown.mono h.grows)).trans (h.settlements m hown)
  parts m hpart := h.parts m (g.parts m hpart)

/-- What a transaction of some players, or of nobody, leaves: nothing of the others'. -/
structure Keeps (users : List String) (db db' : Database) : Prop where
  grows : Grows db db'
  ids : IdsOk db'
  others : ∀ k, k ∉ users → ∀ m, Owns db k m →
    db'.findStoredSettlement m = db.findStoredSettlement m
  parts : ∀ k, k ∉ users → ∀ m, PartStored db' m k → PartStored db m k

theorem Keeps.sees {users : List String} {db db' : Database} (h : Keeps users db db') {k : String}
    (hk : k ∉ users) : Sees k db db' := ⟨h.grows, h.others k hk, h.parts k hk⟩

/-! ### What the writes keep -/

/-- The claims and attacks of a store, all tables of them, with none taken away. -/
structure ClaimsGrow (db db' : Database) : Prop where
  daily : db.dailyRewardClaims <+: db'.dailyRewardClaims
  league : db.leagueRewardClaims <+: db'.leagueRewardClaims
  level : db.levelRewardClaims <+: db'.levelRewardClaims
  weekly : db.weeklyChallengeClaims <+: db'.weeklyChallengeClaims
  lane : db.laneRewardClaims <+: db'.laneRewardClaims
  attacks : db.pvpAttacks <+: db'.pvpAttacks

/-- A write that touches neither matches nor tickets. -/
theorem Keeps.of_claims {users : List String} {db db' : Database} (hids : IdsOk db)
    (hgrow : ClaimsGrow db db') (hsettlements : db'.matchSettlements = db.matchSettlements)
    (hmulti : db'.matchSettlementsMulti = db.matchSettlementsMulti)
    (hbots : db'.botMatches = db.botMatches) (htickets : db'.realmTickets = db.realmTickets) :
    Keeps users db db' := by
  have hmatch : ∀ m, db'.botMatch? m = db.botMatch? m := by
    intro m
    unfold Database.botMatch?
    rw [hbots]
  refine ⟨⟨hgrow.daily, hgrow.league, hgrow.level, hgrow.weekly, hgrow.lane, hgrow.attacks, ?_, ?_,
    fun m row h => ⟨row, ?_, rfl⟩, fun row hrow r h => ⟨row, ?_, rfl, h⟩⟩, ⟨?_, ?_, ?_⟩,
    fun k _ m _ => ?_, fun k _ m hpart => ?_⟩
  · rw [hsettlements]
  · rw [hmulti]
  · rw [hmatch]
    exact h
  · rw [htickets]
    exact hrow
  · rw [hbots]
    exact hids.bots
  · rw [htickets]
    exact hids.tickets
  · rw [htickets, hsettlements]
    exact hids.results
  · unfold Database.findStoredSettlement
    rw [hsettlements]
  · unfold PartStored at hpart
    rw [hmulti] at hpart
    exact hpart

/-- The claims and attacks of a store and its 2v2 settlements, all tables of them. -/
structure SameClaims (db db' : Database) : Prop where
  daily : db'.dailyRewardClaims = db.dailyRewardClaims
  league : db'.leagueRewardClaims = db.leagueRewardClaims
  level : db'.levelRewardClaims = db.levelRewardClaims
  weekly : db'.weeklyChallengeClaims = db.weeklyChallengeClaims
  lane : db'.laneRewardClaims = db.laneRewardClaims
  attacks : db'.pvpAttacks = db.pvpAttacks
  multi : db'.matchSettlementsMulti = db.matchSettlementsMulti

theorem SameClaims.refl (db : Database) : SameClaims db db := ⟨rfl, rfl, rfl, rfl, rfl, rfl, rfl⟩

theorem SameClaims.grow {db db' : Database} (h : SameClaims db db') : ClaimsGrow db db' := by
  constructor
  · rw [h.daily]
  · rw [h.league]
  · rw [h.level]
  · rw [h.weekly]
  · rw [h.lane]
  · rw [h.attacks]

/-- The settlement of another match stays what it was. -/
theorem find?_insertNew {m : String} {row : MatchSettlementRow} (h : row.matchId ≠ m)
    (table : List MatchSettlementRow) :
    (insertNew MatchSettlementRow.matchId table row).find? (fun r => r.matchId = m) =
      table.find? fun r => r.matchId = m := by
  by_cases hheld : Holds MatchSettlementRow.matchId table row.matchId
  · rw [insertNew_of_held hheld]
  · rw [insertNew_of_new hheld, List.find?_append]
    have hnone : [row].find? (fun r => r.matchId = m) = none := by
      simpa using h
    rw [hnone, Option.or_none]

/-- A write that settles a match: it is of its player, or of nobody. -/
theorem Keeps.of_settlement {u : String} {db db' : Database} {row : MatchSettlementRow}
    (hclaims : SameClaims db db') (hids : IdsOk db')
    (hsettlements : db'.matchSettlements =
      insertNew MatchSettlementRow.matchId db.matchSettlements row)
    (hbots : ∀ m row, db.botMatch? m = some row →
      ∃ row', db'.botMatch? m = some row' ∧ row'.playerId = row.playerId)
    (hresults : ∀ row ∈ db.realmTickets, ∀ r, row.result = some r →
      ∃ row' ∈ db'.realmTickets, row'.id = row.id ∧ row'.result = some r)
    (hown : ∀ k, Owns db k row.matchId → u = k) : Keeps [u] db db' := by
  have hgrow := hclaims.grow
  refine ⟨⟨hgrow.daily, hgrow.league, hgrow.level, hgrow.weekly, hgrow.lane, hgrow.attacks, ?_, ?_,
    hbots, hresults⟩, hids, fun k hk m hkm => ?_, fun k _ m hpart => ?_⟩
  · rw [hsettlements]
    exact prefix_insertNew db.matchSettlements row
  · rw [hclaims.multi]
  · have hother : row.matchId ≠ m := by
      rintro rfl
      exact hk (List.mem_singleton.mpr (hown k hkm).symm)
    unfold Database.findStoredSettlement
    rw [hsettlements, find?_insertNew hother]
  · unfold PartStored at hpart
    rw [hclaims.multi] at hpart
    exact hpart

theorem Keeps.refl {users : List String} {db : Database} (hids : IdsOk db) : Keeps users db db :=
  ⟨Grows.refl db, hids, fun _ _ _ _ => rfl, fun _ _ _ h => h⟩

/-- The rows of a 2v2 settlement. -/
theorem persist2v2_multi (db : MatchTables) (request : Settle2v2Request)
    (careers : String → PlayerCareer) (clock : Clock) :
    (persist2v2 db request careers clock).matchSettlementsMulti =
      insertAll MatchSettlementMultiRow.key db.matchSettlementsMulti
        ((List.finRange 4).map fun k => multiRow request.matchId (request.participants k)
          (settlements2v2 request careers clock k)) := by
  rw [persist2v2_eq]
  exact persistSome_multi (List.finRange 4) db

/-- A write that settles a 2v2 match. -/
theorem Keeps.match2v2 {db : Database} (hids : IdsOk db) (request : Settle2v2Request)
    (careers : String → PlayerCareer) (clock : Clock) :
    Keeps request.userIds db
      { db with toMatchTables := persist2v2 db.toMatchTables request careers clock } := by
  have hsame := Grows.refl db
  refine ⟨⟨hsame.daily, hsame.league, hsame.level, hsame.weekly, hsame.lane, hsame.attacks,
    hsame.settlements, ?_, hsame.bots, hsame.results⟩, ⟨hids.bots, hids.tickets, hids.results⟩,
    fun k _ m _ => rfl, fun k hk m hpart => ?_⟩
  · dsimp only
    rw [persist2v2_multi]
    exact prefix_insertAll _ _
  · unfold PartStored at hpart
    dsimp only at hpart
    rw [persist2v2_multi] at hpart
    refine (holds_insertAll_iff fun row hrow heq => ?_).mp hpart
    obtain ⟨j, -, rfl⟩ := List.mem_map.mp hrow
    exact hk (mem_userIds.mpr ⟨j, congrArg Prod.snd heq⟩)

/-- A match that is closed keeps its player. -/
theorem botMatch?_close {db : Database} {m id : String} {row : BotMatchRow}
    (h : db.botMatch? m = some row) :
    ∃ row', (db.closeBotMatch id).botMatch? m = some row' ∧ row'.playerId = row.playerId := by
  unfold Database.botMatch? Database.closeBotMatch at *
  dsimp only
  rw [List.find?_map]
  have hsame : (fun row : BotMatchRow => decide (row.matchId = m)) ∘
      (fun row => if row.matchId = id then { row with settled := true } else row) =
        fun row => decide (row.matchId = m) := by
    funext row
    dsimp only [Function.comp]
    split <;> rfl
  rw [hsame, h]
  refine ⟨_, rfl, ?_⟩
  dsimp only
  split <;> rfl

theorem IdsOk.close {db : Database} (h : IdsOk db) (id : String) : IdsOk (db.closeBotMatch id) where
  bots row hrow := by
    obtain ⟨old, hold, rfl⟩ := List.mem_map.mp hrow
    have hid := h.bots old hold
    split
    · exact hid
    · exact hid
  tickets := h.tickets
  results := h.results

theorem IdsOk.closeTicket {db : Database} (h : IdsOk db) (userId : String) (result : RealmResult)
    (state : RealmTicketState) : IdsOk (db.closeRealmTicket userId result state) where
  bots := h.bots
  tickets row hrow := by
    obtain ⟨old, hold, rfl⟩ := List.mem_map.mp hrow
    have hid := h.tickets old hold
    split
    · exact hid
    · exact hid
  results row hrow hsome := by
    obtain ⟨old, hold, rfl⟩ := List.mem_map.mp hrow
    by_cases hid : old.id = result.settlement.matchId
    · rw [if_pos hid]
      exact ⟨⟨result.settlement.matchId, userId, result.settlement⟩,
        List.mem_append_right _ (List.mem_singleton_self _), hid.symm⟩
    · rw [if_neg hid] at hsome ⊢
      exact (h.results old hold hsome).mono (List.prefix_append _ _)

/-! ### What is decided about a match -/

theorem findStored_none {db : Database} {m : String} (h : db.findStoredSettlement m = none) :
    ¬ Holds MatchSettlementRow.matchId db.matchSettlements m := by
  rintro ⟨row, hrow, hm⟩
  have hnone := List.find?_eq_none.mp (Option.map_eq_none_iff.mp h) row hrow
  exact hnone (decide_eq_true hm)

theorem findStored_some {db : Database} {m : String} {s : MatchSettlement}
    (h : db.findStoredSettlement m = some s) :
    ∃ row ∈ db.matchSettlements, row.matchId = m ∧ row.settlement = s := by
  obtain ⟨row, hrow, rfl⟩ := Option.map_eq_some_iff.mp h
  exact ⟨row, List.mem_of_find?_eq_some hrow, by simpa using List.find?_some hrow, rfl⟩

theorem findStored_of_holds {db : Database} {m : String}
    (h : Holds MatchSettlementRow.matchId db.matchSettlements m) :
    ∃ s, db.findStoredSettlement m = some s := by
  cases hfind : db.findStoredSettlement m with
  | none => exact absurd h (findStored_none hfind)
  | some s => exact ⟨s, rfl⟩

theorem decideMatch_pays {db : Database} {userId : String} {status : MatchStatus}
    {stats : MatchStats} {matchId : String} {env : Env} {r : MatchSettlement} {p : Payment}
    (h : decideMatch db userId status stats matchId env = .ok (.pay r p)) :
    db.findStoredSettlement matchId = none ∧ r.matchId = matchId := by
  simp only [decideMatch, bind, Except.bind, pure, Except.pure] at h
  split at h
  · cases h
  next hnone =>
  split at h
  · cases h
  cases h
  exact ⟨hnone, rfl⟩

theorem decideMatch_stored {db : Database} {userId : String} {status : MatchStatus}
    {stats : MatchStats} {matchId : String} {env : Env} {s : MatchSettlement}
    (h : db.findStoredSettlement matchId = some s) :
    decideMatch db userId status stats matchId env = .ok (.answer s) := by
  unfold decideMatch
  rw [h]

theorem decide2v2Locked_cases {db : Database} {request : Settle2v2Request} {clock : Clock}
    {d : Decision (List MatchSettlement) (String → PlayerCareer)}
    (h : decide2v2Locked db request clock = .ok d) :
    (∃ stored, d = .answer stored ∧
      findStored2v2Settlements db.toMatchTables request.matchId = .ok (some stored)) ∨
      ∃ r careers, d = .pay r careers ∧
        findStored2v2Settlements db.toMatchTables request.matchId = .ok none := by
  unfold decide2v2Locked at h
  split at h
  · cases h
  split at h
  · cases h
  next careers hcareers =>
  split at h
  · cases h
  next stored hstored =>
    cases h
    exact Or.inl ⟨stored, rfl, hstored⟩
  next hnone =>
    cases h
    exact Or.inr ⟨_, careers, rfl, hnone⟩

section Replays

variable [MathLib]

theorem decideAttack_cases {db : Database} {attackerId defenderId attackId : String}
    {actions : List PvpAction} {env : Env} {d : Decision PvpAttackResult}
    (h : decidePvpAttack db attackerId defenderId attackId actions env = .ok d) :
    (∃ row ∈ db.pvpAttacks, row.attackId = attackId ∧ row.attackerId = attackerId ∧
      d = .answer row) ∨
      ∃ r p, d = .pay r p ∧ r.attackId = attackId ∧
        ¬ Holds PvpAttackResult.attackId db.pvpAttacks attackId := by
  simp only [decidePvpAttack, bind, Except.bind, pure, Except.pure, throw, throwThe,
    MonadExceptOf.throw] at h
  split at h
  · cases h
  split at h
  next existing hfind =>
    split at h
    · cases h
    next howner =>
    cases h
    exact Or.inl ⟨existing, List.mem_of_find?_eq_some hfind, by simpa using List.find?_some hfind,
      not_not.mp howner, rfl⟩
  next hnone =>
  have hfree : ¬ Holds PvpAttackResult.attackId db.pvpAttacks attackId := by
    rintro ⟨row, hrow, hid⟩
    exact List.find?_eq_none.mp hnone row hrow (decide_eq_true hid)
  split at h
  · cases h
  split at h
  · cases h
  split at h
  · cases h
  split at h
  · cases h
  cases h
  exact Or.inr ⟨_, _, rfl, rfl, hfree⟩

theorem decidePilot_cases {db : Database} {userId matchId : String} {actions : List PvpAction}
    {env : Env} {d : Decision MatchSettlement}
    (h : decidePilot db userId matchId actions env = .ok d) :
    (∃ s, d = .answer s ∧ db.findStoredSettlement matchId = some s) ∨
      ∃ row r p, d = .pay r p ∧ db.findStoredSettlement matchId = none ∧ r.matchId = matchId ∧
        db.botMatch? matchId = some row ∧ row.playerId = userId := by
  simp only [decidePilot, bind, Except.bind, pure, Except.pure, throw, throwThe,
    MonadExceptOf.throw] at h
  split at h
  · cases h
  split at h
  · cases h
  next row hrow =>
  split at h
  · cases h
  next howner =>
  split at h
  next s hs =>
    cases h
    exact Or.inl ⟨s, rfl, hs⟩
  next hnone =>
  split at h
  · cases h
  split at h
  · cases h
  split at h
  · cases h
  split at h
  · cases h
  split at h
  · cases h
  split at h
  · cases h
  cases h
  exact Or.inr ⟨row, _, _, rfl, hnone, rfl, hrow, not_not.mp howner⟩

theorem decideVerified_cases {db : Database} {userId matchId : String} {actions : List PvpAction}
    {env : Env} {d : Decision MatchSettlement}
    (h : decideVerified db userId matchId actions env = .ok d) :
    (∃ s, d = .answer s ∧ db.findStoredSettlement matchId = some s) ∨
      ∃ row r p, d = .pay r p ∧ db.findStoredSettlement matchId = none ∧ r.matchId = matchId ∧
        db.botMatch? matchId = some row ∧ row.playerId = userId := by
  simp only [decideVerified, bind, Except.bind, pure, Except.pure, throw, throwThe,
    MonadExceptOf.throw] at h
  split at h
  · exact decidePilot_cases h
  split at h
  · cases h
  split at h
  next s hs =>
    split at h
    · cases h
    cases h
    exact Or.inl ⟨s, rfl, hs⟩
  next hnone =>
  split at h
  · cases h
  next row hrow =>
  split at h
  · cases h
  next howner =>
  split at h
  · cases h
  split at h
  · cases h
  cases h
  exact Or.inr ⟨row, _, _, rfl, hnone, rfl, hrow, not_not.mp howner⟩

theorem decideRealm_cases {db : Database} {userId id : String} {actions : List PvpAction}
    {env : Env} {d : Decision RealmResult} (h : decideRealm db userId id actions env = .ok d) :
    (∃ row ∈ db.realmTickets, ∃ r, row.id = id ∧ row.result = some r ∧ d = .answer r) ∨
      ∃ row ∈ db.realmTickets, ∃ r p, row.id = id ∧ d = .pay r p ∧ r.settlement.matchId = id ∧
        db.findStoredSettlement id = none := by
  rcases decideRealm_inv h with hanswer |
    ⟨row, hmem, career, summary, eligible, hid, -, -, -, hfree, -, hpay⟩
  · exact Or.inl hanswer
  · exact Or.inr ⟨row, hmem, _, _, hid, hpay, (ticketSettlement_id _ _ _ _ _ _).1, hfree⟩

end Replays

theorem decideAbandon_cases {db : Database} {userId id : String} {env : Env}
    {d : Decision (Option RealmResult)} (h : decideAbandon db userId id env = .ok d) :
    d = .answer none ∨ ∃ row ∈ db.realmTickets, ∃ r p, row.id = id ∧ d = .pay (some r) p ∧
      r.settlement.matchId = row.document.matchId ∧
      db.findStoredSettlement row.document.matchId = none := by
  rcases decideAbandon_inv h with hanswer | ⟨row, hmem, career, hid, -, -, -, hfree, hpay⟩
  · exact Or.inl hanswer
  · exact Or.inr ⟨row, hmem, _, _, hid, hpay, (abandonSettlement_id _ _ _).1, hfree⟩

/-! ### What a commit leaves -/

/-- A commit leaves the store as it is, or writes what it has decided. -/
theorem Attempt.commit_cases {attempt : Attempt} {db : Database} {M : Database → Prop} (h : M db)
    (hrecord : ∀ r, attempt.decision = .ok (.record r) → M (attempt.record r db))
    (hpay : ∀ r p, attempt.decision = .ok (.pay r p) → attempt.refusal = none →
      M (attempt.write r p db)) :
    M (attempt.commit db).2 := by
  unfold Attempt.commit
  split
  · exact h
  · exact h
  next r hr => exact hrecord r hr
  next r p hp =>
    split
    · exact h
    next hnone => exact hpay r p hp hnone

theorem refuseSettlement_none {ρ : Type} {db : Database} {m : String}
    (h : (refuseSettlement db m : Option (Except StoreError ρ)) = none) :
    ¬ Holds MatchSettlementRow.matchId db.matchSettlements m := by
  unfold refuseSettlement at h
  split at h
  · cases h
  next hfree => exact hfree

/-- A ticket that is closed is nobody's match. -/
theorem Keeps.closeTicket {u : String} {db db' : Database} (hids : IdsOk db) (userId : String)
    {result : RealmResult} (state : RealmTicketState) (hrealm : RealmId result.settlement.matchId)
    (hfree : ¬ Holds MatchSettlementRow.matchId db.matchSettlements result.settlement.matchId)
    (hclaims : SameClaims db db')
    (hsettlements : db'.matchSettlements =
      (db.closeRealmTicket userId result state).matchSettlements)
    (hbots : db'.botMatches = db.botMatches)
    (htickets : db'.realmTickets = (db.closeRealmTicket userId result state).realmTickets) :
    Keeps [u] db db' := by
  have hclose := hids.closeTicket userId result state
  refine Keeps.of_settlement hclaims ⟨?_, ?_, ?_⟩
    (hsettlements.trans (insertNew_of_new hfree).symm) (fun m row h => ⟨row, ?_, rfl⟩)
    (fun row hrow r h => ?_) fun k hk => absurd hk (not_owns_realm hids hrealm)
  · rw [hbots]
    exact hids.bots
  · rw [htickets]
    exact hclose.tickets
  · rw [htickets, hsettlements]
    exact hclose.results
  · unfold Database.botMatch?
    rw [hbots]
    exact h
  · -- a ticket with a result is settled, so it is not this one
    have hother : row.id ≠ result.settlement.matchId := fun heq =>
      hfree (heq ▸ hids.results row hrow (by rw [h]; rfl))
    refine ⟨row, ?_, rfl, h⟩
    rw [htickets]
    exact List.mem_map.mpr ⟨row, hrow, if_neg hother⟩

section Calls

variable [MathLib]

/-- **What a call leaves**: claims and settlements only grow, and the settlement is of a
match of its players, or of no player. -/
theorem commit_keeps {seen db : Database} {call : RewardCall} (hseen : IdsOk seen)
    (hids : IdsOk db) (hsees : ∀ u ∈ call.users, Sees u seen db) :
    Keeps call.users db ((call.attempt seen db).commit db).2 := by
  have hown : ∀ {u m : String} {row : BotMatchRow}, seen.botMatch? m = some row →
      row.playerId = u → Sees u seen db → ∀ k, Owns db k m → u = k := by
    intro u m row hrow hplayer hsees k hk
    exact (Owns.mono hsees.grows (Or.inr ⟨row, hrow, hplayer⟩)).unique hids hk
  refine Attempt.commit_cases (Keeps.refl hids) (fun r hr => ?_) fun r p hp hfree => ?_
  · cases call with
    | daily => exact Keeps.refl hids
    | league => exact Keeps.refl hids
    | level userId levelId claimId actions env =>
      have hsame : SameClaims db (Database.reachLevel userId r db) :=
        ⟨rfl, rfl, rfl, rfl, rfl, rfl, rfl⟩
      exact Keeps.of_claims hids hsame.grow rfl rfl rfl rfl
    | weekly => exact Keeps.refl hids
    | lane => exact Keeps.refl hids
    | live => exact Keeps.refl hids
    | bot => exact Keeps.refl hids
    | realm => exact Keeps.refl hids
    | abandon => exact Keeps.refl hids
    | attack => exact Keeps.refl hids
    | match2v2 => exact Keeps.refl hids
  · have hsame := (SameClaims.refl db).grow
    cases call with
    | daily userId rewardType claimId env =>
      exact Keeps.of_claims hids { hsame with daily := List.prefix_append _ _ } rfl rfl rfl rfl
    | league userId rankId claimId env =>
      exact Keeps.of_claims hids { hsame with league := List.prefix_append _ _ } rfl rfl rfl rfl
    | level userId levelId claimId actions env =>
      exact Keeps.of_claims hids { hsame with level := List.prefix_append _ _ } rfl rfl rfl rfl
    | weekly userId week slot claimId actions env =>
      exact Keeps.of_claims hids { hsame with weekly := List.prefix_append _ _ } rfl rfl rfl rfl
    | lane userId levelId claimId actions env =>
      exact Keeps.of_claims hids { hsame with lane := List.prefix_append _ _ } rfl rfl rfl rfl
    | live userId status stats startedAt env =>
      obtain ⟨-, hid⟩ := decideMatch_pays hp
      refine Keeps.of_settlement ⟨rfl, rfl, rfl, rfl, rfl, rfl, rfl⟩
        ⟨hids.bots, hids.tickets, fun row hrow h =>
          (hids.results row hrow h).mono (prefix_insertNew _ _)⟩ rfl
        (fun m row h => ⟨row, h, rfl⟩) (fun row hrow r h => ⟨row, hrow, rfl, h⟩) fun k hk => ?_
      dsimp only at hk
      rw [hid] at hk
      exact Owns.unique hids (Or.inl ⟨startedAt, rfl⟩) hk
    | bot userId matchId actions env =>
      rcases decideVerified_cases hp with ⟨s, hs, -⟩ | ⟨row, r', p', hpay, -, hid, hrow, hplayer⟩
      · cases hs
      · cases hpay
        have hclose : IdsOk (db.closeBotMatch matchId) := hids.close matchId
        refine Keeps.of_settlement ⟨rfl, rfl, rfl, rfl, rfl, rfl, rfl⟩
          ⟨hclose.bots, hclose.tickets, fun row hrow h =>
            (hids.results row hrow h).mono (prefix_insertNew _ _)⟩ rfl
          (fun m row h => botMatch?_close h) (fun row hrow r h => ⟨row, hrow, rfl, h⟩) fun k hk => ?_
        dsimp only at hk
        rw [hid] at hk
        exact hown hrow hplayer (hsees userId (List.mem_singleton_self _)) k hk
    | realm userId id actions env =>
      rcases decideRealm_cases hp with ⟨row, -, r', -, -, hanswer⟩ |
        ⟨row, hrow, r', p', hid, hpay, hmatch, -⟩
      · cases hanswer
      · cases hpay
        have hrealm : RealmId r.settlement.matchId := by
          rw [hmatch, ← hid]
          exact (hseen.tickets row hrow).2
        have hnew := refuseSettlement_none hfree
        rw [← hmatch] at hnew
        refine Keeps.closeTicket hids userId .settled hrealm hnew ?_ ?_ ?_ ?_
        · dsimp only [RewardCall.attempt]
          split <;> exact ⟨rfl, rfl, rfl, rfl, rfl, rfl, rfl⟩
        · dsimp only [RewardCall.attempt]
          split <;> rfl
        · dsimp only [RewardCall.attempt]
          split <;> rfl
        · dsimp only [RewardCall.attempt]
          split <;> rfl
    | abandon userId id env =>
      rcases decideAbandon_cases hp with hanswer | ⟨row, hrow, r', p', hid, hpay, hmatch, -⟩
      · cases hanswer
      · cases hpay
        obtain ⟨hdocument, hrealm⟩ := hseen.tickets row hrow
        have hclosed : r'.settlement.matchId = id := hmatch.trans (hdocument.trans hid)
        have hnew := refuseSettlement_none hfree
        rw [← hclosed] at hnew
        refine Keeps.closeTicket hids userId .abandoned ?_ hnew
          ⟨rfl, rfl, rfl, rfl, rfl, rfl, rfl⟩ rfl rfl rfl
        rw [hclosed, ← hid]
        exact hrealm
    | attack attackerId defenderId attackId actions env =>
      exact Keeps.of_claims hids { hsame with attacks := List.prefix_append _ _ } rfl rfl rfl rfl
    | match2v2 request clock => exact Keeps.match2v2 hids request p clock

end Calls

/-! ### What else happens to the store -/

/-- Rows that no operation but a reward call writes. -/
structure SameRewards (db db' : Database) : Prop extends SameClaims db db' where
  settlements : db'.matchSettlements = db.matchSettlements
  bots : db'.botMatches = db.botMatches
  tickets : db'.realmTickets = db.realmTickets

theorem SameRewards.keeps {db db' : Database} (h : SameRewards db db') (hids : IdsOk db) :
    Keeps [] db db' :=
  Keeps.of_claims hids h.toSameClaims.grow h.settlements h.multi h.bots h.tickets

theorem SameRewards.refl (db : Database) : SameRewards db db :=
  ⟨SameClaims.refl db, rfl, rfl, rfl⟩

theorem runCareer_same [MathLib] {db : Database} {op : CareerOp} (h : op.background = true) :
    SameRewards db (db.runCareer op) := by
  have hsame : ∀ db' : Database, SameRewards db' db' := SameRewards.refl
  cases op with
  | store op hop =>
    cases op with
    | purchaseUpgrade userId upgrade purchaseId now =>
      refine committed_inv (hsame db) (fun _ _ => hsame db) fun _ _ _ => ?_
      exact ⟨⟨rfl, rfl, rfl, rfl, rfl, rfl, rfl⟩, rfl, rfl, rfl⟩
    | fulfillCoinOrder payment env =>
      refine committed_inv (hsame db) (fun _ _ => hsame db) fun _ _ _ => ?_
      exact ⟨⟨rfl, rfl, rfl, rfl, rfl, rfl, rfl⟩, rfl, rfl, rfl⟩
    | recordCoinRefund id reference note env =>
      refine committed_inv (hsame db) (fun _ _ => hsame db) fun _ _ _ => ?_
      exact ⟨⟨rfl, rfl, rfl, rfl, rfl, rfl, rfl⟩, rfl, rfl, rfl⟩
    | _ => cases h
  | _ => exact ⟨⟨rfl, rfl, rfl, rfl, rfl, rfl, rfl⟩, rfl, rfl, rfl⟩

theorem Keeps.insertBotMatch {db : Database} (hids : IdsOk db) {row : BotMatchRow}
    (hrow : BotId row.matchId) : Keeps [] db (db.insertBotMatch row) where
  grows :=
    { Grows.refl db with
      bots := fun m old h => by
        have hgrow : db.botMatches <+: (db.insertBotMatch row).botMatches := prefix_insertNew _ _
        obtain ⟨rest, hrest⟩ := hgrow
        refine ⟨old, ?_, rfl⟩
        unfold Database.botMatch? at *
        rw [← hrest, List.find?_append, h]
        rfl }
  ids := ⟨fun r hr => by
    rcases mem_insertNew hr with hold | rfl
    · exact hids.bots r hold
    · exact hrow, hids.tickets, hids.results⟩
  others _ _ _ _ := rfl
  parts _ _ _ h := h

theorem Keeps.insertRealmTicket {db : Database} (hids : IdsOk db) {row : RealmTicketRow}
    (hrow : row.document.matchId = row.id ∧ RealmId row.id) (hactive : row.result = none) :
    Keeps [] db (db.insertRealmTicket row) where
  grows :=
    { Grows.refl db with
      results := fun old hold r hr => ⟨old, (prefix_insertNew _ _).subset hold, rfl, hr⟩ }
  ids := ⟨hids.bots, fun r hr => by
    rcases mem_insertNew hr with hold | rfl
    · exact hids.tickets r hold
    · exact hrow, fun r hr hsome => by
    rcases mem_insertNew hr with hold | rfl
    · exact hids.results r hold hsome
    · rw [hactive] at hsome
      cases hsome⟩
  others _ _ _ _ := rfl
  parts _ _ _ h := h

theorem apply_keeps [MathLib] {db : Database} (hids : IdsOk db) (event : StoreEvent) :
    Keeps [] db (db.apply event) := by
  cases event with
  | run op =>
    show Keeps [] db (if op.background then db.runCareer op else db)
    split
    next h => exact (runCareer_same h).keeps hids
    · exact Keeps.refl hids
  | createBotMatch suffix row => exact Keeps.insertBotMatch hids ⟨suffix, Or.inl rfl⟩
  | createPilotPractice suffix row => exact Keeps.insertBotMatch hids ⟨suffix, Or.inr rfl⟩
  | startRealmAttack suffix row => exact Keeps.insertRealmTicket hids ⟨rfl, suffix, rfl⟩ rfl
  | publish pvpDefenses coinOrders =>
    have hsame : SameRewards db (db.apply (.publish pvpDefenses coinOrders)) :=
      ⟨⟨rfl, rfl, rfl, rfl, rfl, rfl, rfl⟩, rfl, rfl, rfl⟩
    exact hsame.keeps hids

end CrownClash.Store
