import CrownClash.Store.RewardsOnce
import Mathlib.Data.List.Perm.Subperm

/-!
# Store: all runs of the reward calls

What holds of every interleaving of reward calls.  A reward is paid at most once
(`Grants`), whoever calls with whatever ids.  A call under an id that is stored when it
begins writes nothing and is told what is stored, or refused (`Told`).  A call that fails
has written nothing.
-/

namespace CrownClash.Store

open Lib
open Go (PlayerCareer defaultModifiers)

/-! ### Told what is stored -/

/-- The claim that is stored under the id, of the same player and for the same reward. -/
def ToldClaim {κ ρ : Type} (rows : List (ClaimRow κ ρ)) (userId : String) (subject : κ)
    (claimId : String) (replay : ρ → ρ) (r : ρ) : Prop :=
  ∃ row ∈ rows, row.claimId = claimId ∧ row.playerId = userId ∧ row.subject = subject ∧
    replay row.result = r

def replayedLevel (result : LevelClaimResult) : LevelClaimResult := { result with replayed := true }

/-- An answer to a call that does not pay: a refusal, or what is stored under its id. -/
inductive Told (db : Database) : RewardCall → Except StoreError Reply → Prop
  | refused (call : RewardCall) (e : StoreError) : Told db call (.error e)
  | daily {userId : String} {rewardType : DailyRewardType} {claimId : String} {env : Env}
    {r : ClaimResult (String × DailyRewardType)}
    (h : r.success = false ∨
      ToldClaim db.dailyRewardClaims userId (env.dayKey, rewardType) claimId replayed r) :
    Told db (.daily userId rewardType claimId env) (.ok (.daily r))
  | league {userId rankId claimId : String} {env : Env} {r : ClaimResult String}
    (h : r.success = false ∨ ToldClaim db.leagueRewardClaims userId rankId claimId replayed r) :
    Told db (.league userId rankId claimId env) (.ok (.league r))
  | level {userId : String} {levelId : ℤ} {claimId : String} {actions : List PvpAction} {env : Env}
    {r : LevelClaimResult}
    (h : r.success = false ∨
      ToldClaim db.levelRewardClaims userId levelId claimId replayedLevel r) :
    Told db (.level userId levelId claimId actions env) (.ok (.level r))
  | weekly {userId : String} {week slot : ℤ} {claimId : String} {actions : List PvpAction}
    {env : Env} {r : ClaimResult (ℤ × ℤ)}
    (h : r.success = false ∨
      ToldClaim db.weeklyChallengeClaims userId (week, slot) claimId replayed r) :
    Told db (.weekly userId week slot claimId actions env) (.ok (.weekly r))
  | lane {userId : String} {levelId : ℤ} {claimId : String} {actions : List LaneAction} {env : Env}
    {r : ClaimResult ℤ}
    (h : r.success = false ∨ ToldClaim db.laneRewardClaims userId levelId claimId replayed r) :
    Told db (.lane userId levelId claimId actions env) (.ok (.lane r))
  | live {userId : String} {status : MatchStatus} {stats : MatchStats} {startedAt : ℤ} {env : Env}
    {row : MatchSettlementRow} (hrow : row ∈ db.matchSettlements)
    (h : row.matchId = Go.livePlayerMatchId startedAt userId) :
    Told db (.live userId status stats startedAt env) (.ok (.settlement row.settlement))
  | bot {userId matchId : String} {actions : List PvpAction} {env : Env}
    {row : MatchSettlementRow} (hrow : row ∈ db.matchSettlements) (h : row.matchId = matchId) :
    Told db (.bot userId matchId actions env) (.ok (.settlement row.settlement))
  | realm {userId id : String} {actions : List PvpAction} {env : Env} {row : RealmTicketRow}
    {r : RealmResult} (hrow : row ∈ db.realmTickets) (h : row.id = id) (hr : row.result = some r) :
    Told db (.realm userId id actions env) (.ok (.realm (some r)))
  | abandon (userId id : String) (env : Env) : Told db (.abandon userId id env) (.ok (.realm none))
  | attack {attackerId defenderId attackId : String} {actions : List PvpAction} {env : Env}
    {row : PvpAttackResult} (hrow : row ∈ db.pvpAttacks) (h : row.attackId = attackId)
    (howner : row.attackerId = attackerId) :
    Told db (.attack attackerId defenderId attackId actions env) (.ok (.attack row))
  | match2v2 {request : Settle2v2Request} {clock : Clock} {rows : List MatchSettlementMultiRow}
    (hrows : rows.Subperm (db.matchSettlementsMulti.filter fun row => row.matchId = request.matchId))
    (hlen : (rows.length : ℤ) = live2v2MaxPlayers) :
    Told db (.match2v2 request clock) (.ok (.match2v2 (rows.map MatchSettlementMultiRow.settlement)))

theorem ToldClaim.mono {κ ρ : Type} {rows rows' : List (ClaimRow κ ρ)} {userId : String}
    {subject : κ} {claimId : String} {replay : ρ → ρ} {r : ρ}
    (h : ToldClaim rows userId subject claimId replay r) (hgrow : rows <+: rows') :
    ToldClaim rows' userId subject claimId replay r := by
  obtain ⟨row, hrow, hrest⟩ := h
  exact ⟨row, hgrow.subset hrow, hrest⟩

/-- What a call has been told is still stored later on. -/
theorem Told.mono {db db' : Database} (h : Grows db db') {call : RewardCall}
    {a : Except StoreError Reply} (htold : Told db call a) : Told db' call a := by
  cases htold with
  | refused call e => exact .refused call e
  | daily ht => exact .daily (ht.imp id fun ht => ht.mono h.daily)
  | league ht => exact .league (ht.imp id fun ht => ht.mono h.league)
  | level ht => exact .level (ht.imp id fun ht => ht.mono h.level)
  | weekly ht => exact .weekly (ht.imp id fun ht => ht.mono h.weekly)
  | lane ht => exact .lane (ht.imp id fun ht => ht.mono h.lane)
  | live hrow hid => exact .live (h.settlements.subset hrow) hid
  | bot hrow hid => exact .bot (h.settlements.subset hrow) hid
  | realm hrow hid hr =>
    obtain ⟨row', hrow', hid', hr'⟩ := h.results _ hrow _ hr
    exact .realm hrow' (hid'.trans hid) hr'
  | abandon userId id env => exact .abandon userId id env
  | attack hrow hid howner => exact .attack (h.attacks.subset hrow) hid howner
  | match2v2 hrows hlen =>
    exact .match2v2 (hrows.trans (h.multi.filter _).sublist.subperm) hlen

/-! ### The first look -/

section Claims

variable {κ ρ : Type} [DecidableEq κ]

theorem findStoredClaim_some {rows : List (ClaimRow κ ρ)} {ownership mismatch : StoreError}
    {userId : String} {subject : κ} {claimId : String} {r : ρ}
    (h : findStoredClaim rows ownership mismatch userId subject claimId = .ok (some r))
    (replay : ρ → ρ) : ToldClaim rows userId subject claimId replay (replay r) := by
  unfold findStoredClaim at h
  split at h
  · cases h
  next row hfind =>
    split at h
    · cases h
    next howner =>
    split at h
    · cases h
    next hsubject =>
    cases h
    exact ⟨row, List.mem_of_find?_eq_some hfind, by simpa using List.find?_some hfind,
      not_not.mp howner, not_not.mp hsubject, rfl⟩

theorem findStoredClaim_none {rows : List (ClaimRow κ ρ)} {ownership mismatch : StoreError}
    {userId : String} {subject : κ} {claimId : String}
    (h : findStoredClaim rows ownership mismatch userId subject claimId = .ok none) :
    ¬ Holds ClaimRow.claimId rows claimId := by
  rintro ⟨row, hrow, hid⟩
  unfold findStoredClaim at h
  split at h
  next hnone => exact List.find?_eq_none.mp hnone row hrow (decide_eq_true hid)
  · split at h
    · cases h
    split at h
    · cases h
    · cases h

theorem lookClaim_told {rows : List (ClaimRow κ ρ)} {ownership mismatch : StoreError}
    {userId : String} {subject : κ} {claimId : String} {replay : ρ → ρ} {r : ρ}
    (h : lookClaim rows ownership mismatch userId subject claimId replay = some (.ok r)) :
    ToldClaim rows userId subject claimId replay r := by
  unfold lookClaim at h
  split at h
  · cases h
  · cases h
  next existing hexisting =>
    cases h
    exact findStoredClaim_some hexisting replay

omit [DecidableEq κ] in
theorem lookBattle_ok {σ : Type} {summary : Except StoreError σ} {status : σ → MatchStatus}
    {lost r : ρ} {look : Option (Except StoreError ρ)}
    (h : lookBattle summary status lost look = some (.ok r)) : r = lost ∨ look = some (.ok r) := by
  unfold lookBattle at h
  split at h
  · cases h
  · split at h
    · cases h
      exact Or.inl rfl
    · exact Or.inr h

end Claims

section Calls

variable [MathLib]

theorem lookLevel_told {db : Database} {userId : String} {levelId : ℤ} {claimId : String}
    {actions : List PvpAction} {r : LevelClaimResult}
    (h : lookLevel db userId levelId claimId actions = some (.ok r)) :
    r.success = false ∨
      ToldClaim db.levelRewardClaims userId levelId claimId replayedLevel r := by
  unfold lookLevel at h
  split at h
  · cases h
  rcases lookBattle_ok h with rfl | hlook
  · exact Or.inl rfl
  · exact Or.inr (lookClaim_told hlook)

theorem lookWeekly_told {db : Database} {userId : String} {week slot : ℤ} {claimId : String}
    {actions : List PvpAction} {env : Env} {r : ClaimResult (ℤ × ℤ)}
    (h : lookWeekly db userId week slot claimId actions env = some (.ok r)) :
    r.success = false ∨
      ToldClaim db.weeklyChallengeClaims userId (week, slot) claimId replayed r := by
  unfold lookWeekly at h
  split at h
  · cases h
  split at h
  · cases h
    exact Or.inl rfl
  rcases lookBattle_ok h with rfl | hlook
  · exact Or.inl rfl
  · exact Or.inr (lookClaim_told hlook)

theorem lookLane_told {db : Database} {userId : String} {levelId : ℤ} {claimId : String}
    {actions : List LaneAction} {r : ClaimResult ℤ}
    (h : lookLane db userId levelId claimId actions = some (.ok r)) :
    r.success = false ∨ ToldClaim db.laneRewardClaims userId levelId claimId replayed r := by
  unfold lookLane at h
  split at h
  · cases h
  rcases lookBattle_ok h with rfl | hlook
  · exact Or.inl rfl
  · exact Or.inr (lookClaim_told hlook)

omit [MathLib] in
theorem lookBot_told {db : Database} {userId matchId : String} {env : Env} {s : MatchSettlement}
    (h : lookBot db userId matchId env = some (.ok s)) :
    db.findStoredSettlement matchId = some s := by
  unfold lookBot at h
  split at h
  · cases h
  split at h
  · cases h
  split at h
  next existing hexisting =>
    split at h
    · cases h
    · cases h
      exact hexisting
  · split at h
    · cases h
    · split at h <;> cases h

omit [MathLib] in
theorem lookAttack_told {db : Database} {attackerId defenderId attackId : String} {env : Env}
    {r : PvpAttackResult} (h : lookAttack db attackerId defenderId attackId env = some (.ok r)) :
    r ∈ db.pvpAttacks ∧ r.attackId = attackId ∧ r.attackerId = attackerId := by
  unfold lookAttack at h
  split at h
  · cases h
  split at h
  next existing hfind =>
    split at h
    · cases h
    next howner =>
    cases h
    exact ⟨List.mem_of_find?_eq_some hfind, by simpa using List.find?_some hfind,
      not_not.mp howner⟩
  · split at h <;> cases h

omit [MathLib] in
theorem findStored2v2_told {db : Database} {request : Settle2v2Request}
    {settlements : List MatchSettlement}
    (h : findStored2v2Settlements db.toMatchTables request.matchId = .ok (some settlements))
    (clock : Clock) : Told db (.match2v2 request clock) (.ok (.match2v2 settlements)) := by
  simp only [findStored2v2Settlements] at h
  split at h
  · cases h
  split at h
  · cases h
  next hlen =>
  cases h
  refine .match2v2 (perm_sortBy _ _).subperm ?_
  rw [List.length_map] at hlen
  exact not_not.mp hlen

omit [MathLib] in
theorem look2v2_told {db : Database} {request : Settle2v2Request}
    {settlements : List MatchSettlement} (h : look2v2 db request = some (.ok settlements))
    (clock : Clock) : Told db (.match2v2 request clock) (.ok (.match2v2 settlements)) := by
  unfold look2v2 at h
  split at h
  · cases h
  split at h
  · cases h
  next stored hstored =>
    cases h
    exact findStored2v2_told hstored clock
  · cases h

omit [MathLib] in
/-- An answer of the first look, as a reply. -/
theorem map_look {ρ : Type} {look : Option (Except StoreError ρ)} {reply : ρ → Reply}
    {a : Except StoreError Reply} (h : look.map (Except.map reply) = some a) :
    (∃ e, a = .error e) ∨ ∃ r, look = some (.ok r) ∧ a = .ok (reply r) := by
  obtain ⟨b, hb, rfl⟩ := Option.map_eq_some_iff.mp h
  cases b with
  | error e => exact Or.inl ⟨e, rfl⟩
  | ok r => exact Or.inr ⟨r, hb, rfl⟩

/-- **Who is answered by the first look is told what is stored, or refused.** -/
theorem look_told {db : Database} {call : RewardCall} {a : Except StoreError Reply}
    (h : call.look db = some a) : Told db call a := by
  cases call with
  | daily =>
    rcases map_look h with ⟨e, rfl⟩ | ⟨r, hr, rfl⟩
    · exact .refused _ e
    · exact .daily (Or.inr (lookClaim_told hr))
  | league =>
    rcases map_look h with ⟨e, rfl⟩ | ⟨r, hr, rfl⟩
    · exact .refused _ e
    · exact .league (Or.inr (lookClaim_told hr))
  | level =>
    rcases map_look h with ⟨e, rfl⟩ | ⟨r, hr, rfl⟩
    · exact .refused _ e
    · exact .level (lookLevel_told hr)
  | weekly =>
    rcases map_look h with ⟨e, rfl⟩ | ⟨r, hr, rfl⟩
    · exact .refused _ e
    · exact .weekly (lookWeekly_told hr)
  | lane =>
    rcases map_look h with ⟨e, rfl⟩ | ⟨r, hr, rfl⟩
    · exact .refused _ e
    · exact .lane (lookLane_told hr)
  | live =>
    obtain ⟨s, hs, rfl⟩ := Option.map_eq_some_iff.mp h
    obtain ⟨row, hrow, hid, rfl⟩ := findStored_some hs
    exact .live hrow hid
  | bot =>
    rcases map_look h with ⟨e, rfl⟩ | ⟨r, hr, rfl⟩
    · exact .refused _ e
    · obtain ⟨row, hrow, hid, rfl⟩ := findStored_some (lookBot_told hr)
      exact .bot hrow hid
  | realm => cases h
  | abandon => cases h
  | attack =>
    rcases map_look h with ⟨e, rfl⟩ | ⟨r, hr, rfl⟩
    · exact .refused _ e
    · obtain ⟨hrow, hid, howner⟩ := lookAttack_told hr
      exact .attack hrow hid howner
  | match2v2 request clock =>
    rcases map_look h with ⟨e, rfl⟩ | ⟨r, hr, rfl⟩
    · exact .refused _ e
    · exact look2v2_told hr clock

end Calls

/-! ### What is decided about a claim -/

/-- A decision that answers tells what is stored or refuses, and one that writes has
found nothing under the id; when it pays, nothing for the reward. -/
def DecidesClaim {κ ρ : Type} [DecidableEq κ] (rows : List (ClaimRow κ ρ)) (userId : String)
    (subject : κ) (claimId : String) (replay : ρ → ρ) (success : ρ → Bool) (d : Decision ρ) :
    Prop :=
  (∃ r, d = .answer r ∧ (success r = false ∨ ToldClaim rows userId subject claimId replay r)) ∨
    ¬ Holds ClaimRow.claimId rows claimId ∧
      ((∃ r, d = .record r) ∨ (∃ r p, d = .pay r p) ∧ claimed rows userId subject = false)

theorem decideDaily_cases {db : Database} {userId : String} {rewardType : DailyRewardType}
    {claimId : String} {env : Env} {d : Decision (ClaimResult (String × DailyRewardType))}
    (h : decideDaily db userId rewardType claimId env = .ok d) :
    DecidesClaim db.dailyRewardClaims userId (env.dayKey, rewardType) claimId replayed
      ClaimResult.success d := by
  simp only [decideDaily, bind, Except.bind, pure, Except.pure, throw, throwThe,
    MonadExceptOf.throw] at h
  split at h
  · cases h
  next found hfound =>
  split at h
  · cases h
    exact Or.inl ⟨_, rfl, Or.inr (findStoredClaim_some hfound replayed)⟩
  have hfree := findStoredClaim_none hfound
  split at h
  · cases h
  split at h
  · cases h
    exact Or.inl ⟨_, rfl, Or.inl rfl⟩
  split at h
  · cases h
  next hnew =>
  cases h
  exact Or.inr ⟨hfree, Or.inr ⟨⟨_, _, rfl⟩, Bool.eq_false_iff.mpr hnew⟩⟩

theorem decideLeague_cases {db : Database} {userId rankId claimId : String} {env : Env}
    {d : Decision (ClaimResult String)} (h : decideLeague db userId rankId claimId env = .ok d) :
    DecidesClaim db.leagueRewardClaims userId rankId claimId replayed ClaimResult.success d := by
  simp only [decideLeague, bind, Except.bind, pure, Except.pure] at h
  split at h
  · cases h
  next found hfound =>
  split at h
  · cases h
    exact Or.inl ⟨_, rfl, Or.inr (findStoredClaim_some hfound replayed)⟩
  have hfree := findStoredClaim_none hfound
  split at h
  · cases h
  split at h
  · cases h
    exact Or.inl ⟨_, rfl, Or.inl rfl⟩
  split at h
  · cases h
    exact Or.inl ⟨_, rfl, Or.inl rfl⟩
  next hnew =>
  split at h
  · cases h
    exact Or.inl ⟨_, rfl, Or.inl rfl⟩
  cases h
  exact Or.inr ⟨hfree, Or.inr ⟨⟨_, _, rfl⟩, Bool.eq_false_iff.mpr hnew⟩⟩

section Calls

variable [MathLib]

theorem decideLevel_cases {db : Database} {userId : String} {levelId : ℤ} {claimId : String}
    {actions : List PvpAction} {env : Env} {d : Decision LevelClaimResult}
    (h : decideLevel db userId levelId claimId actions env = .ok d) :
    DecidesClaim db.levelRewardClaims userId levelId claimId replayedLevel
      (fun r => r.success) d := by
  simp only [decideLevel, bind, Except.bind, pure, Except.pure, throw, throwThe,
    MonadExceptOf.throw] at h
  split at h
  · cases h
  split at h
  · cases h
  split at h
  · cases h
    exact Or.inl ⟨_, rfl, Or.inl rfl⟩
  split at h
  · cases h
  next found hfound =>
  split at h
  · cases h
    exact Or.inl ⟨_, rfl, Or.inr (findStoredClaim_some hfound replayedLevel)⟩
  have hfree := findStoredClaim_none hfound
  split at h
  · cases h
  split at h
  · cases h
    exact Or.inl ⟨_, rfl, Or.inl rfl⟩
  split at h
  · cases h
    exact Or.inr ⟨hfree, Or.inl ⟨_, rfl⟩⟩
  next hnew =>
    cases h
    exact Or.inr ⟨hfree, Or.inr ⟨⟨_, _, rfl⟩, Bool.eq_false_iff.mpr hnew⟩⟩

theorem decideWeekly_cases {db : Database} {userId : String} {week slot : ℤ} {claimId : String}
    {actions : List PvpAction} {env : Env} {d : Decision (ClaimResult (ℤ × ℤ))}
    (h : decideWeekly db userId week slot claimId actions env = .ok d) :
    DecidesClaim db.weeklyChallengeClaims userId (week, slot) claimId replayed
      ClaimResult.success d := by
  simp only [decideWeekly, bind, Except.bind, pure, Except.pure, throw, throwThe,
    MonadExceptOf.throw] at h
  split at h
  · cases h
  split at h
  · cases h
    exact Or.inl ⟨_, rfl, Or.inl rfl⟩
  split at h
  · cases h
  split at h
  · cases h
    exact Or.inl ⟨_, rfl, Or.inl rfl⟩
  split at h
  · cases h
  next found hfound =>
  split at h
  · cases h
    exact Or.inl ⟨_, rfl, Or.inr (findStoredClaim_some hfound replayed)⟩
  have hfree := findStoredClaim_none hfound
  split at h
  · cases h
  split at h
  · cases h
    exact Or.inr ⟨hfree, Or.inl ⟨_, rfl⟩⟩
  next hnew =>
    cases h
    exact Or.inr ⟨hfree, Or.inr ⟨⟨_, _, rfl⟩, Bool.eq_false_iff.mpr hnew⟩⟩

theorem decideLane_cases {db : Database} {userId : String} {levelId : ℤ} {claimId : String}
    {actions : List LaneAction} {env : Env} {d : Decision (ClaimResult ℤ)}
    (h : decideLane db userId levelId claimId actions env = .ok d) :
    DecidesClaim db.laneRewardClaims userId levelId claimId replayed ClaimResult.success d := by
  simp only [decideLane, bind, Except.bind, pure, Except.pure, throw, throwThe,
    MonadExceptOf.throw] at h
  split at h
  · cases h
  split at h
  · cases h
  split at h
  · cases h
    exact Or.inl ⟨_, rfl, Or.inl rfl⟩
  split at h
  · cases h
  next found hfound =>
  split at h
  · cases h
    exact Or.inl ⟨_, rfl, Or.inr (findStoredClaim_some hfound replayed)⟩
  have hfree := findStoredClaim_none hfound
  split at h
  · cases h
  split at h
  · cases h
    exact Or.inr ⟨hfree, Or.inl ⟨_, rfl⟩⟩
  next hnew =>
    cases h
    exact Or.inr ⟨hfree, Or.inr ⟨⟨_, _, rfl⟩, Bool.eq_false_iff.mpr hnew⟩⟩

omit [MathLib] in
/-- A decision that answers leaves the store alone. -/
theorem Attempt.commit_answers {attempt : Attempt} {T : Except StoreError Reply → Prop}
    (herror : ∀ e, T (.error e))
    (h : ∀ d, attempt.decision = .ok d → ∃ r, d = .answer r ∧ T (.ok (attempt.reply r)))
    (db : Database) : (attempt.commit db).2 = db ∧ T (attempt.commit db).1 := by
  unfold Attempt.commit
  split
  · exact ⟨rfl, herror _⟩
  next r hr =>
    obtain ⟨r', hr', ht⟩ := h _ hr
    cases hr'
    exact ⟨rfl, ht⟩
  next r hr =>
    obtain ⟨r', hr', -⟩ := h _ hr
    cases hr'
  next r p hp =>
    obtain ⟨r', hr', -⟩ := h _ hp
    cases hr'

omit [MathLib] in
/-- What is decided about a claim whose id is stored. -/
theorem DecidesClaim.answer {κ ρ : Type} [DecidableEq κ] {rows : List (ClaimRow κ ρ)} {userId : String}
    {subject : κ} {claimId : String} {replay : ρ → ρ} {success : ρ → Bool} {d : Decision ρ}
    (hd : DecidesClaim rows userId subject claimId replay success d)
    (h : Holds ClaimRow.claimId rows claimId) :
    ∃ r, d = .answer r ∧ (success r = false ∨ ToldClaim rows userId subject claimId replay r) := by
  rcases hd with hanswer | ⟨hfree, -⟩
  · exact hanswer
  · exact absurd h hfree

/-- **A call that has read its id as stored answers.** -/
theorem attempt_stored {seen : Database} (hids : IdsOk seen) {call : RewardCall}
    (h : call.IdStored seen) (db : Database) :
    ((call.attempt seen db).commit db).2 = db ∧
      Told seen call ((call.attempt seen db).commit db).1 := by
  refine Attempt.commit_answers (Told.refused call) (fun d hd => ?_) db
  cases call with
  | daily =>
    obtain ⟨r, hr, ht⟩ := (decideDaily_cases hd).answer h
    exact ⟨r, hr, .daily ht⟩
  | league =>
    obtain ⟨r, hr, ht⟩ := (decideLeague_cases hd).answer h
    exact ⟨r, hr, .league ht⟩
  | level =>
    obtain ⟨r, hr, ht⟩ := (decideLevel_cases hd).answer h
    exact ⟨r, hr, .level ht⟩
  | weekly =>
    obtain ⟨r, hr, ht⟩ := (decideWeekly_cases hd).answer h
    exact ⟨r, hr, .weekly ht⟩
  | lane =>
    obtain ⟨r, hr, ht⟩ := (decideLane_cases hd).answer h
    exact ⟨r, hr, .lane ht⟩
  | live userId status stats startedAt env =>
    obtain ⟨s, hs⟩ := findStored_of_holds h
    obtain ⟨row, hrow, hid, rfl⟩ := findStored_some hs
    have hanswer : d = .answer row.settlement :=
      Except.ok.inj (hd.symm.trans (decideMatch_stored hs))
    exact ⟨_, hanswer, .live hrow hid⟩
  | bot =>
    rcases decideVerified_cases hd with ⟨s, rfl, hs⟩ | ⟨-, -, -, -, hnone, -⟩
    · obtain ⟨row, hrow, hid, rfl⟩ := findStored_some hs
      exact ⟨_, rfl, .bot hrow hid⟩
    · exact absurd h (findStored_none hnone)
  | realm =>
    rcases decideRealm_cases hd with ⟨row, hrow, r, hid, hr, rfl⟩ | ⟨-, -, -, -, -, -, -, hnone⟩
    · exact ⟨r, rfl, .realm hrow hid hr⟩
    · exact absurd h (findStored_none hnone)
  | abandon userId id env =>
    rcases decideAbandon_cases hd with rfl | ⟨row, hrow, -, -, hid, -, -, hnone⟩
    · exact ⟨none, rfl, .abandon userId id env⟩
    · rw [(hids.tickets row hrow).1, hid] at hnone
      exact absurd h (findStored_none hnone)
  | attack =>
    rcases decideAttack_cases hd with ⟨row, hrow, hid, howner, rfl⟩ | ⟨-, -, -, -, hfree⟩
    · exact ⟨row, rfl, .attack hrow hid howner⟩
    · exact absurd h hfree
  | match2v2 request clock =>
    rcases decide2v2Locked_cases hd with ⟨stored, rfl, hstored⟩ | ⟨-, -, -, hnone⟩
    · exact ⟨stored, rfl, findStored2v2_told hstored clock⟩
    · obtain ⟨row, hrow, hid⟩ := h
      exact absurd hid (findStored_none_iff.mp hnone row hrow)

/-! ### A call on its own -/

omit [MathLib] in
/-- A claim that pays is refused by no key, if nothing has been stored since. -/
theorem DecidesClaim.accepted {κ ρ : Type} [DecidableEq κ] {rows : List (ClaimRow κ ρ)}
    {userId : String} {subject : κ} {claimId : String} {replay : ρ → ρ} {success : ρ → Bool}
    {r : ρ} {p : Payment}
    (hd : DecidesClaim rows userId subject claimId replay success (.pay r p)) :
    ¬ Holds ClaimRow.claimId rows claimId ∧ claimed rows userId subject = false := by
  rcases hd with ⟨r', hr', -⟩ | ⟨hfree, ⟨r', hr'⟩ | ⟨-, hnew⟩⟩
  · cases hr'
  · cases hr'
  · exact ⟨hfree, hnew⟩

omit [MathLib] in
theorem refuseClaim_accepted {κ ρ : Type} [DecidableEq κ] {rows : List (ClaimRow κ ρ)}
    {userId : String} {subject : κ} {claimId : String}
    (h : ¬ Holds ClaimRow.claimId rows claimId ∧ claimed rows userId subject = false) :
    refuseClaim rows userId subject claimId = none :=
  if_neg fun hrefused => hrefused.elim h.1 fun hclaimed => Bool.false_ne_true (h.2.symm.trans hclaimed)

omit [MathLib] in
theorem refuseSettlement_accepted {ρ : Type} {db : Database} {m : String}
    (h : db.findStoredSettlement m = none) :
    (refuseSettlement db m : Option (Except StoreError ρ)) = none := if_neg (findStored_none h)

/-- What a call has decided on the store that it commits to, nothing refuses. -/
theorem accepted_alone {db : Database} (hids : IdsOk db) {call : RewardCall}
    {r : (call.attempt db db).ρ} {p : (call.attempt db db).π}
    (h : (call.attempt db db).decision = .ok (.pay r p)) : (call.attempt db db).refusal = none := by
  cases call with
  | daily => exact refuseClaim_accepted (decideDaily_cases h).accepted
  | league =>
    obtain ⟨hfree, hnew⟩ := (decideLeague_cases h).accepted
    exact (if_neg hfree).trans (if_neg (Bool.eq_false_iff.mp hnew))
  | level => exact refuseClaim_accepted (decideLevel_cases h).accepted
  | weekly => exact refuseClaim_accepted (decideWeekly_cases h).accepted
  | lane => exact refuseClaim_accepted (decideLane_cases h).accepted
  | live => rfl
  | bot userId matchId actions env =>
    rcases decideVerified_cases h with ⟨s, hs, -⟩ | ⟨-, -, -, -, hnone, -⟩
    · cases hs
    · show (if _ then _ else none) = none
      split
      · exact refuseSettlement_accepted hnone
      · rfl
  | realm =>
    rcases decideRealm_cases h with ⟨-, -, r', -, -, hanswer⟩ | ⟨-, -, r', p', -, -, -, hnone⟩
    · cases hanswer
    · exact refuseSettlement_accepted hnone
  | abandon =>
    rcases decideAbandon_cases h with hanswer | ⟨row, hrow, -, -, hid, -, -, hnone⟩
    · cases hanswer
    · rw [(hids.tickets row hrow).1, hid] at hnone
      exact refuseSettlement_accepted hnone
  | attack =>
    rcases decideAttack_cases h with ⟨row, -, -, -, hanswer⟩ | ⟨-, -, -, -, hfree⟩
    · cases hanswer
    · exact if_neg hfree
  | match2v2 => rfl

/-- What a decision comes to that nothing refuses. -/
def accepted {ρ π : Type} (db : Database) (decision : Except StoreError (Decision ρ π))
    (record : ρ → Database → Database) (write : ρ → π → Database → Database) : Database :=
  match decision with
  | .error _ => db
  | .ok (.answer _) => db
  | .ok (.record r) => record r db
  | .ok (.pay r p) => write r p db

omit [MathLib] in
theorem Attempt.commit_accepted {attempt : Attempt}
    (h : ∀ r p, attempt.decision = .ok (.pay r p) → attempt.refusal = none) (db : Database) :
    (attempt.commit db).2 = accepted db attempt.decision attempt.record attempt.write := by
  unfold Attempt.commit
  cases hd : attempt.decision with
  | error e => rfl
  | ok d =>
    cases d with
    | answer r => rfl
    | record r => rfl
    | pay r p =>
      have hnone := h r p hd
      dsimp only
      rw [hnone]
      rfl

omit [MathLib] in
theorem committed_decision {ρ : Type} (db : Database) (decision : Except StoreError (Decision ρ))
    (record write : ρ → Database → Database) :
    committed db (decision.map fun d => d.commit db record write) =
      accepted db decision record fun r p db => write r (db.pay p) := by
  cases decision with
  | error e => rfl
  | ok d => cases d <;> rfl

omit [MathLib] in
/-- The settlement of a 2v2 match looks before it locks and after, and nobody is between. -/
theorem settleMatch2v2_locked (db : Database) (request : Settle2v2Request) (clock : Clock) :
    committed db (db.settleMatch2v2 request clock) =
      accepted db (decide2v2Locked db request clock) (fun _ db => db) fun _ careers db =>
        { db with toMatchTables := persist2v2 db.toMatchTables request careers clock } := by
  simp only [Database.settleMatch2v2, decide2v2, decide2v2Locked, bind, Except.bind, pure,
    Except.pure]
  cases validateSettle2v2Request request with
  | error e => rfl
  | ok =>
    cases findStored2v2Settlements db.toMatchTables request.matchId with
    | error e => cases getCareersForUpdate db.toAccounts _ <;> rfl
    | ok stored =>
      cases stored <;> cases getCareersForUpdate db.toAccounts _ <;> rfl

/-- **A call that nobody disturbs does what the operation does.** -/
theorem commit_alone {db : Database} (hids : IdsOk db) (call : RewardCall) :
    ((call.attempt db db).commit db).2 = db.run call.op := by
  rw [Attempt.commit_accepted fun r p => accepted_alone hids]
  cases call with
  | match2v2 request clock => exact (settleMatch2v2_locked db request clock).symm
  | _ =>
    simp only [RewardCall.op, Database.run, Database.claimDailyReward, Database.claimLeagueReward,
      Database.completeLevelVerified, Database.completeWeeklyVerified,
      Database.completeLaneVerified, Database.settleMatch, Database.settleMatchVerified,
      Database.settleRealmAttack, Database.abandonRealmAttack, Database.settlePvpAttack,
      committed_decision]
    rfl

/-! ### Paying once -/

omit [MathLib] in
theorem Attempt.pays_cases {attempt : Attempt} (h : attempt.pays = true) :
    ∃ r p, attempt.decision = .ok (.pay r p) ∧ attempt.refusal = none := by
  unfold Attempt.pays at h
  split at h
  next r p hdecision hrefusal => exact ⟨r, p, hdecision, hrefusal⟩
  · cases h

omit [MathLib] in
theorem Attempt.commit_pays {attempt : Attempt} {r : attempt.ρ} {p : attempt.π}
    (hdecision : attempt.decision = .ok (.pay r p)) (hrefusal : attempt.refusal = none)
    (db : Database) : (attempt.commit db).2 = attempt.write r p db := by
  unfold Attempt.commit
  rw [hdecision, hrefusal]

omit [MathLib] in
theorem claimed_append {κ ρ : Type} [DecidableEq κ] (rows : List (ClaimRow κ ρ))
    (row : ClaimRow κ ρ) : claimed (rows ++ [row]) row.playerId row.subject = true :=
  claimed_iff.mpr ⟨row, List.mem_append_right _ (List.mem_singleton_self row), rfl, rfl⟩

omit [MathLib] in
theorem persist2v2_part (db : MatchTables) (request : Settle2v2Request)
    (careers : String → PlayerCareer) (clock : Clock) (k : Fin 4) :
    Holds MatchSettlementMultiRow.key (persist2v2 db request careers clock).matchSettlementsMulti
      (request.matchId, request.user k) := by
  rw [persist2v2_multi]
  have hrow := List.mem_map_of_mem (f := fun k => multiRow request.matchId (request.participants k)
    (settlements2v2 request careers clock k)) (List.mem_finRange k)
  exact holds_insertAll hrow

/-- **What is paid is recorded.** -/
theorem pays_recorded {seen db : Database} (hseen : IdsOk seen) {call : RewardCall}
    (h : (call.attempt seen db).pays = true) {key : RewardKey} (hkey : key ∈ call.keys) :
    ((call.attempt seen db).commit db).2.recorded key = true := by
  obtain ⟨r, p, hdecision, hrefusal⟩ := Attempt.pays_cases h
  rw [Attempt.commit_pays hdecision hrefusal]
  cases call with
  | daily userId rewardType claimId env =>
    obtain rfl := List.mem_singleton.mp hkey
    exact claimed_append _ ⟨claimId, userId, (env.dayKey, rewardType), r⟩
  | league userId rankId claimId env =>
    obtain rfl := List.mem_singleton.mp hkey
    exact claimed_append _ ⟨claimId, userId, rankId, r⟩
  | level userId levelId claimId actions env =>
    obtain rfl := List.mem_singleton.mp hkey
    exact claimed_append _ ⟨claimId, userId, levelId, r⟩
  | weekly userId week slot claimId actions env =>
    obtain rfl := List.mem_singleton.mp hkey
    exact claimed_append _ ⟨claimId, userId, (week, slot), r⟩
  | lane userId levelId claimId actions env =>
    obtain rfl := List.mem_singleton.mp hkey
    exact claimed_append _ ⟨claimId, userId, levelId, r⟩
  | live userId status stats startedAt env =>
    obtain rfl := List.mem_singleton.mp hkey
    obtain ⟨-, hid⟩ := decideMatch_pays hdecision
    exact decide_eq_true (hid ▸ holds_insertNew _ _)
  | bot userId matchId actions env =>
    obtain rfl := List.mem_singleton.mp hkey
    rcases decideVerified_cases hdecision with ⟨s, hs, -⟩ | ⟨-, r', p', hpay, -, hid, -, -⟩
    · cases hs
    · cases hpay
      exact decide_eq_true (hid ▸ holds_insertNew _ _)
  | realm userId id actions env =>
    obtain rfl := List.mem_singleton.mp hkey
    rcases decideRealm_cases hdecision with ⟨-, -, r', -, -, hanswer⟩ |
      ⟨-, -, r', p', -, hpay, hmatch, -⟩
    · cases hanswer
    · cases hpay
      have hclosed : Holds MatchSettlementRow.matchId
          ((db.pay p).closeRealmTicket userId r .settled).matchSettlements id :=
        holds_append.mpr (Or.inr ⟨_, List.mem_singleton_self _, hmatch⟩)
      refine decide_eq_true ?_
      dsimp only [RewardCall.attempt]
      split <;> exact hclosed
  | abandon userId id env =>
    obtain rfl := List.mem_singleton.mp hkey
    rcases decideAbandon_cases hdecision with hanswer | ⟨row, hrow, r', p', hid, hpay, hmatch, -⟩
    · cases hanswer
    · cases hpay
      rw [(hseen.tickets row hrow).1, hid] at hmatch
      exact decide_eq_true (holds_append.mpr (Or.inr ⟨_, List.mem_singleton_self _, hmatch⟩))
  | attack attackerId defenderId attackId actions env =>
    obtain rfl := List.mem_singleton.mp hkey
    rcases decideAttack_cases hdecision with ⟨row, -, -, -, hanswer⟩ | ⟨r', p', hpay, hid, -⟩
    · cases hanswer
    · cases hpay
      exact decide_eq_true (holds_append.mpr (Or.inr ⟨r, List.mem_singleton_self _, hid⟩))
  | match2v2 request clock =>
    obtain ⟨u, hu, rfl⟩ := List.mem_map.mp hkey
    obtain ⟨k, rfl⟩ := mem_userIds.mp hu
    exact decide_eq_true (persist2v2_part db.toMatchTables request p clock k)

omit [MathLib] in
theorem refuseClaim_none {κ ρ : Type} [DecidableEq κ] {rows : List (ClaimRow κ ρ)}
    {userId : String} {subject : κ} {claimId : String}
    (h : refuseClaim rows userId subject claimId = none) :
    claimed rows userId subject = false := by
  unfold refuseClaim at h
  split at h
  · cases h
  next hfree => exact Bool.eq_false_iff.mpr fun hclaimed => hfree (Or.inr hclaimed)

omit [MathLib] in
theorem refuseLeague_none {db : Database} {userId rankId claimId : String}
    (h : refuseLeague db userId rankId claimId = none) :
    claimed db.leagueRewardClaims userId rankId = false := by
  unfold refuseLeague at h
  split at h
  · split at h <;> cases h
  · split at h
    · cases h
    next hfree => exact Bool.eq_false_iff.mpr hfree

omit [MathLib] in
theorem refuseAttack_none {ρ : Type} {db : Database} {attackId : String}
    (h : (refuseAttack db attackId : Option (Except StoreError ρ)) = none) :
    ¬ Holds PvpAttackResult.attackId db.pvpAttacks attackId := by
  unfold refuseAttack at h
  split at h
  · cases h
  next hfree => exact hfree

/-- **What is recorded is not paid again.** -/
theorem not_pays {seen db : Database} {call : RewardCall}
    (hsees : ∀ u ∈ call.users, Sees u seen db) {key : RewardKey} (hkey : key ∈ call.keys)
    (h : db.recorded key = true) : (call.attempt seen db).pays ≠ true := by
  intro hpays
  obtain ⟨r, p, hdecision, hrefusal⟩ := Attempt.pays_cases hpays
  cases call with
  | daily =>
    obtain rfl := List.mem_singleton.mp hkey
    exact Bool.false_ne_true ((refuseClaim_none hrefusal).symm.trans h)
  | league =>
    obtain rfl := List.mem_singleton.mp hkey
    exact Bool.false_ne_true ((refuseLeague_none hrefusal).symm.trans h)
  | level =>
    obtain rfl := List.mem_singleton.mp hkey
    exact Bool.false_ne_true ((refuseClaim_none hrefusal).symm.trans h)
  | weekly =>
    obtain rfl := List.mem_singleton.mp hkey
    exact Bool.false_ne_true ((refuseClaim_none hrefusal).symm.trans h)
  | lane =>
    obtain rfl := List.mem_singleton.mp hkey
    exact Bool.false_ne_true ((refuseClaim_none hrefusal).symm.trans h)
  | live userId status stats startedAt env =>
    -- the match is of the player whose lock the call holds
    obtain rfl := List.mem_singleton.mp hkey
    obtain ⟨hnone, -⟩ := decideMatch_pays hdecision
    have hmine := hsees userId (List.mem_singleton_self _)
    have hstill := (hmine.settlements _ (Or.inl ⟨startedAt, rfl⟩)).trans hnone
    exact findStored_none hstill (of_decide_eq_true h)
  | bot userId matchId actions env =>
    obtain rfl := List.mem_singleton.mp hkey
    rcases decideVerified_cases hdecision with
      ⟨s, hs, -⟩ | ⟨row, r', p', -, hnone, -, hrow, hplayer⟩
    · cases hs
    · have hmine := hsees userId (List.mem_singleton_self _)
      have hstill := (hmine.settlements _ (Or.inr ⟨row, hrow, hplayer⟩)).trans hnone
      exact findStored_none hstill (of_decide_eq_true h)
  | realm =>
    obtain rfl := List.mem_singleton.mp hkey
    exact refuseSettlement_none hrefusal (of_decide_eq_true h)
  | abandon =>
    obtain rfl := List.mem_singleton.mp hkey
    exact refuseSettlement_none hrefusal (of_decide_eq_true h)
  | attack =>
    obtain rfl := List.mem_singleton.mp hkey
    exact refuseAttack_none hrefusal (of_decide_eq_true h)
  | match2v2 request clock =>
    -- the part is of one of the four whose locks the call holds
    obtain ⟨u, hu, rfl⟩ := List.mem_map.mp hkey
    rcases decide2v2Locked_cases hdecision with ⟨stored, hstored, -⟩ | ⟨-, -, -, hnone⟩
    · cases hstored
    · have hpart : PartStored db request.matchId u := of_decide_eq_true (p := Holds _ _ _) h
      obtain ⟨row, hrow, hid⟩ := (hsees u hu).parts request.matchId hpart
      exact findStored_none_iff.mp hnone row hrow (congrArg Prod.fst hid)

/-! ### Every interleaving -/

abbrev RewardEvent := TransactionEvent RewardCall StoreEvent

def Rewards.run (s : Rewards) (e : RewardEvent) : Rewards := s.step rewards e

/-- A step in which a reward is paid. -/
def Grants (key : RewardKey) (s : Rewards) (e : RewardEvent) : Prop :=
  ∃ i call seen, e = .commit i ∧ s.sessions i = .reading call seen ∧ key ∈ call.keys ∧
    (call.attempt seen s.db).pays = true

theorem rewards_keeps {s : Rewards} (h : s.Fresh rewards IdsOk Sees) (e : RewardEvent) :
    ∃ users, Keeps users s.db (s.run e).db := by
  rcases Sessions.step_db rewards s e with hdb | ⟨i, call, seen, -, hi, hdb, -⟩ | ⟨o, -, -, hdb⟩
  · refine ⟨[], ?_⟩
    show Keeps [] s.db (s.step rewards e).db
    rw [hdb]
    exact Keeps.refl h.inv
  · obtain ⟨hseen, hsees⟩ := h.view i call seen hi
    refine ⟨call.users, ?_⟩
    show Keeps _ s.db (s.step rewards e).db
    rw [hdb]
    exact commit_keeps hseen h.inv hsees
  · refine ⟨[], ?_⟩
    show Keeps [] s.db (s.step rewards e).db
    rw [hdb]
    exact apply_keeps h.inv o

theorem rewards_fresh {s : Rewards} (h : s.Fresh rewards IdsOk Sees) (e : RewardEvent) :
    (s.run e).Fresh rewards IdsOk Sees := by
  refine h.step Sees.refl Sees.trans (fun hseen hids hsees => ?_) (@fun db event hids => ?_) e
  · have hkeeps := commit_keeps hseen hids hsees
    exact ⟨hkeeps.ids, fun k hk => hkeeps.sees hk⟩
  · have hkeeps := apply_keeps hids event
    exact ⟨hkeeps.ids, fun k _ => hkeeps.sees List.not_mem_nil⟩

theorem grants_recorded {s : Rewards} (h : s.Fresh rewards IdsOk Sees) {key : RewardKey}
    {e : RewardEvent} (hgrants : Grants key s e) : (s.run e).db.recorded key = true := by
  obtain ⟨i, call, seen, rfl, hi, hkey, hpays⟩ := hgrants
  obtain ⟨hseen, -⟩ := h.view i call seen hi
  have hdb : (s.run (.commit i)).db = ((call.attempt seen s.db).commit s.db).2 := by
    show (s.commitStep rewards i).db = _
    simp only [Sessions.commitStep, hi]
    rfl
  rw [hdb]
  exact pays_recorded hseen hpays hkey

theorem recorded_not_grants {s : Rewards} (h : s.Fresh rewards IdsOk Sees) {key : RewardKey}
    {e : RewardEvent} (hrecorded : s.db.recorded key = true) : ¬ Grants key s e := by
  rintro ⟨i, call, seen, rfl, hi, hkey, hpays⟩
  exact not_pays (h.view i call seen hi).2 hkey hrecorded hpays

omit [MathLib] in
theorem emptyStore_ids : IdsOk emptyStore where
  bots _ h := (List.not_mem_nil h).elim
  tickets _ h := (List.not_mem_nil h).elim
  results _ h := (List.not_mem_nil h).elim

/-- **A reward is granted at most once.** -/
theorem grants_once (key : RewardKey) (events : List RewardEvent) :
    AtMostOnce Rewards.run (Grants key) (.start emptyStore) events := by
  have hkeep : ∀ (s : Rewards) (e : RewardEvent), s.Fresh rewards IdsOk Sees →
      s.db.recorded key = true → (s.run e).db.recorded key = true := by
    intro s e h hkey
    obtain ⟨u, hkeeps⟩ := rewards_keeps h e
    exact hkeeps.grows.recorded hkey
  exact @atMostOnce_of_invariant _ _ _ _ (fun s => s.Fresh rewards IdsOk Sees)
    (fun s => s.db.recorded key = true) (fun s e h => rewards_fresh h e)
    (fun s e h hg => grants_recorded h hg) hkeep (fun s e h hkey => recorded_not_grants h hkey)
    _ (Sessions.fresh_start emptyStore_ids) events

omit [MathLib] in
theorem RewardCall.users_nonempty (call : RewardCall) : ∃ u, u ∈ call.users := by
  cases call with
  | match2v2 request clock => exact ⟨_, mem_userIds.mpr ⟨⟨0, by decide⟩, rfl⟩⟩
  | _ => exact ⟨_, List.mem_singleton_self _⟩

/-- The call of a session is under an id that was stored when it began. -/
structure Late (i : ℕ) (call : RewardCall) (s : Rewards) : Prop where
  fresh : s.Fresh rewards IdsOk Sees
  stored : call.IdStored s.db
  session : (s.sessions i).call? = some call
  reads : ∀ seen, s.sessions i = .reading call seen → call.IdStored seen

theorem Late.step {i : ℕ} {call : RewardCall} {s : Rewards} (h : Late i call s)
    (e : RewardEvent) : Late i call (s.run e) := by
  obtain ⟨u, hkeeps⟩ := rewards_keeps h.fresh e
  refine ⟨rewards_fresh h.fresh e, hkeeps.grows.idStored h.stored,
    Sessions.step_call? rewards h.session, fun seen hreading => ?_⟩
  rcases Sessions.step_reading rewards hreading with hold | ⟨-, rfl⟩
  · exact h.reads seen hold
  · exact h.stored

/-- A step of the session writes nothing, and tells what is stored or refuses. -/
def OnlyTells (i : ℕ) (call : RewardCall) (s : Rewards) (e : RewardEvent) : Prop :=
  e.session? = some i → (s.run e).db = s.db ∧
    ∀ a, s.sessions i ≠ .returned call a → (s.run e).sessions i = .returned call a →
      Told s.db call a

theorem Late.onlyTells {i : ℕ} {call : RewardCall} {s : Rewards} (h : Late i call s)
    (e : RewardEvent) : OnlyTells i call s e := by
  have hcommit : ∀ {c : RewardCall} {seen : Database}, s.sessions i = .reading c seen →
      ((c.attempt seen s.db).commit s.db).2 = s.db ∧
        Told s.db c ((c.attempt seen s.db).commit s.db).1 := by
    intro c seen hi
    have hcall := h.session
    rw [hi] at hcall
    cases hcall
    obtain ⟨hseen, hsees⟩ := h.fresh.view i call seen hi
    obtain ⟨hdb, htold⟩ := attempt_stored hseen (h.reads seen hi) s.db
    obtain ⟨u, hu⟩ := call.users_nonempty
    exact ⟨hdb, htold.mono (hsees u hu).grows⟩
  intro hsession
  constructor
  · rcases Sessions.step_db rewards s e with hdb | ⟨j, c, seen, rfl, hj, hdb, -⟩ | ⟨o, rfl, -, -⟩
    · exact hdb
    · cases hsession
      exact hdb.trans (hcommit hj).1
    · cases hsession
  · intro a hold hnew
    rcases Sessions.step_returned rewards hnew with hsame | hlook | rfl | ⟨seen, hi, rfl⟩
    · exact absurd hsame hold
    · exact look_told hlook
    · exact .refused call .database
    · exact (hcommit hi).2

/-- A session changes the store only in the step in which it returns a result. -/
def WritesLast (s : Rewards) (e : RewardEvent) : Prop :=
  ∀ i, e.session? = some i → (s.run e).db ≠ s.db →
    ∃ call reply, (s.run e).sessions i = .returned call (.ok reply)

omit [MathLib] in
theorem Attempt.commit_ok (attempt : Attempt) (db : Database) :
    (attempt.commit db).2 = db ∨ ∃ reply, (attempt.commit db).1 = .ok reply := by
  unfold Attempt.commit
  split
  · exact Or.inl rfl
  · exact Or.inl rfl
  · exact Or.inr ⟨_, rfl⟩
  · split
    · exact Or.inl rfl
    · exact Or.inr ⟨_, rfl⟩

theorem writesLast (s : Rewards) (e : RewardEvent) : WritesLast s e := by
  intro i hsession hchange
  rcases Sessions.step_db rewards s e with hdb | ⟨j, c, seen, rfl, -, hdb, hnow⟩ | ⟨o, rfl, -, -⟩
  · exact absurd hdb hchange
  · cases hsession
    rcases Attempt.commit_ok (c.attempt seen s.db) s.db with hsame | ⟨reply, hreply⟩
    · exact absurd (hdb.trans hsame) hchange
    · exact ⟨c, reply, hnow.trans (congrArg _ hreply)⟩
  · cases hsession

/-- **Rewards are exactly once.**  In every interleaving of reward calls and other
transactions, whatever ids the calls come with: every reward is granted at most once; a
call that begins under an id that is stored writes nothing, and tells what is stored or
refuses; and no call writes anything before the step in which it returns its result. -/
theorem rewards_exactly_once (events : List RewardEvent) :
    (∀ key, AtMostOnce Rewards.run (Grants key) (.start emptyStore) events) ∧
    (∀ before i call after, before ++ .call i call :: after = events →
      let s : Rewards := before.foldl Rewards.run (.start emptyStore)
      s.sessions i = .idle → call.IdStored s.db →
        EachStep Rewards.run (OnlyTells i call) (s.run (.call i call)) after) ∧
    EachStep Rewards.run WritesLast (.start emptyStore) events := by
  refine ⟨fun key => grants_once key events, fun before i call after _ => ?_,
    fun before e _ => writesLast _ e⟩
  intro s hidle hstored
  have hfresh : s.Fresh rewards IdsOk Sees :=
    foldl_preserves (fun s e _ h => rewards_fresh h e) (Sessions.fresh_start emptyStore_ids)
  have hbegun : (s.run (.call i call)).sessions i = .begun call := by
    show (s.callStep i call).sessions i = _
    simp only [Sessions.callStep, hidle, Sessions.setSession_sessions, if_true]
  have hdb : (s.run (.call i call)).db = s.db := by
    show (s.callStep i call).db = s.db
    simp only [Sessions.callStep, hidle, Sessions.setSession]
  have hlate : Late i call (s.run (.call i call)) := by
    refine ⟨rewards_fresh hfresh _, hdb ▸ hstored, by rw [hbegun]; rfl, fun seen hreading => ?_⟩
    rw [hbegun] at hreading
    cases hreading
  exact eachStep_of_preserves (fun s e h => h.step e) (fun s e h => h.onlyTells e) hlate

/-! ### An id of another kind -/

/-- A battle without orders is accepted on every map for two. -/
theorem replayBattle_nil {battle : Go.BotMatch}
    (hversion : Go.supportedGameplayRules battle.rulesVersion = true)
    (hmap : battle.battlefieldId ≠ "quad_citadel") : ∃ p, replayBattle [] battle = .ok p := by
  have hstart : ∃ r, Go.initialReplay battle = .ok r := by
    simp only [Go.initialReplay, hmap, if_false]
    split
    · exact ⟨_, rfl⟩
    · exact ⟨_, rfl⟩
  obtain ⟨r, hr⟩ := hstart
  have hrun : Go.simulateBotBattleWithCommander [] battle =
      .ok ((Go.finishBattle battle [] r).state, Go.battleSummary (Go.finishBattle battle [] r)) := by
    unfold Go.simulateBotBattleWithCommander
    rw [if_neg fun hunsupported => Bool.noConfusion (hversion.symm.trans hunsupported), if_neg (by decide), hr]
    rfl
  unfold replayBattle
  rw [hrun]
  exact ⟨_, rfl⟩

omit [MathLib] in
theorem crownCross_ne : "crown_cross" ≠ "quad_citadel" := by decide

/-- An attack that nobody has made yet pays, whatever else is stored under its id. -/
theorem settlePvpAttack_pays {db : Database} {attackerId defenderId attackId : String} {env : Env}
    {row : PlayerRow} {modifiers : PlayerUpgradeModifiers} (hpilot : env.pilotEnabled = false)
    (hfree : ¬ Holds PvpAttackResult.attackId db.pvpAttacks attackId)
    (hother : attackerId ≠ defenderId) (hrow : db.players attackerId = some row)
    (hdefense : db.pvpDefenses defenderId = some modifiers) :
    let db' := db.run (.settlePvpAttack attackerId defenderId attackId [] env)
    coinsOf db.toAccounts attackerId < coinsOf db'.toAccounts attackerId ∧
      ∃ result ∈ db'.pvpAttacks, result.settlement.matchId = attackId := by
  have hnone : (db.pvpAttacks.find? fun row => row.attackId = attackId) = none :=
    List.find?_eq_none.mpr fun r hr hid => hfree ⟨r, hr, of_decide_eq_true hid⟩
  have hcareer : db.getCareerForUpdate attackerId = .ok (careerFromRow attackerId row) := by
    unfold Database.getCareerForUpdate Accounts.career?
    rw [hrow]
    rfl
  obtain ⟨p, hp⟩ := @replayBattle_nil _
    ⟨Go.upgradeModifiers (careerFromRow attackerId row), modifiers, "crown_cross",
      currentGameplayRulesVersion, .normal, none⟩ rfl crownCross_ne
  let settlement := settleMatch (careerFromRow attackerId row) p.2.status p.2.stats attackId
    env.nowMillis
  have hdecide : ∃ revenge, decidePvpAttack db attackerId defenderId attackId [] env = .ok (.pay
      ⟨attackId, attackerId, defenderId, revenge, p.2, settlement⟩ (settlementPayment settlement)) := by
    simp only [decidePvpAttack, hpilot, hnone, hother, hcareer, hdefense, hp, bind, Except.bind,
      pure, Except.pure, Bool.false_eq_true, if_false]
    exact ⟨_, rfl⟩
  obtain ⟨revenge, hdecide⟩ := hdecide
  simp only [Database.run, Database.settlePvpAttack, hdecide]
  constructor
  · have hpay : coinsOf (db.toAccounts.pay (settlementPayment settlement)) attackerId =
        settlement.newCareer.coins :=
      (coinsOf_pay (p := settlementPayment settlement) hrow attackerId).trans (if_pos rfl)
    have hhad : coinsOf db.toAccounts attackerId = row.coins := by
      unfold coinsOf
      rw [hrow]
      rfl
    have hmore := settle_coins (careerFromRow attackerId row) p.2.status p.2.stats attackId
      env.nowMillis rankedPolicy
    change coinsOf db.toAccounts attackerId < coinsOf (db.toAccounts.pay _) attackerId
    rw [hpay, hhad]
    exact hmore
  · exact ⟨_, List.mem_append_right _ (List.mem_singleton_self _), rfl⟩

end Calls

/-- A live match of anna's is settled, and bob publishes his defence. -/
def settledLive : List RewardEvent :=
  .other (.run (.getOrCreateCareer "anna")) ::
    Sessions.steps 0 (.live "anna" .draw MatchStats.zero 5000 ⟨95000, "", 0, 0, false⟩) ++
    [.other (.publish (fun _ => some defaultModifiers) [])]

/-- Anna attacks him under the id of her match. -/
def attackUnderItsId : List RewardEvent :=
  Sessions.steps 1 (.attack "anna" "bob" (Go.livePlayerMatchId 5000 "anna") []
    ⟨100000, "", 0, 0, false⟩)

/-- **An attack can take the id of a match that is settled**, and pays once more under it. -/
theorem attack_pays_settled_match :
    let settled : Rewards := settledLive.foldl (@Rewards.run decimalHypot) (.start emptyStore)
    let attacked := attackUnderItsId.foldl (@Rewards.run decimalHypot) settled
    settled.db.recorded (.ofMatch (Go.livePlayerMatchId 5000 "anna")) = true ∧
      settled.sessions 1 = .idle ∧
      coinsOf settled.db.toAccounts "anna" < coinsOf attacked.db.toAccounts "anna" ∧
      ∃ result ∈ attacked.db.pvpAttacks,
        result.settlement.matchId = Go.livePlayerMatchId 5000 "anna" := by
  intro settled attacked
  have hids : IdsOk settled.db :=
    (foldl_preserves (fun s e _ h => @rewards_fresh decimalHypot s h e)
      (Sessions.fresh_start emptyStore_ids) : settled.Fresh _ _ _).inv
  have hidle : settled.sessions 1 = .idle := rfl
  have hlook : (@rewards decimalHypot).look settled.db (.attack "anna" "bob"
      (Go.livePlayerMatchId 5000 "anna") [] ⟨100000, "", 0, 0, false⟩) = none := rfl
  have hfree : ∀ k ∈ ["anna"], settled.lockedBy k = none := by
    intro k hk
    obtain rfl := List.mem_singleton.mp hk
    rfl
  have hdb : attacked.db = @Database.run decimalHypot settled.db (.settlePvpAttack "anna" "bob"
      (Go.livePlayerMatchId 5000 "anna") [] ⟨100000, "", 0, 0, false⟩) :=
    (Sessions.foldl_steps hidle hlook hfree).trans (@commit_alone decimalHypot _ hids _)
  have hrow : ∃ row, settled.db.players "anna" = some row := ⟨_, rfl⟩
  obtain ⟨row, hrow⟩ := hrow
  refine ⟨by decide +kernel, hidle, ?_⟩
  rw [hdb]
  exact @settlePvpAttack_pays decimalHypot _ _ _ _ _ row defaultModifiers rfl
    (fun ⟨r, hr, _⟩ => List.not_mem_nil hr) (by decide) hrow rfl

end CrownClash.Store
