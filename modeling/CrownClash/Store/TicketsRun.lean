import CrownClash.Store.BotMatches
import CrownClash.Store.Elsewhere
import CrownClash.Store.RealmRun

/-!
# Store: what tickets are issued with

A ticket can be played: its map is one that is shipped, its rules are known and its modifiers
are ones that a match may begin with (`TicketFair`, `PracticeFair`).  It stays what it is in
every run: a ticket or a bot match is closed, and nothing else of it is written
(`Carries`).  As long as it is open it is not settled, when what happens elsewhere settles
none (`Ordinary`).
-/

namespace CrownClash.Store

open Lib
open Go (PlayerCareer ModifiersOk roundMultiplier)

/-! ### Modifiers -/

theorem effectiveLevel_mem (policy : CombatPolicy) (level opponent : ℤ) :
    effectiveLevel policy level opponent ∈ Finset.Icc (0 : ℤ) 20 := by
  cases policy with
  | equal =>
    show (0 : ℤ) ∈ Finset.Icc (0 : ℤ) 20
    decide
  | bounded =>
    show min (min 20 (max 0 level)) (min 20 (max 0 opponent) + 2) ∈ _
    exact Finset.mem_Icc.mpr ⟨by omega, by omega⟩

/-- At every level an army marches, with nine tenths of its speed as well. -/
theorem realmSpeed_pos : ∀ level ∈ Finset.Icc (0 : ℤ) 20,
    0 < exactValue (roundMultiplier (1 + Float.ofInt level * 0.015)) ∧
      0 < exactValue (roundMultiplier ((1 + Float.ofInt level * 0.015) * 0.9)) ∧
      0 < exactValue (roundMultiplier ((1 + Float.ofInt level * 0.015) * 1.15)) := by
  decide +kernel

theorem realmModifiers_ok (levels opponent : CombatLevels) (commander : String)
    (policy : CombatPolicy) : ModifiersOk (realmModifiers levels opponent commander policy) := by
  have hgarrison := Finset.mem_Icc.mp (effectiveLevel_mem policy levels.garrison opponent.garrison)
  obtain ⟨hplain, hslow, hfast⟩ :=
    realmSpeed_pos _ (effectiveLevel_mem policy levels.armySpeed opponent.armySpeed)
  unfold realmModifiers
  dsimp only
  split
  · exact ⟨by dsimp only; omega, hslow⟩
  · split
    · exact ⟨by dsimp only; omega, hfast⟩
    · exact ⟨by dsimp only; omega, hplain⟩

/-! ### Rules -/

theorem negotiatedAsyncRulesUpTo_range (supported : List ℤ) : ∀ ceiling : ℕ,
    2 ≤ negotiatedAsyncRulesUpTo supported ceiling ∧
      negotiatedAsyncRulesUpTo supported ceiling ≤ (max 2 ceiling : ℕ) := by
  intro ceiling
  induction ceiling with
  | zero =>
    show (2 : ℤ) ≤ 2 ∧ (2 : ℤ) ≤ (max 2 0 : ℕ)
    omega
  | succ version ih =>
    unfold negotiatedAsyncRulesUpTo
    split
    · omega
    · split
      · omega
      · omega

theorem realmRules_range (server : RealmServer) (supported : List ℤ) :
    2 ≤ negotiatedAsyncRulesUpTo supported
        (min server.asyncGameplayRulesVersion TacticalRulesVersion) ∧
      negotiatedAsyncRulesUpTo supported
        (min server.asyncGameplayRulesVersion TacticalRulesVersion) ≤ 3 := by
  obtain ⟨hlow, hhigh⟩ := negotiatedAsyncRulesUpTo_range supported
    (min server.asyncGameplayRulesVersion TacticalRulesVersion)
  have hceiling : min server.asyncGameplayRulesVersion TacticalRulesVersion ≤ 3 :=
    Nat.min_le_right _ _
  omega

/-! ### What is issued -/

structure TicketFair (ticket : RealmTicket) : Prop where
  battlefield : ticket.battlefieldId = "crown_cross"
  player : ModifiersOk ticket.playerModifiers
  enemy : ModifiersOk ticket.enemyModifiers
  rules : 2 ≤ ticket.gameplayRulesVersion ∧ ticket.gameplayRulesVersion ≤ 3

structure PracticeFair (row : BotMatchRow) (pilot : PilotPractice) : Prop where
  named : isPilotPractice row.matchId = true
  battlefield : pilot.battlefieldId = "crown_cross"
  modifiers : ModifiersOk pilot.modifiers
  rules : 2 ≤ pilot.gameplayRulesVersion ∧ pilot.gameplayRulesVersion ≤ 3

/-- An open ticket has no result, and the document has its id. -/
structure TicketIssued (row : RealmTicketRow) : Prop where
  fair : TicketFair row.document
  fresh : row.state = .active → row.result = none
  matchId : row.document.matchId = row.id
  named : RealmId row.id

structure MatchIssued (row : BotMatchRow) : Prop where
  named : BotId row.matchId
  fair : ∀ pilot, row.pilot = some pilot → PracticeFair row pilot

/-- What holds of everything that was issued.  What is settled is closed. -/
structure Issued (db : RealmStore) : Prop where
  tickets : ∀ row ∈ db.realmTickets, TicketIssued row
  bots : ∀ row ∈ db.botMatches, MatchIssued row
  ids : (db.botMatches.map BotMatchRow.matchId).Nodup
  ticketClosed : ∀ id, RealmId id → ∀ s, db.findStoredSettlement id = some s →
    ∃ row ∈ db.realmTickets, row.id = id ∧ row.state ≠ .active
  matchClosed : ∀ id, BotId id → ∀ s, db.findStoredSettlement id = some s →
    ∃ row ∈ db.botMatches, row.matchId = id ∧ row.settled = true

theorem issued_start (now : ℤ) : Issued (RealmWorld.start now).store where
  tickets _ h := (List.not_mem_nil h).elim
  bots _ h := (List.not_mem_nil h).elim
  ids := List.nodup_nil
  ticketClosed _ _ _ h := by cases h
  matchClosed _ _ _ h := by cases h

section Issued

variable {db : RealmStore}

/-- The bot match of an id. -/
theorem Issued.botMatch? (h : Issued db) {row : BotMatchRow} (hrow : row ∈ db.botMatches) :
    db.botMatch? row.matchId = some row := by
  unfold Database.botMatch?
  cases hfind : db.botMatches.find? fun r => r.matchId = row.matchId with
  | none =>
    have hnot := List.find?_eq_none.mp hfind row hrow
    exact absurd (decide_eq_true rfl) hnot
  | some found =>
    have hid : found.matchId = row.matchId := by simpa using List.find?_some hfind
    rw [List.inj_on_of_nodup_map h.ids (List.mem_of_find?_eq_some hfind) hrow hid]

/-- A ticket that is active is not settled. -/
theorem Issued.ticket_unsettled (h : Issued db) {row : RealmTicketRow}
    (hrow : row ∈ db.realmTickets) (hactive : row.state = .active)
    (hunique : ∀ other ∈ db.realmTickets, other.id = row.id → other = row) :
    db.findStoredSettlement row.id = none := by
  cases hfind : db.findStoredSettlement row.id with
  | none => rfl
  | some s =>
    obtain ⟨other, hother, hid, hclosed⟩ := h.ticketClosed row.id (h.tickets row hrow).named s hfind
    rw [hunique other hother hid] at hclosed
    exact absurd hactive hclosed

/-- A bot match that is open is not settled. -/
theorem Issued.match_unsettled (h : Issued db) {row : BotMatchRow} (hrow : row ∈ db.botMatches)
    (hopen : row.settled = false) : db.findStoredSettlement row.matchId = none := by
  cases hfind : db.findStoredSettlement row.matchId with
  | none => rfl
  | some s =>
    obtain ⟨other, hother, hid, hsettled⟩ :=
      h.matchClosed row.matchId (h.bots row hrow).named s hfind
    rw [List.inj_on_of_nodup_map h.ids hother hrow hid, hopen] at hsettled
    cases hsettled

end Issued

/-! ### What an operation does to it -/

/-- What an operation may do to tickets and bot matches. -/
structure Carries (a b : RealmStore) : Prop where
  issued : Issued a → Issued b
  /-- A bot match is closed, and nothing else happens to it. -/
  matches_kept : ∀ row ∈ a.botMatches, ∃ settled, { row with settled := settled } ∈ b.botMatches
  players : ∀ u, (a.players u).isSome → (b.players u).isSome
  stored : ∀ id, Issuable id → ∀ s, a.findStoredSettlement id = some s →
    b.findStoredSettlement id = some s

theorem Carries.refl (a : RealmStore) : Carries a a :=
  ⟨id, fun row hrow => ⟨row.settled, hrow⟩, fun _ h => h, fun _ _ _ h => h⟩

theorem Carries.trans {a b c : RealmStore} (h : Carries a b) (g : Carries b c) : Carries a c where
  issued ha := g.issued (h.issued ha)
  matches_kept row hrow := by
    obtain ⟨settled, hmem⟩ := h.matches_kept row hrow
    obtain ⟨settled', hmem'⟩ := g.matches_kept _ hmem
    exact ⟨settled', hmem'⟩
  players u hu := g.players u (h.players u hu)
  stored id hid s hs := g.stored id hid s (h.stored id hid s hs)

section Steps

variable {a b : RealmStore}

/-- Rows are added, and nothing is settled. -/
theorem Carries.add (tickets : List RealmTicketRow) (bots : List BotMatchRow)
    (hissued : ∀ row ∈ tickets, TicketIssued row) (hbots : ∀ row ∈ bots, MatchIssued row)
    (hids : (a.botMatches.map BotMatchRow.matchId).Nodup →
      (b.botMatches.map BotMatchRow.matchId).Nodup)
    (htickets : b.realmTickets = a.realmTickets ++ tickets)
    (hmatches : b.botMatches = a.botMatches ++ bots)
    (hsettles : Settles none a.toDatabase b.toDatabase) : Carries a b where
  issued h :=
    { tickets := fun row hrow => by
        rw [htickets] at hrow
        rcases List.mem_append.mp hrow with hold | hnew
        · exact h.tickets row hold
        · exact hissued row hnew
      bots := fun row hrow => by
        rw [hmatches] at hrow
        rcases List.mem_append.mp hrow with hold | hnew
        · exact h.bots row hold
        · exact hbots row hnew
      ids := hids h.ids
      ticketClosed := fun id hid s hs => by
        obtain ⟨row, hrow, hclosed⟩ :=
          h.ticketClosed id hid s (hsettles.before (Or.inr hid) (Option.some_ne_none id) hs)
        rw [htickets]
        exact ⟨row, List.mem_append_left _ hrow, hclosed⟩
      matchClosed := fun id hid s hs => by
        obtain ⟨row, hrow, hclosed⟩ :=
          h.matchClosed id hid s (hsettles.before (Or.inl hid) (Option.some_ne_none id) hs)
        rw [hmatches]
        exact ⟨row, List.mem_append_left _ hrow, hclosed⟩ }
  matches_kept row hrow := by
    rw [hmatches]
    exact ⟨row.settled, List.mem_append_left _ hrow⟩
  players := hsettles.players
  stored := hsettles.kept

theorem Carries.same (htickets : b.realmTickets = a.realmTickets)
    (hmatches : b.botMatches = a.botMatches)
    (hsettles : Settles none a.toDatabase b.toDatabase) : Carries a b := by
  refine .add [] [] (fun _ h => (List.not_mem_nil h).elim) (fun _ h => (List.not_mem_nil h).elim)
    (fun h => ?_) (htickets.trans (List.append_nil _).symm)
    (hmatches.trans (List.append_nil _).symm) hsettles
  rw [hmatches]
  exact h

/-- A ticket is issued. -/
theorem Carries.ticket (new : RealmTicketRow) (hnew : TicketIssued new)
    (htickets : b.realmTickets = a.realmTickets ++ [new]) (hmatches : b.botMatches = a.botMatches)
    (hsettles : Settles none a.toDatabase b.toDatabase) : Carries a b := by
  refine .add [new] [] (fun row hrow => ?_) (fun _ h => (List.not_mem_nil h).elim) (fun h => ?_)
    htickets (hmatches.trans (List.append_nil _).symm) hsettles
  · rw [List.mem_singleton.mp hrow]
    exact hnew
  · rw [hmatches]
    exact h

/-- A bot match is issued, under an id of its own. -/
theorem Carries.botMatch (new : BotMatchRow) (hnew : MatchIssued new)
    (hfree : ∀ row ∈ a.botMatches, row.matchId ≠ new.matchId)
    (htickets : b.realmTickets = a.realmTickets) (hmatches : b.botMatches = a.botMatches ++ [new])
    (hsettles : Settles none a.toDatabase b.toDatabase) : Carries a b := by
  refine .add [] [new] (fun _ h => (List.not_mem_nil h).elim) (fun row hrow => ?_) (fun h => ?_)
    (htickets.trans (List.append_nil _).symm) hmatches hsettles
  · rw [List.mem_singleton.mp hrow]
    exact hnew
  · rw [hmatches, List.map_append]
    refine List.nodup_append.mpr ⟨h, List.nodup_singleton _, fun i hi j hj hij => ?_⟩
    obtain ⟨row, hrow, rfl⟩ := List.mem_map.mp hi
    rw [List.map_singleton, List.mem_singleton] at hj
    exact hfree row hrow (hij.trans hj)

/-- A ticket is closed, which settles its match. -/
theorem Carries.closeTicket (other : Database) (userId : String) (result : RealmResult)
    (state : RealmTicketState) (hstate : state ≠ .active)
    (htickets : other.realmTickets = a.realmTickets) (hmatches : other.botMatches = a.botMatches)
    (hsettles : Settles none a.toDatabase other)
    (hown : Issued a → ∃ row ∈ a.realmTickets, row.id = result.settlement.matchId) :
    Carries a { a with toDatabase := other.closeRealmTicket userId result state } := by
  have hclosed : Settles (some result.settlement.matchId) a.toDatabase
      (other.closeRealmTicket userId result state) :=
    hsettles.none.trans (.closeRealmTicket other userId result state)
  have hrows : ∀ row ∈ a.realmTickets, ∃ new ∈ (other.closeRealmTicket userId result
      state).realmTickets, new.id = row.id ∧
        (row.id = result.settlement.matchId ∨ row.state ≠ .active → new.state ≠ .active) := by
    intro row hrow
    rw [← htickets] at hrow
    by_cases hid : row.id = result.settlement.matchId
    · exact ⟨_, List.mem_map.mpr ⟨row, hrow, if_pos hid⟩, rfl, fun _ => hstate⟩
    · exact ⟨row, List.mem_map.mpr ⟨row, hrow, if_neg hid⟩, rfl,
        fun hor => hor.resolve_left hid⟩
  refine ⟨fun h => ⟨fun row hrow => ?_, ?_, ?_, fun id hid s hs => ?_, fun id hid s hs => ?_⟩,
    fun row hrow => ⟨row.settled, ?_⟩, hclosed.players, hclosed.kept⟩
  · obtain ⟨old, hold, rfl⟩ := List.mem_map.mp hrow
    rw [htickets] at hold
    have hissued := h.tickets old hold
    split
    · exact ⟨hissued.fair, fun hactive => absurd hactive hstate, hissued.matchId, hissued.named⟩
    · exact hissued
  · show ∀ row ∈ other.botMatches, _
    rw [hmatches]
    exact h.bots
  · show (other.botMatches.map BotMatchRow.matchId).Nodup
    rw [hmatches]
    exact h.ids
  · by_cases hself : id = result.settlement.matchId
    · obtain ⟨row, hrow, hrowid⟩ := hown h
      obtain ⟨new, hnew, hnewid, hstate'⟩ := hrows row hrow
      exact ⟨new, hnew, (hnewid.trans hrowid).trans hself.symm, hstate' (Or.inl hrowid)⟩
    · have hbefore := hclosed.before (Or.inr hid) (fun heq => hself (Option.some.inj heq)) hs
      obtain ⟨row, hrow, hrowid, hstate'⟩ := h.ticketClosed id hid s hbefore
      obtain ⟨new, hnew, hnewid, hclosed'⟩ := hrows row hrow
      exact ⟨new, hnew, hnewid.trans hrowid, hclosed' (Or.inr hstate')⟩
  · have hother : id ≠ result.settlement.matchId := by
      rintro rfl
      obtain ⟨row, hrow, hrowid⟩ := hown h
      exact not_realmId_bot hid (hrowid ▸ (h.tickets row hrow).named)
    have hbefore := hclosed.before (Or.inl hid) (fun heq => hother (Option.some.inj heq)) hs
    obtain ⟨row, hrow, hrowid, hsettled⟩ := h.matchClosed id hid s hbefore
    rw [← hmatches] at hrow
    exact ⟨row, hrow, hrowid, hsettled⟩
  · show row ∈ other.botMatches
    rw [hmatches]
    exact hrow

/-- A bot match is closed, whether it is settled or has run out. -/
theorem Carries.closeMatch (other : Database) (matchId : String)
    (htickets : other.realmTickets = a.realmTickets) (hmatches : other.botMatches = a.botMatches)
    (hsettles : Settles (some matchId) a.toDatabase other)
    (hown : ∃ row ∈ a.botMatches, row.matchId = matchId) :
    Carries a { a with toDatabase := other.closeBotMatch matchId } := by
  have hrows : ∀ row ∈ a.botMatches, ∃ new ∈ (other.closeBotMatch matchId).botMatches,
      new = { row with settled := new.settled } ∧
        (row.matchId = matchId ∨ row.settled = true → new.settled = true) := by
    intro row hrow
    rw [← hmatches] at hrow
    by_cases hid : row.matchId = matchId
    · exact ⟨_, List.mem_map.mpr ⟨row, hrow, if_pos hid⟩, rfl, fun _ => rfl⟩
    · exact ⟨row, List.mem_map.mpr ⟨row, hrow, if_neg hid⟩, rfl,
        fun hor => hor.resolve_left hid⟩
  obtain ⟨own, hmem, hownid⟩ := hown
  refine ⟨fun h => ⟨?_, fun row hrow => ?_, ?_, fun id hid s hs => ?_, fun id hid s hs => ?_⟩,
    fun row hrow => ?_, hsettles.players, hsettles.kept⟩
  · show ∀ row ∈ other.realmTickets, _
    rw [htickets]
    exact h.tickets
  · obtain ⟨old, hold, rfl⟩ := List.mem_map.mp hrow
    rw [hmatches] at hold
    have hissued := h.bots old hold
    split
    · refine ⟨hissued.named, fun pilot hpilot => ?_⟩
      have hfair := hissued.fair pilot hpilot
      exact ⟨hfair.named, hfair.battlefield, hfair.modifiers, hfair.rules⟩
    · exact hissued
  · have hids : (other.closeBotMatch matchId).botMatches.map BotMatchRow.matchId
        = a.botMatches.map BotMatchRow.matchId := by
      unfold Database.closeBotMatch
      dsimp only
      rw [hmatches, List.map_map]
      refine List.map_congr_left fun row _ => ?_
      dsimp only [Function.comp]
      split <;> rfl
    show ((other.closeBotMatch matchId).botMatches.map BotMatchRow.matchId).Nodup
    rw [hids]
    exact h.ids
  · have hother : id ≠ matchId := by
      rintro rfl
      exact not_realmId_bot (hownid ▸ (h.bots own hmem).named) hid
    have hbefore := hsettles.before (Or.inr hid) (fun heq => hother (Option.some.inj heq)) hs
    obtain ⟨row, hrow, hclosed⟩ := h.ticketClosed id hid s hbefore
    rw [← htickets] at hrow
    exact ⟨row, hrow, hclosed⟩
  · by_cases hself : id = matchId
    · obtain ⟨new, hnew, hnewrow, hsettled⟩ := hrows own hmem
      have hnewid : new.matchId = own.matchId := by rw [hnewrow]
      exact ⟨new, hnew, (hnewid.trans hownid).trans hself.symm, hsettled (Or.inl hownid)⟩
    · have hbefore := hsettles.before (Or.inl hid) (fun heq => hself (Option.some.inj heq)) hs
      obtain ⟨row, hrow, hrowid, hsettled⟩ := h.matchClosed id hid s hbefore
      obtain ⟨new, hnew, hnewrow, hclosed⟩ := hrows row hrow
      have hnewid : new.matchId = row.matchId := by rw [hnewrow]
      exact ⟨new, hnew, hnewid.trans hrowid, hclosed (Or.inr hsettled)⟩
  · obtain ⟨new, hnew, hnewrow, -⟩ := hrows row hrow
    refine ⟨new.settled, ?_⟩
    rw [← hnewrow]
    exact hnew

end Steps

/-! ### The operations -/

section Operations

variable {server : RealmServer} {now : ℤ} {db : RealmStore}

theorem expireRealmActive_carries {career career' : PlayerCareer} {active : Option RealmTicket}
    {db' : RealmStore} (h : db.expireRealmActive career now = .ok (career', active, db')) :
    Carries db db' := by
  unfold RealmStore.expireRealmActive at h
  split at h
  · cases h
    exact .refl db
  next row hfind =>
    have hrow := List.mem_of_find?_eq_some hfind
    split at h
    · cases h
      exact .refl db
    split at h
    · cases h
    next habandon =>
    cases h
    unfold RealmStore.abandonRealmInTx at habandon
    split at habandon
    · cases habandon
    cases habandon
    refine .closeTicket (db.toDatabase.pay _) _ _ .abandoned (by decide) rfl rfl (.pay _ _ _)
      fun hissued => ⟨row, hrow, ?_⟩
    rw [(abandonSettlement_id _ _ _).1]
    exact (hissued.tickets row hrow).matchId.symm

theorem activePilotPractice_carries {userId : String}
    {practice : Option (BotMatchRow × PilotPractice)} {db' : RealmStore}
    (h : db.activePilotPractice userId now = (practice, db')) : Carries db db' := by
  unfold RealmStore.activePilotPractice at h
  split at h
  · cases h
    exact .refl db
  next row hfind =>
    split at h
    · cases h
      exact .refl db
    split at h
    · cases h
      exact .closeMatch db.toDatabase row.matchId rfl rfl (.refl _ _)
        ⟨row, List.mem_of_find?_eq_some hfind, rfl⟩
    · cases h
      exact .refl db

theorem insertPractice_carries {m : BotMatchRow} {db' : RealmStore}
    (h : db.insertPractice m = .ok db') (hissued : MatchIssued m) : Carries db db' := by
  unfold RealmStore.insertPractice at h
  split at h
  · cases h
  next hfree =>
    cases h
    refine .botMatch m hissued (fun row hrow hid => hfree ?_) rfl rfl (.same rfl rfl)
    exact List.any_eq_true.mpr ⟨row, hrow, decide_eq_true (Or.inl hid)⟩

theorem isPilotPractice_append (suffix : String) :
    isPilotPractice ("practice_" ++ suffix) = true := by
  show ("practice_" ++ suffix).startsWith "practice_" = true
  simp

theorem createPilotPractice_carries {userId difficulty : String} {supported : List ℤ}
    {suffix : String} {m : BotMatchRow} {db' : RealmStore}
    (h : db.createPilotPractice server userId difficulty supported suffix now = .ok (m, db')) :
    Carries db db' := by
  simp only [RealmStore.createPilotPractice, bind, Except.bind, pure, Except.pure, throw,
    throwThe, MonadExceptOf.throw] at h
  split at h
  · cases h
  split at h
  · cases h
  split at h
  · cases h
  split at h
  · cases h
  next r hexpire =>
  obtain ⟨career', active, db₁⟩ := r
  have hexpired := expireRealmActive_carries hexpire
  dsimp only at h
  split at h
  · cases h
  split at h
  next old pilot db₂ hpractice =>
    split at h
    · cases h
    · cases h
      exact hexpired.trans (activePilotPractice_carries hpractice)
  next db₂ hpractice =>
    split at h
    · cases h
    next hinsert =>
    cases h
    refine (hexpired.trans (activePilotPractice_carries hpractice)).trans
      (insertPractice_carries hinsert ⟨⟨suffix, Or.inr rfl⟩, fun pilot hpilot => ?_⟩)
    cases hpilot
    exact ⟨isPilotPractice_append suffix, rfl, realmModifiers_ok _ _ _ _,
      realmRules_range server supported⟩

theorem issueTicket_fair (career : PlayerCareer) (source : RealmSource) (opponent : Opponent)
    (commander : String) (supported : List ℤ) (id : String) :
    TicketFair (db.issueTicket server career source opponent commander supported id now) where
  battlefield := rfl
  player := realmModifiers_ok _ _ _ _
  enemy := realmModifiers_ok _ _ _ _
  rules := realmRules_range server supported

theorem insertTicket_carries {userId : String} {ticket : RealmTicket} {terms : RealmTerms}
    {db' : RealmStore} (h : db.insertTicket userId ticket terms = .ok db')
    (hfair : TicketFair ticket) (hnamed : RealmId ticket.matchId) : Carries db db' := by
  unfold RealmStore.insertTicket at h
  split at h
  · cases h
  · cases h
    exact .ticket _ ⟨hfair, fun _ => rfl, rfl, hnamed⟩ rfl rfl (.same rfl rfl)

theorem startRealmAttack_carries {version : RealmDefense → String} {userId : String}
    {req : RealmStartRequest} {suffix : String} {ticket : RealmTicket} {db' : RealmStore}
    (h : db.startRealmAttack server version userId req suffix now = .ok (ticket, db')) :
    Carries db db' := by
  simp only [RealmStore.startRealmAttack, bind, Except.bind, pure, Except.pure, throw,
    throwThe, MonadExceptOf.throw] at h
  split at h
  · cases h
  split at h
  · cases h
  split at h
  · cases h
  split at h
  · cases h
  next r hexpire =>
  obtain ⟨career', active, db₁⟩ := r
  have hexpired := expireRealmActive_carries hexpire
  dsimp only at h
  split at h
  · split at h
    · cases h
    · cases h
      exact hexpired
  generalize hpractice : (db₁.publishRealmDefense userId).activePilotPractice userId now = p at h
  obtain ⟨practice, db₂⟩ := p
  have hpublished : Carries db₁ (db₁.publishRealmDefense userId) :=
    .same rfl rfl (.refl _ _)
  have hready := (hexpired.trans hpublished).trans (activePilotPractice_carries hpractice)
  dsimp only at h
  split at h
  · cases h
  split at h
  · cases h
  split at h
  · cases h
  split at h
  · cases h
  next hinsert =>
  cases h
  exact hready.trans (insertTicket_carries hinsert (issueTicket_fair _ _ _ _ _ _) ⟨suffix, rfl⟩)

theorem realmHome_carries {userId : String} {db' : RealmStore}
    (h : db.realmHome userId now = .ok db') : Carries db db' := by
  simp only [RealmStore.realmHome, bind, Except.bind, pure, Except.pure, throw, throwThe,
    MonadExceptOf.throw] at h
  split at h
  · cases h
  split at h
  · cases h
  split at h
  · cases h
  next r hexpire =>
  obtain ⟨career', active, db₁⟩ := r
  cases h
  have hpublished : Carries db₁ (db₁.publishRealmDefense userId) :=
    .same rfl rfl (.refl _ _)
  exact ((expireRealmActive_carries hexpire).trans hpublished).trans
    (activePilotPractice_carries rfl)

theorem committed_carries {ρ : Type} {result : Except RealmError (ρ × RealmStore)}
    (h : ∀ r db', result = .ok (r, db') → Carries db db') : Carries db (db.committed result) := by
  unfold RealmStore.committed
  split
  next r db' => exact h r db' rfl
  · exact .refl db

variable [MathLib]

/-- What happens elsewhere settles no ticket and no bot match, and a bot match is issued under
an id of its kind. -/
def Ordinary (s : RealmWorld) (e : RealmEvent) : Prop :=
  match e.op with
  | .createBotMatch row => ∃ suffix, row.matchId = "bot_" ++ suffix
  | .elsewhere other _ _ _ => Settles none s.store.toDatabase other
  | _ => True

/-- **The other operations of the store are ordinary.** -/
theorem ordinary_runCareer (s : RealmWorld) {op : CareerOp} (h : op.Elsewhere) (later : ℕ)
    (realmDefenses : List String) (realmChallenges : List RealmChallengeRow)
    (isBot : String → Bool) :
    Ordinary s ⟨later, .elsewhere (s.store.toDatabase.runCareer op) realmDefenses realmChallenges
      isBot⟩ :=
  runCareer_elsewhere h

/-- **Every operation** carries what was issued. -/
theorem step_carries {s : RealmWorld} {e : RealmEvent} (h : Ordinary s e) :
    Carries s.store (s.step server e).store := by
  obtain ⟨later, op⟩ := e
  obtain ⟨db, now⟩ := s
  show Carries db (db.apply server (now + later) op)
  cases op with
  | startRealmAttack userId req version suffix =>
    exact committed_carries fun _ _ hstart => startRealmAttack_carries hstart
  | settleRealmAttack userId id actions =>
    refine @committed_inv _ (fun db' => Carries db { db with toDatabase := db' })
      _ _ _ _ (.refl db) (fun _ _ => .refl db) fun r p hp => ?_
    dsimp only
    have hclosed := @Carries.closeTicket db (db.toDatabase.pay p) userId r .settled (by decide)
      rfl rfl (.pay _ _ _) fun _ => by
        rcases decideRealm_cases hp with ⟨row, -, r', -, -, hanswer⟩ |
          ⟨row, hrow, r', p', hid, hpay, hmatch, -⟩
        · cases hanswer
        · cases hpay
          exact ⟨row, hrow, hid.trans hmatch.symm⟩
    split
    · exact hclosed.trans (.same rfl rfl (.same rfl rfl))
    · exact hclosed
  | abandonRealmAttack userId id =>
    refine @committed_inv _ (fun db' => Carries db { db with toDatabase := db' })
      _ _ _ _ (.refl db) (fun _ _ => .refl db) fun r p hp => ?_
    rcases decideAbandon_cases hp with hanswer | ⟨row, hrow, r', p', hid, hpay, hmatch, -⟩
    · cases hanswer
    · cases hpay
      refine .closeTicket (db.toDatabase.pay p) userId r' .abandoned (by decide) rfl rfl
        (.pay _ _ _) fun hissued => ⟨row, hrow, ?_⟩
      exact (hissued.tickets row hrow).matchId.symm.trans hmatch.symm
  | realmHome userId =>
    dsimp only [RealmStore.apply]
    split
    next hhome => exact realmHome_carries hhome
    · exact .refl db
  | createPilotPractice userId difficulty supported suffix =>
    exact committed_carries fun _ _ hcreate => createPilotPractice_carries hcreate
  | settleMatchVerified userId matchId actions =>
    refine @committed_inv _ (fun db' => Carries db { db with toDatabase := db' })
      _ _ _ _ (.refl db) (fun _ _ => .refl db) fun r p hp => ?_
    rcases decideVerified_cases hp with ⟨s, hs, -⟩ | ⟨row, r', p', hpay, -, hid, hrow, -⟩
    · cases hs
    · cases hpay
      subst hid
      have hstored : Settles (some r.matchId) db.toDatabase
          ((db.toDatabase.pay p).storeSettlement userId r) :=
        (Settles.pay db.toDatabase p _).trans (.store _ userId r)
      have hclosed := @Carries.closeMatch db ((db.toDatabase.pay p).storeSettlement userId r)
        r.matchId rfl rfl hstored ⟨row, botMatch?_mem hrow⟩
      exact hclosed.trans (.same rfl rfl (.same rfl rfl))
  | createBotMatch row =>
    obtain ⟨suffix, hsuffix⟩ := h
    dsimp only [RealmStore.apply]
    split
    · exact .refl db
    next hfree =>
      refine .botMatch { row with settled := false, pilot := none }
        ⟨⟨suffix, Or.inl hsuffix⟩, fun pilot hpilot => ?_⟩
        (fun other hother hid => hfree ⟨other, hother, hid⟩) rfl rfl (.same rfl rfl)
      cases hpilot
  | elsewhere other realmDefenses realmChallenges isBot =>
    have hsettles : Settles none db.toDatabase other := h
    exact .same rfl rfl ⟨hsettles.players, hsettles.kept, hsettles.others⟩

/-- **Every run.** -/
theorem run_carries : ∀ (events : List RealmEvent) (s : RealmWorld),
    EachStep (RealmWorld.step server) Ordinary s events →
      Carries s.store (events.foldl (RealmWorld.step server) s).store := by
  intro events
  induction events with
  | nil => intro s _; exact .refl s.store
  | cons e events ih =>
    intro s h
    obtain ⟨hordinary, hrest⟩ := eachStep_cons.mp h
    exact (step_carries hordinary).trans (ih (s.step server e) hrest)

/-- What holds of the store from a state on, in every ordinary run. -/
def RealmWorld.Lasts (server : RealmServer) (s : RealmWorld) (P : RealmStore → Prop) : Prop :=
  ∀ later, EachStep (RealmWorld.step server) Ordinary s later →
    P (later.foldl (RealmWorld.step server) s).store

theorem run_issued {began : ℤ} {events : List RealmEvent}
    (h : EachStep (RealmWorld.step server) Ordinary (.start began) events) :
    Issued (events.foldl (RealmWorld.step server) (.start began)).store :=
  (run_carries events (.start began) h).issued (issued_start began)

end Operations

end CrownClash.Store
