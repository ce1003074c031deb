import CrownClash.Store.Realm
import Mathlib.Logic.Relation

/-!
# Store: what holds of tickets in every run

An operation on the realm is a chain of moves: a ticket is closed, a practice is closed, a
practice is opened, a ticket is opened.  Each move keeps `RealmOk`.  A ticket is opened
only when its player has neither an active ticket nor an open practice, and it is closed as
rewarded only when the day has room for it.
-/

namespace CrownClash.Store

open Lib
open Go (PlayerCareer)

/-! ### What a store satisfies -/

def BotMatchRow.Open (m : BotMatchRow) : Prop := m.pilot.isSome ∧ m.settled = false

/-- The rewarded tickets of a player on a day that were not ranked. -/
def RealmStore.socialRewards (db : RealmStore) (u : String) (env : Env) : ℕ :=
  db.realmTickets.countP fun row => row.rewardedOn u env && row.source ≠ .ranked

/-- The rewarded tickets of a player against another on a day. -/
def RealmStore.pairRewards (db : RealmStore) (u d : String) (env : Env) : ℕ :=
  db.realmTickets.countP fun row => row.rewardedOn u env && row.defenderId = d

structure TicketOk (now : ℤ) (row : RealmTicketRow) : Prop where
  matchId : row.document.matchId = row.id
  defender : row.document.defenderId = row.defenderId
  source : row.document.source = row.source
  fresh : row.state = .active → row.rewarded = false
  past : ∀ t, row.settledAt = some t → t ≤ now

structure RealmOk (server : RealmServer) (now : ℤ) (db : RealmStore) : Prop where
  ids : (db.realmTickets.map RealmTicketRow.id).Nodup
  rows : ∀ row ∈ db.realmTickets, TicketOk now row
  active : ∀ a ∈ db.realmTickets, ∀ b ∈ db.realmTickets, a.playerId = b.playerId →
    a.state = .active → b.state = .active → a.id = b.id
  practices : ∀ a ∈ db.botMatches, ∀ b ∈ db.botMatches, a.playerId = b.playerId →
    a.Open → b.Open → a.matchId = b.matchId
  exclusive : ∀ row ∈ db.realmTickets, row.state = .active → now < row.document.expiresAt →
    ∀ m ∈ db.botMatches, m.playerId = row.playerId → m.Open →
      ∀ pilot, m.pilot = some pilot → pilot.expiresAt ≤ now
  revenge : ∀ a ∈ db.realmTickets, ∀ b ∈ db.realmTickets, ∀ o,
    (db.terms a.id).originId = some o → (db.terms b.id).originId = some o → a.id = b.id
  origin : ∀ a ∈ db.realmTickets, ∀ o, (db.terms a.id).originId = some o →
    ∃ origin ∈ db.realmTickets, origin.id = o ∧ origin.defenderId = a.playerId
  social : ∀ u t, db.socialRewards u (server.env t) ≤ 3
  pairs : ∀ u d t, db.pairRewards u d (server.env t) ≤ 1

/-- Time goes by. -/
theorem RealmOk.later {server : RealmServer} {now : ℤ} {db : RealmStore}
    (h : RealmOk server now db) {later : ℤ} (hle : now ≤ later) : RealmOk server later db :=
  { h with
    rows := fun row hrow =>
      { h.rows row hrow with past := fun t ht => ((h.rows row hrow).past t ht).trans hle }
    exclusive := fun row hrow hactive hexpires m hm hplayer hopen pilot hpilot =>
      (h.exclusive row hrow hactive (by omega) m hm hplayer hopen pilot hpilot).trans hle }

theorem realmOk_start (server : RealmServer) (now : ℤ) :
    RealmOk server now (RealmWorld.start now).store where
  ids := List.nodup_nil
  rows _ h := (List.not_mem_nil h).elim
  active _ h := (List.not_mem_nil h).elim
  practices _ h := (List.not_mem_nil h).elim
  exclusive _ h := (List.not_mem_nil h).elim
  revenge _ h := (List.not_mem_nil h).elim
  origin _ h := (List.not_mem_nil h).elim
  social _ _ := Nat.zero_le 3
  pairs _ _ _ := Nat.zero_le 1

theorem RealmOk.unique {server : RealmServer} {now : ℤ} {db : RealmStore}
    (h : RealmOk server now db) {a b : RealmTicketRow} (ha : a ∈ db.realmTickets)
    (hb : b ∈ db.realmTickets) (hid : a.id = b.id) : a = b :=
  List.inj_on_of_nodup_map h.ids ha hb hid

/-- The ticket of an id is found. -/
theorem RealmOk.realmTicket? {server : RealmServer} {now : ℤ} {db : RealmStore}
    (h : RealmOk server now db) {row : RealmTicketRow} (hrow : row ∈ db.realmTickets) :
    db.realmTicket? row.playerId row.id = .ok row := by
  unfold Database.realmTicket?
  cases hfind : db.realmTickets.find? fun r => r.id = row.id with
  | none =>
    exact absurd (decide_eq_true rfl) (List.find?_eq_none.mp hfind row hrow)
  | some found =>
    have hid : found.id = row.id := by simpa using List.find?_some hfind
    rw [h.unique (List.mem_of_find?_eq_some hfind) hrow hid]
    exact if_neg (not_not.mpr rfl)

/-! ### Moves -/

/-- No practice is open that was not. -/
def OpenFrom (a b : RealmStore) : Prop := ∀ m ∈ b.botMatches, m.Open → m ∈ a.botMatches

/-- What a ticket is closed as.  A reward has to be free on the day. -/
structure Closes (server : RealmServer) (now : ℤ) (db : RealmStore)
    (row new : RealmTicketRow) : Prop where
  id : new.id = row.id
  player : new.playerId = row.playerId
  defender : new.defenderId = row.defenderId
  source : new.source = row.source
  document : new.document = row.document
  closed : new.state ≠ .active
  settledAt : new.settledAt = some now
  rewarded : new.rewarded = true → db.realmEligibility row.playerId row.document.defenderId
    row.document.source (server.env now) = true

inductive RealmMove (server : RealmServer) (now : ℤ) (a b : RealmStore) : Prop
  | rest (htickets : b.realmTickets = a.realmTickets) (hterms : b.terms = a.terms)
    (hmatches : OpenFrom a b)
  | close {row new : RealmTicketRow} (hrow : row ∈ a.realmTickets) (hactive : row.state = .active)
    (hnew : Closes server now a row new)
    (htickets : b.realmTickets = a.realmTickets.map fun r => if r.id = row.id then new else r)
    (hterms : b.terms = a.terms) (hmatches : OpenFrom a b)
  | practice {m : BotMatchRow} (htickets : b.realmTickets = a.realmTickets)
    (hterms : b.terms = a.terms) (hmatches : b.botMatches = a.botMatches ++ [m])
    (hfree : ∀ other ∈ a.botMatches, other.Open → other.playerId ≠ m.playerId)
    (hidle : ∀ row ∈ a.realmTickets, row.playerId = m.playerId → row.state ≠ .active)
  | ticket {new : RealmTicketRow} {terms : RealmTerms} (hok : TicketOk now new)
    (hactive : new.state = .active)
    (htickets : b.realmTickets = a.realmTickets ++ [new])
    (hterms : b.terms = Function.update a.terms new.id terms) (hmatches : OpenFrom a b)
    (hid : ∀ row ∈ a.realmTickets, row.id ≠ new.id)
    (hidle : ∀ row ∈ a.realmTickets, row.playerId = new.playerId → row.state ≠ .active)
    (hfree : ∀ m ∈ a.botMatches, m.Open → m.playerId ≠ new.playerId)
    (horigin : ∀ o, terms.originId = some o →
      (∃ origin ∈ a.realmTickets, origin.id = o ∧ origin.defenderId = new.playerId) ∧
      ∀ row ∈ a.realmTickets, row.playerId = new.playerId → (a.terms row.id).originId ≠ some o)

/-! ### Each move keeps the invariant -/

section Moves

variable {server : RealmServer} {now : ℤ} {a b : RealmStore}

theorem OpenFrom.practices (h : RealmOk server now a) (hmatches : OpenFrom a b) :
    ∀ m ∈ b.botMatches, ∀ m' ∈ b.botMatches, m.playerId = m'.playerId →
      m.Open → m'.Open → m.matchId = m'.matchId := fun m hm m' hm' hplayer hopen hopen' =>
  h.practices m (hmatches m hm hopen) m' (hmatches m' hm' hopen') hplayer hopen hopen'

theorem RealmOk.rest (h : RealmOk server now a) (htickets : b.realmTickets = a.realmTickets)
    (hterms : b.terms = a.terms) (hmatches : OpenFrom a b) : RealmOk server now b where
  ids := by rw [htickets]; exact h.ids
  rows := by rw [htickets]; exact h.rows
  active := by rw [htickets]; exact h.active
  practices := hmatches.practices h
  exclusive := by
    rw [htickets]
    intro row hrow hactive hexpires m hm hplayer hopen
    exact h.exclusive row hrow hactive hexpires m (hmatches m hm hopen) hplayer hopen
  revenge := by rw [htickets, hterms]; exact h.revenge
  origin := by rw [htickets, hterms]; exact h.origin
  social u t := by
    unfold RealmStore.socialRewards
    rw [htickets]
    exact h.social u t
  pairs u d t := by
    unfold RealmStore.pairRewards
    rw [htickets]
    exact h.pairs u d t

/-- Which day it is decides what counts as rewarded on it. -/
theorem rewardedOn_day {t u : ℤ}
    (h : server.calendar.realmDay t = server.calendar.realmDay u) (row : RealmTicketRow)
    (userId : String) :
    row.rewardedOn userId (server.env t) = row.rewardedOn userId (server.env u) := by
  unfold RealmTicketRow.rewardedOn RealmServer.env
  rw [h]

theorem rewardedOn_iff {row : RealmTicketRow} {u : String} {env : Env} :
    row.rewardedOn u env = true ↔ row.playerId = u ∧ row.rewarded = true ∧
      ∃ t, row.settledAt = some t ∧ env.dayStart ≤ t ∧ t < env.dayEnd := by
  unfold RealmTicketRow.rewardedOn
  rw [decide_eq_true_iff, Option.any_eq_true]
  simp only [decide_eq_true_eq]

/-- A ticket that is closed as rewarded counts on the day it is closed. -/
theorem Closes.day {row new : RealmTicketRow} (hnew : Closes server now a row new) {u : String}
    {t : ℤ} (h : new.rewardedOn u (server.env t) = true) :
    row.playerId = u ∧ server.calendar.realmDay t = server.calendar.realmDay now ∧
      a.realmEligibility row.playerId row.document.defenderId row.document.source
        (server.env now) = true := by
  obtain ⟨hu, hrewarded, s, hs, hlow, hhigh⟩ := rewardedOn_iff.mp h
  rw [hnew.settledAt] at hs
  cases hs
  exact ⟨hnew.player.symm.trans hu, (server.calendar.same t now hlow hhigh).symm,
    hnew.rewarded hrewarded⟩

theorem eligible_room {db : RealmStore} {u d : String} {source : RealmSource} {env : Env}
    (h : db.realmEligibility u d source env = true) :
    db.pairRewards u d env = 0 ∧ (source ≠ .ranked → db.socialRewards u env < 3) := by
  unfold Database.realmEligibility at h
  split at h
  · cases h
  next hpairs =>
  split at h
  · cases h
  next hsocial =>
  refine ⟨Nat.eq_zero_of_not_pos hpairs, fun hsource => ?_⟩
  by_contra hfull
  exact hsocial ⟨hsource, Nat.not_lt.mp hfull⟩

theorem TicketOk.not_rewarded {row : RealmTicketRow} (h : TicketOk now row)
    (hactive : row.state = .active) (u : String) (env : Env) : row.rewardedOn u env ≠ true := by
  intro hrewarded
  have hfresh := h.fresh hactive
  rw [(rewardedOn_iff.mp hrewarded).2.1] at hfresh
  cases hfresh

theorem Closes.ticketOk {row new : RealmTicketRow} (hnew : Closes server now a row new)
    (h : TicketOk now row) : TicketOk now new where
  matchId := by rw [hnew.document, hnew.id]; exact h.matchId
  defender := by rw [hnew.document, hnew.defender]; exact h.defender
  source := by rw [hnew.document, hnew.source]; exact h.source
  fresh hstill := absurd hstill hnew.closed
  past t ht := by
    rw [hnew.settledAt] at ht
    cases ht
    exact le_refl now

section Close

variable {row new : RealmTicketRow}

/-- The tickets once `row` is closed as `new`. -/
abbrev closedTickets (a : RealmStore) (row new : RealmTicketRow) : List RealmTicketRow :=
  a.realmTickets.map fun r => if r.id = row.id then new else r

theorem mem_closedTickets {r : RealmTicketRow} (hr : r ∈ closedTickets a row new) :
    r = new ∨ r ∈ a.realmTickets ∧ r.id ≠ row.id := by
  obtain ⟨r', hr', rfl⟩ := List.mem_map.mp hr
  by_cases hid : r'.id = row.id
  · rw [if_pos hid]
    exact Or.inl rfl
  · rw [if_neg hid]
    exact Or.inr ⟨hr', hid⟩

/-- Every closed ticket stands for one of before. -/
theorem Closes.back (hnew : Closes server now a row new) (hrow : row ∈ a.realmTickets)
    {r : RealmTicketRow} (hr : r ∈ closedTickets a row new) :
    ∃ r' ∈ a.realmTickets, r'.id = r.id ∧ r'.playerId = r.playerId := by
  rcases mem_closedTickets hr with rfl | ⟨hold, -⟩
  · exact ⟨row, hrow, hnew.id.symm, hnew.player.symm⟩
  · exact ⟨r, hold, rfl, rfl⟩

theorem Closes.ids (hnew : Closes server now a row new) :
    (closedTickets a row new).map RealmTicketRow.id = a.realmTickets.map RealmTicketRow.id := by
  rw [List.map_map]
  refine List.map_congr_left fun r _ => ?_
  dsimp only [Function.comp]
  split
  next hid => exact hnew.id.trans hid.symm
  · rfl

theorem Closes.origin (hnew : Closes server now a row new) (h : RealmOk server now a)
    (hrow : row ∈ a.realmTickets) {r : RealmTicketRow} (hr : r ∈ closedTickets a row new)
    {o : String} (ho : (a.terms r.id).originId = some o) :
    ∃ origin ∈ closedTickets a row new, origin.id = o ∧ origin.defenderId = r.playerId := by
  obtain ⟨r', hr', hrid, hrplayer⟩ := hnew.back hrow hr
  rw [← hrid] at ho
  obtain ⟨origin, horigin, hoid, hod⟩ := h.origin r' hr' o ho
  by_cases hid : origin.id = row.id
  · refine ⟨new, List.mem_map.mpr ⟨row, hrow, if_pos rfl⟩,
      hnew.id.trans (hid.symm.trans hoid), ?_⟩
    rw [hnew.defender, ← h.unique horigin hrow hid, hod, hrplayer]
  · exact ⟨origin, List.mem_map.mpr ⟨origin, horigin, if_neg hid⟩, hoid, hod.trans hrplayer⟩

/-- One more rewarded ticket that is not ranked, on a day that had room for it. -/
theorem Closes.social (hnew : Closes server now a row new) (h : RealmOk server now a)
    (hrow : row ∈ a.realmTickets) (hactive : row.state = .active) (u : String) (t : ℤ) :
    (closedTickets a row new).countP
      (fun r => r.rewardedOn u (server.env t) && r.source ≠ .ranked) ≤ 3 := by
  unfold closedTickets
  have hrowok := h.rows row hrow
  have hcount := @countP_replace _ _ _ RealmTicketRow.id (fun r =>
    r.rewardedOn u (server.env t) && r.source ≠ .ranked) row new _ h.ids hrow
  have hold := h.social u t
  unfold RealmStore.socialRewards at hold
  rw [if_neg (by simp [hrowok.not_rewarded hactive])] at hcount
  split at hcount
  next hp =>
    obtain ⟨hrewarded, hsource⟩ := Bool.and_eq_true_iff.mp hp
    obtain ⟨rfl, hday, heligible⟩ := hnew.day hrewarded
    have hranked : row.document.source ≠ .ranked := by
      rw [hrowok.source, ← hnew.source]
      exact of_decide_eq_true hsource
    have hroom := (eligible_room heligible).2 hranked
    unfold RealmStore.socialRewards at hroom
    simp only [rewardedOn_day hday] at hcount hold ⊢
    omega
  · omega

/-- One more rewarded ticket against the defender, on a day that had none. -/
theorem Closes.pairs (hnew : Closes server now a row new) (h : RealmOk server now a)
    (hrow : row ∈ a.realmTickets) (hactive : row.state = .active) (u d : String) (t : ℤ) :
    (closedTickets a row new).countP
      (fun r => r.rewardedOn u (server.env t) && r.defenderId = d) ≤ 1 := by
  unfold closedTickets
  have hrowok := h.rows row hrow
  have hcount := @countP_replace _ _ _ RealmTicketRow.id (fun r =>
    r.rewardedOn u (server.env t) && r.defenderId = d) row new _ h.ids hrow
  have hold := h.pairs u d t
  unfold RealmStore.pairRewards at hold
  rw [if_neg (by simp [hrowok.not_rewarded hactive])] at hcount
  split at hcount
  next hp =>
    obtain ⟨hrewarded, hdefender⟩ := Bool.and_eq_true_iff.mp hp
    obtain ⟨rfl, hday, heligible⟩ := hnew.day hrewarded
    have hd : row.document.defenderId = d := by
      rw [hrowok.defender, ← hnew.defender]
      exact of_decide_eq_true hdefender
    have hroom := (eligible_room heligible).1
    rw [hd] at hroom
    unfold RealmStore.pairRewards at hroom
    simp only [rewardedOn_day hday] at hcount hold ⊢
    omega
  · omega

theorem RealmOk.close (h : RealmOk server now a) (hrow : row ∈ a.realmTickets)
    (hactive : row.state = .active) (hnew : Closes server now a row new)
    (htickets : b.realmTickets = closedTickets a row new) (hterms : b.terms = a.terms)
    (hmatches : OpenFrom a b) : RealmOk server now b where
  ids := by
    rw [htickets, hnew.ids]
    exact h.ids
  rows := by
    rw [htickets]
    intro r hr
    rcases mem_closedTickets hr with rfl | ⟨hold, -⟩
    · exact hnew.ticketOk (h.rows row hrow)
    · exact h.rows r hold
  active := by
    rw [htickets]
    intro r hr q hq hplayer hra hqa
    rcases mem_closedTickets hr with rfl | ⟨hr, -⟩
    · exact absurd hra hnew.closed
    rcases mem_closedTickets hq with rfl | ⟨hq, -⟩
    · exact absurd hqa hnew.closed
    exact h.active r hr q hq hplayer hra hqa
  practices := hmatches.practices h
  exclusive := by
    rw [htickets]
    intro r hr hra hexpires m hm hplayer hopen
    rcases mem_closedTickets hr with rfl | ⟨hr, -⟩
    · exact absurd hra hnew.closed
    exact h.exclusive r hr hra hexpires m (hmatches m hm hopen) hplayer hopen
  revenge := by
    rw [htickets, hterms]
    intro r hr q hq o hro hqo
    obtain ⟨r', hr', hrid, -⟩ := hnew.back hrow hr
    obtain ⟨q', hq', hqid, -⟩ := hnew.back hrow hq
    rw [← hrid] at hro ⊢
    rw [← hqid] at hqo ⊢
    exact h.revenge r' hr' q' hq' o hro hqo
  origin := by
    rw [htickets, hterms]
    exact fun r hr o => hnew.origin h hrow hr
  social u t := by
    unfold RealmStore.socialRewards
    rw [htickets]
    exact hnew.social h hrow hactive u t
  pairs u d t := by
    unfold RealmStore.pairRewards
    rw [htickets]
    exact hnew.pairs h hrow hactive u d t

end Close

theorem RealmOk.practice (h : RealmOk server now a) {m : BotMatchRow}
    (htickets : b.realmTickets = a.realmTickets) (hterms : b.terms = a.terms)
    (hmatches : b.botMatches = a.botMatches ++ [m])
    (hfree : ∀ other ∈ a.botMatches, other.Open → other.playerId ≠ m.playerId)
    (hidle : ∀ row ∈ a.realmTickets, row.playerId = m.playerId → row.state ≠ .active) :
    RealmOk server now b := by
  have hrest : RealmOk server now { a with realmTickets := b.realmTickets, terms := b.terms } :=
    h.rest htickets hterms fun m hm _ => hm
  have hmem : ∀ {q : BotMatchRow}, q ∈ b.botMatches → q ∈ a.botMatches ∨ q = m := by
    intro q hq
    rw [hmatches] at hq
    exact (List.mem_append.mp hq).imp_right List.mem_singleton.mp
  refine { hrest with
    practices := fun q hq r hr hplayer hopen hopen' => ?_
    exclusive := fun row hrow hactive hexpires q hq hplayer hopen => ?_ }
  · rcases hmem hq with hq' | rfl
    · rcases hmem hr with hr' | rfl
      · exact h.practices q hq' r hr' hplayer hopen hopen'
      · exact absurd hplayer (hfree q hq' hopen)
    · rcases hmem hr with hr' | rfl
      · exact absurd hplayer.symm (hfree r hr' hopen')
      · rfl
  · rw [htickets] at hrow
    rcases hmem hq with hq' | rfl
    · exact h.exclusive row hrow hactive hexpires q hq' hplayer hopen
    · exact absurd hactive (hidle row hrow hplayer.symm)

theorem RealmOk.ticket (h : RealmOk server now a) {new : RealmTicketRow} {terms : RealmTerms}
    (hok : TicketOk now new) (hactive : new.state = .active)
    (htickets : b.realmTickets = a.realmTickets ++ [new])
    (hterms : b.terms = Function.update a.terms new.id terms) (hmatches : OpenFrom a b)
    (hid : ∀ row ∈ a.realmTickets, row.id ≠ new.id)
    (hidle : ∀ row ∈ a.realmTickets, row.playerId = new.playerId → row.state ≠ .active)
    (hfree : ∀ m ∈ a.botMatches, m.Open → m.playerId ≠ new.playerId)
    (horigin : ∀ o, terms.originId = some o →
      (∃ origin ∈ a.realmTickets, origin.id = o ∧ origin.defenderId = new.playerId) ∧
      ∀ row ∈ a.realmTickets, row.playerId = new.playerId →
        (a.terms row.id).originId ≠ some o) : RealmOk server now b := by
  have hmem : ∀ {r : RealmTicketRow}, r ∈ b.realmTickets → r ∈ a.realmTickets ∨ r = new := by
    intro r hr
    rw [htickets] at hr
    exact (List.mem_append.mp hr).imp_right List.mem_singleton.mp
  have hgrow : ∀ {r : RealmTicketRow}, r ∈ a.realmTickets → r ∈ b.realmTickets := by
    intro r hr
    rw [htickets]
    exact List.mem_append_left _ hr
  have hold : ∀ r ∈ a.realmTickets, b.terms r.id = a.terms r.id := by
    intro r hr
    rw [hterms, Function.update_of_ne (hid r hr)]
  have hnew : b.terms new.id = terms := by
    rw [hterms, Function.update_self]
  -- the origin of a ticket was attacked by its player, so two tickets of one origin are of one
  have hclash : ∀ r ∈ a.realmTickets, ∀ o, (a.terms r.id).originId = some o →
      terms.originId ≠ some o := by
    intro r hr o hro hno
    obtain ⟨⟨origin, hmemo, hoid, hod⟩, hunused⟩ := horigin o hno
    obtain ⟨origin', hmemo', hoid', hod'⟩ := h.origin r hr o hro
    have hsame := h.unique hmemo hmemo' (hoid.trans hoid'.symm)
    exact hunused r hr (hod'.symm.trans (hsame ▸ hod)) hro
  refine ⟨?_, ?_, ?_, hmatches.practices h, ?_, ?_, ?_, fun u t => ?_, fun u d t => ?_⟩
  · rw [htickets, List.map_append]
    refine List.nodup_append.mpr ⟨h.ids, List.nodup_singleton _, fun i hi j hj hij => ?_⟩
    obtain ⟨r, hr, rfl⟩ := List.mem_map.mp hi
    rw [List.map_singleton, List.mem_singleton] at hj
    exact hid r hr (hij.trans hj)
  · intro r hr
    rcases hmem hr with hr | rfl
    · exact h.rows r hr
    · exact hok
  · intro r hr q hq hplayer hra hqa
    rcases hmem hr with hr' | rfl
    · rcases hmem hq with hq' | rfl
      · exact h.active r hr' q hq' hplayer hra hqa
      · exact absurd hra (hidle r hr' hplayer)
    · rcases hmem hq with hq' | rfl
      · exact absurd hqa (hidle q hq' hplayer.symm)
      · rfl
  · intro r hr hra hexpires m hm hplayer hopen
    rcases hmem hr with hr' | rfl
    · exact h.exclusive r hr' hra hexpires m (hmatches m hm hopen) hplayer hopen
    · exact absurd hplayer (hfree m (hmatches m hm hopen) hopen)
  · intro r hr q hq o hro hqo
    rcases hmem hr with hr' | rfl
    · rw [hold r hr'] at hro
      rcases hmem hq with hq' | rfl
      · rw [hold q hq'] at hqo
        exact h.revenge r hr' q hq' o hro hqo
      · rw [hnew] at hqo
        exact absurd hqo (hclash r hr' o hro)
    · rw [hnew] at hro
      rcases hmem hq with hq' | rfl
      · rw [hold q hq'] at hqo
        exact absurd hro (hclash q hq' o hqo)
      · rfl
  · intro r hr o hro
    rcases hmem hr with hr' | rfl
    · rw [hold r hr'] at hro
      obtain ⟨origin, hmemo, hoid, hod⟩ := h.origin r hr' o hro
      exact ⟨origin, hgrow hmemo, hoid, hod⟩
    · rw [hnew] at hro
      obtain ⟨⟨origin, hmemo, hoid, hod⟩, -⟩ := horigin o hro
      exact ⟨origin, hgrow hmemo, hoid, hod⟩
  · have hsocial := h.social u t
    unfold RealmStore.socialRewards at hsocial ⊢
    rw [htickets, List.countP_append, List.countP_singleton,
      if_neg (by simp [hok.not_rewarded hactive])]
    exact hsocial
  · have hpairs := h.pairs u d t
    unfold RealmStore.pairRewards at hpairs ⊢
    rw [htickets, List.countP_append, List.countP_singleton,
      if_neg (by simp [hok.not_rewarded hactive])]
    exact hpairs

theorem RealmMove.ok (h : RealmOk server now a) (hmove : RealmMove server now a b) :
    RealmOk server now b := by
  cases hmove with
  | rest htickets hterms hmatches => exact h.rest htickets hterms hmatches
  | close hrow hactive hnew htickets hterms hmatches =>
    exact h.close hrow hactive hnew htickets hterms hmatches
  | practice htickets hterms hmatches hfree hidle =>
    exact h.practice htickets hterms hmatches hfree hidle
  | ticket hok hactive htickets hterms hmatches hid hidle hfree horigin =>
    exact h.ticket hok hactive htickets hterms hmatches hid hidle hfree horigin

/-- Some moves one after the other. -/
def RealmMoves (server : RealmServer) (now : ℤ) : RealmStore → RealmStore → Prop :=
  Relation.ReflTransGen (RealmMove server now)

theorem RealmMoves.ok (h : RealmOk server now a) (hmoves : RealmMoves server now a b) :
    RealmOk server now b := by
  induction hmoves with
  | refl => exact h
  | tail _ hmove ih => exact hmove.ok ih

/-! ### What no move takes back -/

/-- A ticket is stored for good, and its outcome too. -/
structure OutcomesKept (a b : RealmStore) : Prop where
  stored : ∀ row ∈ a.realmTickets, ∃ row' ∈ b.realmTickets, row'.id = row.id
  closed : ∀ row ∈ a.realmTickets, row.state ≠ .active → row ∈ b.realmTickets

theorem OutcomesKept.refl (a : RealmStore) : OutcomesKept a a :=
  ⟨fun row hrow => ⟨row, hrow, rfl⟩, fun _ hrow _ => hrow⟩

theorem OutcomesKept.trans {c : RealmStore} (h : OutcomesKept a b) (g : OutcomesKept b c) :
    OutcomesKept a c where
  stored row hrow := by
    obtain ⟨row', hrow', hid⟩ := h.stored row hrow
    obtain ⟨row'', hrow'', hid'⟩ := g.stored row' hrow'
    exact ⟨row'', hrow'', hid'.trans hid⟩
  closed row hrow hclosed := g.closed row (h.closed row hrow hclosed) hclosed

theorem OutcomesKept.same (htickets : b.realmTickets = a.realmTickets) : OutcomesKept a b := by
  refine ⟨fun row hrow => ⟨row, ?_, rfl⟩, fun row hrow _ => ?_⟩
  · rw [htickets]
    exact hrow
  · rw [htickets]
    exact hrow

theorem RealmMove.outcomes (h : RealmOk server now a) (hmove : RealmMove server now a b) :
    OutcomesKept a b := by
  cases hmove with
  | rest htickets => exact .same htickets
  | @close row new hrow hactive hnew htickets =>
    have hother : ∀ r ∈ a.realmTickets, r.id ≠ row.id → r ∈ b.realmTickets := by
      intro r hr hid
      rw [htickets]
      exact List.mem_map.mpr ⟨r, hr, if_neg hid⟩
    refine ⟨fun r hr => ?_, fun r hr hclosed => hother r hr fun hid => ?_⟩
    · by_cases hid : r.id = row.id
      · refine ⟨new, ?_, hnew.id.trans hid.symm⟩
        rw [htickets]
        exact List.mem_map.mpr ⟨r, hr, if_pos hid⟩
      · exact ⟨r, hother r hr hid, rfl⟩
    · rw [h.unique hr hrow hid] at hclosed
      exact hclosed hactive
  | practice htickets => exact .same htickets
  | ticket _ _ htickets =>
    refine ⟨fun row hrow => ⟨row, ?_, rfl⟩, fun row hrow _ => ?_⟩
    · rw [htickets]
      exact List.mem_append_left _ hrow
    · rw [htickets]
      exact List.mem_append_left _ hrow

theorem RealmMoves.outcomes (h : RealmOk server now a) (hmoves : RealmMoves server now a b) :
    OutcomesKept a b := by
  induction hmoves with
  | refl => exact OutcomesKept.refl a
  | tail hbefore hmove ih => exact ih.trans (hmove.outcomes (RealmMoves.ok h hbefore))

end Moves

/-! ### What the operations are made of -/

section Operations

variable {server : RealmServer} {now : ℤ} {db : RealmStore}

theorem lockCareer_ok {userId : String} {career : PlayerCareer}
    (h : db.lockCareer userId = .ok career) : career.playerId = userId := by
  unfold RealmStore.lockCareer at h
  split at h
  · cases h
  next hcareer =>
    cases h
    obtain ⟨row, -, rfl⟩ := Option.map_eq_some_iff.mp (realmCareerForUpdate_ok hcareer)
    rfl

/-- The rows of the table after a ticket is closed. -/
theorem closeRealmTicket_rows (h : RealmOk server now db) {row : RealmTicketRow}
    (hrow : row ∈ db.realmTickets) (result : RealmResult)
    (hid : result.settlement.matchId = row.id) (other : Database)
    (htickets : other.realmTickets = db.realmTickets) (userId : String)
    (state : RealmTicketState) :
    (other.closeRealmTicket userId result state).realmTickets =
      db.realmTickets.map fun r => if r.id = row.id then
        { row with
          state := state
          result := some result
          rewarded := result.rewarded
          settledAt := some result.settlement.newCareer.lastMatchTimestamp }
      else r := by
  show (other.realmTickets.map fun r => if r.id = result.settlement.matchId then _ else r) = _
  rw [htickets, hid]
  refine List.map_congr_left fun r hr => ?_
  by_cases hsame : r.id = row.id
  · rw [if_pos hsame, if_pos hsame, h.unique hr hrow hsame]
  · rw [if_neg hsame, if_neg hsame]

/-- A ticket that is given up is closed, and pays nothing. -/
theorem closes_abandon (db : RealmStore) (row : RealmTicketRow) (career : PlayerCareer)
    (result : Option RealmResult) :
    Closes server now db row
      { row with
        state := .abandoned
        result := result
        rewarded := false
        settledAt := some
          (abandonSettlement career row.document now).newCareer.lastMatchTimestamp } where
  id := rfl
  player := rfl
  defender := rfl
  source := rfl
  document := rfl
  closed := fun h => nomatch h
  settledAt := congrArg some (abandonSettlement_id career row.document now).2
  rewarded := fun h => nomatch h

theorem abandonSettlement_playerId (career : PlayerCareer) (ticket : RealmTicket) (now : ℤ) :
    (abandonSettlement career ticket now).newCareer.playerId = career.playerId := by
  have hrealm := realmSettlement_playerId career .defeat MatchStats.zero ticket.matchId now
    ticket.source false
  unfold abandonSettlement
  dsimp only
  split
  · exact hrealm
  · exact hrealm

/-- What an expiry leaves: the same bot matches, and no active ticket of the player if it
returns none. -/
theorem expireRealmActive_moves (h : RealmOk server now db) {career career' : PlayerCareer}
    {active : Option RealmTicket} {db' : RealmStore}
    (hexpire : db.expireRealmActive career now = .ok (career', active, db')) :
    RealmMoves server now db db' ∧ career'.playerId = career.playerId ∧
      (active = none → ∀ row ∈ db'.realmTickets, row.playerId = career.playerId →
        row.state ≠ .active) := by
  unfold RealmStore.expireRealmActive at hexpire
  split at hexpire
  next hnone =>
    cases hexpire
    refine ⟨.refl, rfl, fun _ row hrow hplayer hactive => ?_⟩
    have hnot := List.find?_eq_none.mp hnone row hrow
    exact hnot (decide_eq_true ⟨hplayer, hactive⟩)
  next row hfind =>
    have hrow := List.mem_of_find?_eq_some hfind
    have hfound := List.find?_some hfind
    obtain ⟨hplayer, hactive⟩ := of_decide_eq_true hfound
    split at hexpire
    · cases hexpire
      exact ⟨.refl, rfl, fun hnone => nomatch hnone⟩
    split at hexpire
    · cases hexpire
    next hin =>
    cases hexpire
    unfold RealmStore.abandonRealmInTx at hin
    split at hin
    · cases hin
    cases hin
    have hmatch : (abandonSettlement career row.document now).matchId = row.id :=
      (abandonSettlement_id career row.document now).1.trans (h.rows row hrow).matchId
    have htickets := closeRealmTicket_rows h hrow
      ⟨row.document, abandonSettlement career row.document now, false⟩ hmatch
      (db.toDatabase.pay (settlementPayment (abandonSettlement career row.document now))) rfl
      career.playerId .abandoned
    refine ⟨.single (.close hrow hactive (closes_abandon db row career _) htickets rfl
      fun m hm _ => hm), abandonSettlement_playerId career row.document now,
      fun _ r hr hrplayer hractive => ?_⟩
    rw [htickets] at hr
    obtain ⟨old, hold, rfl⟩ := List.mem_map.mp hr
    by_cases hid : old.id = row.id
    · rw [if_pos hid] at hractive
      cases hractive
    · rw [if_neg hid] at hractive hrplayer
      exact hid (h.active old hold row hrow (hrplayer.trans hplayer.symm) hractive hactive)

/-- What is open after a bot match has been closed was open before. -/
theorem openFrom_close (db : RealmStore) (matchId : String) :
    OpenFrom db { db with toDatabase := db.toDatabase.closeBotMatch matchId } := by
  intro m hm hopen
  obtain ⟨old, hold, rfl⟩ := List.mem_map.mp hm
  by_cases hid : old.matchId = matchId
  · rw [if_pos hid] at hopen
    exact absurd hopen.2 (fun h => nomatch h)
  · rw [if_neg hid]
    exact hold

theorem activePilotPractice_moves (h : RealmOk server now db) {userId : String}
    {practice : Option (BotMatchRow × PilotPractice)} {db' : RealmStore}
    (hactive : db.activePilotPractice userId now = (practice, db')) :
    RealmMove server now db db' ∧ db'.realmTickets = db.realmTickets ∧
      (practice = none → ∀ m ∈ db'.botMatches, m.Open → m.playerId ≠ userId) := by
  unfold RealmStore.activePilotPractice at hactive
  split at hactive
  next hnone =>
    cases hactive
    refine ⟨.rest rfl rfl fun m hm _ => hm, rfl, fun _ m hm hopen hplayer => ?_⟩
    have hnot := List.find?_eq_none.mp hnone m hm
    exact hnot (decide_eq_true ⟨hplayer, hopen.1, hopen.2⟩)
  next row hfind =>
    have hrow := List.mem_of_find?_eq_some hfind
    have hfound := List.find?_some hfind
    obtain ⟨hplayer, hpilot, hsettled⟩ := of_decide_eq_true hfound
    split at hactive
    next hnone =>
      rw [hnone] at hpilot
      cases hpilot
    split at hactive
    · cases hactive
      refine ⟨.rest rfl rfl (openFrom_close db row.matchId), rfl,
        fun _ m hm hopen hmplayer => ?_⟩
      have hold := openFrom_close db row.matchId m hm hopen
      -- it is the practice that has just been closed
      have hid := h.practices m hold row hrow (hmplayer.trans hplayer.symm) hopen
        ⟨hpilot, hsettled⟩
      obtain ⟨old, -, rfl⟩ := List.mem_map.mp hm
      by_cases hsame : old.matchId = row.matchId
      · rw [if_pos hsame] at hopen
        cases hopen.2
      · rw [if_neg hsame] at hid
        exact hsame hid
    · cases hactive
      exact ⟨.rest rfl rfl fun m hm _ => hm, rfl, fun hnone => nomatch hnone⟩

theorem insertPractice_moves {m : BotMatchRow} {db' : RealmStore}
    (hinsert : db.insertPractice m = .ok db')
    (hidle : ∀ row ∈ db.realmTickets, row.playerId = m.playerId → row.state ≠ .active) :
    RealmMove server now db db' := by
  unfold RealmStore.insertPractice at hinsert
  split at hinsert
  · cases hinsert
  next hfree =>
    cases hinsert
    refine .practice rfl rfl rfl (fun other hother hopen hplayer => hfree ?_) hidle
    exact List.any_eq_true.mpr ⟨other, hother, decide_eq_true
      (Or.inr ⟨hplayer, hopen.1, hopen.2⟩)⟩

theorem createPilotPractice_moves (h : RealmOk server now db) {userId difficulty : String}
    {supported : List ℤ} {suffix : String} {m : BotMatchRow} {db' : RealmStore}
    (hcreate : db.createPilotPractice server userId difficulty supported suffix now =
      .ok (m, db')) : RealmMoves server now db db' := by
  simp only [RealmStore.createPilotPractice, bind, Except.bind, pure, Except.pure, throw,
    throwThe, MonadExceptOf.throw] at hcreate
  split at hcreate
  · cases hcreate
  split at hcreate
  · cases hcreate
  next career hcareer =>
  split at hcreate
  · cases hcreate
  split at hcreate
  · cases hcreate
  next r hexpire =>
  obtain ⟨career', active, db₁⟩ := r
  obtain ⟨hmoves, hplayer, hidle⟩ := expireRealmActive_moves h hexpire
  dsimp only at hcreate
  split at hcreate
  · cases hcreate
  next hnone =>
  have hactive : active = none := by simpa using hnone
  have h₁ := RealmMoves.ok h hmoves
  split at hcreate
  next old pilot db₂ hpractice =>
    obtain ⟨hmove, -, -⟩ := activePilotPractice_moves h₁ hpractice
    split at hcreate
    · cases hcreate
    · cases hcreate
      exact hmoves.tail hmove
  next db₂ hpractice =>
    obtain ⟨hmove, htickets, -⟩ := activePilotPractice_moves h₁ hpractice
    split at hcreate
    · cases hcreate
    next hinsert =>
    cases hcreate
    refine (hmoves.tail hmove).tail (insertPractice_moves hinsert fun row hrow hrowplayer => ?_)
    rw [htickets] at hrow
    exact hidle hactive row hrow (hrowplayer.trans (lockCareer_ok hcareer).symm)

end Operations

/-! ### Starting an attack -/

section Start

variable {server : RealmServer} {now : ℤ} {db : RealmStore}

/-- What is revenged was an attack on the player, and has not been revenged. -/
theorem opponent_origin {version : RealmDefense → String} {career : PlayerCareer}
    {source : RealmSource} {req : RealmStartRequest} {opponent : Opponent}
    (h : db.opponent server version career source req now = .ok opponent) :
    ∀ o, opponent.originId = some o →
      (∃ origin ∈ db.realmTickets, origin.id = o ∧ origin.defenderId = career.playerId) ∧
      ∀ row ∈ db.realmTickets, row.playerId = career.playerId →
        (db.terms row.id).originId ≠ some o := by
  intro o ho
  unfold RealmStore.opponent at h
  split at h
  · split at h
    · cases h
    split at h
    · cases h
    · cases h
      cases ho
  · unfold RealmStore.revengeOpponent at h
    split at h
    · cases h
    next hunused =>
    split at h
    · cases h
    next row hfind =>
    split at h
    · cases h
    split at h
    · cases h
    next hcheck =>
    split at h
    · cases h
    cases h
    cases ho
    refine ⟨⟨row, List.mem_of_find?_eq_some hfind, by simpa using List.find?_some hfind, ?_⟩,
      fun r hr hplayer horigin => hunused ?_⟩
    · by_contra hne
      exact hcheck (Or.inl hne)
    · exact List.any_eq_true.mpr ⟨r, hr, decide_eq_true ⟨hplayer, horigin⟩⟩
  · unfold RealmStore.rankedOpponent at h
    dsimp only at h
    split at h
    · cases h
    · cases h
      cases ho

theorem insertTicket_moves {userId : String} {ticket : RealmTicket} {terms : RealmTerms}
    {db' : RealmStore} (hinsert : db.insertTicket userId ticket terms = .ok db')
    (hfree : ∀ m ∈ db.botMatches, m.Open → m.playerId ≠ userId)
    (horigin : ∀ o, terms.originId = some o →
      (∃ origin ∈ db.realmTickets, origin.id = o ∧ origin.defenderId = userId) ∧
      ∀ row ∈ db.realmTickets, row.playerId = userId → (db.terms row.id).originId ≠ some o) :
    RealmMove server now db db' := by
  unfold RealmStore.insertTicket at hinsert
  split at hinsert
  · cases hinsert
  next hunique =>
    cases hinsert
    refine .ticket ⟨rfl, rfl, rfl, fun _ => rfl, fun t ht => ?_⟩ rfl rfl rfl
      (fun m hm _ => hm) (fun row hrow hid => hunique ?_)
      (fun row hrow hplayer hactive => hunique ?_) hfree horigin
    · cases ht
    · exact List.any_eq_true.mpr ⟨row, hrow, decide_eq_true (Or.inl hid)⟩
    · exact List.any_eq_true.mpr ⟨row, hrow, decide_eq_true (Or.inr ⟨hplayer, Or.inl hactive⟩)⟩

theorem startRealmAttack_moves (h : RealmOk server now db) {version : RealmDefense → String}
    {userId : String} {req : RealmStartRequest} {suffix : String} {ticket : RealmTicket}
    {db' : RealmStore}
    (hstart : db.startRealmAttack server version userId req suffix now = .ok (ticket, db')) :
    RealmMoves server now db db' := by
  simp only [RealmStore.startRealmAttack, bind, Except.bind, pure, Except.pure, throw,
    throwThe, MonadExceptOf.throw] at hstart
  split at hstart
  · cases hstart
  next source _ =>
  split at hstart
  · cases hstart
  next career hcareer =>
  split at hstart
  · cases hstart
  split at hstart
  · cases hstart
  next r hexpire =>
  obtain ⟨career', active, db₁⟩ := r
  obtain ⟨hmoves, hplayer, -⟩ := expireRealmActive_moves h hexpire
  have hcareer' : career'.playerId = userId := hplayer.trans (lockCareer_ok hcareer)
  have h₁ := RealmMoves.ok h hmoves
  dsimp only at hstart
  split at hstart
  · split at hstart
    · cases hstart
    · cases hstart
      exact hmoves
  -- the defence is published, which is no move of a ticket
  have hpublish : RealmMove server now db₁ (db₁.publishRealmDefense userId) :=
    .rest rfl rfl fun m hm _ => hm
  have h₂ := hpublish.ok h₁
  generalize hactive : (db₁.publishRealmDefense userId).activePilotPractice userId now = p
    at hstart
  obtain ⟨practice, db₂⟩ := p
  obtain ⟨hmove, -, hfree⟩ := activePilotPractice_moves h₂ hactive
  dsimp only at hstart
  split at hstart
  · cases hstart
  next hnone =>
  have hpractice : practice = none := by simpa using hnone
  split at hstart
  · cases hstart
  next opponent hopponent =>
  split at hstart
  · cases hstart
  split at hstart
  · cases hstart
  next hinsert =>
  cases hstart
  have horigin := opponent_origin hopponent
  rw [hcareer'] at horigin
  exact ((hmoves.tail hpublish).tail hmove).tail
    (insertTicket_moves hinsert (hfree hpractice) horigin)

theorem realmHome_moves (h : RealmOk server now db) {userId : String} {db' : RealmStore}
    (hhome : db.realmHome userId now = .ok db') : RealmMoves server now db db' := by
  simp only [RealmStore.realmHome, bind, Except.bind, pure, Except.pure, throw, throwThe,
    MonadExceptOf.throw] at hhome
  split at hhome
  · cases hhome
  split at hhome
  · cases hhome
  split at hhome
  · cases hhome
  next r hexpire =>
  obtain ⟨career', active, db₁⟩ := r
  obtain ⟨hmoves, -, -⟩ := expireRealmActive_moves h hexpire
  cases hhome
  have hpublish : RealmMove server now db₁ (db₁.publishRealmDefense userId) :=
    .rest rfl rfl fun m hm _ => hm
  have h₂ := hpublish.ok (RealmMoves.ok h hmoves)
  exact (hmoves.tail hpublish).tail (activePilotPractice_moves h₂ rfl).1

end Start

/-! ### Every operation -/

section Apply

variable [MathLib] {server : RealmServer} {now : ℤ} {db : RealmStore}

/-- A ticket that is settled is rewarded only when the day has room for it. -/
theorem settleRealmAttack_moves (h : RealmOk server now db) (userId id : String)
    (actions : List PvpAction) :
    RealmMoves server now db { db with
      toDatabase := db.toDatabase.run (.settleRealmAttack userId id actions (server.env now)) } := by
  refine @committed_inv _ (fun db' => RealmMoves server now db { db with toDatabase := db' })
    _ _ _ _ .refl (fun _ _ => .refl) fun r p hpay => ?_
  rcases decideRealm_inv hpay with ⟨-, -, r', -, -, hanswer⟩ |
    ⟨row, hrow, career, summary, eligible, hid, hplayer, hactive, -, -, heligible, hdecided⟩
  · cases hanswer
  cases hdecided
  obtain ⟨hmatch, hstamp⟩ := ticketSettlement_id career row.document summary id
    (server.env now).nowMillis eligible
  have hcloses : Closes server now db row
      { row with
        state := .settled
        result := some ⟨row.document, ticketSettlement career row.document summary id
          (server.env now).nowMillis eligible, eligible⟩
        rewarded := eligible
        settledAt := some (ticketSettlement career row.document summary id
          (server.env now).nowMillis eligible).newCareer.lastMatchTimestamp } := by
    refine ⟨rfl, rfl, rfl, rfl, rfl, nofun, congrArg some hstamp, fun hrewarded => ?_⟩
    have hroom : eligible = true := hrewarded
    rw [heligible] at hroom
    rw [hplayer]
    exact (Bool.and_eq_true_iff.mp hroom).1
  have htickets := closeRealmTicket_rows h hrow
    ⟨row.document, ticketSettlement career row.document summary id (server.env now).nowMillis
      eligible, eligible⟩ (hmatch.trans hid.symm)
    (db.toDatabase.pay (settlementPayment (ticketSettlement career row.document summary id
      (server.env now).nowMillis eligible))) rfl userId .settled
  dsimp only
  split
  · exact .single (.close hrow hactive hcloses htickets rfl fun m hm _ => hm)
  · exact .single (.close hrow hactive hcloses htickets rfl fun m hm _ => hm)

theorem abandonRealmAttack_moves (h : RealmOk server now db) (userId id : String) :
    RealmMoves server now db { db with
      toDatabase := db.toDatabase.run (.abandonRealmAttack userId id (server.env now)) } := by
  refine @committed_inv _ (fun db' => RealmMoves server now db { db with toDatabase := db' })
    _ _ _ _ .refl (fun _ _ => .refl) fun r p hpay => ?_
  rcases decideAbandon_inv hpay with hanswer |
    ⟨row, hrow, career, -, -, hactive, -, -, hdecided⟩
  · cases hanswer
  cases hdecided
  have hmatch := (abandonSettlement_id career row.document (server.env now).nowMillis).1.trans
    (h.rows row hrow).matchId
  have htickets := closeRealmTicket_rows h hrow
    ⟨row.document, abandonSettlement career row.document (server.env now).nowMillis, false⟩ hmatch
    (db.toDatabase.pay (settlementPayment (abandonSettlement career row.document
      (server.env now).nowMillis))) rfl userId .abandoned
  exact .single (.close hrow hactive (closes_abandon db row career _) htickets rfl
    fun m hm _ => hm)

/-- A bot match that is settled is closed, whether it was a practice or not. -/
theorem settleMatchVerified_moves (userId matchId : String) (actions : List PvpAction) :
    RealmMoves server now db { db with
      toDatabase :=
        db.toDatabase.run (.settleMatchVerified userId matchId actions (server.env now)) } := by
  refine @committed_inv _ (fun db' => RealmMoves server now db { db with toDatabase := db' })
    _ _ _ _ .refl (fun _ _ => .refl) fun r p _ => ?_
  exact .single (.rest rfl rfl (openFrom_close db matchId))

omit [MathLib] in
theorem committed_moves {ρ : Type} {result : Except RealmError (ρ × RealmStore)}
    (h : ∀ r db', result = .ok (r, db') → RealmMoves server now db db') :
    RealmMoves server now db (db.committed result) := by
  unfold RealmStore.committed
  split
  next r db' => exact h r db' rfl
  · exact .refl

/-- **An operation is a chain of moves.** -/
theorem apply_moves (h : RealmOk server now db) (op : RealmOp) :
    RealmMoves server now db (db.apply server now op) := by
  cases op with
  | startRealmAttack userId req version suffix =>
    exact committed_moves fun _ _ hstart => startRealmAttack_moves h hstart
  | settleRealmAttack userId id actions => exact settleRealmAttack_moves h userId id actions
  | abandonRealmAttack userId id => exact abandonRealmAttack_moves h userId id
  | realmHome userId =>
    dsimp only [RealmStore.apply]
    split
    next hhome => exact realmHome_moves h hhome
    · exact .refl
  | createPilotPractice userId difficulty supported suffix =>
    exact committed_moves fun _ _ hcreate => createPilotPractice_moves h hcreate
  | settleMatchVerified userId matchId actions => exact settleMatchVerified_moves _ _ _
  | createBotMatch row =>
    dsimp only [RealmStore.apply]
    split
    · exact .refl
    · refine .single (.rest rfl rfl fun m hm hopen => ?_)
      rcases List.mem_append.mp hm with hold | hnew
      · exact hold
      · rw [List.mem_singleton.mp hnew] at hopen
        cases hopen.1
  | elsewhere other realmDefenses realmChallenges isBot =>
    exact .single (.rest rfl rfl fun m hm _ => hm)

/-! ### Every run -/

def RealmWorld.Ok (server : RealmServer) (s : RealmWorld) : Prop := RealmOk server s.now s.store

theorem RealmWorld.Ok.step {s : RealmWorld} (h : s.Ok server) (e : RealmEvent) :
    (s.step server e).Ok server := by
  have hlater := h.later (show s.now ≤ s.now + e.later by omega)
  exact (apply_moves hlater e.op).ok hlater

theorem RealmWorld.Ok.outcomes {s : RealmWorld} (h : s.Ok server) (e : RealmEvent) :
    OutcomesKept s.store (s.step server e).store := by
  have hlater := h.later (show s.now ≤ s.now + e.later by omega)
  exact (apply_moves hlater e.op).outcomes hlater

theorem RealmWorld.Ok.run : ∀ (events : List RealmEvent) {s : RealmWorld}, s.Ok server →
    (events.foldl (RealmWorld.step server) s).Ok server ∧
      OutcomesKept s.store (events.foldl (RealmWorld.step server) s).store := by
  intro events
  induction events with
  | nil => intro s h; exact ⟨h, .refl s.store⟩
  | cons e events ih =>
    intro s h
    obtain ⟨hok, hkept⟩ := ih (h.step e)
    exact ⟨hok, (h.outcomes e).trans hkept⟩

/-- **What players may hold.**  One active ticket; not an active ticket and an open practice
that have both not run out; one revenge for an attack; and on a day three rewards that are
not ranked and one against each other player. -/
structure RealmHolds (server : RealmServer) (s : RealmWorld) : Prop where
  active : ∀ u, s.store.realmTickets.countP (fun row => row.playerId = u ∧ row.state = .active) ≤ 1
  exclusive : ∀ t, s.now ≤ t → ∀ row ∈ s.store.realmTickets, row.state = .active →
    t < row.document.expiresAt → ∀ m ∈ s.store.botMatches, m.playerId = row.playerId →
      m.Open → ∀ pilot, m.pilot = some pilot → pilot.expiresAt ≤ t
  revenge : ∀ o, s.store.realmTickets.countP
    (fun row => (s.store.terms row.id).originId = some o) ≤ 1
  social : ∀ u t, s.store.socialRewards u (server.env t) ≤ 3
  pairs : ∀ u d t, s.store.pairRewards u d (server.env t) ≤ 1

omit [MathLib] in
theorem RealmWorld.Ok.holds {s : RealmWorld} (h : s.Ok server) : RealmHolds server s where
  active u := by
    refine countP_le_one h.ids fun a ha b hb hpa hpb => ?_
    obtain ⟨hplayera, hactivea⟩ := of_decide_eq_true hpa
    obtain ⟨hplayerb, hactiveb⟩ := of_decide_eq_true hpb
    exact h.active a ha b hb (hplayera.trans hplayerb.symm) hactivea hactiveb
  exclusive t ht row hrow hactive hexpires m hm hplayer hopen pilot hpilot :=
    (h.exclusive row hrow hactive (by omega) m hm hplayer hopen pilot hpilot).trans ht
  revenge o := countP_le_one h.ids fun a ha b hb hpa hpb =>
    h.revenge a ha b hb o (of_decide_eq_true hpa) (of_decide_eq_true hpb)
  social := h.social
  pairs := h.pairs

/-- A step closes the ticket of an id. -/
def ClosesTicket (server : RealmServer) (id : String) (s : RealmWorld) (e : RealmEvent) : Prop :=
  (∃ row ∈ s.store.realmTickets, row.id = id ∧ row.state = .active) ∧
    ∃ row ∈ (s.step server e).store.realmTickets, row.id = id ∧ row.state ≠ .active

/-- **Realm tickets.**  In every run of the operations, whatever time passes between them:
players never hold more than they may, a ticket is closed at most once, and its outcome
stays what it is. -/
theorem realm_tickets (server : RealmServer) (now : ℤ) (events : List RealmEvent) :
    Always (RealmWorld.step server) (RealmHolds server) (.start now) events ∧
    (∀ id, AtMostOnce (RealmWorld.step server) (ClosesTicket server id) (.start now) events) ∧
    EachStep (RealmWorld.step server) (fun s e => OutcomesKept s.store (s.step server e).store)
      (.start now) events := by
  have hstart : (RealmWorld.start now).Ok server := realmOk_start server now
  refine ⟨fun before hbefore => ?_, fun id => ?_, ?_⟩
  · have hok : (before.foldl (RealmWorld.step server) (.start now)).Ok server :=
      foldl_preserves (fun s e _ h => RealmWorld.Ok.step h e) hstart
    exact hok.holds
  · refine @atMostOnce_of_invariant _ _ _ _ (RealmWorld.Ok server)
      (fun s => ∃ row ∈ s.store.realmTickets, row.id = id ∧ row.state ≠ .active)
      (fun s e h => h.step e) (fun s e _ hcloses => hcloses.2) (fun s e h hclosed => ?_)
      (fun s e h hclosed hcloses => ?_) _ hstart events
    · obtain ⟨row, hrow, hid, hstate⟩ := hclosed
      exact ⟨row, (h.outcomes e).closed row hrow hstate, hid, hstate⟩
    · obtain ⟨row, hrow, hid, hstate⟩ := hclosed
      obtain ⟨row', hrow', hid', hactive⟩ := hcloses.1
      rw [h.unique hrow hrow' (hid.trans hid'.symm)] at hstate
      exact hstate hactive
  · exact eachStep_of_preserves (fun s e h => RealmWorld.Ok.step h e)
      (fun s e h => RealmWorld.Ok.outcomes h e) hstart

end Apply

end CrownClash.Store
