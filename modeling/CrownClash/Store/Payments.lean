import CrownClash.Store.Battles
import CrownClash.Store.Settle2v2Run

/-!
# Store: what a payment does to the books

The books of a player balance when the coins of the career and those of the stored
ledger rows move together; `gap` is how far they are apart.  A payment is
`PaymentOk` when it adds to a stored career what its one coin entry says.  It leaves
the gap alone unless a row with the id of that entry is stored: then the entry is
dropped, and the gap grows by its amount (`gap_pay`).  `pays_iff` is the same for
several payments to different players.
-/

namespace CrownClash.Store

open Lib
open Go (PlayerCareer)

def coinsOf (db : Accounts) (userId : String) : ℤ := (db.players userId).elim 0 PlayerRow.coins

/-- What a ledger row says about the coins of a player. -/
def coinRow (userId : String) (e : EconomyLedgerEntry) : ℤ :=
  if e.player = userId ∧ e.currency = .coins then e.amount else 0

def ledgerCoins (ledger : List EconomyLedgerEntry) (userId : String) : ℤ :=
  (ledger.map (coinRow userId)).sum

def gap (db : Accounts) (userId : String) : ℤ := coinsOf db userId - ledgerCoins db.ledger userId

/-- A payment adds to a stored career what its one coin entry says. -/
structure PaymentOk (db : Accounts) (p : Payment) : Prop where
  shape : ∃ row coin others, db.players p.career.playerId = some row ∧
    p.entries = Option.toList coin ++ others ∧
    (∀ e ∈ others, e.currency ≠ .coins) ∧
    (∀ e, coin = some e → e.player = p.career.playerId ∧ e.currency = .coins) ∧
    p.career.coins = row.coins + coin.elim 0 EconomyLedgerEntry.amount

/-- What a payment loses: its coin entry, when the id is taken. -/
def lost (ledger : List EconomyLedgerEntry) (p : Payment) : ℤ :=
  (p.entries.map fun e =>
    if e.currency = .coins ∧ Holds EconomyLedgerEntry.id ledger e.id then e.amount else 0).sum

/-- The coin entries of a payment get in, or they are for nothing. -/
def CoinsGetIn (ledger : List EconomyLedgerEntry) (p : Payment) : Prop :=
  ∀ e ∈ p.entries, e.currency = .coins → e.amount ≠ 0 →
    ¬ Holds EconomyLedgerEntry.id ledger e.id

theorem coinsOf_pay {db : Accounts} {p : Payment} {row : PlayerRow}
    (h : db.players p.career.playerId = some row) (u : String) :
    coinsOf (db.pay p) u = if u = p.career.playerId then p.career.coins else coinsOf db u := by
  unfold coinsOf Accounts.pay Accounts.persistCareer
  rw [Accounts.insertLedgerEntries_players]
  dsimp only
  by_cases hu : u = p.career.playerId
  · rw [hu, if_pos rfl, Function.update_self, h]
    rfl
  · rw [if_neg hu, Function.update_of_ne hu]

/-- Entries of another currency lose no coins. -/
theorem lost_others {others : List EconomyLedgerEntry} (h : ∀ e ∈ others, e.currency ≠ .coins)
    (ledger : List EconomyLedgerEntry) :
    (others.map fun e =>
      if e.currency = .coins ∧ Holds EconomyLedgerEntry.id ledger e.id then e.amount
      else 0).sum = 0 := by
  refine List.sum_eq_zero fun x hx => ?_
  obtain ⟨e, he, rfl⟩ := List.mem_map.mp hx
  exact if_neg fun hc => h e he hc.1

/-- **What one payment does to the gap.** -/
theorem gap_pay {db : Accounts} {p : Payment} (h : PaymentOk db p) (u : String) :
    gap (db.pay p) u = gap db u + if u = p.career.playerId then lost db.ledger p else 0 := by
  obtain ⟨row, coin, others, hrow, hentries, hothers, hcoin, hcoins⟩ := h.shape
  have hledger : (db.pay p).ledger = insertAll EconomyLedgerEntry.id db.ledger p.entries := rfl
  have hzero : ∀ e ∈ others, coinRow u e = 0 := fun e he => if_neg fun hc => hothers e he hc.2
  unfold gap lost
  rw [coinsOf_pay hrow, hledger, hentries, insertAll_append]
  unfold ledgerCoins
  rw [sum_insertAll_of_zero hzero, List.map_append, List.sum_append, lost_others hothers, add_zero]
  have hold : coinsOf db p.career.playerId = row.coins := by
    unfold coinsOf
    rw [hrow]
    rfl
  cases coin with
  | none =>
    by_cases hu : u = p.career.playerId
    · rw [if_pos hu, if_pos hu, hcoins, hu, hold]
      simp
    · rw [if_neg hu, if_neg hu]
      simp
  | some e =>
    obtain ⟨hplayer, hcurrency⟩ := hcoin e rfl
    change _ - (List.map (coinRow u) (insertNew EconomyLedgerEntry.id db.ledger e)).sum = _
    rw [sum_insertNew]
    by_cases hu : u = p.career.playerId
    · rw [if_pos hu, if_pos hu, hcoins, hu, hold]
      have hrowcoin : coinRow p.career.playerId e = e.amount := if_pos ⟨hplayer, hcurrency⟩
      rw [hrowcoin]
      by_cases hheld : Holds EconomyLedgerEntry.id db.ledger e.id
      · simp [hheld, hcurrency]
        omega
      · simp [hheld]
    · have hrowcoin : coinRow u e = 0 := if_neg fun hc => hu (hc.1.symm.trans hplayer)
      rw [if_neg hu, if_neg hu, hrowcoin, ite_self]
      omega

/-- A payment loses nothing exactly if its coins get in. -/
theorem lost_eq_zero_iff {db : Accounts} {p : Payment} (h : PaymentOk db p)
    (ledger : List EconomyLedgerEntry) : lost ledger p = 0 ↔ CoinsGetIn ledger p := by
  obtain ⟨row, coin, others, -, hentries, hothers, hcoin, -⟩ := h.shape
  unfold lost CoinsGetIn
  rw [hentries, List.map_append, List.sum_append, lost_others hothers, add_zero]
  cases coin with
  | none =>
    constructor
    · intro _ e he hc
      exact absurd hc (hothers e (by simpa using he))
    · intro _
      rfl
  | some d =>
    obtain ⟨-, hcurrency⟩ := hcoin d rfl
    change (List.map _ [d]).sum = 0 ↔ _
    rw [List.map_singleton, List.sum_singleton]
    constructor
    · intro hzero e he hc hne hheld
      rcases List.mem_append.mp he with he | he
      · have hed : e = d := by simpa using he
        rw [hed] at hne hheld
        rw [if_pos ⟨hcurrency, hheld⟩] at hzero
        exact hne hzero
      · exact hothers e he hc
    · intro hin
      by_cases hheld : Holds EconomyLedgerEntry.id ledger d.id
      · rw [if_pos ⟨hcurrency, hheld⟩]
        by_contra hne
        exact hin d (List.mem_append_left _ (by simp)) hcurrency hne hheld
      · exact if_neg fun hc => hheld hc.2

/-! ### Several payments -/

/-- Payments to different players, none of whose coin entries has the id of an entry
before it. -/
def PaysApart (ps : List Payment) : Prop :=
  ps.Pairwise fun p q => p.career.playerId ≠ q.career.playerId ∧
    ∀ e ∈ p.entries, ∀ d ∈ q.entries, d.currency = .coins → e.id ≠ d.id

theorem paymentOk_pay {db : Accounts} {p q : Payment}
    (hne : p.career.playerId ≠ q.career.playerId) (h : PaymentOk db q) : PaymentOk (db.pay p) q := by
  obtain ⟨row, coin, others, hrow, hrest⟩ := h.shape
  exact ⟨row, coin, others,
    (Accounts.persistCareer_players_of_ne db fun heq => hne heq.symm).trans hrow, hrest⟩

theorem lost_pay {db : Accounts} {p q : Payment}
    (hids : ∀ e ∈ p.entries, ∀ d ∈ q.entries, d.currency = .coins → e.id ≠ d.id) :
    lost (db.pay p).ledger q = lost db.ledger q := by
  unfold lost
  refine congrArg List.sum (List.map_congr_left fun d hd => ?_)
  by_cases hc : d.currency = .coins
  · have hholds : Holds EconomyLedgerEntry.id (db.pay p).ledger d.id ↔
        Holds EconomyLedgerEntry.id db.ledger d.id :=
      holds_insertAll_iff fun e he => hids e he d hd hc
    rw [if_congr (and_congr_right fun _ => hholds) rfl rfl]
  · rw [if_neg fun h => hc h.1, if_neg fun h => hc h.1]

/-- What the payments lose for a player. -/
def lostFor (ledger : List EconomyLedgerEntry) (ps : List Payment) (u : String) : ℤ :=
  (ps.map fun p => if u = p.career.playerId then lost ledger p else 0).sum

theorem gap_pays : ∀ {ps : List Payment} {db : Accounts}, (∀ p ∈ ps, PaymentOk db p) →
    PaysApart ps → ∀ u, gap (ps.foldl Accounts.pay db) u = gap db u + lostFor db.ledger ps u := by
  intro ps
  induction ps with
  | nil => intro db _ _ u; exact (add_zero _).symm
  | cons p ps ih =>
    intro db hok hapart u
    obtain ⟨hp, hapart⟩ := List.pairwise_cons.mp hapart
    have hrest : ∀ q ∈ ps, PaymentOk (db.pay p) q := fun q hq =>
      paymentOk_pay (hp q hq).1 (hok q (List.mem_cons_of_mem p hq))
    have hlost : lostFor (db.pay p).ledger ps u = lostFor db.ledger ps u := by
      unfold lostFor
      refine congrArg List.sum (List.map_congr_left fun q hq => ?_)
      rw [lost_pay (hp q hq).2]
    rw [List.foldl_cons, ih hrest hapart u, hlost, gap_pay (hok p List.mem_cons_self)]
    unfold lostFor
    rw [List.map_cons, List.sum_cons]
    omega

/-- Each payment is the only one to its player. -/
theorem lostFor_of_mem {ledger : List EconomyLedgerEntry} : ∀ {ps : List Payment} {p : Payment},
    PaysApart ps → p ∈ ps → lostFor ledger ps p.career.playerId = lost ledger p := by
  have hzero : ∀ {ps : List Payment} {u : String}, (∀ q ∈ ps, q.career.playerId ≠ u) →
      lostFor ledger ps u = 0 := by
    intro ps u hne
    refine List.sum_eq_zero fun x hx => ?_
    obtain ⟨q, hq, rfl⟩ := List.mem_map.mp hx
    exact if_neg fun heq => hne q hq heq.symm
  intro ps
  induction ps with
  | nil => intro p _ hp; cases hp
  | cons q ps ih =>
    intro p hapart hp
    obtain ⟨hq, hapart⟩ := List.pairwise_cons.mp hapart
    unfold lostFor
    rw [List.map_cons, List.sum_cons]
    rcases List.mem_cons.mp hp with rfl | hp
    · have hrest := hzero fun r hr heq => (hq r hr).1 heq.symm
      unfold lostFor at hrest
      rw [if_pos rfl, hrest, add_zero]
    · rw [if_neg fun heq => (hq p hp).1 heq.symm, zero_add]
      exact ih hapart hp

/-- **Payments to different players keep all books exactly if their coins get in.** -/
theorem pays_iff {ps : List Payment} {db : Accounts} (hok : ∀ p ∈ ps, PaymentOk db p)
    (hapart : PaysApart ps) :
    (∀ u, gap (ps.foldl Accounts.pay db) u = gap db u) ↔ ∀ p ∈ ps, CoinsGetIn db.ledger p := by
  constructor
  · intro h p hp
    refine (lost_eq_zero_iff (hok p hp) db.ledger).mp ?_
    have hu := h p.career.playerId
    rw [gap_pays hok hapart, lostFor_of_mem hapart hp] at hu
    omega
  · intro h u
    rw [gap_pays hok hapart]
    have hzero : lostFor db.ledger ps u = 0 := by
      refine List.sum_eq_zero fun x hx => ?_
      obtain ⟨p, hp, rfl⟩ := List.mem_map.mp hx
      rw [(lost_eq_zero_iff (hok p hp) db.ledger).mpr (h p hp), ite_self]
    omega

end CrownClash.Store
