import CrownClash.Store.Coins

/-!
# Store: coins are credited once

An order is credited under the lock of its player and its own.  It is pending then, it is
bound to the transaction of the payment, and the provider has said that the transaction is
paid.  Bound transactions are unique, a credited order is not bound any more, and nobody
takes a credited order back but its refund.
-/

namespace CrownClash.Store

open Lib
open Go (PlayerCareer)

/-! ### Orders -/

/-- An order whose coins have been paid out, even if they were taken back later. -/
def CoinOrderRow.Credited (order : CoinOrderRow) : Prop :=
  order.state = .fulfilled ∨ order.state = .refunded

def Shop.coins (shop : Shop) (userId : String) : Option ℤ :=
  (shop.players userId).map PlayerRow.coins

/-- The unique keys of the orders. -/
structure ShopOk (shop : Shop) : Prop where
  unique : ∀ a ∈ shop.coinOrders, ∀ b ∈ shop.coinOrders, a.id = b.id → a = b
  transactions : ∀ a ∈ shop.coinOrders, ∀ b ∈ shop.coinOrders, ∀ t,
    a.transactionId = some t → b.transactionId = some t → a.id = b.id
  starter : ∀ a ∈ shop.coinOrders, ∀ b ∈ shop.coinOrders, a.product.id = "starter" →
    b.product.id = "starter" → a.playerId = b.playerId → a.id = b.id

/-- What the locks protect: the career of a player with the orders that are credited, and
an order. -/
def Kept : RowLock → Shop → Shop → Prop
  | .career u, a, b => b.players u = a.players u ∧
    ∀ row ∈ a.coinOrders, row.playerId = u → row.Credited → row ∈ b.coinOrders
  | .order id, a, b => ∀ row ∈ a.coinOrders, row.id = id → row ∈ b.coinOrders

theorem Kept.refl (k : RowLock) (shop : Shop) : Kept k shop shop := by
  cases k with
  | career u => exact ⟨rfl, fun _ h _ _ => h⟩
  | order id => exact fun _ h _ => h

theorem Kept.trans {k : RowLock} {a b c : Shop} (h : Kept k a b) (g : Kept k b c) :
    Kept k a c := by
  cases k with
  | career u =>
    exact ⟨g.1.trans h.1, fun row hrow hu hcredited =>
      g.2 row (h.2 row hrow hu hcredited) hu hcredited⟩
  | order id => exact fun row hrow hid => g row (h row hrow hid) hid

theorem coinOrder?_ok {db : Database} {id : String} {order : CoinOrderRow}
    (h : db.coinOrder? id = .ok order) : order ∈ db.coinOrders ∧ order.id = id := by
  refine ⟨coinOrder_mem h, ?_⟩
  unfold Database.coinOrder? at h
  split at h
  · cases h
  next hfind =>
    cases h
    simpa using List.find?_some hfind

/-! ### What a call may do -/

/-- Orders are created, get their invoice or are bound, and no coins move. -/
structure Prepares (a b : Shop) : Prop where
  players : b.players = a.players
  kept : ∀ row ∈ a.coinOrders, row.Credited → row ∈ b.coinOrders
  none : ∀ row ∈ b.coinOrders, row.Credited → row ∈ a.coinOrders

/-- The coins of a pending order are credited to its player. -/
structure Credits (order : CoinOrderRow) (a b : Shop) : Prop where
  stored : order ∈ a.coinOrders
  pending : order.state = .pending
  orders : b.coinOrders = a.coinOrders.map fun row =>
    if row.id = order.id then { order with state := .fulfilled } else row
  coins : ∀ u, b.coins u =
    if u = order.playerId then (a.coins u).map (· + order.product.coins) else a.coins u

/-- The coins of a credited order are taken back, as far as they are there. -/
structure Refunds (order : CoinOrderRow) (a b : Shop) : Prop where
  stored : order ∈ a.coinOrders
  fulfilled : order.state = .fulfilled
  orders : ∃ reference, b.coinOrders = a.coinOrders.map fun row =>
    if row.id = order.id then
      { order with state := .refunded, refundReference := some reference }
    else row
  coins : ∀ u, b.coins u =
    if u = order.playerId then (a.coins u).map fun c => c - min c order.product.coins
    else a.coins u

def CoinCall.provider? : CoinCall → Option BalePaymentProvider
  | .verifyCoinReceipt p _ _ _ _ _ _ => some p
  | .recoverCoinOrder _ _ p _ => some p
  | _ => none

/-- The provider has told the call that the transaction of the order is paid, by the payer
of the order and with its amount. -/
def CoinCall.Reported (call : CoinCall) (order : CoinOrderRow) : Prop :=
  ∃ p t, call.provider? = some p ∧ order.transactionId = some t.id ∧
    p.inquiry t.id = .ok t ∧ t.status = "paid" ∧ t.userId = order.externalId ∧
    t.amount = order.product.amountRials

inductive CoinCall.Does (call : CoinCall) (a b : Shop) : Prop
  | prepares (h : Prepares a b)
  | credits {order : CoinOrderRow} (h : Credits order a b) (hreported : call.Reported order)
  | refunds {order : CoinOrderRow} (h : Refunds order a b)

theorem Prepares.refl (shop : Shop) : Prepares shop shop :=
  ⟨rfl, fun _ h _ => h, fun _ h _ => h⟩

/-! ### Orders that are written back -/

theorem ShopOk.map {shop shop' : Shop} (h : ShopOk shop) {f : CoinOrderRow → CoinOrderRow}
    (hshop : shop'.coinOrders = shop.coinOrders.map f)
    (hsame : ∀ row ∈ shop.coinOrders, (f row).id = row.id ∧
      (f row).playerId = row.playerId ∧ (f row).product = row.product)
    (htransactions : ∀ a ∈ shop.coinOrders, ∀ b ∈ shop.coinOrders, ∀ t,
      (f a).transactionId = some t → (f b).transactionId = some t → a.id = b.id) :
    ShopOk shop' := by
  refine ⟨?_, ?_, ?_⟩
  · rw [hshop]
    intro a ha b hb hid
    obtain ⟨r, hr, rfl⟩ := List.mem_map.mp ha
    obtain ⟨q, hq, rfl⟩ := List.mem_map.mp hb
    rw [(hsame r hr).1, (hsame q hq).1] at hid
    rw [h.unique r hr q hq hid]
  · rw [hshop]
    intro a ha b hb t hta htb
    obtain ⟨r, hr, rfl⟩ := List.mem_map.mp ha
    obtain ⟨q, hq, rfl⟩ := List.mem_map.mp hb
    rw [(hsame r hr).1, (hsame q hq).1]
    exact htransactions r hr q hq t hta htb
  · rw [hshop]
    intro a ha b hb hsa hsb hplayer
    obtain ⟨r, hr, rfl⟩ := List.mem_map.mp ha
    obtain ⟨q, hq, rfl⟩ := List.mem_map.mp hb
    obtain ⟨hidr, hplayerr, hproductr⟩ := hsame r hr
    obtain ⟨hidq, hplayerq, hproductq⟩ := hsame q hq
    rw [hidr, hidq]
    rw [hproductr] at hsa
    rw [hproductq] at hsb
    rw [hplayerr, hplayerq] at hplayer
    exact h.starter r hr q hq hsa hsb hplayer

/-- The order `old` as `new`, and the other orders. -/
structure Writes (old new : CoinOrderRow) (a b : Shop) : Prop where
  stored : old ∈ a.coinOrders
  id : new.id = old.id
  player : new.playerId = old.playerId
  product : new.product = old.product
  orders : b.coinOrders = a.coinOrders.map fun row => if row.id = new.id then new else row

namespace Writes

variable {old new : CoinOrderRow} {a b : Shop}

theorem mem_new (h : Writes old new a b) : new ∈ b.coinOrders := by
  rw [h.orders]
  exact List.mem_map.mpr ⟨old, h.stored, if_pos h.id.symm⟩

theorem mem_other (h : Writes old new a b) {row : CoinOrderRow} (hrow : row ∈ a.coinOrders)
    (hne : row.id ≠ old.id) : row ∈ b.coinOrders := by
  rw [h.orders]
  exact List.mem_map.mpr ⟨row, hrow, if_neg (h.id ▸ hne)⟩

theorem mem (h : Writes old new a b) {row : CoinOrderRow} (hrow : row ∈ b.coinOrders) :
    row = new ∨ row ∈ a.coinOrders := by
  rw [h.orders] at hrow
  obtain ⟨row', hrow', rfl⟩ := List.mem_map.mp hrow
  by_cases hid : row'.id = new.id
  · rw [if_pos hid]
    exact Or.inl rfl
  · rw [if_neg hid]
    exact Or.inr hrow'

theorem ok (h : Writes old new a b) (hok : ShopOk a)
    (htransaction : ∀ t, new.transactionId = some t →
      ∀ row ∈ a.coinOrders, row.id ≠ old.id → row.transactionId ≠ some t) : ShopOk b := by
  refine hok.map h.orders (fun row hrow => ?_) fun r hr q hq t hrt hqt => ?_
  · split
    next hid =>
      rw [hok.unique row hrow old h.stored (hid.trans h.id)]
      exact ⟨h.id, h.player, h.product⟩
    · exact ⟨rfl, rfl, rfl⟩
  · by_cases hrid : r.id = new.id <;> by_cases hqid : q.id = new.id
    · exact hrid.trans hqid.symm
    · rw [if_pos hrid] at hrt
      rw [if_neg hqid] at hqt
      exact absurd hqt (htransaction t hrt q hq (h.id ▸ hqid))
    · rw [if_neg hrid] at hrt
      rw [if_pos hqid] at hqt
      exact absurd hrt (htransaction t hqt r hr (h.id ▸ hrid))
    · rw [if_neg hrid] at hrt
      rw [if_neg hqid] at hqt
      exact hok.transactions r hr q hq t hrt hqt

/-- The order keeps its transaction. -/
theorem ok_same (h : Writes old new a b) (hok : ShopOk a)
    (hsame : new.transactionId = old.transactionId) : ShopOk b :=
  h.ok hok fun t ht row hrow hne hrt =>
    hne (hok.transactions row hrow old h.stored t hrt (hsame ▸ ht))

theorem kept_order (h : Writes old new a b) {id : String} (hid : id ≠ old.id) :
    Kept (.order id) a b := fun _ hrow heq => h.mem_other hrow (heq ▸ hid)

/-- The careers of other players, and of its own when the order has not been credited. -/
theorem kept_career (h : Writes old new a b) (hok : ShopOk a) {u : String}
    (hplayers : b.players u = a.players u) (hne : old.playerId = u → ¬ old.Credited) :
    Kept (.career u) a b := by
  refine ⟨hplayers, fun row hrow hu hcredited => h.mem_other hrow fun hid => ?_⟩
  rw [hok.unique row hrow old h.stored hid] at hu hcredited
  exact hne hu hcredited

theorem prepares (h : Writes old new a b) (hok : ShopOk a) (hplayers : b.players = a.players)
    (hold : ¬ old.Credited) (hnew : ¬ new.Credited) : Prepares a b := by
  refine ⟨hplayers, fun row hrow hcredited => h.mem_other hrow fun hid => ?_,
    fun row hrow hcredited => (h.mem hrow).resolve_left fun heq => hnew (heq ▸ hcredited)⟩
  rw [hok.unique row hrow old h.stored hid] at hcredited
  exact hold hcredited

end Writes

theorem not_credited_created {order : CoinOrderRow} (h : order.state = .created) :
    ¬ order.Credited := by
  rintro (hc | hc) <;> rw [h] at hc <;> cases hc

theorem not_credited_pending {order : CoinOrderRow} (h : order.state = .pending) :
    ¬ order.Credited := by
  rintro (hc | hc) <;> rw [h] at hc <;> cases hc

/-! ### Each call on its own -/

section Calls

variable {G : Shop → Shop → Prop} {held : RowLock → Prop} {K : Shop → Prop}

theorem sound_seenCoinOrder {seen : Shop} {userId id : String}
    {next : CoinOrderRow → CoinProgram}
    (h : ∀ order ∈ seen.coinOrders, order.id = id → order.playerId = userId →
      (next order).Sound ShopOk Kept G held K) :
    (seenCoinOrder seen userId id next).Sound ShopOk Kept G held K := by
  unfold seenCoinOrder
  split
  · trivial
  next order hfind =>
    split
    · trivial
    next hplayer =>
      exact h order (List.mem_of_find?_eq_some hfind) (by simpa using List.find?_some hfind)
        (not_not.mp hplayer)

theorem sound_readCoinOrder {userId id : String} {next : CoinOrderRow → CoinProgram}
    (h : ∀ seen, ShopOk seen → K seen → ∀ order ∈ seen.coinOrders, order.id = id →
      order.playerId = userId → (next order).Sound ShopOk Kept G held fun db =>
        K db ∧ ∀ k, held k → Kept k seen db) :
    (readCoinOrder userId id next).Sound ShopOk Kept G held K :=
  fun seen hok hK => sound_seenCoinOrder (h seen hok hK)

theorem sound_readAnswer {userId id : String} :
    (readCoinOrder userId id answers).Sound ShopOk Kept G held K :=
  sound_readCoinOrder fun _ _ _ _ _ _ _ => trivial

/-- A coin call that prepares, whatever locks it holds: the order that it writes is locked,
or new. -/
theorem sound_prepares {call : CoinCall} {write : Shop → Option Shop} {next : CoinProgram}
    {e : CoinReply}
    (hnext : next.Sound ShopOk Kept call.Does (fun _ => False) fun _ => True)
    (h : ∀ db db', ShopOk db → K db → write db = some db' →
      ShopOk db' ∧ (∀ k, ¬ held k → Kept k db db') ∧ Prepares db db') :
    (Program.commit write next (.done e)).Sound ShopOk Kept call.Does held K :=
  ⟨fun db db' hok hK hwrite =>
    have hdone := h db db' hok hK hwrite
    ⟨hdone.1, hdone.2.1, .prepares hdone.2.2⟩, hnext, trivial⟩

/-- An order of its own. -/
theorem insertCoinOrder_ok {db db' : Shop} {order : CoinOrderRow} (hok : ShopOk db)
    (hstate : order.state = .created) (htransaction : order.transactionId = none)
    (h : db.insertCoinOrder order = some db') :
    ShopOk db' ∧ (∀ k, Kept k db db') ∧ Prepares db db' := by
  unfold Shop.insertCoinOrder at h
  split at h
  · cases h
  next hnew =>
  split at h
  · cases h
  next hstarter =>
  cases h
  have hmem : ∀ {row : CoinOrderRow}, row ∈ db.coinOrders ++ [order] →
      row ∈ db.coinOrders ∨ row = order := fun hrow =>
    (List.mem_append.mp hrow).imp_right List.mem_singleton.mp
  have hfresh : ∀ row ∈ db.coinOrders, row.id ≠ order.id := fun row hrow hid =>
    hnew ⟨row, hrow, hid⟩
  have hother : ∀ row ∈ db.coinOrders, row.product.id = "starter" →
      order.product.id = "starter" → row.playerId ≠ order.playerId := by
    intro row hrow hrs hos hplayer
    refine hstarter ⟨hos, List.any_eq_true.mpr ⟨row, hrow, ?_⟩⟩
    exact decide_eq_true ⟨hplayer, hrs⟩
  refine ⟨⟨fun a ha b hb hid => ?_, fun a ha b hb t hta htb => ?_,
    fun a ha b hb hsa hsb hplayer => ?_⟩, fun k => ?_, rfl, fun row hrow _ =>
      List.mem_append_left _ hrow, fun row hrow hcredited => ?_⟩
  · rcases hmem ha with ha' | rfl <;> rcases hmem hb with hb' | rfl
    · exact hok.unique a ha' b hb' hid
    · exact absurd hid (hfresh a ha')
    · exact absurd hid.symm (hfresh b hb')
    · rfl
  · rcases hmem ha with ha' | rfl <;> rcases hmem hb with hb' | rfl
    · exact hok.transactions a ha' b hb' t hta htb
    · rw [htransaction] at htb
      cases htb
    · rw [htransaction] at hta
      cases hta
    · rfl
  · rcases hmem ha with ha' | rfl <;> rcases hmem hb with hb' | rfl
    · exact hok.starter a ha' b hb' hsa hsb hplayer
    · exact absurd hplayer (hother a ha' hsa hsb)
    · exact absurd hplayer.symm (hother b hb' hsb hsa)
    · rfl
  · cases k with
    | career u => exact ⟨rfl, fun row hrow _ _ => List.mem_append_left _ hrow⟩
    | order id => exact fun row hrow _ => List.mem_append_left _ hrow
  · rcases hmem hrow with hrow | rfl
    · exact hrow
    · exact absurd hcredited (not_credited_created hstate)

theorem sound_createOrRecover {call : CoinCall} (userId external id : String)
    (product : CoinProduct) :
    (createOrRecover userId external id product).Sound ShopOk Kept call.Does held K := by
  intro seen _ _
  dsimp only
  split
  · exact sound_readAnswer
  · refine sound_prepares trivial fun db db' hok _ hwrite => ?_
    obtain ⟨hok', hkept, hprepares⟩ := insertCoinOrder_ok hok rfl rfl hwrite
    exact ⟨hok', fun k _ => hkept k, hprepares⟩

theorem sound_createCoinOrder {call : CoinCall} (userId external id productId : String) :
    (createCoinOrder userId external id productId).Sound ShopOk Kept call.Does held K := by
  unfold createCoinOrder
  split
  · trivial
  split
  · trivial
  next product _ =>
  intro seen _ _
  dsimp only
  split
  · trivial
  intro seen _ _
  dsimp only
  split
  · refine sound_readCoinOrder fun _ _ _ order _ _ _ => ?_
    split <;> trivial
  intro seen _ _
  dsimp only
  split
  · trivial
  split
  · intro seen _ _
    dsimp only
    split
    · refine sound_readCoinOrder fun _ _ _ order _ _ _ => ?_
      split <;> trivial
    · exact sound_createOrRecover userId external id product
  · exact sound_createOrRecover userId external id product

/-- Whatever is not created is left as it is. -/
theorem sound_attachCoinInvoice {call : CoinCall} (userId id invoice : String) :
    (attachCoinInvoice userId id invoice).Sound ShopOk Kept call.Does held K := by
  unfold attachCoinInvoice
  split
  · trivial
  refine sound_prepares sound_readAnswer fun db db' hok _ hwrite => ?_
  cases hwrite
  have hcredited : ∀ row : CoinOrderRow, row.Credited →
      ¬ (row.id = id ∧ row.playerId = userId ∧ row.state = .created) :=
    fun row hcredited hcreated => not_credited_created hcreated.2.2 hcredited
  refine ⟨hok.map rfl (fun row _ => ?_) fun a ha b hb t hta htb => ?_, fun k hk => ?_, rfl,
    fun row hrow hc => List.mem_map.mpr ⟨row, hrow, if_neg (hcredited row hc)⟩,
    fun row hrow hc => ?_⟩
  · split <;> exact ⟨rfl, rfl, rfl⟩
  · refine hok.transactions a ha b hb t ?_ ?_
    · split at hta <;> exact hta
    · split at htb <;> exact htb
  · cases k with
    | career u =>
      exact ⟨rfl, fun row hrow _ hc => List.mem_map.mpr ⟨row, hrow, if_neg (hcredited row hc)⟩⟩
    | order other =>
      intro row hrow hid
      refine List.mem_map.mpr ⟨row, hrow, if_neg fun hcond => hk (Or.inl ?_)⟩
      rw [← hid, hcond.1]
  · obtain ⟨old, hold, rfl⟩ := List.mem_map.mp hrow
    by_cases hcond : old.id = id ∧ old.playerId = userId ∧ old.state = .created
    · rw [if_pos hcond] at hc
      exact absurd hc (not_credited_pending rfl)
    · rw [if_neg hcond]
      exact hold

/-- An order that is locked, not credited yet, and written back. -/
theorem Writes.sound {old new : CoinOrderRow} {a b : Shop} (h : Writes old new a b)
    (hok : ShopOk a) (hplayers : b.players = a.players) (hheld : held (.order old.id))
    (hold : ¬ old.Credited) (hnew : ¬ new.Credited) :
    (∀ k, ¬ held k → Kept k a b) ∧ Prepares a b := by
  refine ⟨fun k hk => ?_, h.prepares hok hplayers hold hnew⟩
  cases k with
  | career u => exact h.kept_career hok (by rw [hplayers]) fun _ => hold
  | order id => exact h.kept_order fun hid => hk (hid ▸ hheld)

theorem sound_ensureCoinInvoice {call : CoinCall} (userId id : String)
    (p : BalePaymentProvider) :
    (ensureCoinInvoice userId id p).Sound ShopOk Kept call.Does held K := by
  intro seen _ _
  dsimp only
  split
  · trivial
  split
  · trivial
  refine sound_readCoinOrder fun seen hseen _ order horder hid _ => ?_
  split
  next hcreated =>
    split
    · trivial
    refine sound_prepares trivial fun db db' hok hK hwrite => ?_
    cases hwrite
    have hstored : order ∈ db.coinOrders := hK.2 (.order id) (Or.inl rfl) order horder hid
    have hwrites : Writes order { order with state := .pending } db
        (db.setCoinOrder { order with state := .pending }) := ⟨hstored, rfl, rfl, rfl, rfl⟩
    exact ⟨hwrites.ok_same hok rfl, hwrites.sound hok rfl (Or.inl (hid ▸ rfl))
      (not_credited_created hcreated) (not_credited_pending rfl)⟩
  · trivial

theorem sound_bindCoinCheckout {call : CoinCall} (p : BalePaymentProvider)
    (id transaction external currency : String) (amount : ℤ) :
    (bindCoinCheckout p id transaction external currency amount).Sound ShopOk Kept call.Does
      held K := by
  unfold bindCoinCheckout
  split
  · trivial
  intro seen hseen _
  dsimp only
  split
  · trivial
  next order hfind =>
  obtain ⟨horder, hid⟩ := coinOrder?_ok hfind
  split
  · trivial
  next hcheck =>
  split
  · trivial
  have hpending : order.state = .pending := by
    by_contra hne
    exact hcheck (Or.inl hne)
  refine sound_prepares trivial fun db db' hok hK hwrite => ?_
  have hstored : order ∈ db.coinOrders := hK.2 (.order id) (Or.inl rfl) order horder hid
  unfold Shop.bindTransaction at hwrite
  split at hwrite
  · cases hwrite
  next hfree =>
  cases hwrite
  have hwrites : Writes order { order with transactionId := some transaction } db
      (db.setCoinOrder { order with transactionId := some transaction }) :=
    ⟨hstored, rfl, rfl, rfl, rfl⟩
  refine ⟨hwrites.ok hok fun t ht row hrow hne hrt => hfree ?_, hwrites.sound hok rfl
    (Or.inl (hid ▸ rfl)) (not_credited_pending hpending) (not_credited_pending hpending)⟩
  cases ht
  exact List.any_eq_true.mpr ⟨row, hrow, decide_eq_true ⟨hne, hrt⟩⟩

/-! ### Paying and taking back -/

/-- What a payment leaves of the coins. -/
theorem settle_pay_coins {db : Shop} {u : String} {career : PlayerCareer}
    (hcareer : db.career? u = some career) (order : CoinOrderRow) (amount : ℤ)
    (entries : List EconomyLedgerEntry) (v : String) :
    (db.settle (.pay order ⟨rewarded career amount, entries⟩)).coins v =
      if v = u then (db.coins v).map (· + amount) else db.coins v := by
  unfold Accounts.career? at hcareer
  obtain ⟨row, hrow, rfl⟩ := Option.map_eq_some_iff.mp hcareer
  show (Function.update db.players u ((db.players u).map fun row' =>
    row'.persist (rewarded (careerFromRow u row) amount)) v).map PlayerRow.coins = _
  unfold Shop.coins
  by_cases hv : v = u
  · subst hv
    rw [Function.update_self, if_pos rfl, hrow]
    rfl
  · rw [Function.update_of_ne hv, if_neg hv]

theorem settle_pay_players {db : Shop} {u : String} {career : PlayerCareer}
    (hcareer : db.career? u = some career) (order : CoinOrderRow) (amount : ℤ)
    (entries : List EconomyLedgerEntry) {v : String} (hv : v ≠ u) :
    (db.settle (.pay order ⟨rewarded career amount, entries⟩)).players v = db.players v := by
  unfold Accounts.career? at hcareer
  obtain ⟨row, -, rfl⟩ := Option.map_eq_some_iff.mp hcareer
  exact Function.update_of_ne hv _ _

/-- A career whose lock is held is the one that was read. -/
theorem career?_kept {u : String} {a b : Shop} (h : Kept (.career u) a b) :
    b.career? u = a.career? u := by
  unfold Accounts.career?
  rw [h.1]

theorem sound_fulfillCoinOrder {call : CoinCall} {payment : VerifiedCoinPayment} {env : Env}
    (hreported : ∀ order, validCoinPayment order payment = true →
      order.transactionId = some payment.transactionId → call.Reported order) :
    (fulfillCoinOrder payment env).Sound ShopOk Kept call.Does held K := by
  intro seen _ _
  dsimp only
  split
  · trivial
  next first _ =>
  refine sound_readCoinOrder fun seen₁ hseen₁ _ order₁ horder₁ hid₁ hplayer₁ => ?_
  intro seen₂ hseen₂ hK₂
  dsimp only
  split
  · trivial
  next d hdecide =>
  refine Program.sound_commit fun db db' hok hK hwrite => ?_
  cases hwrite
  cases d with
  | answer r => exact ⟨hok, fun k _ => Kept.refl k db, .prepares (Prepares.refl db)⟩
  | record r => exact ⟨hok, fun k _ => Kept.refl k db, .prepares (Prepares.refl db)⟩
  | pay r p =>
    obtain ⟨order, career, hfind, hcareer, hvalid, htransaction, hpending, rfl, rfl⟩ :=
      decideFulfill_pays hdecide
    obtain ⟨horder, hid⟩ := coinOrder?_ok hfind
    -- the order is still that of the player whose career is locked
    have hsame : order₁ ∈ seen₂.coinOrders :=
      hK₂.2 (.order payment.orderId) (Or.inl rfl) order₁ horder₁ hid₁
    have heq : order = order₁ := hseen₂.unique order horder order₁ hsame (hid.trans hid₁.symm)
    have hplayer : order.playerId = first.playerId := heq ▸ hplayer₁
    have hstored : order ∈ db.coinOrders :=
      hK.2 (.order payment.orderId) (Or.inl rfl) order horder hid
    have hstill : db.career? order.playerId = some career := by
      rw [hplayer, career?_kept (hK.2 (.career first.playerId) (Or.inr (Or.inl rfl))), ← hplayer]
      exact hcareer
    have hwrites : Writes order { order with state := .fulfilled } db (db.settle (.pay
        { order with state := .fulfilled } ⟨rewarded career order.product.coins,
          [rewardEntry ("coin_order_" ++ order.id) career order.product.coins "coin_purchase"
            order.id env.nowMillis]⟩)) := ⟨hstored, rfl, rfl, rfl, rfl⟩
    refine ⟨hwrites.ok_same hok rfl, fun k hk => ?_,
      .credits ⟨hstored, hpending, hwrites.orders, settle_pay_coins hstill _ _ _⟩
        (hreported order hvalid htransaction)⟩
    cases k with
    | career u =>
      have hne : u ≠ order.playerId := fun heq => hk (Or.inr (Or.inl (by rw [heq, hplayer])))
      exact hwrites.kept_career hok (settle_pay_players hstill _ _ _ hne) fun _ =>
        not_credited_pending hpending
    | order other =>
      exact hwrites.kept_order fun heq => hk (Or.inl (by rw [heq, hid]))

theorem inquiry_ok {p : BalePaymentProvider} {id : String} {t : BaleTransaction}
    (h : p.inquiry id = .ok t) : t.id = id := by
  unfold BalePaymentProvider.inquiry at h
  split at h
  · cases h
  split at h
  · cases h
  next hid =>
    cases h
    exact not_not.mp hid

/-- A payment that agrees with what the provider has told is reported for its order. -/
theorem reported {call : CoinCall} {p : BalePaymentProvider} {t : BaleTransaction}
    {id transaction external currency : String} {amount : ℤ}
    (hprovider : call.provider? = some p) (ht : p.inquiry transaction = .ok t)
    (hstatus : t.status = "paid") (huser : t.userId = external) (hamount : t.amount = amount)
    {order : CoinOrderRow}
    (hvalid : validCoinPayment order ⟨id, transaction, external, amount, currency⟩ = true)
    (htransaction : order.transactionId = some transaction) : call.Reported order := by
  obtain ⟨-, -, -, hexternal, hprice, -⟩ := of_decide_eq_true hvalid
  have hid := inquiry_ok ht
  refine ⟨p, t, hprovider, ?_, ?_, hstatus, huser.trans hexternal, hamount.trans hprice⟩
  · rw [hid]
    exact htransaction
  · rw [hid]
    exact ht

theorem sound_verifyCoinReceipt (p : BalePaymentProvider)
    (order transaction external : String) (amount : ℤ) (currency : String) (env : Env) :
    (verifyCoinReceipt p order transaction external amount currency env).Sound ShopOk Kept
      (CoinCall.verifyCoinReceipt p order transaction external amount currency env).Does held K := by
  unfold verifyCoinReceipt
  split
  · trivial
  split
  · trivial
  next t ht =>
  split
  · trivial
  next hcheck =>
  simp only [not_or, not_not] at hcheck
  obtain ⟨hstatus, huser, hamount, -⟩ := hcheck
  exact sound_fulfillCoinOrder fun order hvalid htransaction =>
    reported rfl ht hstatus huser hamount hvalid htransaction

theorem sound_recoverCoinOrder (userId id : String) (p : BalePaymentProvider) (env : Env) :
    (recoverCoinOrder userId id p env).Sound ShopOk Kept
      (CoinCall.recoverCoinOrder userId id p env).Does held K := by
  refine sound_readCoinOrder fun seen _ _ order _ _ _ => ?_
  split
  · trivial
  intro seen _ _
  dsimp only
  split
  · trivial
  next row _ =>
  split
  · trivial
  next transaction _ =>
  split
  · trivial
  next t ht =>
  split
  · trivial
  next hstatus =>
  split
  · trivial
  next hcheck =>
  simp only [not_or, not_not] at hcheck hstatus
  exact sound_fulfillCoinOrder fun order hvalid htransaction =>
    reported rfl ht hstatus hcheck.1 rfl hvalid htransaction

theorem sound_recordCoinRefund {call : CoinCall} (id reference note : String) (env : Env) :
    (recordCoinRefund id reference note env).Sound ShopOk Kept call.Does held K := by
  unfold recordCoinRefund
  split
  · trivial
  intro seen _ _
  dsimp only
  split
  · trivial
  next first _ =>
  intro seen₁ hseen₁ hK₁
  refine sound_seenCoinOrder fun order₁ horder₁ hid₁ hplayer₁ => ?_
  split
  · trivial
  next d hdecide =>
  refine Program.sound_commit fun db db' hok hK hwrite => ?_
  cases d with
  | answer r =>
    cases hwrite
    exact ⟨hok, fun k _ => Kept.refl k db, .prepares (Prepares.refl db)⟩
  | record r =>
    cases hwrite
    exact ⟨hok, fun k _ => Kept.refl k db, .prepares (Prepares.refl db)⟩
  | pay r p =>
    obtain ⟨order, career, hfind, hcareer, hfulfilled, rfl, rfl⟩ := decideRefund_pays hdecide
    obtain ⟨horder, hid⟩ := coinOrder?_ok hfind
    have heq : order = order₁ := hseen₁.unique order horder order₁ horder₁ (hid.trans hid₁.symm)
    have hplayer : order.playerId = first.playerId := heq ▸ hplayer₁
    have hkept := hK.2 (.career first.playerId) (Or.inl rfl)
    -- a credited order is changed under the lock of its player only
    have hstored : order ∈ db.coinOrders := hkept.2 order horder hplayer (Or.inl hfulfilled)
    have hstill : db.career? order.playerId = some career := by
      rw [hplayer, career?_kept hkept, ← hplayer]
      exact hcareer
    dsimp only [Shop.refund] at hwrite
    split at hwrite
    · cases hwrite
    cases hwrite
    have hwrites : Writes order
        { order with state := .refunded, refundReference := some reference } db
        (db.settle (.pay { order with state := .refunded, refundReference := some reference }
          ⟨rewarded career (-min career.coins order.product.coins),
            [rewardEntry ("coin_refund_" ++ id) career (-min career.coins order.product.coins)
              "coin_refund" id env.nowMillis]⟩)) := ⟨hstored, rfl, rfl, rfl, rfl⟩
    refine ⟨hwrites.ok_same hok rfl, fun k hk => ?_,
      .refunds ⟨hstored, hfulfilled, ⟨reference, hwrites.orders⟩, fun u => ?_⟩⟩
    · cases k with
      | career u =>
        have hne : u ≠ order.playerId := fun heq => hk (Or.inr (Or.inl (by rw [heq, hplayer])))
        refine hwrites.kept_career hok (settle_pay_players hstill _ _ _ hne) fun hu => ?_
        exact absurd hu.symm hne
      | order other =>
        exact hwrites.kept_order fun heq => hk (Or.inl (by rw [heq, hid]))
    · rw [settle_pay_coins hstill]
      by_cases hu : u = order.playerId
      · subst hu
        rw [if_pos rfl, if_pos rfl]
        have hcoins : db.coins order.playerId = some career.coins := by
          unfold Accounts.career? at hstill
          obtain ⟨row, hrow, rfl⟩ := Option.map_eq_some_iff.mp hstill
          unfold Shop.coins
          rw [hrow]
          rfl
        rw [hcoins]
        exact congrArg some (sub_eq_add_neg _ _).symm
      · rw [if_neg hu, if_neg hu]

/-- **Every coin call is sound on its own.** -/
theorem sound_program (call : CoinCall) :
    call.program.Sound ShopOk Kept call.Does (fun _ => False) fun _ => True := by
  cases call with
  | createCoinOrder userId external id productId => exact sound_createCoinOrder _ _ _ _
  | attachCoinInvoice userId id invoice => exact sound_attachCoinInvoice _ _ _
  | ensureCoinInvoice userId id p => exact sound_ensureCoinInvoice _ _ _
  | bindCoinCheckout p id transaction external currency amount =>
    exact sound_bindCoinCheckout _ _ _ _ _ _
  | verifyCoinReceipt p order transaction external amount currency env =>
    exact sound_verifyCoinReceipt _ _ _ _ _ _ _
  | recoverCoinOrder userId id p env => exact sound_recoverCoinOrder _ _ _ _
  | recordCoinRefund id reference note env => exact sound_recordCoinRefund _ _ _ _

end Calls

/-! ### What else happens -/

/-- Orders stay as they are when anything else happens. -/
theorem apply_coinOrders (shop : Shop) (event : ShopEvent) :
    (shop.apply event).coinOrders = shop.coinOrders := by
  cases event <;> rfl

theorem ShopOk.of_orders {a b : Shop} (h : ShopOk a) (horders : b.coinOrders = a.coinOrders) :
    ShopOk b := by
  constructor
  · rw [horders]
    exact h.unique
  · rw [horders]
    exact h.transactions
  · rw [horders]
    exact h.starter

theorem apply_other (shop : Shop) (event : ShopEvent) (h : ShopOk shop) :
    ShopOk (shop.apply event) ∧ ∀ k, k ∉ event.locks → Kept k shop (shop.apply event) := by
  refine ⟨h.of_orders (apply_coinOrders shop event), fun k hk => ?_⟩
  cases k with
  | career u =>
    refine ⟨?_, fun row hrow _ _ => by rw [apply_coinOrders]; exact hrow⟩
    cases event with
    | career userId row =>
      refine Function.update_of_ne (fun heq => hk ?_) _ _
      rw [heq]
      exact List.mem_singleton_self _
    | viewGoal => rfl
    | tables => rfl
  | order id =>
    intro row hrow _
    rw [apply_coinOrders]
    exact hrow

/-! ### Any interleaving -/

def CoinsOk (s : CoinCalls) : Prop := s.Ok ShopOk Kept CoinCall.Does

theorem emptyShop_ok : CoinsOk (.start emptyShop) :=
  Programs.ok_start
    ⟨fun _ h => (List.not_mem_nil h).elim, fun _ h => (List.not_mem_nil h).elim,
      fun _ h => (List.not_mem_nil h).elim⟩

theorem CoinsOk.run {s : CoinCalls} (h : CoinsOk s) (e : CoinEvent) : CoinsOk (s.run e) :=
  Programs.Ok.step (P := coinInterface) Kept.refl Kept.trans sound_program apply_other h e

/-- What a step does: it leaves the orders as they are, or does what its call may do. -/
theorem CoinsOk.run_db {s : CoinCalls} (h : CoinsOk s) (e : CoinEvent) :
    (s.run e).db = s.db ∨
    (∃ i call rest, e = .statement i ∧ s.calls i = some (call, rest) ∧
      call.Does s.db (s.run e).db) ∨
    ∃ event, e = .other event ∧ (s.run e).db = s.db.apply event :=
  Programs.Ok.step_db Kept.refl Kept.trans h e

/-- What becomes of the orders in a step. -/
inductive OrdersMove (a b : Shop) : Prop
  | kept (hkept : ∀ row ∈ a.coinOrders, row.Credited → row ∈ b.coinOrders)
      (hnone : ∀ row ∈ b.coinOrders, row.Credited → row ∈ a.coinOrders)
  | credits {order : CoinOrderRow} (h : Credits order a b)
  | refunds {order : CoinOrderRow} (h : Refunds order a b)

theorem OrdersMove.same {a b : Shop} (h : b.coinOrders = a.coinOrders) : OrdersMove a b :=
  .kept (fun row hrow _ => by rw [h]; exact hrow) fun row hrow _ => by rw [← h]; exact hrow

theorem CoinsOk.move {s : CoinCalls} (h : CoinsOk s) (e : CoinEvent) :
    OrdersMove s.db (s.run e).db := by
  rcases h.run_db e with hsame | ⟨i, call, rest, -, -, hdoes⟩ | ⟨event, -, hdb⟩
  · exact .same (by rw [hsame])
  · cases hdoes with
    | prepares h => exact .kept h.kept h.none
    | credits h => exact .credits h
    | refunds h => exact .refunds h
  · exact .same (by rw [hdb, apply_coinOrders])

theorem Credits.writes {order : CoinOrderRow} {a b : Shop} (h : Credits order a b) :
    Writes order { order with state := .fulfilled } a b :=
  ⟨h.stored, rfl, rfl, rfl, h.orders⟩

theorem Refunds.writes {order : CoinOrderRow} {a b : Shop} (h : Refunds order a b) :
    ∃ reference, Writes order { order with
      state := .refunded, refundReference := some reference } a b := by
  obtain ⟨reference, horders⟩ := h.orders
  exact ⟨reference, h.stored, rfl, rfl, rfl, horders⟩

/-- A credited order stays one. -/
theorem OrdersMove.credited {a b : Shop} (h : OrdersMove a b) (hok : ShopOk a)
    {row : CoinOrderRow} (hrow : row ∈ a.coinOrders) (hcredited : row.Credited) :
    ∃ row' ∈ b.coinOrders, row'.Credited ∧
      ∃ state reference, row' = { row with state := state, refundReference := reference } := by
  cases h with
  | kept hkept => exact ⟨row, hkept row hrow hcredited, hcredited, _, _, rfl⟩
  | @credits order h =>
    refine ⟨row, h.writes.mem_other hrow fun hid => ?_, hcredited, _, _, rfl⟩
    rw [hok.unique row hrow order h.stored hid] at hcredited
    exact not_credited_pending h.pending hcredited
  | @refunds order h =>
    obtain ⟨reference, hwrites⟩ := h.writes
    by_cases hid : row.id = order.id
    · refine ⟨_, hwrites.mem_new, Or.inr rfl, .refunded, some reference, ?_⟩
      rw [hok.unique row hrow order h.stored hid]
    · exact ⟨row, hwrites.mem_other hrow hid, hcredited, _, _, rfl⟩

/-- A refunded order is not changed any more. -/
theorem OrdersMove.refunded {a b : Shop} (h : OrdersMove a b) (hok : ShopOk a)
    {row : CoinOrderRow} (hrow : row ∈ a.coinOrders) (hrefunded : row.state = .refunded) :
    row ∈ b.coinOrders := by
  cases h with
  | kept hkept => exact hkept row hrow (Or.inr hrefunded)
  | @credits order h =>
    refine h.writes.mem_other hrow fun hid => ?_
    rw [hok.unique row hrow order h.stored hid, h.pending] at hrefunded
    cases hrefunded
  | @refunds order h =>
    obtain ⟨reference, hwrites⟩ := h.writes
    refine hwrites.mem_other hrow fun hid => ?_
    rw [hok.unique row hrow order h.stored hid, h.fulfilled] at hrefunded
    cases hrefunded

/-- A row that is credited now and was not is that of the order that the step credits. -/
theorem OrdersMove.new_credited {a b : Shop} (h : OrdersMove a b) {row : CoinOrderRow}
    (hrow : row ∈ b.coinOrders) (hcredited : row.Credited) :
    (∃ old ∈ a.coinOrders, old.Credited ∧ old.id = row.id) ∨
      ∃ order, Credits order a b ∧ row = { order with state := .fulfilled } := by
  cases h with
  | kept _ hnone => exact Or.inl ⟨row, hnone row hrow hcredited, hcredited, rfl⟩
  | @credits order h =>
    rcases h.writes.mem hrow with rfl | hold
    · exact Or.inr ⟨order, h, rfl⟩
    · exact Or.inl ⟨row, hold, hcredited, rfl⟩
  | @refunds order h =>
    obtain ⟨reference, hwrites⟩ := h.writes
    rcases hwrites.mem hrow with rfl | hold
    · exact Or.inl ⟨order, h.stored, Or.inl h.fulfilled, rfl⟩
    · exact Or.inl ⟨row, hold, hcredited, rfl⟩

/-- A step credits an order that has the property. -/
def CreditsSome (f : CoinOrderRow → Prop) (s : CoinCalls) (e : CoinEvent) : Prop :=
  ∃ order, f order ∧ Credits order s.db (s.run e).db

def RefundsSome (f : CoinOrderRow → Prop) (s : CoinCalls) (e : CoinEvent) : Prop :=
  ∃ order, f order ∧ Refunds order s.db (s.run e).db

/-- What tells one order, or one order at most, from the others. -/
structure Telling (f : CoinOrderRow → Prop) : Prop where
  stable : ∀ row state reference, f row →
    f { row with state := state, refundReference := reference }
  unique : ∀ shop, ShopOk shop → ∀ a ∈ shop.coinOrders, ∀ b ∈ shop.coinOrders,
    f a → f b → a.id = b.id

theorem telling_id (id : String) : Telling fun order => order.id = id :=
  ⟨fun _ _ _ h => h, fun _ _ _ _ _ _ ha hb => ha.trans hb.symm⟩

theorem telling_transaction (t : String) : Telling fun order => order.transactionId = some t :=
  ⟨fun _ _ _ h => h, fun _ hok a ha b hb hta htb => hok.transactions a ha b hb t hta htb⟩

theorem telling_starter (u : String) :
    Telling fun order => order.playerId = u ∧ order.product.id = "starter" :=
  ⟨fun _ _ _ h => h, fun _ hok a ha b hb hsa hsb =>
    hok.starter a ha b hb hsa.2 hsb.2 (hsa.1.trans hsb.1.symm)⟩

theorem credits_once {f : CoinOrderRow → Prop} (hf : Telling f) (events : List CoinEvent) :
    AtMostOnce CoinCalls.run (CreditsSome f) (.start emptyShop) events := by
  refine @atMostOnce_of_invariant _ _ _ _ CoinsOk
    (fun s => ∃ row ∈ s.db.coinOrders, f row ∧ row.Credited) (fun s e h => h.run e)
    (fun s e h hq => ?_) (fun s e h hn => ?_) (fun s e h hn hq => ?_) _ emptyShop_ok events
  · obtain ⟨order, hforder, hcredits⟩ := hq
    exact ⟨_, hcredits.writes.mem_new, hf.stable order _ order.refundReference hforder,
      Or.inl rfl⟩
  · obtain ⟨row, hrow, hfrow, hcredited⟩ := hn
    obtain ⟨row', hrow', hcredited', state, reference, rfl⟩ :=
      (h.move e).credited h.inv hrow hcredited
    exact ⟨_, hrow', hf.stable row state reference hfrow, hcredited'⟩
  · obtain ⟨row, hrow, hfrow, hcredited⟩ := hn
    obtain ⟨order, hforder, hcredits⟩ := hq
    have hid := hf.unique _ h.inv row hrow order hcredits.stored hfrow hforder
    rw [h.inv.unique row hrow order hcredits.stored hid] at hcredited
    exact not_credited_pending hcredits.pending hcredited

theorem refunds_once {f : CoinOrderRow → Prop} (hf : Telling f) (events : List CoinEvent) :
    AtMostOnce CoinCalls.run (RefundsSome f) (.start emptyShop) events := by
  refine @atMostOnce_of_invariant _ _ _ _ CoinsOk
    (fun s => ∃ row ∈ s.db.coinOrders, f row ∧ row.state = .refunded) (fun s e h => h.run e)
    (fun s e h hq => ?_) (fun s e h hn => ?_) (fun s e h hn hq => ?_) _ emptyShop_ok events
  · obtain ⟨order, hforder, hrefunds⟩ := hq
    obtain ⟨reference, hwrites⟩ := hrefunds.writes
    exact ⟨_, hwrites.mem_new, hf.stable order _ (some reference) hforder, rfl⟩
  · obtain ⟨row, hrow, hfrow, hrefunded⟩ := hn
    exact ⟨row, (h.move e).refunded h.inv hrow hrefunded, hfrow, hrefunded⟩
  · obtain ⟨row, hrow, hfrow, hrefunded⟩ := hn
    obtain ⟨order, hforder, hrefunds⟩ := hq
    have hid := hf.unique _ h.inv row hrow order hrefunds.stored hfrow hforder
    rw [h.inv.unique row hrow order hrefunds.stored hid, hrefunds.fulfilled] at hrefunded
    cases hrefunded

/-- The order that a step credits is the only one. -/
theorem Credits.unique {a b : Shop} (hok : ShopOk a) {order order' : CoinOrderRow}
    (h : Credits order a b) (h' : Credits order' a b) : order = order' := by
  rcases h'.writes.mem h.writes.mem_new with heq | hold
  · have hid := congrArg CoinOrderRow.id heq
    exact hok.unique order h.stored order' h'.stored hid
  · have heq := hok.unique _ hold order h.stored rfl
    have hstate := congrArg CoinOrderRow.state heq
    rw [h.pending] at hstate
    cases hstate

/-- A step that credits an order does not keep it, nor refund another. -/
theorem Credits.not_credited {a b : Shop} (hok : ShopOk a) {order : CoinOrderRow}
    (h : Credits order a b) : ¬ ∃ old ∈ a.coinOrders, old.Credited ∧ old.id = order.id := by
  rintro ⟨old, hold, hcredited, hid⟩
  rw [hok.unique old hold order h.stored hid] at hcredited
  exact not_credited_pending h.pending hcredited

/-- In a step of a call coins move only with an order that is credited or refunded, an
order is credited only by a call that the provider has told of its payment, and a refund
leaves no coins below zero. -/
structure CoinsMove (s : CoinCalls) (e : CoinEvent) : Prop where
  moved : (∀ event, e ≠ .other event) → ∀ u, (s.run e).db.coins u ≠ s.db.coins u →
    ∃ order, Credits order s.db (s.run e).db ∨ Refunds order s.db (s.run e).db
  reported : ∀ order, Credits order s.db (s.run e).db →
    ∃ i call rest, e = .statement i ∧ s.calls i = some (call, rest) ∧ call.Reported order
  nonneg : ∀ order, Refunds order s.db (s.run e).db →
    ∀ c, (s.run e).db.coins order.playerId = some c → 0 ≤ c

theorem CoinsOk.coinsMove {s : CoinCalls} (h : CoinsOk s) (e : CoinEvent) : CoinsMove s e where
  moved hcall u hu := by
    rcases h.run_db e with hsame | ⟨i, call, rest, -, -, hdoes⟩ | ⟨event, he, -⟩
    · rw [hsame] at hu
      exact absurd rfl hu
    · cases hdoes with
      | prepares h =>
        unfold Shop.coins at hu
        rw [h.players] at hu
        exact absurd rfl hu
      | @credits order h => exact ⟨order, Or.inl h⟩
      | @refunds order h => exact ⟨order, Or.inr h⟩
    · exact absurd he (hcall event)
  reported order hcredits := by
    have hnot := hcredits.not_credited h.inv
    have hmem := hcredits.writes.mem_new
    rcases h.run_db e with hsame | ⟨i, call, rest, he, hi, hdoes⟩ | ⟨event, -, hdb⟩
    · rw [hsame] at hmem
      exact absurd ⟨_, hmem, Or.inl rfl, rfl⟩ hnot
    · cases hdoes with
      | prepares h => exact absurd ⟨_, h.none _ hmem (Or.inl rfl), Or.inl rfl, rfl⟩ hnot
      | @credits order' h' hreported =>
        rw [hcredits.unique h.inv h']
        exact ⟨i, call, rest, he, hi, hreported⟩
      | @refunds order' h' =>
        obtain ⟨reference, hwrites⟩ := h'.writes
        rcases hwrites.mem hmem with heq | hold
        · have hstate := congrArg CoinOrderRow.state heq
          cases hstate
        · exact absurd ⟨_, hold, Or.inl rfl, rfl⟩ hnot
    · rw [hdb, apply_coinOrders] at hmem
      exact absurd ⟨_, hmem, Or.inl rfl, rfl⟩ hnot
  nonneg order hrefunds c hc := by
    have hcoins := hrefunds.coins order.playerId
    rw [if_pos rfl, hc] at hcoins
    obtain ⟨old, -, rfl⟩ := Option.map_eq_some_iff.mp hcoins.symm
    have hmin : min old order.product.coins ≤ old := min_le_left _ _
    omega

/-- Every credited order was credited by an event of the run. -/
theorem credited_before (events : List CoinEvent) :
    CoinsOk (events.foldl CoinCalls.run (.start emptyShop)) ∧
      ∀ row ∈ (events.foldl CoinCalls.run (.start emptyShop)).db.coinOrders, row.Credited →
        ∃ before e after, before ++ e :: after = events ∧
          CreditsSome (fun order => order.id = row.id)
            (before.foldl CoinCalls.run (.start emptyShop)) e := by
  refine @history _ _ CoinCalls.run (fun events s => CoinsOk s ∧
    ∀ row ∈ s.db.coinOrders, row.Credited → ∃ before e after, before ++ e :: after = events ∧
      CreditsSome (fun order => order.id = row.id)
        (before.foldl CoinCalls.run (.start emptyShop)) e) _
    ⟨emptyShop_ok, fun _ h => (List.not_mem_nil h).elim⟩ (fun before e h => ?_) events
  obtain ⟨hok, hall⟩ := h
  refine ⟨hok.run e, fun row hrow hcredited => ?_⟩
  rcases (hok.move e).new_credited hrow hcredited with ⟨old, hold, holdc, hid⟩ | ⟨order, hc, rfl⟩
  · obtain ⟨b, e', after, rfl, hcredits⟩ := hall old hold holdc
    refine ⟨b, e', after ++ [e], by simp, ?_⟩
    rw [← hid]
    exact hcredits
  · exact ⟨before, e, [], rfl, order, rfl, hc⟩

/-- **Coin payments.**  In every interleaving of the statements of coin calls: an order, a
transaction of the provider and the starter of a player are credited at most once; coins
move only as orders are credited or refunded, and an order is credited only when the
provider has reported its payment; a transaction is refunded at most once, only after its
order was credited, and no coins are left below zero. -/
theorem coin_payments (events : List CoinEvent) :
    (∀ id, AtMostOnce CoinCalls.run (CreditsSome fun order => order.id = id)
      (.start emptyShop) events) ∧
    (∀ t, AtMostOnce CoinCalls.run (CreditsSome fun order => order.transactionId = some t)
      (.start emptyShop) events) ∧
    (∀ u, AtMostOnce CoinCalls.run
      (CreditsSome fun order => order.playerId = u ∧ order.product.id = "starter")
      (.start emptyShop) events) ∧
    (∀ t, AtMostOnce CoinCalls.run (RefundsSome fun order => order.transactionId = some t)
      (.start emptyShop) events) ∧
    (∀ id, AtMostOnce CoinCalls.run (RefundsSome fun order => order.id = id)
      (.start emptyShop) events) ∧
    EachStep CoinCalls.run CoinsMove (.start emptyShop) events ∧
    ∀ before e after, before ++ e :: after = events → ∀ order,
      Refunds order (before.foldl CoinCalls.run (.start emptyShop)).db
        ((before.foldl CoinCalls.run (.start emptyShop)).run e).db →
      ∃ b d rest, b ++ d :: rest = before ∧
        CreditsSome (fun credited => credited.id = order.id)
          (b.foldl CoinCalls.run (.start emptyShop)) d := by
  refine ⟨fun id => credits_once (telling_id id) events,
    fun t => credits_once (telling_transaction t) events,
    fun u => credits_once (telling_starter u) events,
    fun t => refunds_once (telling_transaction t) events,
    fun id => refunds_once (telling_id id) events,
    eachStep_of_preserves (fun s e h => CoinsOk.run h e) (fun s e h => CoinsOk.coinsMove h e)
      emptyShop_ok, fun before e after _ order hrefunds => ?_⟩
  exact (credited_before before).2 order hrefunds.stored (Or.inl hrefunds.fulfilled)

end CrownClash.Store
