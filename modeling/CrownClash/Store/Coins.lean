import CrownClash.Lib.Programs
import CrownClash.Store.Careers

/-!
# Store: coin orders

An order is created for a player and gets its invoice.  The provider asks before the
player pays, and the order is bound to its transaction then.  A receipt, or the player who
looks for the order later, has the provider asked about that transaction; what it reports
as paid credits the order.  A refund takes coins back.

Every call is a program of statements (`Lib.Programs`).  Orders are in the order in which
they were created.
-/

namespace CrownClash.Store

open Lib
open Go (PlayerCareer)

inductive CoinError
  | invalidOrderId
  | invalidCoinProduct
  | coinOrderNotFound
  | coinOrderOwnership
  | coinOrderIdReused
  | coinShopLocked
  | coinStarterAlreadyPurchased
  | invalidCoinInvoice
  | invalidCoinTransaction
  | coinPaymentMismatch
  | coinCheckoutAlreadyPending
  | invalidCoinReceipt
  | coinPaymentNotVerified
  | paymentProviderUnavailable
  | paymentProviderRejected
  | paymentProviderInvalidResponse
  | paymentProviderInvalidInvoice
  | paymentTransactionMismatch
  | store (e : StoreError)
  deriving DecidableEq, Repr

/-- The store with the time at which a player saw the goals of the realm. -/
structure Shop extends Database where
  viewedAt : String → Option ℤ

/-! ### The provider -/

structure BaleTransaction where
  id : String
  status : String
  userId : String
  amount : ℤ
  deriving DecidableEq, Repr

/-- What the provider answers to a call. -/
structure BalePaymentProvider where
  createInvoiceLink : CoinOrderRow → Except CoinError String
  inquireTransaction : String → Except CoinError BaleTransaction

def BalePaymentProvider.createInvoice (p : BalePaymentProvider) (order : CoinOrderRow) :
    Except CoinError String :=
  match p.createInvoiceLink order with
  | .error e => .error e
  | .ok invoice =>
    if invoice = "" ∨ invoice.utf8ByteSize > 4096 then .error .paymentProviderInvalidInvoice
    else .ok invoice

def BalePaymentProvider.inquiry (p : BalePaymentProvider) (id : String) :
    Except CoinError BaleTransaction :=
  match p.inquireTransaction id with
  | .error e => .error e
  | .ok t => if t.id ≠ id then .error .paymentTransactionMismatch else .ok t

/-! ### Statements -/

/-- The rows that are locked. -/
inductive RowLock
  | career (userId : String)
  | order (id : String)
  deriving DecidableEq

abbrev CoinReply := Except CoinError (Option CoinOrderRow)

abbrev CoinProgram := Program Shop RowLock CoinReply

def fails (e : CoinError) : CoinProgram := .done (.error e)

def answers (order : CoinOrderRow) : CoinProgram := .done (.ok (some order))

/-- The order as it is seen. -/
def seenCoinOrder (seen : Shop) (userId id : String) (next : CoinOrderRow → CoinProgram) :
    CoinProgram :=
  match seen.coinOrders.find? fun row => row.id = id with
  | none => fails .coinOrderNotFound
  | some order => if order.playerId ≠ userId then fails .coinOrderOwnership else next order

def readCoinOrder (userId id : String) (next : CoinOrderRow → CoinProgram) : CoinProgram :=
  .read fun seen => seenCoinOrder seen userId id next

/-- The same order, with other columns. -/
def Shop.setCoinOrder (shop : Shop) (order : CoinOrderRow) : Shop :=
  { shop with toDatabase := shop.toDatabase.setCoinOrder order }

/-! ### Creating an order -/

/-- The unique keys of an order. -/
def Shop.insertCoinOrder (shop : Shop) (order : CoinOrderRow) : Option Shop :=
  if Holds CoinOrderRow.id shop.coinOrders order.id then none
  else if order.product.id = "starter" ∧
      shop.coinOrders.any fun row => row.playerId = order.playerId ∧ row.product.id = "starter" then
    none
  else some { shop with coinOrders := shop.coinOrders ++ [order] }

/-- An order that is not paid yet is given back instead of a new one. -/
def createOrRecover (userId external id : String) (product : CoinProduct) : CoinProgram :=
  .read fun seen =>
    match (seen.coinOrders.filter fun row => row.playerId = userId ∧ row.product.id = product.id ∧
        (row.state = .created ∨ row.state = .pending)).getLast? with
    | some prior => readCoinOrder userId prior.id answers
    | none =>
      let order : CoinOrderRow := ⟨id, userId, external, product, .created, none, none⟩
      .commit (fun shop => shop.insertCoinOrder order) (answers order)
        (fails (.store .database))

def createStarter (userId external id : String) (product : CoinProduct) : CoinProgram :=
  .read fun seen =>
    match seen.coinOrders.find? fun row => row.playerId = userId ∧ row.product.id = "starter" with
    | some prior =>
      readCoinOrder userId prior.id fun order =>
        if order.state = .fulfilled ∨ order.state = .refunded then
          fails .coinStarterAlreadyPurchased
        else answers order
    | none => createOrRecover userId external id product

def createInShop (career : PlayerCareer) (userId external id : String) (product : CoinProduct) :
    CoinProgram :=
  .read fun seen =>
    if (seen.viewedAt userId).getD 0 = 0 ∨ career.matchesPlayed < 3 ∨
        career.tutorialCompleted = false then
      fails .coinShopLocked
    else if product.id = "starter" then createStarter userId external id product
    else createOrRecover userId external id product

def createCoinOrder (userId external id productId : String) : CoinProgram :=
  if id.utf8ByteSize < 16 ∨ id.utf8ByteSize > 80 then fails .invalidOrderId
  else
    match pilotCoinProducts.find? fun p => p.id = productId with
    | none => fails .invalidCoinProduct
    | some product =>
      .lock (.career userId) <| .read fun seen =>
        match seen.realmCareerForUpdate userId with
        | .error e => fails (.store e)
        | .ok career =>
          .read fun seen =>
            if Holds CoinOrderRow.id seen.coinOrders id then
              readCoinOrder userId id fun order =>
                if order.product.id ≠ productId then fails .coinOrderIdReused else answers order
            else createInShop career userId external id product

/-! ### Invoices -/

def attachCoinInvoice (userId id invoice : String) : CoinProgram :=
  if invoice = "" ∨ invoice.utf8ByteSize > 4096 then fails .invalidCoinInvoice
  else
    .lock (.order id) <|
      .commit
        (fun shop => some { shop with
          coinOrders := shop.coinOrders.map fun row =>
            if row.id = id ∧ row.playerId = userId ∧ row.state = .created then
              { row with state := .pending }
            else row })
        (readCoinOrder userId id answers) (fails (.store .database))

def ensureCoinInvoice (userId id : String) (p : BalePaymentProvider) : CoinProgram :=
  .lock (.order id) <| .read fun seen =>
    match seen.coinOrder? id with
    | .error e => fails (.store e)
    | .ok row =>
      if row.playerId ≠ userId then fails .coinOrderOwnership
      else
        readCoinOrder userId id fun order =>
          if order.state = .created then
            match p.createInvoice order with
            | .error e => fails e
            | .ok _ =>
              let order := { order with state := .pending }
              .commit (fun shop => some (shop.setCoinOrder order)) (answers order)
                (fails (.store .database))
          else answers order

/-! ### Transactions of the provider -/

/-- The transaction of an order is unique. -/
def Shop.bindTransaction (shop : Shop) (order : CoinOrderRow) (transaction : String) :
    Option Shop :=
  if shop.coinOrders.any fun row => row.id ≠ order.id ∧ row.transactionId = some transaction then
    none
  else some (shop.setCoinOrder { order with transactionId := some transaction })

/-- Another transaction is bound only when the one before has failed. -/
def mayBind (p : BalePaymentProvider) (prior : Option String) (transaction : String) :
    Except CoinError Unit :=
  match prior with
  | none => .ok ()
  | some prior =>
    if prior = transaction then .ok ()
    else
      match p.inquiry prior with
      | .error e => .error e
      | .ok old =>
        if old.status ≠ "failed" ∧ old.status ≠ "rejected" then .error .coinCheckoutAlreadyPending
        else .ok ()

def bindCoinCheckout (p : BalePaymentProvider) (id transaction external currency : String)
    (amount : ℤ) : CoinProgram :=
  if transaction = "" ∨ transaction.utf8ByteSize > 256 then fails .invalidCoinTransaction
  else
    .lock (.order id) <| .read fun seen =>
      match seen.coinOrder? id with
      | .error e => fails (.store e)
      | .ok order =>
        if order.state ≠ .pending ∨ order.externalId ≠ external ∨ currency ≠ "IRR" ∨
            order.product.amountRials ≠ amount then
          fails .coinPaymentMismatch
        else
          match mayBind p order.transactionId transaction with
          | .error e => fails e
          | .ok _ =>
            .commit (fun shop => shop.bindTransaction order transaction) (.done (.ok none))
              (fails (.store .database))

/-! ### Crediting and refunding -/

def Shop.settle (shop : Shop) (decision : Decision CoinOrderRow) : Shop :=
  { shop with
    toDatabase :=
      (decision.commit shop.toDatabase (fun _ db => db) fun order db => db.setCoinOrder order).2 }

def fulfillCoinOrder (payment : VerifiedCoinPayment) (env : Env) : CoinProgram :=
  .read fun seen =>
    match seen.coinOrder? payment.orderId with
    | .error e => fails (.store e)
    | .ok order =>
      let userId := order.playerId
      .lock (.career userId) <| .lock (.order payment.orderId) <|
        readCoinOrder userId payment.orderId fun order =>
          .read fun seen =>
            match decideFulfill seen.toDatabase payment env with
            | .error e => fails (.store e)
            | .ok decision =>
              .commit (fun shop => some (shop.settle decision)) (answers order)
                (fails (.store .database))

def verifyCoinReceipt (p : BalePaymentProvider) (order transaction external : String)
    (amount : ℤ) (currency : String) (env : Env) : CoinProgram :=
  if order = "" ∨ transaction = "" ∨ transaction.utf8ByteSize > 256 then fails .invalidCoinReceipt
  else
    match p.inquiry transaction with
    | .error e => fails e
    | .ok t =>
      if t.status ≠ "paid" ∨ t.userId ≠ external ∨ t.amount ≠ amount ∨ currency ≠ "IRR" then
        fails .coinPaymentNotVerified
      else fulfillCoinOrder ⟨order, transaction, external, amount, currency⟩ env

def recoverCoinOrder (userId id : String) (p : BalePaymentProvider) (env : Env) : CoinProgram :=
  readCoinOrder userId id fun order =>
    if order.state ≠ .pending then answers order
    else
      .read fun seen =>
        match seen.coinOrder? id with
        | .error e => fails (.store e)
        | .ok row =>
          match row.transactionId with
          | none => answers order
          | some transaction =>
            match p.inquiry transaction with
            | .error e => fails e
            | .ok t =>
              if t.status ≠ "paid" then answers order
              else if t.userId ≠ row.externalId ∨ t.amount ≠ order.product.amountRials then
                fails .coinPaymentMismatch
              else fulfillCoinOrder ⟨id, transaction, row.externalId, t.amount, "IRR"⟩ env

/-- The reference of a refund is unique. -/
def Shop.refund (shop : Shop) (decision : Decision CoinOrderRow) (reference : String) :
    Option Shop :=
  match decision with
  | .pay _ _ =>
    if shop.coinOrders.any fun row => row.refundReference = some reference then none
    else some (shop.settle decision)
  | _ => some shop

/-- The order is locked by its update only. -/
def recordCoinRefund (id reference note : String) (env : Env) : CoinProgram :=
  if reference = "" ∨ note = "" then fails (.store .refundEvidenceRequired)
  else
    .read fun seen =>
      match seen.coinOrder? id with
      | .error e => fails (.store e)
      | .ok order =>
        let userId := order.playerId
        .lock (.career userId) <| .read fun seen =>
          seenCoinOrder seen userId id fun order =>
            match decideRefund seen.toDatabase id reference note env with
            | .error e => fails (.store e)
            | .ok decision =>
              .lock (.order id) <|
                .commit (fun shop => shop.refund decision reference) (answers order)
                  (fails (.store .database))

/-! ### The calls -/

inductive CoinCall
  | createCoinOrder (userId external id productId : String)
  | attachCoinInvoice (userId id invoice : String)
  | ensureCoinInvoice (userId id : String) (p : BalePaymentProvider)
  | bindCoinCheckout (p : BalePaymentProvider) (id transaction external currency : String)
      (amount : ℤ)
  | verifyCoinReceipt (p : BalePaymentProvider) (order transaction external : String)
      (amount : ℤ) (currency : String) (env : Env)
  | recoverCoinOrder (userId id : String) (p : BalePaymentProvider) (env : Env)
  | recordCoinRefund (id reference note : String) (env : Env)

def CoinCall.program : CoinCall → CoinProgram
  | .createCoinOrder userId external id productId =>
    Store.createCoinOrder userId external id productId
  | .attachCoinInvoice userId id invoice => Store.attachCoinInvoice userId id invoice
  | .ensureCoinInvoice userId id p => Store.ensureCoinInvoice userId id p
  | .bindCoinCheckout p id transaction external currency amount =>
    Store.bindCoinCheckout p id transaction external currency amount
  | .verifyCoinReceipt p order transaction external amount currency env =>
    Store.verifyCoinReceipt p order transaction external amount currency env
  | .recoverCoinOrder userId id p env => Store.recoverCoinOrder userId id p env
  | .recordCoinRefund id reference note env => Store.recordCoinRefund id reference note env

/-- What else happens: a career is written under its lock, the goals are looked at, and
the other tables are written. -/
inductive ShopEvent
  | career (userId : String) (row : Option PlayerRow)
  | viewGoal (userId : String) (now : ℤ)
  | tables (db : Database)

def Shop.apply (shop : Shop) : ShopEvent → Shop
  | .career userId row => { shop with players := Function.update shop.players userId row }
  | .viewGoal userId now => { shop with viewedAt := Function.update shop.viewedAt userId (some now) }
  | .tables db => { shop with toDatabase := { db with
      players := shop.players, coinOrders := shop.coinOrders } }

def ShopEvent.locks : ShopEvent → List RowLock
  | .career userId _ => [.career userId]
  | _ => []

def coinInterface : Interface Shop RowLock CoinCall CoinReply ShopEvent where
  program := CoinCall.program
  failed := .error (.store .database)
  other := Shop.apply
  locks := ShopEvent.locks

abbrev CoinCalls := Programs Shop RowLock CoinCall CoinReply

abbrev CoinEvent := ProgramEvent CoinCall ShopEvent

def CoinCalls.run (s : CoinCalls) (e : CoinEvent) : CoinCalls := s.step coinInterface e

def emptyShop : Shop := { toDatabase := emptyStore, viewedAt := fun _ => none }

end CrownClash.Store
