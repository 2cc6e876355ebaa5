import Mousstec.Library.Runs
import Mousstec.Printing.PurchaseShares
import Mousstec.Printing.Transactions

/-!
# Returns of purchased material

A return names lines of a received purchase.  Posting it takes the quantities out
of the stock, each at its share of the value of the purchase, and may bring the
refund into a treasury.  A posted return is neither changed nor deleted.
-/

namespace Mousstec.Printing

open Library

inductive ReturnError where
  | doesNotExist (model : String)
  | alreadyPosted
  | notReceived
  | noLines
  | otherPurchase
  | unavailable (material : ℕ) (left : ℤ)
  | outOfStock (material : ℕ) (stock : ℤ)
  | keyError
  | divisionByZero
  | linesFixed
  | belowMinimum
  | postedDeleted
  | shop (error : ShopError)
  deriving DecidableEq

def ReturnError.text (name : ℕ → String) (number : ℤ → String) :
    ReturnError → String
  | .doesNotExist model => model ++ " matching query does not exist."
  | .alreadyPosted => "المرتجع اترحّل قبل كده."
  | .notReceived => "المرتجع بيتعمل على فاتورة مستلمة بس."
  | .noLines => "أضف بند واحد على الأقل للمرتجع."
  | .otherPurchase => "بند من فاتورة تانية."
  | .unavailable material left =>
      "«" ++ name material ++ "»: المتاح للمرتجع " ++ number left ++ " بس."
  | .outOfStock material stock =>
      "«" ++ name material ++ "»: المتاح في المخزن " ++ number stock ++
        " أقل من كمية المرتجع."
  | .keyError => "KeyError"
  | .divisionByZero => "DivisionByZero"
  | .linesFixed => "بنود المرتجع مابتتعدّلش بعد الترحيل."
  | .belowMinimum =>
      "quantity: Ensure this value is greater than or equal to 0.01."
  | .postedDeleted => "المرتجع المترحّل مابيتمسحش — الخامات خرجت فعلاً للمورد."
  | .shop error => error.text

abbrev ReturnTxn (α : Type) := Txn ReturnError Shop α

namespace Shop

/-- `purchase.lines.order_by('pk')`. -/
def linesOf (shop : Shop) (purchase : ℕ) : List StoredLine :=
  (shop.purchaseLines.filter fun _ line => line.purchase = purchase).rows

/-- `ret.lines`. -/
def returnLinesOf (shop : Shop) (ret : ℕ) :
    List (ℕ × MaterialPurchaseReturnLine) :=
  (shop.purchaseReturnLines.filter fun _ line => line.ret = ret).rows

def isPosted (shop : Shop) (ret : ℕ) : Bool :=
  (shop.purchaseReturns.get? ret).any fun row => row.status = .posted

def returnedQuantity (shop : Shop) (purchaseLine : ℕ) : ℤ :=
  shop.purchaseReturnLines.total fun _ line =>
    if line.purchaseLine = purchaseLine ∧ shop.isPosted line.ret then line.quantity
    else 0

def returnedValue (shop : Shop) (purchase : ℕ) : ℤ :=
  shop.purchaseReturns.total fun _ ret =>
    if ret.purchase = purchase ∧ ret.status = .posted then ret.value else 0

end Shop

def lineValue (share quantity purchased : ℤ) : ℤ :=
  roundHalfEven (decimal (quantity * decimal (share / purchased)))

def PrintMaterial.takeOut (material : PrintMaterial) (quantity value : ℤ) :
    PrintMaterial :=
  let left := material.quantity - quantity
  let rest := decimal
    (decimal (worth material.quantity material.costPerUnit) - value)
  { material with
    quantity := left
    costPerUnit :=
      if 0 < left then roundHalfEven (10000 * decimal (max rest 0 / left))
      else material.costPerUnit }

def postLine (purchase : ℕ) (effective : List (ℕ × ℤ))
    (row : ℕ × MaterialPurchaseReturnLine) : ReturnTxn ℤ := do
  let shop ← get
  let bought ← Txn.expect (shop.purchaseLines.get? row.2.purchaseLine)
    (.doesNotExist "MaterialPurchaseLine")
  Txn.require (bought.purchase = purchase) .otherPurchase
  let left := bought.quantity - shop.returnedQuantity row.2.purchaseLine
  Txn.require (row.2.quantity ≤ left) (.unavailable bought.material left)
  let share ← Txn.expect (effective.lookup row.2.purchaseLine) .keyError
  Txn.require (bought.quantity ≠ 0) .divisionByZero
  let value := lineValue share row.2.quantity bought.quantity
  let material ← Txn.expect (shop.materials.get? bought.material)
    (.doesNotExist "PrintMaterial")
  Txn.require (row.2.quantity ≤ material.quantity)
    (.outOfStock bought.material material.quantity)
  set { shop with
    materials := shop.materials.modify bought.material fun stored =>
      stored.takeOut row.2.quantity value
    purchaseReturnLines := shop.purchaseReturnLines.modify row.1 fun stored =>
      { stored with value } }
  pure value

def postLines (purchase : ℕ) (effective : List (ℕ × ℤ)) :
    ℤ → List (ℕ × MaterialPurchaseReturnLine) → ReturnTxn ℤ
  | value, [] => pure value
  | value, row :: rows => do
      let added ← postLine purchase effective row
      postLines purchase effective (value + added) rows

def MaterialPurchase.returnedTax (purchase : MaterialPurchase) (value : ℤ) : ℤ :=
  if purchase.inventoryValue = 0 then 0
  else
    roundHalfEven
      (decimal (decimal (purchase.taxAmount * value) / purchase.inventoryValue))

def refund (ret : MaterialPurchaseReturn) (treasury : ℕ) : PrintTransaction where
  treasury
  transactionType := .moneyIn
  amount := ret.total
  purchase := some ret.purchase
  description := "استرداد من المورد — مرتجع"

def payRefund (ret : MaterialPurchaseReturn) : ReturnTxn PUnit :=
  match ret.refundTreasury with
  | none => pure ⟨⟩
  | some treasury => do
      let _ ← Txn.mapError .shop (createTransaction (refund ret treasury))
      pure ⟨⟩

/-- `MaterialPurchaseReturn.post`. -/
def postReturn (pk : ℕ) : ReturnTxn PUnit := Txn.atomic do
  let shop ← get
  let ret ← Txn.expect (shop.purchaseReturns.get? pk)
    (.doesNotExist "MaterialPurchaseReturn")
  Txn.require (ret.status = .draft) .alreadyPosted
  let purchase ← Txn.expect (shop.purchases.get? ret.purchase)
    (.doesNotExist "MaterialPurchase")
  Txn.require (purchase.status = .received) .notReceived
  Txn.require (shop.returnLinesOf pk ≠ []) .noLines
  let effective := purchase.effectiveLineTotals (shop.linesOf ret.purchase)
  let value ← postLines ret.purchase effective 0 (shop.returnLinesOf pk)
  let posted : MaterialPurchaseReturn :=
    { ret with value, taxAmount := purchase.returnedTax value, status := .posted }
  modify fun shop =>
    { shop with
      purchaseReturns := shop.purchaseReturns.modify pk fun _ => posted }
  payRefund posted

def createReturn (purchase : ℕ) (date : ℤ) (refundTreasury : Option ℕ) :
    ReturnTxn PUnit := do
  let shop ← get
  let _ ← Txn.expect (shop.purchases.get? purchase)
    (.doesNotExist "MaterialPurchase")
  set { shop with
    purchaseReturns := shop.purchaseReturns.insert
      { purchase, date, refundTreasury } }

/-- `MaterialPurchaseReturnLine.save`: `None` and `'draft'` pass. -/
def checkDraft (shop : Shop) (ret : ℕ) : ReturnTxn PUnit :=
  Txn.require (shop.isPosted ret = false) .linesFixed

def addReturnLine (ret purchaseLine : ℕ) (quantity : ℤ) : ReturnTxn PUnit := do
  let shop ← get
  Txn.require (0 < quantity) .belowMinimum
  checkDraft shop ret
  let _ ← Txn.expect (shop.purchaseReturns.get? ret)
    (.doesNotExist "MaterialPurchaseReturn")
  let _ ← Txn.expect (shop.purchaseLines.get? purchaseLine)
    (.doesNotExist "MaterialPurchaseLine")
  set { shop with
    purchaseReturnLines := shop.purchaseReturnLines.insert
      { ret, purchaseLine, quantity } }

def changeReturnLine (pk purchaseLine : ℕ) (quantity : ℤ) : ReturnTxn PUnit := do
  let shop ← get
  let line ← Txn.expect (shop.purchaseReturnLines.get? pk)
    (.doesNotExist "MaterialPurchaseReturnLine")
  Txn.require (0 < quantity) .belowMinimum
  checkDraft shop line.ret
  let _ ← Txn.expect (shop.purchaseLines.get? purchaseLine)
    (.doesNotExist "MaterialPurchaseLine")
  set { shop with
    purchaseReturnLines := shop.purchaseReturnLines.modify pk fun stored =>
      { stored with purchaseLine, quantity } }

/-- `has_delete_permission` of the inline: lines of drafts only. -/
def deleteReturnLine (pk : ℕ) : ReturnTxn PUnit := do
  let shop ← get
  let line ← Txn.expect (shop.purchaseReturnLines.get? pk)
    (.doesNotExist "MaterialPurchaseReturnLine")
  checkDraft shop line.ret
  set { shop with purchaseReturnLines := shop.purchaseReturnLines.erase pk }

/-- A deletion takes the lines along: `refuse_deleting_posted_return`. -/
def deleteReturn (pk : ℕ) : ReturnTxn PUnit := do
  let shop ← get
  let _ ← Txn.expect (shop.purchaseReturns.get? pk)
    (.doesNotExist "MaterialPurchaseReturn")
  Txn.require (shop.isPosted pk = false) .postedDeleted
  set { shop with
    purchaseReturns := shop.purchaseReturns.erase pk
    purchaseReturnLines := shop.purchaseReturnLines.filter fun _ line =>
      line.ret ≠ pk }

/-- What happens to the returns, and to the stock beside them. -/
inductive ReturnOp where
  | create (purchase : ℕ) (date : ℤ) (refundTreasury : Option ℕ)
  | addLine (ret purchaseLine : ℕ) (quantity : ℤ)
  | changeLine (pk purchaseLine : ℕ) (quantity : ℤ)
  | deleteLine (pk : ℕ)
  | delete (pk : ℕ)
  | post (pk : ℕ)
  | stock (material : ℕ) (row : PrintMaterial)
  deriving DecidableEq

def ReturnOp.run : ReturnOp → ReturnTxn PUnit
  | .create purchase date refundTreasury =>
      createReturn purchase date refundTreasury
  | .addLine ret purchaseLine quantity => addReturnLine ret purchaseLine quantity
  | .changeLine pk purchaseLine quantity =>
      changeReturnLine pk purchaseLine quantity
  | .deleteLine pk => deleteReturnLine pk
  | .delete pk => deleteReturn pk
  | .post pk => postReturn pk
  | .stock material row =>
      modify fun shop =>
        { shop with materials := shop.materials.modify material fun _ => row }

end Mousstec.Printing
