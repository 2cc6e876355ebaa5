import Mousstec.Library.Calendar
import Mousstec.Library.Rounding
import Mousstec.Library.Table
import Mousstec.Library.Transaction

/-!
# The tables of a printing shop

Treasuries and their transactions, the documents a transaction can be linked
to, and the stored totals that are kept in line with them: the balance of a
treasury and the paid amount of an order, a purchase or a bill.  Amounts are
whole hundredths.
-/

namespace Mousstec.Printing

open Library

/-- The wallets the program keeps for itself. -/
inductive SystemWallet where
  | chequesIn
  | chequesOut
  | whtIn
  | whtOut
  deriving DecidableEq

inductive TreasuryKind where
  | cash
  | bank
  | wallet
  | system (wallet : SystemWallet)
  deriving DecidableEq

def MONEY_KINDS : List TreasuryKind := [.cash, .bank, .wallet]

def LIABILITY_KINDS : List TreasuryKind := [.system .chequesOut, .system .whtOut]

def SYSTEM_WALLET_NAMES : SystemWallet → String
  | .chequesIn => "🧾 حافظة الشيكات الواردة"
  | .chequesOut => "🧾 الشيكات الصادرة"
  | .whtIn => "🧾 خصم من المنبع (شهادات العملاء)"
  | .whtOut => "🧾 خصم وإضافة مستحق للضرايب"

structure PrintTreasury where
  name : String := ""
  branch : Option ℕ := none
  balance : ℤ := 0
  kind : TreasuryKind := .cash
  deriving DecidableEq

/-- `is_money`. -/
def PrintTreasury.isMoney (treasury : PrintTreasury) : Bool :=
  treasury.kind ∈ MONEY_KINDS

/-- `'in'` and `'out'`. -/
inductive TransactionType where
  | moneyIn
  | moneyOut
  deriving DecidableEq

inductive Category where
  | customer
  | supplier
  | salaries
  | advance
  | rent
  | utilities
  | maintenance
  | shipping
  | marketing
  | materials
  | otherExpense
  | otherIncome
  | capital
  | drawings
  | transfer
  | fixedAsset
  | assetSale
  | payroll
  | vat
  deriving DecidableEq

structure PrintTransaction where
  treasury : ℕ
  transactionType : TransactionType
  amount : ℤ
  /-- Blank until it is filled in. -/
  category : Option Category := none
  description : String := ""
  order : Option ℕ := none
  customer : Option ℕ := none
  supplier : Option ℕ := none
  purchase : Option ℕ := none
  bill : Option ℕ := none
  fixedAsset : Option ℕ := none
  withholdingTax : ℤ := 0
  withholdingTxn : Option ℕ := none
  date : ℤ := 0
  deriving DecidableEq

/-- `_signed`. -/
def signed : TransactionType → ℤ → ℤ
  | .moneyIn, amount => amount
  | .moneyOut, amount => -amount

namespace PrintTransaction

def effect (txn : PrintTransaction) : ℤ :=
  signed txn.transactionType txn.amount

end PrintTransaction

structure PrintTreasuryTransfer where
  fromTreasury : ℕ
  toTreasury : ℕ
  amount : ℤ
  date : ℤ := 0
  notes : String := ""
  outTxn : Option ℕ := none
  inTxn : Option ℕ := none
  deriving DecidableEq

inductive ChequeStatus where
  | pending
  | cleared
  | bounced
  deriving DecidableEq

structure PrintCheque where
  /-- Whether the cheque comes from a customer or goes to a supplier. -/
  direction : TransactionType := .moneyIn
  number : String := ""
  bankName : String := ""
  issueDate : Date
  dueDate : Date
  amount : ℤ
  customer : Option ℕ := none
  order : Option ℕ := none
  supplier : Option ℕ := none
  purchase : Option ℕ := none
  bill : Option ℕ := none
  status : ChequeStatus := .pending
  txn : Option ℕ := none
  settleTransfer : Option ℕ := none
  bounceTxn : Option ℕ := none
  settledOn : Option Date := none
  bouncedOn : Option Date := none
  deriving DecidableEq

structure PrintCustomer where
  openingBalance : ℤ := 0
  openingDate : ℤ := 0
  deriving DecidableEq

inductive OrderStatus where
  | draft
  | confirmed
  | inProgress
  | ready
  | delivered
  | cancelled
  deriving DecidableEq

def NON_DEBT_STATUSES : List OrderStatus := [.draft, .cancelled]

structure PrintOrder where
  customer : ℕ
  branch : Option ℕ := none
  status : OrderStatus := .draft
  dateCreated : ℤ := 0
  dateDelivered : Option ℤ := none
  dateCancelled : Option ℤ := none
  totalAmount : ℤ := 0
  discount : ℤ := 0
  paidAmount : ℤ := 0
  creditedAmount : ℤ := 0
  taxAmount : ℤ := 0
  deriving DecidableEq

namespace PrintOrder

/-- `revenue`. -/
def revenue (order : PrintOrder) : ℤ :=
  order.totalAmount - order.discount

/-- `net_total`. -/
def netTotal (order : PrintOrder) : ℤ :=
  order.totalAmount - order.discount + order.taxAmount

/-- `due_amount`. -/
def dueAmount (order : PrintOrder) : ℤ :=
  order.netTotal - order.creditedAmount

end PrintOrder

/-- What is paid on an order out of the customer's credit. -/
structure PrintCreditAllocation where
  order : ℕ
  amount : ℤ
  deriving DecidableEq

inductive CreditNoteKind where
  | goodsReturn
  | discount
  | badDebt
  deriving DecidableEq

structure PrintCreditNote where
  kind : CreditNoteKind := .goodsReturn
  order : Option ℕ := none
  customer : Option ℕ := none
  date : ℤ := 0
  amount : ℤ
  taxAmount : ℤ := 0
  refundTreasury : Option ℕ := none
  refundTxn : Option ℕ := none
  deriving DecidableEq

/-- `total`. -/
def PrintCreditNote.total (note : PrintCreditNote) : ℤ :=
  note.amount + note.taxAmount

inductive PurchaseStatus where
  | draft
  | received
  | cancelled
  deriving DecidableEq

inductive PaymentTerms where
  | cash
  | credit
  deriving DecidableEq

structure MaterialPurchase where
  supplier : ℕ
  branch : Option ℕ := none
  date : ℤ := 0
  status : PurchaseStatus := .draft
  paymentTerms : PaymentTerms := .cash
  treasury : Option ℕ := none
  totalAmount : ℤ := 0
  discount : ℤ := 0
  taxAmount : ℤ := 0
  paidAmount : ℤ := 0
  deriving DecidableEq

/-- What came in on one line of a purchase. -/
structure MaterialPurchaseLine where
  purchase : ℕ
  material : ℕ
  quantity : ℤ
  /-- In hundredths of a hundredth. -/
  unitCost : ℤ
  lineTotal : ℤ := 0
  deriving DecidableEq

inductive ReturnStatus where
  | draft
  | posted
  deriving DecidableEq

structure MaterialPurchaseReturn where
  purchase : ℕ
  date : ℤ := 0
  refundTreasury : Option ℕ := none
  status : ReturnStatus := .draft
  value : ℤ := 0
  taxAmount : ℤ := 0
  deriving DecidableEq

/-- `total`. -/
def MaterialPurchaseReturn.total (ret : MaterialPurchaseReturn) : ℤ :=
  ret.value + ret.taxAmount

structure MaterialPurchaseReturnLine where
  ret : ℕ
  purchaseLine : ℕ
  quantity : ℤ
  value : ℤ := 0
  deriving DecidableEq

namespace MaterialPurchase

/-- `inventory_value`. -/
def inventoryValue (purchase : MaterialPurchase) : ℤ :=
  purchase.totalAmount - purchase.discount

/-- `net_total`. -/
def netTotal (purchase : MaterialPurchase) : ℤ :=
  purchase.totalAmount - purchase.discount + purchase.taxAmount

end MaterialPurchase

structure PrintSupplier where
  openingBalance : ℤ := 0
  openingDate : ℤ := 0
  deriving DecidableEq

structure PrintExpenseBill where
  supplier : ℕ
  branch : Option ℕ := none
  amount : ℤ := 0
  taxAmount : ℤ := 0
  paidAmount : ℤ := 0
  isCancelled : Bool := false
  deriving DecidableEq

/-- `total`. -/
def PrintExpenseBill.total (bill : PrintExpenseBill) : ℤ :=
  bill.amount + bill.taxAmount

/-- What is paid on a purchase or a bill out of our credit with a supplier. -/
structure PrintSupplierAllocation where
  purchase : Option ℕ := none
  bill : Option ℕ := none
  amount : ℤ
  deriving DecidableEq

inductive AssetFunding where
  | cash
  | credit
  | opening
  deriving DecidableEq

structure PrintFixedAsset where
  name : String := ""
  branch : Option ℕ := none
  supplier : Option ℕ := none
  purchaseDate : Date
  cost : ℤ
  salvageValue : ℤ := 0
  usefulLifeMonths : ℕ := 60
  depreciationStart : Option Date := none
  openingAccumulated : ℤ := 0
  funding : AssetFunding := .cash
  treasury : Option ℕ := none
  disposedOn : Option Date := none
  disposalAmount : ℤ := 0
  disposalTreasury : Option ℕ := none
  deriving DecidableEq

structure PrintMaterial where
  branch : Option ℕ := none
  quantity : ℤ := 0
  /-- In hundredths of a hundredth. -/
  costPerUnit : ℤ := 0
  deriving DecidableEq

structure PrintJob where
  order : ℕ
  deriving DecidableEq

structure PrintJobMaterial where
  job : ℕ
  material : ℕ
  quantity : ℤ
  /-- In hundredths of a hundredth. -/
  unitCost : ℤ := 0
  deriving DecidableEq

structure PrintStockAdjustment where
  material : ℕ
  quantityChange : ℤ
  /-- In hundredths of a hundredth. -/
  unitCost : ℤ := 0
  createdAt : ℤ := 0
  deriving DecidableEq

def worth (quantity unitCost : ℤ) : ℚ :=
  quantity * unitCost / 10000

/-- `value`. -/
def PrintStockAdjustment.value (adjustment : PrintStockAdjustment) : ℤ :=
  roundHalfEven (worth adjustment.quantityChange adjustment.unitCost)

structure Shop where
  treasuries : Table PrintTreasury := .empty
  transactions : Table PrintTransaction := .empty
  transfers : Table PrintTreasuryTransfer := .empty
  cheques : Table PrintCheque := .empty
  customers : Table PrintCustomer := .empty
  orders : Table PrintOrder := .empty
  allocations : Table PrintCreditAllocation := .empty
  creditNotes : Table PrintCreditNote := .empty
  purchases : Table MaterialPurchase := .empty
  bills : Table PrintExpenseBill := .empty
  supplierAllocations : Table PrintSupplierAllocation := .empty
  fixedAssets : Table PrintFixedAsset := .empty
  suppliers : Table PrintSupplier := .empty
  purchaseLines : Table MaterialPurchaseLine := .empty
  purchaseReturns : Table MaterialPurchaseReturn := .empty
  purchaseReturnLines : Table MaterialPurchaseReturnLine := .empty
  materials : Table PrintMaterial := .empty
  jobs : Table PrintJob := .empty
  usages : Table PrintJobMaterial := .empty
  adjustments : Table PrintStockAdjustment := .empty
  deriving DecidableEq

/-- What an operation on the shop raises. -/
inductive ShopError where
  | doesNotExist (model : String)
  | recursionDepth
  | insufficientBalance
  | transferLeg
  | assetPayment
  | withholdingOfPayment
  | chequeTransaction
  | changePermission
  | transferEdited
  | sameTreasury
  | transferShort (treasury : String)
  | chequeSettlement
  | incomingWithoutParty
  | incomingWithSupplier
  | outgoingWithoutParty
  | outgoingWithCustomer
  | dueBeforeIssue
  | notMoney
  | chequeClosed
  | chequeSettled
  | belowMinimum (field limit : String)
  | salvageAboveCost
  | openingFundingOnly
  | creditWithoutSupplier
  | assetWithoutTreasury
  | disposalWithoutTreasury
  | disposedBeforePurchase
  | assetPriceFixed
  | disposalFixed
  | assetShort
  deriving DecidableEq

def ShopError.text : ShopError → String
  | .doesNotExist model => model ++ " matching query does not exist."
  | .recursionDepth => "maximum recursion depth exceeded"
  | .insufficientBalance => "رصيد الخزنة لا يكفي لإتمام العملية."
  | .transferLeg => "الحركة دي جزء من تحويل بين الخزائن — امسح التحويل نفسه (الحركتين بيتمسحوا مع بعض)."
  | .assetPayment => "الحركة دي ثمن/بيع أصل ثابت — امسح الأصل نفسه من «الأصول الثابتة»."
  | .withholdingOfPayment => "ده خصم من المنبع تابع لدفعة — عدّل أو امسح الدفعة نفسها."
  | .chequeTransaction => "الحركة دي بتاعة شيك — اتعامل معاه من شاشة «الشيكات»."
  | .changePermission => "403 Forbidden"
  | .transferEdited => "التحويل مابيتعدّلش — امسحه واعمل واحد جديد."
  | .sameTreasury => "اختار خزنتين مختلفتين."
  | .transferShort treasury => "رصيد خزنة «" ++ treasury ++ "» مش كفاية."
  | .chequeSettlement => "التحويل ده صرف شيك — مابيتمسحش (لو الشيك رجع سجّله «مرتجع» من شاشة الشيكات)."
  | .incomingWithoutParty => "الشيك الوارد لازم يتربط بعميل أو طلب."
  | .incomingWithSupplier => "الشيك الوارد مايتربطش بمورد."
  | .outgoingWithoutParty => "الشيك الصادر لازم يتربط بمورد أو فاتورة."
  | .outgoingWithCustomer => "الشيك الصادر مايتربطش بعميل."
  | .dueBeforeIssue => "تاريخ الاستحقاق قبل تاريخ الاستلام."
  | .notMoney => "اختار البنك أو الخزنة اللي الشيك اتصرف فيها."
  | .chequeClosed => "الشيك ده اتقفل قبل كده."
  | .chequeSettled => "الشيك اتصرف أو رجع — مابيتمسحش."
  | .belowMinimum field limit =>
      field ++ ": Ensure this value is greater than or equal to " ++ limit ++ "."
  | .salvageAboveCost => "قيمة الخردة أكبر من التكلفة."
  | .openingFundingOnly => "الإهلاك المتراكم قبل السيستم للأصل الافتتاحي بس."
  | .creditWithoutSupplier => "الشراء الآجل لازم يتربط بمورد."
  | .assetWithoutTreasury => "اختار الخزنة اللي اتدفع منها ثمن الأصل."
  | .disposalWithoutTreasury => "اختار الخزنة اللي استلمت مبلغ البيع."
  | .disposedBeforePurchase => "تاريخ البيع قبل تاريخ الشراء."
  | .assetPriceFixed =>
      "ثمن الأصل اتصرف من الخزنة — مينفعش تغيّر التكلفة أو طريقة الدفع. " ++
        "امسح الأصل (الفلوس بترجع الخزنة) وسجّله تاني."
  | .disposalFixed => "البيع/الاستبعاد اتسجّل خلاص — مينفعش يتعدّل."
  | .assetShort => "رصيد الخزنة مش كفاية لثمن الأصل."

abbrev ShopTxn (α : Type) := Txn ShopError Shop α

namespace Shop

/-- The sum of the `'in'` amounts of the transactions a test selects. -/
def ins (shop : Shop) (select : PrintTransaction → Bool) : ℤ :=
  shop.transactions.total fun _ txn =>
    if select txn ∧ txn.transactionType = .moneyIn then txn.amount else 0

/-- The sum of the `'out'` amounts of the transactions a test selects. -/
def outs (shop : Shop) (select : PrintTransaction → Bool) : ℤ :=
  shop.transactions.total fun _ txn =>
    if select txn ∧ txn.transactionType = .moneyOut then txn.amount else 0

/-- `PrintOrder.compute_paid`. -/
def orderPaid (shop : Shop) (order : ℕ) : ℤ :=
  max (shop.ins (·.order = some order) - shop.outs (·.order = some order) +
    shop.allocations.total fun _ allocation =>
      if allocation.order = order then allocation.amount else 0) 0

/-- `MaterialPurchase.compute_paid`. -/
def purchasePaid (shop : Shop) (purchase : ℕ) : ℤ :=
  shop.outs (·.purchase = some purchase) - shop.ins (·.purchase = some purchase) +
    shop.supplierAllocations.total fun _ allocation =>
      if allocation.purchase = some purchase then allocation.amount else 0

/-- `PrintExpenseBill.compute_paid`. -/
def billPaid (shop : Shop) (bill : ℕ) : ℤ :=
  shop.outs (·.bill = some bill) - shop.ins (·.bill = some bill) +
    shop.supplierAllocations.total fun _ allocation =>
      if allocation.bill = some bill then allocation.amount else 0

def writePaid (table : Table α) (write : ℤ → α → α) (paid : ℕ → ℤ) :
    Option ℕ → Table α
  | none => table
  | some key => table.modify key (write (paid key))

/-- `_recompute_paid_amount`. -/
def recomputeOrder (shop : Shop) (order : Option ℕ) : Shop :=
  { shop with
    orders := writePaid shop.orders
      (fun paid row => { row with paidAmount := paid }) shop.orderPaid order }

/-- `_recompute_purchase_paid`. -/
def recomputePurchase (shop : Shop) (purchase : Option ℕ) : Shop :=
  { shop with
    purchases := writePaid shop.purchases
      (fun paid row => { row with paidAmount := paid }) shop.purchasePaid
      purchase }

/-- `_recompute_bill_paid`. -/
def recomputeBill (shop : Shop) (bill : Option ℕ) : Shop :=
  { shop with
    bills := writePaid shop.bills
      (fun paid row => { row with paidAmount := paid }) shop.billPaid bill }

def recomputeLinks (shop : Shop) (txn : PrintTransaction) : Shop :=
  ((shop.recomputeOrder txn.order).recomputePurchase txn.purchase).recomputeBill
    txn.bill

def addBalance (shop : Shop) (treasury : ℕ) (amount : ℤ) : Shop :=
  { shop with
    treasuries := shop.treasuries.modify treasury fun stored =>
      { stored with balance := stored.balance + amount } }

def firstOfKind (shop : Shop) (kind : TreasuryKind) : Option ℕ :=
  (shop.treasuries.rows.find? fun row => row.2.kind = kind).map Prod.fst

end Shop

end Mousstec.Printing
