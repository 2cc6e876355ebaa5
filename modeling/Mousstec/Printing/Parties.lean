import Mousstec.Printing.Shop

/-!
# Accounts of customers and suppliers

What a customer owes and has paid, over all orders and the account itself, and
the same for a supplier.
-/

namespace Mousstec.Printing

open Library

namespace Shop

def received (shop : Shop) (select : PrintTransaction → Bool) : ℤ :=
  shop.ins select - shop.outs select

def ofCustomer (shop : Shop) (customer order : ℕ) : Bool :=
  (shop.orders.get? order).any fun row => row.customer = customer

/-- `payments_qs` of a customer: payments on the orders, and payments on the
account. -/
def paidBy (shop : Shop) (customer : ℕ) (txn : PrintTransaction) : Bool :=
  match txn.order with
  | some order => shop.ofCustomer customer order
  | none => txn.customer = some customer

/-- `compute_credited`. -/
def orderCredited (shop : Shop) (order : ℕ) : ℤ :=
  shop.creditNotes.total fun _ note =>
    if note.order = some order then note.total else 0

/-- `account_level_debt`. -/
def accountLevelDebt (shop : Shop) (customer : ℕ) : ℤ :=
  (shop.customers.get? customer).elim 0 PrintCustomer.openingBalance -
    shop.creditNotes.total fun _ note =>
      if note.customer = some customer ∧ note.order = none then note.total
      else 0

end Shop

def PrintOrder.counted (order : PrintOrder) : ℤ :=
  if order.status ∈ NON_DEBT_STATUSES then 0 else order.dueAmount

def PrintOrder.outstanding (order : PrintOrder) : ℤ :=
  max 0 (order.counted - order.paidAmount)

def PrintOrder.applied (order : PrintOrder) : ℤ :=
  max 0 (min order.paidAmount order.counted)

structure AccountSummary where
  due : ℤ
  payments : ℤ
  balance : ℤ
  outstanding : ℤ
  credit : ℤ
  openingOutstanding : ℤ
  deriving DecidableEq

/-- How the debt on the account itself enters the summary: a debt is paid
before there is credit, and a balance in favour counts as a payment. -/
def AccountSummary.settle (due applied outstanding payments base : ℤ) :
    AccountSummary :=
  let used := if base > 0 then min base (max 0 (payments - applied)) else 0
  let owed := max 0 base
  let paid := payments + max 0 (-base)
  { due := due + owed
    payments := paid
    balance := due + owed - paid
    outstanding := outstanding + (owed - used)
    credit := max 0 (paid - (applied + used))
    openingOutstanding := owed - used }

namespace Shop

def overOrders (shop : Shop) (customer : ℕ) (figure : PrintOrder → ℤ) : ℤ :=
  shop.orders.total fun _ order =>
    if order.customer = customer then figure order else 0

/-- `PrintCustomer.account_summary`. -/
def accountSummary (shop : Shop) (customer : ℕ) : AccountSummary :=
  .settle (shop.overOrders customer PrintOrder.counted)
    (shop.overOrders customer PrintOrder.applied)
    (shop.overOrders customer PrintOrder.outstanding)
    (shop.received (shop.paidBy customer)) (shop.accountLevelDebt customer)

/-- `payments_qs` of a supplier: payments on the purchases and bills, and
payments on the account. -/
def paidTo (shop : Shop) (supplier : ℕ) (txn : PrintTransaction) : Bool :=
  ((txn.purchase.bind shop.purchases.get?).any fun purchase =>
      purchase.supplier = supplier) ||
    ((txn.bill.bind shop.bills.get?).any fun bill =>
      bill.supplier = supplier) ||
    (txn.purchase.isNone && txn.bill.isNone && txn.supplier = some supplier)

/-- `balance` of `PrintSupplier.account_summary`. -/
def supplierBalance (shop : Shop) (supplier : ℕ) : ℤ :=
  (shop.suppliers.get? supplier).elim 0 PrintSupplier.openingBalance +
    (shop.purchases.total fun _ purchase =>
      if purchase.supplier = supplier ∧ purchase.status = .received then
        purchase.netTotal
      else 0) -
    (shop.purchaseReturns.total fun _ ret =>
      if (shop.purchases.get? ret.purchase).any (fun purchase =>
          purchase.supplier = supplier) ∧ ret.status = .posted then
        ret.total
      else 0) +
    (shop.bills.total fun _ bill =>
      if bill.supplier = supplier ∧ bill.isCancelled = false then bill.total
      else 0) +
    (shop.fixedAssets.total fun _ asset =>
      if asset.supplier = some supplier ∧ asset.funding = .credit then asset.cost
      else 0) +
    shop.received (shop.paidTo supplier)

/-- `material_cost`. -/
def materialCost (shop : Shop) (order : ℕ) : ℤ :=
  roundHalfEven (shop.usages.total fun _ usage =>
    if (shop.jobs.get? usage.job).any fun job => job.order = order then
      worth usage.quantity usage.unitCost
    else 0)

end Shop

end Mousstec.Printing
