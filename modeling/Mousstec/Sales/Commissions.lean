import Mousstec.Library.Runs
import Mousstec.Sales.Totals

/-!
# Commissions of salespeople

A sold line earns its salesperson a part of its profit, once.  A return takes
back the part of the commission that the returned quantity stands for, as a
negative commission on its own line; deleting the line undoes that.
-/

namespace Mousstec.Sales

open Library

/-- A line with its salesperson and what it has earned. -/
structure CommissionLine extends SaleInvoiceItem where
  salesperson : Option ℕ := none
  commissionAccrued : ℤ := 0
  deriving DecidableEq

structure EmployeeProfile where
  commissionRatePct : ℚ := 0
  commissionBalance : ℤ := 0
  deriving DecidableEq

structure CommissionDesk where
  invoices : Table SaleInvoice := .empty
  lines : Table CommissionLine := .empty
  employees : Table EmployeeProfile := .empty
  deriving DecidableEq

inductive CommissionError where
  | doesNotExist (model : String)
  | returnOfReturn
  | notPosted
  | tooMuch (product : ℕ) (quantity remaining original previous : ℤ)
  | nothingReturnable
  | quantityBelowOne
  | negativePrice
  | negativeDiscount
  deriving DecidableEq

def CommissionError.text (name : ℕ → String) : CommissionError → String
  | .doesNotExist model => model ++ " matching query does not exist."
  | .returnOfReturn => "لا يمكن عمل مرتجع لفاتورة مرتجع."
  | .notPosted => "لا يمكن عمل مرتجع لفاتورة غير معتمدة."
  | .tooMuch product quantity remaining original previous =>
      s!"كمية المرتجع ({quantity}) أكبر من الكمية المتبقّية ({remaining}) للقطعة {name product}. " ++
        s!"الكمية الأصلية {original} والمُرتجع سابقاً {previous}."
  | .nothingReturnable =>
      "لا توجد كميات قابلة للإرجاع — كل الأصناف المحدّدة مُرتجعة بالكامل."
  | .quantityBelowOne => "quantity: الكمية يجب أن تكون 1 على الأقل"
  | .negativePrice => "unit_price: السعر لا يمكن أن يكون سالباً"
  | .negativeDiscount => "discount: الخصم لا يمكن أن يكون سالباً"

abbrev CommissionTxn (α : Type) := Txn CommissionError CommissionDesk α

/-- `_line_sales_commission`. -/
def lineSalesCommission (desk : CommissionDesk) (item : CommissionLine) : ℤ :=
  match item.salesperson with
  | none => 0
  | some salesperson =>
      let revenue := item.unitPrice * item.quantity - item.discount
      let profit := revenue - item.costAtSale * item.quantity
      let rate := ((desk.employees.get? salesperson).map
        EmployeeProfile.commissionRatePct).getD 0
      if item.isBillable = false ∨ profit ≤ 0 ∨ rate ≤ 0 then 0
      else
        roundHalfUp (decimal (decimal (profit * rate) / 100))

/-- `_book_sales_commission`: on a line without a commission only. -/
def bookSalesCommission (pk : ℕ) (salesperson : ℕ) (amount : ℤ)
    (desk : CommissionDesk) : Bool × CommissionDesk :=
  if (desk.lines.get? pk).any fun line => line.commissionAccrued = 0 then
    (true,
      { desk with
        lines := desk.lines.modify pk fun line =>
          { line with commissionAccrued := amount }
        employees := desk.employees.modify salesperson fun employee =>
          { employee with commissionBalance := employee.commissionBalance + amount } })
  else (false, desk)

/-- `accrue_sales_commission`. -/
def accrueSalesCommission (pk : ℕ) (desk : CommissionDesk) :
    Bool × CommissionDesk :=
  match desk.lines.get? pk with
  | none => (false, desk)
  | some item =>
      match item.salesperson with
      | none => (false, desk)
      | some salesperson =>
          let amount := lineSalesCommission desk item
          if amount ≤ 0 then (false, desk)
          else bookSalesCommission pk salesperson amount desk

/-- `accrue_sales_commissions`: the lines that hold no commission yet. -/
def accrueSalesCommissions (invoice : ℕ) (desk : CommissionDesk) :
    CommissionDesk :=
  (desk.lines.rows.filter fun row =>
      row.2.invoice = invoice ∧ row.2.salesperson.isSome ∧
        row.2.commissionAccrued = 0).foldl
    (fun current row => (accrueSalesCommission row.1 current).2) desk

/-- A sale is carried out and gets a status: its commissions accrue the first
time. -/
def executeSale (pk : ℕ) (status : InvoiceStatus) : CommissionTxn PUnit := do
  let desk ← get
  let invoice ← Txn.expect (desk.invoices.get? pk) (.doesNotExist "SaleInvoice")
  let executed : CommissionDesk :=
    { desk with
      invoices := desk.invoices.modify pk fun stored =>
        { stored with status, isApplied := true } }
  if invoice.isReturn = true ∨ invoice.status = .posted then pure ⟨⟩
  else if invoice.isApplied = true then set executed
  else set (accrueSalesCommissions pk executed)

def checkLine (line : CommissionLine) : CommissionTxn PUnit := do
  Txn.require (1 ≤ line.quantity) .quantityBelowOne
  Txn.require (0 ≤ line.unitPrice) .negativePrice
  Txn.require (0 ≤ line.discount) .negativeDiscount

/-- A line is added to a sale: `accrue_salesperson_commission` once the sale has
gone through. -/
def addSaleLine (line : CommissionLine) : CommissionTxn PUnit := do
  let desk ← get
  let invoice ← Txn.expect (desk.invoices.get? line.invoice)
    (.doesNotExist "SaleInvoice")
  checkLine line
  let added : CommissionDesk :=
    { desk with
      lines := desk.lines.insert
        { line with sourceItem := none, commissionAccrued := 0 } }
  if invoice.isReturn = true then pure ⟨⟩
  else if invoice.isApplied = true then
    set (accrueSalesCommission desk.lines.next added).2
  else set added

def clawbackShare (accrued returned quantity : ℤ) : ℤ :=
  roundHalfEven
    (decimal (decimal (accrued * returned) / quantity))

/-- An iteration of `clawback_sales_commissions`, with the sold line it read. -/
def clawbackLine (source : Option CommissionLine) (pk : ℕ)
    (line : CommissionLine) (desk : CommissionDesk) : CommissionDesk :=
  match source with
  | none => desk
  | some orig =>
      match orig.salesperson with
      | none => desk
      | some salesperson =>
          if orig.commissionAccrued = 0 ∨ orig.quantity = 0 then desk
          else
            let share :=
              clawbackShare orig.commissionAccrued line.quantity orig.quantity
            if share ≤ 0 then desk
            else (bookSalesCommission pk salesperson (-share) desk).2

def clawbackLines (desk : CommissionDesk) (ret : ℕ) : List (ℕ × CommissionLine) :=
  desk.lines.rows.filter fun row =>
    row.2.invoice = ret ∧ row.2.sourceItem.isSome ∧ row.2.commissionAccrued = 0

/-- `clawback_sales_commissions`. -/
def clawbackSalesCommissions (ret : ℕ) (desk : CommissionDesk) : CommissionDesk :=
  (clawbackLines desk ret).foldl (fun current row =>
    clawbackLine (row.2.sourceItem.bind desk.lines.get?) row.1 row.2 current) desk

/-- `returned_quantities`: of one line, on returns of any status. -/
def returnedQuantity (desk : CommissionDesk) (item : ℕ) : ℤ :=
  desk.lines.total fun _ line =>
    if line.sourceItem = some item ∧
        ((desk.invoices.get? line.invoice).any SaleInvoice.isReturn) then
      line.quantity
    else 0

/-- The quantity asked for: `item_map.get(pk, 0)`, or what remains. -/
def requestedQuantity (items : List (ℕ × ℤ)) (pk : ℕ) (remaining : ℤ) : ℤ :=
  if items = [] then remaining else (items.reverse.lookup pk).getD 0

def returnLine (ret : ℕ) (source : ℕ) (item : CommissionLine) (quantity : ℤ) :
    CommissionLine where
  invoice := ret
  product := item.product
  quantity
  unitPrice := item.unitPrice
  discount := roundHalfEven (decimal
    (decimal (item.discount * quantity) /
      (if item.quantity = 0 then 1 else item.quantity)))
  costAtSale := item.costAtSale
  coreChargeApplied := if item.isCoreReturned then 0 else item.coreChargeApplied
  isBillable := item.isBillable
  salesperson := item.salesperson
  sourceItem := some source

def returnItem (ret : ℕ) (items : List (ℕ × ℤ)) (previous : ℤ)
    (row : ℕ × CommissionLine) : CommissionTxn Bool := do
  let remaining := max (row.2.quantity - previous) 0
  let quantity := requestedQuantity items row.1 remaining
  if quantity ≤ 0 then pure false
  else
    Txn.require (quantity ≤ remaining)
      (.tooMuch row.2.product quantity remaining row.2.quantity previous)
    modify fun desk =>
      { desk with
        lines := desk.lines.insert (returnLine ret row.1 row.2 quantity) }
    pure true

def returnItems (ret : ℕ) (items : List (ℕ × ℤ)) (previous : ℕ → ℤ) :
    Bool → List (ℕ × CommissionLine) → CommissionTxn Bool
  | created, [] => pure created
  | created, row :: rows => do
      let made ← returnItem ret items (previous row.1) row
      returnItems ret items previous (created || made) rows

/-- `create_return_invoice`, up to the totals of the return. -/
def createReturnInvoice (original : ℕ) (items : List (ℕ × ℤ)) :
    CommissionTxn PUnit := Txn.atomic do
  let desk ← get
  let invoice ← Txn.expect (desk.invoices.get? original)
    (.doesNotExist "SaleInvoice")
  Txn.require (invoice.isReturn = false) .returnOfReturn
  Txn.require (invoice.status = .posted) .notPosted
  let ret := desk.invoices.next
  set { desk with
    invoices := desk.invoices.insert
      { isReturn := true
        originalInvoice := some original
        status := .quotation
        customer := invoice.customer
        maintenanceContract := invoice.maintenanceContract
        dateCreated := invoice.dateCreated
        treasury := invoice.treasury
        taxPercentage := invoice.taxPercentage } }
  let created ← returnItems ret items (returnedQuantity desk) false
    (desk.lines.rows.filter fun row => row.2.invoice = original)
  Txn.require (created = true) .nothingReturnable

/-- A return is posted: what `execute_sale` does to commissions. -/
def postReturnInvoice (ret : ℕ) : CommissionTxn PUnit := do
  let desk ← get
  let invoice ← Txn.expect (desk.invoices.get? ret) (.doesNotExist "SaleInvoice")
  if invoice.isReturn = true ∧ invoice.status ≠ .posted then
    set (clawbackSalesCommissions ret
      { desk with
        invoices := desk.invoices.modify ret fun stored =>
          { stored with status := .posted, isApplied := true } })
  else pure ⟨⟩

/-- A line is deleted: `reverse_salesperson_commission_on_delete`, and the lines
that returned it lose their source. -/
def deleteSaleLine (pk : ℕ) : CommissionTxn PUnit := do
  let desk ← get
  let line ← Txn.expect (desk.lines.get? pk) (.doesNotExist "SaleInvoiceItem")
  set { desk with
    lines := (desk.lines.erase pk).map fun _ other =>
      if other.sourceItem = some pk then { other with sourceItem := none } else other
    employees :=
      match line.salesperson with
      | none => desk.employees
      | some salesperson => desk.employees.modify salesperson fun employee =>
          { employee with
            commissionBalance := employee.commissionBalance - line.commissionAccrued } }

/-- What happens to the lines of sales and returns. -/
inductive CommissionOp where
  | addLine (line : CommissionLine)
  | execute (pk : ℕ) (status : InvoiceStatus)
  | createReturn (original : ℕ) (items : List (ℕ × ℤ))
  | postReturn (ret : ℕ)
  | deleteLine (pk : ℕ)
  deriving DecidableEq

def CommissionOp.run : CommissionOp → CommissionTxn PUnit
  | .addLine line => addSaleLine line
  | .execute pk status => executeSale pk status
  | .createReturn original items => createReturnInvoice original items
  | .postReturn ret => postReturnInvoice ret
  | .deleteLine pk => deleteSaleLine pk

end Mousstec.Sales
