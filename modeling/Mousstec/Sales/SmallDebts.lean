import Mousstec.Sales.CollectionRuns
import Mousstec.Sales.Totals

/-!
# Writing off small debts

A small balance is written off as a discount on the customer's open invoices,
oldest first.  The part of an invoice becomes a rounded discount before tax and
the tax is rounded again, so an invoice can move by more or less than its part;
what is taken off the balance is what the invoices really moved by.
-/

namespace Mousstec.Sales

open Library

inductive DebtError where
  | doesNotExist (model : String)
  | divisionByZero
  | outOfRange
  | total (raised : TotalError)
  deriving DecidableEq

structure DebtDesk where
  customers : Table Customer
  invoices : Table SaleInvoice
  items : Table SaleInvoiceItem
  services : Table SaleInvoiceServiceItem
  deriving DecidableEq

def DebtDesk.parts (desk : DebtDesk) : ℕ → Breakdown :=
  billableBreakdown desk.items desk.services

def SaleInvoice.writeOffPart (invoice : SaleInvoice) (parts : Breakdown)
    (part : ℤ) : Except DebtError SaleInvoice :=
  let divisor := decimal (1 + decimal (invoice.taxPercentage / 100))
  if divisor = 0 then .error .divisionByZero
  else
    let discount :=
      invoice.discount + roundHalfEven (decimal (part / divisor))
    if 10 ^ 10 ≤ |discount| then .error .outOfRange
    else
      match SaleInvoice.updateTotal { invoice with discount } parts with
      | .ok saved => .ok saved
      | .error raised => .error (.total raised)

def writeOffInvoice (parts : ℕ → Breakdown) (pk : ℕ) (left : ℤ)
    (invoices : Table SaleInvoice) : Except DebtError (ℤ × Table SaleInvoice) :=
  match invoices.get? pk with
  | none => .error (.doesNotExist "SaleInvoice")
  | some locked => do
      let dueBefore := openDue invoices pk locked
      let part := min dueBefore left
      let saved ← locked.writeOffPart (parts pk) part
      let invoices := invoices.modify pk fun _ => saved
      pure (dueBefore - openDue invoices pk saved, invoices)

def writeOffDebts (parts : ℕ → Breakdown) :
    List ℕ → ℤ → Table SaleInvoice → Except DebtError (ℤ × Table SaleInvoice)
  | [], _, invoices => .ok (0, invoices)
  | pk :: rest, left, invoices =>
      if left ≤ 0 then .ok (0, invoices)
      else do
        let (moved, invoices) ← writeOffInvoice parts pk left invoices
        let (more, invoices) ← writeOffDebts parts rest (left - moved) invoices
        pure (moved + more, invoices)

def reconcileCustomer (threshold : ℤ) (pk : ℕ) (desk : DebtDesk) :
    Except DebtError (ℕ × DebtDesk) :=
  match desk.customers.get? pk with
  | none => .error (.doesNotExist "Customer")
  | some customer =>
      if ¬(0 < customer.balance ∧ customer.balance ≤ threshold) then
        .ok (0, desk)
      else do
        let (written, invoices) ← writeOffDebts desk.parts
          ((openInvoices desk.invoices pk).map Prod.fst) customer.balance
          desk.invoices
        if 0 < written then
          pure (1, { desk with
            invoices
            customers := desk.customers.modify pk fun stored =>
              { stored with balance := stored.balance - written } })
        else pure (0, { desk with invoices })

/-- `reconcile_small_debts`: what raises leaves no writes behind. -/
def reconcileSmallDebts (threshold : ℤ) :
    List ℕ → DebtDesk → Except DebtError (ℕ × DebtDesk)
  | [], desk => .ok (0, desk)
  | pk :: queryset, desk => do
      let (one, desk) ← reconcileCustomer threshold pk desk
      let (more, desk) ← reconcileSmallDebts threshold queryset desk
      pure (one + more, desk)

def DebtDesk.balance (desk : DebtDesk) (pk : ℕ) : ℤ :=
  ((desk.customers.get? pk).map Customer.balance).getD 0

def owedOn (invoices : Table SaleInvoice) (customer : ℕ) : ℤ :=
  invoices.total fun pk invoice =>
    if invoice.customer = customer then openDue invoices pk invoice else 0

def DebtDesk.openTotal (desk : DebtDesk) (pk : ℕ) : ℤ :=
  ((openDues desk.invoices pk).map Prod.snd).sum

/-- Balances and invoices move together, nothing is written off beyond a
balance, and a small balance that the open invoices cover is written off. -/
structure Reconciled (threshold : ℤ) (queryset : List ℕ)
    (before after : DebtDesk) : Prop where
  together : ∀ pk, before.balance pk - after.balance pk =
    owedOn before.invoices pk - owedOn after.invoices pk
  others : ∀ pk, pk ∉ queryset → after.balance pk = before.balance pk
  within : ∀ pk, 0 ≤ before.balance pk → 0 ≤ after.balance pk
  dues : ∀ pk invoice, after.invoices.get? pk = some invoice →
    0 ≤ openDue after.invoices pk invoice
  settled : ∀ pk ∈ queryset, 0 < before.balance pk →
    before.balance pk ≤ threshold → before.balance pk ≤ before.openTotal pk →
      after.balance pk = 0

def SaleInvoice.less (invoice : SaleInvoice) (part cut : ℤ) : SaleInvoice :=
  { invoice with
    discount := invoice.discount + cut
    totalAmount := invoice.totalAmount - part
    netProfit := invoice.netProfit - cut }

/-- An invoice with its totals up to date, and a part of it that is a whole
number of cents before tax. -/
structure SaleInvoice.Lands (invoice : SaleInvoice) (parts : Breakdown)
    (part cut : ℤ) : Prop where
  upToDate : invoice.updateTotal parts = .ok invoice
  whole : (cut : ℚ) * (100 + invoice.taxPercentage) = 100 * part
  /-- The tax does not change its sign, or is whole as well. -/
  tax : 0 ≤ invoice.subtotal parts * (invoice.subtotal parts - cut) ∨
    ∃ cents : ℤ, (invoice.subtotal parts : ℚ) * invoice.taxPercentage =
      100 * cents
  places : HasPlaces 2 invoice.taxPercentage
  rate : |invoice.taxPercentage| < 1000 ∧ invoice.taxPercentage ≠ -100
  discount : |invoice.discount + cut| < 10 ^ 10
  total : |invoice.totalAmount - part| < 10 ^ 12
  profit : |invoice.netProfit - cut| < 10 ^ 12

/-- An amount is spread over invoices, and every part is whole before tax. -/
def DebtDesk.AllLand (desk : DebtDesk) : List (ℕ × SaleInvoice) → ℤ → Prop
  | [], _ => True
  | row :: rows, left =>
      let part := min (openDue desk.invoices row.1 row.2) left
      0 < left → (∃ cut, row.2.Lands (desk.parts row.1) part cut) ∧
        desk.AllLand rows (left - part)

/-- Every small balance lands on the open invoices of its customer. -/
def DebtDesk.LandsExactly (desk : DebtDesk) (threshold : ℤ)
    (queryset : List ℕ) : Prop :=
  ∀ pk ∈ queryset, 0 < desk.balance pk → desk.balance pk ≤ threshold →
    desk.AllLand (openInvoices desk.invoices pk) (desk.balance pk)

def OnlyReturns (invoices : Table SaleInvoice) : Prop :=
  ∀ pk invoice, invoices.get? pk = some invoice → invoice.isReturn = false →
    invoice.originalInvoice = none

theorem openDue_congr {before after : Table SaleInvoice}
    (credit : ∀ pk invoice,
      returnedCredit after pk invoice = returnedCredit before pk invoice)
    (pk : ℕ) (invoice : SaleInvoice) :
    openDue after pk invoice = openDue before pk invoice := by
  rw [openDue, openDue, credit]

/-- The rows of other customers, what returns took off, and what other customers
owe. -/
structure Elsewhere (customer : ℕ) (before after : Table SaleInvoice) :
    Prop where
  credit : ∀ pk invoice,
    returnedCredit after pk invoice = returnedCredit before pk invoice
  rows : ∀ other, other ≠ customer → ∀ pk,
    (after.get? pk).filter (collectable other) =
      (before.get? pk).filter (collectable other)
  owed : ∀ other, other ≠ customer →
    owedOn after other = owedOn before other
  sales : OnlyReturns before → OnlyReturns after

namespace Elsewhere

variable {customer : ℕ} {first second third : Table SaleInvoice}

theorem refl (customer : ℕ) (invoices : Table SaleInvoice) :
    Elsewhere customer invoices invoices where
  credit _ _ := rfl
  rows _ _ _ := rfl
  owed _ _ := rfl
  sales := id

theorem trans (left : Elsewhere customer first second)
    (right : Elsewhere customer second third) :
    Elsewhere customer first third where
  credit pk invoice := (right.credit pk invoice).trans (left.credit pk invoice)
  rows other different pk :=
    (right.rows other different pk).trans (left.rows other different pk)
  owed other different :=
    (right.owed other different).trans (left.owed other different)
  sales := right.sales ∘ left.sales

theorem openInvoices_eq (elsewhere : Elsewhere customer first second)
    {other : ℕ} (different : other ≠ customer) :
    openInvoices second other = openInvoices first other := by
  have rows : (second.filter fun _ => collectable other).rows =
      (first.filter fun _ => collectable other).rows := by
    apply Table.rows_eq_of_get?
    intro pk
    rw [Table.get?_filter, Table.get?_filter]
    exact elsewhere.rows other different pk
  have rows' : second.rows.filter (fun row => collectable other row.2) =
      first.rows.filter fun row => collectable other row.2 := rows
  unfold openInvoices
  rw [rows']
  apply List.filter_congr
  intro row _
  rw [openDue_congr elsewhere.credit]

end Elsewhere

section Written

variable {invoices : Table SaleInvoice} {customer pk : ℕ}
  {invoice saved : SaleInvoice}

theorem writeOffPart_ok {parts : Breakdown} {part : ℤ}
    (written : invoice.writeOffPart parts part = .ok saved) :
    saved.customer = invoice.customer ∧ saved.isReturn = invoice.isReturn ∧
      saved.originalInvoice = invoice.originalInvoice := by
  unfold SaleInvoice.writeOffPart at written
  simp only at written
  split at written
  · cases written
  · split at written
    · cases written
    · split at written
      · rename_i updated
        cases written
        obtain ⟨-, rfl⟩ := SaleInvoice.updateTotal_ok updated
        exact ⟨rfl, rfl, rfl⟩
      · cases written

variable (found : invoices.get? pk = some invoice)
  (mine : collectable customer invoice = true)
  (sales : OnlyReturns invoices)
  (same : saved.customer = invoice.customer ∧
    saved.isReturn = invoice.isReturn ∧
    saved.originalInvoice = invoice.originalInvoice)

include found mine sales same

theorem returnedCredit_sale (other : ℕ) (row : SaleInvoice) :
    returnedCredit (invoices.modify pk fun _ => saved) other row =
      returnedCredit invoices other row := by
  have sale : invoice.isReturn = false := by
    simp only [collectable, Bool.not_eq_true', decide_eq_true_eq] at mine
    simpa using mine.2.1
  have original := sales pk invoice found sale
  unfold returnedCredit
  rw [Table.total_modify found]
  simp [original, same.2.2]

theorem owedOn_sale (other : ℕ) :
    owedOn (invoices.modify pk fun _ => saved) other = owedOn invoices other +
      if customer = other then
        openDue invoices pk saved - openDue invoices pk invoice
      else 0 := by
  have owner : invoice.customer = customer := by
    simp only [collectable, decide_eq_true_eq] at mine
    exact mine.1
  have credit := returnedCredit_sale found mine sales same
  have constant : owedOn (invoices.modify pk fun _ => saved) other =
      (invoices.modify pk fun _ => saved).total fun key row =>
        if row.customer = other then openDue invoices key row else 0 := by
    apply Table.total_congr
    intro key row _
    rw [openDue_congr credit]
  rw [constant, Table.total_modify found, same.1, owner]
  by_cases here : customer = other
  · simp only [if_pos here]
    rfl
  · simp only [if_neg here, sub_zero]
    rfl

theorem elsewhere_sale :
    Elsewhere customer invoices (invoices.modify pk fun _ => saved) where
  credit := returnedCredit_sale found mine sales same
  rows other different key := by
    rcases eq_or_ne pk key with rfl | apart
    · have owner : invoice.customer = customer := by
        simp only [collectable, decide_eq_true_eq] at mine
        exact mine.1
      rw [Table.get?_modify_self, found]
      simp [collectable, Option.filter, same.1, owner, different.symm]
    · rw [Table.get?_modify_of_ne _ apart.symm]
  owed other different := by
    rw [owedOn_sale found mine sales same, if_neg different.symm, add_zero]
  sales _ key row stored sale := by
    rcases eq_or_ne pk key with rfl | apart
    · rw [Table.get?_modify_self, found] at stored
      cases stored
      rw [same.2.2]
      exact sales pk invoice found (same.2.1 ▸ sale)
    · rw [Table.get?_modify_of_ne _ apart.symm] at stored
      exact sales key row stored sale

end Written

namespace SaleInvoice.Lands

variable {invoice : SaleInvoice} {parts : Breakdown} {part cut : ℤ}
  (lands : invoice.Lands parts part cut)

include lands

theorem figures : invoice.Fits ∧ invoice.totalAmount = invoice.subtotal parts +
      taxOn invoice.taxPercentage (invoice.subtotal parts) ∧
    invoice.totalCost = parts.cost ∧ invoice.totalCoreCharge = parts.core ∧
    invoice.netProfit = parts.items - parts.cost + parts.services +
      invoice.laborCostManual - invoice.discount := by
  obtain ⟨fits, same⟩ := SaleInvoice.updateTotal_ok lands.upToDate
  exact ⟨fits, congrArg SaleInvoice.totalAmount same,
    congrArg SaleInvoice.totalCost same,
    congrArg SaleInvoice.totalCoreCharge same,
    congrArg SaleInvoice.netProfit same⟩

theorem bounds : |cut| < 10 ^ 13 ∧ |invoice.subtotal parts| < 10 ^ 13 ∧
    |invoice.subtotal parts - cut| < 10 ^ 13 := by
  obtain ⟨⟨-, cost, profit, core⟩, -, same, same', same''⟩ := lands.figures
  have left := lands.profit
  rw [abs_lt] at cost profit core left
  rw [abs_lt, abs_lt, abs_lt]
  unfold SaleInvoice.subtotal
  omega

/-- The tax falls by what the part has beside the discount. -/
theorem tax_sub : taxOn invoice.taxPercentage (invoice.subtotal parts - cut) =
    taxOn invoice.taxPercentage (invoice.subtotal parts) - (part - cut) := by
  obtain ⟨-, few, few'⟩ := lands.bounds
  have rate := lands.rate.1
  rw [taxOn_exact lands.places rate few, taxOn_exact lands.places rate few']
  have share : ((invoice.subtotal parts - cut : ℤ) : ℚ) *
      invoice.taxPercentage / 100 = invoice.subtotal parts *
        invoice.taxPercentage / 100 - (part - cut : ℤ) := by
    have whole := lands.whole
    push_cast
    linarith
  rw [share]
  rcases lands.tax with sign | ⟨cents, whole⟩
  · apply roundHalfUp_sub_intCast
    rw [← share]
    have square : (invoice.subtotal parts : ℚ) * invoice.taxPercentage / 100 *
        (((invoice.subtotal parts - cut : ℤ) : ℚ) * invoice.taxPercentage /
          100) = ((invoice.subtotal parts *
            (invoice.subtotal parts - cut) : ℤ) : ℚ) *
              (invoice.taxPercentage / 100) ^ 2 := by
      push_cast
      ring
    rw [square]
    exact mul_nonneg (by exact_mod_cast sign) (sq_nonneg _)
  · have exact : (invoice.subtotal parts : ℚ) * invoice.taxPercentage / 100 =
        cents := by
      rw [whole, mul_div_cancel_left₀ _ (by norm_num)]
    rw [exact, ← Int.cast_sub, roundHalfUp_intCast, roundHalfUp_intCast]

/-- A part that is whole before tax is taken off the total. -/
theorem writeOffPart :
    invoice.writeOffPart parts part = .ok (invoice.less part cut) := by
  obtain ⟨small, few, few'⟩ := lands.bounds
  obtain ⟨⟨-, cost, -, core⟩, total, sameCost, sameCore, sameProfit⟩ :=
    lands.figures
  have share : decimal (invoice.taxPercentage / 100) =
      invoice.taxPercentage / 100 := decimal_share lands.places lands.rate.1
  have divisor : decimal (1 + invoice.taxPercentage / 100) =
      1 + invoice.taxPercentage / 100 :=
    decimal_rate lands.places lands.rate.1
  have positive : 1 + invoice.taxPercentage / 100 ≠ 0 := by
    intro zero
    exact lands.rate.2 (by linarith)
  have quotient : (part : ℚ) / (1 + invoice.taxPercentage / 100) = cut := by
    rw [div_eq_iff positive]
    have whole := lands.whole
    linarith
  have exact : decimal (cut : ℚ) = cut :=
    significant_intCast (small.trans (by norm_num))
  have subtotal : SaleInvoice.subtotal
      { invoice with discount := invoice.discount + cut } parts =
        invoice.subtotal parts - cut := by
    unfold SaleInvoice.subtotal
    simp only
    omega
  have tax := lands.tax_sub
  have charged : |taxOn invoice.taxPercentage
      (invoice.subtotal parts - cut)| < 10 ^ 28 := by
    have left := lands.total
    rw [total, abs_lt] at left
    rw [abs_lt] at few'
    rw [abs_lt]
    omega
  unfold SaleInvoice.writeOffPart
  simp only [share, divisor, if_neg positive, quotient, exact,
    roundHalfEven_intCast, not_le.mpr lands.discount, if_false]
  unfold SaleInvoice.updateTotal
  simp only [subtotal, taxAmount_eq, if_pos charged, bind, Except.bind]
  have totalled : invoice.subtotal parts - cut +
      taxOn invoice.taxPercentage (invoice.subtotal parts - cut) =
        invoice.totalAmount - part := by
    omega
  have profit : parts.items - parts.cost + parts.services +
      invoice.laborCostManual - (invoice.discount + cut) =
        invoice.netProfit - cut := by
    omega
  have fits : (invoice.less part cut).Fits :=
    ⟨lands.total, cost, lands.profit, core⟩
  unfold SaleInvoice.less at fits ⊢
  rw [totalled, profit, ← sameCost, ← sameCore, if_pos fits]

omit lands in
theorem openDue_less {invoices : Table SaleInvoice} {pk : ℕ} (nonneg : 0 ≤ part)
    (within : part ≤ openDue invoices pk invoice) (cut : ℤ) :
    openDue invoices pk (invoice.less part cut) =
      openDue invoices pk invoice - part := by
  have same : returnedCredit invoices pk (invoice.less part cut) =
      returnedCredit invoices pk invoice := rfl
  have credit := returnedCredit_nonneg invoices pk invoice
  unfold openDue at within ⊢
  rw [same]
  by_cases contract : invoice.maintenanceContract.isSome
  · have nothing : invoice.dueAmount = 0 := if_pos contract
    have nothing' : (invoice.less part cut).dueAmount = 0 := if_pos contract
    rw [nothing] at within ⊢
    rw [nothing']
    omega
  · have due : invoice.dueAmount =
        max (invoice.totalAmount - invoice.paidAmount) 0 := if_neg contract
    have due' : (invoice.less part cut).dueAmount =
        max (invoice.totalAmount - part - invoice.paidAmount) 0 :=
      if_neg contract
    rw [due] at within ⊢
    rw [due']
    omega

end SaleInvoice.Lands

def DebtDesk.duesOf (desk : DebtDesk) (rows : List (ℕ × SaleInvoice)) : ℤ :=
  (rows.map fun row => openDue desk.invoices row.1 row.2).sum

theorem DebtDesk.duesOf_nonneg (desk : DebtDesk)
    (rows : List (ℕ × SaleInvoice)) : 0 ≤ desk.duesOf rows := by
  apply List.sum_nonneg
  intro due member
  obtain ⟨row, -, rfl⟩ := List.mem_map.mp member
  exact openDue_nonneg _ _ _

/-- Where every part is whole before tax, the loop writes off the amount, or all dues. -/
theorem writeOffDebts_lands {desk : DebtDesk} {customer : ℕ}
    (rows : List (ℕ × SaleInvoice)) (left : ℤ) (invoices : Table SaleInvoice)
    (credit : ∀ pk invoice, returnedCredit invoices pk invoice =
      returnedCredit desk.invoices pk invoice)
    (stored : ∀ row ∈ rows, invoices.get? row.1 = some row.2 ∧
      collectable customer row.2 = true)
    (nodup : (rows.map Prod.fst).Nodup) (sales : OnlyReturns invoices)
    (nonneg : 0 ≤ left) (land : desk.AllLand rows left) :
    ∃ after, writeOffDebts desk.parts (rows.map Prod.fst) left invoices =
        .ok (min left (desk.duesOf rows), after) ∧
      Elsewhere customer invoices after ∧
      owedOn after customer =
        owedOn invoices customer - min left (desk.duesOf rows) := by
  induction rows generalizing left invoices with
  | nil =>
      have none : min left (desk.duesOf []) = 0 := min_eq_right nonneg
      rw [none, sub_zero]
      exact ⟨invoices, rfl, .refl _ _, rfl⟩
  | cons row rows induction =>
      have rest := desk.duesOf_nonneg rows
      have first := openDue_nonneg desk.invoices row.1 row.2
      have sum : desk.duesOf (row :: rows) =
        openDue desk.invoices row.1 row.2 + desk.duesOf rows := rfl
      rcases nonneg.eq_or_lt with rfl | some
      · have none : min 0 (desk.duesOf (row :: rows)) = 0 :=
          min_eq_left (by omega)
        rw [none, sub_zero]
        exact ⟨invoices, rfl, .refl _ _, rfl⟩
      · obtain ⟨⟨cut, lands⟩, later⟩ := land some
        have written := lands.writeOffPart
        have moved := SaleInvoice.Lands.openDue_less (le_min first nonneg)
          (min_le_left _ _) cut
        generalize row.2.less _ cut = saved at written moved
        obtain ⟨found, mine⟩ := stored row List.mem_cons_self
        have same := writeOffPart_ok written
        have elsewhere := elsewhere_sale found mine sales same
        have dues := openDue_congr credit
        rw [List.map_cons, List.nodup_cons] at nodup
        obtain ⟨after, rest, elsewhere', owed⟩ := induction
          (left - min (openDue desk.invoices row.1 row.2) left)
          (invoices.modify row.1 fun _ => saved)
          (fun pk invoice => (elsewhere.credit pk invoice).trans
            (credit pk invoice))
          (fun other member => by
            refine ⟨?_, (stored other (List.mem_cons_of_mem _ member)).2⟩
            rw [Table.get?_modify_of_ne]
            · exact (stored other (List.mem_cons_of_mem _ member)).1
            · rintro same
              exact nodup.1 (List.mem_map.mpr ⟨other, member, same⟩))
          nodup.2 (elsewhere.sales sales) (by omega) later
        have invoice : writeOffInvoice desk.parts row.1 left invoices =
            .ok (min (openDue desk.invoices row.1 row.2) left,
              invoices.modify row.1 fun _ => saved) := by
          rw [writeOffInvoice, found]
          simp only [dues, written]
          change Except.ok (openDue desk.invoices row.1 row.2 - openDue
            (invoices.modify row.1 fun _ => saved) row.1 saved, _) = _
          rw [openDue_congr elsewhere.credit, dues, moved, sub_sub_cancel]
        refine ⟨after, ?_, elsewhere.trans elsewhere', ?_⟩
        · rw [List.map_cons, writeOffDebts, if_neg (not_le.mpr some), invoice]
          change (writeOffDebts desk.parts (rows.map Prod.fst) _ _ >>= _) = _
          rw [rest, sum]
          change Except.ok (_ + _, after) = _
          congr 2
          omega
        · rw [owed, owedOn_sale found mine sales same, if_pos rfl, dues, dues,
            moved, sum]
          omega

/-- A customer of the loop: nothing happens to the others, and his balance and
what he owes fall by as much as the dues allow. -/
structure Reconciles (threshold : ℤ) (pk : ℕ) (before after : DebtDesk) :
    Prop where
  parts : after.parts = before.parts
  elsewhere : Elsewhere pk before.invoices after.invoices
  customers : ∀ other, other ≠ pk →
    after.customers.get? other = before.customers.get? other
  exists_ : (after.customers.get? pk).isSome
  together : before.balance pk - after.balance pk =
    owedOn before.invoices pk - owedOn after.invoices pk
  within : 0 ≤ before.balance pk → 0 ≤ after.balance pk
  settled : 0 < before.balance pk → before.balance pk ≤ threshold →
    before.balance pk ≤ before.openTotal pk → after.balance pk = 0

theorem DebtDesk.openTotal_eq (desk : DebtDesk) (pk : ℕ) :
    desk.openTotal pk = desk.duesOf (openInvoices desk.invoices pk) := by
  rw [openTotal, openDues, List.map_map]
  rfl

theorem reconcileCustomer_lands {threshold : ℤ} {pk : ℕ} {desk : DebtDesk}
    (found : (desk.customers.get? pk).isSome) (sales : OnlyReturns desk.invoices)
    (land : 0 < desk.balance pk → desk.balance pk ≤ threshold →
      desk.AllLand (openInvoices desk.invoices pk) (desk.balance pk)) :
    ∃ count after, reconcileCustomer threshold pk desk = .ok (count, after) ∧
      Reconciles threshold pk desk after := by
  obtain ⟨customer, stored⟩ := Option.isSome_iff_exists.mp found
  have balance : desk.balance pk = customer.balance := by
    rw [DebtDesk.balance, stored]
    rfl
  rw [reconcileCustomer, stored]
  by_cases small : 0 < customer.balance ∧ customer.balance ≤ threshold
  · simp only [not_not_intro small, if_false]
    obtain ⟨invoices, written, elsewhere, owed⟩ := writeOffDebts_lands
      (openInvoices desk.invoices pk) customer.balance desk.invoices
      (fun _ _ => rfl)
      (fun row member => ⟨(mem_openInvoices.mp member).1,
        (mem_openInvoices.mp member).2.1⟩)
      (openInvoices_nodup _ _) sales small.1.le
      (balance ▸ land (balance ▸ small.1) (balance ▸ small.2))
    have nonneg := desk.duesOf_nonneg (openInvoices desk.invoices pk)
    have total := desk.openTotal_eq pk
    rw [written]
    by_cases some : 0 < min customer.balance
        (desk.duesOf (openInvoices desk.invoices pk))
    · refine ⟨1, _, if_pos some, rfl, elsewhere, ?_, ?_, ?_, ?_, ?_⟩
      · exact fun other different => Table.get?_modify_of_ne _ different _
      all_goals simp only [DebtDesk.balance, Table.get?_modify_self, stored]
      · rfl
      all_goals simp only [Option.map_some, Option.getD_some]
      · omega
      · omega
      · intro _ _ covered
        omega
    · refine ⟨0, _, if_neg some, rfl, elsewhere, fun _ _ => rfl, found, ?_, id,
        ?_⟩
      · change desk.balance pk - desk.balance pk =
          owedOn desk.invoices pk - owedOn invoices pk
        omega
      · intro _ _ covered
        omega
  · simp only [small, not_false_iff, if_true]
    refine ⟨0, desk, rfl, rfl, .refl _ _, fun _ _ => rfl, found, ?_, id, ?_⟩
    · rw [sub_self, sub_self]
    · intro some bounded
      rw [balance] at some bounded
      exact absurd ⟨some, bounded⟩ small

namespace Reconciles

variable {threshold : ℤ} {pk : ℕ} {before after : DebtDesk}
  (reconciles : Reconciles threshold pk before after)

include reconciles

theorem balance_eq {other : ℕ} (different : other ≠ pk) :
    after.balance other = before.balance other := by
  rw [DebtDesk.balance, reconciles.customers other different, DebtDesk.balance]

theorem openTotal_eq {other : ℕ} (different : other ≠ pk) :
    after.openTotal other = before.openTotal other := by
  rw [DebtDesk.openTotal_eq, DebtDesk.openTotal_eq,
    reconciles.elsewhere.openInvoices_eq different]
  apply congrArg List.sum
  apply List.map_congr_left
  intro row _
  exact openDue_congr reconciles.elsewhere.credit _ _

theorem allLand {rows : List (ℕ × SaleInvoice)} {left : ℤ}
    (land : before.AllLand rows left) : after.AllLand rows left := by
  have dues := openDue_congr reconciles.elsewhere.credit
  induction rows generalizing left with
  | nil => trivial
  | cons row rows induction =>
      intro some
      rw [dues]
      rw [reconciles.parts]
      obtain ⟨lands, later⟩ := land some
      exact ⟨lands, induction later⟩

theorem landsExactly {queryset : List ℕ} (apart : pk ∉ queryset)
    (land : before.LandsExactly threshold queryset) :
    after.LandsExactly threshold queryset := by
  intro other member
  have different : other ≠ pk := fun same => apart (same ▸ member)
  rw [reconciles.balance_eq different,
    reconciles.elsewhere.openInvoices_eq different]
  exact fun some bounded =>
    reconciles.allLand (land other member some bounded)

end Reconciles

/-- Where every part is whole before tax, small debts are written off together
with the invoices. -/
theorem reconcileSmallDebts_reconciled (threshold : ℤ) (queryset : List ℕ)
    (desk : DebtDesk) (nodup : queryset.Nodup)
    (listed : ∀ pk ∈ queryset, (desk.customers.get? pk).isSome)
    (sales : OnlyReturns desk.invoices)
    (land : desk.LandsExactly threshold queryset) :
    ∃ count after,
      reconcileSmallDebts threshold queryset desk = .ok (count, after) ∧
        Reconciled threshold queryset desk after := by
  induction queryset generalizing desk with
  | nil =>
      exact ⟨0, desk, rfl, fun _ => by rw [sub_self, sub_self], fun _ _ => rfl,
        fun _ => id, fun _ _ _ => openDue_nonneg _ _ _,
        fun pk member => by cases member⟩
  | cons pk queryset induction =>
      rw [List.nodup_cons] at nodup
      have inside : ∀ other ∈ queryset, other ∈ pk :: queryset :=
        fun _ => List.mem_cons_of_mem _
      have apart : ∀ other ∈ queryset, other ≠ pk :=
        fun other member same => nodup.1 (same ▸ member)
      obtain ⟨one, middle, first, reconciles⟩ := reconcileCustomer_lands
        (listed pk List.mem_cons_self) sales (land pk List.mem_cons_self)
      obtain ⟨more, after, rest, reconciled⟩ := induction middle nodup.2
        (fun other member => by
          rw [reconciles.customers other (apart other member)]
          exact listed other (inside other member))
        (reconciles.elsewhere.sales sales)
        (reconciles.landsExactly nodup.1 fun other member =>
          land other (inside other member))
      have kept := reconciled.others pk nodup.1
      refine ⟨one + more, after, ?_, ?_⟩
      · rw [reconcileSmallDebts, first]
        change (reconcileSmallDebts threshold queryset middle >>= _) = _
        rw [rest]
        rfl
      · constructor
        · intro other
          have later := reconciled.together other
          rcases eq_or_ne other pk with rfl | different
          · have now := reconciles.together
            omega
          · rw [reconciles.balance_eq different,
              reconciles.elsewhere.owed other different] at later
            exact later
        · intro other absent
          rw [List.mem_cons, not_or] at absent
          rw [reconciled.others other absent.2, reconciles.balance_eq absent.1]
        · intro other nonneg
          apply reconciled.within
          rcases eq_or_ne other pk with rfl | different
          · exact reconciles.within nonneg
          · rwa [reconciles.balance_eq different]
        · exact fun _ _ _ => openDue_nonneg _ _ _
        · intro other member some bounded covered
          rcases List.mem_cons.mp member with rfl | member
          · rw [kept]
            exact reconciles.settled some bounded covered
          · have different := apart other member
            have same := reconciles.balance_eq different
            rw [← same] at some bounded covered
            rw [← reconciles.openTotal_eq different] at covered
            exact reconciled.settled other member some bounded covered

def chargedInvoice (price total : ℤ) : SaleInvoice where
  status := .posted
  customer := 0
  dateCreated := 0
  isApplied := true
  taxPercentage := 14
  totalAmount := total
  netProfit := price

def oneInvoice (balance price total : ℤ) : DebtDesk where
  customers := Table.empty.insert { name := "", phone := "", balance }
  invoices := Table.empty.insert (chargedInvoice price total)
  items := Table.empty.insert
    { invoice := 0, product := 0, quantity := 1, unitPrice := price }
  services := .empty

private theorem oneInvoice_sales (balance price total : ℤ) :
    OnlyReturns (oneInvoice balance price total).invoices := by
  intro pk invoice found _
  rw [oneInvoice, Table.get?_insert] at found
  split at found
  · cases found
    rfl
  · cases found

private theorem oneInvoice_listed (balance price total : ℤ) : ∀ pk ∈ [0],
    ((oneInvoice balance price total).customers.get? pk).isSome := by
  intro pk member
  rw [List.mem_singleton.mp member]
  rfl

theorem reconcileSmallDebts_reconciled_whole : ∃ count after,
    reconcileSmallDebts 2000 [0] (oneInvoice 1140 1000 1140) =
        .ok (count, after) ∧
      Reconciled 2000 [0] (oneInvoice 1140 1000 1140) after := by
  apply reconcileSmallDebts_reconciled 2000 [0] _ (by decide)
    (oneInvoice_listed _ _ _) (oneInvoice_sales _ _ _)
  intro pk member _ _
  rw [List.mem_singleton.mp member]
  have rows : openInvoices (oneInvoice 1140 1000 1140).invoices 0 =
      [(0, chargedInvoice 1000 1140)] := by
    decide +kernel
  rw [rows]
  exact fun _ => ⟨⟨1000,
    { upToDate := by decide +kernel
      whole := by decide +kernel
      tax := .inl (by decide +kernel)
      places := by decide +kernel
      rate := by decide +kernel
      discount := by decide +kernel
      total := by decide +kernel
      profit := by decide +kernel }⟩, trivial⟩

/-- A cent of an invoice over 10.04 moves it by two cents. -/
theorem not_all_reconciled : ¬∀ (threshold : ℤ) (queryset : List ℕ)
    (desk : DebtDesk), queryset.Nodup →
      (∀ pk ∈ queryset, (desk.customers.get? pk).isSome) →
      OnlyReturns desk.invoices →
      ∃ count after,
        reconcileSmallDebts threshold queryset desk = .ok (count, after) ∧
          Reconciled threshold queryset desk after := by
  intro all
  obtain ⟨count, after, returned, reconciled⟩ :=
    all 2000 [0] (oneInvoice 1 1004 1145) (by decide)
      (oneInvoice_listed _ _ _) (oneInvoice_sales _ _ _)
  have nonneg := reconciled.within 0 (by decide +kernel)
  have computed : (reconcileSmallDebts 2000 [0]
      (oneInvoice 1 1004 1145)).toOption.map (fun result =>
        result.2.balance 0) = some (-1) := by
    decide +kernel
  rw [returned] at computed
  have negative : after.balance 0 = -1 := Option.some.inj computed
  rw [negative] at nonneg
  exact absurd nonneg (by decide)

end Mousstec.Sales
