import Mousstec.Sales.Commissions

/-!
# Commissions taken back

Every posted line of a return holds the exact part of the commission its quantity
stands for, as long as that part needs no rounding.  The returned quantities stay
within what was sold, so the parts stay within the commission, and make it up
once everything is back.
-/

namespace Mousstec.Sales

open Library

def clawedBack (desk : CommissionDesk) (item : ℕ) : ℤ :=
  desk.lines.total fun _ line =>
    if line.sourceItem = some item then -line.commissionAccrued else 0

def CommissionDesk.isPosted (desk : CommissionDesk) (invoice : ℕ) : Bool :=
  (desk.invoices.get? invoice).any fun stored => stored.status = .posted

def CommissionDesk.isSale (desk : CommissionDesk) (invoice : ℕ) : Bool :=
  (desk.invoices.get? invoice).any fun stored => stored.isReturn = false

def CommissionDesk.isReturn (desk : CommissionDesk) (invoice : ℕ) : Bool :=
  (desk.invoices.get? invoice).any fun stored => stored.isReturn = true

def postedQuantity (desk : CommissionDesk) (item : ℕ) : ℤ :=
  desk.lines.total fun _ line =>
    if line.sourceItem = some item ∧ desk.isPosted line.invoice = true then
      line.quantity
    else 0

/-- No more is taken back than a line has earned, and all of it once the whole
quantity is back. -/
structure CommissionsBounded (desk : CommissionDesk) : Prop where
  bounded : ∀ key line, desk.lines.get? key = some line →
    desk.isSale line.invoice = true →
    clawedBack desk key ≤ line.commissionAccrued
  whole : ∀ key line, desk.lines.get? key = some line →
    desk.isSale line.invoice = true →
    postedQuantity desk key = line.quantity →
    clawedBack desk key = line.commissionAccrued

/-- The part of the commission is a whole number of cents. -/
def ExactShare (source line : CommissionLine) : Prop :=
  clawbackShare source.commissionAccrued line.quantity source.quantity *
      source.quantity =
    source.commissionAccrued * line.quantity

def TakesBackExactly (desk : CommissionDesk) (ret : ℕ) : Prop :=
  ∀ key line, desk.lines.get? key = some line → line.invoice = ret →
    ∀ source, line.sourceItem.bind desk.lines.get? = some source →
      ExactShare source line

instance ExactShare.decidable (source line : CommissionLine) :
    Decidable (ExactShare source line) :=
  inferInstanceAs (Decidable (_ = _))

theorem takesBackExactly_iff {desk : CommissionDesk} {ret : ℕ} :
    (desk.lines.rows.all fun row => row.2.invoice ≠ ret ∨
      ((row.2.sourceItem.bind desk.lines.get?).all fun source =>
        ExactShare source row.2)) = true ↔ TakesBackExactly desk ret := by
  rw [List.all_eq_true]
  constructor
  · intro exact key line stored own source origin
    have here := of_decide_eq_true (exact _ (Table.get?_eq_some.mp stored))
    rcases here with other | here
    · exact absurd own other
    · rw [origin, Option.all_some] at here
      exact of_decide_eq_true here
  · intro exact row member
    apply decide_eq_true
    by_cases own : row.2.invoice = ret
    · right
      rw [Option.all_eq_true]
      intro source origin
      exact decide_eq_true
        (exact row.1 row.2 (Table.get?_eq_some.mpr member) own source origin)
    · exact .inl own

instance TakesBackExactly.decidable (desk : CommissionDesk) (ret : ℕ) :
    Decidable (TakesBackExactly desk ret) :=
  decidable_of_iff _ takesBackExactly_iff

def CommissionOp.Careful : CommissionOp → CommissionDesk → Prop
  | .postReturn ret, desk => TakesBackExactly desk ret
  | _, _ => True

instance CommissionOp.decidableCareful (op : CommissionOp)
    (desk : CommissionDesk) : Decidable (op.Careful desk) :=
  match op with
  | .addLine _ => .isTrue trivial
  | .execute _ _ => .isTrue trivial
  | .createReturn _ _ => .isTrue trivial
  | .postReturn ret => TakesBackExactly.decidable desk ret
  | .deleteLine _ => .isTrue trivial

structure SoldLine (line : CommissionLine) : Prop where
  source : line.sourceItem = none
  quantity : 1 ≤ line.quantity
  commission : 0 ≤ line.commissionAccrued
  earned : line.commissionAccrued ≠ 0 → line.salesperson.isSome = true

instance SoldLine.decidable (line : CommissionLine) : Decidable (SoldLine line) :=
  decidable_of_iff (line.sourceItem = none ∧ 1 ≤ line.quantity ∧
      0 ≤ line.commissionAccrued ∧
      (line.commissionAccrued ≠ 0 → line.salesperson.isSome = true))
    ⟨fun holds => ⟨holds.1, holds.2.1, holds.2.2.1, holds.2.2.2⟩,
      fun holds =>
        ⟨holds.source, holds.quantity, holds.commission, holds.earned⟩⟩

/-- A line that returns another: what it holds is settled once its return is
posted. -/
structure ReturnedLine (desk : CommissionDesk) (pending : Bool) (item : ℕ)
    (line : CommissionLine) : Prop where
  invoice : desk.isReturn line.invoice = true
  quantity : 0 ≤ line.quantity
  source : ∃ source, desk.lines.get? item = some source ∧
    (desk.invoices.get? source.invoice).any
      (fun stored => !stored.isReturn && stored.isApplied) = true ∧
    -line.commissionAccrued * source.quantity =
      if pending = false ∧ desk.isPosted line.invoice = true then
        source.commissionAccrued * line.quantity
      else 0

/-- What was taken back is settled on all lines but some. -/
structure SoundBut (pending : List ℕ) (desk : CommissionDesk) : Prop where
  applied : ∀ pk invoice, desk.invoices.get? pk = some invoice →
    invoice.isReturn = false → invoice.status = .posted →
    invoice.isApplied = true
  sold : ∀ key line, desk.lines.get? key = some line →
    desk.isSale line.invoice = true → SoldLine line
  returned : ∀ key line item, desk.lines.get? key = some line →
    line.sourceItem = some item →
    ReturnedLine desk (decide (key ∈ pending)) item line
  quantities : ∀ key line, desk.lines.get? key = some line →
    desk.isSale line.invoice = true →
    (desk.lines.total fun _ other =>
      if other.sourceItem = some key then other.quantity else 0) ≤ line.quantity

abbrev SoundCommissions (desk : CommissionDesk) : Prop :=
  SoundBut [] desk

section Bounded

variable {desk : CommissionDesk}

theorem isSale_of_applied {invoice : ℕ}
    (applied : (desk.invoices.get? invoice).any
      (fun stored => !stored.isReturn && stored.isApplied) = true) :
    desk.isSale invoice = true := by
  unfold CommissionDesk.isSale
  cases found : desk.invoices.get? invoice with
  | none => rw [found] at applied; cases applied
  | some stored =>
      rw [found, Option.any_some, Bool.and_eq_true] at applied
      simpa using applied.1

theorem SoundBut.clawedBack_eq (sound : SoundCommissions desk) {key : ℕ}
    {line : CommissionLine} (stored : desk.lines.get? key = some line) :
    clawedBack desk key * line.quantity =
      line.commissionAccrued * postedQuantity desk key := by
  have left := Table.map_total (AddMonoidHom.mulRight line.quantity) desk.lines
    (fun _ other =>
      if other.sourceItem = some key then -other.commissionAccrued else 0)
  have right := Table.map_total (AddMonoidHom.mulLeft line.commissionAccrued)
    desk.lines (fun _ other =>
      if other.sourceItem = some key ∧ desk.isPosted other.invoice = true then
        other.quantity
      else 0)
  refine left.trans (Eq.trans ?_ right.symm)
  apply Table.total_congr
  intro other row found
  by_cases source : row.sourceItem = some key
  · obtain ⟨origin, here, -, exact⟩ :=
      (sound.returned other row key found source).source
    rw [stored, Option.some.injEq] at here
    subst here
    by_cases posted : desk.isPosted row.invoice = true
    · simpa [source, posted] using exact
    · simpa [source, posted] using exact
  · simp [source]

theorem SoundBut.postedQuantity_le (sound : SoundCommissions desk) {key : ℕ}
    {line : CommissionLine} (stored : desk.lines.get? key = some line)
    (sale : desk.isSale line.invoice = true) :
    postedQuantity desk key ≤ line.quantity := by
  refine le_trans ?_ (sound.quantities key line stored sale)
  apply Table.total_le_total
  intro other row found
  by_cases source : row.sourceItem = some key
  · have quantity := (sound.returned other row key found source).quantity
    by_cases posted : desk.isPosted row.invoice = true
    · simp [source, posted]
    · simpa [source, posted] using quantity
  · simp [source]

theorem SoundBut.bounded (sound : SoundCommissions desk) :
    CommissionsBounded desk where
  bounded := by
    intro key line stored sale
    have sold := sound.sold key line stored sale
    have exact := sound.clawedBack_eq stored
    have most := sound.postedQuantity_le stored sale
    have positive : 0 < line.quantity := sold.quantity
    have scaled : clawedBack desk key * line.quantity ≤
        line.commissionAccrued * line.quantity := by
      rw [exact]
      exact Int.mul_le_mul_of_nonneg_left most sold.commission
    exact Int.le_of_mul_le_mul_right scaled positive
  whole := by
    intro key line stored sale back
    have sold := sound.sold key line stored sale
    have exact := sound.clawedBack_eq stored
    rw [back] at exact
    exact Int.eq_of_mul_eq_mul_right (by have := sold.quantity; omega) exact

end Bounded

/-- What accruing does to a line: nothing, or it gets its first commission. -/
def Accrues (key : ℕ) (before after : CommissionDesk) : Prop :=
  after = before ∨ ∃ line amount employees,
    before.lines.get? key = some line ∧ line.salesperson.isSome = true ∧
      0 ≤ amount ∧ after =
        { before with
          lines := before.lines.modify key fun stored =>
            { stored with commissionAccrued := amount }
          employees }

theorem accrueSalesCommission_accrues (key : ℕ) (desk : CommissionDesk) :
    Accrues key desk (accrueSalesCommission key desk).2 := by
  unfold accrueSalesCommission
  cases found : desk.lines.get? key with
  | none => exact .inl rfl
  | some line =>
      dsimp only
      cases salesperson : line.salesperson with
      | none => exact .inl rfl
      | some employee =>
          dsimp only
          by_cases earns : lineSalesCommission desk line ≤ 0
          · rw [if_pos earns]
            exact .inl rfl
          · rw [if_neg earns, bookSalesCommission]
            split
            · exact .inr ⟨line, _, _, found, by rw [salesperson]; rfl,
                (not_le.mp earns).le, rfl⟩
            · exact .inl rfl

section Accrue

variable {before after : CommissionDesk} {key : ℕ}

theorem SoundBut.accrue (sound : SoundCommissions before)
    (accrues : Accrues key before after) {line : CommissionLine}
    (stored : before.lines.get? key = some line)
    (sale : before.isSale line.invoice = true)
    (unreturned : ∀ other row, before.lines.get? other = some row →
      row.sourceItem ≠ some key) :
    SoundCommissions after := by
  obtain rfl | ⟨found, amount, employees, here, salesperson, nonneg, rfl⟩ := accrues
  · exact sound
  rw [stored, Option.some.injEq] at here
  subst here
  have own := (sound.sold key line stored sale).source
  refine ⟨sound.applied, ?_, ?_, ?_⟩
  · intro other row found onSale
    rcases Table.get?_modify_of_some stored found with ⟨-, rfl⟩ | found
    · have sold := sound.sold key line stored sale
      exact ⟨sold.source, sold.quantity, nonneg, fun _ => salesperson⟩
    · exact sound.sold other row found onSale
  · intro other row item found source
    rcases Table.get?_modify_of_some stored found with ⟨-, rfl⟩ | held
    · rw [own] at source
      cases source
    · have earlier := sound.returned other row item held source
      refine ⟨earlier.invoice, earlier.quantity, ?_⟩
      obtain ⟨origin, present, rest⟩ := earlier.source
      have different : item ≠ key := by
        rintro rfl
        exact unreturned other row held source
      exact ⟨origin, (Table.get?_modify_of_ne _ different _).trans present, rest⟩
  · intro other row found onSale
    have same : (Table.total (before.lines.modify key fun stored =>
        { stored with commissionAccrued := amount }) fun _ row =>
          if row.sourceItem = some other then row.quantity else 0) =
        before.lines.total fun _ row =>
          if row.sourceItem = some other then row.quantity else 0 := by
      rw [Table.total_modify stored]
      simp
    refine (le_of_eq same).trans ?_
    rcases Table.get?_modify_of_some stored found with ⟨here, rfl⟩ | found
    · rw [here]
      exact sound.quantities key line stored sale
    · exact sound.quantities other row found onSale

theorem Accrues.lines_eq (accrues : Accrues key before after) {other : ℕ}
    {row : CommissionLine} (found : after.lines.get? other = some row) :
    ∃ earlier, before.lines.get? other = some earlier ∧
      earlier.toSaleInvoiceItem = row.toSaleInvoiceItem := by
  obtain rfl | ⟨line, amount, employees, here, -, -, rfl⟩ := accrues
  · exact ⟨row, found, rfl⟩
  · rcases Table.get?_modify_of_some here found with ⟨same, rfl⟩ | found
    · exact ⟨line, same ▸ here, rfl⟩
    · exact ⟨row, found, rfl⟩

theorem Accrues.kept (accrues : Accrues key before after) {other : ℕ}
    {row : CommissionLine} (found : before.lines.get? other = some row) :
    ∃ later, after.lines.get? other = some later ∧
      later.toSaleInvoiceItem = row.toSaleInvoiceItem := by
  obtain rfl | ⟨line, amount, employees, here, -, -, rfl⟩ := accrues
  · exact ⟨row, found, rfl⟩
  · rw [Table.get?_modify]
    split
    · rename_i same
      rw [same, here, Option.some.injEq] at found
      subst found
      exact ⟨{ line with commissionAccrued := amount },
        by rw [here, Option.map_some], rfl⟩
    · exact ⟨row, found, rfl⟩

theorem Accrues.invoices_eq (accrues : Accrues key before after) :
    after.invoices = before.invoices := by
  obtain rfl | ⟨_, _, _, _, _, _, rfl⟩ := accrues
  · rfl
  · rfl

end Accrue

theorem SoundBut.accrueAll {desk : CommissionDesk} {pk : ℕ}
    (sound : SoundCommissions desk) (sale : desk.isSale pk = true)
    (unreturned : ∀ other row item source, desk.lines.get? other = some row →
      row.sourceItem = some item → desk.lines.get? item = some source →
      source.invoice ≠ pk) :
    SoundCommissions (accrueSalesCommissions pk desk) := by
  unfold accrueSalesCommissions
  have listed : ∀ row ∈ desk.lines.rows.filter (fun row =>
      row.2.invoice = pk ∧ row.2.salesperson.isSome ∧
        row.2.commissionAccrued = 0),
      ∃ line, desk.lines.get? row.1 = some line ∧ line.invoice = pk := by
    intro row member
    rw [List.mem_filter] at member
    have fields := of_decide_eq_true member.2
    exact ⟨row.2, Table.get?_eq_some.mpr member.1, fields.1⟩
  generalize desk.lines.rows.filter (fun row =>
    row.2.invoice = pk ∧ row.2.salesperson.isSome ∧
      row.2.commissionAccrued = 0) = rows at listed
  induction rows generalizing desk with
  | nil => exact sound
  | cons row rows induction =>
      rw [List.foldl_cons]
      have accrues := accrueSalesCommission_accrues row.1 desk
      obtain ⟨line, stored, onPk⟩ := listed row List.mem_cons_self
      apply induction
      · refine sound.accrue accrues stored (onPk ▸ sale) ?_
        intro other found present source
        exact unreturned other found row.1 line present source stored onPk
      · unfold CommissionDesk.isSale
        rw [accrues.invoices_eq]
        exact sale
      · intro other later item source found named origin
        obtain ⟨row', earlier, same⟩ := accrues.lines_eq found
        obtain ⟨source', present, same'⟩ := accrues.lines_eq origin
        rw [← congrArg SaleInvoiceItem.sourceItem same] at named
        rw [← congrArg SaleInvoiceItem.invoice same']
        exact unreturned other row' item source' earlier named present
      · intro other member
        obtain ⟨line', present, onPk'⟩ := listed other (List.mem_cons_of_mem _ member)
        obtain ⟨later, found, same⟩ := accrues.kept present
        exact ⟨later, found, (congrArg SaleInvoiceItem.invoice same).trans onPk'⟩

section Selling

variable {before after : CommissionDesk}

theorem SoundBut.addLine (sound : SoundCommissions before)
    {line : CommissionLine} (sold : SoldLine line) :
    SoundCommissions { before with lines := before.lines.insert line } := by
  refine ⟨sound.applied, ?_, ?_, ?_⟩
  · intro key row found sale
    rcases Table.get?_insert_cases found with ⟨-, rfl⟩ | found
    · exact sold
    · exact sound.sold key row found sale
  · intro key row item found source
    rcases Table.get?_insert_cases found with ⟨-, rfl⟩ | found
    · rw [sold.source] at source
      cases source
    · have earlier := sound.returned key row item found source
      obtain ⟨origin, present, rest⟩ := earlier.source
      exact ⟨earlier.invoice, earlier.quantity, origin,
        Table.get?_insert_of_some present _, rest⟩
  · intro key row found sale
    rw [Table.total_insert, sold.source]
    rcases Table.get?_insert_cases found with ⟨new, rfl⟩ | found
    · have nothing : (before.lines.total fun _ other =>
          if other.sourceItem = some key then other.quantity else 0) = 0 := by
        apply Table.total_eq_zero
        intro other row' found'
        rw [if_neg]
        intro source
        obtain ⟨origin, present, -⟩ :=
          (sound.returned other row' key found' source).source
        rw [new, Table.get?_next] at present
        cases present
      rw [nothing]
      have quantity := sold.quantity
      simp
      omega
    · have kept := sound.quantities key row found sale
      simpa using kept

theorem addSaleLine_sound {line : CommissionLine}
    (returned : addSaleLine line before = .ok ⟨⟩ after)
    (sound : SoundCommissions before) : SoundCommissions after := by
  simp only [addSaleLine, checkLine, Txn.bind_eq_ok, Txn.get_eq_ok,
    Txn.expect_eq_ok, Txn.require_eq_ok] at returned
  obtain ⟨_, _, ⟨rfl, rfl⟩, invoice, _, ⟨found, rfl⟩, _, _, ⟨_, _, ⟨quantity, rfl⟩,
    _, _, ⟨-, rfl⟩, -, rfl⟩, rest⟩ := returned
  have sold : SoldLine { line with sourceItem := none, commissionAccrued := 0 } :=
    ⟨rfl, quantity, Int.le_refl 0, fun earned => absurd rfl earned⟩
  have added := sound.addLine sold
  split at rest
  · obtain ⟨-, rfl⟩ := Txn.pure_eq_ok.mp rest
    exact sound
  · rename_i sale
    split at rest
    · obtain rfl := Txn.set_eq_ok.mp rest
      refine added.accrue (accrueSalesCommission_accrues _ _)
        (Table.get?_insert_next _ _) ?_ ?_
      · simpa [CommissionDesk.isSale, found] using sale
      · intro other row present source
        rcases Table.get?_insert_cases present with ⟨-, rfl⟩ | present
        · cases source
        · obtain ⟨origin, here, -⟩ :=
            (sound.returned other row _ present source).source
          rw [Table.get?_next] at here
          cases here
    · obtain rfl := Txn.set_eq_ok.mp rest
      exact added

theorem SoundBut.execute (sound : SoundCommissions before) {pk : ℕ}
    {invoice : SaleInvoice} (found : before.invoices.get? pk = some invoice)
    (sale : invoice.isReturn = false) (status : InvoiceStatus) :
    SoundCommissions
      { before with
        invoices := before.invoices.modify pk fun stored =>
          { stored with status, isApplied := true } } := by
  have onSale : ∀ other, CommissionDesk.isSale { before with
      invoices := before.invoices.modify pk fun stored =>
        { stored with status, isApplied := true } } other =
          before.isSale other := by
    intro other
    unfold CommissionDesk.isSale
    rw [Table.get?_modify]
    split
    · rename_i here
      rw [here, found]
      rfl
    · rfl
  refine ⟨?_, ?_, ?_, ?_⟩
  · intro other row present notReturn posted
    rcases Table.get?_modify_of_some found present with ⟨-, rfl⟩ | present
    · rfl
    · exact sound.applied other row present notReturn posted
  · intro key line present onSale'
    rw [onSale] at onSale'
    exact sound.sold key line present onSale'
  · intro key line item present source
    have earlier := sound.returned key line item present source
    have elsewhere : line.invoice ≠ pk := by
      rintro rfl
      have onReturn := earlier.invoice
      simp [CommissionDesk.isReturn, found, sale] at onReturn
    obtain ⟨origin, here, applied, exact⟩ := earlier.source
    refine ⟨?_, earlier.quantity, origin, here, ?_, ?_⟩
    · unfold CommissionDesk.isReturn
      rw [Table.get?_modify_of_ne _ elsewhere]
      exact earlier.invoice
    · rw [Table.get?_modify]
      split
      · rename_i same
        rw [same, found] at applied
        rw [found, Option.map_some, Option.any_some, sale]
        rfl
      · exact applied
    · unfold CommissionDesk.isPosted
      rw [Table.get?_modify_of_ne _ elsewhere]
      exact exact
  · intro key line present onSale'
    rw [onSale] at onSale'
    exact sound.quantities key line present onSale'

theorem executeSale_sound {pk : ℕ} {status : InvoiceStatus}
    (returned : executeSale pk status before = .ok ⟨⟩ after)
    (sound : SoundCommissions before) : SoundCommissions after := by
  simp only [executeSale, Txn.bind_eq_ok, Txn.get_eq_ok, Txn.expect_eq_ok]
    at returned
  obtain ⟨_, _, ⟨rfl, rfl⟩, invoice, _, ⟨found, rfl⟩, rest⟩ := returned
  split at rest
  · obtain ⟨-, rfl⟩ := Txn.pure_eq_ok.mp rest
    exact sound
  · rename_i open'
    have sale : invoice.isReturn = false := by
      simpa using (not_or.mp open').1
    have executed := sound.execute found sale status
    split at rest
    · obtain rfl := Txn.set_eq_ok.mp rest
      exact executed
    · rename_i unapplied
      obtain rfl := Txn.set_eq_ok.mp rest
      apply executed.accrueAll
      · simp [CommissionDesk.isSale, found, sale]
      · rintro other row item source present named here rfl
        obtain ⟨origin, here', applied, -⟩ :=
          (sound.returned other row item present named).source
        have same : some origin = some source := here'.symm.trans here
        obtain rfl := Option.some.inj same
        rw [found, Option.any_some, Bool.and_eq_true] at applied
        exact unapplied applied.2

end Selling

section Drafting

variable {before after : CommissionDesk} {ret original : ℕ}

def onReturns (desk : CommissionDesk) (item : ℕ) : ℤ :=
  desk.lines.total fun _ line =>
    if line.sourceItem = some item then line.quantity else 0

theorem SoundBut.returnedQuantity_eq (sound : SoundCommissions before)
    (item : ℕ) : returnedQuantity before item = onReturns before item := by
  apply Table.total_congr
  intro key line found
  by_cases source : line.sourceItem = some item
  · have onReturn := (sound.returned key line item found source).invoice
    unfold CommissionDesk.isReturn at onReturn
    simp only [Bool.decide_eq_true] at onReturn
    rw [if_pos ⟨source, onReturn⟩, if_pos source]
  · rw [if_neg fun both => source both.1, if_neg source]

/-- What the loop over the sold lines keeps. -/
structure Drafting (ret original : ℕ) (previous : ℕ → ℤ)
    (rows : List (ℕ × CommissionLine)) (desk : CommissionDesk) : Prop where
  sound : SoundCommissions desk
  onReturn : desk.isReturn ret = true
  draft : desk.isPosted ret = false
  applied : (desk.invoices.get? original).any
    (fun stored => !stored.isReturn && stored.isApplied) = true
  listed : ∀ row ∈ rows, desk.lines.get? row.1 = some row.2 ∧
    row.2.invoice = original ∧ onReturns desk row.1 = previous row.1
  distinct : (rows.map Prod.fst).Nodup

theorem returnItem_ok {items : List (ℕ × ℤ)} {previous : ℤ}
    {row : ℕ × CommissionLine} {made : Bool}
    (returned : returnItem ret items previous row before = .ok made after) :
    after = before ∨ ∃ quantity, 0 < quantity ∧
      quantity ≤ max (row.2.quantity - previous) 0 ∧
      after = { before with
        lines := before.lines.insert (returnLine ret row.1 row.2 quantity) } := by
  unfold returnItem at returned
  split at returned
  · obtain ⟨-, rfl⟩ := Txn.pure_eq_ok.mp returned
    exact .inl rfl
  · rename_i positive
    simp only [Txn.bind_eq_ok, Txn.require_eq_ok, Txn.modify_eq_ok,
      Txn.pure_eq_ok] at returned
    obtain ⟨_, _, ⟨most, rfl⟩, _, _, rfl, -, rfl⟩ := returned
    exact .inr ⟨_, not_le.mp positive, most, rfl⟩

theorem SoundBut.addReturn (sound : SoundCommissions before)
    (onReturn : before.isReturn ret = true) (draft : before.isPosted ret = false)
    {source : ℕ} {item : CommissionLine}
    (stored : before.lines.get? source = some item)
    (applied : (before.invoices.get? item.invoice).any
      (fun stored => !stored.isReturn && stored.isApplied) = true)
    {quantity : ℤ} (positive : 0 < quantity)
    (within : onReturns before source + quantity ≤ item.quantity) :
    SoundCommissions { before with
      lines := before.lines.insert (returnLine ret source item quantity) } := by
  have notSale : before.isSale ret = false := by
    unfold CommissionDesk.isReturn at onReturn
    unfold CommissionDesk.isSale
    cases found : before.invoices.get? ret with
    | none => rfl
    | some invoice =>
        rw [found] at onReturn
        simpa using onReturn
  refine ⟨sound.applied, ?_, ?_, ?_⟩
  · intro key row found sale
    rcases Table.get?_insert_cases found with ⟨-, rfl⟩ | found
    · have sale' : before.isSale ret = true := sale
      rw [notSale] at sale'
      cases sale'
    · exact sound.sold key row found sale
  · intro key row origin found named
    rcases Table.get?_insert_cases found with ⟨-, rfl⟩ | found
    · obtain rfl : source = origin := Option.some.inj named
      refine ⟨onReturn, positive.le, item,
        Table.get?_insert_of_some stored _, applied, ?_⟩
      have unposted : CommissionDesk.isPosted { before with
          lines := before.lines.insert (returnLine ret source item quantity) }
            (returnLine ret source item quantity).invoice = false := draft
      rw [unposted]
      simp [returnLine]
    · have earlier := sound.returned key row origin found named
      obtain ⟨kept, present, rest⟩ := earlier.source
      exact ⟨earlier.invoice, earlier.quantity, kept,
        Table.get?_insert_of_some present _, rest⟩
  · intro key row found sale
    rw [Table.total_insert]
    rcases Table.get?_insert_cases found with ⟨-, rfl⟩ | found
    · have sale' : before.isSale ret = true := sale
      rw [notSale] at sale'
      cases sale'
    · have kept := sound.quantities key row found sale
      by_cases here : source = key
      · subst here
        rw [stored, Option.some.injEq] at found
        subst found
        simpa [returnLine, onReturns] using within
      · simpa [returnLine, here] using kept

theorem Drafting.step {items : List (ℕ × ℤ)} {previous : ℕ → ℤ}
    {row : ℕ × CommissionLine} {rows : List (ℕ × CommissionLine)} {made : Bool}
    (drafting : Drafting ret original previous (row :: rows) before)
    (returned : returnItem ret items (previous row.1) row before =
      .ok made after) :
    Drafting ret original previous rows after := by
  obtain ⟨stored, onOriginal, earlier⟩ := drafting.listed row List.mem_cons_self
  have distinct := drafting.distinct
  rw [List.map_cons, List.nodup_cons] at distinct
  obtain rfl | ⟨quantity, positive, most, rfl⟩ := returnItem_ok returned
  · exact ⟨drafting.sound, drafting.onReturn, drafting.draft, drafting.applied,
      fun other member => drafting.listed other (List.mem_cons_of_mem _ member),
      distinct.2⟩
  · have within : onReturns before row.1 + quantity ≤ row.2.quantity := by
      rw [earlier]
      omega
    refine ⟨drafting.sound.addReturn drafting.onReturn drafting.draft stored
      (onOriginal ▸ drafting.applied) positive within, drafting.onReturn,
      drafting.draft, drafting.applied, ?_, distinct.2⟩
    intro other member
    obtain ⟨present, onOriginal, amount⟩ :=
      drafting.listed other (List.mem_cons_of_mem _ member)
    refine ⟨Table.get?_insert_of_some present _, onOriginal, ?_⟩
    have different : row.1 ≠ other.1 := fun same =>
      distinct.1 (same ▸ List.mem_map_of_mem member)
    rw [← amount]
    simp [onReturns, returnLine, different]

theorem Drafting.all {items : List (ℕ × ℤ)} {previous : ℕ → ℤ}
    {rows : List (ℕ × CommissionLine)} {created result : Bool}
    (drafting : Drafting ret original previous rows before)
    (returned : returnItems ret items previous created rows before =
      .ok result after) : SoundCommissions after := by
  induction rows generalizing created before with
  | nil =>
      obtain ⟨-, rfl⟩ := Txn.pure_eq_ok.mp returned
      exact drafting.sound
  | cons row rows induction =>
      rw [returnItems, Txn.bind_eq_ok] at returned
      obtain ⟨made, middle, first, rest⟩ := returned
      exact induction (drafting.step first) rest

theorem SoundBut.newReturn (sound : SoundCommissions before)
    {invoice : SaleInvoice} (isReturn : invoice.isReturn = true) :
    SoundCommissions
      { before with invoices := before.invoices.insert invoice } := by
  have onSale : ∀ other, CommissionDesk.isSale
      { before with invoices := before.invoices.insert invoice } other = true →
        before.isSale other = true := by
    intro other
    unfold CommissionDesk.isSale
    rw [Table.get?_insert]
    split
    · simp [isReturn]
    · exact id
  refine ⟨?_, ?_, ?_, ?_⟩
  · intro other row present notReturn posted
    rcases Table.get?_insert_cases present with ⟨-, rfl⟩ | present
    · rw [isReturn] at notReturn
      cases notReturn
    · exact sound.applied other row present notReturn posted
  · intro key line present sale
    exact sound.sold key line present (onSale _ sale)
  · intro key line item present source
    have earlier := sound.returned key line item present source
    have old : ∀ other, (before.invoices.get? other).isSome = true →
        (before.invoices.insert invoice).get? other =
          before.invoices.get? other := by
      intro other stored
      obtain ⟨row, found⟩ := Option.isSome_iff_exists.mp stored
      rw [found, Table.get?_insert_of_some found]
    obtain ⟨origin, here, applied, exact⟩ := earlier.source
    have kept : (before.invoices.get? line.invoice).isSome = true := by
      have onReturn := earlier.invoice
      unfold CommissionDesk.isReturn at onReturn
      cases found : before.invoices.get? line.invoice with
      | none => rw [found] at onReturn; cases onReturn
      | some row => rfl
    have kept' : (before.invoices.get? origin.invoice).isSome = true := by
      cases found : before.invoices.get? origin.invoice with
      | none => rw [found] at applied; cases applied
      | some row => rfl
    refine ⟨?_, earlier.quantity, origin, here, ?_, ?_⟩
    · unfold CommissionDesk.isReturn
      rw [old _ kept]
      exact earlier.invoice
    · rw [old _ kept']
      exact applied
    · unfold CommissionDesk.isPosted
      rw [old _ kept]
      exact exact
  · intro key line present sale
    exact sound.quantities key line present (onSale _ sale)

theorem createReturnInvoice_sound {items : List (ℕ × ℤ)}
    (returned : createReturnInvoice original items before = .ok ⟨⟩ after)
    (sound : SoundCommissions before) : SoundCommissions after := by
  simp only [createReturnInvoice, Txn.atomic_eq_ok, Txn.bind_eq_ok,
    Txn.get_eq_ok, Txn.expect_eq_ok, Txn.require_eq_ok, Txn.set_eq_ok]
    at returned
  obtain ⟨_, _, ⟨rfl, rfl⟩, invoice, _, ⟨found, rfl⟩, _, _, ⟨notReturn, rfl⟩, _,
    _, ⟨posted, rfl⟩, _, _, rfl, _, _, looped, -, rfl⟩ := returned
  have applied := sound.applied original invoice found notReturn posted
  have drafting : Drafting before.invoices.next original (returnedQuantity before)
      (before.lines.rows.filter fun row => row.2.invoice = original)
      { before with
        invoices := before.invoices.insert
          { isReturn := true
            originalInvoice := some original
            status := .quotation
            customer := invoice.customer
            maintenanceContract := invoice.maintenanceContract
            dateCreated := invoice.dateCreated
            treasury := invoice.treasury
            taxPercentage := invoice.taxPercentage } } := by
    refine ⟨sound.newReturn rfl, ?_, ?_, ?_, ?_, ?_⟩
    · simp [CommissionDesk.isReturn]
    · simp [CommissionDesk.isPosted]
    · rw [Table.get?_insert_of_some found]
      simp [notReturn, applied]
    · intro row member
      rw [List.mem_filter] at member
      refine ⟨Table.get?_eq_some.mpr member.1, by simpa using member.2, ?_⟩
      exact (sound.returnedQuantity_eq row.1).symm
    · exact before.lines.keys_nodup.sublist (List.filter_sublist.map Prod.fst)
  exact drafting.all looped

end Drafting

section Posting

variable {before after : CommissionDesk} {ret : ℕ}

theorem isSale_of_isReturn {desk : CommissionDesk} {invoice : ℕ}
    (onReturn : desk.isReturn invoice = true) : desk.isSale invoice = false := by
  unfold CommissionDesk.isReturn at onReturn
  unfold CommissionDesk.isSale
  cases found : desk.invoices.get? invoice with
  | none => rfl
  | some stored =>
      rw [found] at onReturn
      simpa using onReturn

theorem SoundBut.posted (sound : SoundCommissions before) {invoice : SaleInvoice}
    (found : before.invoices.get? ret = some invoice)
    (onReturn : invoice.isReturn = true) (draft : invoice.status ≠ .posted) :
    let desk := { before with
      invoices := before.invoices.modify ret fun stored =>
        { stored with status := .posted, isApplied := true } }
    SoundBut ((clawbackLines desk ret).map Prod.fst) desk := by
  intro desk
  have invoices : desk.invoices = before.invoices.modify ret fun stored =>
      { stored with status := .posted, isApplied := true } := rfl
  have onSale : ∀ other, desk.isSale other = before.isSale other := by
    intro other
    unfold CommissionDesk.isSale
    rw [invoices, Table.get?_modify]
    split
    · rename_i here
      rw [here, found]
      rfl
    · rfl
  refine ⟨?_, ?_, ?_, ?_⟩
  · intro other row present notReturn posted
    rcases Table.get?_modify_of_some found present with ⟨-, rfl⟩ | present
    · rfl
    · exact sound.applied other row present notReturn posted
  · intro key line present sale
    rw [onSale] at sale
    exact sound.sold key line present sale
  · intro key line item present named
    have earlier := sound.returned key line item present named
    obtain ⟨origin, here, applied, exact⟩ := earlier.source
    have sold := sound.sold item origin here (isSale_of_applied applied)
    have kept : (desk.invoices.get? origin.invoice).any
        (fun stored => !stored.isReturn && stored.isApplied) = true := by
      rw [invoices, Table.get?_modify]
      split
      · rename_i same
        rw [same, found, Option.any_some, onReturn] at applied
        cases applied
      · exact applied
    have unsettled : ¬ before.isPosted line.invoice = true →
        -line.commissionAccrued * origin.quantity = 0 := by
      intro unposted
      rwa [if_neg fun both => unposted both.2] at exact
    refine ⟨?_, earlier.quantity, origin, here, kept, ?_⟩
    · unfold CommissionDesk.isReturn
      rw [invoices, Table.get?_modify]
      split
      · rename_i same
        rw [found, Option.map_some, Option.any_some]
        simpa using onReturn
      · exact earlier.invoice
    · by_cases own : line.invoice = ret
      · have unposted : ¬ before.isPosted line.invoice = true := by
          simp [CommissionDesk.isPosted, own, found, draft]
        have none : line.commissionAccrued = 0 := by
          have product := unsettled unposted
          have positive := sold.quantity
          rcases mul_eq_zero.mp product with zero | zero
          · omega
          · omega
        have listed : key ∈ (clawbackLines desk ret).map Prod.fst := by
          have row : (key, line) ∈ clawbackLines desk ret := by
            rw [clawbackLines, List.mem_filter]
            refine ⟨Table.get?_eq_some.mp present, ?_⟩
            simp [own, named, none]
          exact List.mem_map_of_mem row
        simp only [listed, decide_true, Bool.true_eq_false, false_and, if_false]
        exact unsettled unposted
      · have unlisted : key ∉ (clawbackLines desk ret).map Prod.fst := by
          intro listed
          obtain ⟨row, member, same⟩ := List.mem_map.mp listed
          rw [clawbackLines, List.mem_filter] at member
          have fields := of_decide_eq_true member.2
          have stored := Table.get?_eq_some.mpr member.1
          rw [same, show desk.lines = before.lines from rfl, present,
            Option.some.injEq] at stored
          exact own (stored ▸ fields.1)
        have same : desk.isPosted line.invoice = before.isPosted line.invoice := by
          unfold CommissionDesk.isPosted
          rw [invoices, Table.get?_modify_of_ne _ own]
        rw [same, decide_eq_false unlisted]
        simpa using exact
  · intro key line present sale
    rw [onSale] at sale
    exact sound.quantities key line present sale

theorem clawbackLine_eq {source : CommissionLine} {key : ℕ}
    {line : CommissionLine} (sold : SoldLine source)
    (returned : 0 ≤ line.quantity) (exact : ExactShare source line)
    (stored : before.lines.get? key = some line)
    (unsettled : line.commissionAccrued = 0) :
    ∃ amount employees,
      clawbackLine (some source) key line before =
        { before with
          lines := before.lines.modify key fun stored =>
            { stored with commissionAccrued := amount }
          employees } ∧
      -amount * source.quantity = source.commissionAccrued * line.quantity := by
  have untouched : before.lines.modify key
      (fun stored => { stored with commissionAccrued := 0 }) = before.lines := by
    apply Table.ext
    · apply Table.rows_eq_of_get?
      intro other
      rw [Table.get?_modify]
      split
      · rename_i here
        rw [here, stored, Option.map_some, ← unsettled]
      · rfl
    · rfl
  have nothing : source.commissionAccrued * line.quantity = 0 →
      clawbackLine (some source) key line before = before → ∃ amount employees,
        clawbackLine (some source) key line before =
          { before with
            lines := before.lines.modify key fun stored =>
              { stored with commissionAccrued := amount }
            employees } ∧
        -amount * source.quantity = source.commissionAccrued * line.quantity := by
    intro zero skipped
    refine ⟨0, before.employees, ?_, by rw [zero]; simp⟩
    rw [skipped, untouched]
  have positive := sold.quantity
  cases salesperson : source.salesperson with
  | none =>
      have earned : source.commissionAccrued = 0 := by
        by_contra nonzero
        have known := sold.earned nonzero
        rw [salesperson] at known
        cases known
      apply nothing
      · rw [earned, zero_mul]
      · simp [clawbackLine, salesperson]
  | some employee =>
      by_cases free : source.commissionAccrued = 0 ∨ source.quantity = 0
      · have earned : source.commissionAccrued = 0 := by omega
        apply nothing
        · rw [earned, zero_mul]
        · simp [clawbackLine, salesperson, earned]
      · by_cases small : clawbackShare source.commissionAccrued line.quantity
            source.quantity ≤ 0
        · apply nothing
          · have whole := exact
            unfold ExactShare at whole
            have above : 0 ≤ source.commissionAccrued * line.quantity :=
              Int.mul_nonneg sold.commission returned
            have below : clawbackShare source.commissionAccrued line.quantity
                source.quantity * source.quantity ≤ 0 :=
              Int.mul_nonpos_of_nonpos_of_nonneg small (by omega)
            omega
          · simp [clawbackLine, salesperson, free, small]
        · refine ⟨-clawbackShare source.commissionAccrued line.quantity
              source.quantity,
            before.employees.modify employee fun stored =>
              { stored with
                commissionBalance := stored.commissionBalance +
                  -clawbackShare source.commissionAccrued line.quantity
                    source.quantity }, ?_, ?_⟩
          · simp only [clawbackLine, salesperson, if_neg free, if_neg small,
              bookSalesCommission, stored, Option.any_some, unsettled,
              decide_true, if_true]
          · rw [neg_neg]
            exact exact

theorem SoundBut.settle {key : ℕ} {rest : List ℕ} {line source : CommissionLine}
    {item : ℕ} {amount : ℤ} {employees : Table EmployeeProfile}
    (sound : SoundBut (key :: rest) before) (fresh : key ∉ rest)
    (stored : before.lines.get? key = some line)
    (named : line.sourceItem = some item)
    (origin : before.lines.get? item = some source)
    (posted : before.isPosted line.invoice = true)
    (exact : -amount * source.quantity = source.commissionAccrued * line.quantity) :
    SoundBut rest
      { before with
        lines := before.lines.modify key fun stored =>
          { stored with commissionAccrued := amount }
        employees } := by
  have own := sound.returned key line item stored named
  have notSale := isSale_of_isReturn own.invoice
  refine ⟨sound.applied, ?_, ?_, ?_⟩
  · intro other row found sale
    rcases Table.get?_modify_of_some stored found with ⟨-, rfl⟩ | found
    · have sale' : before.isSale line.invoice = true := sale
      rw [notSale] at sale'
      cases sale'
    · exact sound.sold other row found sale
  · intro other row named' found source'
    have kept : ∀ {place : ℕ} {stored' : CommissionLine},
        before.lines.get? place = some stored' →
        (before.invoices.get? stored'.invoice).any
          (fun stored => !stored.isReturn && stored.isApplied) = true →
        (before.lines.modify key fun stored =>
          { stored with commissionAccrued := amount }).get? place =
            some stored' := by
      intro place stored' present applied
      have different : place ≠ key := by
        rintro rfl
        rw [stored, Option.some.injEq] at present
        subst present
        have sale := isSale_of_applied applied
        rw [notSale] at sale
        cases sale
      exact (Table.get?_modify_of_ne _ different _).trans present
    rw [Table.get?_modify] at found
    split at found
    · rename_i here
      rw [stored, Option.map_some, Option.some.injEq] at found
      subst found
      obtain rfl : item = named' := Option.some.inj (named.symm.trans source')
      obtain ⟨origin', present, applied, -⟩ := own.source
      rw [origin, Option.some.injEq] at present
      subst present
      refine ⟨own.invoice, own.quantity, source, kept origin applied, applied, ?_⟩
      rw [here, decide_eq_false fresh]
      have posted' : before.isPosted line.invoice = true := posted
      rw [if_pos ⟨rfl, posted'⟩]
      exact exact
    · rename_i different
      have earlier := sound.returned other row named' found source'
      obtain ⟨origin', present, applied, settled⟩ := earlier.source
      refine ⟨earlier.invoice, earlier.quantity, origin', kept present applied,
        applied, ?_⟩
      simp only [List.mem_cons, different, false_or] at settled
      exact settled
  · intro other row found sale
    have same : (Table.total (before.lines.modify key fun stored =>
        { stored with commissionAccrued := amount }) fun _ row =>
          if row.sourceItem = some other then row.quantity else 0) =
        before.lines.total fun _ row =>
          if row.sourceItem = some other then row.quantity else 0 := by
      rw [Table.total_modify stored]
      simp
    refine (le_of_eq same).trans ?_
    rcases Table.get?_modify_of_some stored found with ⟨-, rfl⟩ | found
    · have sale' : before.isSale line.invoice = true := sale
      rw [notSale] at sale'
      cases sale'
    · exact sound.quantities other row found sale

/-- What the loop of `clawback_sales_commissions` keeps. -/
structure Clawing (ret : ℕ) (start : CommissionDesk)
    (rows : List (ℕ × CommissionLine)) (desk : CommissionDesk) : Prop where
  sound : SoundBut (rows.map Prod.fst) desk
  rows_stored : ∀ row ∈ rows, desk.lines.get? row.1 = some row.2 ∧
    row.2.invoice = ret ∧ row.2.sourceItem.isSome = true ∧
    row.2.commissionAccrued = 0
  distinct : (rows.map Prod.fst).Nodup
  sales : ∀ key line, start.lines.get? key = some line →
    start.isSale line.invoice = true → desk.lines.get? key = some line
  invoices : desk.invoices = start.invoices

theorem Clawing.step {start : CommissionDesk} {row : ℕ × CommissionLine}
    {rows : List (ℕ × CommissionLine)}
    (clawing : Clawing ret start (row :: rows) before)
    (posted : start.isPosted ret = true)
    (exact : ∀ source, row.2.sourceItem.bind start.lines.get? = some source →
      ExactShare source row.2)
    (known : ∀ item, row.2.sourceItem = some item → ∃ source,
      start.lines.get? item = some source ∧
        start.isSale source.invoice = true) :
    Clawing ret start rows
      (clawbackLine (row.2.sourceItem.bind start.lines.get?) row.1 row.2
        before) := by
  have distinct := clawing.distinct
  rw [List.map_cons, List.nodup_cons] at distinct
  obtain ⟨stored, own, isSome, unsettled⟩ :=
    clawing.rows_stored row List.mem_cons_self
  obtain ⟨item, named⟩ := Option.isSome_iff_exists.mp isSome
  obtain ⟨source, found, sale⟩ := known item named
  have bound : row.2.sourceItem.bind start.lines.get? = some source := by
    rw [named]
    exact found
  have present := clawing.sales item source found sale
  have sale' : before.isSale source.invoice = true := by
    unfold CommissionDesk.isSale
    rw [clawing.invoices]
    exact sale
  have returned := clawing.sound.returned row.1 row.2 item stored named
  have notSale := isSale_of_isReturn returned.invoice
  have postedNow : before.isPosted row.2.invoice = true := by
    unfold CommissionDesk.isPosted
    rw [clawing.invoices, own]
    exact posted
  obtain ⟨amount, employees, result, whole⟩ := clawbackLine_eq
    (clawing.sound.sold item source present sale') returned.quantity
    (exact source bound) stored unsettled
  rw [bound, result]
  refine ⟨clawing.sound.settle distinct.1 stored named present postedNow whole,
    ?_, distinct.2, ?_, clawing.invoices⟩
  · intro other member
    obtain ⟨stored', fields⟩ :=
      clawing.rows_stored other (List.mem_cons_of_mem _ member)
    have different : other.1 ≠ row.1 := fun same =>
      distinct.1 (same ▸ List.mem_map_of_mem member)
    exact ⟨(Table.get?_modify_of_ne _ different _).trans stored', fields⟩
  · intro key line found' onSale
    have kept := clawing.sales key line found' onSale
    have different : key ≠ row.1 := by
      rintro rfl
      rw [stored, Option.some.injEq] at kept
      have sale'' : before.isSale row.2.invoice = true := by
        rw [kept]
        unfold CommissionDesk.isSale
        rw [clawing.invoices]
        exact onSale
      rw [notSale] at sale''
      cases sale''
    exact (Table.get?_modify_of_ne _ different _).trans kept

theorem Clawing.all {start : CommissionDesk} {rows : List (ℕ × CommissionLine)}
    (clawing : Clawing ret start rows before)
    (posted : start.isPosted ret = true)
    (exact : ∀ row ∈ rows, ∀ source,
      row.2.sourceItem.bind start.lines.get? = some source →
        ExactShare source row.2)
    (known : ∀ row ∈ rows, ∀ item, row.2.sourceItem = some item → ∃ source,
      start.lines.get? item = some source ∧
        start.isSale source.invoice = true) :
    SoundCommissions (rows.foldl (fun current row =>
      clawbackLine (row.2.sourceItem.bind start.lines.get?) row.1 row.2 current)
        before) := by
  induction rows generalizing before with
  | nil => exact clawing.sound
  | cons row rows induction =>
      rw [List.foldl_cons]
      exact induction
        (clawing.step posted (exact row List.mem_cons_self)
          (known row List.mem_cons_self))
        (fun other member => exact other (List.mem_cons_of_mem _ member))
        fun other member => known other (List.mem_cons_of_mem _ member)

theorem postReturnInvoice_sound
    (returned : postReturnInvoice ret before = .ok ⟨⟩ after)
    (sound : SoundCommissions before) (careful : TakesBackExactly before ret) :
    SoundCommissions after := by
  simp only [postReturnInvoice, Txn.bind_eq_ok, Txn.get_eq_ok,
    Txn.expect_eq_ok] at returned
  obtain ⟨_, _, ⟨rfl, rfl⟩, invoice, _, ⟨found, rfl⟩, rest⟩ := returned
  split at rest
  · rename_i draft
    obtain rfl := Txn.set_eq_ok.mp rest
    have waiting := sound.posted found draft.1 draft.2
    have rows : ∀ row ∈ clawbackLines
        { before with
          invoices := before.invoices.modify ret fun stored =>
            { stored with status := .posted, isApplied := true } } ret,
        before.lines.get? row.1 = some row.2 ∧ row.2.invoice = ret ∧
          row.2.sourceItem.isSome = true ∧ row.2.commissionAccrued = 0 := by
      intro row member
      rw [clawbackLines, List.mem_filter] at member
      exact ⟨Table.get?_eq_some.mpr member.1, of_decide_eq_true member.2⟩
    have clawing : Clawing ret _ _ _ :=
      ⟨waiting, rows,
        before.lines.keys_nodup.sublist (List.filter_sublist.map Prod.fst),
        fun _ _ stored _ => stored, rfl⟩
    apply clawing.all
    · simp [CommissionDesk.isPosted, found]
    · intro row member source origin
      obtain ⟨stored, own, -⟩ := rows row member
      exact careful row.1 row.2 stored own source origin
    · intro row member item named
      obtain ⟨stored, -⟩ := rows row member
      obtain ⟨source, present, applied, -⟩ :=
        (waiting.returned row.1 row.2 item stored named).source
      exact ⟨source, present, isSale_of_applied applied⟩
  · obtain ⟨-, rfl⟩ := Txn.pure_eq_ok.mp rest
    exact sound

end Posting

section Deleting

variable {before after : CommissionDesk} {pk : ℕ}

def CommissionDesk.without (desk : CommissionDesk) (pk : ℕ) :
    Table CommissionLine :=
  (desk.lines.erase pk).map fun _ other =>
    if other.sourceItem = some pk then { other with sourceItem := none } else other

theorem get?_without {key : ℕ} {line : CommissionLine}
    (found : (before.without pk).get? key = some line) :
    key ≠ pk ∧ ∃ earlier, before.lines.get? key = some earlier ∧
      line = if earlier.sourceItem = some pk then
        { earlier with sourceItem := none } else earlier := by
  unfold CommissionDesk.without at found
  rw [Table.get?_map, Option.map_eq_some_iff] at found
  obtain ⟨earlier, found, rfl⟩ := found
  obtain ⟨different, found⟩ := Table.get?_erase_eq_some.mp found
  exact ⟨different, earlier, found, rfl⟩

theorem SoundBut.delete (sound : SoundCommissions before) {line : CommissionLine}
    (stored : before.lines.get? pk = some line)
    (employees : Table EmployeeProfile) :
    SoundCommissions { before with lines := before.without pk, employees } := by
  have intact : ∀ key earlier, before.lines.get? key = some earlier → key ≠ pk →
      before.isSale earlier.invoice = true →
      (before.without pk).get? key = some earlier := by
    intro key earlier found different sale
    have sold := sound.sold key earlier found sale
    rw [CommissionDesk.without, Table.get?_map, Table.get?_erase,
      if_neg different, found, Option.map_some, sold.source]
    simp
  refine ⟨sound.applied, ?_, ?_, ?_⟩
  · intro key row found sale
    obtain ⟨-, earlier, present, rfl⟩ := get?_without found
    have same : before.isSale earlier.invoice = true := by
      split at sale
      · exact sale
      · exact sale
    have sold := sound.sold key earlier present same
    rw [sold.source, if_neg (by simp)]
    exact sold
  · intro key row item found named
    obtain ⟨-, earlier, present, rfl⟩ := get?_without found
    split at named
    · cases named
    · rename_i other
      rw [if_neg other]
      have kept := sound.returned key earlier item present named
      obtain ⟨origin, here, applied, exact⟩ := kept.source
      have different : item ≠ pk := by
        rintro rfl
        exact other named
      exact ⟨kept.invoice, kept.quantity, origin,
        intact item origin here different (isSale_of_applied applied), applied,
        exact⟩
  · intro key row found sale
    obtain ⟨different, earlier, present, rfl⟩ := get?_without found
    have same : before.isSale earlier.invoice = true := by
      split at sale
      · exact sale
      · exact sale
    have sold := sound.sold key earlier present same
    rw [sold.source, if_neg (by simp)]
    refine le_trans ?_ (sound.quantities key earlier present same)
    have removed := Table.total_erase stored fun _ other =>
      if other.sourceItem = some key then other.quantity else 0
    have cleared : ((before.without pk).total fun _ other =>
        if other.sourceItem = some key then other.quantity else 0) =
          (before.lines.erase pk).total fun _ other =>
            if other.sourceItem = some key then other.quantity else 0 := by
      unfold CommissionDesk.without
      rw [Table.total_map]
      apply Table.total_congr
      intro other row _
      by_cases own : row.sourceItem = some pk
      · simp [own, Ne.symm different]
      · simp [own]
    refine (le_of_eq (cleared.trans removed)).trans ?_
    by_cases source : line.sourceItem = some key
    · have nonneg := (sound.returned pk line key stored source).quantity
      simp only [source, if_true]
      omega
    · simp [source]

theorem deleteSaleLine_sound
    (returned : deleteSaleLine pk before = .ok ⟨⟩ after)
    (sound : SoundCommissions before) : SoundCommissions after := by
  simp only [deleteSaleLine, Txn.bind_eq_ok, Txn.get_eq_ok, Txn.expect_eq_ok,
    Txn.set_eq_ok] at returned
  obtain ⟨_, _, ⟨rfl, rfl⟩, line, _, ⟨stored, rfl⟩, rfl⟩ := returned
  exact sound.delete stored _

end Deleting

structure Unreturned (desk : CommissionDesk) : Prop where
  applied : ∀ pk invoice, desk.invoices.get? pk = some invoice →
    invoice.isReturn = false → invoice.status = .posted →
    invoice.isApplied = true
  sold : ∀ key line, desk.lines.get? key = some line → SoldLine line

theorem SoundBut.of_unreturned {desk : CommissionDesk} (fresh : Unreturned desk) :
    SoundCommissions desk where
  applied := fresh.applied
  sold key line stored _ := fresh.sold key line stored
  returned := by
    intro key line item stored named
    rw [(fresh.sold key line stored).source] at named
    cases named
  quantities := by
    intro key line stored _
    have nothing : (desk.lines.total fun _ other =>
        if other.sourceItem = some key then other.quantity else 0) = 0 := by
      apply Table.total_eq_zero
      intro other row found
      rw [(fresh.sold other row found).source]
      simp
    have quantity := (fresh.sold key line stored).quantity
    omega

theorem rollsBack_commissions (op : CommissionOp) : Txn.RollsBack op.run := by
  intro before error after failed
  cases op with
  | addLine line =>
      simp only [CommissionOp.run, addSaleLine, checkLine, Txn.bind_eq_error,
        Txn.get_eq_error, Txn.get_eq_ok, Txn.expect_eq_error, Txn.expect_eq_ok,
        Txn.require_eq_error, Txn.require_eq_ok, Txn.bind_eq_ok] at failed
      rcases failed with failed | ⟨_, _, ⟨rfl, rfl⟩, failed⟩
      · exact failed.elim
      rcases failed with failed | ⟨_, _, ⟨-, rfl⟩, failed⟩
      · exact failed.2.2.symm
      rcases failed with failed | ⟨_, _, ⟨_, _, ⟨-, rfl⟩, _, _, ⟨-, rfl⟩, -, rfl⟩,
        failed⟩
      · grind
      · split at failed
        · cases failed
        · split at failed
          · cases failed
          · cases failed
  | execute pk status =>
      simp only [CommissionOp.run, executeSale, Txn.bind_eq_error,
        Txn.get_eq_error, Txn.get_eq_ok, Txn.expect_eq_error, Txn.expect_eq_ok]
        at failed
      rcases failed with failed | ⟨_, _, ⟨rfl, rfl⟩, failed⟩
      · exact failed.elim
      rcases failed with failed | ⟨_, _, ⟨-, rfl⟩, failed⟩
      · exact failed.2.2.symm
      · split at failed
        · cases failed
        · split at failed
          · cases failed
          · cases failed
  | createReturn original items =>
      exact Txn.rollsBack_atomic _ before error after failed
  | postReturn ret =>
      simp only [CommissionOp.run, postReturnInvoice, Txn.bind_eq_error,
        Txn.get_eq_error, Txn.get_eq_ok, Txn.expect_eq_error, Txn.expect_eq_ok]
        at failed
      rcases failed with failed | ⟨_, _, ⟨rfl, rfl⟩, failed⟩
      · exact failed.elim
      rcases failed with failed | ⟨_, _, ⟨-, rfl⟩, failed⟩
      · exact failed.2.2.symm
      · split at failed
        · cases failed
        · cases failed
  | deleteLine pk =>
      simp only [CommissionOp.run, deleteSaleLine, Txn.bind_eq_error,
        Txn.get_eq_error, Txn.get_eq_ok, Txn.expect_eq_error, Txn.expect_eq_ok,
        Txn.set_eq_error] at failed
      grind

/-- The step lemma. -/
theorem SoundBut.step (op : CommissionOp) (before after : CommissionDesk)
    (sound : SoundCommissions before) (careful : op.Careful before)
    (returned : op.run before = .ok ⟨⟩ after) : SoundCommissions after := by
  cases op with
  | addLine line => exact addSaleLine_sound returned sound
  | execute pk status => exact executeSale_sound returned sound
  | createReturn original items => exact createReturnInvoice_sound returned sound
  | postReturn ret => exact postReturnInvoice_sound returned sound careful
  | deleteLine pk => exact deleteSaleLine_sound returned sound

/-- In every run whose returns take exact parts back, no more comes back than was
earned, and all of it with the whole quantity. -/
theorem commissions_bounded (desk : CommissionDesk) (ops : List CommissionOp)
    (fresh : Unreturned desk)
    (careful : Txn.Throughout CommissionOp.run CommissionOp.Careful ops desk) :
    CommissionsBounded (Txn.after CommissionOp.run ops desk) :=
  (Txn.after_of_throughout SoundCommissions rollsBack_commissions SoundBut.step
    ops desk (.of_unreturned fresh) careful).bounded

def soldAtTenth : CommissionDesk where
  invoices := Table.empty.insert
    { status := .posted, customer := 0, dateCreated := 0, isApplied := true }
  employees := Table.empty.insert { commissionRatePct := 10 }

def partsAtFive (quantity : ℤ) : CommissionLine where
  invoice := 0
  product := 0
  quantity
  unitPrice := 500
  salesperson := some 0

def backInHalves : List CommissionOp :=
  [.addLine (partsAtFive 4), .createReturn 0 [(0, 2)], .postReturn 1,
    .createReturn 0 [], .postReturn 2]

theorem commissions_bounded_halves :
    CommissionsBounded
      (Txn.after CommissionOp.run backInHalves soldAtTenth) :=
  commissions_bounded soldAtTenth backInHalves
    ⟨by decide +kernel, by decide +kernel⟩
    (Txn.throughout_of_checks (by decide +kernel))

example : clawedBack
    (Txn.after CommissionOp.run backInHalves soldAtTenth) 0 = 200 := by
  decide +kernel

/-- A commission of two pounds on three parts comes back one part at a time. -/
theorem clawback_exceeds_thirds :
    ¬ ∀ (desk : CommissionDesk) (ops : List CommissionOp), Unreturned desk →
      CommissionsBounded (Txn.after CommissionOp.run ops desk) := by
  intro always
  have bounded := always
    { soldAtTenth with
      lines := Table.empty.insert
        { partsAtFive 3 with commissionAccrued := 200 } }
    [.createReturn 0 [(0, 1)], .postReturn 1, .createReturn 0 [(0, 1)],
      .postReturn 2, .createReturn 0 [(0, 1)], .postReturn 3]
    ⟨by decide +kernel, by decide +kernel⟩
  have most := bounded.bounded 0 { partsAtFive 3 with commissionAccrued := 200 }
    (by decide +kernel) (by decide +kernel)
  exact absurd most (by decide +kernel)

end Mousstec.Sales
