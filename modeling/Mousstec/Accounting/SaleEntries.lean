import Mousstec.Accounting.LedgerFacts
import Mousstec.Sales.Invoice

/-!
# The entries of a sale invoice

A sale invoice is posted once, and every later change of its numbers is
settled by an adjustment over the difference.  The entries of an invoice that
have not been reversed therefore always add up to the lines its current
numbers call for.
-/

namespace Mousstec.Accounting

open Library Sales

/-- `_invoice_tax`: the tax inside a total that includes it. -/
def invoiceTax (invoice : SaleInvoice) : ℤ :=
  let rate := invoice.taxPercentage
  let total := invoice.totalAmount
  if rate ≤ 0 ∨ total = 0 then 0
  else q (total - total / (1 + rate / 100))

def debitLine (key : AccountKey) (amount : ℤ) : JournalLine :=
  ⟨.key key, amount, 0⟩

def creditLine (key : AccountKey) (amount : ℤ) : JournalLine :=
  ⟨.key key, 0, amount⟩

def whenPositive (amount : ℤ) (line : JournalLine) : List JournalLine :=
  if 0 < amount then [line] else []

/-- `_sale_invoice_lines`; contract work books the cost of its parts only. -/
def saleInvoiceLines (invoice : SaleInvoice) : List JournalLine :=
  let contract := invoice.maintenanceContract.isSome
  let total := if contract then 0 else invoice.totalAmount
  let cost := invoice.totalCost
  if total = 0 ∧ cost = 0 then []
  else
    let taxAmount := if contract then 0 else invoiceTax invoice
    let revenueExTax := total - taxAmount
    if invoice.isReturn then
      whenPositive revenueExTax (debitLine .salesReturns revenueExTax) ++
        whenPositive taxAmount (debitLine .vatOutput taxAmount) ++
        whenPositive total (creditLine .ar total) ++
        whenPositive cost (debitLine .inventory cost) ++
        whenPositive cost (creditLine .cogs cost)
    else
      whenPositive total (debitLine .ar total) ++
        whenPositive revenueExTax (creditLine .salesRevenue revenueExTax) ++
        whenPositive taxAmount (creditLine .vatOutput taxAmount) ++
        whenPositive cost (debitLine .cogs cost) ++
        whenPositive cost (creditLine .inventory cost)

def isLive (pk : ℕ) (entry : JournalEntry) : Bool :=
  entry.source = some (.saleInvoice pk) ∧
    (entry.journalType = .sales ∨ entry.journalType = .adjustment) ∧
    entry.status ≠ .reversed

def hasSalesEntry (books : Books) (pk : ℕ) : Bool :=
  books.entries.rows.any fun row =>
    isLive pk row.2 ∧ row.2.journalType = .sales

/-- `post_sale_invoice`; posting twice is a no-op. -/
def postSaleInvoice (pk : ℕ) (invoice : SaleInvoice) :
    LedgerTxn (Option ℕ) := do
  let books ← get
  if hasSalesEntry books pk then pure none
  else
    let lines := saleInvoiceLines invoice
    if lines = [] then pure none
    else
      postJournal
        { lines
          date := some invoice.dateCreated
          journalType := .sales
          reference := .saleInvoice pk
          source := some (.saleInvoice pk) }

def lineTargets : List JournalLine → LedgerTxn (List (Account × ℤ))
  | [] => pure []
  | line :: rest => do
      let acct ← account line.account
      let target ← lineTargets rest
      pure ((acct, q line.debit - q line.credit) :: target)

def liveAccounts (books : Books) (pk : ℕ) : List Account :=
  (books.entries.rows.filter fun row => isLive pk row.2).flatMap fun row =>
    row.2.lines.map Posting.account

def liveNet (books : Books) (pk : ℕ) (acct : Account) : ℤ :=
  books.netOf (fun _ entry => isLive pk entry) acct

/-- `sync_sale_invoice`. -/
def syncSaleInvoice (pk : ℕ) (invoice : SaleInvoice) :
    LedgerTxn (Option ℕ) := do
  if ¬ (invoice.status = .posted ∨ invoice.isApplied = true) then pure none
  else do
    let books ← get
    if hasSalesEntry books pk = false then postSaleInvoice pk invoice
    else do
      let target ← lineTargets (saleInvoiceLines invoice)
      let books ← get
      let accounts := (target.map Prod.fst ++ liveAccounts books pk).eraseDups
      let adj := settle accounts (tally target) (liveNet books pk)
      if adj = [] then pure none
      else
        postJournal
          { lines := adj.map JournalLine.ofPosting
            journalType := .adjustment
            reference := .saleInvoiceAdjustment pk
            source := some (.saleInvoice pk) }

theorem invoiceTax_bounds (invoice : SaleInvoice) :
    (0 ≤ invoice.totalAmount →
        0 ≤ invoiceTax invoice ∧ invoiceTax invoice ≤ invoice.totalAmount) ∧
      (invoice.totalAmount ≤ 0 →
        invoice.totalAmount ≤ invoiceTax invoice ∧ invoiceTax invoice ≤ 0) := by
  unfold invoiceTax
  by_cases exempt : invoice.taxPercentage ≤ 0 ∨ invoice.totalAmount = 0
  · simp [exempt]
  · simp only [exempt, if_false]
    rw [not_or, not_le] at exempt
    have divisor : (1 : ℚ) ≤ 1 + invoice.taxPercentage / 100 := by
      have rate := exempt.1
      linarith
    have positive : (0 : ℚ) < 1 + invoice.taxPercentage / 100 := by linarith
    constructor
    · intro sign
      have total : (0 : ℚ) ≤ (invoice.totalAmount : ℚ) := by exact_mod_cast sign
      have below : (invoice.totalAmount : ℚ) / (1 + invoice.taxPercentage / 100) ≤
          invoice.totalAmount := div_le_self total divisor
      have above : (0 : ℚ) ≤
          (invoice.totalAmount : ℚ) / (1 + invoice.taxPercentage / 100) :=
        div_nonneg total positive.le
      exact ⟨roundHalfUp_nearest.nonneg (by linarith),
        roundHalfUp_nearest.le_whole (by linarith)⟩
    · intro sign
      have total : (invoice.totalAmount : ℚ) ≤ 0 := by exact_mod_cast sign
      have above : (invoice.totalAmount : ℚ) ≤
          invoice.totalAmount / (1 + invoice.taxPercentage / 100) := by
        rw [le_div_iff₀ positive]
        nlinarith
      have below : (invoice.totalAmount : ℚ) / (1 + invoice.taxPercentage / 100) ≤
          0 := div_nonpos_of_nonpos_of_nonneg total positive.le
      refine ⟨roundHalfUp_nearest.whole_le (by linarith), ?_⟩
      apply roundHalfUp_nearest.le_whole
      push_cast
      linarith

theorem signedTotal_debit (amount : ℤ) (key : AccountKey) :
    signedTotal (whenPositive amount (debitLine key amount)) = max amount 0 := by
  unfold whenPositive
  split
  · simp [signedTotal, debitLine]
    omega
  · simp [signedTotal]
    omega

theorem signedTotal_credit (amount : ℤ) (key : AccountKey) :
    signedTotal (whenPositive amount (creditLine key amount)) =
      -max amount 0 := by
  unfold whenPositive
  split
  · simp [signedTotal, creditLine]
    omega
  · simp [signedTotal]
    omega

theorem saleInvoiceLines_balance (invoice : SaleInvoice) :
    totalDebit (postings (saleInvoiceLines invoice)) =
      totalCredit (postings (saleInvoiceLines invoice)) := by
  have bounds := invoiceTax_bounds invoice
  have flat : signedTotal (saleInvoiceLines invoice) = 0 := by
    unfold saleInvoiceLines
    cases contract : invoice.maintenanceContract.isSome with
    | true =>
        cases isReturn : invoice.isReturn
        all_goals
          simp only [if_true, Bool.false_eq_true, if_false]
          split
          · rfl
          · simp only [signedTotal_append, signedTotal_debit,
              signedTotal_credit]
            omega
    | false =>
        cases isReturn : invoice.isReturn
        all_goals
          simp only [if_true, Bool.false_eq_true, if_false]
          split
          · rfl
          · simp only [signedTotal_append, signedTotal_debit,
              signedTotal_credit]
            omega
  have difference := totalDebit_sub_totalCredit_postings (saleInvoiceLines invoice)
  omega

def AccountRef.IsKey : AccountRef → Prop
  | .key _ => True
  | _ => False

theorem mem_saleInvoiceLines {invoice : SaleInvoice} {line : JournalLine}
    (member : line ∈ saleInvoiceLines invoice) :
    line.account.IsKey ∧ line.posting? ≠ none := by
  have written : ∀ (amount : ℤ) (key : AccountKey),
      (line ∈ whenPositive amount (debitLine key amount) →
          line.account.IsKey ∧ line.posting? ≠ none) ∧
        (line ∈ whenPositive amount (creditLine key amount) →
          line.account.IsKey ∧ line.posting? ≠ none) := by
    intro amount key
    unfold whenPositive
    split
    · rename_i positive
      have nonzero : amount ≠ 0 := by omega
      constructor
      · intro listed
        rw [List.mem_singleton] at listed
        subst listed
        simp [debitLine, AccountRef.IsKey, JournalLine.posting?, nonzero]
      · intro listed
        rw [List.mem_singleton] at listed
        subst listed
        simp [creditLine, AccountRef.IsKey, JournalLine.posting?, nonzero]
    · simp
  unfold saleInvoiceLines at member
  cases isReturn : invoice.isReturn
  all_goals
    simp only [isReturn, if_true, Bool.false_eq_true, if_false] at member
    by_cases empty : (if invoice.maintenanceContract.isSome = true then 0
        else invoice.totalAmount) = 0 ∧ invoice.totalCost = 0
  · simp [empty] at member
  · rw [if_neg empty] at member
    simp only [List.mem_append] at member
    rcases member with (((first | second) | third) | fourth) | fifth
    · exact (written _ _).1 first
    · exact (written _ _).2 second
    · exact (written _ _).2 third
    · exact (written _ _).1 fourth
    · exact (written _ _).2 fifth
  · simp [empty] at member
  · rw [if_neg empty] at member
    simp only [List.mem_append] at member
    rcases member with (((first | second) | third) | fourth) | fifth
    · exact (written _ _).1 first
    · exact (written _ _).1 second
    · exact (written _ _).2 third
    · exact (written _ _).1 fourth
    · exact (written _ _).2 fifth

theorem saleInvoiceLines_eq_nil {invoice : SaleInvoice}
    (nothing : postings (saleInvoiceLines invoice) = []) :
    saleInvoiceLines invoice = [] := by
  rw [List.eq_nil_iff_forall_not_mem]
  intro line member
  rw [postings, List.filterMap_eq_nil_iff] at nothing
  exact (mem_saleInvoiceLines member).2 (nothing line member)

theorem lineTargets_ok {lines : List JournalLine}
    (keys : ∀ line ∈ lines, line.account.IsKey) (before : Books) :
    ∃ target after, lineTargets lines before = .ok target after ∧
      ChartOnly before after ∧
      ∀ acct, tally target acct = net (postings lines) acct := by
  induction lines generalizing before with
  | nil => exact ⟨[], before, rfl, .refl _, fun _ => rfl⟩
  | cons line rest induction =>
      have first := keys line List.mem_cons_self
      obtain ⟨middle, resolved, grown⟩ : ∃ middle,
          account line.account before = .ok line.account.account middle ∧
            ChartOnly before middle := by
        cases named : line.account with
        | key logical =>
            exact ⟨_, rfl, chartOnly_getOrCreate before (allowedType_key logical)⟩
        | code raw => simp [named, AccountRef.IsKey] at first
        | row stored => simp [named, AccountRef.IsKey] at first
      obtain ⟨target, after, returned, later, sums⟩ :=
        induction (fun other member => keys other (List.mem_cons_of_mem _ member))
          middle
      refine ⟨(line.account.account, q line.debit - q line.credit) :: target,
        after, ?_, grown.trans later, ?_⟩
      · simp only [lineTargets, Txn.bind_eq_ok, Txn.pure_eq_ok]
        exact ⟨_, middle, resolved, _, after, returned, rfl, rfl⟩
      · intro acct
        have rest := sums acct
        rw [net_postings] at rest ⊢
        rw [tally_cons, rest, List.map_cons, List.sum_cons]

theorem hasSalesEntry_iff {books : Books} {pk : ℕ} :
    hasSalesEntry books pk = true ↔
      ∃ key entry, books.entries.get? key = some entry ∧
        isLive pk entry = true ∧ entry.journalType = .sales := by
  unfold hasSalesEntry
  rw [List.any_eq_true]
  constructor
  · rintro ⟨row, member, live⟩
    exact ⟨row.1, row.2, Table.get?_eq_some.mpr member, by simpa using live⟩
  · rintro ⟨key, entry, stored, live⟩
    exact ⟨(key, entry), Table.get?_eq_some.mp stored, by simpa using live⟩

/-- An invoice without a sales entry has no counting entries at all. -/
def SalesFirst (pk : ℕ) (books : Books) : Prop :=
  hasSalesEntry books pk = false →
    ∀ key entry, books.entries.get? key = some entry → isLive pk entry = false

theorem liveNet_eq_zero {books : Books} {pk : ℕ} {acct : Account}
    (none : ∀ key entry, books.entries.get? key = some entry →
      isLive pk entry = false) : liveNet books pk acct = 0 := by
  unfold liveNet Books.netOf
  apply Table.total_eq_zero
  intro key entry stored
  simp [none key entry stored]

theorem liveNet_of_absent {books : Books} {pk : ℕ} {acct : Account}
    (absent : acct ∉ liveAccounts books pk) : liveNet books pk acct = 0 := by
  unfold liveNet Books.netOf
  apply Table.total_eq_zero
  intro key entry stored
  by_cases live : isLive pk entry = true
  · rw [if_pos live]
    apply net_eq_zero
    intro line member same
    apply absent
    rw [liveAccounts, List.mem_flatMap]
    refine ⟨(key, entry), ?_, List.mem_map.mpr ⟨line, member, same⟩⟩
    rw [List.mem_filter]
    exact ⟨Table.get?_eq_some.mp stored, live⟩
  · rw [if_neg live]

def JournalEntry.amounts (entry : JournalEntry) :
    JournalType × List (Posting Account) :=
  (entry.journalType, entry.lines)

/-- The counting entries of an invoice keep their types and lines; they may be
moved to another day. -/
def SameLive (pk : ℕ) (before after : Books) : Prop :=
  ∀ key, ((after.entries.get? key).filter (isLive pk)).map
      JournalEntry.amounts =
    ((before.entries.get? key).filter (isLive pk)).map JournalEntry.amounts

namespace SameLive

variable {pk : ℕ} {before after : Books}

theorem symm (same : SameLive pk before after) : SameLive pk after before :=
  fun key => (same key).symm

theorem of_chartOnly (grown : ChartOnly before after) :
    SameLive pk before after := by
  intro key
  rw [grown.entries]

theorem liveNet (same : SameLive pk before after) (acct : Account) :
    liveNet after pk acct = Accounting.liveNet before pk acct :=
  Table.total_eq_of_view
    (fun _ (figure : JournalType × List (Posting Account)) =>
      net figure.2 acct) same

theorem live (same : SameLive pk before after) {key : ℕ} {entry : JournalEntry}
    (stored : after.entries.get? key = some entry)
    (counts : isLive pk entry = true) :
    ∃ old, before.entries.get? key = some old ∧ isLive pk old = true ∧
      old.journalType = entry.journalType := by
  have agree := same key
  rw [stored, Option.filter_some, if_pos counts, Option.map_some] at agree
  obtain ⟨old, found, figures⟩ := Option.map_eq_some_iff.mp agree.symm
  rw [Option.filter_eq_some_iff] at found
  exact ⟨old, found.1, found.2, congrArg Prod.fst figures⟩

theorem hasSalesEntry (same : SameLive pk before after)
    (sales : hasSalesEntry before pk = true) :
    Accounting.hasSalesEntry after pk = true := by
  rw [hasSalesEntry_iff] at sales ⊢
  obtain ⟨key, entry, stored, counts, sales⟩ := sales
  obtain ⟨old, found, live, type⟩ := same.symm.live stored counts
  exact ⟨key, old, found, live, type.trans sales⟩

theorem salesFirst (same : SameLive pk before after)
    (first : SalesFirst pk before) : SalesFirst pk after := by
  intro missing key entry stored
  by_contra counts
  rw [Bool.not_eq_false] at counts
  obtain ⟨old, found, live, -⟩ := same.live stored counts
  have none : Accounting.hasSalesEntry before pk = false := by
    by_contra present
    rw [Bool.not_eq_false] at present
    rw [same.hasSalesEntry present] at missing
    cases missing
  rw [first none key old found] at live
  cases live

end SameLive

/-- The ledger shows the invoice's current numbers. -/
structure Shows (pk : ℕ) (invoice : SaleInvoice) (books : Books) : Prop where
  sums : ∀ acct, liveNet books pk acct =
    net (postings (saleInvoiceLines invoice)) acct
  first : SalesFirst pk books
  posted : hasSalesEntry books pk = false → saleInvoiceLines invoice = []

theorem Shows.of_sameLive {pk : ℕ} {invoice : SaleInvoice}
    {before after : Books} (shows : Shows pk invoice before)
    (same : SameLive pk before after) : Shows pk invoice after where
  sums acct := by rw [same.liveNet, shows.sums]
  first := same.salesFirst shows.first
  posted missing := by
    apply shows.posted
    by_contra present
    rw [Bool.not_eq_false] at present
    rw [same.hasSalesEntry present] at missing
    cases missing

private theorem liveNet_posted {pk : ℕ} {draft : JournalDraft}
    {before after : Books} {entry : JournalEntry}
    (posted : Posted draft before after entry)
    (source : draft.source = some (.saleInvoice pk))
    (accrual : draft.journalType = .sales ∨ draft.journalType = .adjustment)
    (standing : draft.status = .posted) (acct : Account) :
    isLive pk entry = true ∧
      liveNet after pk acct =
        liveNet before pk acct + net (postings draft.lines) acct := by
  have live : isLive pk entry = true := by
    simp [isLive, posted.source, source, posted.journalType, accrual,
      posted.status, standing]
  refine ⟨live, ?_⟩
  have sum := posted.netOf (fun _ entry => isLive pk entry) acct
  rw [if_pos live] at sum
  exact sum

private theorem hasSalesEntry_posted {pk : ℕ} {draft : JournalDraft}
    {before after : Books} {entry : JournalEntry}
    (posted : Posted draft before after entry)
    (sales : hasSalesEntry before pk = true) :
    hasSalesEntry after pk = true := by
  rw [hasSalesEntry_iff] at sales ⊢
  obtain ⟨key, old, stored, counts⟩ := sales
  refine ⟨key, old, ?_, counts⟩
  rw [posted.entries, Table.get?_insert_of_some stored]

/-- With a sales entry in the books only the sum is left to check. -/
private theorem Shows.of_hasSalesEntry {pk : ℕ} {invoice : SaleInvoice}
    {books : Books} (sales : hasSalesEntry books pk = true)
    (sums : ∀ acct, liveNet books pk acct =
      net (postings (saleInvoiceLines invoice)) acct) :
    Shows pk invoice books where
  sums
  first missing := by
    rw [sales] at missing
    cases missing
  posted missing := by
    rw [sales] at missing
    cases missing

/-- The first posting of an invoice writes exactly its lines. -/
theorem postSaleInvoice_shows {pk : ℕ} {invoice : SaleInvoice}
    {result : Option ℕ} {before after : Books}
    (missing : hasSalesEntry before pk = false) (first : SalesFirst pk before)
    (returned : postSaleInvoice pk invoice before = .ok result after) :
    Shows pk invoice after := by
  have blank : ∀ acct, liveNet before pk acct = 0 :=
    fun _ => liveNet_eq_zero (first missing)
  simp only [postSaleInvoice, Txn.bind_eq_ok, Txn.get_eq_ok] at returned
  obtain ⟨_, _, ⟨rfl, rfl⟩, returned⟩ := returned
  simp only [missing, Bool.false_eq_true, if_false] at returned
  split at returned
  · rename_i nothing
    obtain ⟨_, rfl⟩ := Txn.pure_eq_ok.mp returned
    exact ⟨fun acct => by rw [blank, nothing]; rfl, first, fun _ => nothing⟩
  · rcases postJournal_returns returned with
      ⟨_, nothing, grown⟩ | ⟨entry, _, posted⟩
    · have same : SameLive pk before after := .of_chartOnly grown
      exact
        { sums := fun acct => by rw [same.liveNet, blank, nothing]; rfl
          first := same.salesFirst first
          posted := fun _ => saleInvoiceLines_eq_nil nothing }
    · have sums := liveNet_posted posted rfl (.inl rfl) rfl
      refine .of_hasSalesEntry ?_ fun acct => by
        rw [(sums acct).2, blank, zero_add]
      rw [hasSalesEntry_iff]
      refine ⟨before.entries.next, entry, ?_, (sums "").1, posted.journalType⟩
      rw [posted.entries, Table.get?_insert_next]

/-- Work on an invoice is in the books: it is posted or its stock was taken
out. -/
def SaleInvoice.Active (invoice : SaleInvoice) : Prop :=
  invoice.status = .posted ∨ invoice.isApplied = true

theorem syncSaleInvoice_shows {pk : ℕ} {invoice : SaleInvoice}
    {result : Option ℕ} {before after : Books} (active : SaleInvoice.Active invoice)
    (first : SalesFirst pk before)
    (returned : syncSaleInvoice pk invoice before = .ok result after) :
    Shows pk invoice after := by
  unfold SaleInvoice.Active at active
  simp only [syncSaleInvoice, active, not_true_eq_false, if_false,
    Txn.bind_eq_ok, Txn.get_eq_ok] at returned
  obtain ⟨_, _, ⟨rfl, rfl⟩, returned⟩ := returned
  split at returned
  · rename_i missing
    exact postSaleInvoice_shows missing first returned
  · rename_i present
    rw [Bool.not_eq_false] at present
    obtain ⟨target, middle, resolved, grown, sums⟩ :=
      lineTargets_ok (fun line (member : line ∈ saleInvoiceLines invoice) =>
        (mem_saleInvoiceLines member).1) before
    simp only [Txn.bind_eq_ok, resolved, EStateM.Result.ok.injEq,
      Txn.get_eq_ok] at returned
    obtain ⟨_, _, ⟨rfl, rfl⟩, _, _, ⟨rfl, rfl⟩, returned⟩ := returned
    have present : hasSalesEntry middle pk = true :=
      (SameLive.of_chartOnly grown).hasSalesEntry present
    have settled : ∀ acct, liveNet middle pk acct +
        net (settle (target.map Prod.fst ++ liveAccounts middle pk).eraseDups
          (tally target) (liveNet middle pk)) acct =
        net (postings (saleInvoiceLines invoice)) acct := by
      intro acct
      rw [← sums]
      refine net_settle_add (nodup_eraseDups _) _ (liveNet middle pk) ?_ acct
      intro other absent
      rw [List.mem_eraseDups, List.mem_append, not_or] at absent
      rw [tally_eq_zero absent.1, liveNet_of_absent absent.2]
    split at returned
    · rename_i nothing
      obtain ⟨_, rfl⟩ := Txn.pure_eq_ok.mp returned
      refine .of_hasSalesEntry present fun acct => ?_
      rw [← settled, nothing, net_nil, add_zero]
    · rcases postJournal_returns returned with
        ⟨_, nothing, later⟩ | ⟨entry, _, posted⟩
      · have same : SameLive pk middle after := .of_chartOnly later
        refine .of_hasSalesEntry (same.hasSalesEntry present) fun acct => ?_
        rw [same.liveNet, ← settled, ← net_postings_ofPosting, nothing, net_nil,
          add_zero]
      · refine .of_hasSalesEntry (hasSalesEntry_posted posted present)
          fun acct => ?_
        rw [(liveNet_posted posted rfl (.inr rfl) rfl acct).2,
          net_postings_ofPosting, settled]

theorem syncSaleInvoice_settled {pk : ℕ} {invoice : SaleInvoice}
    {books : Books} (active : SaleInvoice.Active invoice)
    (shows : Shows pk invoice books) :
    ∃ again, syncSaleInvoice pk invoice books = .ok none again ∧
      ChartOnly books again := by
  unfold SaleInvoice.Active at active
  by_cases missing : hasSalesEntry books pk = false
  · have nothing := shows.posted missing
    refine ⟨books, ?_, .refl _⟩
    simp only [syncSaleInvoice, active, not_true_eq_false, if_false,
      Txn.get_bind, missing, if_true, postSaleInvoice, Bool.false_eq_true,
      nothing]
    rfl
  · obtain ⟨target, again, resolved, grown, sums⟩ :=
      lineTargets_ok (fun line (member : line ∈ saleInvoiceLines invoice) =>
        (mem_saleInvoiceLines member).1) books
    refine ⟨again, ?_, grown⟩
    have nothing : settle
        (target.map Prod.fst ++ liveAccounts again pk).eraseDups
        (tally target) (liveNet again pk) = [] := by
      rw [settle_eq_nil]
      intro acct _
      rw [sums, (SameLive.of_chartOnly grown).liveNet, shows.sums]
    simp only [syncSaleInvoice, active, not_true_eq_false, if_false,
      Txn.get_bind, missing, Bool.true_eq_false]
    rw [Txn.bind_eq_ok]
    refine ⟨target, again, resolved, ?_⟩
    rw [Txn.get_bind, if_pos nothing]
    rfl

theorem syncSaleInvoice_raises {pk : ℕ} {invoice : SaleInvoice}
    {raised : LedgerError} {before after : Books}
    (failed : syncSaleInvoice pk invoice before = .error raised after) :
    ChartOnly before after := by
  simp only [syncSaleInvoice] at failed
  split at failed
  · exact (Txn.pure_eq_error failed).elim
  · rw [Txn.get_bind] at failed
    split at failed
    · simp only [postSaleInvoice, Txn.get_bind] at failed
      split at failed
      · exact (Txn.pure_eq_error failed).elim
      · split at failed
        · exact (Txn.pure_eq_error failed).elim
        · exact postJournal_raises failed
    · obtain ⟨target, middle, resolved, grown, -⟩ :=
        lineTargets_ok (fun line (member : line ∈ saleInvoiceLines invoice) =>
          (mem_saleInvoiceLines member).1) before
      simp only [Txn.bind_eq_error, resolved, EStateM.Result.ok.injEq,
        reduceCtorEq, false_or, Txn.get_eq_error, Txn.get_eq_ok] at failed
      obtain ⟨_, _, ⟨rfl, rfl⟩, _, _, ⟨rfl, rfl⟩, failed⟩ := failed
      split at failed
      · exact (Txn.pure_eq_error failed).elim
      · exact grown.trans (postJournal_raises failed)

/-- The life of an invoice's entries, with the numbers last synchronised.
The invoice may be saved with any other numbers between two calls; elsewhere,
documents post, days pass and periods close, and entries of the invoice may be
moved to another day. -/
inductive InvoiceRun (pk : ℕ) (start : Books) :
    Books → Option SaleInvoice → Prop where
  | start : InvoiceRun pk start start none
  | synced (run : InvoiceRun pk start before last)
      (active : SaleInvoice.Active invoice)
      (returned : syncSaleInvoice pk invoice before = .ok result after) :
      InvoiceRun pk start after (some invoice)
  | refused (run : InvoiceRun pk start before last)
      (failed : syncSaleInvoice pk invoice before = .error raised after) :
      InvoiceRun pk start after last
  | elsewhere (run : InvoiceRun pk start before last)
      (same : SameLive pk before after) :
      InvoiceRun pk start after last

private theorem InvoiceRun.shows {pk : ℕ} {start final : Books}
    {last : Option SaleInvoice} (run : InvoiceRun pk start final last)
    (fresh : SalesFirst pk start) :
    SalesFirst pk final ∧ ∀ invoice, last = some invoice →
      SaleInvoice.Active invoice ∧ Shows pk invoice final := by
  induction run with
  | start =>
      refine ⟨fresh, ?_⟩
      intro invoice last
      cases last
  | synced run active returned induction =>
      have shows := syncSaleInvoice_shows active induction.1 returned
      refine ⟨shows.first, ?_⟩
      intro invoice last
      cases last
      exact ⟨active, shows⟩
  | @refused before _ _ _ after run failed induction =>
      have same : SameLive pk before after :=
        .of_chartOnly (syncSaleInvoice_raises failed)
      refine ⟨same.salesFirst induction.1, ?_⟩
      intro invoice last
      obtain ⟨active, shows⟩ := induction.2 invoice last
      exact ⟨active, shows.of_sameLive same⟩
  | elsewhere run same induction =>
      refine ⟨same.salesFirst induction.1, ?_⟩
      intro invoice last
      obtain ⟨active, shows⟩ := induction.2 invoice last
      exact ⟨active, shows.of_sameLive same⟩

/-- After any run the counting entries of an invoice add up to the lines of
the numbers last synchronised, which balance, and another synchronisation
posts nothing. -/
theorem syncSaleInvoice_convergence (pk : ℕ) (start : Books)
    (fresh : ∀ key entry, start.entries.get? key = some entry →
      isLive pk entry = false) :
    (∀ invoice, totalDebit (postings (saleInvoiceLines invoice)) =
      totalCredit (postings (saleInvoiceLines invoice))) ∧
    ∀ final invoice, InvoiceRun pk start final (some invoice) →
      (∀ acct, liveNet final pk acct =
        net (postings (saleInvoiceLines invoice)) acct) ∧
      ∃ again, syncSaleInvoice pk invoice final = .ok none again ∧
        again.entries = final.entries := by
  refine ⟨saleInvoiceLines_balance, ?_⟩
  intro final invoice run
  obtain ⟨active, shows⟩ := (run.shows fun _ => fresh).2 invoice rfl
  obtain ⟨again, returned, grown⟩ := syncSaleInvoice_settled active shows
  exact ⟨shows.sums, again, returned, grown.entries⟩

def freshBooks : Books where
  chart := Chart.empty
  periods := .empty
  entries := .empty
  today := 0

def deliveredSale : SaleInvoice where
  status := .posted
  customer := 0
  dateCreated := 0
  taxPercentage := 14
  totalAmount := 11400
  totalCost := 6000

def discountedSale : SaleInvoice :=
  { deliveredSale with totalAmount := 10260 }

def deliveredBooks : Books :=
  (syncSaleInvoice 0 deliveredSale).final freshBooks

def discountedBooks : Books :=
  (syncSaleInvoice 0 discountedSale).final deliveredBooks

/-- Posted at 114.00 and synchronised again at 102.60, the invoice shows
90.00 of revenue. -/
theorem syncSaleInvoice_convergence_discount :
    liveNet discountedBooks 0 AccountKey.salesRevenue.code = -9000 := by
  have delivered : syncSaleInvoice 0 deliveredSale freshBooks =
      .ok (some 0) deliveredBooks :=
    Txn.eq_ok_of_result? (by decide +kernel)
  have discounted : syncSaleInvoice 0 discountedSale deliveredBooks =
      .ok (some 1) discountedBooks :=
    Txn.eq_ok_of_result? (by decide +kernel)
  have run : InvoiceRun 0 freshBooks discountedBooks (some discountedSale) :=
    .synced (.synced .start (.inl rfl) delivered) (.inl rfl) discounted
  have converged := (syncSaleInvoice_convergence 0 freshBooks
    (by intro key entry stored; cases stored)).2 _ _ run
  rw [converged.1]
  decide +kernel

/-- A quotation has lines, but synchronising it posts none of them. -/
theorem syncSaleInvoice_skips_quotation :
    ¬ ∀ (pk : ℕ) (invoice : SaleInvoice) (result : Option ℕ)
        (before after : Books),
      (∀ key entry, before.entries.get? key = some entry →
        isLive pk entry = false) →
      syncSaleInvoice pk invoice before = .ok result after →
      ∀ acct, liveNet after pk acct =
        net (postings (saleInvoiceLines invoice)) acct := by
  intro converges
  have sum := converges 0 { deliveredSale with status := .quotation } none
    freshBooks freshBooks (by intro key entry stored; cases stored) rfl
    AccountKey.ar.code
  revert sum
  decide +kernel

end Mousstec.Accounting
