import Mousstec.Accounting.LedgerFacts

/-!
# Synchronising a printing document with the ledger

A printing document has one stable reference, and `sync` makes the entries
under that reference add up to the document's target.  While all of them are
in open periods they are rewritten; once one is locked, only the difference is
posted; when just the day changed, they are moved.
-/

namespace Mousstec.Printing

open Library Accounting

/-- The logical keys of `PRINT_ACCOUNTS`. -/
inductive PrintAccountKey where
  | cash
  | bank
  | transfer
  | ar
  | chequesReceivable
  | employeeAdvances
  | materials
  | wip
  | vatInput
  | supplierAdvances
  | whtReceivable
  | fixedAssets
  | accumDepreciation
  | assetDisposal
  | ap
  | chequesPayable
  | salariesPayable
  | vatOutput
  | vatSettlement
  | whtPayable
  | customerDeposits
  | capital
  | openingEquity
  | revenue
  | salesReturns
  | assetGain
  | otherIncome
  | cogs
  | materialsExpense
  | otherExpense
  | salaries
  | variance
  | spoilage
  | rent
  | utilities
  | shipping
  | maintenance
  | marketing
  | depreciation
  | assetLoss
  | badDebts
  | discountAllowed
  deriving DecidableEq

def PRINT_ACCOUNTS : PrintAccountKey → Account × AccountType
  | .cash => ("1001", .asset)
  | .bank => ("1002", .asset)
  | .transfer => ("1090", .asset)
  | .ar => ("1100", .asset)
  | .chequesReceivable => ("1120", .asset)
  | .employeeAdvances => ("1150", .asset)
  | .materials => ("1200", .asset)
  | .wip => ("1220", .asset)
  | .vatInput => ("1250", .asset)
  | .supplierAdvances => ("1260", .asset)
  | .whtReceivable => ("1270", .asset)
  | .fixedAssets => ("1300", .asset)
  | .accumDepreciation => ("1390", .asset)
  | .assetDisposal => ("1395", .asset)
  | .ap => ("2100", .liability)
  | .chequesPayable => ("2130", .liability)
  | .salariesPayable => ("2150", .liability)
  | .vatOutput => ("2200", .liability)
  | .vatSettlement => ("2210", .liability)
  | .whtPayable => ("2230", .liability)
  | .customerDeposits => ("2400", .liability)
  | .capital => ("3001", .equity)
  | .openingEquity => ("3005", .equity)
  | .revenue => ("4010", .revenue)
  | .salesReturns => ("4090", .revenue)
  | .assetGain => ("4095", .revenue)
  | .otherIncome => ("4099", .revenue)
  | .cogs => ("5001", .expense)
  | .materialsExpense => ("5003", .expense)
  | .otherExpense => ("5099", .expense)
  | .salaries => ("5100", .expense)
  | .variance => ("5160", .expense)
  | .spoilage => ("5170", .expense)
  | .rent => ("5201", .expense)
  | .utilities => ("5202", .expense)
  | .shipping => ("5300", .expense)
  | .maintenance => ("5400", .expense)
  | .marketing => ("5500", .expense)
  | .depreciation => ("5600", .expense)
  | .assetLoss => ("5650", .expense)
  | .badDebts => ("5800", .expense)
  | .discountAllowed => ("5820", .expense)

/-- How a target names an account: a key of `PRINT_ACCOUNTS` or a row of the
chart. -/
inductive PrintAccountRef where
  | key (key : PrintAccountKey)
  | row (code : Account)
  deriving DecidableEq

def PrintAccountRef.account : PrintAccountRef → Account
  | .key logical => (PRINT_ACCOUNTS logical).1
  | .row stored => stored

/-- `account` of the printing ledger: a row is taken as it is, a key is
resolved by the accounting service. -/
def account : PrintAccountRef → LedgerTxn Account
  | .key logical =>
      getOrCreateAccount (PRINT_ACCOUNTS logical).1 (PRINT_ACCOUNTS logical).2
  | .row stored => pure stored

abbrev Target := List (PrintAccountRef × ℚ)

def existing (books : Books) (reference : Reference) : List (ℕ × JournalEntry) :=
  books.entries.rows.filter fun row => row.2.reference = reference

/-- The accounts `_ledger_by_account` has a row for. -/
def ledgerAccounts (books : Books) (reference : Reference) : List Account :=
  (existing books reference).flatMap fun row => row.2.lines.map Posting.account

/-- `_ledger_by_account`: debit minus credit under a reference. -/
def ledgerByAccount (books : Books) (reference : Reference) (acct : Account) :
    ℤ :=
  books.netOf (fun _ entry => entry.reference = reference) acct

def wantedAmounts : Target → LedgerTxn (List (Account × ℤ))
  | [] => pure []
  | (key, amount) :: rest =>
      if q amount = 0 then wantedAmounts rest
      else do
        let acct ← account key
        let wanted ← wantedAmounts rest
        pure ((acct, q amount) :: wanted)

def redate (reference : Reference) (day : ℤ) (period : Option ℕ)
    (entry : JournalEntry) : JournalEntry :=
  if entry.reference = reference ∧ entry.date ≠ day then
    { entry with date := day, period }
  else entry

/-- `_move_dates`: moves the entries of a document to another day, if they and
that day are all in open periods. -/
def moveDates (reference : Reference) (day : ℤ) : LedgerTxn PUnit := do
  let books ← get
  let entries := (existing books reference).filter fun row => row.2.date ≠ day
  if entries = [] ∨ (entries.all fun row => isOpen books row.2) = false then
    pure ⟨⟩
  else
    let period := forDate books day
    if isOpenPeriod (period.map Prod.snd) then
      set { books with
        entries := books.entries.map fun _ =>
          redate reference day (period.map Prod.fst) }
    else pure ⟨⟩

def followDate (reference : Reference) (books : Books) :
    Option ℤ → LedgerTxn PUnit
  | some day =>
      if ledgerAccounts books reference ≠ [] then moveDates reference day
      else pure ⟨⟩
  | none => pure ⟨⟩

/-- `_sync`: posts what is missing and returns the new entry, if any. -/
def syncEntries (reference : Reference) (target : Target)
    (journalType : JournalType) (date : Option ℤ) :
    LedgerTxn (Option ℕ) := do
  let wanted ← wantedAmounts target
  let books ← get
  let current := ledgerByAccount books reference
  let accounts :=
    (wanted.map Prod.fst ++ ledgerAccounts books reference).eraseDups
  if ∀ acct ∈ accounts, tally wanted acct - current acct = 0 then do
    followDate reference books date
    pure none
  else
    Txn.atomic do
      if ∀ row ∈ existing books reference, isOpen books row.2 = true then do
        -- Every period is open: the entry is written again, on its own day.
        forM (existing books reference) fun row =>
          modify fun books => books.deleteEntry row.1
        let lines :=
          settle (wanted.map Prod.fst).eraseDups (tally wanted) fun _ => 0
        if lines = [] then pure none
        else
          postJournal
            { lines := lines.map JournalLine.ofPosting
              journalType
              date := date.map (openDate books)
              reference }
      else
        -- An entry is locked: only the difference, dated today.
        postJournal
          { lines :=
              (settle accounts (tally wanted) current).map JournalLine.ofPosting
            journalType := .adjustment
            reference }

/-- The branch tag of one entry after `_tag_branch`; a locked entry keeps the
tag it has. -/
def retag (books : Books) (branch : Option ℕ) (entry : JournalEntry) :
    JournalEntry :=
  match branch, entry.printBranch with
  | none, none => entry
  | none, some _ =>
      if isOpen books entry then { entry with printBranch := none } else entry
  | some wanted, none => { entry with printBranch := some wanted }
  | some wanted, some tag =>
      if tag ≠ wanted ∧ isOpen books entry = true then
        { entry with printBranch := some wanted }
      else entry

/-- `_tag_branch`. -/
def tagBranch (reference : Reference) (branch : Option ℕ) : LedgerTxn PUnit :=
  modify fun books =>
    { books with
      entries := books.entries.map fun _ entry =>
        if entry.reference = reference then retag books branch entry
        else entry }

/-- The keyword arguments of `sync`. -/
structure SyncOptions where
  journalType : JournalType := .general
  date : Option ℤ := none
  branch : Option ℕ := none

/-- `sync`: makes the ledger hold exactly the target under a reference. -/
def sync (reference : Reference) (target : Target) (options : SyncOptions) :
    LedgerTxn (Option ℕ) := do
  let je ← syncEntries reference target options.journalType options.date
  tagBranch reference options.branch
  pure je

end Mousstec.Printing
