import Mousstec.Library.DoubleEntry
import Mousstec.Library.Rounding
import Mousstec.Library.Table
import Mousstec.Library.Transaction

/-!
# The general ledger

The data model and the core operations of the accounting service: resolving
an account, resolving the period of a day, posting a balanced entry, posting
its mirror image, and taking the entries of a deleted document out.

Amounts are whole cents once stored, as integers, and exact rational numbers
of cents before.  An account is identified by its unique code and a day by its
number.  Narrations, entry
numbers, branches and audit fields are not modelled.
-/

namespace Mousstec.Accounting

open Library

abbrev Account := String

/-- `_q` of the accounting service: two decimals, ties away from zero. -/
def q (value : ℚ) : ℤ :=
  roundHalfUp value

@[simp] theorem q_intCast (amount : ℤ) : q (amount : ℚ) = amount :=
  roundHalfUp_intCast amount

@[simp] theorem q_zero : q 0 = 0 :=
  roundHalfUp_zero

inductive AccountType where
  | asset
  | liability
  | equity
  | revenue
  | expense
  deriving DecidableEq

/-- The logical keys of `ACCOUNTS`. -/
inductive AccountKey where
  | cash
  | bank
  | ar
  | vatInput
  | inventory
  | inventoryInTransit
  | ap
  | employeeAdvances
  | commissionPayable
  | importCostsPayable
  | vatOutput
  | capital
  | openingEquity
  | retainedEarnings
  | incomeSummary
  | salesRevenue
  | serviceRevenue
  | salesReturns
  | otherRevenue
  | cogs
  | commissionExpense
  | importExpense
  | generalExpense
  | inventoryVariance
  | treasuryTransfer
  deriving DecidableEq

/-- The code and the default type `ACCOUNTS` gives a key. -/
def ACCOUNTS : AccountKey → Account × AccountType
  | .cash => ("1001", .asset)
  | .bank => ("1002", .asset)
  | .ar => ("1100", .asset)
  | .vatInput => ("1250", .asset)
  | .inventory => ("1200", .asset)
  | .inventoryInTransit => ("1210", .asset)
  | .ap => ("2100", .liability)
  | .employeeAdvances => ("1150", .asset)
  | .commissionPayable => ("2110", .liability)
  | .importCostsPayable => ("2120", .liability)
  | .vatOutput => ("2200", .liability)
  | .capital => ("3001", .equity)
  | .openingEquity => ("3005", .equity)
  | .retainedEarnings => ("3100", .equity)
  | .incomeSummary => ("3900", .equity)
  | .salesRevenue => ("4001", .revenue)
  | .serviceRevenue => ("4002", .revenue)
  | .salesReturns => ("4090", .revenue)
  | .otherRevenue => ("4099", .revenue)
  | .cogs => ("5001", .expense)
  | .commissionExpense => ("5210", .expense)
  | .importExpense => ("5150", .expense)
  | .generalExpense => ("5099", .expense)
  | .inventoryVariance => ("5160", .expense)
  | .treasuryTransfer => ("1090", .asset)

def AccountKey.code (key : AccountKey) : Account :=
  (ACCOUNTS key).1

structure ChartOfAccount where
  code : Account
  accountType : AccountType
  deriving DecidableEq

/-- The chart of accounts; codes are unique. -/
structure Chart where
  rows : List ChartOfAccount
  unique : (rows.map ChartOfAccount.code).Nodup
  deriving DecidableEq

/-- How a journal line names its account: a logical key, a raw code, or a row
of the chart. -/
inductive AccountRef where
  | key (key : AccountKey)
  | code (code : Account)
  | row (code : Account)
  deriving DecidableEq

def AccountRef.account : AccountRef → Account
  | .key logical => logical.code
  | .code raw => raw
  | .row stored => stored

@[simp] theorem AccountRef.account_key (logical : AccountKey) :
    (AccountRef.key logical).account = logical.code := rfl

@[simp] theorem AccountRef.account_code (raw : Account) :
    (AccountRef.code raw).account = raw := rfl

@[simp] theorem AccountRef.account_row (stored : Account) :
    (AccountRef.row stored).account = stored := rfl

namespace Chart

def empty : Chart where
  rows := []
  unique := List.nodup_nil

def codes (chart : Chart) : List Account :=
  chart.rows.map ChartOfAccount.code

def getOrCreate (chart : Chart) (code : Account) (accountType : AccountType) :
    Chart :=
  if missing : code ∈ chart.codes then chart
  else
    { rows := chart.rows ++ [⟨code, accountType⟩]
      unique := by
        rw [List.map_append, List.nodup_append]
        refine ⟨chart.unique, by simp, ?_⟩
        intro old stored new added
        simp only [List.map_cons, List.map_nil, List.mem_singleton] at added
        rintro rfl
        exact missing (added ▸ stored) }

end Chart

structure AccountingPeriod where
  name : String
  startDate : ℤ
  endDate : ℤ
  isClosed : Bool
  deriving DecidableEq

def AccountingPeriod.Covers (period : AccountingPeriod) (day : ℤ) : Prop :=
  period.startDate ≤ day ∧ day ≤ period.endDate

instance (period : AccountingPeriod) (day : ℤ) :
    Decidable (period.Covers day) :=
  inferInstanceAs (Decidable (_ ∧ _))

inductive JournalType where
  | sales
  | purchase
  | cashReceipt
  | cashPayment
  | general
  | opening
  | adjustment
  | closing
  deriving DecidableEq

inductive EntryStatus where
  | draft
  | posted
  | reversed
  deriving DecidableEq

/-- A document of the printing books, by the text of its reference. -/
inductive PrintDocument where
  /-- `PRN-ORD-<pk>` -/
  | order (pk : ℕ)
  /-- `PRN-TXN-<pk>` -/
  | transaction (pk : ℕ)
  /-- `PRN-PUR-<pk>` -/
  | purchase (pk : ℕ)
  /-- `PRN-ADJ-<pk>` -/
  | adjustment (pk : ℕ)
  /-- `PRN-CUST-<pk>` -/
  | customer (pk : ℕ)
  /-- `PRN-CUST-<pk>-OPEN` -/
  | customerOpening (pk : ℕ)
  /-- `PRN-SUP-<pk>` -/
  | supplier (pk : ℕ)
  /-- `PRN-MAT-<pk>-OPEN` -/
  | materialOpening (pk : ℕ)
  /-- `PRN-CN-<pk>` -/
  | creditNote (pk : ℕ)
  /-- `PRN-PRET-<pk>` -/
  | purchaseReturn (pk : ℕ)
  /-- `PRN-FA-<pk>` -/
  | asset (pk : ℕ)
  /-- `PRN-FA-<pk>-DISP` -/
  | assetDisposal (pk : ℕ)
  /-- `PRN-DEP-<year><month>`, and `-B<branch>` after it for a branch -/
  | depreciation (year month : ℕ) (branch : Option ℕ)
  deriving DecidableEq

/-- The source reference of an entry; `other` is any text of another form. -/
inductive Reference where
  /-- `SINV-<pk>` -/
  | saleInvoice (pk : ℕ)
  /-- `SINV-<pk>-ADJ` -/
  | saleInvoiceAdjustment (pk : ℕ)
  /-- `PINV-<pk>` -/
  | purchaseInvoice (pk : ℕ)
  /-- `PINV-<pk>-EC-<cost>` -/
  | purchaseExtraCost (pk cost : ℕ)
  /-- `FT-<pk>` -/
  | financialTransaction (pk : ℕ)
  /-- `PRET-<pk>` -/
  | purchaseReturn (pk : ℕ)
  /-- `VEND-<pk>-ADJ` -/
  | vendorAdjustment (pk : ℕ)
  /-- `CUST-<pk>-ADJ` -/
  | customerAdjustment (pk : ℕ)
  /-- `TRF-<pk>-OUT` -/
  | transferOut (pk : ℕ)
  /-- `TRF-<pk>-IN` -/
  | transferIn (pk : ℕ)
  /-- `TRF-<pk>-BACK` -/
  | transferBack (pk : ℕ)
  /-- `CLOSE-<pk>` -/
  | closing (pk : ℕ)
  /-- `CLOSE-RE-<pk>` -/
  | closingTransfer (pk : ℕ)
  | print (document : PrintDocument)
  | other (text : String)
  deriving DecidableEq

/-- The source document an entry is linked to. -/
inductive Source where
  | saleInvoice (pk : ℕ)
  | purchaseInvoice (pk : ℕ)
  | financialTransaction (pk : ℕ)
  deriving DecidableEq

structure JournalEntry where
  date : ℤ
  journalType : JournalType
  reference : Reference
  status : EntryStatus
  period : Option ℕ
  source : Option Source
  reversalOf : Option ℕ
  /-- The branch of the entry's `PrintJournalBranch`, which is one-to-one with
  the entry and deleted with it. -/
  printBranch : Option ℕ
  lines : List (Posting Account)
  deriving DecidableEq

/-- The ledger's tables, with the current local day. -/
structure Books where
  chart : Chart
  periods : Table AccountingPeriod
  entries : Table JournalEntry
  today : ℤ
  deriving DecidableEq

def money (amount : ℤ) : String :=
  let digits := toString (amount.natAbs % 100)
  (if amount < 0 then "-" else "") ++ toString (amount.natAbs / 100) ++ "." ++
    (if digits.length < 2 then "0" ++ digits else digits)

inductive LedgerError where
  | closedPeriod (name : String)
  | bothSides
  | unbalanced (debit credit : ℤ)
  | lineBothSides
  | lineEmpty
  | entryUnbalanced (pk : ℕ) (debit credit : ℤ)
  | entryEmpty
  | alreadyClosed
  | missingAccount (code : Account)
  deriving DecidableEq

def LedgerError.text (description : String) : LedgerError → String
  | .closedPeriod name => s!"الفترة المحاسبية «{name}» مُقفلة — لا يمكن الترحيل فيها."
  | .bothSides => "سطر القيد لا يمكن أن يكون مدين ودائن معاً."
  | .unbalanced debit credit =>
      s!"قيد غير متوازن: مدين={money debit} دائن={money credit} — {description}"
  | .lineBothSides => "القيد لا يمكن أن يكون مدين ودائن في نفس الوقت."
  | .lineEmpty => "القيد يجب أن يحتوي على قيمة مدينة أو دائنة."
  | .entryUnbalanced pk debit credit =>
      s!"قيد غير متوازن (#{pk}): مدين={money debit} دائن={money credit}"
  | .entryEmpty => "قيد فارغ — لا يحتوي على أي مبالغ."
  | .alreadyClosed => "الفترة مُقفلة بالفعل."
  | .missingAccount code => s!"ChartOfAccount matching query does not exist: {code}"

abbrev LedgerTxn (α : Type) := Txn LedgerError Books α

def getOrCreateAccount (code : Account) (accountType : AccountType) :
    LedgerTxn Account := do
  modify fun books =>
    { books with chart := books.chart.getOrCreate code accountType }
  pure code

/-- `AccountingService.account`, as a journal line calls it; a raw code that is
missing is created as an asset. -/
def account : AccountRef → LedgerTxn Account
  | .key logical => getOrCreateAccount logical.code (ACCOUNTS logical).2
  | .code raw => getOrCreateAccount raw .asset
  | .row stored => do
      let books ← get
      Txn.require (stored ∈ books.chart.codes) (.missingAccount stored)
      pure stored

def earliestPeriod :
    List (ℕ × AccountingPeriod) → Option (ℕ × AccountingPeriod)
  | [] => none
  | row :: rest =>
      match earliestPeriod rest with
      | none => some row
      | some other =>
          if other.2.startDate < row.2.startDate then some other else some row

/-- `AccountingPeriod.for_date`: the first period by start date that covers
the day. -/
def forDate (books : Books) (onDate : ℤ) : Option (ℕ × AccountingPeriod) :=
  earliestPeriod
    (books.periods.rows.filter fun row => row.2.Covers onDate)

def periodOf (books : Books) (entry : JournalEntry) : Option AccountingPeriod :=
  match entry.period with
  | some pk => books.periods.get? pk
  | none => (forDate books entry.date).map Prod.snd

def isOpenPeriod : Option AccountingPeriod → Bool
  | none => true
  | some period => !period.isClosed

/-- `_is_open`. -/
def isOpen (books : Books) (entry : JournalEntry) : Bool :=
  isOpenPeriod (periodOf books entry)

/-- `open_date`: the day itself while its period is open, else today. -/
def openDate (books : Books) (onDate : ℤ) : ℤ :=
  if isOpenPeriod ((forDate books onDate).map Prod.snd) then onDate
  else books.today

/-- `_resolve_period`: the period covering a day; refuses a closed one. -/
def resolvePeriod (onDate : ℤ) : LedgerTxn (Option ℕ) := do
  let books ← get
  match forDate books onDate with
  | none => pure none
  | some (pk, period) => do
      Txn.require (period.isClosed = false) (.closedPeriod period.name)
      pure (some pk)

/-- A line handed to `post_journal`. -/
structure JournalLine where
  account : AccountRef
  debit : ℚ
  credit : ℚ
  deriving DecidableEq

def JournalLine.ofPosting (posting : Posting Account) : JournalLine :=
  ⟨.row posting.account, posting.debit, posting.credit⟩

/-- The arguments of `post_journal`. -/
structure JournalDraft where
  lines : List JournalLine
  date : Option ℤ := none
  journalType : JournalType := .general
  reference : Reference := .other ""
  source : Option Source := none
  status : EntryStatus := .posted

def JournalDraft.entry (draft : JournalDraft) (postDate : ℤ)
    (period : Option ℕ) (norm : List (Posting Account)) : JournalEntry where
  date := postDate
  journalType := draft.journalType
  reference := draft.reference
  status := draft.status
  period := period
  source := draft.source
  reversalOf := none
  printBranch := none
  lines := norm

def normalise : List JournalLine → LedgerTxn (List (Posting Account))
  | [] => pure []
  | line :: rest => do
      let debit := q line.debit
      let credit := q line.credit
      if debit = 0 ∧ credit = 0 then normalise rest
      else do
        Txn.require (¬ (0 < debit ∧ 0 < credit)) .bothSides
        let acct ← account line.account
        let norm ← normalise rest
        pure (⟨acct, debit, credit⟩ :: norm)

/-- Less than half a cent posts nothing. -/
example : normalise [⟨.key .ap, 1 / 3, 0⟩] = normalise [] := by
  rw [normalise]
  exact if_pos (by decide +kernel)

/-- `AccountingEntry.clean`. -/
def clean (line : Posting Account) : LedgerTxn PUnit := do
  Txn.require (¬ (0 < line.debit ∧ 0 < line.credit)) .lineBothSides
  Txn.require (¬ (line.debit = 0 ∧ line.credit = 0)) .lineEmpty

/-- `JournalEntry.assert_balanced`. -/
def assertBalanced (pk : ℕ) (lines : List (Posting Account)) :
    LedgerTxn PUnit := do
  Txn.require (totalDebit lines = totalCredit lines)
    (.entryUnbalanced pk (totalDebit lines) (totalCredit lines))
  Txn.require (totalDebit lines ≠ 0) .entryEmpty

/-- `post_journal`: stores a balanced entry and returns its key, or nothing
when every line is empty. -/
def postJournal (draft : JournalDraft) : LedgerTxn (Option ℕ) := do
  let books ← get
  let postDate := draft.date.getD books.today
  let norm ← normalise draft.lines
  if norm = [] then pure none
  else do
    Txn.require (totalDebit norm = totalCredit norm)
      (.unbalanced (totalDebit norm) (totalCredit norm))
    let period ← resolvePeriod postDate
    Txn.atomic do
      let current ← get
      let pk := current.entries.next
      set { current with
        entries := current.entries.insert (draft.entry postDate period norm) }
      forM norm clean
      assertBalanced pk norm
      pure (some pk)

def mirrorLines (lines : List (Posting Account)) : List JournalLine :=
  lines.map fun line => .ofPosting line.mirror

/-- `reverse_journal`: posts the mirror image of an entry and marks the entry
reversed. -/
def reverseJournal (pk : ℕ) (entry : JournalEntry) (date : Option ℤ := none) :
    LedgerTxn (Option ℕ) := do
  if entry.status = .reversed then pure none
  else do
    let rev ← postJournal
      { lines := mirrorLines entry.lines
        date
        journalType := entry.journalType
        reference := entry.reference }
    match rev with
    | none => pure none
    | some mirror => do
        modify fun books =>
          { books with
            entries := (books.entries.modify mirror fun stored =>
                { stored with reversalOf := some pk }).modify pk fun stored =>
              { stored with status := .reversed } }
        pure (some mirror)

def Books.deleteEntry (books : Books) (pk : ℕ) : Books :=
  { books with
    entries := (books.entries.erase pk).map fun _ stored =>
      if stored.reversalOf = some pk then { stored with reversalOf := none }
      else stored }

/-- `unpost`: deletes the entries of open periods and reverses, dated today,
those of closed ones; returns how many of each. -/
def unpost : List (ℕ × JournalEntry) → LedgerTxn (ℕ × ℕ)
  | [] => pure (0, 0)
  | (pk, entry) :: rest =>
      if entry.status = .reversed then unpost rest
      else do
        let books ← get
        if isOpen books entry then do
          modify fun books => books.deleteEntry pk
          let (deleted, mirrored) ← unpost rest
          pure (deleted + 1, mirrored)
        else do
          let _ ← reverseJournal pk entry
          let (deleted, mirrored) ← unpost rest
          pure (deleted, mirrored + 1)

end Mousstec.Accounting
