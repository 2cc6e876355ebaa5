import Mousstec.Stock.ShipmentShares

/-!
# Shipments over whole runs

Each call of `apply_shipment` removes the old shares of its shipment and divides
the costs anew.  So after every run the shares of a shipment fall into one group
for each of its costs, and a group sums to its cost, unless the invoices of the
shipment are worth nothing together: then nothing is divided.
-/

namespace Mousstec

namespace Stock

namespace Shipments

open Library

namespace ShipmentDesk

variable {Books : Type} (desk : ShipmentDesk Books)

def sharesOf (shipment : ℕ) : List ExtraCost :=
  (desk.extraCosts.rows.map Prod.snd).filter (·.shipment == some shipment)

def costsOf (shipment : ℕ) : List ShipmentCost :=
  (desk.costs.rows.map Prod.snd).filter (·.shipment == shipment)

def ownLines : List (ℕ × ExtraCost) :=
  desk.extraCosts.rows.filter (·.2.shipment.isNone)

def worth (shipment : ℕ) : ℤ :=
  desk.invoices.total fun _ invoice =>
    if invoice.shipment = some shipment then invoice.totalAmount else 0

end ShipmentDesk

/-- The shares of one cost of a shipment whose invoices have some value. -/
structure SharedOut (worth : ℤ) (cost : ShipmentCost)
    (shares : List ExtraCost) : Prop where
  alike : ∀ share ∈ shares, share.kind = cost.kind ∧
    share.behavior = cost.behavior ∧ share.treasury = cost.treasury ∧
    share.expenseCategory = cost.expenseCategory ∧
    share.shipment = some cost.shipment
  positive : ∀ share ∈ shares, 0 < share.amount
  sum : 0 < worth → (shares.map ExtraCost.amount).sum = cost.amount
  none : worth = 0 → shares = []

/-- The costs of each shipment are divided over its invoices, and nothing else
has changed since the start. -/
structure SharesKept {Books : Type} (posting : Posting Books)
    (start desk : ShipmentDesk Books) : Prop where
  shared : ∀ shipment, ∃ groups, desk.sharesOf shipment = groups.flatten ∧
    List.Forall₂ (SharedOut (desk.worth shipment)) (desk.costsOf shipment)
      groups
  inside : ∀ key line shipment, desk.extraCosts.get? key = some line →
    line.shipment = some shipment →
      ∃ invoice, desk.invoices.get? line.invoice = some invoice ∧
        invoice.shipment = some shipment
  own : desk.ownLines = start.ownLines
  refused : ∀ (op : ShipmentOp) error final,
    op.run posting desk = .error error final → final = desk

/-- A desk without shares, whose invoices are valued as the columns allow. -/
structure Unshared {Books : Type} (desk : ShipmentDesk Books) : Prop where
  costs : desk.costs.rows = []
  lines : ∀ key line, desk.extraCosts.get? key = some line →
    line.shipment = none
  priced : ∀ key invoice, desk.invoices.get? key = some invoice →
    0 ≤ invoice.totalAmount ∧ invoice.totalAmount < columnLimit
  digits : (desk.invoices.total fun _ invoice => invoice.totalAmount) <
    10 ^ decimalDigits

/-- The amounts of the costs are checked before the call. -/
def ShipmentOp.Checked (op : ShipmentOp) : Prop :=
  ∀ cost ∈ op.costs, 0 ≤ cost.amount

instance (op : ShipmentOp) : Decidable op.Checked :=
  inferInstanceAs (Decidable (∀ cost ∈ op.costs, _))

section OneCost

variable {cost : ShipmentCost} {name : String}

def savedShares (cost : ShipmentCost) (name : String)
    (invoices : List (ℕ × ShippedInvoice)) (shares : List ℚ) :
    List ExtraCost :=
  (invoices.zip shares).filterMap fun row =>
    if row.2 ≤ 0 then none else some (cost.share name row.1.1 row.2)

theorem mem_savedShares {invoices : List (ℕ × ShippedInvoice)}
    {shares : List ℚ} {share : ExtraCost}
    (member : share ∈ savedShares cost name invoices shares) :
    ∃ row ∈ invoices, ∃ amount ∈ shares, 0 < amount ∧
      share = cost.share name row.1 amount := by
  obtain ⟨⟨row, amount⟩, listed, kept⟩ := List.mem_filterMap.mp member
  obtain ⟨invoice, divided⟩ := List.of_mem_zip listed
  dsimp only at kept
  split at kept
  · cases kept
  · rename_i positive
    exact ⟨row, invoice, amount, divided, not_le.mp positive,
      (Option.some.inj kept).symm⟩

theorem savedShares_sum {invoices : List (ℕ × ShippedInvoice)}
    {shares : List ℤ} (length : shares.length = invoices.length)
    (nonneg : ∀ share ∈ shares, 0 ≤ share) :
    ((savedShares cost name invoices (cents shares)).map
      ExtraCost.amount).sum = shares.sum := by
  induction invoices generalizing shares with
  | nil =>
      rw [List.length_nil, List.length_eq_zero_iff] at length
      subst length
      rfl
  | cons row invoices induction =>
      cases shares with
      | nil => cases length
      | cons amount shares =>
          have rest := @induction shares (by simpa using length)
            fun other member => nonneg other (List.mem_cons_of_mem _ member)
          have sign := nonneg amount List.mem_cons_self
          rw [savedShares, cents, List.map_cons, List.zip_cons_cons,
            List.filterMap_cons, List.sum_cons]
          by_cases nothing : amount ≤ 0
          · have zero : amount = 0 := le_antisymm nothing sign
            have dropped : (amount : ℚ) ≤ 0 := by exact_mod_cast nothing
            rw [if_pos dropped, zero, zero_add]
            exact rest
          · have kept : ¬ (amount : ℚ) ≤ 0 := by exact_mod_cast nothing
            rw [if_neg kept, List.map_cons, List.sum_cons]
            have saved : (cost.share name row.1 (amount : ℚ)).amount =
                amount := roundHalfEven_nearest.whole amount
            rw [saved]
            exact congrArg (amount + ·) rest

theorem savedShares_zero (invoices : List (ℕ × ShippedInvoice))
    {shares : List ℚ} (zero : ∀ share ∈ shares, share = 0) :
    savedShares cost name invoices shares = [] := by
  rw [savedShares, List.filterMap_eq_nil_iff]
  rintro ⟨row, amount⟩ listed
  obtain ⟨-, divided⟩ := List.of_mem_zip listed
  rw [zero amount divided]
  exact if_pos le_rfl

def values (invoices : List (ℕ × ShippedInvoice)) : List ℤ :=
  invoices.map fun row => row.2.totalAmount

theorem divided_eq {invoices : List (ℕ × ShippedInvoice)}
    {group : List ExtraCost}
    (divided : cost.divided name invoices = .ok group) :
    ∃ shares, allocate cost.amount (cents (values invoices)) = .ok shares ∧
      group = savedShares cost name invoices shares := by
  have bases : (invoices.map fun row => (row.2.totalAmount : ℚ)) =
      cents (values invoices) := by
    rw [cents, values, List.map_map]
    rfl
  rw [ShipmentCost.divided, bases] at divided
  cases allocated : allocate cost.amount (cents (values invoices)) with
  | error error =>
      rw [allocated] at divided
      cases divided
  | ok shares =>
      rw [allocated] at divided
      exact ⟨shares, rfl, (Except.ok.inj divided).symm⟩

theorem fits_of_columns {amount : ℤ} {bases : List ℤ}
    (column : amount < columnLimit)
    (priced : ∀ base ∈ bases, 0 ≤ base ∧ base < columnLimit)
    (digits : bases.sum < 10 ^ decimalDigits) : Fits amount bases where
  small := column.trans (by norm_num [columnLimit])
  total := digits
  products base member := by
    obtain ⟨worth, small⟩ := priced base member
    calc amount * base ≤ columnLimit * columnLimit :=
          mul_le_mul column.le small.le worth (by norm_num [columnLimit])
      _ < 10 ^ decimalDigits := by norm_num [columnLimit, decimalDigits]

/-- A cost is divided exactly over invoices with a value. -/
theorem divided_sharedOut {invoices : List (ℕ × ShippedInvoice)}
    {group : List ExtraCost} (sign : 0 ≤ cost.amount)
    (column : cost.amount < columnLimit)
    (priced : ∀ row ∈ invoices,
      0 ≤ row.2.totalAmount ∧ row.2.totalAmount < columnLimit)
    (digits : (values invoices).sum < 10 ^ decimalDigits)
    (divided : cost.divided name invoices = .ok group) :
    SharedOut (values invoices).sum cost group := by
  obtain ⟨shares, allocated, rfl⟩ := divided_eq divided
  have priced' : ∀ base ∈ values invoices,
      0 ≤ base ∧ base < columnLimit := by
    intro base member
    obtain ⟨row, listed, rfl⟩ := List.mem_map.mp member
    exact priced row listed
  have worth : ∀ base ∈ values invoices, 0 ≤ base := fun base member =>
    (priced' base member).1
  have summed := decimalSum_cents worth digits
  refine ⟨?_, ?_, ?_, ?_⟩
  · intro share member
    obtain ⟨row, -, amount, -, -, rfl⟩ := mem_savedShares member
    exact ⟨rfl, rfl, rfl, rfl, rfl⟩
  · intro share member
    by_cases positive : 0 < (values invoices).sum
    · obtain ⟨exact, allocated', shares'⟩ := allocate_exact cost.amount
        (values invoices) sign worth positive
        (fits_of_columns column priced' digits)
      rw [allocated] at allocated'
      obtain rfl := Except.ok.inj allocated'
      obtain ⟨row, -, amount, listed, more, rfl⟩ := mem_savedShares member
      obtain ⟨whole, -, rfl⟩ := List.mem_map.mp listed
      have saved : (cost.share name row.1 (whole : ℚ)).amount = whole :=
        roundHalfEven_nearest.whole whole
      rw [saved]
      exact_mod_cast more
    · have nothing : decimalSum (cents (values invoices)) ≤ 0 := by
        rw [summed]
        exact_mod_cast not_lt.mp positive
      rw [allocate_nothing (.inr nothing)] at allocated
      obtain rfl := Except.ok.inj allocated
      rw [savedShares_zero invoices (by simp)] at member
      cases member
  · intro positive
    obtain ⟨exact, allocated', shares'⟩ := allocate_exact cost.amount
      (values invoices) sign worth positive
      (fits_of_columns column priced' digits)
    rw [allocated] at allocated'
    obtain rfl := Except.ok.inj allocated'
    rw [savedShares_sum _ shares'.nonneg, shares'.sum]
    rw [shares'.length, values, List.length_map]
  · intro nothing
    have total : decimalSum (cents (values invoices)) ≤ 0 := by
      rw [summed, nothing, Int.cast_zero]
    rw [allocate_nothing (.inr total)] at allocated
    obtain rfl := Except.ok.inj allocated
    exact savedShares_zero invoices (by simp)

theorem dividedCosts_eq {invoices : List (ℕ × ShippedInvoice)}
    {costs : List ShipmentCost} {shares : List ExtraCost}
    (divided : dividedCosts name invoices costs = .ok shares) :
    ∃ groups, shares = groups.flatten ∧
      List.Forall₂ (fun cost group => cost.divided name invoices = .ok group)
        costs groups := by
  unfold dividedCosts at divided
  induction costs generalizing shares with
  | nil =>
      obtain rfl := Except.ok.inj divided
      exact ⟨[], rfl, .nil⟩
  | cons cost costs induction =>
      rw [List.mapM_cons] at divided
      cases first : cost.divided name invoices with
      | error error =>
          rw [first] at divided
          cases divided
      | ok group =>
          rw [first] at divided
          cases rest : costs.mapM (ShipmentCost.divided · name invoices) with
          | error error =>
              rw [rest] at divided
              cases divided
          | ok groups =>
              rw [rest] at divided induction
              obtain rfl := Except.ok.inj divided
              obtain ⟨others, same, each⟩ := induction rfl
              refine ⟨group :: others, ?_, .cons first each⟩
              rw [List.flatten_cons, List.flatten_cons, same]

end OneCost

def ShippedInvoice.plain (invoice : ShippedInvoice) : ShippedInvoice :=
  { invoice with
    status := .draft
    isApplied := false }

/-- The invoices of two desks belong to the same shipments, and the desks have
the same costs. -/
structure Frame {Books : Type} (before after : ShipmentDesk Books) : Prop where
  shipments : after.shipments = before.shipments
  costs : after.costs = before.costs
  invoices : (after.invoices.map fun _ invoice => invoice.plain) =
    before.invoices.map fun _ invoice => invoice.plain

section Frames

variable {Books : Type} {posting : Posting Books}
  {before middle after desk : ShipmentDesk Books}

theorem Frame.refl (desk : ShipmentDesk Books) : Frame desk desk :=
  ⟨rfl, rfl, rfl⟩

theorem Frame.trans (first : Frame before middle)
    (second : Frame middle after) : Frame before after :=
  ⟨second.shipments.trans first.shipments, second.costs.trans first.costs,
    second.invoices.trans first.invoices⟩

theorem map_plain_modify (invoices : Table ShippedInvoice) (key : ℕ)
    {change : ShippedInvoice → ShippedInvoice}
    (same : ∀ invoice, (change invoice).plain = invoice.plain) :
    ((invoices.modify key change).map fun _ invoice => invoice.plain) =
      invoices.map fun _ invoice => invoice.plain := by
  apply Table.ext
  · simp only [Table.modify, Table.map, List.map_map]
    apply List.map_congr_left
    intro row _
    simp only [Function.comp_apply]
    split
    · rw [same]
    · rfl
  · rfl

def withoutShares (lines : Table ExtraCost) (shipment : ℕ) (keys : List ℕ) :
    Table ExtraCost :=
  lines.filter fun _ line =>
    !(keys.contains line.invoice && line.shipment == some shipment)

theorem reversePosting_eq_ok {key : ℕ}
    (returned : reversePosting posting key before = .ok ⟨⟩ after) :
    Frame before after ∧ after.extraCosts = before.extraCosts := by
  rw [reversePosting, Txn.get_bind, Txn.expect_bind_eq_ok] at returned
  obtain ⟨invoice, stored, reversed⟩ := returned
  by_cases applied : invoice.isApplied = true
  · rw [if_pos applied] at reversed
    cases answer : posting.reverse before.books key (before.linesOf key) with
    | error message =>
        rw [answer] at reversed
        exact (Txn.throw_eq_ok reversed).elim
    | ok books =>
        rw [answer] at reversed
        obtain rfl := Txn.set_eq_ok.mp reversed
        exact ⟨⟨rfl, rfl, map_plain_modify _ _ fun _ => rfl⟩, rfl⟩
  · rw [if_neg applied] at reversed
    obtain ⟨-, rfl⟩ := Txn.pure_eq_ok.mp reversed
    exact ⟨.refl _, rfl⟩

theorem reverseInvoice_eq_ok {shipment key : ℕ}
    (returned : reverseInvoice posting shipment key before = .ok ⟨⟩ after) :
    Frame before after ∧
      after.extraCosts = withoutShares before.extraCosts shipment [key] := by
  rw [reverseInvoice, Txn.bind_eq_ok] at returned
  obtain ⟨⟨⟩, middle, reversed, removed⟩ := returned
  obtain rfl := Txn.modify_eq_ok.mp removed
  obtain ⟨frame, lines⟩ := reversePosting_eq_ok reversed
  refine ⟨⟨frame.shipments, frame.costs, frame.invoices⟩, ?_⟩
  rw [lines]
  apply Table.ext
  · apply List.filter_congr
    intro row _
    simp only [List.contains_cons, List.contains_nil, Bool.or_false]
  · rfl

theorem repost_eq_ok {key : ℕ}
    (returned : repost posting key before = .ok ⟨⟩ after) :
    Frame before after ∧ after.extraCosts = before.extraCosts := by
  rw [repost, Txn.get_bind, Txn.expect_bind_eq_ok] at returned
  obtain ⟨invoice, stored, reposted⟩ := returned
  by_cases applied : invoice.isApplied = true
  · rw [if_pos applied] at reposted
    obtain rfl := Txn.set_eq_ok.mp reposted
    exact ⟨⟨rfl, rfl, map_plain_modify _ _ fun _ => rfl⟩, rfl⟩
  · rw [if_neg applied] at reposted
    cases answer : posting.execute before.books key (before.linesOf key) with
    | error message =>
        rw [answer] at reposted
        exact (Txn.throw_eq_ok reposted).elim
    | ok result =>
        rw [answer] at reposted
        obtain rfl := Txn.set_eq_ok.mp reposted
        exact ⟨⟨rfl, rfl, map_plain_modify _ _ fun _ => rfl⟩, rfl⟩

theorem withoutShares_append (lines : Table ExtraCost) (shipment key : ℕ)
    (keys : List ℕ) :
    withoutShares (withoutShares lines shipment [key]) shipment keys =
      withoutShares lines shipment (key :: keys) := by
  apply Table.ext
  · simp only [withoutShares, Table.filter, List.filter_filter]
    apply List.filter_congr
    intro row _
    cases row.2.shipment == some shipment <;>
      simp [Bool.and_comm]
  · rfl

theorem reverseAll_eq_ok {shipment : ℕ} {keys : List ℕ}
    (returned : keys.forM (reverseInvoice posting shipment) before =
      .ok ⟨⟩ after) :
    Frame before after ∧
      after.extraCosts = withoutShares before.extraCosts shipment keys := by
  induction keys generalizing before with
  | nil =>
      obtain ⟨-, rfl⟩ := Txn.pure_eq_ok.mp returned
      refine ⟨.refl _, ?_⟩
      apply Table.ext
      · simp [withoutShares, Table.filter]
      · rfl
  | cons key keys induction =>
      obtain ⟨⟨⟩, middle, first, rest⟩ := Txn.bind_eq_ok.mp returned
      obtain ⟨frame, lines⟩ := reverseInvoice_eq_ok first
      obtain ⟨frame', lines'⟩ := induction rest
      refine ⟨frame.trans frame', ?_⟩
      rw [lines', lines, withoutShares_append]

theorem repostAll_eq_ok {keys : List ℕ}
    (returned : keys.forM (repost posting) before = .ok ⟨⟩ after) :
    Frame before after ∧ after.extraCosts = before.extraCosts := by
  induction keys generalizing before with
  | nil =>
      obtain ⟨-, rfl⟩ := Txn.pure_eq_ok.mp returned
      exact ⟨.refl _, rfl⟩
  | cons key keys induction =>
      obtain ⟨⟨⟩, middle, first, rest⟩ := Txn.bind_eq_ok.mp returned
      obtain ⟨frame, lines⟩ := repost_eq_ok first
      obtain ⟨frame', lines'⟩ := induction rest
      exact ⟨frame.trans frame', lines'.trans lines⟩

theorem linked_frame (frame : Frame before after) (shipment : ℕ)
    (ids : List ℕ) : Frame (before.linked shipment ids)
      (after.linked shipment ids) := by
  refine ⟨frame.shipments, frame.costs, ?_⟩
  have linked : ∀ desk : ShipmentDesk Books,
      ((desk.linked shipment ids).invoices.map fun _ invoice =>
        invoice.plain) =
      (desk.invoices.map fun _ invoice => invoice.plain).map
        fun key invoice =>
          if ids.contains key then { invoice with shipment := some shipment }
          else if invoice.shipment = some shipment then
            { invoice with shipment := none }
          else invoice := by
    intro desk
    apply Table.ext
    · simp only [ShipmentDesk.linked, Table.map, List.map_map]
      apply List.map_congr_left
      intro row _
      simp only [Function.comp_apply, ShippedInvoice.plain]
      split
      · rfl
      · split
        · rfl
        · rfl
    · rfl
  rw [linked, linked, frame.invoices]

end Frames

/-- What an accepted call of `apply_shipment` does. -/
structure Applied {Books : Type} (op : ShipmentOp)
    (before after : ShipmentDesk Books) (groups : List (List ExtraCost)) :
    Prop where
  accepted : ∀ row ∈ before.chosen op.ids,
    row.2.shipment = none ∨ row.2.shipment = some op.shipment
  limited : ∀ cost ∈ op.costs, cost.amount < columnLimit
  divided : ∃ name, List.Forall₂ (fun cost group =>
    cost.divided name (before.chosen op.ids) = .ok group)
      (op.costs.map (·.saved op.shipment)) groups
  costs : after.costs = (before.withCosts op.shipment op.costs).costs
  lines : after.extraCosts = groups.flatten.foldl Table.insert
    (withoutShares before.extraCosts op.shipment
      (before.affected op.shipment op.ids))
  invoices : (after.invoices.map fun _ invoice => invoice.plain) =
    (before.linked op.shipment op.ids).invoices.map fun _ invoice =>
      invoice.plain

theorem problem_eq_none {invoice : ShippedInvoice} {key shipment branch : ℕ}
    (fine : invoice.problem key shipment branch = none) :
    invoice.shipment = none ∨ invoice.shipment = some shipment := by
  rw [ShippedInvoice.problem] at fine
  split at fine
  · cases fine
  · split at fine
    · cases fine
    · split at fine
      · cases fine
      · rename_i free
        cases held : invoice.shipment with
        | none => exact .inl rfl
        | some other =>
            rw [held] at free
            right
            simpa using free

theorem checkInvoices_eq_ok {Books : Type} {desk after : ShipmentDesk Books}
    {invoices : List (ℕ × ShippedInvoice)} {shipment branch : ℕ} :
    checkInvoices invoices shipment branch desk = .ok ⟨⟩ after ↔
      (∀ row ∈ invoices, row.2.problem row.1 shipment branch = none) ∧
        desk = after := by
  rw [checkInvoices, ← List.findSome?_eq_none_iff]
  cases found : invoices.findSome? fun row =>
      row.2.problem row.1 shipment branch with
  | none => simp
  | some problem => simp

theorem shareCosts_eq_ok {Books : Type} {desk after : ShipmentDesk Books}
    {name : String} {invoices : List (ℕ × ShippedInvoice)}
    {costs : List ShipmentCost} :
    shareCosts name invoices costs desk = .ok ⟨⟩ after ↔
      ∃ shares, dividedCosts name invoices costs = .ok shares ∧
        desk.withShares shares = after := by
  rw [shareCosts]
  cases divided : dividedCosts name invoices costs with
  | error error => simp
  | ok shares => simp

theorem checkTreasuries_eq_ok {Books : Type} {posting : Posting Books}
    {desk after : ShipmentDesk Books} {books : Books} {treasuries : List ℕ}
    (returned : checkTreasuries posting books treasuries desk = .ok ⟨⟩ after) :
    desk = after := by
  rw [checkTreasuries, Txn.get_bind] at returned
  cases found : treasuries.find? (overdrawn posting books desk.books) with
  | none =>
      rw [found] at returned
      exact (Txn.pure_eq_ok.mp returned).2
  | some treasury =>
      rw [found] at returned
      exact (Txn.throw_eq_ok returned).elim

theorem applied_of_ok {Books : Type} {posting : Posting Books}
    {op : ShipmentOp} {before after : ShipmentDesk Books}
    (returned : op.run posting before = .ok ⟨⟩ after) :
    ∃ groups, Applied op before after groups := by
  rw [ShipmentOp.run, applyShipment, Txn.atomic_eq_ok, Txn.get_bind,
    Txn.expect_bind_eq_ok] at returned
  obtain ⟨row, stored, returned⟩ := returned
  rw [Txn.require_bind_eq_ok, Txn.bind_eq_ok] at returned
  obtain ⟨-, ⟨⟩, _, checked, returned⟩ := returned
  obtain ⟨fine, rfl⟩ := checkInvoices_eq_ok.mp checked
  rw [Txn.bind_eq_ok] at returned
  obtain ⟨⟨⟩, reversed, reversing, returned⟩ := returned
  rw [Txn.require_bind_eq_ok, Txn.modify_bind, Txn.bind_eq_ok] at returned
  obtain ⟨limited, ⟨⟩, _, sharing, returned⟩ := returned
  obtain ⟨shares, divided, rfl⟩ := shareCosts_eq_ok.mp sharing
  rw [Txn.modify_bind, Txn.bind_eq_ok] at returned
  obtain ⟨⟨⟩, reposted, reposting, returned⟩ := returned
  obtain rfl := checkTreasuries_eq_ok returned
  obtain ⟨frame, lines⟩ := reverseAll_eq_ok reversing
  obtain ⟨frame', lines'⟩ := repostAll_eq_ok reposting
  obtain ⟨groups, rfl, each⟩ := dividedCosts_eq divided
  refine ⟨groups, ?_, ?_, ⟨row.name, each⟩, ?_, ?_, ?_⟩
  · exact fun found member => problem_eq_none (fine found member)
  · exact fun cost member => (abs_lt.mp (limited cost member)).2
  · rw [frame'.costs]
    simp only [ShipmentDesk.linked, ShipmentDesk.withShares,
      ShipmentDesk.withCosts, frame.costs]
  · rw [lines']
    simp only [ShipmentDesk.linked, ShipmentDesk.withShares,
      ShipmentDesk.withCosts, lines]
  · rw [frame'.invoices]
    exact (linked_frame frame op.shipment op.ids).invoices

theorem rows_insertAll {α : Type} (table : Table α) (values : List α) :
    (values.foldl Table.insert table).rows.map Prod.snd =
      table.rows.map Prod.snd ++ values := by
  induction values generalizing table with
  | nil => simp
  | cons value values induction =>
      rw [List.foldl_cons, induction]
      simp [Table.insert]

theorem mem_insertAll {α : Type} {table : Table α} {values : List α} {key : ℕ}
    {value : α}
    (stored : (values.foldl Table.insert table).get? key = some value) :
    table.get? key = some value ∨ value ∈ values := by
  induction values generalizing table with
  | nil => exact .inl stored
  | cons first values induction =>
      rcases induction stored with old | new
      · rcases Table.get?_insert_cases old with ⟨-, rfl⟩ | old
        · exact .inr List.mem_cons_self
        · exact .inl old
      · exact .inr (List.mem_cons_of_mem _ new)

theorem filter_insertAll {α : Type} (keep : α → Bool) (table : Table α)
    {values : List α} (refused : ∀ value ∈ values, keep value = false) :
    (values.foldl Table.insert table).rows.filter (fun row => keep row.2) =
      table.rows.filter fun row => keep row.2 := by
  induction values generalizing table with
  | nil => rfl
  | cons value values induction =>
      rw [List.foldl_cons, induction _ fun other member =>
        refused other (List.mem_cons_of_mem _ member)]
      rw [Table.insert, List.filter_append]
      simp [refused value List.mem_cons_self]

theorem exists_related {α β : Type} {related : α → β → Prop} {left : List α}
    {right : List β} (each : List.Forall₂ related left right) {value : β}
    (member : value ∈ right) : ∃ other ∈ left, related other value := by
  induction each with
  | nil => cases member
  | cons first rest induction =>
      rcases List.mem_cons.mp member with rfl | later
      · exact ⟨_, List.mem_cons_self, first⟩
      · obtain ⟨other, listed, holds⟩ := induction later
        exact ⟨other, List.mem_cons_of_mem _ listed, holds⟩

structure SoundShares {Books : Type} (start desk : ShipmentDesk Books) :
    Prop where
  shared : ∀ shipment, ∃ groups, desk.sharesOf shipment = groups.flatten ∧
    List.Forall₂ (SharedOut (desk.worth shipment)) (desk.costsOf shipment)
      groups
  inside : ∀ key line shipment, desk.extraCosts.get? key = some line →
    line.shipment = some shipment →
      ∃ invoice, desk.invoices.get? line.invoice = some invoice ∧
        invoice.shipment = some shipment
  own : desk.ownLines = start.ownLines
  priced : ∀ key invoice, desk.invoices.get? key = some invoice →
    0 ≤ invoice.totalAmount ∧ invoice.totalAmount < columnLimit
  digits : (desk.invoices.total fun _ invoice => invoice.totalAmount) <
    10 ^ decimalDigits

namespace Applied

variable {Books : Type} {op : ShipmentOp} {before after : ShipmentDesk Books}
  {groups : List (List ExtraCost)} (applied : Applied op before after groups)

include applied

theorem invoice (key : ℕ) :
    (after.invoices.get? key).map ShippedInvoice.plain =
      (before.invoices.get? key).map fun invoice =>
        if op.ids.contains key then
          { invoice.plain with shipment := some op.shipment }
        else if invoice.shipment = some op.shipment then
          { invoice.plain with shipment := none }
        else invoice.plain := by
  have same := congrArg (Table.get? · key) applied.invoices
  simp only [Table.get?_map, ShipmentDesk.linked, Option.map_map] at same
  rw [same]
  congr 1
  funext invoice
  simp only [Function.comp_apply]
  split
  · rfl
  · split
    · rfl
    · rfl

theorem total (measure : ℕ → ShippedInvoice → ℤ)
    (blind : ∀ key invoice, measure key invoice.plain = measure key invoice) :
    after.invoices.total measure =
      before.invoices.total fun key invoice =>
        if op.ids.contains key then
          measure key { invoice with shipment := some op.shipment }
        else if invoice.shipment = some op.shipment then
          measure key { invoice with shipment := none }
        else measure key invoice := by
  have plain : ∀ invoices : Table ShippedInvoice,
      (invoices.map fun _ invoice => invoice.plain).total measure =
        invoices.total measure := by
    intro invoices
    rw [Table.total_map]
    exact Table.total_congr fun key invoice _ => blind key invoice
  rw [← plain, applied.invoices, plain, ShipmentDesk.linked, Table.total_map]
  apply Table.total_congr
  intro key invoice _
  split
  · rfl
  · split
    · rfl
    · rfl

theorem share_shipment : ∀ share ∈ groups.flatten,
    share.shipment = some op.shipment ∧
      ∃ row ∈ before.chosen op.ids, share.invoice = row.1 := by
  intro share member
  obtain ⟨group, listed, held⟩ := List.mem_flatten.mp member
  obtain ⟨name, each⟩ := applied.divided
  obtain ⟨cost, saved, divided⟩ := exists_related each listed
  obtain ⟨request, -, rfl⟩ := List.mem_map.mp saved
  obtain ⟨shares, -, rfl⟩ := divided_eq divided
  obtain ⟨row, invoice, amount, -, -, rfl⟩ := mem_savedShares held
  exact ⟨rfl, row, invoice, rfl⟩

theorem costsOf_self :
    after.costsOf op.shipment = op.costs.map (·.saved op.shipment) := by
  rw [ShipmentDesk.costsOf, applied.costs, ShipmentDesk.withCosts,
    rows_insertAll, List.filter_append]
  have old : (((before.costs.filter fun _ cost =>
      cost.shipment != op.shipment).rows.map Prod.snd).filter
        (·.shipment == op.shipment)) = [] := by
    rw [List.filter_eq_nil_iff]
    intro cost member
    obtain ⟨row, listed, rfl⟩ := List.mem_map.mp member
    have other := List.of_mem_filter listed
    simpa using other
  have new : ((op.costs.map (·.saved op.shipment)).filter
      (·.shipment == op.shipment)) = op.costs.map (·.saved op.shipment) := by
    rw [List.filter_eq_self]
    intro cost member
    obtain ⟨request, -, rfl⟩ := List.mem_map.mp member
    exact beq_self_eq_true op.shipment
  rw [old, new, List.nil_append]

theorem costsOf_other {shipment : ℕ} (other : shipment ≠ op.shipment) :
    after.costsOf shipment = before.costsOf shipment := by
  rw [ShipmentDesk.costsOf, applied.costs, ShipmentDesk.withCosts,
    rows_insertAll, List.filter_append]
  have new : ((op.costs.map (·.saved op.shipment)).filter
      (·.shipment == shipment)) = [] := by
    rw [List.filter_eq_nil_iff]
    intro cost member
    obtain ⟨request, -, rfl⟩ := List.mem_map.mp member
    simpa [CostRequest.saved] using other.symm
  have old : (((before.costs.filter fun _ cost =>
      cost.shipment != op.shipment).rows.map Prod.snd).filter
        (·.shipment == shipment)) = before.costsOf shipment := by
    rw [ShipmentDesk.costsOf, Table.filter, List.filter_map, List.filter_map,
      List.filter_filter]
    congr 1
    apply List.filter_congr
    intro row _
    by_cases same : row.2.shipment = shipment
    · simp [same, other]
    · simp [same]
  rw [old, new, List.append_nil]

omit applied in
theorem gone (inside : ∀ key line shipment,
    before.extraCosts.get? key = some line → line.shipment = some shipment →
      ∃ invoice, before.invoices.get? line.invoice = some invoice ∧
        invoice.shipment = some shipment) {key : ℕ} {line : ExtraCost}
    (kept : (withoutShares before.extraCosts op.shipment
      (before.affected op.shipment op.ids)).get? key = some line) :
    before.extraCosts.get? key = some line ∧
      line.shipment ≠ some op.shipment := by
  rw [withoutShares, Table.get?_filter, Option.filter_eq_some_iff] at kept
  obtain ⟨old, remains⟩ := kept
  refine ⟨old, fun share => ?_⟩
  obtain ⟨invoice, found, joined⟩ := inside key line op.shipment old share
  have there := Table.get?_eq_some.mp found
  have affected : line.invoice ∈ before.affected op.shipment op.ids := by
    refine List.mem_map.mpr ⟨(line.invoice, invoice), ?_, rfl⟩
    by_cases member : line.invoice ∈ op.ids
    · exact List.mem_append_left _ (List.mem_filter.mpr
        ⟨there, List.contains_iff_mem.mpr member⟩)
    · refine List.mem_append_right _ (List.mem_filter.mpr ⟨there, ?_⟩)
      simp [joined, member]
  simp [share, affected] at remains

theorem sharesOf_self (inside : ∀ key line shipment,
    before.extraCosts.get? key = some line → line.shipment = some shipment →
      ∃ invoice, before.invoices.get? line.invoice = some invoice ∧
        invoice.shipment = some shipment) :
    after.sharesOf op.shipment = groups.flatten := by
  rw [ShipmentDesk.sharesOf, applied.lines, rows_insertAll, List.filter_append]
  have old : ((withoutShares before.extraCosts op.shipment
      (before.affected op.shipment op.ids)).rows.map Prod.snd).filter
        (·.shipment == some op.shipment) = [] := by
    rw [List.filter_eq_nil_iff]
    intro line member
    obtain ⟨row, listed, rfl⟩ := List.mem_map.mp member
    obtain ⟨-, other⟩ := gone inside (Table.get?_eq_some.mpr listed)
    rwa [beq_iff_eq]
  have new : groups.flatten.filter (·.shipment == some op.shipment) =
      groups.flatten := by
    rw [List.filter_eq_self]
    intro share member
    rw [(applied.share_shipment share member).1]
    exact beq_self_eq_true _
  rw [old, new, List.nil_append]

theorem sharesOf_other {shipment : ℕ} (other : shipment ≠ op.shipment) :
    after.sharesOf shipment = before.sharesOf shipment := by
  rw [ShipmentDesk.sharesOf, applied.lines, rows_insertAll, List.filter_append]
  have new : groups.flatten.filter (·.shipment == some shipment) = [] := by
    rw [List.filter_eq_nil_iff]
    intro share member
    rw [(applied.share_shipment share member).1]
    simpa using other.symm
  have old : ((withoutShares before.extraCosts op.shipment
      (before.affected op.shipment op.ids)).rows.map Prod.snd).filter
        (·.shipment == some shipment) = before.sharesOf shipment := by
    rw [ShipmentDesk.sharesOf, withoutShares, Table.filter, List.filter_map,
      List.filter_map, List.filter_filter]
    congr 1
    apply List.filter_congr
    intro row _
    by_cases same : row.2.shipment = some shipment
    · simp [same, other]
    · simp [same]
  rw [old, new, List.append_nil]

theorem worth_self : after.worth op.shipment =
    (values (before.chosen op.ids)).sum := by
  rw [ShipmentDesk.worth, applied.total _ fun _ _ => rfl]
  have chosen : (values (before.chosen op.ids)).sum =
      (before.invoices.filter fun key _ => op.ids.contains key).total
        fun _ invoice => invoice.totalAmount := by
    rfl
  rw [chosen, Table.total_filter]
  apply Table.total_congr
  intro key invoice _
  by_cases member : op.ids.contains key = true
  · rw [if_pos member, if_pos member, if_pos rfl]
  · rw [if_neg member, if_neg member]
    by_cases joined : invoice.shipment = some op.shipment
    · rw [if_pos joined, if_neg (by simp)]
    · rw [if_neg joined, if_neg joined]

theorem worth_other {shipment : ℕ} (other : shipment ≠ op.shipment) :
    after.worth shipment = before.worth shipment := by
  rw [ShipmentDesk.worth, applied.total _ fun _ _ => rfl]
  apply Table.total_congr
  intro key invoice stored
  by_cases member : op.ids.contains key = true
  · have free := applied.accepted (key, invoice)
      (List.mem_filter.mpr ⟨Table.get?_eq_some.mp stored, member⟩)
    have elsewhere : invoice.shipment ≠ some shipment := by
      intro joined
      rcases free with none | same
      · cases none.symm.trans joined
      · exact other (Option.some.inj (joined.symm.trans same))
    rw [if_pos member, if_neg elsewhere, if_neg (by simpa using other.symm)]
  · rw [if_neg member]
    by_cases joined : invoice.shipment = some op.shipment
    · rw [if_pos joined, if_neg (by simp), if_neg (by simpa [joined] using
        other.symm)]
    · rw [if_neg joined]

theorem inside (kept : ∀ key line shipment,
    before.extraCosts.get? key = some line → line.shipment = some shipment →
      ∃ invoice, before.invoices.get? line.invoice = some invoice ∧
        invoice.shipment = some shipment) :
    ∀ key line shipment, after.extraCosts.get? key = some line →
      line.shipment = some shipment →
        ∃ invoice, after.invoices.get? line.invoice = some invoice ∧
          invoice.shipment = some shipment := by
  intro key line shipment stored joined
  rw [applied.lines] at stored
  have plain := applied.invoice line.invoice
  rcases mem_insertAll stored with kept' | new
  · obtain ⟨old, other⟩ := gone kept kept'
    obtain ⟨invoice, found, linked⟩ := kept key line shipment old joined
    have apart : shipment ≠ op.shipment := by
      rintro rfl
      exact other joined
    have elsewhere : op.ids.contains line.invoice = false := by
      by_contra member
      rw [Bool.not_eq_false] at member
      rcases applied.accepted (line.invoice, invoice)
        (List.mem_filter.mpr ⟨Table.get?_eq_some.mp found, member⟩) with
        none | same
      · cases none.symm.trans linked
      · exact apart (Option.some.inj (linked.symm.trans same))
    have stays : invoice.shipment ≠ some op.shipment := by
      rw [linked]
      exact fun same => apart (Option.some.inj same)
    rw [found, Option.map_some, elsewhere, if_neg Bool.false_ne_true,
      if_neg stays] at plain
    obtain ⟨later, held, same⟩ := Option.map_eq_some_iff.mp plain
    have shipments := congrArg ShippedInvoice.shipment same
    exact ⟨later, held, shipments.trans linked⟩
  · obtain ⟨same, row, chosen, invoice⟩ := applied.share_shipment line new
    obtain ⟨stored', member⟩ := List.mem_filter.mp chosen
    have found : before.invoices.get? line.invoice = some row.2 := by
      rw [invoice]
      exact Table.get?_eq_some.mpr stored'
    rw [found, Option.map_some, invoice, if_pos member, ← invoice] at plain
    obtain ⟨later, held, same'⟩ := Option.map_eq_some_iff.mp plain
    have shipments := congrArg ShippedInvoice.shipment same'
    exact ⟨later, held, shipments.trans (same.symm.trans joined)⟩

theorem ownLines : after.ownLines = before.ownLines := by
  rw [ShipmentDesk.ownLines, applied.lines]
  have refused : ∀ share ∈ groups.flatten, share.shipment.isNone = false := by
    intro share member
    rw [(applied.share_shipment share member).1]
    rfl
  have added := filter_insertAll (fun line : ExtraCost => line.shipment.isNone)
    (withoutShares before.extraCosts op.shipment
      (before.affected op.shipment op.ids)) refused
  rw [added, withoutShares, Table.filter, List.filter_filter,
    ShipmentDesk.ownLines]
  apply List.filter_congr
  intro row _
  cases joined : row.2.shipment with
  | none => simp
  | some shipment => simp

theorem priced (kept : ∀ key invoice,
    before.invoices.get? key = some invoice →
      0 ≤ invoice.totalAmount ∧ invoice.totalAmount < columnLimit) :
    ∀ key invoice, after.invoices.get? key = some invoice →
      0 ≤ invoice.totalAmount ∧ invoice.totalAmount < columnLimit := by
  intro key invoice stored
  have plain := applied.invoice key
  rw [stored, Option.map_some] at plain
  obtain ⟨earlier, found, same⟩ := Option.map_eq_some_iff.mp plain.symm
  have amounts := congrArg ShippedInvoice.totalAmount same
  have value : earlier.totalAmount = invoice.totalAmount := by
    split at amounts
    · exact amounts
    · split at amounts
      · exact amounts
      · exact amounts
  rw [← value]
  exact kept key earlier found

theorem totals : (after.invoices.total fun _ invoice => invoice.totalAmount) =
    before.invoices.total fun _ invoice => invoice.totalAmount := by
  rw [applied.total _ fun _ _ => rfl]
  apply Table.total_congr
  intro key invoice _
  split
  · rfl
  · split
    · rfl
    · rfl

end Applied

theorem values_sum_le {invoices : Table ShippedInvoice} (ids : List ℕ)
    (priced : ∀ key invoice, invoices.get? key = some invoice →
      0 ≤ invoice.totalAmount ∧ invoice.totalAmount < columnLimit) :
    (values (invoices.rows.filter (ids.contains ·.1))).sum ≤
      invoices.total fun _ invoice => invoice.totalAmount := by
  have chosen : (values (invoices.rows.filter (ids.contains ·.1))).sum =
      (invoices.filter fun key _ => ids.contains key).total
        fun _ invoice => invoice.totalAmount := by
    rfl
  rw [chosen, Table.total_filter]
  apply Table.total_le_total
  intro key invoice stored
  split
  · exact le_rfl
  · exact (priced key invoice stored).1

theorem SoundShares.step {Books : Type} {posting : Posting Books}
    {start before after : ShipmentDesk Books} {op : ShipmentOp}
    (sound : SoundShares start before) (checked : op.Checked)
    (returned : op.run posting before = .ok ⟨⟩ after) :
    SoundShares start after := by
  obtain ⟨groups, applied⟩ := applied_of_ok returned
  refine
    { shared := ?_
      inside := applied.inside sound.inside
      own := applied.ownLines.trans sound.own
      priced := applied.priced sound.priced
      digits := ?_ }
  · intro shipment
    by_cases same : shipment = op.shipment
    · subst same
      refine ⟨groups, applied.sharesOf_self sound.inside, ?_⟩
      rw [applied.costsOf_self, applied.worth_self]
      obtain ⟨name, divided⟩ := applied.divided
      have each : ∀ cost ∈ op.costs.map (·.saved op.shipment), ∀ group,
          cost.divided name (before.chosen op.ids) = .ok group →
            SharedOut (values (before.chosen op.ids)).sum cost group := by
        intro cost member group shares
        obtain ⟨request, listed, rfl⟩ := List.mem_map.mp member
        apply divided_sharedOut (checked request listed)
          (applied.limited request listed) _ _ shares
        · intro row chosen
          exact sound.priced row.1 row.2
            (Table.get?_eq_some.mpr (List.mem_of_mem_filter chosen))
        · exact lt_of_le_of_lt (values_sum_le op.ids sound.priced) sound.digits
      generalize op.costs.map (·.saved op.shipment) = costs at each divided
      clear applied returned checked
      induction divided with
      | nil => exact .nil
      | cons first rest induction =>
          refine .cons (each _ List.mem_cons_self _ first) (induction ?_)
          exact fun cost member => each cost (List.mem_cons_of_mem _ member)
    · rw [applied.sharesOf_other same, applied.costsOf_other same,
        applied.worth_other same]
      exact sound.shared shipment
  · rw [applied.totals]
    exact sound.digits

theorem Unshared.sound {Books : Type} {desk : ShipmentDesk Books}
    (unshared : Unshared desk) : SoundShares desk desk where
  shared shipment := by
    refine ⟨[], ?_, ?_⟩
    · rw [ShipmentDesk.sharesOf, List.flatten_nil, List.filter_eq_nil_iff]
      intro line member
      obtain ⟨row, listed, rfl⟩ := List.mem_map.mp member
      rw [unshared.lines row.1 row.2 (Table.get?_eq_some.mpr listed)]
      simp
    · rw [ShipmentDesk.costsOf, unshared.costs]
      exact .nil
  inside key line shipment stored joined := by
    cases (unshared.lines key line stored).symm.trans joined
  own := rfl
  priced := unshared.priced
  digits := unshared.digits

/-- Amounts that fit are divided exactly, and in every run of calls with checked
costs from a desk without shares, the shares of each shipment are those of its
costs. -/
theorem costs_shared {Books : Type} (posting : Posting Books)
    (start : ShipmentDesk Books) (ops : List ShipmentOp)
    (unshared : Unshared start) (checked : ∀ op ∈ ops, op.Checked) :
    AllocatesExactly ∧ SharesKept posting start
      (Txn.after (ShipmentOp.run posting) ops start) := by
  have rollsBack : ∀ op : ShipmentOp, Txn.RollsBack (op.run posting) :=
    fun op => Txn.rollsBack_atomic _
  refine ⟨allocate_exact, ?_⟩
  have sound : SoundShares start
      (Txn.after (ShipmentOp.run posting) ops start) := by
    refine Txn.after_of_throughout (SoundShares start) rollsBack ?_ ops start
      unshared.sound (Txn.throughout_and (Txn.throughout_true ops start) checked)
    exact fun op before after sound met returned => sound.step met.1 returned
  exact
    { shared := sound.shared
      inside := sound.inside
      own := sound.own
      refused := fun op error final => rollsBack op _ error final }

section Witness

/-- Two invoices worth 600 and 300, and one of 100 that is free, with a cost
line of its own. -/
def shipmentStart : ShipmentDesk PurchaseBooks where
  shipments := Table.insert .empty
    { name := "حاوية"
      branch := 1 }
  costs := .empty
  invoices := (((Table.empty.insert
    { branch := 1
      totalAmount := 60000 }).insert
    { branch := 1
      totalAmount := 30000 }).insert
    { branch := 1
      totalAmount := 10000 })
  extraCosts := Table.insert .empty
    { invoice := 2
      kind := .travel
      behavior := .expense
      label := ""
      amount := 500
      treasury := none
      expenseCategory := none
      shipment := none }
  books :=
    { headers := ((Table.empty.insert
        { vendor := 0
          branch := 1
          totalAmount := 60000 }).insert
        { vendor := 0
          branch := 1
          totalAmount := 30000 }).insert
        { vendor := 0
          branch := 1
          totalAmount := 10000 }
      items := ((Table.empty.insert
        { invoice := 0
          product := 0
          quantity := 6 }).insert
        { invoice := 1
          product := 0
          quantity := 3 }).insert
        { invoice := 2
          product := 0
          quantity := 1 }
      products := Table.insert .empty "فلتر"
      inventory := Table.insert .empty
        { product := 0
          branch := 1
          quantity := 10 }
      vendors := Table.insert .empty 100000
      treasuries := Table.insert .empty 50000 }

/-- The shipping is divided over the first two, and then over all three with
other amounts. -/
def shipmentRun : List ShipmentOp :=
  [{ shipment := 0
     ids := [0, 1]
     costs := [
       { amount := 10000
         treasury := some 0 }] },
   { shipment := 0
     ids := [2, 1]
     costs := [
       { amount := 7001
         treasury := some 0 },
       { kind := .food
         amount := 333 }] }]

example : ((Txn.after (ShipmentOp.run purchasePosting) shipmentRun
    shipmentStart).sharesOf 0).map (fun line => (line.invoice, line.amount)) =
      [(1, 5250), (2, 1751), (1, 249), (2, 84)] := by
  decide +kernel

theorem shipmentStart_unshared : Unshared shipmentStart where
  costs := rfl
  lines := by decide +kernel
  priced := by decide +kernel
  digits := by decide +kernel

/-- In the run the costs are shared. -/
theorem costs_shared_shipmentRun : Unshared shipmentStart ∧
    AllocatesExactly ∧ SharesKept purchasePosting shipmentStart
      (Txn.after (ShipmentOp.run purchasePosting) shipmentRun shipmentStart) :=
  ⟨shipmentStart_unshared, costs_shared purchasePosting shipmentStart
    shipmentRun shipmentStart_unshared (by decide +kernel)⟩

end Witness

def freeStart : ShipmentDesk PurchaseBooks where
  shipments := Table.insert .empty
    { name := "حاوية"
      branch := 1 }
  costs := .empty
  invoices := Table.insert .empty
    { branch := 1
      totalAmount := 0 }
  extraCosts := .empty
  books :=
    { headers := Table.insert .empty
        { vendor := 0
          branch := 1
          totalAmount := 0 }
      items := Table.insert .empty
        { invoice := 0
          product := 0
          quantity := 6 }
      products := Table.insert .empty "عينة"
      inventory := Table.insert .empty
        { product := 0
          branch := 1
          quantity := 6 }
      vendors := Table.insert .empty 0
      treasuries := .empty }

def freeShipment : ShipmentOp where
  shipment := 0
  ids := [0]
  costs := [
    { amount := 10000 }]

/-- An amount beyond the digits of the context is not divided, and neither is a
cost of goods that are worth nothing. -/
theorem not_all_shared :
    (¬ ∀ (amount : ℤ) (bases : List ℤ), 0 ≤ amount →
      (∀ base ∈ bases, 0 ≤ base) → 0 < bases.sum →
        ∃ shares, allocate amount (cents bases) = .ok (cents shares) ∧
          ExactShares amount bases shares) ∧
    ¬ ∀ (start : ShipmentDesk PurchaseBooks) (ops : List ShipmentOp)
      (shipment : ℕ), Unshared start → (∀ op ∈ ops, op.Checked) →
        (((Txn.after (ShipmentOp.run purchasePosting) ops start).sharesOf
          shipment).map ExtraCost.amount).sum =
        (((Txn.after (ShipmentOp.run purchasePosting) ops start).costsOf
          shipment).map ShipmentCost.amount).sum := by
  constructor
  · intro all
    obtain ⟨shares, divided, -⟩ := all (3 * 10 ^ 28) [1, 1] (by norm_num)
      (by decide) (by decide)
    have raised : allocate (3 * 10 ^ 28 : ℤ) (cents [1, 1]) =
        .error .invalidOperation := by
      decide +kernel
    cases raised.symm.trans divided
  · intro all
    have unshared : Unshared freeStart :=
      { costs := rfl
        lines := by decide +kernel
        priced := by decide +kernel
        digits := by decide +kernel }
    have shared := all freeStart [freeShipment] 0 unshared (by decide +kernel)
    revert shared
    decide +kernel

end Shipments

end Stock

end Mousstec
