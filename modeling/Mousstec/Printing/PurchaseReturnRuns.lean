import Mousstec.Printing.PurchaseReturnFacts

/-!
# Returns within their purchase

Whatever is posted stays within what was bought, in quantity and in value, as
long as a return names every purchase line once, no share of the purchase is
negative, and no line is rounded up.
-/

namespace Mousstec.Printing

open Library

private theorem sum_le_of_distinct {α : Type} {key : α → ℕ} {amount : α → ℤ}
    {rows : List α} (distinct : (rows.map key).Nodup) {chosen : ℕ} {bound : ℤ}
    (nonneg : 0 ≤ bound)
    (within : ∀ row ∈ rows, key row = chosen → amount row ≤ bound) :
    (rows.map fun row => if key row = chosen then amount row else 0).sum ≤
      bound := by
  induction rows with
  | nil => exact nonneg
  | cons row rows induction =>
      rw [List.map_cons, List.nodup_cons] at distinct
      rw [List.map_cons, List.sum_cons]
      split
      · rename_i here
        have rest : (rows.map fun row =>
            if key row = chosen then amount row else 0).sum = 0 := by
          apply List.sum_eq_zero
          intro value member
          obtain ⟨other, listed, rfl⟩ := List.mem_map.mp member
          rw [if_neg]
          intro same
          exact distinct.1 ((here.trans same.symm) ▸ List.mem_map_of_mem listed)
        rw [rest, add_zero]
        exact within row List.mem_cons_self here
      · rw [zero_add]
        exact induction distinct.2 fun other member =>
          within other (List.mem_cons_of_mem _ member)

namespace Posting

variable {before after : Shop} {pk : ℕ} {ret : MaterialPurchaseReturn}
  {purchase : MaterialPurchase} (posting : Posting pk ret purchase before after)

include posting

theorem wasDraft : before.isPosted pk = false := by
  simp [Shop.isPosted, posting.found, posting.draft]

/-- Only the return itself is posted now. -/
theorem isPosted_eq (other : ℕ) :
    after.isPosted other = (decide (other = pk) || before.isPosted other) := by
  obtain ⟨posted, returns, -, status, -⟩ := posting.returns
  unfold Shop.isPosted
  rw [returns, Table.get?_modify]
  by_cases here : other = pk
  · simp [here, posting.found, status]
  · simp [here]

/-- Purchases change in their paid amounts only. -/
theorem purchase_eq {key : ℕ} {stored : MaterialPurchase}
    (found : after.purchases.get? key = some stored) :
    ∃ paid, before.purchases.get? key =
      some { stored with paidAmount := paid } := by
  have same := posting.purchases key
  rw [found, Option.map_some] at same
  obtain ⟨earlier, kept, equal⟩ := Option.map_eq_some_iff.mp same.symm
  refine ⟨earlier.paidAmount, ?_⟩
  rw [kept, Option.some.injEq]
  cases earlier
  cases stored
  simpa [MaterialPurchase.unpaid] using equal

theorem linesOf_eq (key : ℕ) : after.linesOf key = before.linesOf key := by
  unfold Shop.linesOf
  rw [posting.purchaseLines]

theorem shareOf_eq (key : ℕ) : after.shareOf key = before.shareOf key := by
  unfold Shop.shareOf
  rw [posting.purchaseLines]
  cases before.purchaseLines.get? key with
  | none => rfl
  | some bought =>
      have same := posting.purchases bought.purchase
      cases found : after.purchases.get? bought.purchase with
      | none =>
          rw [found, Option.map_none] at same
          have earlier := Option.map_eq_none_iff.mp same.symm
          simp only [found, earlier]
      | some stored =>
          obtain ⟨paid, earlier⟩ := posting.purchase_eq found
          simp only [found, earlier, posting.linesOf_eq]
          rw [MaterialPurchase.effectiveLineTotals_congr]
          rfl

theorem partOf_eq (line : MaterialPurchaseReturnLine) (value : ℤ) :
    after.partOf { line with value } = before.partOf line := by
  unfold Shop.partOf Shop.purchasedQuantity
  rw [posting.shareOf_eq, posting.purchaseLines]

theorem bought (sound : Bought before) : Bought after where
  quantities := by
    rw [posting.purchaseLines]
    exact sound.quantities
  discounted := by
    intro key stored found received
    obtain ⟨paid, earlier⟩ := posting.purchase_eq found
    rw [posting.linesOf_eq]
    have discounted := sound.discounted key _ earlier received
    exact ⟨discounted.lineTotals, discounted.total, discounted.discount,
      discounted.within⟩

theorem returnedQuantity_eq (key : ℕ) :
    after.returnedQuantity key =
      before.returnedQuantity key +
        ((before.returnLinesOf pk).map fun row =>
          if row.2.purchaseLine = key then row.2.quantity else 0).sum := by
  rw [sum_returnLinesOf before fun line =>
    if line.purchaseLine = key then line.quantity else 0]
  unfold Shop.returnedQuantity
  rw [posting.lines, Table.total_map, ← Table.total_add]
  apply Table.total_congr
  intro other line _
  rw [posting.isPosted_eq]
  by_cases here : line.ret = pk
  · by_cases chosen : line.purchaseLine = key
    · simp [here, chosen, posting.wasDraft]
    · simp [here, chosen]
  · by_cases chosen : line.purchaseLine = key
    · simp [here, chosen]
    · simp [here, chosen]

theorem quantities (sound : SoundReturns before)
    (distinct : ((before.returnLinesOf pk).map fun row =>
      row.2.purchaseLine).Nodup)
    {key : ℕ} {bought : MaterialPurchaseLine}
    (stored : before.purchaseLines.get? key = some bought) :
    after.returnedQuantity key ≤ bought.quantity := by
  have kept := sound.quantities key bought stored
  have added : ((before.returnLinesOf pk).map fun row =>
      if row.2.purchaseLine = key then row.2.quantity else 0).sum ≤
        bought.quantity - before.returnedQuantity key := by
    apply sum_le_of_distinct distinct
    · omega
    · intro row member here
      obtain ⟨found, purchased, -, enough⟩ := posting.accepted row member
      rw [here, stored, Option.some.injEq] at purchased
      rw [here, ← purchased] at enough
      exact enough
  rw [posting.returnedQuantity_eq key]
  omega

theorem total_value (other : ℕ) :
    (after.purchaseReturnLines.total fun _ line =>
        if line.ret = other then line.value else 0) =
      if other = pk then
        ((before.returnLinesOf pk).map fun row => before.valueOf row.2).sum
      else
        before.purchaseReturnLines.total fun _ line =>
          if line.ret = other then line.value else 0 := by
  rw [posting.lines, Table.total_map]
  split
  · rename_i here
    rw [sum_returnLinesOf before before.valueOf, here]
    apply Table.total_congr
    intro key line _
    by_cases own : line.ret = pk
    · simp [own]
    · simp [own]
  · rename_i different
    apply Table.total_congr
    intro key line _
    by_cases own : line.ret = pk
    · simp [own, Ne.symm different]
    · simp [own]

theorem sound (sound : SoundReturns before) (careful : PostsCarefully before pk) :
    SoundReturns after where
  bought := posting.bought sound.bought
  lines := by
    obtain ⟨posted, returns, ofPurchase, -, -⟩ := posting.returns
    intro key line stored isPosted
    rw [posting.lines, Table.get?_map, Option.map_eq_some_iff] at stored
    obtain ⟨earlier, stored, rfl⟩ := stored
    by_cases own : earlier.ret = pk
    · have listed : (key, earlier) ∈ before.returnLinesOf pk :=
        mem_returnLinesOf.mpr ⟨stored, own⟩
      obtain ⟨bought, found, purchased, -⟩ := posting.accepted _ listed
      have within := careful.roundedDown _ listed
      rw [if_pos own]
      refine ⟨⟨bought, ?_, ?_⟩, ?_⟩
      · rw [posting.purchaseLines]
        exact found
      · rw [returns]
        simp [own, posting.found, ofPurchase, purchased]
      · rw [posting.partOf_eq]
        exact within
    · rw [if_neg own] at isPosted ⊢
      rw [posting.isPosted_eq] at isPosted
      have before' : before.isPosted earlier.ret = true := by
        simpa [own] using isPosted
      obtain ⟨⟨bought, found, purchased⟩, within⟩ :=
        sound.lines key earlier stored before'
      refine ⟨⟨bought, ?_, ?_⟩, ?_⟩
      · rw [posting.purchaseLines]
        exact found
      · rw [returns, Table.get?_modify_of_ne _ own]
        exact purchased
      · have same := posting.partOf_eq earlier earlier.value
        rw [same]
        exact within
  returns := by
    obtain ⟨posted, returns, ofPurchase, -, value⟩ := posting.returns
    intro other stored found status
    rw [returns, Table.get?_modify] at found
    by_cases here : other = pk
    · rw [if_pos here, posting.found, Option.map_some, Option.some.injEq] at found
      subst found
      constructor
      · have same := posting.purchases ret.purchase
        rw [posting.purchase_found, Option.map_some] at same
        obtain ⟨later, kept, -⟩ := Option.map_eq_some_iff.mp same
        obtain ⟨paid, earlier⟩ := posting.purchase_eq kept
        refine ⟨later, ?_, ?_⟩
        · rw [ofPurchase]
          exact kept
        · have covered := careful.covered ret posting.found _ earlier
          rw [ofPurchase, posting.linesOf_eq]
          exact covered
      · rw [posting.total_value, if_pos here]
        exact value
    · rw [if_neg here] at found
      obtain ⟨⟨covering, kept, covered⟩, worth⟩ :=
        sound.returns other stored found status
      constructor
      · have same := posting.purchases stored.purchase
        rw [kept, Option.map_some] at same
        obtain ⟨later, present, -⟩ := Option.map_eq_some_iff.mp same
        obtain ⟨paid, earlier⟩ := posting.purchase_eq present
        rw [kept, Option.some.injEq] at earlier
        subst earlier
        refine ⟨later, present, ?_⟩
        rw [posting.linesOf_eq]
        exact covered
      · rw [posting.total_value, if_neg here]
        exact worth
  quantities := by
    intro key bought stored
    rw [posting.purchaseLines] at stored
    exact posting.quantities sound careful.distinct stored

end Posting

theorem SoundReturns.of_unreturned {shop : Shop} (fresh : Unreturned shop) :
    SoundReturns shop where
  bought := fresh.bought
  lines := by
    intro key line stored
    rw [Table.get?_eq_some, fresh.lines] at stored
    cases stored
  returns := by
    intro pk ret stored
    rw [Table.get?_eq_some, fresh.returns] at stored
    cases stored
  quantities := by
    intro key bought stored
    have none : shop.returnedQuantity key = 0 := by
      unfold Shop.returnedQuantity Table.total
      rw [fresh.lines]
      rfl
    rw [none]
    exact (fresh.bought.quantities key bought stored).le

theorem rollsBack_postReturn (pk : ℕ) : Txn.RollsBack (postReturn pk) :=
  Txn.rollsBack_atomic _

theorem rollsBack_run (op : ReturnOp) : Txn.RollsBack op.run := by
  intro before error after failed
  cases op with
  | create purchase date refundTreasury =>
      simp only [ReturnOp.run, createReturn, Txn.bind_eq_error,
        Txn.get_eq_error, Txn.get_eq_ok, Txn.expect_eq_error, Txn.expect_eq_ok,
        Txn.set_eq_error] at failed
      grind
  | addLine ret purchaseLine quantity =>
      simp only [ReturnOp.run, addReturnLine, checkDraft, Txn.bind_eq_error,
        Txn.get_eq_error, Txn.get_eq_ok, Txn.expect_eq_error, Txn.expect_eq_ok,
        Txn.require_eq_error, Txn.require_eq_ok, Txn.set_eq_error] at failed
      grind
  | changeLine pk purchaseLine quantity =>
      simp only [ReturnOp.run, changeReturnLine, checkDraft, Txn.bind_eq_error,
        Txn.get_eq_error, Txn.get_eq_ok, Txn.expect_eq_error, Txn.expect_eq_ok,
        Txn.require_eq_error, Txn.require_eq_ok, Txn.set_eq_error] at failed
      grind
  | deleteLine pk =>
      simp only [ReturnOp.run, deleteReturnLine, checkDraft, Txn.bind_eq_error,
        Txn.get_eq_error, Txn.get_eq_ok, Txn.expect_eq_error, Txn.expect_eq_ok,
        Txn.require_eq_error, Txn.require_eq_ok, Txn.set_eq_error] at failed
      grind
  | delete pk =>
      simp only [ReturnOp.run, deleteReturn, Txn.bind_eq_error,
        Txn.get_eq_error, Txn.get_eq_ok, Txn.expect_eq_error, Txn.expect_eq_ok,
        Txn.require_eq_error, Txn.require_eq_ok, Txn.set_eq_error] at failed
      grind
  | post pk => exact rollsBack_postReturn pk before error after failed
  | stock material row => cases failed

/-- The step lemma. -/
theorem SoundReturns.step (op : ReturnOp) (before after : Shop)
    (sound : SoundReturns before) (careful : op.Careful before)
    (returned : op.run before = .ok ⟨⟩ after) : SoundReturns after := by
  cases op with
  | create purchase date refundTreasury =>
      exact (createReturn_kept returned).sound sound
  | addLine ret purchaseLine quantity =>
      exact (addReturnLine_kept returned).sound sound
  | changeLine pk purchaseLine quantity =>
      exact (changeReturnLine_kept returned).sound sound
  | deleteLine pk => exact (deleteReturnLine_kept returned).sound sound
  | delete pk => exact (deleteReturn_kept returned).sound sound
  | post pk =>
      obtain ⟨ret, purchase, posting⟩ := postReturn_ok returned
      exact posting.sound sound careful
  | stock material row =>
      obtain rfl := Txn.modify_eq_ok.mp returned
      have kept : PostedKept before
          { before with
            materials := before.materials.modify material fun _ => row } :=
        ⟨rfl, rfl, fun _ => rfl, fun _ => rfl⟩
      exact kept.sound sound

/-- In every run of careful postings nothing more goes back than what was bought,
and a posting that raises changes nothing. -/
theorem returns_bounded (shop : Shop) (ops : List ReturnOp)
    (fresh : Unreturned shop)
    (careful : Txn.Throughout ReturnOp.run ReturnOp.Careful ops shop) :
    ReturnsBounded (Txn.after ReturnOp.run ops shop) ∧
      ∀ pk, Txn.RollsBack (postReturn pk) := by
  constructor
  · exact (Txn.after_of_throughout SoundReturns rollsBack_run SoundReturns.step
      ops shop (.of_unreturned fresh) careful).bounded
  · exact rollsBack_postReturn

def paperBought : Shop where
  purchases := Table.empty.insert
    { supplier := 0, status := .received, paymentTerms := .credit,
      totalAmount := 3000 }
  purchaseLines := (Table.empty.insert
      { purchase := 0, material := 0, quantity := 1000, unitCost := 20000,
        lineTotal := 2000 }).insert
    { purchase := 0, material := 1, quantity := 500, unitCost := 20000,
      lineTotal := 1000 }
  materials := (Table.empty.insert { quantity := 3000, costPerUnit := 20000 }).insert
    { quantity := 500, costPerUnit := 20000 }

def twoReturns : List ReturnOp :=
  [.create 0 0 none, .addLine 0 0 400, .addLine 0 1 500, .post 0,
    .create 0 1 none, .addLine 1 0 600, .post 1]

theorem returns_bounded_twoReturns :
    ReturnsBounded (Txn.after ReturnOp.run twoReturns paperBought) ∧
      ∀ pk, Txn.RollsBack (postReturn pk) :=
  returns_bounded paperBought twoReturns
    ⟨⟨by decide +kernel, by decide +kernel⟩, rfl, rfl⟩
    (Txn.throughout_of_checks (by decide +kernel))

example : (Txn.after ReturnOp.run twoReturns paperBought).returnedQuantity 0 =
    1000 := by
  decide +kernel

/-- A return names the same ten units twice. -/
theorem returns_exceed_twice :
    ¬ ∀ (shop : Shop) (ops : List ReturnOp), Unreturned shop →
      ReturnsBounded (Txn.after ReturnOp.run ops shop) := by
  intro always
  have bounded := always paperBought
    [.create 0 0 none, .addLine 0 0 1000, .addLine 0 0 1000, .post 0]
    ⟨⟨by decide +kernel, by decide +kernel⟩, rfl, rfl⟩
  have enough := bounded.quantities 0
    { purchase := 0, material := 0, quantity := 1000, unitCost := 20000,
      lineTotal := 2000 } (by decide +kernel)
  exact absurd enough (by decide +kernel)

end Mousstec.Printing
