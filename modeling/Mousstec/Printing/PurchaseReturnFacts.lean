import Mousstec.Printing.ChequeRuns
import Mousstec.Printing.PurchaseReturns

/-!
# What goes back of a purchase

The value of the posted returns of a purchase is the value of their lines, and
every line stands for a part of its purchase line.  Steps on drafts leave all of
that alone; posting a return adds its lines.
-/

namespace Mousstec.Printing

open Library

namespace Shop

def shareOf (shop : Shop) (purchaseLine : ℕ) : ℤ :=
  match shop.purchaseLines.get? purchaseLine with
  | none => 0
  | some bought =>
      match shop.purchases.get? bought.purchase with
      | none => 0
      | some purchase =>
          ((purchase.effectiveLineTotals (shop.linesOf bought.purchase)).lookup
            purchaseLine).getD 0

def purchasedQuantity (shop : Shop) (purchaseLine : ℕ) : ℤ :=
  ((shop.purchaseLines.get? purchaseLine).map MaterialPurchaseLine.quantity).getD 0

def valueOf (shop : Shop) (line : MaterialPurchaseReturnLine) : ℤ :=
  lineValue (shop.shareOf line.purchaseLine) line.quantity
    (shop.purchasedQuantity line.purchaseLine)

def partOf (shop : Shop) (line : MaterialPurchaseReturnLine) : ℚ :=
  line.quantity * shop.shareOf line.purchaseLine /
    shop.purchasedQuantity line.purchaseLine

end Shop

/-- Nothing more goes back than what was bought. -/
structure ReturnsBounded (shop : Shop) : Prop where
  quantities : ∀ key bought, shop.purchaseLines.get? key = some bought →
    shop.returnedQuantity key ≤ bought.quantity
  values : ∀ key purchase, shop.purchases.get? key = some purchase →
    purchase.status = .received →
    shop.returnedValue key ≤ purchase.inventoryValue

/-- What the forms and the receipt of a purchase leave behind. -/
structure Bought (shop : Shop) : Prop where
  quantities : ∀ key bought, shop.purchaseLines.get? key = some bought →
    0 < bought.quantity
  discounted : ∀ key purchase, shop.purchases.get? key = some purchase →
    purchase.status = .received → purchase.Discounted (shop.linesOf key)

structure Unreturned (shop : Shop) : Prop where
  bought : Bought shop
  returns : shop.purchaseReturns.rows = []
  lines : shop.purchaseReturnLines.rows = []

/-- A return that is posted names every purchase line once, no share of its
purchase is negative, and no line is rounded up. -/
structure PostsCarefully (shop : Shop) (pk : ℕ) : Prop where
  distinct : ((shop.returnLinesOf pk).map fun row => row.2.purchaseLine).Nodup
  covered : ∀ ret, shop.purchaseReturns.get? pk = some ret →
    ∀ purchase, shop.purchases.get? ret.purchase = some purchase →
      purchase.LastPartCovers (shop.linesOf ret.purchase)
  roundedDown : ∀ row ∈ shop.returnLinesOf pk,
    (shop.valueOf row.2 : ℚ) ≤ shop.partOf row.2

instance decidablePostsCarefully (shop : Shop) (pk : ℕ) :
    Decidable (PostsCarefully shop pk) :=
  decidable_of_iff
    (((shop.returnLinesOf pk).map fun row => row.2.purchaseLine).Nodup ∧
      ((shop.purchaseReturns.get? pk).all fun ret =>
        (shop.purchases.get? ret.purchase).all fun purchase =>
          purchase.LastPartCovers (shop.linesOf ret.purchase)) = true ∧
      ((shop.returnLinesOf pk).all fun row =>
        (shop.valueOf row.2 : ℚ) ≤ shop.partOf row.2) = true)
    ⟨fun holds => ⟨holds.1, by simpa [Option.all_eq_true] using holds.2.1,
        by simpa using holds.2.2⟩,
      fun holds => ⟨holds.distinct,
        by simpa [Option.all_eq_true] using holds.covered,
        by simpa using holds.roundedDown⟩⟩

/-- The steps that keep returns within their purchase. -/
def ReturnOp.Careful : ReturnOp → Shop → Prop
  | .post pk, shop => PostsCarefully shop pk
  | _, _ => True

instance ReturnOp.decidableCareful (op : ReturnOp) (shop : Shop) :
    Decidable (op.Careful shop) := by
  cases op with
  | post pk => exact decidablePostsCarefully shop pk
  | create purchase date refundTreasury => exact .isTrue trivial
  | addLine ret purchaseLine quantity => exact .isTrue trivial
  | changeLine pk purchaseLine quantity => exact .isTrue trivial
  | deleteLine pk => exact .isTrue trivial
  | delete pk => exact .isTrue trivial
  | stock material row => exact .isTrue trivial

/-- The lines of a posted return are lines of its purchase, at no more than
their part. -/
structure LineSound (shop : Shop) (line : MaterialPurchaseReturnLine) : Prop where
  bought : ∃ bought, shop.purchaseLines.get? line.purchaseLine = some bought ∧
    (shop.purchaseReturns.get? line.ret).map MaterialPurchaseReturn.purchase =
      some bought.purchase
  within : (line.value : ℚ) ≤ shop.partOf line

/-- A posted return is of a received purchase without negative shares, at the
value of its lines. -/
structure PostedSound (shop : Shop) (pk : ℕ) (ret : MaterialPurchaseReturn) :
    Prop where
  purchase : ∃ purchase, shop.purchases.get? ret.purchase = some purchase ∧
    purchase.LastPartCovers (shop.linesOf ret.purchase)
  value : ret.value = shop.purchaseReturnLines.total fun _ line =>
    if line.ret = pk then line.value else 0

structure SoundReturns (shop : Shop) : Prop where
  bought : Bought shop
  lines : ∀ key line, shop.purchaseReturnLines.get? key = some line →
    shop.isPosted line.ret = true → LineSound shop line
  returns : ∀ pk ret, shop.purchaseReturns.get? pk = some ret →
    ret.status = .posted → PostedSound shop pk ret
  quantities : ∀ key bought, shop.purchaseLines.get? key = some bought →
    shop.returnedQuantity key ≤ bought.quantity

section Values

variable {shop : Shop}

theorem isPosted_iff {ret : ℕ} : shop.isPosted ret = true ↔
    ∃ row, shop.purchaseReturns.get? ret = some row ∧ row.status = .posted := by
  simp [Shop.isPosted, Option.any_eq_true]

theorem SoundReturns.returnedValue_eq (sound : SoundReturns shop)
    (purchase : ℕ) :
    shop.returnedValue purchase =
      shop.purchaseReturnLines.total fun _ line =>
        ((shop.purchaseReturns.get? line.ret).map fun ret =>
          if ret.purchase = purchase ∧ ret.status = .posted then line.value
          else 0).getD 0 := by
  calc
    shop.returnedValue purchase =
        shop.purchaseReturns.total fun pk ret =>
          shop.purchaseReturnLines.total fun _ line =>
            if pk = line.ret then
              if ret.purchase = purchase ∧ ret.status = .posted then line.value
              else 0
            else 0 := by
      apply Table.total_congr
      intro pk ret stored
      by_cases posted : ret.purchase = purchase ∧ ret.status = .posted
      · simp only [posted, and_self, if_true]
        rw [(sound.returns pk ret stored posted.2).value]
        apply Table.total_congr
        intro key line _
        simp only [eq_comm]
      · simp only [posted, if_false, ite_self]
        rw [Table.total_eq_zero]
        intro _ _ _
        rfl
    _ = _ := by
      rw [Table.total_comm]
      apply Table.total_congr
      intro key line _
      exact Table.total_single shop.purchaseReturns line.ret fun ret =>
        if ret.purchase = purchase ∧ ret.status = .posted then line.value else 0

private theorem lookup_of_mem {shares : List (ℕ × ℤ)}
    (distinct : (shares.map Prod.fst).Nodup) {share : ℕ × ℤ}
    (member : share ∈ shares) : shares.lookup share.1 = some share.2 := by
  induction shares with
  | nil => cases member
  | cons first shares induction =>
      rw [List.map_cons, List.nodup_cons] at distinct
      rcases List.mem_cons.mp member with rfl | later
      · rw [List.lookup_cons, beq_self_eq_true]
      · have different : share.1 ≠ first.1 := by
          intro same
          exact distinct.1 (same ▸ List.mem_map_of_mem later)
        rw [List.lookup_cons, beq_false_of_ne different]
        exact induction distinct.2 later

theorem shareOf_eq {key p : ℕ} {bought : MaterialPurchaseLine}
    {purchase : MaterialPurchase}
    (stored : shop.purchaseLines.get? key = some bought)
    (found : shop.purchases.get? p = some purchase)
    (ofPurchase : bought.purchase = p) :
    shop.shareOf key =
      ((purchase.effectiveLineTotals (shop.linesOf p)).lookup key).getD 0 := by
  subst ofPurchase
  simp [Shop.shareOf, stored, found]

theorem linesOf_keys_nodup (shop : Shop) (p : ℕ) :
    ((shop.linesOf p).map Prod.fst).Nodup :=
  Table.keys_nodup _

theorem mem_linesOf {key p : ℕ} {bought : MaterialPurchaseLine} :
    (key, bought) ∈ shop.linesOf p ↔
      shop.purchaseLines.get? key = some bought ∧ bought.purchase = p := by
  rw [Table.get?_eq_some, Shop.linesOf, Table.filter, List.mem_filter]
  simp

section OfPurchase

variable {p : ℕ} {purchase : MaterialPurchase}
  (found : shop.purchases.get? p = some purchase)

include found

theorem shareOf_mem {key : ℕ} {bought : MaterialPurchaseLine}
    (stored : shop.purchaseLines.get? key = some bought)
    (ofPurchase : bought.purchase = p) :
    (key, shop.shareOf key) ∈ purchase.effectiveLineTotals (shop.linesOf p) := by
  have listed : key ∈ (purchase.effectiveLineTotals (shop.linesOf p)).map
      Prod.fst := by
    rw [purchase.effectiveLineTotals_keys]
    exact List.mem_map_of_mem (mem_linesOf.mpr ⟨stored, ofPurchase⟩)
  obtain ⟨share, member, rfl⟩ := List.mem_map.mp listed
  have distinct : ((purchase.effectiveLineTotals (shop.linesOf p)).map
      Prod.fst).Nodup := by
    rw [purchase.effectiveLineTotals_keys]
    exact linesOf_keys_nodup shop p
  rw [shareOf_eq stored found ofPurchase, lookup_of_mem distinct member]
  exact member

theorem total_shareOf (discounted : purchase.Discounted (shop.linesOf p)) :
    (shop.purchaseLines.total fun key bought =>
        if bought.purchase = p then shop.shareOf key else 0) =
      purchase.inventoryValue := by
  have distinct : ((purchase.effectiveLineTotals (shop.linesOf p)).map
      Prod.fst).Nodup := by
    rw [purchase.effectiveLineTotals_keys]
    exact linesOf_keys_nodup shop p
  have kept := Table.total_filter shop.purchaseLines
    (fun _ bought => bought.purchase = p) (fun key _ => shop.shareOf key)
  simp only [decide_eq_true_eq] at kept
  rw [← kept]
  calc
    _ = ((shop.linesOf p).map fun line => shop.shareOf line.1).sum := rfl
    _ = (((shop.linesOf p).map Prod.fst).map shop.shareOf).sum := by
      rw [List.map_map]
      rfl
    _ = (((purchase.effectiveLineTotals (shop.linesOf p)).map Prod.fst).map
          shop.shareOf).sum := by
      rw [purchase.effectiveLineTotals_keys]
    _ = ((purchase.effectiveLineTotals (shop.linesOf p)).map Prod.snd).sum := by
      rw [List.map_map]
      congr 1
      apply List.map_congr_left
      intro share member
      have key : share.1 ∈ (shop.linesOf p).map Prod.fst := by
        rw [← purchase.effectiveLineTotals_keys]
        exact List.mem_map_of_mem member
      obtain ⟨line, listed, same⟩ := List.mem_map.mp key
      obtain ⟨stored, ofPurchase⟩ := mem_linesOf.mp listed
      rw [Function.comp_apply, ← same, shareOf_eq stored found ofPurchase, same,
        lookup_of_mem distinct member]
      rfl
    _ = purchase.inventoryValue :=
      MaterialPurchase.effectiveLineTotals_exact discounted

end OfPurchase

def Shop.taken (shop : Shop) (p key : ℕ) (bought : MaterialPurchaseLine)
    (line : MaterialPurchaseReturnLine) : ℚ :=
  if key = line.purchaseLine then
    if bought.purchase = p ∧ shop.isPosted line.ret = true then
      line.quantity * shop.shareOf key / bought.quantity
    else 0
  else 0

theorem SoundReturns.lineValue_le (sound : SoundReturns shop) (p : ℕ)
    {key : ℕ} {line : MaterialPurchaseReturnLine}
    (stored : shop.purchaseReturnLines.get? key = some line) :
    ((((shop.purchaseReturns.get? line.ret).map fun ret =>
        if ret.purchase = p ∧ ret.status = .posted then line.value
        else 0).getD 0 : ℤ) : ℚ) ≤
      shop.purchaseLines.total fun other bought =>
        shop.taken p other bought line := by
  have single := Table.total_single shop.purchaseLines line.purchaseLine
    fun bought : MaterialPurchaseLine =>
      if bought.purchase = p ∧ shop.isPosted line.ret = true then
        (line.quantity * shop.shareOf line.purchaseLine / bought.quantity : ℚ)
      else 0
  have same : (shop.purchaseLines.total fun other bought =>
      shop.taken p other bought line) =
        shop.purchaseLines.total fun other bought =>
          if other = line.purchaseLine then
            if bought.purchase = p ∧ shop.isPosted line.ret = true then
              (line.quantity * shop.shareOf line.purchaseLine /
                bought.quantity : ℚ)
            else 0
          else 0 := by
    apply Table.total_congr
    intro other bought _
    unfold Shop.taken
    by_cases here : other = line.purchaseLine
    · rw [here]
    · rw [if_neg here, if_neg here]
  rw [same, single]
  by_cases posted : shop.isPosted line.ret = true
  · obtain ⟨ret, stored', status⟩ := isPosted_iff.mp posted
    obtain ⟨⟨bought, found, ofPurchase⟩, within⟩ := sound.lines key line stored posted
    rw [stored', Option.map_some, Option.some.injEq] at ofPurchase
    rw [found, stored']
    simp only [Option.map_some, Option.getD_some, status, and_true, posted,
      ofPurchase]
    split
    · simpa [Shop.partOf, Shop.purchasedQuantity, found] using within
    · simp
  · have none : ((shop.purchaseReturns.get? line.ret).map fun ret =>
        if ret.purchase = p ∧ ret.status = .posted then line.value
        else 0).getD 0 = 0 := by
      cases stored' : shop.purchaseReturns.get? line.ret with
      | none => rfl
      | some ret =>
          have draft : ret.status ≠ .posted := fun status =>
            posted (isPosted_iff.mpr ⟨ret, stored', status⟩)
          simp [draft]
    rw [none]
    cases shop.purchaseLines.get? line.purchaseLine with
    | none => simp
    | some bought => simp [posted]

theorem total_taken (p key : ℕ) (bought : MaterialPurchaseLine) :
    (shop.purchaseReturnLines.total fun _ line => shop.taken p key bought line) =
      if bought.purchase = p then
        (shop.shareOf key : ℚ) / bought.quantity * shop.returnedQuantity key
      else 0 := by
  by_cases ofPurchase : bought.purchase = p
  · have scaled := Table.map_total
      ((AddMonoidHom.mulLeft ((shop.shareOf key : ℚ) / bought.quantity)).comp
        (Int.castAddHom ℚ)) shop.purchaseReturnLines
      (fun _ line => if line.purchaseLine = key ∧ shop.isPosted line.ret = true
        then line.quantity else 0)
    rw [if_pos ofPurchase]
    refine Eq.trans ?_ scaled.symm
    apply Table.total_congr
    intro other line _
    unfold Shop.taken
    by_cases here : key = line.purchaseLine
    · by_cases posted : shop.isPosted line.ret = true
      · simp [here, posted, ofPurchase]
        ring
      · simp [here, posted]
    · simp [here, Ne.symm here]
  · rw [if_neg ofPurchase]
    apply Table.total_eq_zero
    intro other line _
    simp [Shop.taken, ofPurchase]

theorem SoundReturns.returnedValue_le (sound : SoundReturns shop) {p : ℕ}
    {purchase : MaterialPurchase} (found : shop.purchases.get? p = some purchase)
    (received : purchase.status = .received)
    (covered : purchase.LastPartCovers (shop.linesOf p)) :
    shop.returnedValue p ≤ purchase.inventoryValue := by
  have discounted := sound.bought.discounted p purchase found received
  have split := MaterialPurchase.splitExactly_of_covers discounted covered
  have cast := Table.map_total (Int.castAddHom ℚ) shop.purchaseReturnLines
    (fun _ line => ((shop.purchaseReturns.get? line.ret).map fun ret =>
      if ret.purchase = p ∧ ret.status = .posted then line.value else 0).getD 0)
  have below : (shop.returnedValue p : ℚ) ≤ purchase.inventoryValue := by
    calc
      (shop.returnedValue p : ℚ) =
          shop.purchaseReturnLines.total fun _ line =>
            ((((shop.purchaseReturns.get? line.ret).map fun ret =>
              if ret.purchase = p ∧ ret.status = .posted then line.value
              else 0).getD 0 : ℤ) : ℚ) := by
        rw [sound.returnedValue_eq p]
        exact cast
      _ ≤ shop.purchaseReturnLines.total fun _ line =>
            shop.purchaseLines.total fun key bought =>
              shop.taken p key bought line :=
        Table.total_le_total fun _ _ stored => sound.lineValue_le p stored
      _ = shop.purchaseLines.total fun key bought =>
            if bought.purchase = p then
              (shop.shareOf key : ℚ) / bought.quantity *
                shop.returnedQuantity key
            else 0 := by
        rw [Table.total_comm]
        apply Table.total_congr
        intro key bought _
        exact total_taken p key bought
      _ ≤ shop.purchaseLines.total fun key bought =>
            (((if bought.purchase = p then shop.shareOf key else 0) : ℤ) : ℚ) := by
        apply Table.total_le_total
        intro key bought stored
        split
        · rename_i ofPurchase
          have sign : (0 : ℚ) ≤ shop.shareOf key := by
            exact_mod_cast split.nonneg _ (shareOf_mem found stored ofPurchase)
          have positive : (0 : ℚ) < bought.quantity := by
            exact_mod_cast sound.bought.quantities key bought stored
          have most : (shop.returnedQuantity key : ℚ) ≤ bought.quantity := by
            exact_mod_cast sound.quantities key bought stored
          calc
            (shop.shareOf key : ℚ) / bought.quantity * shop.returnedQuantity key ≤
                shop.shareOf key / bought.quantity * bought.quantity := by
              gcongr
            _ = shop.shareOf key := div_mul_cancel₀ _ positive.ne'
        · simp
      _ = purchase.inventoryValue := by
        rw [← total_shareOf found discounted]
        exact (Table.map_total (Int.castAddHom ℚ) shop.purchaseLines _).symm
  exact_mod_cast below

theorem SoundReturns.bounded (sound : SoundReturns shop) :
    ReturnsBounded shop where
  quantities := sound.quantities
  values := by
    intro p purchase found received
    by_cases some : ∃ pk ret, shop.purchaseReturns.get? pk = some ret ∧
        ret.purchase = p ∧ ret.status = .posted
    · obtain ⟨pk, ret, stored, rfl, posted⟩ := some
      obtain ⟨other, found', covered⟩ := (sound.returns pk ret stored posted).purchase
      rw [found, Option.some.injEq] at found'
      subst found'
      exact sound.returnedValue_le found received covered
    · have nothing : shop.returnedValue p = 0 := by
        apply Table.total_eq_zero
        intro pk ret stored
        rw [if_neg]
        rintro ⟨ofPurchase, posted⟩
        exact some ⟨pk, ret, stored, ofPurchase, posted⟩
      rw [nothing]
      have within := (sound.bought.discounted p purchase found received).within
      exact Int.sub_nonneg.mpr within

end Values

/-- A step that leaves the purchases and everything posted alone. -/
structure PostedKept (before after : Shop) : Prop where
  purchases : after.purchases = before.purchases
  purchaseLines : after.purchaseLines = before.purchaseLines
  returns : ∀ pk, (after.purchaseReturns.get? pk).filter
      (fun ret => ret.status = .posted) =
    (before.purchaseReturns.get? pk).filter fun ret => ret.status = .posted
  lines : ∀ key, (after.purchaseReturnLines.get? key).filter
      (fun line => before.isPosted line.ret) =
    (before.purchaseReturnLines.get? key).filter
      fun line => before.isPosted line.ret

private theorem any_eq_isSome {α : Type} (keep : α → Bool) (row : Option α) :
    row.any keep = (row.filter keep).isSome := by
  cases row with
  | none => rfl
  | some row => cases kept : keep row <;> simp [kept]

private theorem filter_draft {shop : Shop} {line : MaterialPurchaseReturnLine}
    (draft : shop.isPosted line.ret = false) :
    Option.filter (fun line => shop.isPosted line.ret) (some line) = none := by
  rw [Option.filter_some, draft]
  rfl

namespace PostedKept

variable {before after : Shop} (kept : PostedKept before after)

include kept

theorem isPosted_eq (ret : ℕ) : after.isPosted ret = before.isPosted ret := by
  unfold Shop.isPosted
  rw [any_eq_isSome, kept.returns ret, ← any_eq_isSome]

theorem shareOf_eq (key : ℕ) : after.shareOf key = before.shareOf key := by
  unfold Shop.shareOf Shop.linesOf
  rw [kept.purchases, kept.purchaseLines]

theorem partOf_eq (line : MaterialPurchaseReturnLine) :
    after.partOf line = before.partOf line := by
  unfold Shop.partOf Shop.purchasedQuantity
  rw [kept.shareOf_eq, kept.purchaseLines]

theorem total_eq (measure : MaterialPurchaseReturnLine → ℤ) :
    (after.purchaseReturnLines.total fun _ line =>
        if before.isPosted line.ret = true then measure line else 0) =
      before.purchaseReturnLines.total fun _ line =>
        if before.isPosted line.ret = true then measure line else 0 :=
  Table.total_eq_of_filter kept.lines

theorem returnedQuantity_eq (key : ℕ) :
    after.returnedQuantity key = before.returnedQuantity key := by
  have same := kept.total_eq fun line =>
    if line.purchaseLine = key then line.quantity else 0
  simp only [← ite_and] at same
  unfold Shop.returnedQuantity
  simp only [kept.isPosted_eq]
  simpa only [and_comm] using same

theorem posted {pk : ℕ} {ret : MaterialPurchaseReturn}
    (stored : after.purchaseReturns.get? pk = some ret)
    (status : ret.status = .posted) :
    before.purchaseReturns.get? pk = some ret := by
  have same := kept.returns pk
  rw [stored, Option.filter_some, if_pos (by simpa using status)] at same
  exact (Option.filter_eq_some_iff.mp same.symm).1

theorem postedLine {key : ℕ} {line : MaterialPurchaseReturnLine}
    (stored : after.purchaseReturnLines.get? key = some line)
    (posted : before.isPosted line.ret = true) :
    before.purchaseReturnLines.get? key = some line := by
  have same := kept.lines key
  rw [stored, Option.filter_some, if_pos posted] at same
  exact (Option.filter_eq_some_iff.mp same.symm).1

theorem sound (sound : SoundReturns before) : SoundReturns after where
  bought :=
    { quantities := by
        rw [kept.purchaseLines]
        exact sound.bought.quantities
      discounted := by
        unfold Shop.linesOf
        rw [kept.purchases, kept.purchaseLines]
        exact sound.bought.discounted }
  lines := by
    intro key line stored posted
    rw [kept.isPosted_eq] at posted
    obtain ⟨⟨bought, found, ofPurchase⟩, within⟩ :=
      sound.lines key line (kept.postedLine stored posted) posted
    refine ⟨⟨bought, ?_, ?_⟩, ?_⟩
    · rw [kept.purchaseLines]
      exact found
    · obtain ⟨ret, found, status⟩ := isPosted_iff.mp posted
      have same := kept.returns line.ret
      rw [found, Option.filter_some, if_pos (by simpa using status)] at same
      rw [(Option.filter_eq_some_iff.mp same).1, ← found]
      exact ofPurchase
    · rw [kept.partOf_eq]
      exact within
  returns := by
    intro pk ret stored status
    have earlier := kept.posted stored status
    obtain ⟨⟨purchase, found, covered⟩, value⟩ :=
      sound.returns pk ret earlier status
    refine ⟨⟨purchase, ?_, ?_⟩, ?_⟩
    · rw [kept.purchases]
      exact found
    · unfold Shop.linesOf
      rw [kept.purchaseLines]
      exact covered
    · rw [value]
      have posted : before.isPosted pk = true :=
        isPosted_iff.mpr ⟨ret, earlier, status⟩
      have same := kept.total_eq fun line => if line.ret = pk then line.value else 0
      have ofReturn : ∀ shop : Shop,
          (shop.purchaseReturnLines.total fun _ line =>
            if before.isPosted line.ret = true then
              if line.ret = pk then line.value else 0
            else 0) =
          shop.purchaseReturnLines.total fun _ line =>
            if line.ret = pk then line.value else 0 := by
        intro shop
        apply Table.total_congr
        intro key line _
        by_cases here : line.ret = pk
        · simp [here, posted]
        · simp [here]
      rw [ofReturn, ofReturn] at same
      exact same.symm
  quantities := by
    intro key bought stored
    rw [kept.purchaseLines] at stored
    rw [kept.returnedQuantity_eq]
    exact sound.quantities key bought stored

end PostedKept

section DraftSteps

variable {before after : Shop}

theorem postedKept_lines (table : Table MaterialPurchaseReturnLine)
    (lines : ∀ key, (table.get? key).filter
        (fun line => before.isPosted line.ret) =
      (before.purchaseReturnLines.get? key).filter
        fun line => before.isPosted line.ret) :
    PostedKept before { before with purchaseReturnLines := table } :=
  ⟨rfl, rfl, fun _ => rfl, lines⟩

theorem createReturn_kept {purchase : ℕ} {date : ℤ} {refundTreasury : Option ℕ}
    (returned : createReturn purchase date refundTreasury before = .ok ⟨⟩ after) :
    PostedKept before after := by
  simp only [createReturn, Txn.bind_eq_ok, Txn.get_eq_ok, Txn.expect_eq_ok,
    Txn.set_eq_ok] at returned
  obtain ⟨_, _, ⟨rfl, rfl⟩, _, _, ⟨-, rfl⟩, rfl⟩ := returned
  refine ⟨rfl, rfl, ?_, fun _ => rfl⟩
  intro pk
  rw [Table.get?_insert]
  split
  · rename_i new
    rw [new, Table.get?_next]
    rfl
  · rfl

theorem addReturnLine_kept {ret purchaseLine : ℕ} {quantity : ℤ}
    (returned : addReturnLine ret purchaseLine quantity before = .ok ⟨⟩ after) :
    PostedKept before after := by
  simp only [addReturnLine, checkDraft, Txn.bind_eq_ok, Txn.get_eq_ok,
    Txn.require_eq_ok, Txn.expect_eq_ok, Txn.set_eq_ok] at returned
  obtain ⟨_, _, ⟨rfl, rfl⟩, _, _, ⟨-, rfl⟩, _, _, ⟨draft, rfl⟩, _, _,
    ⟨-, rfl⟩, _, _, ⟨-, rfl⟩, rfl⟩ := returned
  apply postedKept_lines
  intro key
  rw [Table.get?_insert]
  split
  · rename_i new
    rw [new, Table.get?_next]
    exact filter_draft draft
  · rfl

theorem changeReturnLine_kept {pk purchaseLine : ℕ} {quantity : ℤ}
    (returned : changeReturnLine pk purchaseLine quantity before = .ok ⟨⟩ after) :
    PostedKept before after := by
  simp only [changeReturnLine, checkDraft, Txn.bind_eq_ok, Txn.get_eq_ok,
    Txn.require_eq_ok, Txn.expect_eq_ok, Txn.set_eq_ok] at returned
  obtain ⟨_, _, ⟨rfl, rfl⟩, line, _, ⟨stored, rfl⟩, _, _, ⟨-, rfl⟩, _, _,
    ⟨draft, rfl⟩, _, _, ⟨-, rfl⟩, rfl⟩ := returned
  apply postedKept_lines
  intro key
  rw [Table.get?_modify]
  split
  · rename_i here
    rw [here, stored, filter_draft draft]
    exact filter_draft draft
  · rfl

theorem deleteReturnLine_kept {pk : ℕ}
    (returned : deleteReturnLine pk before = .ok ⟨⟩ after) :
    PostedKept before after := by
  simp only [deleteReturnLine, checkDraft, Txn.bind_eq_ok, Txn.get_eq_ok,
    Txn.require_eq_ok, Txn.expect_eq_ok, Txn.set_eq_ok] at returned
  obtain ⟨_, _, ⟨rfl, rfl⟩, line, _, ⟨stored, rfl⟩, _, _, ⟨draft, rfl⟩, rfl⟩ :=
    returned
  apply postedKept_lines
  intro key
  rw [Table.get?_erase]
  split
  · rename_i here
    rw [here, stored, filter_draft draft]
    rfl
  · rfl

theorem deleteReturn_kept {pk : ℕ}
    (returned : deleteReturn pk before = .ok ⟨⟩ after) :
    PostedKept before after := by
  simp only [deleteReturn, Txn.bind_eq_ok, Txn.get_eq_ok, Txn.require_eq_ok,
    Txn.expect_eq_ok, Txn.set_eq_ok] at returned
  obtain ⟨_, _, ⟨rfl, rfl⟩, ret, _, ⟨stored, rfl⟩, _, _, ⟨draft, rfl⟩, rfl⟩ :=
    returned
  refine ⟨rfl, rfl, ?_, ?_⟩
  · intro other
    rw [Table.get?_erase]
    split
    · rename_i here
      rw [here, stored]
      rw [Shop.isPosted, stored] at draft
      have status : ¬ ret.status = .posted := by simpa using draft
      rw [Option.filter_some, if_neg (by simpa using status)]
      rfl
    · rfl
  · intro key
    rw [Table.get?_filter, Option.filter_filter]
    congr 1
    funext line
    by_cases here : line.ret = pk
    · simp [here, draft]
    · simp [here]

end DraftSteps

def Accepted (shop : Shop) (purchase : ℕ) (line : MaterialPurchaseReturnLine) :
    Prop :=
  ∃ bought, shop.purchaseLines.get? line.purchaseLine = some bought ∧
    bought.purchase = purchase ∧
    line.quantity ≤ bought.quantity - shop.returnedQuantity line.purchaseLine

def Shop.valued (shop : Shop) (keys : List ℕ) :
    Table MaterialPurchaseReturnLine :=
  shop.purchaseReturnLines.map fun key line =>
    if key ∈ keys then { line with value := shop.valueOf line } else line

structure LinesPosted (purchase : ℕ)
    (rows : List (ℕ × MaterialPurchaseReturnLine)) (value total : ℤ)
    (before after : Shop) : Prop where
  accepted : ∀ row ∈ rows, Accepted before purchase row.2
  total_eq : total = value + (rows.map fun row => before.valueOf row.2).sum
  lines : after.purchaseReturnLines = before.valued (rows.map Prod.fst)
  same : after = { before with
    materials := after.materials
    purchaseReturnLines := after.purchaseReturnLines }

section Loop

variable {before after : Shop} {p : ℕ} {purchase : MaterialPurchase}

theorem returnedQuantity_value (shop : Shop) (materials : Table PrintMaterial)
    (key written : ℕ) (value : ℤ) :
    Shop.returnedQuantity
        { shop with
          materials
          purchaseReturnLines := shop.purchaseReturnLines.modify written
            fun stored => { stored with value } } key =
      shop.returnedQuantity key := by
  unfold Shop.returnedQuantity Table.modify
  rw [Table.total_map]
  apply Table.total_congr
  intro other line _
  by_cases here : other = written
  · rw [if_pos here]
    rfl
  · rw [if_neg here]
    rfl

theorem postLine_ok {row : ℕ × MaterialPurchaseReturnLine} {value : ℤ}
    (found : before.purchases.get? p = some purchase)
    (returned : postLine p (purchase.effectiveLineTotals (before.linesOf p)) row
      before = .ok value after) :
    Accepted before p row.2 ∧ value = before.valueOf row.2 ∧
      ∃ materials, after = { before with
        materials
        purchaseReturnLines := before.purchaseReturnLines.modify row.1
          fun stored => { stored with value := before.valueOf row.2 } } := by
  simp only [postLine, Txn.bind_eq_ok, Txn.get_eq_ok, Txn.require_eq_ok,
    Txn.expect_eq_ok, Txn.set_eq_ok, Txn.pure_eq_ok] at returned
  obtain ⟨_, _, ⟨rfl, rfl⟩, bought, _, ⟨stored, rfl⟩, _, _, ⟨ofPurchase, rfl⟩,
    _, _, ⟨enough, rfl⟩, share, _, ⟨looked, rfl⟩, _, _, ⟨-, rfl⟩, _, _,
    ⟨-, rfl⟩, _, _, ⟨-, rfl⟩, _, _, rfl, rfl, rfl⟩ := returned
  have valued : before.valueOf row.2 =
      lineValue share row.2.quantity bought.quantity := by
    unfold Shop.valueOf Shop.purchasedQuantity
    rw [shareOf_eq stored found ofPurchase, looked, stored]
    rfl
  rw [valued]
  exact ⟨⟨bought, stored, ofPurchase, enough⟩, rfl, _, rfl⟩

theorem valued_cons (shop : Shop) (materials : Table PrintMaterial)
    {row : ℕ × MaterialPurchaseReturnLine} {keys : List ℕ}
    (fresh : row.1 ∉ keys)
    (stored : shop.purchaseReturnLines.get? row.1 = some row.2) :
    Shop.valued
        { shop with
          materials
          purchaseReturnLines := shop.purchaseReturnLines.modify row.1
            fun line => { line with value := shop.valueOf row.2 } } keys =
      shop.valued (row.1 :: keys) := by
  apply Table.ext
  · unfold Shop.valued Table.modify Table.map
    simp only [List.map_map]
    apply List.map_congr_left
    rintro ⟨key, line⟩ member
    by_cases here : key = row.1
    · subst here
      have same : line = row.2 := by
        have kept := Table.get?_eq_some.mpr member
        rw [stored] at kept
        exact (Option.some.inj kept).symm
      subst same
      simp [fresh]
    · by_cases listed : key ∈ keys
      · simp [here, listed]
        rfl
      · simp [here, listed]
  · rfl

theorem postLines_ok {rows : List (ℕ × MaterialPurchaseReturnLine)}
    {value total : ℤ} (found : before.purchases.get? p = some purchase)
    (distinct : (rows.map Prod.fst).Nodup)
    (stored : ∀ row ∈ rows,
      before.purchaseReturnLines.get? row.1 = some row.2)
    (returned : postLines p (purchase.effectiveLineTotals (before.linesOf p))
      value rows before = .ok total after) :
    LinesPosted p rows value total before after := by
  induction rows generalizing value before with
  | nil =>
      obtain ⟨rfl, rfl⟩ := Txn.pure_eq_ok.mp returned
      refine ⟨by simp, by simp, ?_, rfl⟩
      apply Table.ext
      · simp [Shop.valued, Table.map]
      · rfl
  | cons row rows induction =>
      rw [List.map_cons, List.nodup_cons] at distinct
      rw [postLines, Txn.bind_eq_ok] at returned
      obtain ⟨added, middle, first, rest⟩ := returned
      have here := stored row List.mem_cons_self
      obtain ⟨accepted, rfl, materials, same⟩ := postLine_ok found first
      have lines : before.linesOf p = middle.linesOf p := by
        rw [same]
        rfl
      have others : ∀ other ∈ rows,
          middle.purchaseReturnLines.get? other.1 = some other.2 := by
        intro other member
        rw [same, Table.get?_modify_of_ne]
        · exact stored other (List.mem_cons_of_mem _ member)
        · intro same
          exact distinct.1 (same ▸ List.mem_map_of_mem member)
      have unchanged : middle.purchases = before.purchases := by
        rw [same]
      rw [lines] at rest
      rw [← unchanged] at found
      have later := induction found distinct.2 others rest
      constructor
      · intro other member
        rcases List.mem_cons.mp member with rfl | member
        · exact accepted
        · obtain ⟨bought, found, ofPurchase, enough⟩ := later.accepted other member
          rw [same, returnedQuantity_value] at enough
          rw [same] at found
          exact ⟨bought, found, ofPurchase, enough⟩
      · rw [later.total_eq, List.map_cons, List.sum_cons, add_assoc, same]
        rfl
      · rw [later.lines, List.map_cons, same]
        exact valued_cons before materials distinct.1 here
      · rw [later.same, same]

end Loop

structure Posting (pk : ℕ) (ret : MaterialPurchaseReturn)
    (purchase : MaterialPurchase) (before after : Shop) : Prop where
  found : before.purchaseReturns.get? pk = some ret
  draft : ret.status = .draft
  purchase_found : before.purchases.get? ret.purchase = some purchase
  accepted : ∀ row ∈ before.returnLinesOf pk, Accepted before ret.purchase row.2
  returns : ∃ posted : MaterialPurchaseReturn,
    after.purchaseReturns = before.purchaseReturns.modify pk (fun _ => posted) ∧
      posted.purchase = ret.purchase ∧ posted.status = .posted ∧
      posted.value = ((before.returnLinesOf pk).map fun row =>
        before.valueOf row.2).sum
  lines : after.purchaseReturnLines =
    before.purchaseReturnLines.map fun _ line =>
      if line.ret = pk then { line with value := before.valueOf line } else line
  purchaseLines : after.purchaseLines = before.purchaseLines
  purchases : ∀ key, (after.purchases.get? key).map MaterialPurchase.unpaid =
    (before.purchases.get? key).map MaterialPurchase.unpaid

section Post

variable {before after : Shop} {pk : ℕ}

theorem payRefund_ok {ret : MaterialPurchaseReturn}
    (returned : payRefund ret before = .ok ⟨⟩ after) :
    SameDocuments before after := by
  cases treasury : ret.refundTreasury with
  | none =>
      rw [payRefund, treasury] at returned
      obtain ⟨-, rfl⟩ := Txn.pure_eq_ok.mp returned
      exact .refl before
  | some treasury =>
      simp only [payRefund, treasury, Txn.bind_eq_ok, Txn.mapError_eq_ok,
        Txn.pure_eq_ok] at returned
      obtain ⟨_, _, created, -, rfl⟩ := returned
      exact (createTransaction_stored created (Int.le_refl 0) rfl).documents

theorem mem_returnLinesOf {shop : Shop}
    {row : ℕ × MaterialPurchaseReturnLine} :
    row ∈ shop.returnLinesOf pk ↔
      shop.purchaseReturnLines.get? row.1 = some row.2 ∧ row.2.ret = pk := by
  rw [Table.get?_eq_some, Shop.returnLinesOf, Table.filter, List.mem_filter]
  simp

theorem sum_returnLinesOf (shop : Shop)
    (measure : MaterialPurchaseReturnLine → ℤ) :
    ((shop.returnLinesOf pk).map fun row => measure row.2).sum =
      shop.purchaseReturnLines.total fun _ line =>
        if line.ret = pk then measure line else 0 := by
  have own := Table.total_filter shop.purchaseReturnLines
    (fun _ line => line.ret = pk) (fun _ line => measure line)
  simp only [decide_eq_true_eq] at own
  exact own

theorem valued_returnLinesOf (shop : Shop) :
    shop.valued ((shop.returnLinesOf pk).map Prod.fst) =
      shop.purchaseReturnLines.map fun _ line =>
        if line.ret = pk then { line with value := shop.valueOf line }
        else line := by
  apply Table.ext
  · unfold Shop.valued Table.map
    apply List.map_congr_left
    rintro ⟨key, line⟩ member
    have stored := Table.get?_eq_some.mpr member
    have listed : key ∈ (shop.returnLinesOf pk).map Prod.fst ↔ line.ret = pk := by
      constructor
      · intro listed
        obtain ⟨row, kept, rfl⟩ := List.mem_map.mp listed
        obtain ⟨found, ofReturn⟩ := mem_returnLinesOf.mp kept
        rw [stored, Option.some.injEq] at found
        rw [found]
        exact ofReturn
      · intro ofReturn
        have kept : (key, line) ∈ shop.returnLinesOf pk :=
          mem_returnLinesOf.mpr ⟨stored, ofReturn⟩
        exact List.mem_map_of_mem kept
    simp only [listed]
  · rfl

theorem postReturn_ok (returned : postReturn pk before = .ok ⟨⟩ after) :
    ∃ ret purchase, Posting pk ret purchase before after := by
  simp only [postReturn, Txn.atomic_eq_ok, Txn.bind_eq_ok, Txn.get_eq_ok,
    Txn.require_eq_ok, Txn.expect_eq_ok, Txn.modify_eq_ok] at returned
  obtain ⟨_, _, ⟨rfl, rfl⟩, ret, _, ⟨found, rfl⟩, _, _, ⟨draft, rfl⟩, purchase,
    _, ⟨purchaseFound, rfl⟩, _, _, ⟨-, rfl⟩, _, _, ⟨-, rfl⟩, value, middle,
    looped, _, _, rfl, paid⟩ := returned
  have loop := postLines_ok purchaseFound (Table.keys_nodup _)
    (fun row member => (mem_returnLinesOf.mp member).1) looped
  have documents := payRefund_ok paid
  have stock := documents.stock
  simp only [Shop.stock, Prod.mk.injEq] at stock
  obtain ⟨-, purchaseLines, returns, lines, -⟩ := stock
  refine ⟨ret, purchase, found, draft, purchaseFound, loop.accepted, ?_, ?_, ?_,
    ?_⟩
  · refine ⟨{ ret with
        value, taxAmount := purchase.returnedTax value, status := .posted },
      ?_, rfl, rfl, ?_⟩
    · rw [returns, loop.same]
    · change value = _
      rw [loop.total_eq, zero_add]
      rfl
  · rw [lines, loop.lines]
    exact valued_returnLinesOf before
  · rw [purchaseLines, loop.same]
  · intro key
    have same := congrArg (fun table => Table.get? table key) documents.purchases
    simp only [Table.get?_map] at same
    rw [same, loop.same]

end Post

end Mousstec.Printing
