import Mathlib.Algebra.BigOperators.Group.List.Basic
import Mathlib.Data.List.Dedup
import Mathlib.Tactic.Ring

/-!
# Double entry

A posting moves an amount on one account.  What a list of postings does to an
account is its net, debit minus credit; a list is balanced when its debits
equal its credits.  The settling lines are the postings that bring every
account of a list from its current net to a wanted one.
-/

namespace Library

universe u

structure Posting (κ : Type u) where
  account : κ
  debit : ℤ
  credit : ℤ
  deriving DecidableEq

namespace Posting

variable {κ : Type u}

/-- Debit minus credit. -/
def signed (posting : Posting κ) : ℤ :=
  posting.debit - posting.credit

/-- The posting with its two sides exchanged. -/
def mirror (posting : Posting κ) : Posting κ :=
  ⟨posting.account, posting.credit, posting.debit⟩

/-- The one-sided posting of a signed amount: a debit when positive, a credit
when negative. -/
def ofSigned (account : κ) (amount : ℤ) : Posting κ :=
  ⟨account, if 0 < amount then amount else 0,
    if amount < 0 then -amount else 0⟩

@[simp] theorem ofSigned_account (account : κ) (amount : ℤ) :
    (ofSigned account amount).account = account := rfl

@[simp] theorem ofSigned_signed (account : κ) (amount : ℤ) :
    (ofSigned account amount).signed = amount := by
  simp only [signed, ofSigned]
  split_ifs <;> omega

/-- Changing the sign of an amount exchanges its sides. -/
theorem ofSigned_neg (account : κ) (amount : ℤ) :
    ofSigned account (-amount) = (ofSigned account amount).mirror := by
  simp only [ofSigned, mirror, Posting.mk.injEq, true_and]
  constructor
  · split_ifs <;> omega
  · split_ifs <;> omega

end Posting

variable {κ : Type u} [DecidableEq κ]

/-- What a list of postings adds to an account. -/
def net (lines : List (Posting κ)) (account : κ) : ℤ :=
  (lines.map fun line => if line.account = account then line.signed else 0).sum

omit [DecidableEq κ] in
/-- The sum of the debits of a list of postings. -/
def totalDebit (lines : List (Posting κ)) : ℤ :=
  (lines.map Posting.debit).sum

omit [DecidableEq κ] in
def totalCredit (lines : List (Posting κ)) : ℤ :=
  (lines.map Posting.credit).sum

/-- The sum of the signed amounts a list gives to an account. -/
def tally (amounts : List (κ × ℤ)) (account : κ) : ℤ :=
  (amounts.map fun item => if item.1 = account then item.2 else 0).sum

/-- The postings that take each listed account from its current net to the
wanted one; accounts already there get no line. -/
def settle (accounts : List κ) (wanted current : κ → ℤ) :
    List (Posting κ) :=
  accounts.filterMap fun account =>
    let delta := wanted account - current account
    if delta = 0 then none else some (.ofSigned account delta)

@[simp] theorem net_nil (account : κ) : net ([] : List (Posting κ)) account = 0 :=
  rfl

@[simp] theorem net_cons (line : Posting κ) (lines : List (Posting κ))
    (account : κ) :
    net (line :: lines) account =
      (if line.account = account then line.signed else 0) + net lines account := by
  simp [net]

@[simp] theorem net_append (left right : List (Posting κ)) (account : κ) :
    net (left ++ right) account = net left account + net right account := by
  simp [net]

theorem net_eq_zero {lines : List (Posting κ)} {account : κ}
    (absent : ∀ line ∈ lines, line.account ≠ account) :
    net lines account = 0 := by
  apply List.sum_eq_zero
  intro value member
  obtain ⟨line, listed, rfl⟩ := List.mem_map.mp member
  rw [if_neg (absent line listed)]

omit [DecidableEq κ] in
theorem totalDebit_sub_totalCredit (lines : List (Posting κ)) :
    totalDebit lines - totalCredit lines =
      (lines.map Posting.signed).sum := by
  induction lines with
  | nil => rfl
  | cons line lines induction =>
      simp only [totalDebit, totalCredit, List.map_cons, List.sum_cons,
        Posting.signed] at induction ⊢
      rw [← induction]
      ring

@[simp] theorem tally_nil (account : κ) : tally ([] : List (κ × ℤ)) account = 0 :=
  rfl

@[simp] theorem tally_cons (item : κ × ℤ) (amounts : List (κ × ℤ))
    (account : κ) :
    tally (item :: amounts) account =
      (if item.1 = account then item.2 else 0) + tally amounts account := by
  simp [tally]

theorem tally_eq_zero {amounts : List (κ × ℤ)} {account : κ}
    (absent : account ∉ amounts.map Prod.fst) : tally amounts account = 0 := by
  apply List.sum_eq_zero
  intro value member
  obtain ⟨item, listed, rfl⟩ := List.mem_map.mp member
  rw [if_neg]
  rintro rfl
  exact absent (List.mem_map_of_mem listed)

/-- Keeping first occurrences leaves no duplicates. -/
theorem nodup_eraseDups (accounts : List κ) : accounts.eraseDups.Nodup := by
  match accounts with
  | [] => simp
  | head :: tail =>
      rw [List.eraseDups_cons, List.nodup_cons]
      refine ⟨by simp, nodup_eraseDups _⟩
termination_by accounts.length
decreasing_by
  exact Nat.lt_succ_of_le (List.length_filter_le _ _)

omit [DecidableEq κ] in
theorem mem_settle {accounts : List κ} {wanted current : κ → ℤ}
    {line : Posting κ} (member : line ∈ settle accounts wanted current) :
    line.account ∈ accounts ∧ wanted line.account ≠ current line.account ∧
      line = .ofSigned line.account
        (wanted line.account - current line.account) := by
  obtain ⟨account, listed, produced⟩ := List.mem_filterMap.mp member
  by_cases settled : wanted account - current account = 0
  · simp [settled] at produced
  · simp only [settled, if_false, Option.some.injEq] at produced
    subst produced
    refine ⟨listed, ?_, rfl⟩
    simpa [sub_eq_zero] using settled

theorem net_settle {accounts : List κ} (nodup : accounts.Nodup)
    (wanted current : κ → ℤ) (account : κ) :
    net (settle accounts wanted current) account =
      if account ∈ accounts then wanted account - current account else 0 := by
  induction accounts with
  | nil => rfl
  | cons head tail induction =>
      rw [List.nodup_cons] at nodup
      obtain ⟨absent, nodup⟩ := nodup
      have rest := induction nodup
      unfold settle at rest ⊢
      by_cases same : account = head
      · subst same
        rw [if_neg absent] at rest
        by_cases settled : wanted account - current account = 0
        · simp [settled, rest]
        · simp [settled, rest]
      · by_cases settled : wanted head - current head = 0
        · simp [settled, rest, same]
        · simp [settled, rest, same, Ne.symm same]

/-- The settling lines leave every account at the wanted net. -/
theorem net_settle_add {accounts : List κ} (nodup : accounts.Nodup)
    (wanted current : κ → ℤ)
    (settled : ∀ account, account ∉ accounts → wanted account = current account)
    (account : κ) :
    current account + net (settle accounts wanted current) account =
      wanted account := by
  rw [net_settle nodup]
  split
  · ring
  · rename_i absent
    rw [settled account absent, add_zero]

omit [DecidableEq κ] in
theorem settle_eq_nil {accounts : List κ} {wanted current : κ → ℤ} :
    settle accounts wanted current = [] ↔
      ∀ account ∈ accounts, wanted account = current account := by
  unfold settle
  rw [List.filterMap_eq_nil_iff]
  constructor
  · intro none account listed
    have settled := none account listed
    by_contra different
    have open_ : ¬ wanted account - current account = 0 := by omega
    simp [open_] at settled
  · intro same account listed
    simp [same account listed]

end Library
