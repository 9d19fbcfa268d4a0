import Mathlib.Algebra.Order.Ring.Rat
import Mathlib.Data.String.Basic
import Mathlib.Order.WithBot
import LabelQuery.Selector.Match
/-!
# The order of `>` and `<`

`>` and `<` compare a label's value with a rule's value by one of two orders, chosen for each
pair: as numbers when both read as numbers, as text otherwise. Each order alone is a strict
order. Text is compared by the order of strings (`compareText_eq_compare`). A number lies on the
rational line closed by its two infinities, or nowhere if it is not a number (`position`), and
numbers compare as their places do (`compare?_eq_gt_iff`).

No value is above or below itself, and comparing the other way round swaps the answer
(`compareValues_self`, `compareValues_swap`). Transitivity holds when the three comparisons of three values use one
order: all three values read as numbers, or at most one does (`compareValues_trans`). It fails
when exactly two do, because the pairs then mix the orders: `10 > 9` as numbers and `9 > 8x` as
text, while `10 < 8x` as text (`compareValues_mixed_not_transitive`).

## Main statements

* `compareValues_trans`: three values of one kind are ordered transitively.
* `Rule.between_of_selects`: a label above `x` and below `y` puts `y` above `x`, for values of
  one kind.
-/

namespace LabelQuery

/-! ### The two orders -/

/-- Text is compared by the order of strings, character by character. -/
theorem compareText_eq_compare (a b : String) : compareText a b = compare a b :=
  (LinearOrder.compare_eq_compareOfLessAndEq a b).symm

namespace Binary64

theorem compareRat_eq_compare (a b : ℚ) : compareRat a b = compare a b :=
  (LinearOrder.compare_eq_compareOfLessAndEq a b).symm

theorem swap_compareRat (a b : ℚ) : (compareRat a b).swap = compareRat b a := by
  rw [compareRat_eq_compare, compareRat_eq_compare]
  exact Std.OrientedCmp.eq_swap.symm

/-- Where a value lies on the rational line closed by its two infinities; not-a-number lies
nowhere. -/
def position : Binary64 → Option (WithBot (WithTop ℚ))
  | .finite n m e => some ((finiteValue n m e : WithTop ℚ) : WithBot (WithTop ℚ))
  | .infinite true => some ⊥
  | .infinite false => some ⊤
  | .nan => none

/-- **Numbers compare as their places on the line.** -/
theorem compare?_eq_gt_iff {x y : Binary64} :
    x.compare? y = some .gt ↔ ∃ a b, x.position = some a ∧ y.position = some b ∧ b < a := by
  -- one case for each kind of value on either side, and each sign of an infinity
  rcases x with ⟨n₁, m₁, e₁⟩ | (_ | _) | _ <;> rcases y with ⟨n₂, m₂, e₂⟩ | (_ | _) | _ <;>
    simp [compare?, position, compareRat_eq_compare, compare_gt_iff_gt, lt_top_iff_ne_top]

theorem compare?_swap (x y : Binary64) : y.compare? x = (x.compare? y).map Ordering.swap := by
  rcases x with ⟨n₁, m₁, e₁⟩ | (_ | _) | _ <;> rcases y with ⟨n₂, m₂, e₂⟩ | (_ | _) | _ <;>
    simp [compare?, swap_compareRat]

theorem compare?_self (x : Binary64) : x.compare? x = none ∨ x.compare? x = some .eq := by
  rcases x with ⟨n, m, e⟩ | (_ | _) | _ <;> simp [compare?, compareRat]

theorem compare?_trans {x y z : Binary64} (h₁ : x.compare? y = some .gt)
    (h₂ : y.compare? z = some .gt) : x.compare? z = some .gt := by
  obtain ⟨a, b, ha, hb, hba⟩ := compare?_eq_gt_iff.mp h₁
  obtain ⟨b', c, hb', hc, hcb⟩ := compare?_eq_gt_iff.mp h₂
  obtain rfl : b = b' := Option.some.inj (hb.symm.trans hb')
  exact compare?_eq_gt_iff.mpr ⟨a, c, ha, hc, hcb.trans hba⟩

end Binary64

/-! ### Comparing two values -/

/-- The text reads as a number, so that it is compared as one with another number. -/
def readsAsNumber (s : String) : Bool := (Binary64.read? s).isSome

theorem compareValues_of_numbers {a b : String} {x y : Binary64}
    (ha : Binary64.read? a = some x) (hb : Binary64.read? b = some y) :
    compareValues a b = x.compare? y := by
  simp [compareValues, ha, hb]

theorem compareValues_of_text {a b : String}
    (h : readsAsNumber a = false ∨ readsAsNumber b = false) :
    compareValues a b = some (compare a b) := by
  simp only [readsAsNumber, Option.isSome_eq_false_iff, Option.isNone_iff_eq_none] at h
  rw [compareValues, ← compareText_eq_compare]
  rcases h with h | h <;> simp [h]

/-- A value is neither above nor below itself. -/
theorem compareValues_self (a : String) :
    compareValues a a ≠ some .gt ∧ compareValues a a ≠ some .lt := by
  cases ha : Binary64.read? a with
  | some x =>
    rw [compareValues_of_numbers ha ha]
    rcases Binary64.compare?_self x with h | h <;> simp [h]
  | none =>
    rw [compareValues_of_text (by simp [readsAsNumber, ha])]
    simp

/-- Two values are compared as numbers, or one of them is not a number. -/
theorem numbers_or_text (a b : String) :
    (∃ x y, Binary64.read? a = some x ∧ Binary64.read? b = some y) ∨
      (readsAsNumber a = false ∨ readsAsNumber b = false) := by
  cases ha : Binary64.read? a <;> cases hb : Binary64.read? b <;> simp [readsAsNumber, ha, hb]

/-- Comparing the other way round swaps the answer. -/
theorem compareValues_swap (a b : String) :
    compareValues b a = (compareValues a b).map Ordering.swap := by
  rcases numbers_or_text a b with ⟨x, y, ha, hb⟩ | htext
  · rw [compareValues_of_numbers hb ha, compareValues_of_numbers ha hb]
    exact Binary64.compare?_swap x y
  · rw [compareValues_of_text htext.symm, compareValues_of_text htext, Option.map_some,
      ← Std.OrientedCmp.eq_swap]

theorem compareValues_eq_gt_iff_lt (a b : String) :
    compareValues a b = some .gt ↔ compareValues b a = some .lt := by
  rw [compareValues_swap a b]
  cases compareValues a b with
  | none => simp
  | some o => cases o <;> simp [Ordering.swap]

/-- Of three values, either all read as numbers or at most one does, unless exactly two do. -/
theorem kinds_of_countP_ne_two {a b c : String}
    (h : [a, b, c].countP readsAsNumber ≠ 2) :
    (readsAsNumber a ∧ readsAsNumber b ∧ readsAsNumber c) ∨
      ((readsAsNumber a = false ∨ readsAsNumber b = false) ∧
        (readsAsNumber b = false ∨ readsAsNumber c = false) ∧
        (readsAsNumber a = false ∨ readsAsNumber c = false)) := by
  cases ha : readsAsNumber a <;> cases hb : readsAsNumber b <;> cases hc : readsAsNumber c <;>
    simp_all

/-- **Values of one kind are ordered transitively.** When all three read as numbers, the three
pairs are compared as numbers; when at most one does, all three are compared as text. -/
theorem compareValues_trans {a b c : String} (hk : [a, b, c].countP readsAsNumber ≠ 2)
    (h₁ : compareValues a b = some .gt) (h₂ : compareValues b c = some .gt) :
    compareValues a c = some .gt := by
  rcases kinds_of_countP_ne_two hk with ⟨ha, hb, hc⟩ | ⟨hab, hbc, hac⟩
  · obtain ⟨x, hx⟩ := Option.isSome_iff_exists.mp ha
    obtain ⟨y, hy⟩ := Option.isSome_iff_exists.mp hb
    obtain ⟨z, hz⟩ := Option.isSome_iff_exists.mp hc
    rw [compareValues_of_numbers hx hy] at h₁
    rw [compareValues_of_numbers hy hz] at h₂
    rw [compareValues_of_numbers hx hz]
    exact Binary64.compare?_trans h₁ h₂
  · rw [compareValues_of_text hab, Option.some.injEq, compare_gt_iff_gt] at h₁
    rw [compareValues_of_text hbc, Option.some.injEq, compare_gt_iff_gt] at h₂
    rw [compareValues_of_text hac, Option.some.injEq, compare_gt_iff_gt]
    exact h₂.trans h₁

/-! ### Rules with `>` and `<` -/

namespace Rule

variable {r : Rule} {x : String}

/-- A `>` or `<` rule holds of a label whose value compares with the rule's value as the
operator says. -/
theorem selects_of_order {o : Ordering}
    (h : r.op = .greaterThan ∧ o = .gt ∨ r.op = .lessThan ∧ o = .lt) (hx : r.value? = some x)
    (label? : String → Option String) :
    r.selects label? = true ↔ ∃ v, label? r.key = some v ∧ compareValues v x = some o := by
  unfold selects
  rcases h with ⟨h, rfl⟩ | ⟨h, rfl⟩ <;> rw [h] <;> cases label? r.key <;> simp [hx]

/-- **A label above `x` and below `y` puts `y` above `x`**, when the label's value, `x` and `y`
are of one kind. -/
theorem between_of_selects {r₁ r₂ : Rule} {x y : String} {label? : String → Option String}
    (h₁ : r₁.op = .greaterThan) (h₂ : r₂.op = .lessThan) (hkey : r₁.key = r₂.key)
    (hx : r₁.value? = some x) (hy : r₂.value? = some y)
    (hk : ∀ v ∈ label? r₁.key, [y, v, x].countP readsAsNumber ≠ 2)
    (hs₁ : r₁.selects label? = true) (hs₂ : r₂.selects label? = true) :
    compareValues y x = some .gt := by
  obtain ⟨v, hv, hvx⟩ := (selects_of_order (.inl ⟨h₁, rfl⟩) hx label?).mp hs₁
  obtain ⟨v', hv', hvy⟩ := (selects_of_order (.inr ⟨h₂, rfl⟩) hy label?).mp hs₂
  obtain rfl : v = v' := Option.some.inj (hv.symm.trans (hkey ▸ hv'))
  exact compareValues_trans (hk v hv) ((compareValues_eq_gt_iff_lt y v).mpr hvy) hvx

end Rule

/-- **`>` and `<` compare by a strict order on values of one kind.** No value is above or below
itself; `a` is above `b` exactly when `b` is below `a`; `a` above `b` above `c` puts `a` above
`c` unless exactly two of the three read as numbers; and so a label above `x` and below `y`
puts `y` above `x` under the same condition on `y`, the label's value and `x`. -/
theorem compareValues_strict_order (a b c x y : String) (r₁ r₂ : Rule)
    (label? : String → Option String) :
    (compareValues a a ≠ some .gt ∧ compareValues a a ≠ some .lt) ∧
      (compareValues a b = some .gt ↔ compareValues b a = some .lt) ∧
      ([a, b, c].countP readsAsNumber ≠ 2 → compareValues a b = some .gt →
        compareValues b c = some .gt → compareValues a c = some .gt) ∧
      (r₁.op = .greaterThan → r₂.op = .lessThan → r₁.key = r₂.key → r₁.value? = some x →
        r₂.value? = some y → (∀ v ∈ label? r₁.key, [y, v, x].countP readsAsNumber ≠ 2) →
        r₁.selects label? = true → r₂.selects label? = true → compareValues y x = some .gt) :=
  ⟨compareValues_self a, compareValues_eq_gt_iff_lt a b, compareValues_trans,
    Rule.between_of_selects⟩

/-- `cores > 2` and `cores < 16` both hold of `cores = 5`, and three numbers are ordered
transitively. -/
theorem compareValues_strict_order_samples :
    compareValues "16" "2" = some .gt ∧ compareValues "40" "1" = some .gt := by
  have h := compareValues_strict_order "40" "7" "1" "2" "16"
    ⟨"cores", .greaterThan, ["2"], by decide +kernel, by decide, by decide +kernel⟩
    ⟨"cores", .lessThan, ["16"], by decide +kernel, by decide, by decide +kernel⟩
    (fun k ↦ if k = "cores" then some "5" else none)
  exact ⟨h.2.2.2 rfl rfl rfl rfl rfl (by decide +kernel) (by decide +kernel) (by decide +kernel),
    h.2.2.1 (by decide +kernel) (by decide +kernel) (by decide +kernel)⟩

/-- **Values of two kinds are not ordered transitively**: `10` is above `9` as a number, `9` is
above `8x` as text, and `10` is below `8x` as text. -/
theorem compareValues_mixed_not_transitive :
    compareValues "10" "9" = some .gt ∧ compareValues "9" "8x" = some .gt ∧
      compareValues "10" "8x" = some .lt := by
  decide +kernel

end LabelQuery
