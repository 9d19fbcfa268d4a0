import LabelQuery.Proofs.LazyLabels
import LabelQuery.Selector.Match
import LabelQuery.LabelSelector.Laws
/-!
# Editing the rules of one key

`replaceKey` puts a rule in place of all the rules for its key, and `eraseKey` drops them. Both
keep the rules for other keys in their order. The position of the new rule is found among the
rules before the others are dropped, and then used in the list that is left. That is right, and
the position is never past the end, because every rule in front of the first rule for the key
survives the drop: the position counts exactly those rules.

The proofs cut the rules at the first rule for the key (`split_of_findIdx?`). In front of the cut
nothing changes, the new rule takes the place of the rule at the cut, and behind it the rules for
the key are dropped (`replaceKey_of_split`); with no rule for the key the new rule goes last
(`replaceKey_of_absent`). Up to order, either way the result is the new rule with the rules kept
(`replaceKey_perm`), which says how many rules the key has afterwards and what the selector
matches.

## Main statements

* `Selector.replaceKey_of_split`, `Selector.replaceKey_of_absent`: the two shapes of a
  replacement.
* `Selector.replaceKey_perm`: a replacement is the new rule and the other keys' rules.
* `Selector.key_edits_exact`: replacing and erasing the rules of a key, exactly.
-/

namespace LabelQuery

namespace Selector

/-! ### The first rule for a key -/

/-- The first position where `p` holds cuts a list into the part in front of it, where `p`
fails, the element there, and the rest. -/
theorem split_of_findIdx? {α : Type} {p : α → Bool} :
    ∀ {l : List α} {i : Nat}, l.findIdx? p = some i →
      ∃ pre x post, l = pre ++ x :: post ∧ pre.length = i ∧ p x = true ∧
        ∀ y ∈ pre, p y = false
  | [], _, h => by simp at h
  | y :: l, i, h => by
    rw [List.findIdx?_cons] at h
    by_cases hy : p y = true
    · rw [if_pos hy] at h
      obtain rfl := Option.some.inj h
      exact ⟨[], y, l, rfl, rfl, hy, by simp⟩
    · rw [if_neg hy] at h
      obtain ⟨j, hj, rfl⟩ := Option.map_eq_some_iff.mp h
      obtain ⟨pre, x, post, rfl, hlen, hx, hpre⟩ := split_of_findIdx? hj
      refine ⟨y :: pre, x, post, rfl, by simp [hlen], hx, ?_⟩
      intro z hz
      rcases List.mem_cons.mp hz with rfl | hz
      · simpa using hy
      · exact hpre z hz

/-- Inserting at the length of a front part puts the element right behind it. -/
theorem insertIdx_length_append {α : Type} (x : α) (rest : List α) :
    ∀ pre : List α, (pre ++ rest).insertIdx pre.length x = pre ++ x :: rest
  | [] => List.insertIdx_zero
  | y :: pre => by
    rw [List.cons_append, List.length_cons, List.insertIdx_succ_cons,
      insertIdx_length_append x rest pre, List.cons_append]

/-- Dropping the rules for a key from rules cut at the first rule for it: the rules in front of
the cut all stay. -/
theorem filter_of_first {pre post : List Rule} {q : Rule} {k : String}
    (hpre : ∀ p ∈ pre, p.key ≠ k) (hq : q.key = k) :
    (pre ++ q :: post).filter (fun p ↦ p.key != k) = pre ++ post.filter fun p ↦ p.key != k := by
  rw [List.filter_append, List.filter_cons_of_neg (by simp [hq]),
    List.filter_eq_self.mpr (by simpa using hpre)]

/-! ### The two shapes of a replacement -/

variable {s : Selector} {r : Rule}

/-- **Replacing at the first rule for the key**: the rules in front of it stay, the new rule
takes its place, and the later rules for the key are dropped. -/
theorem replaceKey_of_split {pre post : List Rule} {q : Rule} (hs : s.rules = pre ++ q :: post)
    (hpre : ∀ p ∈ pre, p.key ≠ r.key) (hq : q.key = r.key) :
    (s.replaceKey r).rules = pre ++ r :: post.filter fun p ↦ p.key != r.key := by
  have hfind : (pre ++ q :: post).findIdx? (fun p ↦ p.key == r.key) = some pre.length := by
    rw [List.findIdx?_append, List.findIdx?_eq_none_iff.mpr (by simpa using hpre),
      List.findIdx?_cons]
    simp [hq]
  -- every rule in front of the cut survives the drop, so the position still points behind them
  simp only [replaceKey, hs, hfind, filter_of_first hpre hq, insertIdx_length_append]

/-- **Replacing a key without rules** appends the new rule. -/
theorem replaceKey_of_absent (h : ∀ q ∈ s.rules, q.key ≠ r.key) :
    (s.replaceKey r).rules = s.rules ++ [r] := by
  have hfind : s.rules.findIdx? (fun p ↦ p.key == r.key) = none :=
    List.findIdx?_eq_none_iff.mpr (by simpa using h)
  have hkept : (s.rules.filter fun p ↦ p.key != r.key) = s.rules :=
    List.filter_eq_self.mpr (by simpa using h)
  simp only [replaceKey, hfind, hkept]

/-- Up to order, a replacement is the new rule followed by the rules for other keys. -/
theorem replaceKey_perm (s : Selector) (r : Rule) :
    (s.replaceKey r).rules.Perm (r :: s.rules.filter fun p ↦ p.key != r.key) := by
  cases hf : s.rules.findIdx? (fun p ↦ p.key == r.key) with
  | none =>
    have h : ∀ q ∈ s.rules, q.key ≠ r.key := by simpa using List.findIdx?_eq_none_iff.mp hf
    rw [replaceKey_of_absent h, List.filter_eq_self.mpr (by simpa using h)]
    exact List.perm_append_singleton r s.rules
  | some i =>
    obtain ⟨pre, q, post, hs, -, hq, hpre⟩ := split_of_findIdx? hf
    have hq' : q.key = r.key := by simpa using hq
    rw [replaceKey_of_split hs (by simpa using hpre) hq', hs,
      filter_of_first (by simpa using hpre) hq']
    exact List.perm_middle

/-! ### Replacing and erasing, exactly -/

/-- **Key edits are exact.** A replacement keeps the rules for other keys in their order and
puts the new rule at the position of the first rule for its key, counted among the rules kept,
which is never past their end; with no rule for the key it goes last. Afterwards the key has
exactly one rule, and the selector matches where the new rule and every kept rule match.
Erasing a key counts its rules and keeps exactly the others, in order. -/
theorem key_edits_exact (s : Selector) (r : Rule) (k : String) :
    (∀ i, s.rules.findIdx? (fun q ↦ q.key == r.key) = some i →
        i ≤ (s.rules.filter fun q ↦ q.key != r.key).length ∧
        (s.replaceKey r).rules = (s.rules.filter fun q ↦ q.key != r.key).take i ++
          r :: (s.rules.filter fun q ↦ q.key != r.key).drop i) ∧
      ((∀ q ∈ s.rules, q.key ≠ r.key) →
        (s.replaceKey r).rules = (s.rules.filter fun q ↦ q.key != r.key) ++ [r]) ∧
      (s.replaceKey r).rules.countP (fun q ↦ q.key == r.key) = 1 ∧
      (∀ label? : String → Option String, (s.replaceKey r).selects label? = true ↔
        r.selects label? = true ∧ ∀ q ∈ s.rules, q.key ≠ r.key → q.selects label? = true) ∧
      (s.eraseKey k).1 = s.rules.countP (fun q ↦ q.key == k) ∧
      (s.eraseKey k).2.rules = s.rules.filter fun q ↦ q.key != k := by
  have hperm := replaceKey_perm s r
  refine ⟨fun i hi ↦ ?_, fun h ↦ ?_, ?_, fun label? ↦ ?_, eraseKey_fst s k, rfl⟩
  · -- the position counts the rules in front of the first rule for the key, all of them kept
    obtain ⟨pre, q, post, hs, rfl, hq, hpre⟩ := split_of_findIdx? hi
    have hpre' : ∀ p ∈ pre, p.key ≠ r.key := by simpa using hpre
    have hq' : q.key = r.key := by simpa using hq
    rw [hs, filter_of_first hpre' hq', List.take_left, List.drop_left,
      replaceKey_of_split hs hpre' hq']
    exact ⟨by simp, rfl⟩
  · rw [replaceKey_of_absent h, List.filter_eq_self.mpr (by simpa using h)]
  · rw [hperm.countP_eq, List.countP_cons_of_pos (by simp),
      List.countP_eq_zero.mpr (fun q hq ↦ by simpa using (List.mem_filter.mp hq).2)]
  · rw [Selector.selects, all_eq_of_perm hperm, List.all_cons, Bool.and_eq_true, List.all_eq_true]
    simp only [List.mem_filter, bne_iff_ne, ne_eq, and_imp]

/-- In `rack in (r1,r2),region = north`, a new rule for `region` takes the place of
`region = north`, and a rule for the absent key `shard` is appended. -/
theorem key_edits_exact_samples :
    let rack : Rule := ⟨"rack", .isIn, ["r1", "r2"], by decide +kernel, by decide, by decide +kernel⟩
    let north : Rule := ⟨"region", .equals, ["north"], by decide +kernel, by decide,
      by decide +kernel⟩
    let south : Rule := ⟨"region", .notEquals, ["south"], by decide +kernel, by decide,
      by decide +kernel⟩
    let shard : Rule := ⟨"shard", .greaterThan, ["s3"], by decide +kernel, by decide,
      by decide +kernel⟩
    let s : Selector := ⟨[rack, north]⟩
    (s.rules.findIdx? (fun q ↦ q.key == south.key) = some 1 ∧
        (s.replaceKey south).rules = [rack, south]) ∧
      ((∀ q ∈ s.rules, q.key ≠ shard.key) ∧ (s.replaceKey shard).rules = [rack, north, shard]) := by
  intro rack north south shard s
  have h₁ : s.rules.findIdx? (fun q ↦ q.key == south.key) = some 1 := by decide +kernel
  have h₂ : ∀ q ∈ s.rules, q.key ≠ shard.key := by decide +kernel
  exact ⟨⟨h₁, ((key_edits_exact s south "rack").1 1 h₁).2.trans (by decide +kernel)⟩,
    ⟨h₂, ((key_edits_exact s shard "rack").2.1 h₂).trans (by decide +kernel)⟩⟩

end Selector

end LabelQuery
