import LabelQuery.LabelSelector.Laws
/-!
# Merging label sets

A label set is determined by what it answers for each key (`ext_get?`): its entries are sorted by
key, so two sets that hold the same entries list them in the same order. Every law of merging is
therefore a law of lookups.

Merging inserts the entries of the right set one by one into the left set. An insertion answers
the inserted key with the new value and every other key as before (`get?_insert`), and the right
set holds each key once, so the merged set answers a key from the right set when it has it and
from the left one otherwise (`get?_merge`). Associativity, the identities and idempotence are then
laws of `Option.or`. The managed labels are a filter on keys (`get?_managed`), which commutes with
choosing between two answers for the same key.

## Main statements

* `Labels.ext_get?`: label sets that answer every key alike are equal.
* `Labels.get?_merge`: on a shared key the right set wins.
* `Labels.merge_assoc`, `Labels.empty_merge`, `Labels.merge_empty`, `Labels.merge_self`,
  `Labels.managed_merge`: the algebra of merging.
-/

namespace LabelQuery

/-! ### Lookups in entry lists -/

/-- An insertion answers the inserted key with the new entry and every other key as before. -/
theorem find?_insertEntry (k v k' : String) (l : List (String × String)) :
    (insertEntry k v l).find? (·.1 == k') =
      if k = k' then some (k, v) else l.find? (·.1 == k') := by
  induction l with
  | nil => by_cases h : k = k' <;> simp [insertEntry, h]
  | cons e rest ih =>
    unfold insertEntry
    split
    · -- the new entry goes in front
      by_cases h : k = k' <;> simp [h]
    · split
      · -- the new entry replaces `e`, which has the same key
        next hk =>
        by_cases h : k = k'
        · simp [h]
        · simp [h, List.find?_cons_of_neg, ← hk]
      · -- the new entry goes after `e`, whose key is another one
        next hne =>
        by_cases he : e.1 = k'
        · have hk : k ≠ k' := he ▸ hne
          rw [List.find?_cons_of_pos (by simp [he]), if_neg hk,
            List.find?_cons_of_pos (by simp [he])]
        · rw [List.find?_cons_of_neg (by simp [he]), List.find?_cons_of_neg (by simp [he]), ih]

/-- Entries in key order hold no key twice. -/
theorem SortedEntries.nodup {l : List (String × String)} (h : SortedEntries l) : l.Nodup := by
  refine h.imp fun {e e'} hlt heq ↦ ?_
  subst heq
  exact String.lt_irrefl _ hlt

/-- In entries sorted by key, the entry found for a key is the only one with that key. -/
theorem find?_eq_some_iff_mem {l : List (String × String)} (hl : SortedEntries l)
    {k v : String} : (l.find? (·.1 == k)).map Prod.snd = some v ↔ (k, v) ∈ l := by
  induction l with
  | nil => simp
  | cons e rest ih =>
    obtain ⟨hlt, hrest⟩ := List.pairwise_cons.mp hl
    by_cases he : e.1 = k
    · -- `e` is found; no later entry has its key
      have hnot : (k, v) ∉ rest := fun hm ↦ by
        have hk := hlt _ hm
        rw [he] at hk
        exact String.lt_irrefl k hk
      obtain ⟨k', v'⟩ := e
      simp only at he
      subst he
      simp [hnot, eq_comm]
    · have hne : (k, v) ≠ e := fun h ↦ he (by rw [← h])
      rw [List.find?_cons_of_neg (by simp [he]), ih hrest, List.mem_cons, or_iff_right hne]

/-- A key below every key of the entries is not found in them. -/
theorem find?_eq_none_of_lt {l : List (String × String)} {k : String} (h : ∀ q ∈ l, k < q.1) :
    l.find? (·.1 == k) = none :=
  List.find?_eq_none.mpr fun q hq hqk ↦
    String.lt_irrefl k (by simpa [beq_iff_eq.mp hqk] using h q hq)

namespace Labels

/-! ### Lookups in label sets -/

@[simp] theorem get?_empty (k : String) : empty.get? k = none := rfl

/-- An insertion answers the inserted key with the new value and every other key as before. -/
theorem get?_insert (l : Labels) (k v k' : String) :
    (l.insert k v).get? k' = if k = k' then some v else l.get? k' := by
  simp only [get?, insert, find?_insertEntry]
  split <;> rfl

/-- The value found for a key is the value of the one entry with that key. -/
theorem get?_eq_some_iff (l : Labels) {k v : String} : l.get? k = some v ↔ (k, v) ∈ l.entries :=
  find?_eq_some_iff_mem l.sorted

/-- **Label sets that answer every key alike are equal.** They hold the same entries, and two
lists sorted by key with the same entries are the same list. -/
theorem ext_get? {a b : Labels} (h : ∀ k, a.get? k = b.get? k) : a = b := by
  have hmem : ∀ e, e ∈ a.entries ↔ e ∈ b.entries := fun e ↦ by
    rw [← a.get?_eq_some_iff, ← b.get?_eq_some_iff, h]
  have hperm : a.entries.Perm b.entries :=
    (List.perm_ext_iff_of_nodup a.sorted.nodup b.sorted.nodup).mpr hmem
  -- the key order is strict, so no two entries come before each other
  exact ext (hperm.eq_of_pairwise (fun e e' _ _ hlt hgt ↦ absurd (String.lt_trans hlt hgt)
    (String.lt_irrefl _)) a.sorted b.sorted)

/-- Inserting entries in key order, one by one: a key they hold is answered from them, any
other key as before. -/
theorem get?_foldl_insert {es : List (String × String)} (hs : SortedEntries es) (acc : Labels)
    (k : String) :
    (es.foldl (fun l e ↦ l.insert e.1 e.2) acc).get? k =
      ((es.find? (·.1 == k)).map Prod.snd).or (acc.get? k) := by
  induction es generalizing acc with
  | nil => simp
  | cons e rest ih =>
    obtain ⟨hlt, hrest⟩ := List.pairwise_cons.mp hs
    rw [List.foldl_cons, ih hrest, get?_insert]
    by_cases he : e.1 = k
    · -- the later entries do not hold `e`'s key, so `e` answers it
      have hnone : rest.find? (·.1 == k) = none := find?_eq_none_of_lt (he ▸ hlt)
      rw [if_pos he, hnone, List.find?_cons_of_pos (by simp [he])]
      rfl
    · rw [if_neg he, List.find?_cons_of_neg (by simp [he])]

/-- **On a shared key the right set wins.** The merged set answers a key from the right set when
it holds the key, and from the left set otherwise. -/
theorem get?_merge (a b : Labels) (k : String) : (merge a b).get? k = (b.get? k).or (a.get? k) :=
  get?_foldl_insert b.sorted a k

/-- The managed labels answer a managed key as the whole set does, and no other key. -/
theorem get?_managed (l : Labels) (k : String) :
    l.managed.get? k = if isManagedKey k then l.get? k else none := by
  simp only [get?, managed, List.find?_filter]
  split
  · next hk =>
    -- an entry with key `k` is managed, so the filter changes nothing that is found
    congr 2
    funext e
    by_cases he : e.1 = k <;> simp [he, hk]
  · next hk =>
    rw [List.find?_eq_none.mpr fun e _ he ↦ hk ?_]
    · rfl
    · simp only [beq_iff_eq, decide_eq_true_eq] at he
      exact he.2 ▸ he.1

/-! ### The algebra of merging -/

theorem merge_empty (a : Labels) : merge a empty = a := rfl

theorem empty_merge (b : Labels) : merge empty b = b :=
  ext_get? fun k ↦ by rw [get?_merge, get?_empty, Option.or_none]

theorem merge_self (a : Labels) : merge a a = a :=
  ext_get? fun k ↦ by rw [get?_merge, Option.or_self]

theorem merge_assoc (a b c : Labels) : merge (merge a b) c = merge a (merge b c) :=
  ext_get? fun k ↦ by simp only [get?_merge, Option.or_assoc]

/-- Taking the managed labels commutes with merging. -/
theorem managed_merge (a b : Labels) : (merge a b).managed = merge a.managed b.managed :=
  ext_get? fun k ↦ by
    simp only [get?_managed, get?_merge]
    split <;> rfl

/-- **Merging is a right-biased union.** A key is answered by the right set when it holds it and
by the left set otherwise; merging is associative, has the empty set on both sides as identity,
changes nothing merged with itself, and commutes with taking the managed labels. -/
theorem merge_right_biased (a b c : Labels) :
    (∀ k, (merge a b).get? k = if b.has k then b.get? k else a.get? k) ∧
      merge (merge a b) c = merge a (merge b c) ∧ merge empty a = a ∧ merge a empty = a ∧
      merge a a = a ∧ (merge a b).managed = merge a.managed b.managed := by
  refine ⟨fun k ↦ ?_, merge_assoc a b c, empty_merge a, merge_empty a, merge_self a,
    managed_merge a b⟩
  rw [get?_merge, has]
  cases b.get? k <;> rfl

end Labels

end LabelQuery
