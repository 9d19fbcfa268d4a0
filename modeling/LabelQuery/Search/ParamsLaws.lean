import LabelQuery.Search.Params
/-!
# Giving a parameter one value

`QueryParams.set k v` rewrites the pairs of `k` in place: the pairs before the first pair of `k`
stay, that pair becomes `(k, v)`, and every later pair of `k` goes; a key without pairs gets
`(k, v)` at the end. Every other key keeps all its pairs in their order.

`set` does this as the source does: it finds the position of the first pair of `k`, overwrites
the value there, and then runs a `retain` whose test counts the pairs of `k`. That the retain
drops exactly the later pairs rests on one invariant of the count: before the first pair of `k`
it is zero and every pair is kept (`retainFirst_append_of_forall_ne`), the first pair of `k`
makes it one and is kept, and from then on it is positive, so the retain drops every pair of `k`
(`retainFirst_of_pos`). The counter's first hit is therefore the pair just overwritten
(`retainFirst_zero_split`).

The proofs cut the pairs at the first pair of `k` (`exists_first_of_any`) and compute `set` on
the two sides of the cut (`set_of_split`); `set_cases` then gives the two shapes of a set, and
each law below is read off them. The same cut shows that `set` agrees with a one-pass recursion
that replaces the first pair and filters the rest (`set_eq_setFirst`).
-/

namespace LabelQuery

namespace QueryParams

/-! ### The counting retain -/

/-- Once a pair of `k` has been counted, the retain keeps exactly the pairs of other keys. -/
theorem retainFirst_of_pos (k : String) {seen : Nat} (h : 0 < seen) :
    ∀ l : List (String × String), retainFirst k seen l = l.filter fun x ↦ x.1 != k
  | [] => rfl
  | e :: rest => by
    by_cases he : e.1 = k
    · -- the count passes one, so the pair is dropped
      have hne : seen + 1 ≠ 1 := by omega
      rw [retainFirst, if_neg (by simp [he]), if_neg hne,
        retainFirst_of_pos k (Nat.succ_pos seen) rest, List.filter_cons_of_neg (by simp [he])]
    · rw [retainFirst, if_pos (by simp [he]), retainFirst_of_pos k h rest,
        List.filter_cons_of_pos (by simp [he])]

/-- Pairs of other keys leave the count alone and are kept. -/
theorem retainFirst_append_of_forall_ne (k : String) (seen : Nat) (l : List (String × String)) :
    ∀ pre : List (String × String), (∀ x ∈ pre, x.1 ≠ k) →
      retainFirst k seen (pre ++ l) = pre ++ retainFirst k seen l
  | [], _ => rfl
  | x :: pre, hpre => by
    have hx : x.1 ≠ k := hpre x List.mem_cons_self
    rw [List.cons_append, retainFirst, if_pos (by simp [hx]),
      retainFirst_append_of_forall_ne k seen l pre fun y hy ↦ hpre y (List.mem_cons_of_mem _ hy),
      List.cons_append]

/-- **The counter's first hit is the first pair of `k`**: the retain keeps it, and with it the
pairs before it and the later pairs of other keys. -/
theorem retainFirst_zero_split {k : String} {pre post : List (String × String)}
    {e : String × String} (hpre : ∀ x ∈ pre, x.1 ≠ k) (he : e.1 = k) :
    retainFirst k 0 (pre ++ e :: post) = pre ++ e :: post.filter fun x ↦ x.1 != k := by
  rw [retainFirst_append_of_forall_ne k 0 _ pre hpre, retainFirst, if_neg (by simp [he]),
    if_pos rfl, retainFirst_of_pos k Nat.one_pos post]

/-! ### Setting a key -/

/-- The pairs with the first pair of `k` given the value `v` and the later pairs of `k` dropped,
in one pass. -/
def setFirst (k v : String) : List (String × String) → List (String × String)
  | [] => []
  | e :: rest =>
    if e.1 = k then (k, v) :: rest.filter (fun e ↦ e.1 != k) else e :: setFirst k v rest

/-- Cut at the first pair of `k`, `setFirst` keeps the front, replaces the pair and drops the
later pairs of `k`. -/
theorem setFirst_split (k v : String) (e : String × String) (post : List (String × String)) :
    ∀ (pre : List (String × String)), (∀ x ∈ pre, x.1 ≠ k) → e.1 = k →
      setFirst k v (pre ++ e :: post) = pre ++ (k, v) :: post.filter (fun x ↦ x.1 != k)
  | [], _, he => by simp [setFirst, he]
  | x :: pre, hpre, he => by
    have hx : x.1 ≠ k := hpre x (by simp)
    simp only [List.cons_append, setFirst, hx, if_false]
    rw [setFirst_split k v e post pre (fun y hy ↦ hpre y (by simp [hy])) he]

/-- A key with a pair has a first pair. -/
theorem exists_first_of_any (k : String) :
    ∀ (l : List (String × String)), (l.any fun e ↦ e.1 == k) = true →
      ∃ pre e post, l = pre ++ e :: post ∧ (∀ x ∈ pre, x.1 ≠ k) ∧ e.1 = k
  | [], h => by simp at h
  | x :: l, h => by
    by_cases hx : x.1 = k
    · exact ⟨[], x, l, rfl, by simp, hx⟩
    · have hl : (l.any fun e ↦ e.1 == k) = true := by simpa [hx] using h
      obtain ⟨pre, e, post, rfl, hpre, he⟩ := exists_first_of_any k l hl
      refine ⟨x :: pre, e, post, rfl, ?_, he⟩
      intro y hy
      rcases List.mem_cons.mp hy with rfl | hy
      · exact hx
      · exact hpre y hy

/-- Dropping the pairs of `k` leaves the pairs of any other key alone. -/
theorem filter_ne_filter_eq (k k' : String) (h : k' ≠ k) (l : List (String × String)) :
    (l.filter fun x ↦ x.1 != k).filter (fun x ↦ x.1 == k') = l.filter fun x ↦ x.1 == k' := by
  rw [List.filter_filter]
  apply List.filter_congr
  intro x _
  by_cases hx : x.1 = k' <;> simp [hx, h]

/-- The run of pairs before the first pair of `k`, and what follows it. -/
theorem span_of_first (k : String) (e : String × String) (post : List (String × String))
    (he : e.1 = k) :
    ∀ (pre : List (String × String)), (∀ x ∈ pre, x.1 ≠ k) →
      (pre ++ e :: post).takeWhile (fun x ↦ x.1 != k) = pre ∧
        (pre ++ e :: post).dropWhile (fun x ↦ x.1 != k) = e :: post
  | [], _ => by simp [he]
  | x :: pre, hpre => by
    have hx : x.1 ≠ k := hpre x (by simp)
    obtain ⟨h1, h2⟩ := span_of_first k e post he pre (fun y hy ↦ hpre y (by simp [hy]))
    simp [hx, h1, h2]

/-- With no pair of `k`, the run before a pair of `k` is everything. -/
theorem dropWhile_of_absent (k : String) :
    ∀ (l : List (String × String)), (∀ x ∈ l, x.1 ≠ k) → l.dropWhile (fun x ↦ x.1 != k) = []
  | [], _ => rfl
  | x :: l, h => by
    have hx : x.1 ≠ k := h x (by simp)
    simp [hx, dropWhile_of_absent k l fun y hy ↦ h y (by simp [hy])]

/-- Dropping the pairs of a key twice is dropping them once. -/
theorem filter_ne_idem (k : String) (l : List (String × String)) :
    (l.filter fun x ↦ x.1 != k).filter (fun x ↦ x.1 != k) = l.filter fun x ↦ x.1 != k := by
  rw [List.filter_filter]
  simp

/-- Setting a key whose first pair follows `pre`: the position found is the length of `pre`,
the value is overwritten there, and the counting retain drops the later pairs of `k`. -/
theorem set_of_split (k v : String) (pre : List (String × String)) (e : String × String)
    (post : List (String × String)) (hpre : ∀ x ∈ pre, x.1 ≠ k) (he : e.1 = k) :
    set ⟨pre ++ e :: post⟩ k v = ⟨pre ++ (k, v) :: post.filter fun x ↦ x.1 != k⟩ := by
  have hidx : (pre ++ e :: post).findIdx? (fun x ↦ x.1 == k) = some pre.length := by
    have hnone : pre.findIdx? (fun x ↦ x.1 == k) = none :=
      List.findIdx?_eq_none_iff.mpr fun x hx ↦ by simpa using hpre x hx
    rw [List.findIdx?_append, hnone, List.findIdx?_cons, if_pos (by simp [he])]
    simp
  have hmod : (pre ++ e :: post).modify pre.length (fun x ↦ (x.1, v)) = pre ++ (k, v) :: post := by
    rw [List.modify_eq_take_drop, List.take_left' rfl, List.drop_left' rfl, List.modifyHead_cons,
      he]
  simp only [set, hidx, hmod]
  rw [retainFirst_zero_split hpre rfl]

/-- **The two ways a key is set**: in place of its first pair, or appended. -/
theorem set_cases (p : QueryParams) (k v : String) :
    (∃ pre e post, p.pairs = pre ++ e :: post ∧ (∀ x ∈ pre, x.1 ≠ k) ∧ e.1 = k ∧
        p.set k v = ⟨pre ++ (k, v) :: post.filter fun x ↦ x.1 != k⟩) ∨
      ((∀ x ∈ p.pairs, x.1 ≠ k) ∧ p.set k v = ⟨p.pairs ++ [(k, v)]⟩) := by
  obtain ⟨l⟩ := p
  by_cases hc : (l.any fun e ↦ e.1 == k) = true
  · obtain ⟨pre, e, post, rfl, hpre, he⟩ := exists_first_of_any k l hc
    exact Or.inl ⟨pre, e, post, rfl, hpre, he, set_of_split k v pre e post hpre he⟩
  · have hall : ∀ x ∈ l, x.1 ≠ k := fun x hx h ↦ hc (List.any_eq_true.2 ⟨x, hx, by simp [h]⟩)
    have hnone : l.findIdx? (fun x ↦ x.1 == k) = none :=
      List.findIdx?_eq_none_iff.mpr fun x hx ↦ by simpa using hall x hx
    refine Or.inr ⟨hall, ?_⟩
    simp only [set, hnone]

/-- **The source's `set` is the one-pass replacement**: the counting retain after the overwrite
computes what `setFirst` computes. -/
theorem set_eq_setFirst (p : QueryParams) (k v : String) :
    p.set k v = if p.contains k then ⟨setFirst k v p.pairs⟩ else ⟨p.pairs ++ [(k, v)]⟩ := by
  rcases set_cases p k v with ⟨pre, e, post, hp, hpre, he, hs⟩ | ⟨hall, hs⟩
  · have hc : p.contains k = true := by simp [contains, hp, he]
    rw [hs, if_pos hc, hp, setFirst_split k v e post pre hpre he]
  · have hc : p.contains k = false := by
      simpa [contains] using fun x hx ↦ hall x hx
    rw [hs, if_neg (by simp [hc])]

/-- The pairs after setting: those before the first pair of `k`, then `(k, v)`, then the later
pairs other than `k`; or all pairs and then `(k, v)`. -/
theorem pairs_set (p : QueryParams) (k v : String) :
    (p.set k v).pairs =
      match p.pairs.dropWhile (fun e ↦ e.1 != k) with
      | [] => p.pairs ++ [(k, v)]
      | _ :: post =>
        p.pairs.takeWhile (fun e ↦ e.1 != k) ++ (k, v) :: post.filter (fun e ↦ e.1 != k) := by
  rcases set_cases p k v with ⟨pre, e, post, hp, hpre, he, hs⟩ | ⟨hall, hs⟩
  · obtain ⟨htake, hdrop⟩ := span_of_first k e post he pre hpre
    rw [hs, hp, hdrop, htake]
  · rw [hs, dropWhile_of_absent k p.pairs hall]

/-- A key reads back the value it was set to. -/
@[simp] theorem get?_set (p : QueryParams) (k v : String) : (p.set k v).get? k = some v := by
  rcases set_cases p k v with ⟨pre, e, post, -, hpre, -, hs⟩ | ⟨hall, hs⟩
  · have hnone : pre.find? (fun x ↦ x.1 == k) = none :=
      List.find?_eq_none.2 fun x hx ↦ by simpa using hpre x hx
    simp [hs, get?, List.find?_append, hnone]
  · have hnone : p.pairs.find? (fun x ↦ x.1 == k) = none :=
      List.find?_eq_none.2 fun x hx ↦ by simpa using hall x hx
    simp [hs, get?, List.find?_append, hnone]

/-- After setting, the key has the one value it was set to and every other key its old values. -/
theorem getAll_set (p : QueryParams) (k v k' : String) :
    (p.set k v).getAll k' = if k' = k then [v] else p.getAll k' := by
  rcases set_cases p k v with ⟨pre, e, post, hp, hpre, he, hs⟩ | ⟨hall, hs⟩
  · by_cases hk : k' = k
    · subst hk
      have hnil : pre.filter (fun x ↦ x.1 == k') = [] :=
        List.filter_eq_nil_iff.2 fun x hx ↦ by simpa using hpre x hx
      simp [hs, getAll, List.filter_append, hnil]
    · have hek : (e.1 == k') = false := by simp [he, Ne.symm hk]
      have hkk : (k == k') = false := by simp [Ne.symm hk]
      simp only [hs, hp, getAll, List.filter_append, List.filter_cons, hek, hkk,
        filter_ne_filter_eq k k' hk, Bool.false_eq_true, if_false, hk]
  · by_cases hk : k' = k
    · subst hk
      have hnil : p.pairs.filter (fun x ↦ x.1 == k') = [] :=
        List.filter_eq_nil_iff.2 fun x hx ↦ by simpa using hall x hx
      simp [hs, getAll, List.filter_append, hnil]
    · simp [hs, getAll, List.filter_append, Ne.symm hk, hk]

/-- Setting a key twice to one value is setting it once. -/
@[simp] theorem set_set (p : QueryParams) (k v : String) : (p.set k v).set k v = p.set k v := by
  rcases set_cases p k v with ⟨pre, e, post, -, hpre, -, hs⟩ | ⟨hall, hs⟩
  · rw [hs, set_of_split k v pre (k, v) _ hpre rfl, filter_ne_idem]
  · rw [hs, set_of_split k v p.pairs (k, v) [] hall rfl]
    simp

/-- Erasing a key just set is erasing it. -/
@[simp] theorem erase_set (p : QueryParams) (k v : String) : (p.set k v).erase k = p.erase k := by
  rcases set_cases p k v with ⟨pre, e, post, hp, -, he, hs⟩ | ⟨-, hs⟩
  · simp [hs, hp, erase, List.filter_append, he]
  · simp [hs, erase, List.filter_append]

/-! ### Reading after setting and erasing -/

/-- The first value of a key is the first of its values. -/
theorem get?_eq_head?_getAll (p : QueryParams) (k : String) : p.get? k = (p.getAll k).head? := by
  simp [get?, getAll, List.head?_filter]

/-- Setting a key leaves the first value of every other key alone. -/
theorem get?_set_of_ne (p : QueryParams) {k k' : String} (v : String) (h : k' ≠ k) :
    (p.set k v).get? k' = p.get? k' := by
  rw [get?_eq_head?_getAll, getAll_set, if_neg h, ← get?_eq_head?_getAll]

/-- Erasing a key leaves it without a value and every other key alone. -/
theorem get?_erase (p : QueryParams) (k k' : String) :
    (p.erase k).get? k' = if k' = k then none else p.get? k' := by
  rw [get?_eq_head?_getAll, get?_eq_head?_getAll]
  simp only [getAll, erase, List.filter_filter]
  split
  · next h =>
    subst h
    simp
  · next h =>
    congr 2
    refine List.filter_congr fun x _ ↦ ?_
    by_cases hx : x.1 = k' <;> simp [hx, h]

end QueryParams

end LabelQuery
