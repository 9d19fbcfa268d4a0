import LabelQuery.Search.Query
import LabelQuery.Search.ParamsLaws
import LabelQuery.Proofs.ExpressionGrammar
/-!
# Laws of search queries

What every search query that can be built keeps, and what each of its fields is written as.

A query is built by reading parameters under a configuration (`withConfig`, and through it
`parse` and `ofParams`) or made empty, and it is then changed by its own operations and by writes
to its public fields; `Reachable` lists these ways. Every reachable query has a usable
configuration and page numbers that fit in 32 bits (`Reachable.wellFormed`): reading checks
both, and nothing afterwards changes the configuration or writes a page number that does not
fit.

A usable configuration names four distinct parameters, so writing a query back (`toParams`)
gives each field's parameter the field's value, and no other write touches it
(`get?_toParams`). A page number is written as a decimal numeral, which reads back as the number
(`readWord32?_toString`).

## Main statements

* `SearchQuery.withConfig_eq_ok_iff`: what reading parameters gives.
* `SearchQuery.Reachable.wellFormed`: the invariant of every reachable query.
* `SearchQuery.get?_toParams`: the parameters of a query hold its fields.
-/

namespace LabelQuery

open Text

/-! ### Page numbers -/

theorem isBlank_of_isDigit {c : Char} (h : c.isDigit = true) : isBlank c = false := by
  unfold isBlank
  simp [Char.isDigit, UInt32.le_iff_toNat_le] at h ⊢
  omega

/-- A decimal numeral is its own trim. -/
theorem trim_toString (n : Nat) : trim (toString n) = toString n := by
  have hdigits : ∀ c ∈ (toString n).toList, isBlank c = false := fun c hc ↦ by
    rw [Nat.toString_eq_repr, Nat.toList_repr] at hc
    exact isBlank_of_isDigit (Nat.isDigit_of_mem_toDigits (by decide) (by decide) hc)
  rw [trim, trimChars_of_forall hdigits, String.ofList_toList]

/-- **A number below `2^32`, written in decimal, reads back as the number.** -/
theorem readWord32?_toString {n : Nat} (h : n < word32Bound) :
    readWord32? (toString n) = some n := by
  have hdigits : ∀ c ∈ Nat.toDigits 10 n, c.isDigit = true := fun c hc ↦
    Nat.isDigit_of_mem_toDigits (by decide) (by decide) hc
  unfold readWord32?
  rw [Nat.toString_eq_repr, Nat.toList_repr]
  have hne : Nat.toDigits 10 n ≠ [] := Nat.toDigits_ne_nil
  obtain ⟨c, cs, hcs⟩ := List.exists_cons_of_ne_nil hne
  -- a numeral starts with a digit, not with `+`
  have hc : c ≠ '+' := fun hplus ↦ by
    have hd := hdigits c (by rw [hcs]; exact List.mem_cons_self)
    rw [hplus] at hd
    exact absurd hd (by decide)
  have hall : (Nat.toDigits 10 n).all Char.isDigit = true := List.all_eq_true.mpr hdigits
  have hvalue : (Nat.toDigits 10 n).foldl (fun v d ↦ 10 * v + (d.toNat - '0'.toNat)) 0 = n :=
    Nat.ofDigitChars_ten_toDigits
  rw [hcs] at hall hvalue ⊢
  split
  · next h => exact absurd (List.cons.inj h).1 hc
  · simp only [List.isEmpty_cons, hall, Bool.not_true, Bool.or_self, Bool.false_eq_true,
      if_false, hvalue, if_pos h]

/-- A numeral is only read below `2^32`. -/
theorem readWord32?_lt {s : String} {n : Nat} (h : readWord32? s = some n) : n < word32Bound := by
  unfold readWord32? at h
  -- whether or not a `+` is stripped, the digits are read the same way
  split at h
  all_goals
    dsimp only at h
    split at h
    · cases h
    · split at h
      · next hlt => exact (Option.some.inj h) ▸ hlt
      · cases h

/-! ### Configurations -/

theorem ParamNames.firstRepeated?_eq_none_iff {names : List String} :
    ParamNames.firstRepeated? names = none ↔ names.Nodup := by
  induction names with
  | nil => simp [ParamNames.firstRepeated?]
  | cons n rest ih =>
    by_cases hn : n ∈ rest
    · simp [ParamNames.firstRepeated?, hn]
    · simp [ParamNames.firstRepeated?, hn, ih]

/-- **A usable configuration names four distinct parameters.** -/
theorem SearchConfig.nodup_of_validate {c : SearchConfig} (h : c.validate = .ok ()) :
    c.params.toList.Nodup := by
  unfold SearchConfig.validate at h
  dsimp only at h
  split at h
  · cases h
  · split at h
    · cases h
    · next hnone => exact ParamNames.firstRepeated?_eq_none_iff.mp hnone

namespace SearchQuery

/-! ### Reading a query -/

/-- A page number that is read fits in 32 bits. -/
theorem lt_of_readPage {name : String} {value? : Option String} {page : Option Nat}
    (h : readPage name value? = .ok page) : ∀ n ∈ page, n < word32Bound := by
  unfold readPage at h
  split at h
  · cases h
    simp
  · split at h
    · cases h
      simp
    · split at h
      · next hread =>
        cases h
        intro n hn
        rw [Option.mem_some_iff.mp hn] at hread
        exact readWord32?_lt hread
      · cases h

/-- A page number written in decimal, or none, reads back as itself. -/
theorem readPage_toString (name : String) {page : Option Nat}
    (h : ∀ n ∈ page, n < word32Bound) : readPage name (page.map toString) = .ok page := by
  cases page with
  | none => rfl
  | some n =>
    have hne : (toString n).isEmpty = false := by
      rw [Nat.toString_eq_repr]
      exact String.isEmpty_eq_false_iff.mpr fun he ↦ by
        have := Nat.length_repr_pos (n := n)
        rw [he] at this
        exact absurd this (by decide)
    unfold readPage
    simp only [Option.map_some, trim_toString, hne, Bool.false_eq_true, if_false,
      readWord32?_toString (h n rfl)]
    rfl

/-- A page size written in decimal, or none, reads back as itself. -/
theorem bind_readWord32?_toString {size : Option Nat} (h : ∀ n ∈ size, n < word32Bound) :
    ((size.map toString).map trim).bind readWord32? = size := by
  cases size with
  | none => rfl
  | some n =>
    simp only [Option.map_some, Option.bind_some, trim_toString, readWord32?_toString (h n rfl)]

/-- **What reading parameters gives**: the configuration must be usable and the page readable;
the query then holds the parameters it was read from and the first value of each field's
parameter. -/
theorem withConfig_eq_ok_iff {params : QueryParams} {config : SearchConfig} {q : SearchQuery} :
    withConfig params config = .ok q ↔ config.validate = .ok () ∧
      ∃ page, readPage config.params.page (params.get? config.params.page) = .ok page ∧
        q = { config, source := params,
              name := (params.get? config.params.name).filter fun n ↦ !n.isEmpty, page,
              pageSize := ((params.get? config.params.pageSize).map trim).bind readWord32?,
              rawLabels := (params.get? config.params.labels).getD "" } := by
  unfold withConfig
  cases hv : config.validate with
  | error e => simp [Except.mapError, bind, Except.bind]
  | ok u =>
    cases u
    simp only [Except.mapError]
    rw [bind_eq_ok]
    simp only [bind_eq_ok, pure_eq_ok, true_and, exists_const]
    exact exists_congr fun page ↦ and_congr_right fun _ ↦ eq_comm

/-! ### Reachable queries -/

/-- What every query that can be built keeps: a usable configuration, and page numbers that fit
in 32 bits. -/
structure WellFormed (q : SearchQuery) : Prop where
  config : q.config.validate = .ok ()
  page : ∀ n ∈ q.page, n < word32Bound
  pageSize : ∀ n ∈ q.pageSize, n < word32Bound

/-- The search queries that can be built: the empty one, or one read from parameters under a
configuration, changed by the query's operations on its labels and by writes to its public name,
page and page size (page numbers are unsigned 32-bit integers). -/
inductive Reachable : SearchQuery → Prop
  | new : Reachable {}
  | read {params : QueryParams} {config : SearchConfig} {q : SearchQuery} :
      withConfig params config = .ok q → Reachable q
  | trySetLabels {q q' : SearchQuery} {value : String} :
      Reachable q → q.trySetLabels value = .ok q' → Reachable q'
  | setLabels {q : SearchQuery} (value : String) : Reachable q → Reachable (q.setLabels value)
  | pushRule {q : SearchQuery} (r : Rule) : Reachable q → Reachable (q.pushRule r)
  | replaceRule {q : SearchQuery} (r : Rule) : Reachable q → Reachable (q.replaceRule r)
  | eraseRules {q : SearchQuery} (key : String) : Reachable q → Reachable (q.eraseRules key).2
  | setName {q : SearchQuery} (name : Option String) : Reachable q → Reachable (q.setName name)
  | setPage {q : SearchQuery} (page : Option UInt32) :
      Reachable q → Reachable (q.setPage (page.map UInt32.toNat))
  | setPageSize {q : SearchQuery} (size : Option UInt32) :
      Reachable q → Reachable (q.setPageSize (size.map UInt32.toNat))

theorem wellFormed_of_withConfig {params : QueryParams} {config : SearchConfig} {q : SearchQuery}
    (h : withConfig params config = .ok q) : q.WellFormed := by
  obtain ⟨hv, page, hpage, rfl⟩ := withConfig_eq_ok_iff.mp h
  refine ⟨hv, lt_of_readPage hpage, fun n hn ↦ ?_⟩
  obtain ⟨raw, -, hread⟩ := Option.bind_eq_some_iff.mp hn
  exact readWord32?_lt hread

/-- Changing the labels or the name keeps the invariant, which is about the other fields. -/
theorem WellFormed.of_eq {q q' : SearchQuery} (h : q.WellFormed) (hc : q'.config = q.config)
    (hp : q'.page = q.page) (hs : q'.pageSize = q.pageSize) : q'.WellFormed :=
  ⟨hc ▸ h.config, hp ▸ h.page, hs ▸ h.pageSize⟩

theorem trySetLabels_eq_ok {q q' : SearchQuery} {value : String}
    (h : q.trySetLabels value = .ok q') :
    ∃ rules raw, q' = { q with rules := rules, rawLabels := raw } := by
  unfold trySetLabels at h
  split at h
  · cases h
    exact ⟨_, _, rfl⟩
  · cases hs : Selector.parse value with
    | error e => simp [hs, Except.map] at h
    | ok s =>
      simp only [hs, Except.map, Except.ok.injEq] at h
      exact ⟨_, _, h.symm⟩

/-- Setting labels from text either reads them or leaves the query as it was. -/
theorem setLabels_cases (q : SearchQuery) (value : String) :
    q.setLabels value = q ∨ q.trySetLabels value = .ok (q.setLabels value) := by
  unfold setLabels
  split
  · next h => exact Or.inr h
  · exact Or.inl rfl

/-- A page number written to a public field is an unsigned 32-bit integer, so it fits. -/
theorem lt_of_mem_map_toNat {page : Option UInt32} :
    ∀ n ∈ page.map UInt32.toNat, n < word32Bound := fun n hn ↦ by
  obtain ⟨x, -, rfl⟩ := Option.map_eq_some_iff.mp hn
  exact x.toNat_lt

/-- **Every reachable query has a usable configuration and 32-bit page numbers.** -/
theorem Reachable.wellFormed {q : SearchQuery} (h : Reachable q) : q.WellFormed := by
  induction h with
  | new => exact ⟨by decide +kernel, by simp, by simp⟩
  | read h => exact wellFormed_of_withConfig h
  | trySetLabels _ h ih =>
    obtain ⟨rules, raw, rfl⟩ := trySetLabels_eq_ok h
    exact ih.of_eq rfl rfl rfl
  | setLabels value _ ih =>
    rcases setLabels_cases _ value with h | h
    · exact h ▸ ih
    · obtain ⟨rules, raw, h⟩ := trySetLabels_eq_ok h
      exact ih.of_eq (by rw [h]) (by rw [h]) (by rw [h])
  | pushRule _ _ ih | replaceRule _ _ ih | eraseRules _ _ ih | setName _ _ ih =>
    exact ih.of_eq rfl rfl rfl
  | setPage page _ ih => exact ⟨ih.config, lt_of_mem_map_toNat, ih.pageSize⟩
  | setPageSize size _ ih => exact ⟨ih.config, ih.page, lt_of_mem_map_toNat⟩

/-! ### Writing a query back -/

theorem get?_setOrErase (p : QueryParams) (k : String) (value : Option String) (k' : String) :
    (setOrErase p k value).get? k' = if k' = k then value else p.get? k' := by
  cases value with
  | none => exact QueryParams.get?_erase p k k'
  | some v =>
    by_cases h : k' = k
    · subst h
      simp [setOrErase]
    · simp [setOrErase, h, QueryParams.get?_set_of_ne]

/-- **The parameters of a query hold its fields**: under four distinct names, the name when it
is not empty, the page and the page size in decimal when positive, and the labels when not
empty. -/
theorem get?_toParams (q : SearchQuery) (h : q.config.params.toList.Nodup) :
    q.toParams.get? q.config.params.name = q.name.filter (fun n ↦ !n.isEmpty) ∧
      q.toParams.get? q.config.params.page = (q.page.filter (0 < ·)).map toString ∧
      q.toParams.get? q.config.params.pageSize = (q.pageSize.filter (0 < ·)).map toString ∧
      q.toParams.get? q.config.params.labels =
        if q.labels.isEmpty then none else some q.labels := by
  simp only [ParamNames.toList, List.nodup_cons, List.mem_cons, List.not_mem_nil, or_false,
    not_or] at h
  obtain ⟨⟨h₁, h₂, h₃⟩, ⟨h₄, h₅⟩, h₆, -⟩ := h
  simp [toParams, get?_setOrErase, h₁, h₂, h₃, h₄, h₅, h₆]

end SearchQuery

end LabelQuery
