import LabelQuery.LabelSelector.Laws
/-!
# Structured and flat forms of a label selector

The structured form of a list of rules (`LabelSelector.ofRules`) moves the first equality rule
of each key into the required labels and keeps every other rule as an expression. No requirement
is lost and none is added: the structured form is valid, its flat form is a reordering of the
rules (the first equality rule of each key, in key order, then all the other rules in their
order), and it matches exactly the label sets that all the rules match.

The other way round, the flat form of a valid label selector is an equality rule for each
required label, in key order, followed by the expressions; it has the same text as the selector
and matches the same label sets.

Which rules become required labels is said by position: a rule *opens its key* when it is an
equality rule and no equality rule before it has its key (`Rule.opensKey`). Building the
structured form is a fold over the rules, and `Built` says what it holds after each prefix of
them; `Built.add` is the step and `built_ofRules` the run.

## Main statements

* `LabelSelector.ofRules_keeps_requirements`: the structured form of rules loses and duplicates
  no requirement.
* `LabelSelector.flat_form_agrees`: a valid label selector and its flat form have the same text
  and match the same label sets.
-/

namespace LabelQuery

open Text

namespace Rule

/-- The rule **opens its key** after the rules `before`: it is an equality rule, and no equality
rule among `before` has its key. -/
def opensKey (before : List Rule) (r : Rule) : Bool :=
  r.op == .equals && !before.any fun q ↦ q.op == .equals && q.key == r.key

/-- The required label that an equality rule stands for. -/
def entry (r : Rule) : String × String := (r.key, r.values.headD "")

theorem entry_of_equals {r : Rule} {v : String} (hv : r.values = [v]) : r.entry = (r.key, v) := by
  simp [entry, hv]

/-- An equality rule opens its key exactly when no equality rule before it has its key. -/
theorem opensKey_eq_true_iff {before : List Rule} {r : Rule} :
    r.opensKey before = true ↔ r.op = .equals ∧ ¬ ∃ q ∈ before, q.op = .equals ∧ q.key = r.key := by
  simp [opensKey]

end Rule

/-! ### Rules by position -/

/-- The rules of `rs` at the positions where `keep` holds of the rule and the rules before it. -/
def rulesWhere (keep : List Rule → Rule → Bool) (rs : List Rule) : List Rule :=
  (rs.zipIdx.filter fun p ↦ keep (rs.take p.2) p.1).map Prod.fst

/-- The first equality rule of each key, in the order of the rules. -/
def firstEqualities (rs : List Rule) : List Rule :=
  rulesWhere Rule.opensKey rs

/-- The rules that do not open their key, in their order. -/
def laterRules (rs : List Rule) : List Rule :=
  rulesWhere (fun before r ↦ !r.opensKey before) rs

/-- A rule added at the end is kept when `keep` holds of it and of all the rules before it. -/
theorem rulesWhere_append_singleton (keep : List Rule → Rule → Bool) (rs : List Rule)
    (r : Rule) :
    rulesWhere keep (rs ++ [r]) = rulesWhere keep rs ++ if keep rs r then [r] else [] := by
  -- the rules before a position of `rs` are the same in `rs ++ [r]`
  have hbefore : ∀ p ∈ rs.zipIdx, (rs ++ [r]).take p.2 = rs.take p.2 := fun p hp ↦
    List.take_append_of_le_length (Nat.le_of_lt (by simpa using List.snd_lt_add_of_mem_zipIdx hp))
  have hlast : (rs ++ [r]).take (0 + rs.length) = rs := List.take_left' (Nat.zero_add _).symm
  unfold rulesWhere
  rw [List.zipIdx_append, List.filter_append, List.map_append,
    List.filter_congr fun p hp ↦ by rw [hbefore p hp], List.zipIdx_singleton, List.filter_cons,
    hlast]
  split <;> simp

theorem rulesWhere_sublist (keep : List Rule → Rule → Bool) (rs : List Rule) :
    (rulesWhere keep rs).Sublist rs := by
  have h : (rulesWhere keep rs).Sublist (rs.zipIdx.map Prod.fst) :=
    List.filter_sublist.map Prod.fst
  rwa [List.zipIdx_map_fst] at h

/-- The rules kept and the rules left out make up all the rules. -/
theorem rulesWhere_perm (keep : List Rule → Rule → Bool) (rs : List Rule) :
    (rulesWhere keep rs ++ rulesWhere (fun before r ↦ !keep before r) rs).Perm rs := by
  have h := (List.filter_append_perm (fun p ↦ keep (rs.take p.2) p.1) rs.zipIdx).map Prod.fst
  rwa [List.map_append, List.zipIdx_map_fst] at h

theorem firstEqualities_append_singleton (rs : List Rule) (r : Rule) :
    firstEqualities (rs ++ [r]) = firstEqualities rs ++ if r.opensKey rs then [r] else [] :=
  rulesWhere_append_singleton _ rs r

theorem laterRules_append_singleton (rs : List Rule) (r : Rule) :
    laterRules (rs ++ [r]) = laterRules rs ++ if r.opensKey rs then [] else [r] := by
  rw [laterRules, rulesWhere_append_singleton]
  cases r.opensKey rs <;> rfl

theorem mem_firstEqualities {rs : List Rule} {q : Rule} (h : q ∈ firstEqualities rs) :
    q ∈ rs ∧ q.op = .equals := by
  refine ⟨(rulesWhere_sublist _ rs).subset h, ?_⟩
  obtain ⟨p, hp, rfl⟩ := List.mem_map.mp h
  exact (Rule.opensKey_eq_true_iff.mp (List.mem_filter.mp hp).2).1

/-- **The keys of the first equality rules** are the keys of all equality rules. -/
theorem exists_firstEqualities_key (rs : List Rule) (k : String) :
    (∃ q ∈ firstEqualities rs, q.key = k) ↔ ∃ q ∈ rs, q.op = .equals ∧ q.key = k := by
  induction rs using List.reverseRecOn with
  | nil => simp [firstEqualities, rulesWhere]
  | append_singleton rs r ih =>
    rw [firstEqualities_append_singleton]
    constructor
    · rintro ⟨q, hq, rfl⟩
      have hq₁ : q ∈ firstEqualities (rs ++ [r]) := by
        rw [firstEqualities_append_singleton]
        exact hq
      obtain ⟨hq', hop⟩ := mem_firstEqualities hq₁
      exact ⟨q, hq', hop, rfl⟩
    · rintro ⟨q, hq, hop, rfl⟩
      rcases List.mem_append.mp hq with hq | hq
      · obtain ⟨q', hq', hk⟩ := ih.mpr ⟨q, hq, hop, rfl⟩
        exact ⟨q', List.mem_append_left _ hq', hk⟩
      · obtain rfl := List.mem_singleton.mp hq
        by_cases ho : q.opensKey rs
        · exact ⟨q, by simp [ho], rfl⟩
        · -- an equality rule that does not open its key follows one with its key
          have hprev : ∃ q' ∈ rs, q'.op = .equals ∧ q'.key = q.key := by
            by_contra hn
            exact ho (Rule.opensKey_eq_true_iff.mpr ⟨hop, hn⟩)
          obtain ⟨q', hq', hk⟩ := ih.mpr hprev
          exact ⟨q', List.mem_append_left _ hq', hk⟩

/-! ### Building the structured form, one rule at a time -/

namespace LabelSelector

/-- What the structured form of the rules `rs` holds: the first equality rule of each key as a
required label, and every other rule as an expression, in order. -/
structure Built (rs : List Rule) (s : LabelSelector) : Prop where
  labels : s.matchLabels.entries.Perm ((firstEqualities rs).map Rule.entry)
  expressions : s.matchExpressions = laterRules rs

theorem built_empty : Built [] empty :=
  ⟨by simp [empty, Labels.empty, firstEqualities, rulesWhere], rfl⟩

/-- In a structured form built from `rs`, a key is required when an equality rule of `rs` has it. -/
theorem Built.has_eq_true_iff {rs : List Rule} {s : LabelSelector} (h : Built rs s) (k : String) :
    s.matchLabels.has k = true ↔ ∃ q ∈ rs, q.op = .equals ∧ q.key = k := by
  rw [Labels.has_eq_true_iff, (h.labels.map Prod.fst).mem_iff, List.map_map,
    ← exists_firstEqualities_key]
  simp [Rule.entry]

/-- An equality rule opens its key exactly when the structured form built so far lacks the key. -/
theorem Built.opensKey_iff {rs : List Rule} {s : LabelSelector} (h : Built rs s) {r : Rule}
    (hop : r.op = .equals) : r.opensKey rs = true ↔ s.matchLabels.has r.key = false := by
  rw [Rule.opensKey_eq_true_iff, ← Bool.not_eq_true, h.has_eq_true_iff]
  simp [hop]

/-- **The step**: adding a rule keeps `Built`, with the rule appended to the rules. -/
theorem Built.add {rs : List Rule} {s : LabelSelector} (h : Built rs s) (r : Rule) :
    Built (rs ++ [r]) (s.add r) := by
  by_cases ho : r.opensKey rs
  · -- a new required label
    have hop := (Rule.opensKey_eq_true_iff.mp ho).1
    obtain ⟨v, hv⟩ := Rule.exists_values_of_equals hop
    have hk := (h.opensKey_iff hop).mp ho
    rw [s.add_of_equals hop hv, hk, if_neg Bool.false_ne_true]
    have hnew : r.key ∉ s.matchLabels.entries.map Prod.fst := fun hm ↦ by
      rw [← Labels.has_eq_true_iff, hk] at hm
      exact Bool.false_ne_true hm
    refine ⟨?_, ?_⟩
    · rw [firstEqualities_append_singleton, if_pos ho, List.map_append, List.map_singleton,
        Rule.entry_of_equals hv]
      exact (insertEntry_perm hnew).trans ((h.labels.cons _).trans (List.perm_append_singleton _ _).symm)
    · rw [laterRules_append_singleton, if_pos ho, List.append_nil]
      exact h.expressions
  · -- the rule stays an expression
    have hadd : s.add r = ⟨s.matchLabels, s.matchExpressions ++ [r]⟩ :=
      add_of_required fun hop ↦ by simpa [h.opensKey_iff hop] using ho
    rw [hadd]
    refine ⟨?_, ?_⟩
    · rw [firstEqualities_append_singleton, if_neg ho, List.append_nil]
      exact h.labels
    · rw [laterRules_append_singleton, if_neg ho, h.expressions]

/-- **The run**: the structured form of the rules holds their first equality rules as required
labels and the others as expressions. -/
theorem built_ofRules (rs : List Rule) : Built rs (ofRules rs) := by
  induction rs using List.reverseRecOn with
  | nil => exact built_empty
  | append_singleton rs r ih =>
    rw [ofRules, List.foldl_append, List.foldl_cons, List.foldl_nil]
    exact ih.add r

/-! ### The flat form of the structured form -/

/-- The required labels of a structured form are the labels of equality rules, so they are
tokens. -/
theorem Built.validate {rs : List Rule} {s : LabelSelector} (h : Built rs s) :
    s.validate = .ok () := by
  refine (validate_eq_ok_iff s).mpr fun e he ↦ ?_
  obtain ⟨q, hq, rfl⟩ := List.mem_map.mp (h.labels.mem_iff.mp he)
  have hop := (mem_firstEqualities hq).2
  obtain ⟨v, hv⟩ := Rule.exists_values_of_equals hop
  obtain ⟨hkey, -, hvals⟩ := q.wellFormed
  rw [Rule.entry_of_equals hv]
  exact ⟨hkey, hvals v (by simp [hv])⟩

/-- Equality rules read back from the labels of equality rules are those rules. -/
theorem eq_of_forall₂_entry :
    ∀ {qs ls : List Rule}, (∀ q ∈ qs, q.op = .equals) →
      List.Forall₂ (fun e r ↦ r.key = e.1 ∧ r.op = .equals ∧ r.values = [e.2])
        (qs.map Rule.entry) ls → ls = qs
  | [], _, _, h => List.forall₂_nil_left_iff.mp h
  | q :: qs, _, hq, h => by
    obtain ⟨r, ls, ⟨hk, ho, hvs⟩, htail, rfl⟩ := List.forall₂_cons_left_iff.mp h
    have hop := hq q List.mem_cons_self
    obtain ⟨v, hv⟩ := Rule.exists_values_of_equals hop
    rw [Rule.entry_of_equals hv] at hk hvs
    have hr : r = q := Rule.ext hk (ho.trans hop.symm) (hvs.trans hv.symm)
    rw [hr, eq_of_forall₂_entry (fun q' hq' ↦ hq q' (List.mem_cons_of_mem _ hq')) htail]

/-- **The structured form of rules loses and duplicates no requirement.** It is valid; its flat
form is the first equality rule of each key, in key order, followed by every other rule in its
order, which is a reordering of the rules; and it matches exactly the label sets that all the
rules match. So reading selector text into the structured form or into a plain selector gives
the same error, or two selectors that match the same label sets. -/
theorem ofRules_keeps_requirements (rs : List Rule) :
    (ofRules rs).validate = .ok () ∧
      (∃ ls, (ofRules rs).toRules = .ok (ls ++ laterRules rs) ∧
        ls.Perm (firstEqualities rs) ∧ ls.Pairwise (fun a b ↦ a.key < b.key) ∧
        (ls ++ laterRules rs).Perm rs) ∧
      (∀ label?, (ofRules rs).selects label? = (Selector.mk rs).selects label?) ∧
      ∀ text label?, (LabelSelector.parse text).map (·.selects label?) =
        (Selector.parse text).map (·.selects label?) := by
  have hb := built_ofRules rs
  refine ⟨hb.validate, ?_, fun label? ↦ selects_ofRules rs label?, fun text label? ↦ ?_⟩
  · obtain ⟨ls, hto, hrel⟩ := toRules_of_validate hb.validate
    -- the required labels, in key order, are the labels of the rules read back from them
    have hentries : (ofRules rs).matchLabels.entries = ls.map Rule.entry := by
      have h : (ofRules rs).matchLabels.entries.map id = ls.map Rule.entry :=
        map_eq_map_of_forall₂ hrel fun e r ⟨hk, _, hv⟩ ↦ by rw [Rule.entry_of_equals hv, hk]; rfl
      rwa [List.map_id] at h
    obtain ⟨w, hw, hwls⟩ := List.perm_comp_forall₂ hb.labels.symm hrel
    have hperm : ls.Perm (firstEqualities rs) := by
      rw [← eq_of_forall₂_entry (fun q hq ↦ (mem_firstEqualities hq).2) hw]
      exact hwls.symm
    have hsorted : ls.Pairwise (fun a b ↦ a.key < b.key) := by
      have h := (ofRules rs).matchLabels.sorted
      rw [SortedEntries, hentries] at h
      have h' := List.pairwise_map.mp h
      exact h'
    refine ⟨ls, ?_, hperm, hsorted, ?_⟩
    · rw [hto, hb.expressions]
    · exact (hperm.append_right _).trans (rulesWhere_perm Rule.opensKey rs)
  · unfold LabelSelector.parse Selector.parse
    cases Selector.parseRules text with
    | error e => rfl
    | ok rs' => exact congrArg Except.ok (selects_ofRules rs' label?)

/-! ### The flat form of a valid label selector -/

/-- Each required label is written as its equality rule, so a label selector has the text of
the equality rules of its labels followed by its expressions. -/
theorem render_eq_renderRules {s : LabelSelector} {ls : List Rule}
    (hrel : List.Forall₂ (fun e r ↦ r.key = e.1 ∧ r.op = .equals ∧ r.values = [e.2])
      s.matchLabels.entries ls) :
    s.render = Selector.renderRules (ls ++ s.matchExpressions) := by
  have htexts : s.matchLabels.entries.map (fun e ↦ e.1 ++ " = " ++ e.2) = ls.map Rule.render :=
    map_eq_map_of_forall₂ hrel fun e r ⟨hk, ho, hv⟩ ↦ by rw [Rule.render_of_equals ho hv, hk]
  rw [render, Selector.renderRules, List.map_append, htexts]

/-- **A valid label selector and its flat form agree.** The flat form is the equality rule
`k = v` of each required label, in key order, followed by the expressions unchanged; it has the
selector's text, and it matches the same label sets. -/
theorem flat_form_agrees (s : LabelSelector) (h : s.validate = .ok ()) :
    ∃ rs, s.toRules = .ok rs ∧
      (∃ ls, rs = ls ++ s.matchExpressions ∧
        List.Forall₂ (fun e r ↦ r.key = e.1 ∧ r.op = .equals ∧ r.values = [e.2])
          s.matchLabels.entries ls) ∧
      s.render = Selector.renderRules rs ∧
      ∀ label?, s.selects label? = (Selector.mk rs).selects label? := by
  obtain ⟨ls, hto, hrel⟩ := toRules_of_validate h
  refine ⟨_, hto, ⟨ls, rfl, hrel⟩, render_eq_renderRules hrel, fun label? ↦ ?_⟩
  -- each required label is checked as its equality rule
  have hchecks : s.matchLabels.entries.map (fun e ↦ label? e.1 == some e.2) =
      ls.map fun r ↦ r.selects label? :=
    map_eq_map_of_forall₂ hrel fun e r ⟨hk, ho, hv⟩ ↦ by rw [Rule.selects_of_equals ho hv, hk]
  have hall := congrArg (fun l ↦ l.all id) hchecks
  simp only [List.all_map, Function.id_comp] at hall
  rw [selects, Selector.selects, List.all_append, hall]

theorem flat_form_agrees_sample :
    let s : LabelSelector := ⟨⟨[("env", "prod")], List.pairwise_singleton _ _⟩,
      [⟨"tier", .notIn, ["db"], by decide +kernel, by decide, by decide +kernel⟩]⟩
    s.validate = .ok () ∧ ∃ rs, s.toRules = .ok rs ∧
      (∃ ls, rs = ls ++ s.matchExpressions ∧
        List.Forall₂ (fun e r ↦ r.key = e.1 ∧ r.op = .equals ∧ r.values = [e.2])
          s.matchLabels.entries ls) ∧
      s.render = Selector.renderRules rs ∧
      ∀ label?, s.selects label? = (Selector.mk rs).selects label? := by
  intro s
  have hv : s.validate = .ok () := by decide +kernel
  exact ⟨hv, flat_form_agrees s hv⟩

end LabelSelector

end LabelQuery
