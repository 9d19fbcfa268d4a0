import LabelQuery.Proofs.Fragments
/-!
# Canonical text reads back

The canonical text of a rule is a spelling of it: its pieces with one space between the key, the
operator and a single value or the value list, and none inside the value list. So the canonical
text of a rule is read as the rule, and the canonical text of a list of rules, their texts joined
by commas, is read as the list. The canonical text of whatever was read from a text is therefore
a normal form of it: it is read as the same rules.

## Main statements

* `Rule.render_spelled`: the canonical text of a rule spells it.
* `Selector.parse_render_eq_ok`: the canonical text of rules, and of a selector, is read back as
  them.
-/

namespace LabelQuery

open Text

/-! ### Writing pieces -/

theorem isBlank_space : isBlank ' ' = true := by decide +kernel

namespace Gaps

theorem nil (p : Bool) : Gaps p [] [] := .last blanks_nil

/-- A piece written right after the previous one, which it cannot join. -/
theorem tight {p : Bool} {t : String} {ts : List String} {cs : List Char}
    (hp : p = true → isToken t = false) (h : Gaps (isToken t) ts cs) :
    Gaps p (t :: ts) (t.toList ++ cs) :=
  .piece blanks_nil (fun hp' ht ↦ absurd ht (by simp [hp hp'])) h

/-- A piece written after a space. -/
theorem spaced {p : Bool} {t : String} {ts : List String} {cs : List Char}
    (h : Gaps (isToken t) ts cs) : Gaps p (t :: ts) (' ' :: (t.toList ++ cs)) :=
  .piece (w := [' ']) (fun c hc ↦ by rw [List.mem_singleton.mp hc]; exact isBlank_space)
    (fun _ _ ↦ List.cons_ne_nil _ _) h

end Gaps

/-- A value list is written without blanks: `v₁,…,vₘ)`. -/
theorem gaps_values {v : String} {vs : List String} (hv : ∀ v' ∈ v :: vs, isToken v' = true) :
    Gaps false (v :: valueTail vs) ((",".intercalate (v :: vs)).toList ++ (")".toList ++ [])) := by
  have hcomma : isToken "," = false := isToken_of_mem_marks (by simp [marks])
  have hclose : isToken ")" = false := isToken_of_mem_marks (by simp [marks])
  induction vs generalizing v with
  | nil =>
    rw [String.intercalate_singleton]
    exact Gaps.tight (by simp) (Gaps.tight (fun _ ↦ hclose) (Gaps.nil _))
  | cons v' vs ih =>
    have hsplit : (",".intercalate (v :: v' :: vs)).toList =
        v.toList ++ (",".toList ++ (",".intercalate (v' :: vs)).toList) := by
      simp
    rw [hsplit, List.append_assoc, List.append_assoc]
    refine Gaps.tight (by simp) (Gaps.tight (fun _ ↦ hcomma) ?_)
    rw [hcomma]
    exact ih fun v'' hm ↦ hv v'' (List.mem_cons_of_mem _ hm)

theorem spaced_present (k : String) : Spaced [k] k := by
  rw [Spaced, ← List.append_nil k.toList]
  exact Gaps.tight (by simp) (Gaps.nil _)

theorem spaced_absent (k : String) : Spaced ["!", k] ("!" ++ k) := by
  have hbang : isToken "!" = false := isToken_of_mem_marks (by simp [marks])
  rw [Spaced, String.toList_append, ← List.append_nil k.toList]
  exact Gaps.tight (by simp) (Gaps.tight (fun h ↦ absurd h (by simp [hbang])) (Gaps.nil _))

theorem spaced_single (k sym v : String) :
    Spaced [k, sym, v] (k ++ " " ++ sym ++ " " ++ String.join [v]) := by
  have htext : (k ++ " " ++ sym ++ " " ++ String.join [v]).toList =
      k.toList ++ ' ' :: (sym.toList ++ ' ' :: (v.toList ++ [])) := by
    simp
  rw [Spaced, htext]
  exact Gaps.tight (by simp) (Gaps.spaced (Gaps.spaced (Gaps.nil _)))

theorem spaced_set (k sym : String) {v : String} {vs : List String}
    (hv : ∀ v' ∈ v :: vs, isToken v' = true) :
    Spaced (k :: sym :: "(" :: v :: valueTail vs)
      (k ++ " " ++ sym ++ " (" ++ ",".intercalate (v :: vs) ++ ")") := by
  have hopen : isToken "(" = false := isToken_of_mem_marks (by simp [marks])
  have htext : (k ++ " " ++ sym ++ " (" ++ ",".intercalate (v :: vs) ++ ")").toList =
      k.toList ++ ' ' :: (sym.toList ++ ' ' :: ("(".toList ++
        ((",".intercalate (v :: vs)).toList ++ (")".toList ++ [])))) := by
    simp
  rw [Spaced, htext]
  refine Gaps.tight (by simp) (Gaps.spaced (Gaps.spaced ?_))
  rw [hopen]
  exact gaps_values hv

/-! ### Reading canonical text -/

/-- **The canonical text of a rule spells it.** -/
theorem Rule.render_spelled (r : Rule) :
    ∃ ts, Spells r.key r.op r.values ts ∧ Spaced ts r.render := by
  obtain ⟨-, ha, hv⟩ := r.wellFormed
  unfold Rule.render
  cases hsym : r.op.symbol? with
  | none =>
    -- the presence tests, which take no values
    have hun : r.op.arity = .unary := Operator.symbol?_eq_none_iff.mp hsym
    have hvs : r.values = [] := by
      rw [hun] at ha
      exact List.eq_nil_of_length_eq_zero ha
    by_cases hab : r.op = .absent
    · rw [if_pos hab]
      refine ⟨["!", r.key], ?_, spaced_absent _⟩
      rw [hab, hvs]
      exact .absent _
    · rw [if_neg hab]
      have hpr : r.op = .present := by
        revert hun hab
        cases r.op <;> simp [Operator.arity]
      refine ⟨[r.key], ?_, spaced_present _⟩
      rw [hpr, hvs]
      exact .present _
  | some sym =>
    have hmem : sym ∈ r.op.spellings :=
      Operator.ofSymbol?_eq_some_iff.mp (Operator.ofSymbol?_symbol? hsym)
    cases har : r.op.arity with
    | unary => simp [Operator.symbol?_eq_none_iff.mpr har] at hsym
    | single =>
      rw [har] at ha
      obtain ⟨v, hvs⟩ := List.length_eq_one_iff.mp ha
      rw [hvs]
      exact ⟨_, .single har hmem, spaced_single _ sym _⟩
    | set =>
      rw [har] at ha
      obtain ⟨v, vs, hvs⟩ := List.exists_cons_of_length_pos ha
      rw [hvs] at hv ⊢
      exact ⟨_, .set har hmem, spaced_set _ sym hv⟩

theorem Rule.parse_render (r : Rule) : Rule.parse r.render = .ok r := by
  obtain ⟨ts, hsp, he⟩ := r.render_spelled
  exact parse_of_spelled hsp he

namespace Selector

theorem parseRules_renderRules (rs : List Rule) : parseRules (renderRules rs) = .ok rs := by
  cases rs with
  | nil => simp [renderRules, parseRules, trimChars]
  | cons r rs =>
    refine parseRules_intercalate (by simp) ?_
    rw [List.forall₂_map_left_iff]
    exact List.forall₂_same.mpr fun r _ ↦ Rule.parse_render r

/-- **Canonical text is read back as what it was written from.** The canonical text of a list of
rules is read as the list, and that of a selector as the selector; so reading a text, writing
what was read and reading that again gives what the first reading gave. -/
theorem parse_render_eq_ok :
    (∀ rs : List Rule, parseRules (renderRules rs) = .ok rs) ∧
      (∀ sel : Selector, Selector.parse sel.render = .ok sel) ∧
      ∀ s : String, (parseRules s >>= fun rs ↦ parseRules (renderRules rs)) = parseRules s := by
  refine ⟨parseRules_renderRules, fun sel ↦ ?_, fun s ↦ ?_⟩
  · rw [Selector.parse, render, parseRules_renderRules]
    rfl
  · cases h : parseRules s with
    | error e => rfl
    | ok rs => exact parseRules_renderRules rs

end Selector

end LabelQuery
