import LabelQuery.Proofs.Trim
/-!
# Building a rule validates it

`Rule.new` trims the key and the values first and checks them afterwards, so what it accepts is
described by the trimmed texts: the trimmed key and every trimmed value must be tokens, and the
operator must take that many values. The order of its checks decides only which error is
reported, never whether the rule is built.

Every `Rule` satisfies these conditions, since the structure carries them, whatever path made
it: the shorthands, reading selector text, reading JSON or the flat form of a label selector all
end in `Rule.new`. And since a token is its own trim, rebuilding a rule from its own key,
operator and values gives the same rule back: `Rule.new` is a normalizing validator.

## Main statements

* `Rule.new_eq_ok_iff`: the success of `Rule.new` and its result, in terms of the trimmed texts.
* `Rule.new_self`: rebuilding a rule from its parts gives it back.
* `Rule.new_eq_ok_iff_trimmed_tokens`: both together, with the invariant every rule carries.
-/

namespace LabelQuery

open Text

namespace Rule

/-- **Trimmed texts that pass the checks are built into a rule.** -/
theorem new_of_wellFormed {k : String} {op : Operator} {vs : List String}
    (h : WellFormed (trim k) op (vs.map trim)) :
    Rule.new k op vs = .ok ⟨trim k, op, vs.map trim, h⟩ := by
  obtain ⟨hk, ha, hv⟩ := h
  have hne : (trim k).toList.isEmpty = false := by
    simpa using (isToken_eq_true_iff.mp hk).1
  have hfind : (vs.map trim).find? (fun v ↦ !isToken v) = none :=
    List.find?_eq_none.mpr fun v hv' ↦ by simp [hv v hv']
  unfold Rule.new
  rw [if_neg (by rw [hne]; decide), dif_neg (by rw [hk]; decide), dif_pos ha]
  split
  · next v hv' => simp [hfind] at hv'
  · rfl

/-- A rule built by `Rule.new` is made of the trimmed key and values. -/
theorem eq_of_new {k : String} {op : Operator} {vs : List String} {r : Rule}
    (h : Rule.new k op vs = .ok r) :
    r.key = trim k ∧ r.op = op ∧ r.values = vs.map trim := by
  unfold Rule.new at h
  dsimp only at h
  -- every branch but the last one of the value search is an error
  split at h
  · cases h
  · split at h
    · cases h
    · split at h
      · split at h
        · cases h
        · cases h
          exact ⟨rfl, rfl, rfl⟩
      · cases h

/-- **What `Rule.new` accepts and what it builds.** -/
theorem new_eq_ok_iff {k : String} {op : Operator} {vs : List String} {r : Rule} :
    Rule.new k op vs = .ok r ↔
      WellFormed (trim k) op (vs.map trim) ∧
        r.key = trim k ∧ r.op = op ∧ r.values = vs.map trim := by
  constructor
  · intro h
    obtain ⟨hk, ho, hv⟩ := eq_of_new h
    refine ⟨?_, hk, ho, hv⟩
    rw [← hk, ← ho, ← hv]
    exact r.wellFormed
  · rintro ⟨hw, hk, ho, hv⟩
    rw [new_of_wellFormed hw]
    exact congrArg Except.ok (Rule.ext hk.symm ho.symm hv.symm)

/-- **Rebuilding a rule from its parts gives it back**, since its key and values are tokens and
a token is its own trim. -/
theorem new_self (r : Rule) : Rule.new r.key r.op r.values = .ok r := by
  obtain ⟨hk, -, hv⟩ := r.wellFormed
  have hvs : r.values.map trim = r.values := map_trim_of_isToken hv
  refine new_eq_ok_iff.mpr ⟨?_, (trim_of_isToken hk).symm, rfl, hvs.symm⟩
  rw [trim_of_isToken hk, hvs]
  exact r.wellFormed

/-- **`Rule.new` is a normalizing validator.** It succeeds exactly when the trimmed key and every
trimmed value are tokens and the operator takes that many values, and then builds the rule from
the trimmed texts. Every rule satisfies the same conditions on its own parts, and rebuilding it
from them gives it back. -/
theorem new_eq_ok_iff_trimmed_tokens (k : String) (op : Operator) (vs : List String) (r : Rule) :
    (Rule.new k op vs = .ok r ↔
      (isToken (trim k) = true ∧ op.arity.Admits vs.length ∧
          ∀ v ∈ vs, isToken (trim v) = true) ∧
        r.key = trim k ∧ r.op = op ∧ r.values = vs.map trim) ∧
      (WellFormed r.key r.op r.values ∧ Rule.new r.key r.op r.values = .ok r) := by
  refine ⟨?_, r.wellFormed, new_self r⟩
  rw [new_eq_ok_iff]
  simp [WellFormed]

end Rule

end LabelQuery
