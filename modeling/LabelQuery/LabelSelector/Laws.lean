import Mathlib.Data.List.Perm.Basic
import LabelQuery.LabelSelector.Basic
import LabelQuery.Proofs.Fragments
/-!
# Laws of label selectors

How the structured form is built one rule at a time, what it matches, when it is valid, and what
its flat form is.

Adding a rule either makes it a required label (an equality rule whose key is not yet required)
or appends it to the expressions (`add_of_equals`, `add_of_ne_equals`, `add_of_required`).
Either way the selector then matches what it matched before and what the rule matches
(`selects_add`), so the structured form of a list of rules matches exactly what all of them
match (`selects_ofRules`).

A label selector is valid when every required label is a pair of tokens
(`validate_eq_ok_iff`). The flat form of a valid selector is an equality rule for each required
label, in key order, followed by the expressions (`toRules_of_validate`).

## Main statements

* `LabelSelector.selects_ofRules`: the structured form matches what all its rules match.
* `LabelSelector.validate_eq_ok_iff`: validity means tokens in every required label.
* `LabelSelector.toRules_of_validate`: the flat form of a valid selector.
-/

namespace LabelQuery

open Text

/-! ### Lists -/

theorem all_eq_of_perm {α : Type} {l₁ l₂ : List α} (h : l₁.Perm l₂) (p : α → Bool) :
    l₁.all p = l₂.all p := by
  apply Bool.eq_iff_iff.mpr
  simp only [List.all_eq_true]
  exact ⟨fun H x hx ↦ H x (h.mem_iff.mpr hx), fun H x hx ↦ H x (h.mem_iff.mp hx)⟩

theorem exists_forall₂_of_forall {α β : Type} {R : α → β → Prop} :
    ∀ {xs : List α}, (∀ x ∈ xs, ∃ y, R x y) → ∃ ys, List.Forall₂ R xs ys
  | [], _ => ⟨[], .nil⟩
  | x :: xs, h => by
    obtain ⟨y, hy⟩ := h x List.mem_cons_self
    obtain ⟨ys, hys⟩ := exists_forall₂_of_forall fun x' hx' ↦ h x' (List.mem_cons_of_mem _ hx')
    exact ⟨y :: ys, .cons hy hys⟩

theorem map_eq_map_of_forall₂ {α β γ : Type} {R : α → β → Prop} {f : α → γ} {g : β → γ}
    {xs : List α} {ys : List β} (h : List.Forall₂ R xs ys) (hfg : ∀ x y, R x y → f x = g y) :
    xs.map f = ys.map g := by
  induction h with
  | nil => rfl
  | cons hxy _ ih => rw [List.map_cons, List.map_cons, hfg _ _ hxy, ih]

theorem forM_eq_ok_iff {ε α : Type} {f : α → Except ε Unit} {xs : List α} :
    xs.forM f = .ok () ↔ ∀ x ∈ xs, f x = .ok () := by
  induction xs with
  | nil => simp [pure, Except.pure]
  | cons x xs ih =>
    rw [List.forM_eq_forM, List.forM_cons, bind_eq_ok, ← List.forM_eq_forM, ih,
      List.forall_mem_cons]
    constructor
    · rintro ⟨⟨⟩, hx, hs⟩
      exact ⟨hx, hs⟩
    · rintro ⟨hx, hs⟩
      exact ⟨(), hx, hs⟩

/-! ### Label sets -/

/-- Inserting a key that is not present adds its entry to the others. -/
theorem insertEntry_perm {k v : String} :
    ∀ {l : List (String × String)}, k ∉ l.map Prod.fst → (insertEntry k v l).Perm ((k, v) :: l)
  | [], _ => List.Perm.refl _
  | e :: rest, hk => by
    simp only [List.map_cons, List.mem_cons, not_or] at hk
    obtain ⟨hne, hrest⟩ := hk
    simp only [insertEntry, hne, if_false]
    split
    · exact List.Perm.refl _
    · exact ((insertEntry_perm hrest).cons e).trans (List.Perm.swap _ _ _)

/-- The keys after an insertion are the inserted key and the keys before. -/
theorem mem_keys_insertEntry {k v k' : String} :
    ∀ {l : List (String × String)},
      k' ∈ (insertEntry k v l).map Prod.fst ↔ k' = k ∨ k' ∈ l.map Prod.fst
  | [] => by simp [insertEntry]
  | e :: rest => by
    unfold insertEntry
    split
    · simp
    · split
      · next h => simp [h]
      · simp only [List.map_cons, List.mem_cons, mem_keys_insertEntry]
        tauto

/-- A key above every key of the entries is inserted at their end. -/
theorem insertEntry_of_lt {k v : String} :
    ∀ {l : List (String × String)}, (∀ e ∈ l, e.1 < k) → insertEntry k v l = l ++ [(k, v)]
  | [], _ => rfl
  | e :: rest, h => by
    have he : e.1 < k := h e List.mem_cons_self
    rw [insertEntry, if_neg (String.lt_asymm he),
      if_neg fun (hk : k = e.1) ↦ String.lt_irrefl k (hk ▸ he),
      insertEntry_of_lt fun e' he' ↦ h e' (List.mem_cons_of_mem _ he'), List.cons_append]

namespace Labels

/-- Label sets with the same entries are equal: sortedness is a proof. -/
theorem ext {a b : Labels} (h : a.entries = b.entries) : a = b := by
  cases a; cases b; cases h; rfl

instance : DecidableEq Labels := fun a b ↦
  if h : a.entries = b.entries then isTrue (ext h) else isFalse fun e ↦ h (e ▸ rfl)

/-- A key is present exactly when an entry has it. -/
theorem has_eq_true_iff {l : Labels} {k : String} :
    l.has k = true ↔ k ∈ l.entries.map Prod.fst := by
  simp [has, get?, List.find?_isSome]

/-- Inserting a new key: the entries are the new one and the old ones. -/
theorem all_insert {l : Labels} {k : String} (v : String) (hk : l.has k = false)
    (p : String × String → Bool) :
    (l.insert k v).entries.all p = (p (k, v) && l.entries.all p) := by
  have hnew : k ∉ l.entries.map Prod.fst := fun hm ↦ by
    rw [← has_eq_true_iff, hk] at hm
    exact Bool.false_ne_true hm
  exact (all_eq_of_perm (insertEntry_perm hnew) p).trans (List.all_cons ..)

/-- After an insertion the inserted key is present, and so is every key that was. -/
theorem has_insert {l : Labels} {k v k' : String} :
    (l.insert k v).has k' = true ↔ k' = k ∨ l.has k' = true := by
  rw [has_eq_true_iff, has_eq_true_iff]
  exact mem_keys_insertEntry

end Labels

/-! ### Equality rules -/

namespace Rule

/-- A rule whose operator takes one value has exactly one. -/
theorem values_eq_singleton {r : Rule} (h : r.op.arity = .single) : ∃ v, r.values = [v] := by
  have ha := r.wellFormed.2.1
  rw [h] at ha
  exact List.length_eq_one_iff.mp ha

/-- An equality rule has exactly one value. -/
theorem exists_values_of_equals {r : Rule} (h : r.op = .equals) : ∃ v, r.values = [v] :=
  r.values_eq_singleton (by rw [h]; rfl)

section Equality

variable {r : Rule} {v : String}

theorem value?_of_equals (h : r.op = .equals) (hv : r.values = [v]) : r.value? = some v := by
  simp [value?, h, hv, Operator.arity]

/-- An equality rule `k = v` holds when the label `k` has the value `v`. -/
theorem selects_of_equals (h : r.op = .equals) (hv : r.values = [v])
    (label? : String → Option String) : r.selects label? = (label? r.key == some v) := by
  unfold selects
  rw [h, hv]
  cases label? r.key <;> simp [eq_comm]

/-- The canonical text of an equality rule. -/
theorem render_of_equals (h : r.op = .equals) (hv : r.values = [v]) :
    r.render = r.key ++ " = " ++ v := by
  simp only [render, h, hv, Operator.symbol?, Operator.arity, String.join_cons, String.join_nil]
  have hsym : " " ++ ("=" ++ (" " ++ v)) = " = " ++ v := by
    rw [← String.append_assoc, ← String.append_assoc, show " " ++ "=" ++ " " = " = " by decide]
  simp only [String.append_empty, String.append_assoc, hsym]

end Equality

/-- Two tokens make the equality rule between them. -/
theorem equals_of_isToken {k v : String} (hk : isToken k = true) (hv : isToken v = true) :
    ∃ r, Rule.equals k v = .ok r ∧ r.key = k ∧ r.op = .equals ∧ r.values = [v] := by
  have hw : WellFormed k .equals [v] := ⟨hk, rfl, by simpa using hv⟩
  refine ⟨⟨k, .equals, [v], hw⟩, ?_, rfl, rfl, rfl⟩
  rw [Rule.equals, new_eq_ok_iff]
  simp [trim_of_isToken hk, trim_of_isToken hv, hw]

end Rule

namespace LabelSelector

theorem ext {s t : LabelSelector} (hl : s.matchLabels = t.matchLabels)
    (he : s.matchExpressions = t.matchExpressions) : s = t := by
  cases s; cases t; cases hl; cases he; rfl

instance : DecidableEq LabelSelector := fun s t ↦
  if h : s.matchLabels = t.matchLabels ∧ s.matchExpressions = t.matchExpressions then
    isTrue (ext h.1 h.2)
  else isFalse fun e ↦ h (e ▸ ⟨rfl, rfl⟩)

/-! ### Building the structured form -/

/-- An equality rule becomes a required label unless its key is required already; then it is
appended to the expressions. -/
theorem add_of_equals (s : LabelSelector) {r : Rule} {v : String} (h : r.op = .equals)
    (hv : r.values = [v]) :
    s.add r = if s.matchLabels.has r.key then ⟨s.matchLabels, s.matchExpressions ++ [r]⟩
      else ⟨s.matchLabels.insert r.key v, s.matchExpressions⟩ := by
  simp only [add, h, Rule.value?_of_equals h hv]

/-- Any other rule is appended to the expressions. -/
theorem add_of_ne_equals (s : LabelSelector) {r : Rule} (h : r.op ≠ .equals) :
    s.add r = ⟨s.matchLabels, s.matchExpressions ++ [r]⟩ := by
  unfold add
  split
  · next heq _ => exact absurd heq h
  · rfl

/-- A rule that is not an equality for a new key is appended to the expressions. -/
theorem add_of_required {s : LabelSelector} {r : Rule}
    (h : r.op = .equals → s.matchLabels.has r.key = true) :
    s.add r = ⟨s.matchLabels, s.matchExpressions ++ [r]⟩ := by
  by_cases hop : r.op = .equals
  · obtain ⟨v, hv⟩ := Rule.exists_values_of_equals hop
    rw [s.add_of_equals hop hv, if_pos (h hop)]
  · exact s.add_of_ne_equals hop

/-- **Adding a rule adds exactly its requirement.** -/
theorem selects_add (s : LabelSelector) (r : Rule) (label? : String → Option String) :
    (s.add r).selects label? = (s.selects label? && r.selects label?) := by
  by_cases h : r.op = .equals
  · obtain ⟨v, hv⟩ := Rule.exists_values_of_equals h
    rw [s.add_of_equals h hv, Rule.selects_of_equals h hv]
    cases hk : s.matchLabels.has r.key
    · -- the rule becomes a required label
      simp only [Bool.false_eq_true, if_false, selects, Labels.all_insert v hk]
      cases label? r.key == some v <;> simp
    · simp [selects, List.all_append, Bool.and_assoc, Rule.selects_of_equals h hv]
  · rw [s.add_of_ne_equals h]
    simp [selects, List.all_append, Bool.and_assoc]

theorem selects_foldl_add (rs : List Rule) (s : LabelSelector) (label? : String → Option String) :
    (rs.foldl add s).selects label? = (s.selects label? && rs.all fun r ↦ r.selects label?) := by
  induction rs generalizing s with
  | nil => simp
  | cons r rs ih => rw [List.foldl_cons, ih, selects_add, List.all_cons, Bool.and_assoc]

/-- **The structured form matches what all its rules match.** -/
theorem selects_ofRules (rs : List Rule) (label? : String → Option String) :
    (ofRules rs).selects label? = rs.all fun r ↦ r.selects label? := by
  rw [ofRules, selects_foldl_add]
  simp [selects, empty, Labels.empty]

/-! ### Validity and the flat form -/

/-- **Valid** means that every required label is a pair of tokens. -/
theorem validate_eq_ok_iff (s : LabelSelector) :
    s.validate = .ok () ↔ ∀ e ∈ s.matchLabels.entries, isToken e.1 = true ∧ isToken e.2 = true := by
  rw [validate, forM_eq_ok_iff]
  refine forall₂_congr fun e _ ↦ ?_
  cases h₁ : isToken e.1 <;> cases h₂ : isToken e.2 <;> simp

/-- **The flat form of a valid selector**: the equality rule `k = v` of each required label, in
key order, then the expressions. -/
theorem toRules_of_validate {s : LabelSelector} (h : s.validate = .ok ()) :
    ∃ ls, s.toRules = .ok (ls ++ s.matchExpressions) ∧
      List.Forall₂ (fun e r ↦ r.key = e.1 ∧ r.op = .equals ∧ r.values = [e.2])
        s.matchLabels.entries ls := by
  have htok := (validate_eq_ok_iff s).mp h
  have hrules : ∀ e ∈ s.matchLabels.entries, ∃ r, Rule.equals e.1 e.2 = .ok r ∧
      r.key = e.1 ∧ r.op = .equals ∧ r.values = [e.2] :=
    fun e he ↦ Rule.equals_of_isToken (htok e he).1 (htok e he).2
  obtain ⟨ls, hls⟩ := exists_forall₂_of_forall hrules
  have hmap : (s.matchLabels.entries.mapM fun e ↦ Rule.equals e.1 e.2) = .ok ls :=
    mapM_eq_ok_iff.mpr (hls.imp fun _ _ h ↦ h.1)
  refine ⟨ls, ?_, hls.imp fun _ _ h ↦ h.2⟩
  simp only [toRules, hmap]
  rfl

end LabelSelector

end LabelQuery
