import LabelQuery.Proofs.RoundTrip
import LabelQuery.Search.Query
/-!
# The labels of a search query, read lazily

A search query keeps its labels in one of two forms: the raw text it was read with, or the rules
once they have been set or edited. Its selector is the raw text read at the moment it is asked
for, or the rules. Either way the selector is what its selector text reads as
(`selector_eq_parse_labels`): for the rules this is the canonical text reading back.

So the query behaves as if it held the selector read eagerly. Setting the labels from text that
is blank clears them; from text that reads, sets the selector to what it reads as; from text that
does not read, fails with the reading's error and changes nothing. Each rule edit starts from the
current selector, or from the empty one when the raw text does not read (`editable_eq`).

## Main statements

* `SearchQuery.selector_eq_parse_labels`: the selector is the selector text read.
* `SearchQuery.selector_follows_labels`: how setting the labels and editing rules change the
  selector.
-/

namespace LabelQuery

open Text

namespace Selector

/-- The canonical text of a selector reads as the selector. -/
theorem parse_render (s : Selector) : Selector.parse s.render = .ok s := by
  rw [Selector.parse, render, parseRules_renderRules]
  rfl

/-- Blank text reads as the selector without rules. -/
theorem parse_of_blanks {v : String} (h : Blanks v.toList) : Selector.parse v = .ok empty := by
  rw [Selector.parse, parseRules, if_pos (isEmpty_trimChars.mpr h)]
  rfl

/-- Erasing the rules of a key counts them. -/
theorem eraseKey_fst (s : Selector) (k : String) :
    (s.eraseKey k).1 = s.rules.countP (·.key == k) := by
  have hsplit := List.length_eq_countP_add_countP (fun r : Rule ↦ r.key == k) (l := s.rules)
  have hkept : (s.rules.filter fun r ↦ r.key != k).length =
      s.rules.countP (fun r ↦ decide ¬ (r.key == k) = true) := by
    rw [← List.countP_eq_length_filter]
    congr 1
    funext r
    by_cases h : r.key = k <;> simp [h]
  simp only [eraseKey, hkept]
  omega

end Selector

namespace SearchQuery

/-- **The selector is the selector text read.** -/
theorem selector_eq_parse_labels (q : SearchQuery) : q.selector = Selector.parse q.labels := by
  unfold selector labels
  cases q.rules with
  | some s => exact (Selector.parse_render s).symm
  | none => rfl

/-- Rule edits start from the current selector, or from the empty one when it cannot be read. -/
theorem editable_eq (q : SearchQuery) : q.editable = q.selector.toOption.getD Selector.empty := by
  unfold editable selector
  cases q.rules with
  | some s => rfl
  | none => cases Selector.parse q.rawLabels <;> rfl

/-! ### Setting the labels from text -/

theorem trySetLabels_of_blanks (q : SearchQuery) {v : String} (h : Blanks v.toList) :
    q.trySetLabels v = .ok { q with rules := none, rawLabels := "" } := by
  rw [trySetLabels, if_pos (isEmpty_trimChars.mpr h)]

theorem trySetLabels_of_not_blanks (q : SearchQuery) {v : String} (h : ¬ Blanks v.toList) :
    q.trySetLabels v =
      (Selector.parse v).map fun s ↦ { q with rules := some s, rawLabels := v } := by
  rw [trySetLabels, if_neg (mt isEmpty_trimChars.mp h)]

theorem setLabels_of_trySetLabels {q q' : SearchQuery} {v : String}
    (h : q.trySetLabels v = .ok q') : q.setLabels v = q' := by
  rw [setLabels, h]

/-- **The lazily read labels behave as a selector read eagerly.** In every state the selector is
the selector text read. Setting the labels from text that is not blank and does not read fails
with the reading's error and leaves the query as it was; from blank text, clears the labels and
the selector; from text that reads, makes the selector what the text reads as. Appending a rule,
putting a rule in place of its key's rules, and dropping a key's rules make the selector the
edit of the selector before, or of the empty selector when that did not read; dropping counts
the rules dropped. -/
theorem selector_follows_labels :
    (∀ q : SearchQuery, q.selector = Selector.parse q.labels) ∧
      (∀ (q : SearchQuery) (v : String) (e : ParseError), ¬ Blanks v.toList →
        Selector.parse v = .error e → q.trySetLabels v = .error e ∧ q.setLabels v = q) ∧
      (∀ (q : SearchQuery) (v : String), Blanks v.toList →
        q.trySetLabels v = .ok (q.setLabels v) ∧ (q.setLabels v).labels = "" ∧
          (q.setLabels v).selector = .ok Selector.empty) ∧
      (∀ (q : SearchQuery) (v : String) (s : Selector), ¬ Blanks v.toList →
        Selector.parse v = .ok s →
          q.trySetLabels v = .ok (q.setLabels v) ∧
            (q.setLabels v).selector = Selector.parse v) ∧
      ∀ (q : SearchQuery) (r : Rule) (k : String),
        let base := q.selector.toOption.getD Selector.empty
        (q.pushRule r).selector = .ok (base.push r) ∧
          (q.replaceRule r).selector = .ok (base.replaceKey r) ∧
          (q.eraseRules k).2.selector = .ok (base.eraseKey k).2 ∧
          (q.eraseRules k).1 = base.rules.countP (·.key == k) := by
  refine ⟨selector_eq_parse_labels, ?error, ?blank, ?read, fun q r k ↦ ?edits⟩
  case error =>
    intro q v e hb he
    have htry : q.trySetLabels v = .error e := by
      rw [trySetLabels_of_not_blanks q hb, he]
      rfl
    exact ⟨htry, by rw [setLabels, htry]⟩
  case blank =>
    intro q v hb
    have htry := trySetLabels_of_blanks q hb
    rw [setLabels_of_trySetLabels htry]
    have hempty : Blanks "".toList := fun _ hc ↦ absurd hc List.not_mem_nil
    exact ⟨htry, rfl, Selector.parse_of_blanks hempty⟩
  case read =>
    intro q v s hb hs
    have htry : q.trySetLabels v = .ok { q with rules := some s, rawLabels := v } := by
      rw [trySetLabels_of_not_blanks q hb, hs]
      rfl
    rw [setLabels_of_trySetLabels htry, hs]
    exact ⟨htry, rfl⟩
  case edits =>
    -- each edit sets the rules to the edited selector, which is then the selector
    intro base
    rw [show base = q.editable from (editable_eq q).symm]
    exact ⟨rfl, rfl, rfl, Selector.eraseKey_fst _ k⟩

/-- Text that does not read leaves the query alone, blank text clears the labels, and text that
reads becomes the selector. -/
theorem selector_follows_labels_samples :
    let q : SearchQuery := { rawLabels := "not valid ~" }
    let e : ParseError := ⟨"c ~ d", .unknownOperator ⟨.word "~", 2⟩⟩
    let s : Selector :=
      ⟨[⟨"b", .isIn, ["x", "y"], by decide +kernel, by decide, by decide +kernel⟩]⟩
    (¬ Blanks "c ~ d".toList ∧ Selector.parse "c ~ d" = .error e ∧
      q.trySetLabels "c ~ d" = .error e ∧ q.setLabels "c ~ d" = q) ∧
    (Blanks " ".toList ∧ q.trySetLabels " " = .ok (q.setLabels " ") ∧
      (q.setLabels " ").labels = "" ∧ (q.setLabels " ").selector = .ok Selector.empty) ∧
    (¬ Blanks "b in (x,y)".toList ∧ Selector.parse "b in (x,y)" = .ok s ∧
      q.trySetLabels "b in (x,y)" = .ok (q.setLabels "b in (x,y)") ∧
      (q.setLabels "b in (x,y)").selector = Selector.parse "b in (x,y)") := by
  intro q e s
  have hbad : ¬ Blanks "c ~ d".toList := fun h ↦ absurd (h 'c' (by decide)) (by decide +kernel)
  have he : Selector.parse "c ~ d" = .error e := by decide +kernel
  have hblank : Blanks " ".toList := by
    rw [show " ".toList = [' '] from rfl]
    exact fun c hc ↦ (List.mem_singleton.mp hc) ▸ isBlank_space
  have hgood : ¬ Blanks "b in (x,y)".toList :=
    fun h ↦ absurd (h 'b' (by decide)) (by decide +kernel)
  have hs : Selector.parse "b in (x,y)" = .ok s := by decide +kernel
  exact ⟨⟨hbad, he, selector_follows_labels.2.1 q _ e hbad he⟩,
    ⟨hblank, selector_follows_labels.2.2.1 q _ hblank⟩,
    ⟨hgood, hs, selector_follows_labels.2.2.2.1 q _ s hgood hs⟩⟩

end SearchQuery

end LabelQuery
