import LabelQuery.Proofs.StructuredForm
import LabelQuery.Proofs.RoundTrip
import LabelQuery.Json.ReaderLaws
import LabelQuery.LabelSelector.Json
/-!
# Label selectors in normal form

Reading a label selector from its own text does not always give it back. The text of a valid
label selector is read as the structured form of its flat form, and that can differ from the
selector in one way: an equality expression whose key is not a required label becomes one. A
label selector is in **normal form** (`LabelSelector.Normal`) when it is valid and each of its
equality expressions is for a required key; these are exactly the selectors that read back from
their text.

Both directions go through the structured form of a list of rules (`LabelSelector.ofRules`).
Building it keeps every equality expression's key required (`EqualitiesRequired.add`, one rule
at a time), so whatever is read is in normal form. The other way round, the flat form of a
selector in normal form lists its labels in increasing key order: each becomes the last required
label when it is added (`foldl_add_labels`), and then every expression is appended as it is
(`foldl_add_of_required`).

A label selector read from JSON has had its required labels checked, so its text reads back too.

## Main statements

* `LabelSelector.Normal.ofRules_toRules`: a selector in normal form is the structured form of
  its flat form.
* `LabelSelector.render_reads_back_iff_normal`: the text of a label selector reads back as the
  selector exactly when it is in normal form.
-/

namespace LabelQuery

open Text

namespace LabelSelector

/-- Every equality expression is for a required key. -/
def EqualitiesRequired (s : LabelSelector) : Prop :=
  ∀ r ∈ s.matchExpressions, r.op = .equals → s.matchLabels.has r.key = true

/-- A label selector is **in normal form** when it is valid and each of its equality expressions
is for a required key. -/
structure Normal (s : LabelSelector) : Prop where
  valid : s.validate = .ok ()
  required : s.EqualitiesRequired

/-! ### What reading gives -/

/-- **The step**: adding a rule keeps every equality expression's key required. -/
theorem EqualitiesRequired.add {s : LabelSelector} (h : s.EqualitiesRequired) (r : Rule) :
    (s.add r).EqualitiesRequired := by
  by_cases hr : r.op = .equals → s.matchLabels.has r.key = true
  · -- the rule is appended to the expressions
    rw [add_of_required hr]
    intro q hq hop
    rcases List.mem_append.mp hq with hq | hq
    · exact h q hq hop
    · obtain rfl := List.mem_singleton.mp hq
      exact hr hop
  · -- an equality for a new key: it becomes a required label, and the keys required before
    -- stay required
    obtain ⟨hop, hk⟩ := Classical.not_imp.mp hr
    obtain ⟨v, hv⟩ := Rule.exists_values_of_equals hop
    rw [s.add_of_equals hop hv, if_neg hk]
    exact fun q hq hqop ↦ Labels.has_insert.mpr (Or.inr (h q hq hqop))

/-- **The run**: adding rules one after another keeps every equality expression's key required. -/
theorem EqualitiesRequired.foldl_add {s : LabelSelector} (h : s.EqualitiesRequired)
    (rs : List Rule) : (rs.foldl LabelSelector.add s).EqualitiesRequired := by
  induction rs generalizing s with
  | nil => exact h
  | cons r rs ih => exact ih (h.add r)

/-- **The structured form of rules is in normal form.** -/
theorem normal_ofRules (rs : List Rule) : (ofRules rs).Normal :=
  ⟨(built_ofRules rs).validate,
    EqualitiesRequired.foldl_add (fun _ hq ↦ absurd hq List.not_mem_nil) rs⟩

theorem parse_eq_ok_iff {text : String} {s : LabelSelector} :
    LabelSelector.parse text = .ok s ↔
      ∃ rs, Selector.parseRules text = .ok rs ∧ ofRules rs = s := by
  unfold LabelSelector.parse
  cases Selector.parseRules text with
  | error e => simp [Except.map]
  | ok rs => simp [Except.map]

/-- Whatever is read as a label selector is in normal form. -/
theorem normal_of_parse {text : String} {s : LabelSelector}
    (h : LabelSelector.parse text = .ok s) : s.Normal := by
  obtain ⟨rs, -, rfl⟩ := parse_eq_ok_iff.mp h
  exact normal_ofRules rs

/-! ### The flat form of a selector in normal form -/

/-- Expressions that add no required label are appended as they are. -/
theorem foldl_add_of_required {L : Labels} :
    ∀ {es rs : List Rule}, (∀ r ∈ rs, r.op = .equals → L.has r.key = true) →
      rs.foldl add ⟨L, es⟩ = ⟨L, es ++ rs⟩
  | es, [], _ => by simp
  | es, r :: rs, h => by
    rw [List.foldl_cons, add_of_required (h r List.mem_cons_self),
      foldl_add_of_required fun q hq ↦ h q (List.mem_cons_of_mem _ hq), List.append_assoc,
      List.singleton_append]

/-- Equality rules for keys above those of a label set, in increasing key order, become its
last labels. -/
theorem foldl_add_labels {L : Labels} {es : List (String × String)} {ls : List Rule}
    (hrel : List.Forall₂ (fun e r ↦ r.key = e.1 ∧ r.op = .equals ∧ r.values = [e.2]) es ls)
    (hs : SortedEntries (L.entries ++ es)) :
    ls.foldl add ⟨L, []⟩ = ⟨⟨L.entries ++ es, hs⟩, []⟩ := by
  induction hrel generalizing L with
  | nil => exact ext (Labels.ext (List.append_nil _).symm) rfl
  | @cons e r es ls hr _ ih =>
    obtain ⟨hk, hop, hv⟩ := hr
    -- the new key is above every key of the label set, so it is not there and goes last
    have hlt : ∀ x ∈ L.entries, x.1 < e.1 :=
      fun x hx ↦ (List.pairwise_append.mp hs).2.2 x hx e List.mem_cons_self
    have hnew : L.has r.key = false := by
      rw [← Bool.not_eq_true, Labels.has_eq_true_iff, hk]
      intro hm
      obtain ⟨x, hx, hxk⟩ := List.mem_map.mp hm
      exact String.lt_irrefl _ (hxk ▸ hlt x hx)
    have hins : (L.insert r.key e.2).entries = L.entries ++ [e] := by
      show insertEntry r.key e.2 L.entries = _
      rw [hk, insertEntry_of_lt hlt]
    have hs' : SortedEntries ((L.insert r.key e.2).entries ++ es) := by
      rwa [hins, List.append_assoc, List.singleton_append]
    rw [List.foldl_cons, add_of_equals _ hop hv, hnew, if_neg Bool.false_ne_true, ih hs']
    refine ext (Labels.ext ?_) rfl
    show (L.insert r.key e.2).entries ++ es = L.entries ++ e :: es
    rw [hins, List.append_assoc, List.singleton_append]

/-- **A selector in normal form is the structured form of its flat form.** -/
theorem Normal.ofRules_toRules {s : LabelSelector} (h : s.Normal) :
    ∃ rs, s.toRules = .ok rs ∧ ofRules rs = s := by
  obtain ⟨ls, hto, hrel⟩ := toRules_of_validate h.valid
  refine ⟨_, hto, ?_⟩
  -- the labels come first and rebuild the label set, then the expressions are appended
  have hlabels : ls.foldl add empty = ⟨s.matchLabels, []⟩ :=
    foldl_add_labels (L := Labels.empty) hrel s.matchLabels.sorted
  rw [ofRules, List.foldl_append, hlabels, foldl_add_of_required h.required, List.nil_append]

/-! ### Reading the text of a label selector -/

/-- The text of a valid label selector reads as the structured form of its flat form. -/
theorem parse_render_of_validate {s : LabelSelector} (h : s.validate = .ok ()) :
    ∃ rs, s.toRules = .ok rs ∧ LabelSelector.parse s.render = .ok (ofRules rs) := by
  obtain ⟨ls, hto, hrel⟩ := toRules_of_validate h
  refine ⟨_, hto, ?_⟩
  rw [LabelSelector.parse, render_eq_renderRules hrel, Selector.parseRules_renderRules]
  rfl

theorem parse_render_of_normal {s : LabelSelector} (h : s.Normal) :
    LabelSelector.parse s.render = .ok s := by
  obtain ⟨rs, hto, hread⟩ := parse_render_of_validate h.valid
  obtain ⟨rs', hto', hback⟩ := h.ofRules_toRules
  rw [hread, ← hback, Except.ok.inj (hto.symm.trans hto')]

/-- A label selector read from JSON is valid. -/
theorem readJson_yields_valid : readJson.Yields (·.validate = .ok ()) := by
  unfold readJson
  refine (JsonReader.yields_true _).bind fun st _ ↦ ?_
  dsimp only
  split
  · next h => exact JsonReader.yields_pure h
  · exact JsonReader.yields_refuse _ _

/-- **The text of a label selector reads back as the selector exactly when it is in normal
form.** The text of any valid selector reads as the structured form of its flat form; so
writing what was read and reading it again gives the same selector, and the text of a selector
read from JSON can be read. -/
theorem render_reads_back_iff_normal :
    (∀ s : LabelSelector, LabelSelector.parse s.render = .ok s ↔ s.Normal) ∧
      (∀ s : LabelSelector, s.validate = .ok () →
        ∃ rs, s.toRules = .ok rs ∧ LabelSelector.parse s.render = .ok (ofRules rs)) ∧
      (∀ text s, LabelSelector.parse text = .ok s → LabelSelector.parse s.render = .ok s) ∧
      ∀ json s, LabelSelector.ofJson json = .ok s →
        ∃ rs, s.toRules = .ok rs ∧ LabelSelector.parse s.render = .ok (ofRules rs) :=
  ⟨fun _ ↦ ⟨normal_of_parse, parse_render_of_normal⟩, fun _ ↦ parse_render_of_validate,
    fun _ _ h ↦ parse_render_of_normal (normal_of_parse h),
    fun _ _ h ↦ parse_render_of_validate (readJson_yields_valid.of_document h)⟩

/-- Two equality rules for one key read back from text, and a selector read from JSON has text
that reads. -/
theorem render_reads_back_iff_normal_samples :
    let s : LabelSelector := ⟨⟨[("env", "prod")], List.pairwise_singleton _ _⟩,
      [⟨"env", .equals, ["dev"], by decide +kernel, by decide, by decide +kernel⟩]⟩
    let t : LabelSelector := ⟨s.matchLabels, []⟩
    let json := "\x7b\"matchLabels\":\x7b\"env\":\"prod\"\x7d\x7d"
    s.validate = .ok () ∧
      (∃ rs, s.toRules = .ok rs ∧ LabelSelector.parse s.render = .ok (ofRules rs)) ∧
      LabelSelector.parse "env = prod, env = dev" = .ok s ∧
      LabelSelector.parse s.render = .ok s ∧
      LabelSelector.ofJson json = .ok t ∧
      ∃ rs, t.toRules = .ok rs ∧ LabelSelector.parse t.render = .ok (ofRules rs) := by
  intro s t json
  have hvalid : s.validate = .ok () := by decide +kernel
  have hparse : LabelSelector.parse "env = prod, env = dev" = .ok s := by decide +kernel
  have hjson : LabelSelector.ofJson json = .ok t := by
    -- a JSON error has no decidable equality, so the reading is compared as an option
    have h : (LabelSelector.ofJson json).toOption = some t := by decide +kernel
    revert h
    cases LabelSelector.ofJson json <;> simp [Except.toOption]
  exact ⟨hvalid, render_reads_back_iff_normal.2.1 s hvalid, hparse,
    render_reads_back_iff_normal.2.2.1 _ s hparse, hjson,
    render_reads_back_iff_normal.2.2.2 json t hjson⟩

end LabelSelector

end LabelQuery
