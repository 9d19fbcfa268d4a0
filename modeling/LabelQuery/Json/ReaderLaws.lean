import LabelQuery.Json.Reader
/-!
# What a reader can return

A reader *yields only* values with a property `P` when every run of it that succeeds, from any
cursor, returns a value with `P`. Nothing is said about runs that fail, or about where the cursor
ends; this is the partial-correctness half of a reader's specification, enough to show that a
value read from a document was checked on the way.

The property is built up along a reader's `do` block: `pure a` yields what `a` satisfies, a
refusal yields anything, and a bind yields what its continuation yields on the values its first
step yields. A whole document then yields what its value reader yields.

## Main statements

* `JsonReader.Yields.bind`: the rule for sequencing readers.
* `JsonReader.Yields.of_document`: a value read from a document was yielded by its reader.
-/

namespace LabelQuery

namespace JsonReader

/-- The reader **yields only** values with `P`: whenever it succeeds, from any cursor, its value
has `P`. -/
def Yields {α : Type} (r : JsonReader α) (P : α → Prop) : Prop :=
  ∀ c a c', r.run.run c = (.ok a, c') → P a

theorem yields_pure {α : Type} {P : α → Prop} {a : α} (h : P a) :
    (pure a : JsonReader α).Yields P := by
  intro c a' c' hr
  cases hr
  exact h

/-- A refusal never succeeds, so it yields anything. -/
theorem yields_refuse {α : Type} (P : α → Prop) (p : JsonProblem) :
    (refuse p : JsonReader α).Yields P := by
  intro c a c' hr
  cases hr

theorem yields_true {α : Type} (r : JsonReader α) : r.Yields fun _ ↦ True :=
  fun _ _ _ _ ↦ trivial

/-- **Sequencing**: what the continuation yields on every value the first reader yields. -/
theorem Yields.bind {α β : Type} {x : JsonReader α} {f : α → JsonReader β} {Q : α → Prop}
    {P : β → Prop} (hx : x.Yields Q) (hf : ∀ a, Q a → (f a).Yields P) :
    (x >>= f).Yields P := by
  intro c b c' h
  rw [ExceptT.run_bind, StateT.run_bind] at h
  -- a failed first step fails the whole reader; a successful one hands its cursor on
  rcases hr : x.run.run c with ⟨_ | a, c₁⟩
  · rw [hr] at h
    cases h
  · rw [hr] at h
    exact hf a (hx c a c₁ hr) c₁ b c' h

/-- **A value read from a document** was yielded by the document's value reader. -/
theorem Yields.of_document {α : Type} {r : JsonReader α} {P : α → Prop} (hr : r.Yields P)
    {text : String} {a : α} (h : document r text = .ok a) : P a := by
  have hwhole : (do let a ← r; finish; pure a : JsonReader α).Yields P :=
    hr.bind fun a ha ↦ (yields_true _).bind fun _ _ ↦ yields_pure ha
  exact hwhole _ a _ (Prod.ext h rfl)

end JsonReader

end LabelQuery
