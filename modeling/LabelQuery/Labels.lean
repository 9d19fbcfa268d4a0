import LabelQuery.Json.Value
/-!
# Label sets

A label set maps keys to values, at most one value per key. It is kept as a list of entries in
strictly increasing key order, where keys are ordered character by character by code point
(which is also the order of their UTF-8 bytes). The order is part of the type, so every label set
lists its entries sorted and without a repeated key.

Inserting a key that is present replaces its value in place. Merging two sets inserts the entries
of the right one into the left one, so the right one wins on a shared key. The *managed* labels
are those whose key starts with `urth/`: the ones the platform sets on its own resources.

## Main statements

* `sorted_insertEntry`: inserting keeps the entries sorted.
-/

namespace LabelQuery

/-- Entries in strictly increasing key order. -/
def SortedEntries (l : List (String × String)) : Prop :=
  l.Pairwise fun a b ↦ a.1 < b.1

/-- Inserts an entry into a list sorted by key; the value of an equal key is replaced. -/
def insertEntry (k v : String) : List (String × String) → List (String × String)
  | [] => [(k, v)]
  | e :: rest =>
    if k < e.1 then (k, v) :: e :: rest
    else if k = e.1 then (k, v) :: rest
    else e :: insertEntry k v rest

theorem key_mem_insertEntry {k v : String} {l : List (String × String)} {p : String × String}
    (h : p ∈ insertEntry k v l) : p.1 = k ∨ ∃ q ∈ l, p.1 = q.1 := by
  induction l with
  | nil => simp [insertEntry] at h; simp [h]
  | cons e rest ih =>
    simp only [insertEntry] at h
    split at h
    · simp at h; rcases h with h | h | h
      · simp [h]
      · exact Or.inr ⟨e, by simp, by rw [h]⟩
      · exact Or.inr ⟨p, by simp [h], rfl⟩
    · split at h
      · simp at h; rcases h with h | h
        · simp [h]
        · exact Or.inr ⟨p, by simp [h], rfl⟩
      · simp at h; rcases h with h | h
        · exact Or.inr ⟨e, by simp, by rw [h]⟩
        · rcases ih h with h' | ⟨q, hq, hq'⟩
          · exact Or.inl h'
          · exact Or.inr ⟨q, by simp [hq], hq'⟩

/-- Two keys that are not below one another are equal. -/
theorem key_eq_of_not_lt_of_not_lt {a b : String} (h₁ : ¬ a < b) (h₂ : ¬ b < a) : a = b :=
  String.le_antisymm (String.not_lt.mp h₂) (String.not_lt.mp h₁)

theorem sorted_insertEntry (k v : String) {l : List (String × String)} (h : SortedEntries l) :
    SortedEntries (insertEntry k v l) := by
  induction l with
  | nil => simp [insertEntry, SortedEntries]
  | cons e rest ih =>
    simp only [SortedEntries, List.pairwise_cons] at h
    simp only [insertEntry]
    split
    · rename_i hk
      simp only [SortedEntries, List.pairwise_cons, List.mem_cons, forall_eq_or_imp]
      exact ⟨⟨hk, fun q hq ↦ String.lt_trans hk (h.1 q hq)⟩, h.1, h.2⟩
    · split
      · rename_i _ hk
        simp only [SortedEntries, List.pairwise_cons]
        exact ⟨fun q hq ↦ hk ▸ h.1 q hq, h.2⟩
      · rename_i hlt hne
        have hgt : e.1 < k := by
          apply Classical.byContradiction; intro hn
          exact hne (key_eq_of_not_lt_of_not_lt hlt hn)
        simp only [SortedEntries, List.pairwise_cons]
        refine ⟨fun q hq ↦ ?_, ih h.2⟩
        rcases key_mem_insertEntry hq with hq' | ⟨q', hq', hq''⟩
        · rw [hq']; exact hgt
        · rw [hq'']; exact h.1 q' hq'

/-- A label set: keys with one value each, in increasing key order. -/
structure Labels where
  /-- The entries, in increasing key order. -/
  entries : List (String × String)
  /-- The keys increase strictly along the list. -/
  sorted : SortedEntries entries

namespace Labels

/-- The label set without labels. -/
def empty : Labels := ⟨[], List.Pairwise.nil⟩

instance : Inhabited Labels := ⟨empty⟩

/-- The value of a key, if the key is present. -/
def get? (l : Labels) (k : String) : Option String :=
  (l.entries.find? fun e ↦ e.1 == k).map Prod.snd

/-- The value of a key, or the empty string when the key is absent. -/
def get (l : Labels) (k : String) : String :=
  (l.get? k).getD ""

/-- The key is present. -/
def has (l : Labels) (k : String) : Bool :=
  (l.get? k).isSome

/-- The number of labels. -/
def size (l : Labels) : Nat := l.entries.length

/-- The set has no labels. -/
def isEmpty (l : Labels) : Bool := l.entries.isEmpty

/-- Sets the value of a key, replacing the value it had. -/
def insert (l : Labels) (k v : String) : Labels :=
  ⟨insertEntry k v l.entries, sorted_insertEntry k v l.sorted⟩

/-- Drops a key. -/
def erase (l : Labels) (k : String) : Labels :=
  ⟨l.entries.filter fun e ↦ e.1 != k, l.sorted.filter _⟩

/-- The value a key had, and the set with the key set to a new value. -/
def getThenInsert (l : Labels) (k v : String) : Option String × Labels :=
  (l.get? k, l.insert k v)

/-- The value a key had, and the set without the key. -/
def getThenErase (l : Labels) (k : String) : Option String × Labels :=
  (l.get? k, l.erase k)

/-- The label set of a list of entries; of two entries with one key, the later one wins. -/
def ofList (es : List (String × String)) : Labels :=
  es.foldl (fun l e ↦ l.insert e.1 e.2) empty

/-- The labels of both sets; on a shared key the value of the right set wins. -/
def merge (a b : Labels) : Labels :=
  b.entries.foldl (fun l e ↦ l.insert e.1 e.2) a

/-- The prefix of the keys of labels the platform manages. -/
def managedPrefix : String := "urth/"

/-- The key belongs to a label the platform manages. -/
def isManagedKey (k : String) : Bool :=
  managedPrefix.toList.isPrefixOf k.toList

/-- The labels the platform manages. -/
def managed (l : Labels) : Labels :=
  ⟨l.entries.filter fun e ↦ isManagedKey e.1, l.sorted.filter _⟩

/-- The JSON form of a label set: an object with the labels as fields, in key order. -/
def toJson (l : Labels) : JsonValue :=
  .object (l.entries.map fun e ↦ (e.1, .string e.2))

end Labels

end LabelQuery
