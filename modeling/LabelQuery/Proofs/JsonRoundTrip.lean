import LabelQuery.Json.ReadBack
import LabelQuery.LabelSelector.Json
import LabelQuery.LabelSelector.Laws
import LabelQuery.Proofs.RuleValidation
/-!
# Rules and label selectors read back from JSON

The JSON a rule is written as reads back as the rule, and the JSON of a label selector reads
back as the label selector exactly when its required labels pass `validate`; otherwise reading
refuses it with the validation's message.

Writing and reading take different shapes: a rule's `values` member is left out when there are
none and read as none when missing; a label selector's `matchLabels` and `matchExpressions` are
left out when empty and read as empty. So the proofs follow the reader member by member and say
what state each member leaves (`RuleFields.membersRead_toJson`, `Fields.membersRead_toJson`): a
member left out leaves its field unread, and an unread field is read as the empty value that
was left out. Reading a rule then builds it with `Rule.new`, which gives back a rule built before
(`Rule.new_self`); reading a label selector gives the label set of its entries, which are
already sorted, so it is the label set written (`Labels.ofList_entries`).

## Main statements

* `Rule.reads_readJson`: a rule's JSON reads back as the rule.
* `LabelSelector.reads_struct`: a label selector's JSON reads back as its fields.
* `toJson_reads_back`: rules and valid label selectors read back from their JSON; a label
  selector that fails validation is refused with the validation's message.
-/

namespace LabelQuery

open Text JsonReader

/-- A list left out when empty and read back with the empty list as default is the list. -/
theorem getD_unlessEmpty {α : Type} (xs : List α) :
    (if xs.isEmpty then none else some xs).getD [] = xs := by
  cases hx : xs.isEmpty with
  | true => exact (List.isEmpty_iff.mp hx).symm
  | false => rfl

/-! ### Label sets from their entries -/

namespace Labels

/-- Inserting entries whose keys come after every key present, in increasing order, appends
them. -/
theorem foldl_insert_of_sorted :
    ∀ {L : Labels} {es : List (String × String)}, SortedEntries (L.entries ++ es) →
      (es.foldl (fun l e ↦ l.insert e.1 e.2) L).entries = L.entries ++ es
  | L, [], _ => (List.append_nil _).symm
  | L, e :: es, hs => by
    have hlt : ∀ x ∈ L.entries, x.1 < e.1 :=
      fun x hx ↦ (List.pairwise_append.mp hs).2.2 x hx e List.mem_cons_self
    have hins : (L.insert e.1 e.2).entries = L.entries ++ [e] := insertEntry_of_lt hlt
    have hs' : SortedEntries ((L.insert e.1 e.2).entries ++ es) := by
      rw [hins, List.append_assoc]
      exact hs
    rw [List.foldl_cons, foldl_insert_of_sorted hs', hins, List.append_assoc, List.singleton_append]

/-- **A label set is the label set of its entries.** -/
theorem ofList_entries (L : Labels) : Labels.ofList L.entries = L :=
  ext (foldl_insert_of_sorted (L := empty) L.sorted)

end Labels

/-! ### Rules -/

namespace RuleFields

variable {F : List UInt8 → Prop}

/-- An operator reads back from its name. -/
theorem reads_readOperator (op : Operator) :
    readOperator.Reads (encodeUtf8 (JsonValue.quoteString op.name)) op F := by
  have hname : operatorNames.contains op.name = true := by cases op <;> rfl
  have hfind : Operator.all.find? (·.name == op.name) = some op := by cases op <;> rfl
  refine (reads_unitVariant hname).bind_nil ?_ fun _ _ ↦ trivial
  simp only [hfind]
  exact reads_pure

/-- The members of a rule's JSON form. -/
def ofRule (r : Rule) : List (String × JsonValue) :=
  [("key", .string r.key), ("operator", .string r.op.name)] ++
    if r.values.isEmpty then [] else [("values", JsonValue.strings r.values)]

theorem toJson_eq (r : Rule) : r.toJson = .object (ofRule r) := rfl

/-- **The members of a rule** leave its key, its operator, and its values unless there are
none. -/
theorem membersRead_toJson (r : Rule) :
    MembersRead member (ofRule r) {}
      ⟨some r.key, some r.op, if r.values.isEmpty then none else some r.values⟩ := by
  have hkey : (member "key" {}).Reads (encodeUtf8 (":" ++ (JsonValue.string r.key).write))
      { key := some r.key } fun _ ↦ True :=
    Reads.stored (reads_string r.key)
  have hop : (member "operator" { key := some r.key }).Reads
      (encodeUtf8 (":" ++ (JsonValue.string r.op.name).write))
      { key := some r.key, op := some r.op } fun _ ↦ True :=
    Reads.stored (reads_readOperator r.op)
  unfold ofRule
  cases hv : r.values.isEmpty with
  | true => exact ⟨_, hkey, _, hop, rfl⟩
  | false =>
    -- the values are an array of strings, each read back
    have hitems : ItemsRead string (r.values.map JsonValue.string) r.values :=
      List.forall₂_map_left_iff.mpr (List.forall₂_same.mpr fun v _ ↦ reads_string v)
    have hvalues : (member "values" { key := some r.key, op := some r.op }).Reads
        (encodeUtf8 (":" ++ (JsonValue.strings r.values).write))
        ⟨some r.key, some r.op, some r.values⟩ fun _ ↦ True :=
      Reads.stored (reads_array hitems)
    exact ⟨_, hkey, _, hop, _, hvalues, rfl⟩

/-- The fields of a rule read back from its members. -/
theorem reads_byName (r : Rule) :
    byName.Reads (encodeUtf8 (JsonValue.writeFields (ofRule r))) (r.key, r.op, r.values)
      fun rest ↦ rest.head? = some 0x7D := by
  refine Reads.fuel_bind fun _ hn ↦
    (reads_members (membersRead_toJson r) hn).bind_nil ?_ fun _ h ↦ h
  -- a rule without values leaves them unread, and they are read as none
  show (pure (r.key, r.op, (if r.values.isEmpty then none else some r.values).getD []) :
    JsonReader _).Reads [] _ _
  rw [getD_unlessEmpty]
  exact reads_pure

end RuleFields

namespace Rule

/-- **A rule's JSON reads back as the rule.** -/
theorem reads_readJson {F : List UInt8 → Prop} (r : Rule) :
    readJson.Reads (encodeUtf8 r.toJson.write) r F := by
  rw [RuleFields.toJson_eq]
  refine (Reads.struct_object (RuleFields.reads_byName r)).bind_nil ?_ fun _ _ ↦ trivial
  -- what was read builds the rule back
  simp only [new_self]
  exact reads_pure

end Rule

/-! ### Label selectors -/

namespace LabelSelector

namespace Fields

/-- The members of a label selector's JSON form. -/
def ofSelector (ls : LabelSelector) : List (String × JsonValue) :=
  (if ls.matchLabels.isEmpty then [] else [("matchLabels", ls.matchLabels.toJson)]) ++
    if ls.matchExpressions.isEmpty then [] else
      [("matchExpressions", .array (ls.matchExpressions.map Rule.toJson))]

theorem toJson_eq (ls : LabelSelector) : ls.toJson = .object (ofSelector ls) := rfl

/-- The state the members of a label selector leave: the label entries and the expressions,
each unless empty. -/
def ofSelectorState (ls : LabelSelector) : Fields :=
  ⟨if ls.matchLabels.isEmpty then none else some ls.matchLabels.entries,
    if ls.matchExpressions.isEmpty then none else some ls.matchExpressions⟩

/-- **The members of a label selector** leave its label entries and its expressions, each
unless empty. -/
theorem membersRead_toJson (ls : LabelSelector) :
    MembersRead member (ofSelector ls) {} (ofSelectorState ls) := by
  have hlabels : ∀ st : Fields, st.labels = none →
      (member "matchLabels" st).Reads (encodeUtf8 (":" ++ ls.matchLabels.toJson.write))
        { st with labels := some ls.matchLabels.entries } fun _ ↦ True := fun st hst ↦
    Reads.fresh_member (by rw [hst]; rfl) (reads_stringMap ls.matchLabels.entries)
  have hexprs : ∀ st : Fields, st.expressions = none →
      (member "matchExpressions" st).Reads
        (encodeUtf8 (":" ++ (JsonValue.array (ls.matchExpressions.map Rule.toJson)).write))
        { st with expressions := some ls.matchExpressions } fun _ ↦ True := by
    intro st hst
    -- the expressions are an array of rules, each read back
    have hitems : ItemsRead Rule.readJson (ls.matchExpressions.map Rule.toJson)
        ls.matchExpressions :=
      List.forall₂_map_left_iff.mpr (List.forall₂_same.mpr fun r _ ↦ Rule.reads_readJson r)
    exact Reads.fresh_member (by rw [hst]; rfl) (reads_array hitems)
  unfold ofSelector ofSelectorState
  cases hl : ls.matchLabels.isEmpty <;> cases he : ls.matchExpressions.isEmpty
  · exact ⟨_, hlabels {} rfl, _, hexprs _ rfl, rfl⟩
  · exact ⟨_, hlabels {} rfl, rfl⟩
  · exact ⟨_, hexprs {} rfl, rfl⟩
  · rfl

/-- The fields read back build the label selector written. -/
theorem build_ofSelectorState (ls : LabelSelector) : (ofSelectorState ls).build = ls := by
  -- a label set is empty when its entries are
  have hlabels : (if ls.matchLabels.isEmpty then none else some ls.matchLabels.entries).getD [] =
      ls.matchLabels.entries := getD_unlessEmpty _
  simp only [build, ofSelectorState, hlabels, getD_unlessEmpty, Labels.ofList_entries]

end Fields

/-- **A label selector's JSON reads back as its fields**, given as an object. -/
theorem reads_struct {F : List UInt8 → Prop} (ls : LabelSelector) (inOrder : JsonReader Fields) :
    (struct "RawLabelSelector" inOrder (do members Fields.member (← fuel) true {})).Reads
      (encodeUtf8 ls.toJson.write) (Fields.ofSelectorState ls) F := by
  rw [Fields.toJson_eq]
  exact Reads.struct_object
    (Reads.fuel_bind fun _ hn ↦ reads_members (Fields.membersRead_toJson ls) hn)

end LabelSelector

/-- **Rules and label selectors read back from their JSON.** A rule's JSON reads back as the
rule, its values left out when there are none and read back as none. A label selector's JSON,
with its label set and expressions left out when empty, reads back as the label selector when
its required labels pass validation, and is refused with the validation's message when they do
not. -/
theorem toJson_reads_back (r : Rule) (ls : LabelSelector) :
    Rule.ofJson r.toJson.write = .ok r ∧
      (ls.validate = .ok () → LabelSelector.ofJson ls.toJson.write = .ok ls) ∧
      ∀ e, ls.validate = .error e →
        LabelSelector.ofJson ls.toJson.write = .error ⟨.refused e.message, none⟩ := by
  have hstruct := LabelSelector.reads_struct (F := fun rest ↦ rest = []) ls
  refine ⟨document_of_reads (Rule.reads_readJson r), fun hv ↦ ?_, fun e he ↦ ?_⟩
  · -- a valid label selector is returned as built from its fields
    refine document_of_reads ((hstruct _).bind_nil ?_ fun _ h ↦ h)
    simp only [LabelSelector.Fields.build_ofSelectorState, hv]
    exact reads_pure
  · -- an invalid one is refused after its fields are read
    refine document_bind_refuse (hstruct _) ?_
    simp only [LabelSelector.Fields.build_ofSelectorState, he]

/-- A rule with values reads back, and so does a valid label selector holding it; a label selector
whose label value is not a token is refused with the message of its validation. -/
theorem toJson_reads_back_samples :
    let r : Rule := ⟨"app", .isIn, ["web", "db"], by decide +kernel, by decide, by decide +kernel⟩
    let good : LabelSelector := ⟨⟨[("zone", "eu")], List.pairwise_singleton _ _⟩, [r]⟩
    let bad : LabelSelector := ⟨⟨[("zone", "a b")], List.pairwise_singleton _ _⟩, []⟩
    Rule.ofJson r.toJson.write = .ok r ∧ LabelSelector.ofJson good.toJson.write = .ok good ∧
      LabelSelector.ofJson bad.toJson.write =
        .error ⟨.refused (RuleError.badLabelValue "zone" "a b").message, none⟩ := by
  intro r good bad
  have hgood : good.validate = .ok () := by decide +kernel
  have hbad : bad.validate = .error (.badLabelValue "zone" "a b") := by decide +kernel
  exact ⟨(toJson_reads_back r good).1, (toJson_reads_back r good).2.1 hgood,
    (toJson_reads_back r bad).2.2 _ hbad⟩

end LabelQuery
