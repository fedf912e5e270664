import GroupedReport.Json.Record
import GroupedReport.Proofs.Json.Canonical

/-!
# What is written is read back

A record is written with one member for each of its parts. Its canonical form has the members in
another order, but reading it finds the same part under each name.
-/

namespace GroupedReport.Json

/-! ## Parts of records -/

namespace Parts

/-- Whether parts are what some members are taken for, in canonical form. -/
def Holds (parts : Parts α) (members : List (String × Json)) (take : Json → α) : Prop :=
  ∀ name, parts.find? name = (lookup name members).map fun value => take value.canonical

section

variable {parts : Parts α} {members : List (String × Json)} {take : Json → α}
  (holds : parts.Holds members take) {name : String} {value : Json}
  (found : lookup name members = some value)
include holds found

theorem Holds.find?_eq : parts.find? name = some (take value.canonical) := by
  rw [holds name, found, Option.map_some]

theorem Holds.required {read : α → Option β} {result : β}
    (back : read (take value.canonical) = some result) :
    parts.required name read = some result := by
  rw [Parts.required, holds.find?_eq found, Option.bind_some, back]

theorem Holds.optional {read : α → Option (Option β)} {result : Option β}
    (back : read (take value.canonical) = some result) :
    parts.optional name read = some result := by
  rw [Parts.optional, holds.find?_eq found]
  exact back

theorem Holds.defaulted {default result : β} {read : α → Option β}
    (back : read (take value.canonical) = some result) :
    parts.defaulted name default read = some result := by
  rw [Parts.defaulted, holds.find?_eq found]
  exact back

end

theorem ofMembers?_of_named {names : List String} {entries : List (String × α)}
    (distinct : (entries.map Prod.fst).Nodup) (named : entries.map Prod.fst ⊆ names) :
    ofMembers? names (entries.map fun entry => (some entry.1, entry.2)) =
      some ⟨true, entries⟩ := by
  have present : (entries.map fun entry => (some entry.1, entry.2)).mapM
      (fun member : Option String × α => member.1.map (·, member.2)) = some entries := by
    rw [List.mapM_map]
    exact List.mapM_pure.trans (congrArg some (List.map_id entries))
  have known : entries.filter (fun entry => names.contains entry.1) = entries :=
    List.filter_eq_self.mpr fun entry member =>
      List.contains_iff_mem.mpr (named (List.mem_map_of_mem member))
  change Option.bind (List.mapM _ _) _ = _
  rw [present, Option.bind_some]
  dsimp only
  rw [known, if_pos distinct]

theorem lookup_map (name : String) (members : List (String × Json)) (take : Json → α) :
    (members.map fun member => (member.1, take member.2)).lookup name =
      (lookup name members).map take := by
  induction members with
  | nil => rfl
  | cons first rest induction =>
      rw [List.map_cons, List.lookup_cons, lookup, induction]
      by_cases same : first.1 = name
      · simp [same]
      · rw [if_neg same, beq_eq_false_iff_ne.mpr (Ne.symm same)]

theorem ofMembers?_canonicalMembers {names : List String} {members : List (String × Json)}
    (keys : members.map Prod.fst = names) (distinct : names.Nodup) (take : Json → α) :
    ∃ parts, ofMembers? names ((canonicalMembers [] members).map fun member =>
        (some member.1, take member.2)) = some parts ∧ parts.Holds members take := by
  let entries := (canonicalMembers [] members).map fun member => (member.1, take member.2)
  have sameKeys : entries.map Prod.fst = (canonicalMembers [] members).map Prod.fst :=
    List.map_map
  have entriesDistinct : (entries.map Prod.fst).Nodup := by
    rw [sameKeys]
    exact nodup_of_membersCanonical (isCanonical_canonical (.object members))
  have named : entries.map Prod.fst ⊆ names := by
    rw [sameKeys, ← keys]
    exact keys_canonicalMembers_subset [] members
  have read := ofMembers?_of_named entriesDistinct named
  rw [List.map_map] at read
  refine ⟨⟨true, entries⟩, read, ?_⟩
  intro name
  rw [Parts.find?, lookup_map, lookup_canonicalMembers (keys ▸ distinct), lookup, Option.or_none,
    Option.map_map]
  rfl

end Parts

theorem parts?_canonical {record : Json} {members : List (String × Json)} {names : List String}
    (isRecord : record = .object members) (keys : members.map Prod.fst = names)
    (distinct : names.Nodup) :
    ∃ parts, (document record.canonical).parts? names = some parts ∧
      parts.Holds members document := by
  rw [isRecord, canonical, document, Document.parts?, memberDocuments_eq_map]
  exact Parts.ofMembers?_canonicalMembers keys distinct document

/-! ## Reading back -/

/-- Whether what is written for a value is read as the value. -/
def ReadsBack (write : α → Json) (read : Document → Option α) (value : α) : Prop :=
  read (document (write value).canonical) = some value

section

variable {write : α → Json} {read : Document → Option α}

theorem readsBack_list {values : List α} (each : ∀ value ∈ values, ReadsBack write read value) :
    ReadsBack (fun values => .array (values.map write)) (Document.list? read) values := by
  rw [ReadsBack, canonical, document, Document.list?, elementDocuments_eq_map,
    canonicalElements_eq_map]
  induction values with
  | nil => rfl
  | cons value rest induction =>
      have first : read (document (write value).canonical) = some value :=
        each value List.mem_cons_self
      rw [List.map_cons, List.map_cons, List.map_cons, List.mapM_cons, first,
        induction fun other member => each other (List.mem_cons_of_mem _ member)]
      rfl

theorem document_ne_null {value : Json} (present : value ≠ .null) : document value ≠ .null := by
  cases value with
  | null => exact absurd rfl present
  | _ => nofun

theorem readsBack_nullable {value? : Option α}
    (each : ∀ value ∈ value?, ReadsBack write read value ∧ (write value).canonical ≠ .null) :
    ReadsBack (nullable write) (Document.nullable read) value? := by
  cases value? with
  | none => rfl
  | some value =>
      rcases each value rfl with ⟨back, present⟩
      have given : read (document (write value).canonical) = some value := back
      rw [ReadsBack, nullable, Document.nullable, given]
      · rfl
      · exact document_ne_null present

end

theorem readsBack_text (text : String) : ReadsBack .string Document.text? text := rfl

theorem readsBack_keep (value : Canonical) :
    ReadsBack Subtype.val Canonical.ofDocument? value := by
  rw [ReadsBack, canonical_of_isCanonical value.val value.property]
  exact value.ofDocument?_document

end GroupedReport.Json
