import GroupedReport.Json.Document

/-!
# Canonical JSON values

JSON that is kept inside of a definition is canonical: its objects have strictly increasing keys.
The value of a document always is, and a canonical value is the value of its own document.
-/

namespace GroupedReport.Json

theorem precedes_insert {key other : String} {value : Json} {members : List (String × Json)}
    (smaller : key < other) (front : precedes key members = true) :
    precedes key (insert other value members) = true := by
  cases members with
  | nil => simpa [insert, precedes] using smaller
  | cons member rest =>
      rcases member with ⟨next, old⟩
      simp only [precedes, decide_eq_true_eq] at front
      unfold insert
      split
      · simpa [precedes] using smaller
      · split
        · simpa [precedes] using smaller
        · simpa [precedes] using front

theorem membersCanonical_insert {key : String} {value : Json} {members : List (String × Json)}
    (canonicalValue : value.isCanonical = true)
    (canonicalMembers : membersCanonical members = true) :
    membersCanonical (insert key value members) = true := by
  induction members with
  | nil => simp [insert, membersCanonical, precedes, canonicalValue]
  | cons member rest induction =>
      rcases member with ⟨other, old⟩
      simp only [membersCanonical, Bool.and_eq_true] at canonicalMembers
      rcases canonicalMembers with ⟨⟨front, oldCanonical⟩, restCanonical⟩
      unfold insert
      split
      · rename_i smaller
        simp [membersCanonical, precedes.eq_2, smaller, front, oldCanonical, restCanonical,
          canonicalValue]
      · split
        · rename_i equal
          subst equal
          simp [membersCanonical, front, restCanonical, canonicalValue]
        · have greater : other < key := by grind
          simp [membersCanonical, precedes_insert greater front, oldCanonical,
            induction restCanonical]

namespace Document

mutual

theorem json?_isCanonical : (document : Document) → {value : Json} →
    json? document = some value → value.isCanonical = true
  | .null, _, found => by
      simp only [json?, Option.some.injEq] at found
      subst found
      rfl
  | .bool _, _, found => by
      simp only [json?, Option.some.injEq] at found
      subst found
      rfl
  | .number _, _, found => by
      simp only [json?, Option.map_eq_some_iff] at found
      rcases found with ⟨number, _, rfl⟩
      cases number <;> rfl
  | .string _, _, found => by
      simp only [json?, Option.map_eq_some_iff] at found
      rcases found with ⟨_, _, rfl⟩
      rfl
  | .array elements, _, found => by
      simp only [json?, Option.map_eq_some_iff] at found
      rcases found with ⟨values, elementsFound, rfl⟩
      simpa [isCanonical] using elements?_areCanonical elements elementsFound
  | .object members, _, found => by
      simp only [json?, Option.map_eq_some_iff] at found
      rcases found with ⟨values, membersFound, rfl⟩
      simpa [isCanonical] using members?_membersCanonical members rfl membersFound

theorem elements?_areCanonical : (elements : List Document) → {values : List Json} →
    elements? elements = some values → areCanonical values = true
  | [], _, found => by
      simp only [elements?, Option.some.injEq] at found
      subst found
      rfl
  | document :: rest, _, found => by
      simp only [elements?, Option.bind_eq_bind, Option.bind_eq_some_iff,
        Option.some.injEq] at found
      rcases found with ⟨value, first, values, others, rfl⟩
      simp [areCanonical, json?_isCanonical document first, elements?_areCanonical rest others]

theorem members?_membersCanonical : (members : List (Option String × Document)) →
    {sorted values : List (String × Json)} → membersCanonical sorted = true →
    members? sorted members = some values → membersCanonical values = true
  | [], _, _, canonical, found => by
      simp only [members?, Option.some.injEq] at found
      exact found ▸ canonical
  | (_, document) :: rest, _, _, canonical, found => by
      simp only [members?, Option.bind_eq_bind, Option.bind_eq_some_iff] at found
      rcases found with ⟨key, _, value, first, others⟩
      exact members?_membersCanonical rest
        (membersCanonical_insert (json?_isCanonical document first) canonical) others

end

end Document

/-- A value whose objects have strictly increasing keys. -/
abbrev Canonical := { value : Json // value.isCanonical = true }

namespace Canonical

def ofDocument? (document : Document) : Option Canonical :=
  match found : document.json? with
  | some value => some ⟨value, document.json?_isCanonical found⟩
  | none => none

end Canonical

end GroupedReport.Json
