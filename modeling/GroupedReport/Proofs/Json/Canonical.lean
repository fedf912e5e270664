import GroupedReport.Json.Canonical

/-!
# The canonical form of a value

The document of a value has the value's canonical form, which is the value itself if its keys
increase already. Sorting members that have different keys keeps what is found under each key.
-/

namespace GroupedReport.Json

/-! ## Documents of values -/

mutual

theorem json?_document : (value : Json) → (document value).json? = some value.canonical
  | .null | .bool _ | .integer _ | .float _ | .string _ => rfl
  | .array elements => by
      rw [document, Document.json?, elements?_elementDocuments elements]
      rfl
  | .object members => by
      rw [document, Document.json?, members?_memberDocuments members []]
      rfl

theorem elements?_elementDocuments : (elements : List Json) →
    Document.elements? (elementDocuments elements) = some (canonicalElements elements)
  | [] => rfl
  | value :: rest => by
      rw [elementDocuments, Document.elements?, json?_document value,
        elements?_elementDocuments rest]
      rfl

theorem members?_memberDocuments : (members sorted : List (String × Json)) →
    Document.members? sorted (memberDocuments members) = some (canonicalMembers sorted members)
  | [], _ => rfl
  | (key, value) :: rest, sorted => by
      rw [memberDocuments, Document.members?, json?_document value]
      exact members?_memberDocuments rest (insert key value.canonical sorted)

end

theorem isCanonical_canonical (value : Json) : value.canonical.isCanonical = true :=
  (document value).json?_isCanonical (json?_document value)

def Canonical.sort (value : Json) : Canonical :=
  ⟨value.canonical, isCanonical_canonical value⟩

theorem memberDocuments_eq_map (members : List (String × Json)) :
    memberDocuments members = members.map fun member => (some member.1, document member.2) := by
  induction members with
  | nil => rfl
  | cons member rest induction => rw [memberDocuments, induction, List.map_cons]

theorem elementDocuments_eq_map (elements : List Json) :
    elementDocuments elements = elements.map document := by
  induction elements with
  | nil => rfl
  | cons value rest induction => rw [elementDocuments, induction, List.map_cons]

theorem canonicalElements_eq_map (elements : List Json) :
    canonicalElements elements = elements.map canonical := by
  induction elements with
  | nil => rfl
  | cons value rest induction => rw [canonicalElements, induction, List.map_cons]

/-! ## Increasing keys -/

theorem lt_of_precedes {key : String} {members : List (String × Json)}
    (front : precedes key members = true) (sorted : membersCanonical members = true) :
    ∀ member ∈ members, key < member.1 := by
  induction members generalizing key with
  | nil => exact List.forall_mem_nil _
  | cons first rest induction =>
      rcases Bool.and_eq_true_iff.mp sorted with ⟨both, restSorted⟩
      rcases Bool.and_eq_true_iff.mp both with ⟨firstFront, _⟩
      have below : key < first.1 := of_decide_eq_true front
      intro member isMember
      rcases List.mem_cons.mp isMember with rfl | inRest
      · exact below
      · exact String.lt_trans below (induction firstFront restSorted member inRest)

theorem nodup_of_membersCanonical {members : List (String × Json)}
    (sorted : membersCanonical members = true) : (members.map Prod.fst).Nodup := by
  induction members with
  | nil => exact List.nodup_nil
  | cons first rest induction =>
      rcases Bool.and_eq_true_iff.mp sorted with ⟨both, restSorted⟩
      rcases Bool.and_eq_true_iff.mp both with ⟨front, _⟩
      refine List.nodup_cons.mpr ⟨?_, induction restSorted⟩
      intro again
      rcases List.mem_map.mp again with ⟨member, inRest, same⟩
      have below := lt_of_precedes front restSorted member inRest
      rw [same] at below
      exact String.lt_irrefl _ below

theorem insert_last {key : String} {value : Json} {members : List (String × Json)}
    (greatest : ∀ member ∈ members, member.1 < key) :
    insert key value members = members ++ [(key, value)] := by
  induction members with
  | nil => rfl
  | cons first rest induction =>
      have below : first.1 < key := greatest first List.mem_cons_self
      have apart : key ≠ first.1 := by
        rintro rfl
        exact String.lt_irrefl _ below
      rw [insert, if_neg (String.lt_asymm below), if_neg apart, induction, List.cons_append]
      exact fun member inRest => greatest member (List.mem_cons_of_mem _ inRest)

mutual

theorem canonical_of_isCanonical : (value : Json) → value.isCanonical = true →
    value.canonical = value
  | .null, _ | .bool _, _ | .integer _, _ | .float _, _ | .string _, _ => rfl
  | .array elements, sorted => by
      rw [canonical, canonicalElements_of_areCanonical elements sorted]
  | .object members, sorted => by
      rw [canonical, canonicalMembers_of_membersCanonical members sorted []
        (List.forall_mem_nil _), List.nil_append]

theorem canonicalElements_of_areCanonical : (elements : List Json) →
    areCanonical elements = true → canonicalElements elements = elements
  | [], _ => rfl
  | value :: rest, sorted => by
      rcases Bool.and_eq_true_iff.mp sorted with ⟨first, others⟩
      rw [canonicalElements, canonical_of_isCanonical value first,
        canonicalElements_of_areCanonical rest others]

theorem canonicalMembers_of_membersCanonical : (members : List (String × Json)) →
    membersCanonical members = true → (smaller : List (String × Json)) →
    (∀ earlier ∈ smaller, ∀ member ∈ members, earlier.1 < member.1) →
    canonicalMembers smaller members = smaller ++ members
  | [], _, smaller, _ => (List.append_nil smaller).symm
  | (key, value) :: rest, sorted, smaller, below => by
      rcases Bool.and_eq_true_iff.mp sorted with ⟨both, restSorted⟩
      rcases Bool.and_eq_true_iff.mp both with ⟨front, valueSorted⟩
      have last : ∀ earlier ∈ smaller, earlier.1 < key := fun earlier isEarlier =>
        below earlier isEarlier (key, value) List.mem_cons_self
      rw [canonicalMembers, canonical_of_isCanonical value valueSorted, insert_last last,
        canonicalMembers_of_membersCanonical rest restSorted, List.append_assoc]
      · rfl
      · intro earlier isEarlier member inRest
        rcases List.mem_append.mp isEarlier with isSmaller | isLast
        · exact below earlier isSmaller member (List.mem_cons_of_mem _ inRest)
        · rw [List.mem_singleton.mp isLast]
          exact lt_of_precedes front restSorted member inRest

end

theorem Canonical.ofDocument?_document (value : Canonical) :
    ofDocument? (document value.val) = some value := by
  have found := (json?_document value.val).trans
    (congrArg some (canonical_of_isCanonical value.val value.property))
  unfold ofDocument?
  split
  · rename_i other isValue
    rw [found] at isValue
    exact congrArg some (Subtype.ext (Option.some.inj isValue).symm)
  · rename_i absent
    rw [found] at absent
    cases absent

/-! ## Looking up sorted members -/

theorem lookup_insert (name key : String) (value : Json) (members : List (String × Json)) :
    lookup name (insert key value members) =
      if key = name then some value else lookup name members := by
  induction members with
  | nil => rfl
  | cons first rest induction =>
      rw [insert]
      split
      · rfl
      · split
        · rename_i same
          rw [lookup, lookup, same]
          split <;> rfl
        · rename_i apart
          rw [lookup, lookup, induction]
          by_cases isFirst : first.1 = name
          · have notKey : key ≠ name := fun equal => apart (equal.trans isFirst.symm)
            rw [if_pos isFirst, if_neg notKey, if_pos isFirst]
          · rw [if_neg isFirst, if_neg isFirst]

theorem lookup_of_notMem {name : String} {members : List (String × Json)}
    (absent : name ∉ members.map Prod.fst) : lookup name members = none := by
  induction members with
  | nil => rfl
  | cons first rest induction =>
      rw [List.map_cons, List.mem_cons, not_or] at absent
      rw [lookup, if_neg (Ne.symm absent.1)]
      exact induction absent.2

theorem lookup_canonicalMembers {members : List (String × Json)}
    (distinct : (members.map Prod.fst).Nodup) (name : String) (sorted : List (String × Json)) :
    lookup name (canonicalMembers sorted members) =
      ((lookup name members).map canonical).or (lookup name sorted) := by
  induction members generalizing sorted with
  | nil => rfl
  | cons first rest induction =>
      rcases List.nodup_cons.mp distinct with ⟨isNew, restDistinct⟩
      rw [canonicalMembers, induction restDistinct, lookup_insert, lookup]
      by_cases same : first.1 = name
      · rw [same] at isNew
        rw [if_pos same, if_pos same, lookup_of_notMem isNew]
        rfl
      · rw [if_neg same, if_neg same]

theorem keys_insert_subset (key : String) (value : Json) (members : List (String × Json)) :
    (insert key value members).map Prod.fst ⊆ key :: members.map Prod.fst := by
  induction members with
  | nil => exact List.Subset.refl _
  | cons first rest induction =>
      rw [insert]
      split
      · exact List.Subset.refl _
      · split
        · exact List.cons_subset_cons _ (List.subset_cons_self _ _)
        · intro name member
          rcases List.mem_cons.mp member with rfl | inRest
          · exact List.mem_cons_of_mem _ List.mem_cons_self
          · rcases List.mem_cons.mp (induction inRest) with rfl | inRest
            · exact List.mem_cons_self
            · exact List.mem_cons_of_mem _ (List.mem_cons_of_mem _ inRest)

theorem keys_canonicalMembers_subset (sorted members : List (String × Json)) :
    (canonicalMembers sorted members).map Prod.fst ⊆
      sorted.map Prod.fst ++ members.map Prod.fst := by
  induction members generalizing sorted with
  | nil => exact List.subset_append_left _ _
  | cons first rest induction =>
      intro name member
      rcases List.mem_append.mp (induction _ member) with isSorted | inRest
      · rcases List.mem_cons.mp (keys_insert_subset _ _ _ isSorted) with rfl | isSorted
        · exact List.mem_append_right _ List.mem_cons_self
        · exact List.mem_append_left _ isSorted
      · exact List.mem_append_right _ (List.mem_cons_of_mem _ inRest)

end GroupedReport.Json
