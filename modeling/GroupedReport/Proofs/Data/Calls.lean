import GroupedReport.Proofs.Data.Nesting
import GroupedReport.Proofs.Data.Partition

/-!
# Calls in any order

Rows can be put into a data set before and after its groupings are declared. A grouping that finds
rows assigns them when it is declared, and the others when they are put behind. Both give one data
set: that of the declared groupings, filled with the rows that were not rejected.
-/

namespace GroupedReport.DataSet

inductive Call where
  | pushRow (values : List Value)
  | groupBy (name : String) (columns : List Nat)

namespace Call

def row? : Call → Option (List Value)
  | pushRow values => some values
  | groupBy _ _ => none

def grouping? : Call → Option (String × List Nat)
  | pushRow _ => none
  | groupBy name columns => some (name, columns)

end Call

def perform (dataSet : DataSet) : Call → DataSet
  | .pushRow values => (dataSet.push values).2
  | .groupBy name columns => dataSet.groupBy name columns

def performAll (dataSet : DataSet) (calls : List Call) : DataSet :=
  calls.foldl perform dataSet

def fits (columns : List String) (values : List Value) : Bool :=
  decide (values.length ≤ columns.length)

def declareAll (dataSet : DataSet) (groupings : List (String × List Nat)) : DataSet :=
  groupings.foldl (fun dataSet grouping => dataSet.groupBy grouping.1 grouping.2) dataSet

def fill (dataSet : DataSet) (rows : List (List Value)) : DataSet :=
  { dataSet with
    rows
    groupings := dataSet.groupings.map fun entry =>
      (entry.1, Grouping.ofRows entry.2.columns rows) }

/-! ## One call -/

theorem push_of_fits {dataSet : DataSet} {values : List Value}
    (short : fits dataSet.columns values = true) :
    dataSet.push values = (.ok dataSet.rows.length,
      { dataSet with
        rows := dataSet.rows ++ [values]
        groupings := dataSet.groupings.map fun entry =>
          (entry.1, entry.2.assign dataSet.rows.length values) }) := by
  rw [push, if_neg (Nat.not_lt.mpr (of_decide_eq_true short))]

theorem push_of_long {dataSet : DataSet} {values : List Value}
    (long : fits dataSet.columns values = false) :
    dataSet.push values =
      (.error (.rowTooLong values.length dataSet.name dataSet.columns.length), dataSet) := by
  rw [push, if_pos (Nat.not_le.mp (of_decide_eq_false long))]

theorem push_snd_of_error {dataSet : DataSet} {values : List Value} {error : EvaluationError}
    (rejected : (dataSet.push values).1 = .error error) : (dataSet.push values).2 = dataSet := by
  cases short : fits dataSet.columns values with
  | true =>
      rw [push_of_fits short] at rejected
      cases rejected
  | false => rw [push_of_long short]

theorem columns_perform (dataSet : DataSet) (call : Call) :
    (dataSet.perform call).columns = dataSet.columns := by
  cases call with
  | groupBy name columns => rfl
  | pushRow values =>
      rw [perform, push]
      split <;> rfl

theorem ofRows_concat (columns : List Nat) (rows : List (List Value)) (values : List Value) :
    Grouping.ofRows columns (rows ++ [values]) =
      (Grouping.ofRows columns rows).assign rows.length values := by
  have assignFrom (grouping : Grouping) (row : RowId) :
      grouping.assignFrom row (rows ++ [values]) =
        (grouping.assignFrom row rows).assign (row + rows.length) values := by
    induction rows generalizing grouping row with
    | nil => rfl
    | cons first rest induction =>
        rw [List.cons_append, Grouping.assignFrom, Grouping.assignFrom, induction,
          List.length_cons, Nat.add_right_comm]
        rfl
  rw [Grouping.ofRows, assignFrom, Nat.zero_add]
  rfl

theorem push_fill {dataSet : DataSet} {values : List Value}
    (short : fits dataSet.columns values = true) (rows : List (List Value)) :
    ((dataSet.fill rows).push values).2 = dataSet.fill (rows ++ [values]) := by
  have shortFilled : fits (dataSet.fill rows).columns values = true := short
  have groupings : (dataSet.fill rows).groupings.map
        (fun entry => (entry.1, entry.2.assign rows.length values)) =
      dataSet.groupings.map fun entry =>
        (entry.1, Grouping.ofRows entry.2.columns (rows ++ [values])) := by
    rw [fill, List.map_map]
    apply List.map_congr_left
    intro entry _
    rw [ofRows_concat]
    rfl
  rw [push_of_fits shortFilled]
  exact congrArg (fun groupings => { dataSet with rows := rows ++ [values], groupings }) groupings

theorem map_putGrouping (transform : Grouping → Grouping) {name : String}
    {before after : Grouping} (equal : transform before = after)
    (groupings : List (String × Grouping)) :
    (putGrouping name before groupings).map (fun entry => (entry.1, transform entry.2)) =
      putGrouping name after (groupings.map fun entry => (entry.1, transform entry.2)) := by
  induction groupings with
  | nil => rw [putGrouping, List.map_singleton, equal, List.map_nil, putGrouping]
  | cons entry rest induction =>
      rw [List.map_cons, putGrouping, putGrouping]
      split
      · rw [List.map_cons, equal]
      · rw [List.map_cons, induction]

theorem groupBy_fill (dataSet : DataSet) (name : String) (columns : List Nat)
    (rows : List (List Value)) :
    (dataSet.fill rows).groupBy name columns = (dataSet.groupBy name columns).fill rows := by
  have columnsEqual (columns : List Nat) (rows : List (List Value)) :
      (Grouping.ofRows columns rows).columns = columns :=
    columns_assignFrom { columns } 0 rows
  have innermost : (dataSet.fill rows).innermost?.map Grouping.columns =
      dataSet.innermost?.map Grouping.columns := by
    rw [innermost?, fill, List.getLast?_map, innermost?, Option.map_map, Option.map_map,
      Option.map_map]
    congr 1
    funext entry
    exact columnsEqual entry.2.columns rows
  rw [groupBy, groupBy, innermost, fill, fill]
  refine congrArg (fun groupings => { dataSet with rows, groupings }) ?_
  refine (map_putGrouping (fun grouping => .ofRows grouping.columns rows) ?_ _).symm
  rw [columns_assignFrom]
  rfl

/-! ## All calls -/

/-- Calls declare their groupings and put the rows that are not rejected, whatever their order. -/
theorem performAll_fill (dataSet : DataSet) (rows : List (List Value)) (calls : List Call) :
    (dataSet.fill rows).performAll calls =
      (dataSet.declareAll (calls.filterMap Call.grouping?)).fill
        (rows ++ (calls.filterMap Call.row?).filter (fits dataSet.columns)) := by
  induction calls generalizing dataSet rows with
  | nil => rw [List.filterMap_nil, List.filterMap_nil, List.filter_nil, List.append_nil]; rfl
  | cons call rest induction =>
      rw [performAll, List.foldl_cons]
      cases call with
      | pushRow values =>
          change performAll ((dataSet.fill rows).perform (.pushRow values)) rest =
            (dataSet.declareAll (rest.filterMap Call.grouping?)).fill
              (rows ++ (values :: rest.filterMap Call.row?).filter (fits dataSet.columns))
          cases short : fits dataSet.columns values with
          | true =>
              rw [perform, push_fill short, List.filter_cons_of_pos short]
              exact (induction dataSet (rows ++ [values])).trans
                (congrArg _ (List.append_assoc rows [values] _))
          | false =>
              have long : fits (dataSet.fill rows).columns values = false := short
              rw [perform, push_of_long long,
                List.filter_cons_of_neg (by rw [short]; exact Bool.false_ne_true)]
              exact induction dataSet rows
      | groupBy name columns =>
          rw [perform, groupBy_fill]
          exact induction (dataSet.groupBy name columns) rows

theorem columns_performAll (dataSet : DataSet) (calls : List Call) :
    (dataSet.performAll calls).columns = dataSet.columns := by
  induction calls generalizing dataSet with
  | nil => rfl
  | cons call rest induction => exact (induction _).trans (columns_perform dataSet call)

theorem performAll_concat (dataSet : DataSet) (calls : List Call) (call : Call) :
    dataSet.performAll (calls ++ [call]) = (dataSet.performAll calls).perform call := by
  rw [performAll, performAll, List.foldl_append, List.foldl_cons, List.foldl_nil]

/-! ## Declared groupings -/

/-- Whether calls declare a grouping of some columns: the last call for its name puts its own
columns behind those of the grouping that is the innermost one then. -/
def Declares (empty : DataSet) (calls : List Call) (group : String) (columns : List Nat) : Prop :=
  ∃ before own after, calls = before ++ .groupBy group own :: after ∧
    (∀ others, .groupBy group others ∉ after) ∧
    columns = ((empty.performAll before).innermost?.map Grouping.columns).getD [] ++ own

theorem names_putGrouping (name : String) (grouping : Grouping)
    (groupings : List (String × Grouping)) :
    (putGrouping name grouping groupings).map Prod.fst =
      if name ∈ groupings.map Prod.fst then groupings.map Prod.fst
      else groupings.map Prod.fst ++ [name] := by
  induction groupings with
  | nil => rfl
  | cons entry rest induction =>
      rw [putGrouping]
      by_cases same : entry.1 = name
      · simp [same]
      · rw [if_neg same, List.map_cons, List.map_cons, induction]
        simp only [List.mem_cons, Ne.symm same, false_or]
        split <;> rfl

theorem mem_putGrouping {name : String} {grouping : Grouping}
    {groupings : List (String × Grouping)} (distinct : (groupings.map Prod.fst).Nodup)
    {entry : String × Grouping} (member : entry ∈ putGrouping name grouping groupings) :
    entry = (name, grouping) ∨ entry ∈ groupings ∧ entry.1 ≠ name := by
  induction groupings with
  | nil => exact .inl (List.mem_singleton.mp member)
  | cons first rest induction =>
      rw [List.map_cons, List.nodup_cons] at distinct
      rw [putGrouping] at member
      by_cases same : first.1 = name
      · rw [if_pos same, List.mem_cons] at member
        refine member.imp_right fun inRest => ⟨List.mem_cons_of_mem _ inRest, ?_⟩
        intro equal
        exact distinct.1 (same ▸ equal ▸ List.mem_map_of_mem inRest)
      · rw [if_neg same, List.mem_cons] at member
        rcases member with rfl | inRest
        · exact .inr ⟨List.mem_cons_self, same⟩
        · exact (induction distinct.2 inRest).imp_right fun old =>
            ⟨List.mem_cons_of_mem _ old.1, old.2⟩

theorem eraseDups_concat (names : List String) (name : String) :
    (names ++ [name]).eraseDups =
      if name ∈ names then names.eraseDups else names.eraseDups ++ [name] := by
  rw [List.eraseDups_append]
  split
  · rename_i known
    simp [List.removeAll, known]
  · rename_i new
    simp [List.removeAll, new, List.eraseDups_cons]

theorem nodup_eraseDups (names : List String) : names.eraseDups.Nodup := by
  induction names using List.reverseRecOn with
  | nil => exact List.nodup_nil
  | append_singleton names name induction =>
      rw [eraseDups_concat]
      split
      · exact induction
      · rename_i new
        rw [← List.concat_eq_append]
        exact induction.concat fun member => new (List.mem_eraseDups.mp member)

section

variable (name : String) (columns : List String)

theorem performAll_eq (calls : List Call) :
    performAll { name, columns } calls =
      (declareAll { name, columns } (calls.filterMap Call.grouping?)).fill
        ((calls.filterMap Call.row?).filter (fits columns)) :=
  performAll_fill { name, columns } [] calls

theorem partitions_performAll (calls : List Call) :
    ∀ entry ∈ (performAll { name, columns } calls).groupings,
      entry.2.Partitions (performAll { name, columns } calls).rows := by
  rw [performAll_eq]
  intro entry member
  rcases List.mem_map.mp member with ⟨_, _, rfl⟩
  exact Grouping.partitions_ofRows _ _

theorem performAll_congr {first second : List Call}
    (groupings : first.filterMap Call.grouping? = second.filterMap Call.grouping?)
    (rows : first.filterMap Call.row? = second.filterMap Call.row?) :
    performAll { name, columns } first = performAll { name, columns } second := by
  rw [performAll_eq, performAll_eq, groupings, rows]

theorem groupNames_declareAll (groupings : List (String × List Nat)) :
    (declareAll { name, columns } groupings).groupNames =
      (groupings.map Prod.fst).eraseDups := by
  induction groupings using List.reverseRecOn with
  | nil => rfl
  | append_singleton groupings grouping induction =>
      have names : (declareAll { name, columns } (groupings ++ [grouping])).groupNames =
          if grouping.1 ∈ (declareAll { name, columns } groupings).groupNames then
            (declareAll { name, columns } groupings).groupNames
          else (declareAll { name, columns } groupings).groupNames ++ [grouping.1] := by
        rw [declareAll, List.foldl_append]
        exact names_putGrouping grouping.1 _ _
      rw [names, induction, List.map_append, List.map_singleton, eraseDups_concat]
      simp only [List.mem_eraseDups]

theorem groupNames_performAll (calls : List Call) :
    (performAll { name, columns } calls).groupNames =
      ((calls.filterMap Call.grouping?).map Prod.fst).eraseDups := by
  rw [performAll_eq, ← groupNames_declareAll name columns, groupNames, fill, List.map_map]
  rfl

theorem mem_groupNames_performAll {calls : List Call} {group : String} :
    group ∈ (performAll { name, columns } calls).groupNames ↔
      ∃ own, .groupBy group own ∈ calls := by
  rw [groupNames_performAll, List.mem_eraseDups, List.mem_map]
  constructor
  · rintro ⟨⟨_, own⟩, declared, rfl⟩
    rcases List.mem_filterMap.mp declared with ⟨_ | _, member, equal⟩ <;> cases equal
    exact ⟨own, member⟩
  · rintro ⟨own, member⟩
    exact ⟨(group, own), List.mem_filterMap.mpr ⟨_, member, rfl⟩, rfl⟩

theorem declares_performAll (calls : List Call) :
    ∀ entry ∈ (performAll { name, columns } calls).groupings,
      Declares { name, columns } calls entry.1 entry.2.columns := by
  induction calls using List.reverseRecOn with
  | nil => exact List.forall_mem_nil _
  | append_singleton calls call induction =>
      -- A call for another name comes behind the one that declares the grouping.
      have later {group : String} {own : List Nat}
          (declares : Declares { name, columns } calls group own)
          (other : ∀ others, call ≠ .groupBy group others) :
          Declares { name, columns } (calls ++ [call]) group own := by
        rcases declares with ⟨before, own, after, rfl, last, equal⟩
        refine ⟨before, own, after ++ [call], by simp, fun others member => ?_, equal⟩
        rcases List.mem_append.mp member with inAfter | isCall
        · exact last others inAfter
        · exact other others (List.mem_singleton.mp isCall).symm
      intro entry member
      rw [performAll_concat] at member
      cases call with
      | pushRow values =>
          have other (others : List Nat) : Call.pushRow values ≠ .groupBy entry.1 others := by
            intro same
            cases same
          rw [perform, push] at member
          split at member
          · exact later (induction entry member) other
          · rcases List.mem_map.mp member with ⟨old, isOld, rfl⟩
            dsimp only
            rw [columns_assign]
            exact later (induction old isOld) other
      | groupBy group own =>
          have distinct := nodup_eraseDups ((calls.filterMap Call.grouping?).map Prod.fst)
          rw [← groupNames_performAll name columns] at distinct
          rcases mem_putGrouping distinct member with rfl | ⟨old, different⟩
          · refine ⟨calls, own, [], rfl, fun _ => List.not_mem_nil, ?_⟩
            exact columns_assignFrom _ 0 _
          · refine later (induction entry old) fun others same => ?_
            exact different (Call.groupBy.inj same).1.symm

end

end GroupedReport.DataSet
