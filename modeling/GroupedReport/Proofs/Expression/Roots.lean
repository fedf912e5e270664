import GroupedReport.Proofs.Expression.Building

/-!
# Roots

While a definition is built, nodes are put into a builder that stand for its expressions. No key
occurs twice in the trees of these roots, and all of their keys were handed out on the way.
-/

namespace GroupedReport.Expression

namespace Builder

def keysOf (builder : Builder) (ids : List NodeId) : List AggregateKey :=
  ids.flatMap fun id => (builder.tree id).keys

/-- What holds of roots that a builder was given, if no more aggregates than a number lie inside
of each other. -/
structure Gains (before : Builder) (depth : Nat) (roots : List NodeId) (after : Builder) :
    Prop where
  valid : after.Valid
  within : before.Within after
  known : ∀ root ∈ roots, root < after.nodes.size
  fresh : ∀ key ∈ after.keysOf roots, before.nextKey ≤ key
  distinct : (after.keysOf roots).Nodup
  nesting : ∀ root ∈ roots, (after.tree root).nesting ≤ depth

section

variable {before between after : Builder}

theorem keysOf_append (builder : Builder) (left right : List NodeId) :
    builder.keysOf (left ++ right) = builder.keysOf left ++ builder.keysOf right :=
  List.flatMap_append

theorem Within.keysOf_eq (within : before.Within after) {roots : List NodeId}
    (known : ∀ root ∈ roots, root < before.nodes.size) :
    after.keysOf roots = before.keysOf roots := by
  induction roots with
  | nil => rfl
  | cons root rest induction =>
      rw [List.forall_mem_cons] at known
      rw [keysOf, List.flatMap_cons, within.tree_eq known.1]
      exact congrArg _ (induction known.2)

theorem Valid.keysOf_lt {builder : Builder} (valid : builder.Valid) (roots : List NodeId) :
    ∀ key ∈ builder.keysOf roots, key < builder.nextKey := by
  intro key member
  rcases List.mem_flatMap.mp member with ⟨root, _, inTree⟩
  exact valid.key_lt root key inTree

namespace Gains

variable {depth : Nat} {roots others front middle back : List NodeId} {tree : Tree}
  {result : NodeId × Builder}

theorem nil (valid : before.Valid) : before.Gains depth [] before where
  valid := valid
  within := .refl before
  known root member := by cases member
  fresh key member := by cases member
  distinct := List.nodup_nil
  nesting root member := by cases member

theorem mono (gains : before.Gains depth roots after) {deeper : Nat} (atMost : depth ≤ deeper) :
    before.Gains deeper roots after :=
  { gains with nesting := fun root member => Nat.le_trans (gains.nesting root member) atMost }

theorem of_nodes (gains : before.Gains depth roots between)
    (nodes : after.nodes = between.nodes) (nextKey : after.nextKey = between.nextKey) :
    before.Gains depth roots after := by
  have trees : after.tree = between.tree := by
    funext id
    rw [tree, tree, nodes]
  have keys : after.keysOf roots = between.keysOf roots := by
    rw [keysOf, keysOf, trees]
  have within : between.Within after := .of_nodes nodes (Nat.le_of_eq nextKey.symm)
  constructor
  · exact gains.valid.of_nodes nodes (Nat.le_of_eq nextKey.symm)
  · exact gains.within.trans within
  · intro root member
    exact within.known (gains.known root member)
  · rw [keys]
    exact gains.fresh
  · rw [keys]
    exact gains.distinct
  · rw [trees]
    exact gains.nesting

theorem append (first : before.Gains depth roots between)
    (second : between.Gains depth others after) :
    before.Gains depth (roots ++ others) after := by
  have old : after.keysOf roots = between.keysOf roots := second.within.keysOf_eq first.known
  have below := first.valid.keysOf_lt roots
  constructor
  · exact second.valid
  · exact first.within.trans second.within
  · intro root member
    rcases List.mem_append.mp member with inFirst | inSecond
    · exact second.within.known (first.known root inFirst)
    · exact second.known root inSecond
  · intro key member
    rw [keysOf_append, old] at member
    rcases List.mem_append.mp member with inFirst | inSecond
    · exact first.fresh key inFirst
    · exact Nat.le_trans first.within.nextKey_le (second.fresh key inSecond)
  · rw [keysOf_append, old, List.nodup_append]
    refine ⟨first.distinct, second.distinct, ?_⟩
    rintro key inFirst _ inSecond rfl
    exact Nat.not_lt_of_le (second.fresh key inSecond) (below key inFirst)
  · intro root member
    rcases List.mem_append.mp member with inFirst | inSecond
    · rw [second.within.tree_eq (first.known root inFirst)]
      exact first.nesting root inFirst
    · exact second.nesting root inSecond

theorem nodup_replace {front middle back keys : List AggregateKey} {bound : AggregateKey}
    (old : (front ++ (middle ++ back)).Nodup) (distinct : keys.Nodup)
    (known : ∀ key ∈ keys, key ∈ middle ∨ bound ≤ key) (frontBelow : ∀ key ∈ front, key < bound)
    (backBelow : ∀ key ∈ back, key < bound) : (front ++ (keys ++ back)).Nodup := by
  rcases List.nodup_append.mp old with ⟨frontDistinct, restDistinct, frontApart⟩
  rcases List.nodup_append.mp restDistinct with ⟨_, backDistinct, middleApart⟩
  rw [List.nodup_append, List.nodup_append]
  refine ⟨frontDistinct, ⟨distinct, backDistinct, ?_⟩, ?_⟩
  · rintro key inKeys _ inBack rfl
    rcases known key inKeys with inMiddle | new
    · exact middleApart key inMiddle key inBack rfl
    · exact Nat.not_lt_of_le new (backBelow key inBack)
  · rintro key inFront _ inRest rfl
    rcases List.mem_append.mp inRest with inKeys | inBack
    · rcases known key inKeys with inMiddle | new
      · exact frontApart key inFront key (List.mem_append_left _ inMiddle) rfl
      · exact Nat.not_lt_of_le new (frontBelow key inFront)
    · exact frontApart key inFront key (List.mem_append_right _ inBack) rfl

theorem replace (gains : before.Gains depth (front ++ middle ++ back) between)
    (puts : between.Puts tree result)
    (keys : ∀ key ∈ tree.keys, key ∈ between.keysOf middle ∨ between.nextKey ≤ key)
    (distinct : tree.keys.Nodup) (nesting : tree.nesting ≤ depth) :
    before.Gains depth (front ++ result.1 :: back) result.2 := by
  have frontIn {root : NodeId} (member : root ∈ front) : root ∈ front ++ middle ++ back := by
    simp [member]
  have backIn {root : NodeId} (member : root ∈ back) : root ∈ front ++ middle ++ back := by
    simp [member]
  have frontKnown : ∀ root ∈ front, root < between.nodes.size :=
    fun root member => gains.known root (frontIn member)
  have backKnown : ∀ root ∈ back, root < between.nodes.size :=
    fun root member => gains.known root (backIn member)
  have own : (result.2.tree result.1).keys = tree.keys := by
    rw [← puts.bare, Tree.keys_bare]
  -- The keys of the new tree come in the place of those of the roots that it is put for.
  have all : result.2.keysOf (front ++ result.1 :: back) =
      between.keysOf front ++ (tree.keys ++ between.keysOf back) := by
    rw [keysOf_append, puts.within.keysOf_eq frontKnown, ← puts.within.keysOf_eq backKnown, ← own]
    rfl
  have oldDistinct := gains.distinct
  have oldFresh := gains.fresh
  rw [keysOf_append, keysOf_append, List.append_assoc] at oldDistinct oldFresh
  constructor
  · exact puts.valid
  · exact gains.within.trans puts.within
  · intro root member
    rcases List.mem_append.mp member with inFront | inRest
    · exact puts.within.known (frontKnown root inFront)
    · rcases List.mem_cons.mp inRest with rfl | inBack
      · exact puts.known
      · exact puts.within.known (backKnown root inBack)
  · intro key member
    rw [all] at member
    rcases List.mem_append.mp member with inFront | inRest
    · exact oldFresh key (by simp [inFront])
    · rcases List.mem_append.mp inRest with inTree | inBack
      · rcases keys key inTree with inMiddle | new
        · exact oldFresh key (by simp [inMiddle])
        · exact Nat.le_trans gains.within.nextKey_le new
      · exact oldFresh key (by simp [inBack])
  · rw [all]
    exact nodup_replace oldDistinct distinct keys (gains.valid.keysOf_lt front)
      (gains.valid.keysOf_lt back)
  · intro root member
    rcases List.mem_append.mp member with inFront | inRest
    · rw [puts.within.tree_eq (frontKnown root inFront)]
      exact gains.nesting root (frontIn inFront)
    · rcases List.mem_cons.mp inRest with rfl | inBack
      · rw [← Tree.nesting_bare, puts.bare]
        exact nesting
      · rw [puts.within.tree_eq (backKnown root inBack)]
        exact gains.nesting root (backIn inBack)

end Gains

end

end Builder

end GroupedReport.Expression
