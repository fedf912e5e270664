import GroupedReport.Data.DataSet

/-!
# Shared scopes

A value may be kept where its scope covers the same rows wherever in it one looks from. Those are
all scopes but the cells of two groups.
-/

namespace GroupedReport

/-- Whether the extent of a scope is the same wherever in it one looks from. -/
def Scope.isShared : Scope → Bool
  | cell _ _ => false
  | default | dataSet _ | group _ => true

/-- Whether a source lets the values over exactly the shared scopes be kept. -/
def DataSource.SharesByScope (data : DataSource) : Prop :=
  ∀ {scope : Scope} {row? : Option RowId} {extent : Extent},
    data.extent? scope row? = some extent → extent.cacheable = scope.isShared

theorem DataSet.sharesByScope (dataSet : DataSet) : dataSet.source.SharesByScope := by
  intro scope row? extent covers
  change dataSet.extent? scope row? = some extent at covers
  unfold DataSet.extent? at covers
  cases scope with
  | default =>
      dsimp only at covers
      split at covers
      · rcases Option.map_eq_some_iff.mp covers with ⟨rows, _, rfl⟩
        rfl
      · cases covers
        rfl
  | dataSet name =>
      dsimp only at covers
      split at covers
      · cases covers
        rfl
      · cases covers
  | group name =>
      rcases Option.bind_eq_some_iff.mp covers with ⟨row, _, covered⟩
      rcases Option.map_eq_some_iff.mp covered with ⟨rows, _, rfl⟩
      rfl
  | cell rowGroup columnGroup =>
      rcases Option.bind_eq_some_iff.mp covers with ⟨row, _, covers⟩
      rcases Option.bind_eq_some_iff.mp covers with ⟨across, _, covers⟩
      rcases Option.bind_eq_some_iff.mp covers with ⟨down, _, covers⟩
      cases covers
      rfl

end GroupedReport
