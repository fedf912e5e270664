/-!
# Results

Where a result that was put together from others is a value or an error, so were its parts.
-/

namespace GroupedReport.Result

variable {result : Except ε α}

theorem bind_eq_ok {next : α → Except ε β} {value : β} (equal : result >>= next = .ok value) :
    ∃ given, result = .ok given ∧ next given = .ok value := by
  cases result with
  | error => cases equal
  | ok given => exact ⟨given, rfl, equal⟩

theorem map_eq_ok {transform : α → β} {value : β} (equal : result.map transform = .ok value) :
    ∃ given, result = .ok given ∧ value = transform given := by
  cases result with
  | error => cases equal
  | ok given => exact ⟨given, rfl, (Except.ok.inj equal).symm⟩

theorem map_map (first : α → β) (second : β → γ) :
    (result.map first).map second = result.map fun value => second (first value) := by
  cases result <;> rfl

theorem map_id : (result.map fun value => value) = result := by
  cases result <;> rfl

theorem map_eq_error {transform : α → β} {error : ε}
    (equal : transform <$> result = .error error) : result = .error error := by
  cases result with
  | error => exact congrArg Except.error (Except.error.inj equal)
  | ok => cases equal

theorem bind_eq_error_iff {next : α → Except ε β} {error : ε} :
    result.bind next = .error error ↔
      result = .error error ∨ ∃ given, result = .ok given ∧ next given = .error error := by
  cases result with
  | error first =>
      refine ⟨fun equal => .inl (congrArg Except.error (Except.error.inj equal)), ?_⟩
      rintro (equal | ⟨_, impossible, _⟩)
      · exact congrArg Except.error (Except.error.inj equal)
      · cases impossible
  | ok given =>
      refine ⟨fun equal => .inr ⟨given, rfl, equal⟩, ?_⟩
      rintro (impossible | ⟨_, ⟨⟩, equal⟩)
      · cases impossible
      · exact equal

theorem mapError_eq_ok {transform : ε → δ} {value : α}
    (equal : result.mapError transform = .ok value) : result = .ok value := by
  cases result with
  | error => cases equal
  | ok => exact congrArg Except.ok (Except.ok.inj equal)

theorem mapError_eq_error {transform : ε → δ} {error : δ}
    (equal : result.mapError transform = .error error) :
    ∃ given, result = .error given ∧ error = transform given := by
  cases result with
  | error given => exact ⟨given, rfl, (Except.error.inj equal).symm⟩
  | ok => cases equal

end GroupedReport.Result
