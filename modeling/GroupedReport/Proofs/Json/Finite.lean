import GroupedReport.Json.Record
import GroupedReport.Proofs.Binary64.Finite

/-!
# Numbers of documents are finite

A number in a text is a whole one of 64 bits, or its leading digits times a power of ten. What would
be infinite is too large and has no value, so a double that is read from a document is finite.
-/

namespace GroupedReport.Json

open Binary64

-- Powers are those of the core library, whatever else is imported.
attribute [local instance (high)] instPowNat

/-! ## Numbers -/

namespace Spelling

theorem addWhole_lt {significand : Significand} (small : significand.digits < 2 ^ (64 : Nat))
    (characters : List Char) : (addWhole significand characters).digits < 2 ^ (64 : Nat) := by
  induction characters generalizing significand with
  | nil => exact small
  | cons character rest induction =>
      rw [addWhole]
      split
      · exact induction small
      · rename_i fits
        rw [Bool.or_eq_true, decide_eq_true_iff, not_or] at fits
        exact induction (Nat.lt_of_not_le fits.2)

theorem addFraction_lt {significand : Significand} (small : significand.digits < 2 ^ (64 : Nat))
    (characters : List Char) : (addFraction significand characters).digits < 2 ^ (64 : Nat) := by
  induction characters generalizing significand with
  | nil => exact small
  | cons character rest induction =>
      rw [addFraction]
      split
      · exact small
      · rename_i fits
        exact induction (Nat.lt_of_not_le fits)

theorem isAtLeast_power :
    ∀ power : Fin 309, isAtLeast (-52) (unpacked (ofNat (10 ^ power.val))) = true := by
  decide +kernel

theorem isAtLeast_greatestPower :
    isAtLeast 971 (unpacked (ofNat (10 ^ greatestPower))) = true := by
  decide +kernel

theorem isFinite_divideByPower {value : Float} (within : IsWithin 12 (unpacked value))
    (power : Nat) : isFinite (divideByPower value power) = true := by
  fun_induction divideByPower value power with
  | case1 value power few =>
      have divisor := isAtLeast_power ⟨power, Nat.lt_succ_of_le few⟩
      exact isFinite_iff_isWithin.mpr
        (isWithin_divide within divisor (by decide) (by decide) (by decide))
  | case2 value power => exact isFinite_iff_isWithin.mpr (within.mono (by decide))
  | case3 value power many notZero induction =>
      exact induction
        (isWithin_divide within isAtLeast_greatestPower (by decide) (by decide) (by decide))

theorem isFinite_of_magnitude? {digits : Nat} {power : Int} {value : Float}
    (small : digits < 2 ^ (64 : Nat)) (read : magnitude? digits power = some value) :
    isFinite value = true := by
  have whole : IsWithin 12 (unpacked (ofNat digits)) := isWithin_nearest false small
  rw [magnitude?] at read
  split at read
  · cases read
    exact isFinite_divideByPower whole _
  · rename_i notNegative
    split at read
    · rename_i few
      dsimp only at read
      split at read
      · cases read
      · rename_i bounded
        cases read
        have atMost : power.toNat < 309 := by
          rw [greatestPower] at few
          omega
        rcases eq_finite_of_isAtLeast (isAtLeast_power ⟨power.toNat, atMost⟩) with
          ⟨significand, exponent, positive, factor, _⟩
        refine isFinite_of_sign? ((sign?_multiply ?_).trans (sign?_nearest false digits 1)) bounded
        rw [factor]
        rfl
    · split at read
      · cases read
        exact isFinite_iff_isWithin.mpr (whole.mono (by decide))
      · cases read

theorem isFinite_of_float? {spelling : Spelling} {value : Float}
    (read : spelling.float? = some value) : isFinite value = true := by
  have small : (addFraction (addWhole ⟨0, 0, false⟩ spelling.whole)
      (spelling.fraction.getD [])).digits < 2 ^ (64 : Nat) :=
    addFraction_lt (addWhole_lt (Nat.two_pow_pos _) _) _
  rw [float?] at read
  split at read
  · exact isFinite_of_magnitude? small read
  · dsimp only at read
    split at read
    · split at read
      · cases read
      · cases read
        rfl
    · exact isFinite_of_magnitude? small read

theorem isFinite_of_number? {spelling : Spelling} {number : Number}
    (read : spelling.number? = some number) : isFinite number.toFloat = true := by
  rw [number?] at read
  split at read
  · rename_i whole
    cases read
    simp only [Bool.and_eq_true, decide_eq_true_iff] at whole
    refine isFinite_nearest _ ?_
    omega
  · split at read
    · rename_i whole
      cases read
      simp only [Bool.and_eq_true, decide_eq_true_iff] at whole
      refine isFinite_nearest _ ?_
      omega
    · rcases Option.map_eq_some_iff.mp read with ⟨magnitude, isMagnitude, rfl⟩
      have finite := isFinite_of_float? isMagnitude
      rw [Number.toFloat]
      split
      · exact isFinite_negate finite
      · exact finite

end Spelling

/-! ## Documents -/

namespace Document

/-- Whether all numbers in a document are finite, as far as they have a value. -/
inductive IsFinite : Document → Prop
  | null : IsFinite .null
  | bool {value : Bool} : IsFinite (.bool value)
  | number {value : Option Number} :
      (∀ number ∈ value, isFinite number.toFloat = true) → IsFinite (.number value)
  | string {value : Option String} : IsFinite (.string value)
  | array {elements : List Document} :
      (∀ element ∈ elements, IsFinite element) → IsFinite (.array elements)
  | object {members : List (Option String × Document)} :
      (∀ member ∈ members, IsFinite member.2) → IsFinite (.object members)

def Frame.IsFinite : Frame → Prop
  | .array elements => ∀ element ∈ elements, element.IsFinite
  | .member members _ => ∀ member ∈ members, member.2.IsFinite

def State.IsFinite : State → Prop
  | .awaitValue frames | .awaitElement frames | .awaitFirstKey frames =>
      ∀ frame ∈ frames, frame.IsFinite
  | .awaitKey members frames | .awaitColon members _ frames | .awaitMemberEnd members frames =>
      (∀ member ∈ members, member.2.IsFinite) ∧ ∀ frame ∈ frames, frame.IsFinite
  | .awaitElementEnd elements frames =>
      (∀ element ∈ elements, element.IsFinite) ∧ ∀ frame ∈ frames, frame.IsFinite
  | .done document => document.IsFinite

theorem State.isFinite_after {document : Document} (finite : document.IsFinite)
    {frames : List Frame} (each : ∀ frame ∈ frames, frame.IsFinite) :
    (State.after document frames).IsFinite := by
  cases frames with
  | nil => exact finite
  | cons frame rest =>
      rw [List.forall_mem_cons] at each
      cases frame with
      | array => exact ⟨List.forall_mem_cons.mpr ⟨finite, each.1⟩, each.2⟩
      | member => exact ⟨List.forall_mem_cons.mpr ⟨finite, each.1⟩, each.2⟩

theorem State.isFinite_begin? {frames : List Frame} (each : ∀ frame ∈ frames, frame.IsFinite)
    {token : Token} {next : State} (begins : State.begin? frames token = some next) :
    next.IsFinite := by
  cases token with
  | openArray | openObject =>
      rw [State.begin?] at begins
      split at begins
      · cases begins
        exact each
      · cases begins
  | null =>
      cases begins
      exact isFinite_after .null each
  | bool value =>
      cases begins
      exact isFinite_after .bool each
  | number spelling =>
      cases begins
      exact isFinite_after (.number fun _ => Spelling.isFinite_of_number?) each
  | string value =>
      cases begins
      exact isFinite_after .string each
  | closeArray | closeObject | colon | comma => cases begins

theorem State.isFinite_step? {state next : State} (finite : state.IsFinite) {token : Token}
    (steps : state.step? token = some next) : next.IsFinite := by
  cases state with
  | awaitValue frames => exact isFinite_begin? finite steps
  | awaitElement frames =>
      have inside : ∀ frame ∈ Frame.array [] :: frames, frame.IsFinite :=
        List.forall_mem_cons.mpr ⟨List.forall_mem_nil _, finite⟩
      cases token with
      | closeArray =>
          cases steps
          exact isFinite_after (.array (List.forall_mem_nil _)) finite
      | _ =>
          rw [step?] at steps
          · exact isFinite_begin? inside steps
          · exact nofun
  | awaitFirstKey frames =>
      cases token with
      | closeObject =>
          cases steps
          exact isFinite_after (.object (List.forall_mem_nil _)) finite
      | string key =>
          cases steps
          exact ⟨List.forall_mem_nil _, finite⟩
      | _ => cases steps
  | awaitKey members frames =>
      cases token with
      | string key =>
          cases steps
          exact finite
      | _ => cases steps
  | awaitColon members key frames =>
      cases token with
      | colon =>
          cases steps
          exact List.forall_mem_cons.mpr finite
      | _ => cases steps
  | awaitElementEnd elements frames =>
      cases token with
      | comma =>
          cases steps
          exact List.forall_mem_cons.mpr finite
      | closeArray =>
          cases steps
          refine isFinite_after (.array fun element member => ?_) finite.2
          exact finite.1 element (List.mem_reverse.mp member)
      | _ => cases steps
  | awaitMemberEnd members frames =>
      cases token with
      | comma =>
          cases steps
          exact finite
      | closeObject =>
          cases steps
          refine isFinite_after (.object fun member isMember => ?_) finite.2
          exact finite.1 member (List.mem_reverse.mp isMember)
      | _ => cases steps
  | done => cases token <;> cases steps

theorem State.isFinite_foldlM {state final : State} (finite : state.IsFinite) {tokens : List Token}
    (runs : tokens.foldlM State.step? state = some final) : final.IsFinite := by
  induction tokens generalizing state with
  | nil =>
      cases runs
      exact finite
  | cons token rest induction =>
      rw [List.foldlM_cons] at runs
      rcases Option.bind_eq_some_iff.mp runs with ⟨next, steps, runs⟩
      exact induction (isFinite_step? finite steps) runs

theorem isFinite_of_read? {text : String} {document : Document}
    (read : read? text = some document) : document.IsFinite := by
  rcases Option.bind_eq_some_iff.mp read with ⟨tokens, _, read⟩
  rcases Option.bind_eq_some_iff.mp read with ⟨final, runs, read⟩
  have start : (State.awaitValue []).IsFinite := List.forall_mem_nil _
  have finite := State.isFinite_foldlM start runs
  split at read
  · cases read
    exact finite
  · cases read

/-! ## Parts of documents -/

theorem exists_of_mapM {read : α → Option β} {items : List α} {values : List β}
    (made : items.mapM read = some values) {value : β} (member : value ∈ values) :
    ∃ item ∈ items, read item = some value := by
  induction items generalizing values with
  | nil =>
      cases made
      cases member
  | cons item rest induction =>
      rw [List.mapM_cons] at made
      rcases Option.bind_eq_some_iff.mp made with ⟨first, isFirst, made⟩
      rcases Option.bind_eq_some_iff.mp made with ⟨others, isRest, made⟩
      cases made
      rcases List.mem_cons.mp member with rfl | inRest
      · exact ⟨item, List.mem_cons_self, isFirst⟩
      · rcases induction isRest inRest with ⟨source, isItem, reads⟩
        exact ⟨source, List.mem_cons_of_mem _ isItem, reads⟩

theorem IsFinite.part {document part : Document} (finite : document.IsFinite)
    {names : List String} {parts : Parts Document} (read : document.parts? names = some parts)
    {name : String} (found : parts.find? name = some part) : part.IsFinite := by
  have member : (name, part) ∈ parts.present := by
    rcases List.lookup_eq_some_iff.mp found with ⟨front, back, split, _⟩
    rw [split]
    exact List.mem_append_right _ List.mem_cons_self
  cases finite with
  | array each =>
      rw [parts?, Parts.ofElements?] at read
      split at read
      · cases read
        exact each part (List.of_mem_zip member).2
      · cases read
  | object each =>
      rcases Option.bind_eq_some_iff.mp read with ⟨entries, named, read⟩
      dsimp only at read
      split at read
      · cases read
        rcases exists_of_mapM named (List.mem_filter.mp member).1 with
          ⟨⟨key, value⟩, isMember, same⟩
        rcases Option.map_eq_some_iff.mp same with ⟨_, _, equal⟩
        cases equal
        exact each _ isMember
      · cases read
  | null | bool | number | string => cases read

theorem IsFinite.element {document : Document} (finite : document.IsFinite)
    {read : Document → Option α} {values : List α} (made : document.list? read = some values)
    {value : α} (member : value ∈ values) :
    ∃ element : Document, element.IsFinite ∧ read element = some value := by
  cases finite with
  | array each =>
      rcases exists_of_mapM made member with ⟨element, isElement, reads⟩
      exact ⟨element, each element isElement, reads⟩
  | null | bool | number | string | object => cases made

theorem IsFinite.nullable_float? {document : Document} (finite : document.IsFinite)
    {value? : Option Float} (made : document.nullable Document.float? = some value?) :
    ∀ value ∈ value?, isFinite value = true := by
  intro value isValue
  cases isValue
  cases finite with
  | number each =>
      rcases Option.map_eq_some_iff.mp made with ⟨_, isFloat, same⟩
      cases same
      rcases Option.map_eq_some_iff.mp isFloat with ⟨number, isNumber, rfl⟩
      exact each number isNumber
  | null | bool | string | array | object => cases made

end Document

end GroupedReport.Json
