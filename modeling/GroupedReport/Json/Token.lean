import GroupedReport.Json.Number

/-!
# JSON tokens

The text of a JSON document is cut into tokens. A string that contains half of a surrogate pair
is a token without a value: it may be skipped but not used.
-/

namespace GroupedReport.Json

inductive Token where
  | openArray
  | closeArray
  | openObject
  | closeObject
  | colon
  | comma
  | null
  | bool (value : Bool)
  | number (spelling : Spelling)
  | string (value : Option String)
deriving DecidableEq, Repr

def isGap (character : Char) : Bool :=
  character == ' ' || character == '\t' || character == '\n' || character == '\r'

/-! ## Strings -/

/-- A part of a string: a character, or a unit of 16 bits given by number. -/
inductive Piece where
  | character (value : Char)
  | unit (value : Nat)
deriving DecidableEq, Repr

def hexValue? (character : Char) : Option Nat :=
  let point := character.toNat
  if character.isDigit then some (point - 48)
  else if 97 ≤ point ∧ point ≤ 102 then some (point - 87)
  else if 65 ≤ point ∧ point ≤ 70 then some (point - 55)
  else none

def unit? (first second third fourth : Char) : Option Nat := do
  let first ← hexValue? first
  let second ← hexValue? second
  let third ← hexValue? third
  let fourth ← hexValue? fourth
  some (((first * 16 + second) * 16 + third) * 16 + fourth)

def escaped? : Char → Option Char
  | '"' => some '"'
  | '\\' => some '\\'
  | '/' => some '/'
  | 'b' => some '\x08'
  | 'f' => some '\x0c'
  | 'n' => some '\n'
  | 'r' => some '\r'
  | 't' => some '\t'
  | _ => none

def pieces? : List Char → Option (List Piece × List Char)
  | [] => none
  | '"' :: rest => some ([], rest)
  | '\\' :: 'u' :: first :: second :: third :: fourth :: rest => do
      let unit ← unit? first second third fourth
      let (pieces, rest) ← pieces? rest
      some (.unit unit :: pieces, rest)
  | '\\' :: mark :: rest => do
      let character ← escaped? mark
      let (pieces, rest) ← pieces? rest
      some (.character character :: pieces, rest)
  | character :: rest =>
      if character.toNat < 32 ∨ character = '\\' then none
      else do
        let (pieces, rest) ← pieces? rest
        some (.character character :: pieces, rest)

/-- Put pieces together. Two units that form a surrogate pair are one character; half a pair is
none. -/
def join? : List Piece → Option (List Char)
  | [] => some []
  | .character value :: rest => (join? rest).map (value :: ·)
  | .unit high :: .unit low :: rest =>
      if 0xD800 ≤ high ∧ high < 0xDC00 then
        if 0xDC00 ≤ low ∧ low < 0xE000 then
          (join? rest).map
            (Char.ofNat (0x10000 + (high - 0xD800) * 0x400 + (low - 0xDC00)) :: ·)
        else none
      else if 0xDC00 ≤ high ∧ high < 0xE000 then none
      else (join? (.unit low :: rest)).map (Char.ofNat high :: ·)
  | .unit value :: rest =>
      if 0xD800 ≤ value ∧ value < 0xE000 then none
      else (join? rest).map (Char.ofNat value :: ·)

theorem pieces?_shorter {text rest : List Char} {pieces : List Piece}
    (found : pieces? text = some (pieces, rest)) : rest.length < text.length := by
  fun_induction pieces? text generalizing pieces rest with
  | case1 => simp at found
  | case2 behind =>
      simp only [Option.some.injEq, Prod.mk.injEq] at found
      simp [← found.2]
  | case3 first second third fourth behind induction =>
      simp only [Option.bind_eq_bind, Option.bind_eq_some_iff, Option.some.injEq,
        Prod.mk.injEq] at found
      rcases found with ⟨_, _, result, step, _, same⟩
      have shorter := induction step
      simp only [List.length_cons]
      subst same
      omega
  | case4 mark behind _ induction =>
      simp only [Option.bind_eq_bind, Option.bind_eq_some_iff, Option.some.injEq,
        Prod.mk.injEq] at found
      rcases found with ⟨_, _, result, step, _, same⟩
      have shorter := induction step
      simp only [List.length_cons]
      subst same
      omega
  | case5 => simp at found
  | case6 character behind _ _ _ _ induction =>
      simp only [Option.bind_eq_bind, Option.bind_eq_some_iff, Option.some.injEq,
        Prod.mk.injEq] at found
      rcases found with ⟨result, step, _, same⟩
      have shorter := induction step
      simp only [List.length_cons]
      subst same
      omega

/-! ## Numbers -/

def fraction? : List Char → Option (Option (List Char) × List Char)
  | '.' :: rest =>
      let (digits, rest) := Text.Digits.split rest
      if digits.isEmpty then none else some (some digits, rest)
  | rest => some (none, rest)

def exponent? : List Char → Option (Option (Bool × List Char) × List Char)
  | [] => some (none, [])
  | mark :: rest =>
      if mark = 'e' ∨ mark = 'E' then
        let (negative, rest) := Binary64.readSign rest
        let (digits, rest) := Text.Digits.split rest
        if digits.isEmpty then none else some (some (negative, digits), rest)
      else some (none, mark :: rest)

theorem fraction?_length {text rest : List Char} {digits : Option (List Char)}
    (found : fraction? text = some (digits, rest)) : rest.length ≤ text.length := by
  unfold fraction? at found
  split at found
  · rename_i behind
    have total := Text.Digits.length_split behind
    dsimp only at found
    split at found
    · simp at found
    · simp only [Option.some.injEq, Prod.mk.injEq] at found
      rw [← found.2, List.length_cons]
      omega
  · simp only [Option.some.injEq, Prod.mk.injEq] at found
    simp [← found.2]

theorem readSign_length (text : List Char) :
    (Binary64.readSign text).2.length ≤ text.length := by
  unfold Binary64.readSign
  split <;> simp

theorem exponent?_length {text rest : List Char} {digits : Option (Bool × List Char)}
    (found : exponent? text = some (digits, rest)) : rest.length ≤ text.length := by
  unfold exponent? at found
  split at found
  · simp only [Option.some.injEq, Prod.mk.injEq] at found
    simp [← found.2]
  · rename_i mark behind
    split at found
    · have sign := readSign_length behind
      have total := Text.Digits.length_split (Binary64.readSign behind).2
      dsimp only at found
      split at found
      · simp at found
      · simp only [Option.some.injEq, Prod.mk.injEq] at found
        rw [← found.2, List.length_cons]
        omega
    · simp only [Option.some.injEq, Prod.mk.injEq] at found
      simp [← found.2]

/-- The digits of a whole part, a zero in front standing alone, and what follows them. -/
def whole : List Char → List Char × List Char
  | '0' :: rest => (['0'], rest)
  | text => Text.Digits.split text

theorem whole_length (text : List Char) :
    (whole text).1.length + (whole text).2.length = text.length := by
  unfold whole
  split
  · simp only [List.length_cons, List.length_nil]
    omega
  · exact Text.Digits.length_split _

def magnitude? (negative : Bool) (text : List Char) : Option (Spelling × List Char) :=
  if (whole text).1.isEmpty then none
  else do
    let (fraction, rest) ← fraction? (whole text).2
    let (exponent, rest) ← exponent? rest
    some (⟨negative, (whole text).1, fraction, exponent⟩, rest)

theorem magnitude?_shorter {negative : Bool} {text rest : List Char} {spelling : Spelling}
    (found : magnitude? negative text = some (spelling, rest)) :
    rest.length < text.length := by
  unfold magnitude? at found
  split at found
  · simp at found
  · rename_i nonempty
    simp only [Option.bind_eq_bind, Option.bind_eq_some_iff, Option.some.injEq,
      Prod.mk.injEq] at found
    rcases found with ⟨fraction, fractionFound, exponent, exponentFound, _, same⟩
    have total := whole_length text
    have fractionLength := fraction?_length fractionFound
    have exponentLength := exponent?_length exponentFound
    have positive : 0 < (whole text).1.length := by
      rw [List.length_pos_iff]
      simpa using nonempty
    rw [← same]
    omega

def number? : List Char → Option (Spelling × List Char)
  | '-' :: rest => magnitude? true rest
  | text => magnitude? false text

theorem number?_shorter {text rest : List Char} {spelling : Spelling}
    (found : number? text = some (spelling, rest)) : rest.length < text.length := by
  unfold number? at found
  split at found
  · have shorter := magnitude?_shorter found
    rw [List.length_cons]
    omega
  · exact magnitude?_shorter found

/-! ## Documents -/

def token? : List Char → Option (Token × List Char)
  | '[' :: rest => some (.openArray, rest)
  | ']' :: rest => some (.closeArray, rest)
  | '\x7b' :: rest => some (.openObject, rest)
  | '\x7d' :: rest => some (.closeObject, rest)
  | ':' :: rest => some (.colon, rest)
  | ',' :: rest => some (.comma, rest)
  | 'n' :: 'u' :: 'l' :: 'l' :: rest => some (.null, rest)
  | 't' :: 'r' :: 'u' :: 'e' :: rest => some (.bool true, rest)
  | 'f' :: 'a' :: 'l' :: 's' :: 'e' :: rest => some (.bool false, rest)
  | '"' :: rest => (pieces? rest).map fun (pieces, rest) =>
      (.string ((join? pieces).map String.ofList), rest)
  | text => (number? text).map fun (spelling, rest) => (.number spelling, rest)

theorem token?_shorter {text rest : List Char} {token : Token}
    (found : token? text = some (token, rest)) : rest.length < text.length := by
  unfold token? at found
  split at found
  case h_10 behind =>
    simp only [Option.map_eq_some_iff, Prod.mk.injEq] at found
    rcases found with ⟨_, step, _, same⟩
    have shorter := pieces?_shorter step
    rw [← same, List.length_cons]
    omega
  case h_11 =>
    simp only [Option.map_eq_some_iff, Prod.mk.injEq] at found
    rcases found with ⟨_, step, _, same⟩
    rw [← same]
    exact number?_shorter step
  all_goals
    simp only [Option.some.injEq, Prod.mk.injEq] at found
    simp only [← found.2, List.length_cons]
    omega

def tokens? (text : List Char) : Option (List Token) :=
  match trimmed : text.dropWhile isGap with
  | [] => some []
  | first :: behind =>
      match found : token? (first :: behind) with
      | none => none
      | some (token, rest) =>
          have shorter : rest.length < text.length := by
            have dropped : (text.dropWhile isGap).length ≤ text.length :=
              (List.dropWhile_sublist isGap).length_le
            rw [trimmed] at dropped
            exact Nat.lt_of_lt_of_le (token?_shorter found) dropped
          (tokens? rest).map (token :: ·)
termination_by text.length

end GroupedReport.Json
