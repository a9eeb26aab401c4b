import TableTalk.Proofs.Except
import TableTalk.Proofs.Json.Numbers
import TableTalk.Proofs.Json.Strings

/-! Values with more text after them. Text that cannot be taken for a part of a value is left over
when the value has been read, and otherwise the outcome is the same, as long as containers are not
nested too deeply where fewer of them may be opened. -/
namespace TableTalk.Json
open TableTalk.Text TableTalk.Number

/-- The text ends, or goes on with white space or the end of an array. -/
def EndsValue (tail : List Char) : Prop := ∀ c ∈ tail.head?, isSpace c = true ∨ c = ']'

/-- What becomes of an outcome with more text at the end and so many containers less to be opened.
A text that is malformed by itself may become anything. -/
inductive Carries {α : Type} (lost : Nat) (tail : List Char) :
    Except Problem (α × List Char) → Except Problem (α × List Char) → Prop where
  | read (value : α) (rest : List Char) :
      Carries lost tail (.ok (value, rest)) (.ok (value, rest ++ tail))
  | error (problem : Problem) : Carries lost tail (.error problem) (.error problem)
  | malformed (reason : Reason) (rest : List Char) (outcome : Except Problem (α × List Char)) :
      Carries lost tail (.error (.malformed reason rest)) outcome
  | deeper (hlost : lost ≠ 0) (outcome : Except Problem (α × List Char)) (isArray : Bool) :
      Carries lost tail outcome (.error (.tooDeep isArray))

variable {α β : Type} {lost fuel fuel' depth : Nat} {tail s rest : List Char}

theorem Carries.bind {x x' : Except Problem (α × List Char)}
    {f f' : α × List Char → Except Problem (β × List Char)} (h : Carries lost tail x x')
    (hf : ∀ value rest, x = .ok (value, rest) →
      Carries lost tail (f (value, rest)) (f' (value, rest ++ tail))) :
    Carries lost tail (x >>= f) (x' >>= f') := by
  cases h with
  | read value rest => exact hf value rest rfl
  | error problem => exact .error problem
  | malformed reason rest outcome => exact .malformed reason rest _
  | deeper hlost outcome isArray => exact .deeper hlost _ isArray

theorem Carries.of_ok {value : α} {outcome : Except Problem (α × List Char)}
    (h : Carries lost tail (.ok (value, rest)) outcome) :
    outcome = .ok (value, rest ++ tail) ∨
      lost ≠ 0 ∧ ∃ isArray, outcome = .error (.tooDeep isArray) := by
  cases h with
  | read => exact .inl rfl
  | deeper hlost _ isArray => exact .inr ⟨hlost, isArray, rfl⟩

theorem Carries.of_error {problem : Problem} {outcome : Except Problem (α × List Char)}
    (h : Carries lost tail (.error problem) outcome)
    (hproblem : ∀ reason left, problem ≠ .malformed reason left) :
    outcome = .error problem ∨ lost ≠ 0 ∧ ∃ isArray, outcome = .error (.tooDeep isArray) := by
  cases h with
  | error => exact .inl rfl
  | malformed reason left => exact absurd rfl (hproblem reason left)
  | deeper hlost _ isArray => exact .inr ⟨hlost, isArray, rfl⟩

section Numbers

theorem EndsValue.cases (h : EndsValue tail) : tail = [] ∨ ∃ c after, tail = c :: after ∧
    (c = ' ' ∨ c = '\t' ∨ c = '\n' ∨ c = '\r' ∨ c = ']') := by
  cases tail with
  | nil => exact .inl rfl
  | cons c after =>
    have hc := h c rfl
    simp only [isSpace, Bool.or_eq_true, beq_iff_eq] at hc
    exact .inr ⟨c, after, rfl, by tauto⟩

/-- Digits end where a value does. -/
theorem spanAsciiDigits_tail (h : EndsValue tail) (s : List Char) :
    spanAsciiDigits (s ++ tail) = ((spanAsciiDigits s).1, (spanAsciiDigits s).2 ++ tail) := by
  induction s with
  | nil =>
    rcases h.cases with rfl | ⟨c, after, rfl, rfl | rfl | rfl | rfl | rfl⟩ <;> rfl
  | cons c rest ih =>
    simp only [spanAsciiDigits, Prod.mk.injEq] at ih
    by_cases hc : isAsciiDigit c = true
    · simp [spanAsciiDigits, hc, ih.1, ih.2]
    · simp [spanAsciiDigits, hc]

theorem readWhole_of_ne {c : Char} (hc : c ≠ '0') (rest : List Char) :
    readWhole (c :: rest) = spanAsciiDigits (c :: rest) := by
  unfold readWhole
  split
  next heq => exact absurd (List.cons.inj heq).1 hc
  next => rfl

theorem readWhole_tail (h : EndsValue tail) (s : List Char) :
    readWhole (s ++ tail) = ((readWhole s).1, (readWhole s).2 ++ tail) := by
  cases s with
  | nil =>
    rcases h.cases with rfl | ⟨c, after, rfl, rfl | rfl | rfl | rfl | rfl⟩ <;> rfl
  | cons c rest =>
    by_cases hc : c = '0'
    · subst hc
      rfl
    · rw [List.cons_append, readWhole_of_ne hc, readWhole_of_ne hc, ← List.cons_append,
        spanAsciiDigits_tail h]

theorem readFraction_of_ne {c : Char} (hc : c ≠ '.') (rest : List Char) :
    readFraction (c :: rest) = ([], c :: rest) := by
  unfold readFraction
  split
  next heq => exact absurd (List.cons.inj heq).1 hc
  next => rfl

theorem readFraction_tail (h : EndsValue tail) (s : List Char) :
    readFraction (s ++ tail) = ((readFraction s).1, (readFraction s).2 ++ tail) := by
  cases s with
  | nil =>
    rcases h.cases with rfl | ⟨c, after, rfl, rfl | rfl | rfl | rfl | rfl⟩ <;> rfl
  | cons c rest =>
    by_cases hc : c = '.'
    · subst hc
      rw [List.cons_append, readFraction, readFraction, spanAsciiDigits_tail h rest]
      rcases spanAsciiDigits rest with ⟨_ | ⟨digit, digits⟩, after⟩ <;> rfl
    · rw [List.cons_append, readFraction_of_ne hc, readFraction_of_ne hc, List.cons_append]

theorem splitSign_of_ne {c : Char} (hminus : c ≠ '-') (hplus : c ≠ '+') (rest : List Char) :
    splitSign (c :: rest) = (false, c :: rest) := by
  simp [splitSign, hminus, hplus]

theorem splitSign_tail (h : EndsValue tail) (s : List Char) :
    splitSign (s ++ tail) = ((splitSign s).1, (splitSign s).2 ++ tail) := by
  cases s with
  | nil =>
    rcases h.cases with rfl | ⟨c, after, rfl, rfl | rfl | rfl | rfl | rfl⟩ <;> rfl
  | cons c rest =>
    rw [List.cons_append]
    by_cases hminus : c = '-'
    · subst hminus
      rfl
    by_cases hplus : c = '+'
    · subst hplus
      rfl
    · rw [splitSign_of_ne hminus hplus, splitSign_of_ne hminus hplus, List.cons_append]

theorem readPower_tail (h : EndsValue tail) (s : List Char) :
    readPower (s ++ tail) = ((readPower s).1, (readPower s).2 ++ tail) := by
  cases s with
  | nil =>
    rcases h.cases with rfl | ⟨c, after, rfl, rfl | rfl | rfl | rfl | rfl⟩ <;> rfl
  | cons c rest =>
    simp only [List.cons_append, readPower]
    split_ifs
    · rw [splitSign_tail h]
      simp only
      rw [spanAsciiDigits_tail h]
      rcases spanAsciiDigits (splitSign rest).2 with ⟨_ | ⟨digit, digits⟩, after⟩ <;> rfl
    · rfl

/-- A number ends where a value does. -/
theorem readNumber_tail (h : EndsValue tail) (negative : Bool) (s start start' : List Char) :
    Carries lost tail (readNumber negative s start) (readNumber negative (s ++ tail) start') := by
  unfold readNumber
  rw [readWhole_tail h]
  rcases readWhole s with ⟨_ | ⟨digit, digits⟩, rest⟩
  · exact .malformed _ _ _
  · simp only [readFraction_tail h, readPower_tail h]
    split_ifs
    · cases readInteger negative (digit :: digits) with
      | ok n => exact .read _ _
      | error cause => exact .error _
    · exact .read _ _

/-- No word is the beginning of another one. -/
theorem words_apart : (words.map Prod.fst).Pairwise fun word other =>
    ¬ word <+: other ∧ ¬ other <+: word := by decide

/-- A word at the start of a text stays the one that is found there. -/
theorem readWord?_tail {value : Value} (hword : readWord? s = some (value, rest))
    (tail : List Char) : readWord? (s ++ tail) = some (value, rest ++ tail) := by
  have happart := words_apart
  unfold readWord? at hword ⊢
  generalize words = candidates at hword happart
  induction candidates with
  | nil => cases hword
  | cons word others ih =>
    rw [List.map_cons, List.pairwise_cons] at happart
    rw [List.findSome?_cons] at hword ⊢
    by_cases hprefix : word.1 <+: s
    · have hlonger : word.1 <+: s ++ tail := hprefix.trans (List.prefix_append s tail)
      rw [if_pos (List.isPrefixOf_iff_prefix.mpr hprefix)] at hword
      obtain ⟨rfl, rfl⟩ := Prod.mk.inj (Option.some.inj hword)
      rw [if_pos (List.isPrefixOf_iff_prefix.mpr hlonger)]
      simp only [List.drop_append_of_le_length hprefix.length_le]
    · rw [if_neg fun h => hprefix (List.isPrefixOf_iff_prefix.mp h)] at hword
      obtain ⟨other, hother, hfound⟩ := List.exists_of_findSome?_eq_some hword
      split_ifs at hfound with hfirst
      have hlonger : other.1 <+: s ++ tail :=
        (List.isPrefixOf_iff_prefix.mp hfirst).trans (List.prefix_append s tail)
      obtain ⟨hword', hother'⟩ := happart.1 other.1 (List.mem_map_of_mem hother)
      have hnone : ¬ word.1 <+: s ++ tail := fun h =>
        (List.prefix_or_prefix_of_prefix h hlonger).elim hword' hother'
      rw [if_neg fun h => hnone (List.isPrefixOf_iff_prefix.mp h)]
      exact ih hword happart.2

/-- A text that begins with no digit is no number. -/
theorem readNumber_eq_malformed {negative : Bool} (start : List Char)
    (h : ∀ c ∈ s.head?, isAsciiDigit c = false) :
    readNumber negative s start = .error (.malformed .valueExpected start) := by
  have hwhole : (readWhole s).1 = [] := by
    cases s with
    | nil => rfl
    | cons c rest =>
      have hc := h c rfl
      have hzero : c ≠ '0' := by
        rintro rfl
        cases hc
      rw [readWhole_of_ne hzero, spanAsciiDigits, List.takeWhile_cons, hc]
      rfl
  unfold readNumber
  rcases hread : readWhole s with ⟨_ | ⟨digit, digits⟩, rest⟩
  · rfl
  · rw [hread] at hwhole
    cases hwhole

theorem readPlain_word {found : Value × List Char} (hword : readWord? s = some found) :
    readPlain s = .ok found := by
  unfold readPlain
  rw [hword]

theorem readPlain_minus (hword : readWord? ('-' :: rest) = none) :
    readPlain ('-' :: rest) = readNumber true rest ('-' :: rest) := by
  rw [readPlain, hword]

theorem readPlain_unsigned {c : Char} (hc : c ≠ '-') (hword : readWord? (c :: rest) = none) :
    readPlain (c :: rest) = readNumber false (c :: rest) (c :: rest) := by
  simp [readPlain, hword, hc]

/-- A word or a number ends where a value does. Only a digit makes a number, and none is in a word. -/
theorem readPlain_tail (h : EndsValue tail) (s : List Char) :
    Carries lost tail (readPlain s) (readPlain (s ++ tail)) := by
  cases hword : readWord? s with
  | some found =>
    rw [readPlain_word hword, readPlain_word (readWord?_tail hword tail)]
    exact .read _ _
  | none =>
    rcases s with _ | ⟨c, rest⟩
    · exact .malformed _ _ _
    by_cases hminus : c = '-'
    · subst hminus
      rw [readPlain_minus hword]
      rcases rest with _ | ⟨d, rest⟩
      · exact .malformed _ _ _
      by_cases hd : isAsciiDigit d = true
      · obtain ⟨-, hnone⟩ := readWord?_digit hd (rest ++ tail)
        rw [List.cons_append, List.cons_append, readPlain_minus hnone]
        exact readNumber_tail h true (d :: rest) _ _
      · rw [readNumber_eq_malformed _ (by simpa using hd)]
        exact .malformed _ _ _
    · rw [readPlain_unsigned hminus hword]
      by_cases hc : isAsciiDigit c = true
      · obtain ⟨hnone, -⟩ := readWord?_digit hc (rest ++ tail)
        rw [List.cons_append, readPlain_unsigned hminus hnone]
        exact readNumber_tail h false (c :: rest) _ _
      · rw [readNumber_eq_malformed _ (by simpa using hc)]
        exact .malformed _ _ _

end Numbers

section Strings

theorem readUnit_short (h : s.length ≤ 5) :
    readUnit s = .error (.malformed .badUnitEscape s) := by
  have hempty : ((s.drop 1).drop 4).isEmpty = true := by simpa using h
  simp only [readUnit, if_pos hempty]

/-- After a code unit there is something left, and more after it with more text. -/
theorem readUnit_tail (s tail : List Char) :
    (∃ reason left, readUnit s = .error (.malformed reason left)) ∨
    ∃ unit rest, readUnit s = .ok (unit, rest) ∧ readUnit (s ++ tail) = .ok (unit, rest ++ tail) := by
  rcases Nat.lt_or_ge 5 s.length with hlong | hshort
  · have hdrop : (s ++ tail).drop 1 = s.drop 1 ++ tail :=
      List.drop_append_of_le_length (by omega)
    have hrest : (s.drop 1 ++ tail).drop 4 = (s.drop 1).drop 4 ++ tail :=
      List.drop_append_of_le_length (by rw [List.length_drop]; omega)
    have htake : (s.drop 1 ++ tail).take 4 = (s.drop 1).take 4 :=
      List.take_append_of_le_length (by rw [List.length_drop]; omega)
    have hleft : ¬ ((s.drop 1).drop 4).isEmpty = true := by simpa using hlong
    have hmore : ¬ ((s.drop 1).drop 4 ++ tail).isEmpty = true := by
      simp only [List.isEmpty_iff, List.append_eq_nil_iff] at hleft ⊢
      exact fun h => hleft h.1
    cases hunit : unit? ((s.drop 1).take 4) with
    | none => exact .inl ⟨.badUnitEscape, s, by simp only [readUnit, if_neg hleft, hunit]⟩
    | some unit =>
      refine .inr ⟨unit, (s.drop 1).drop 4, by simp only [readUnit, if_neg hleft, hunit], ?_⟩
      simp only [readUnit, hdrop, hrest, htake, hunit, if_neg hmore]
  · exact .inl ⟨_, _, readUnit_short hshort⟩

/-- A text that ends in an escape with nothing after it, which is not the rest of a string. -/
def EndsInEscape (s : List Char) : Prop :=
  s = [] ∨ s = ['\\'] ∨ ∃ digits : List Char, s = '\\' :: 'u' :: digits ∧ digits.length ≤ 4

theorem EndsInEscape.readStringFrom (h : EndsInEscape s) (start : List Char) (fuel : Nat)
    (read : Symbols) : ∃ reason left,
      readStringFrom start fuel read s = .error (.malformed reason left) := by
  cases fuel with
  | zero => exact ⟨_, _, rfl⟩
  | succ fuel =>
    rcases h with rfl | rfl | ⟨digits, rfl, hdigits⟩
    · exact ⟨_, _, rfl⟩
    · exact ⟨_, _, rfl⟩
    · have hunit := readUnit_short (s := 'u' :: digits) (by rw [List.length_cons]; omega)
      refine ⟨.badUnitEscape, 'u' :: digits, ?_⟩
      simp only [Json.readStringFrom, readEscapedUnit, hunit, Except.error_bind]

theorem EndsInEscape.readLowHalf (h : EndsInEscape s) : readLowHalf s = .ok none := by
  rcases h with rfl | rfl | ⟨digits, rfl, hdigits⟩
  · rfl
  · rfl
  · have hempty : (digits.drop 4).isEmpty = true := by simpa using hdigits
    simp only [Json.readLowHalf, if_pos hempty]

theorem readLowHalf_of_not_escape (h : ∀ digits, s ≠ '\\' :: 'u' :: digits) :
    readLowHalf s = .ok none := by
  unfold readLowHalf
  split
  next digits => exact absurd rfl (h digits)
  next => rfl

/-- The low half in an escape is found again, and none where there is none, unless the text ends too
early to be the rest of a string. -/
theorem readLowHalf_tail (s tail : List Char) :
    (∃ reason left, readLowHalf s = .error (.malformed reason left)) ∨ EndsInEscape s ∨
    (readLowHalf s = .ok none ∧ readLowHalf (s ++ tail) = .ok none) ∨
    ∃ unit rest, readLowHalf s = .ok (some (unit, rest)) ∧
      readLowHalf (s ++ tail) = .ok (some (unit, rest ++ tail)) := by
  by_cases hescape : ∃ digits, s = '\\' :: 'u' :: digits
  · obtain ⟨digits, rfl⟩ := hescape
    rcases Nat.lt_or_ge 4 digits.length with hlong | hshort
    · have hleft : ¬ (digits.drop 4).isEmpty = true := by simpa using hlong
      have hmore : ¬ ((digits ++ tail).drop 4).isEmpty = true := by
        simp only [List.isEmpty_iff, List.drop_eq_nil_iff, List.length_append]
        omega
      simp only [List.cons_append, readLowHalf, if_neg hleft, if_neg hmore]
      rcases readUnit_tail ('u' :: digits) tail with ⟨reason, left, hunit⟩ | ⟨unit, rest, hunit, hunit'⟩
      · exact .inl ⟨reason, left, by rw [hunit, Except.error_bind]⟩
      · rw [List.cons_append] at hunit'
        rw [hunit, hunit', Except.ok_bind, Except.ok_bind]
        cases isLowHalf unit with
        | true => exact .inr (.inr (.inr ⟨unit, rest, rfl, rfl⟩))
        | false => exact .inr (.inr (.inl ⟨rfl, rfl⟩))
    · exact .inr (.inl (.inr (.inr ⟨digits, rfl, hshort⟩)))
  · by_cases hends : EndsInEscape s
    · exact .inr (.inl hends)
    · refine .inr (.inr (.inl ⟨readLowHalf_of_not_escape fun digits h => hescape ⟨digits, h⟩,
        readLowHalf_of_not_escape ?_⟩))
      rintro digits heq
      rcases s with _ | ⟨a, _ | ⟨b, rest⟩⟩
      · exact hends (.inl rfl)
      · obtain ⟨rfl, -⟩ := List.cons.inj heq
        exact hends (.inr (.inl rfl))
      · obtain ⟨rfl, hrest⟩ := List.cons.inj heq
        obtain ⟨rfl, -⟩ := List.cons.inj hrest
        exact hescape ⟨rest, rfl⟩

theorem readEscapedUnit_tail (s tail : List Char) :
    (∃ reason left, readEscapedUnit s = .error (.malformed reason left)) ∨
    ∃ symbol rest, readEscapedUnit s = .ok (symbol, rest) ∧
      (EndsInEscape rest ∨ readEscapedUnit (s ++ tail) = .ok (symbol, rest ++ tail)) := by
  unfold readEscapedUnit
  rcases readUnit_tail s tail with ⟨reason, left, hunit⟩ | ⟨unit, rest, hunit, hunit'⟩
  · exact .inl ⟨reason, left, by rw [hunit, Except.error_bind]⟩
  · rw [hunit, hunit']
    simp only [Except.ok_bind]
    cases isHighHalf unit with
    | false => exact .inr ⟨symbolOfUnit unit, rest, rfl, .inr rfl⟩
    | true =>
      rcases readLowHalf_tail rest tail with
        ⟨reason, left, hlow⟩ | hends | ⟨hlow, hlow'⟩ | ⟨low, after, hlow, hlow'⟩
      · exact .inl ⟨reason, left, by rw [hlow]; rfl⟩
      · exact .inr ⟨.half unit, rest, by rw [hends.readLowHalf]; rfl, .inl hends⟩
      · exact .inr ⟨.half unit, rest, by rw [hlow]; rfl, .inr (by rw [hlow']; rfl)⟩
      · exact .inr ⟨_, after, by rw [hlow]; rfl, .inr (by rw [hlow']; rfl)⟩

/-- With enough fuel a string is read alike whatever follows it. -/
theorem readStringFrom_tail (hfuel : fuel ≤ fuel') (start start' : List Char) (read : Symbols)
    (s : List Char) : Carries lost tail (readStringFrom start fuel read s)
      (readStringFrom start' fuel' read (s ++ tail)) := by
  induction fuel generalizing fuel' read s with
  | zero => exact .malformed _ _ _
  | succ fuel ih =>
    obtain ⟨more, rfl⟩ := Nat.exists_eq_add_of_lt hfuel
    have hfuel := Nat.le_add_right fuel more
    rcases s with _ | ⟨c, rest⟩
    · exact .malformed _ _ _
    rw [List.cons_append]
    by_cases hquote : c = '"'
    · subst hquote
      exact .read _ _
    by_cases hslash : c = '\\'
    · subst hslash
      rcases rest with _ | ⟨e, after⟩
      · exact .malformed _ _ _
      rw [List.cons_append]
      by_cases hunit : e = 'u'
      · subst hunit
        simp only [readStringFrom]
        rcases readEscapedUnit_tail ('u' :: after) tail with
          ⟨reason, left, hread⟩ | ⟨symbol, left, hread, hends | hread'⟩
        · rw [hread]
          exact .malformed _ _ _
        · obtain ⟨reason, last, hmalformed⟩ := hends.readStringFrom start fuel (symbol :: read)
          rw [hread, Except.ok_bind, hmalformed]
          exact .malformed _ _ _
        · rw [List.cons_append] at hread'
          rw [hread, hread']
          exact ih hfuel _ _
      · cases hescape : simpleEscape? e with
        | some d =>
          rw [readStringFrom_escape _ hunit hescape, readStringFrom_escape _ hunit hescape]
          exact ih hfuel _ _
        | none =>
          simp only [readStringFrom, hescape]
          exact .malformed _ _ _
    · rcases Nat.lt_or_ge c.toNat 32 with hcontrol | hvisible
      · rw [readStringFrom, if_pos hcontrol]
        · exact .malformed _ _ _
        · exact hquote
        · exact hslash
      · rw [readStringFrom_cons _ hquote hslash hvisible, readStringFrom_cons _ hquote hslash hvisible]
        exact ih hfuel _ _

theorem readString_tail (s : List Char) :
    Carries lost tail (readString s) (readString (s ++ tail)) := by
  rcases s with _ | ⟨c, rest⟩
  · exact .malformed _ _ _
  · apply readStringFrom_tail
    rw [List.length_append]
    exact Nat.le_add_right _ _

end Strings

section Readers

theorem skipSpace_tail (s tail : List Char) : skipSpace s = [] ∨
    ∃ c rest, skipSpace s = c :: rest ∧ skipSpace (s ++ tail) = c :: (rest ++ tail) := by
  induction s with
  | nil => exact .inl rfl
  | cons c rest ih =>
    rw [List.cons_append, skipSpace, skipSpace]
    split_ifs
    · exact ih
    · exact .inr ⟨c, rest, rfl, rfl⟩

/-- What is read after white space is read alike, if there has to be anything. -/
theorem Carries.skipSpace {R R' : List Char → Except Problem (α × List Char)}
    (hnil : ∃ reason left, R [] = .error (.malformed reason left))
    (h : ∀ c rest, Carries lost tail (R (c :: rest)) (R' (c :: (rest ++ tail)))) (s : List Char) :
    Carries lost tail (R (skipSpace s)) (R' (skipSpace (s ++ tail))) := by
  rcases skipSpace_tail s tail with hempty | ⟨c, rest, hrest, hrest'⟩
  · obtain ⟨reason, left, hmalformed⟩ := hnil
    rw [hempty, hmalformed]
    exact .malformed _ _ _
  · rw [hrest, hrest']
    exact h c rest

/-- The readers with some fuel and with more of it, and with more text. -/
structure ReadsOn (lost : Nat) (tail : List Char) (fuel : Nat) : Prop where
  value : ∀ {fuel'} (_ : fuel ≤ fuel') (depth : Nat) (s : List Char),
    Carries lost tail (readValue fuel (depth + lost) s) (readValue fuel' depth (s ++ tail))
  items : ∀ {fuel'} (_ : fuel ≤ fuel') (depth : Nat) (items : List Value) (s : List Char),
    Carries lost tail (readItems fuel (depth + lost) items s)
      (readItems fuel' depth items (s ++ tail))
  members : ∀ {fuel'} (_ : fuel ≤ fuel') (depth : Nat) (members : List (Symbols × Value))
    (s : List Char), Carries lost tail (readMembers fuel (depth + lost) members s)
      (readMembers fuel' depth members (s ++ tail))

theorem readValue_nil (fuel depth : Nat) :
    ∃ reason left, readValue fuel depth [] = .error (.malformed reason left) := by
  cases fuel with
  | zero => exact ⟨_, _, rfl⟩
  | succ fuel => exact ⟨_, _, rfl⟩

theorem readItems_nil (fuel depth : Nat) (items : List Value) :
    ∃ reason left, readItems fuel depth items [] = .error (.malformed reason left) := by
  cases fuel with
  | zero => exact ⟨_, _, rfl⟩
  | succ fuel =>
    obtain ⟨reason, left, hvalue⟩ := readValue_nil fuel depth
    exact ⟨reason, left, by rw [readItems, hvalue, Except.error_bind]⟩

theorem readMembers_nil (fuel depth : Nat) (members : List (Symbols × Value)) :
    ∃ reason left, readMembers fuel depth members [] = .error (.malformed reason left) := by
  cases fuel with
  | zero => exact ⟨_, _, rfl⟩
  | succ fuel => exact ⟨_, _, rfl⟩

variable {more : Nat}

theorem readArray_tail (h : ReadsOn lost tail fuel) (depth : Nat) (s : List Char) :
    Carries lost tail (readValue (fuel + 1) (depth + lost) ('[' :: s))
      (readValue (fuel + more + 1) depth ('[' :: (s ++ tail))) := by
  simp only [readValue]
  rcases depth with _ | depth
  · rcases lost with _ | lost
    · exact .error _
    · exact .deeper (Nat.succ_ne_zero lost) _ _
  · rw [Nat.add_right_comm]
    simp only
    rcases skipSpace_tail s tail with hempty | ⟨c, rest, hrest, hrest'⟩
    · obtain ⟨reason, left, hitems⟩ := readItems_nil fuel (depth + lost) []
      simp only [hempty, hitems]
      exact .malformed _ _ _
    · rw [hrest, hrest']
      by_cases hc : c = ']'
      · subst hc
        exact .read _ _
      · simpa [hc] using h.items (Nat.le_add_right _ more) depth [] (c :: rest)

theorem readObject_tail (h : ReadsOn lost tail fuel) (depth : Nat) (s : List Char) :
    Carries lost tail (readValue (fuel + 1) (depth + lost) ('\x7b' :: s))
      (readValue (fuel + more + 1) depth ('\x7b' :: (s ++ tail))) := by
  simp only [readValue]
  rcases depth with _ | depth
  · rcases lost with _ | lost
    · exact .error _
    · exact .deeper (Nat.succ_ne_zero lost) _ _
  · rw [Nat.add_right_comm]
    simp only
    rcases skipSpace_tail s tail with hempty | ⟨c, rest, hrest, hrest'⟩
    · obtain ⟨reason, left, hmembers⟩ := readMembers_nil fuel (depth + lost) []
      simp only [hempty, hmembers]
      exact .malformed _ _ _
    · rw [hrest, hrest']
      by_cases hc : c = '\x7d'
      · subst hc
        exact .read _ _
      · simpa [hc] using h.members (Nat.le_add_right _ more) depth [] (c :: rest)

theorem readValue_tail (htail : EndsValue tail) (h : ReadsOn lost tail fuel) (depth : Nat)
    (s : List Char) : Carries lost tail (readValue (fuel + 1) (depth + lost) s)
      (readValue (fuel + more + 1) depth (s ++ tail)) := by
  rcases s with _ | ⟨c, rest⟩
  · exact .malformed _ _ _
  by_cases hquote : c = '"'
  · subst hquote
    simp only [List.cons_append, readValue]
    exact (readString_tail ('"' :: rest)).bind fun text rest _ => .read _ _
  by_cases harray : c = '['
  · subst harray
    exact readArray_tail h depth rest
  by_cases hobject : c = '\x7b'
  · subst hobject
    exact readObject_tail h depth rest
  · simpa [readValue, hquote, harray, hobject] using readPlain_tail htail (c :: rest)

theorem readItems_tail (h : ReadsOn lost tail fuel) (depth : Nat) (items : List Value)
    (s : List Char) : Carries lost tail (readItems (fuel + 1) (depth + lost) items s)
      (readItems (fuel + more + 1) depth items (s ++ tail)) := by
  simp only [readItems]
  refine (h.value (Nat.le_add_right _ more) depth s).bind fun item rest _ => ?_
  simp only
  rcases skipSpace_tail rest tail with hempty | ⟨c, after, hafter, hafter'⟩
  · rw [hempty]
    exact .malformed _ _ _
  · rw [hafter, hafter']
    by_cases hclose : c = ']'
    · subst hclose
      exact .read _ _
    by_cases hcomma : c = ','
    · subst hcomma
      exact .skipSpace (readItems_nil fuel (depth + lost) _)
        (fun c rest => h.items (Nat.le_add_right _ more) depth _ (c :: rest)) after
    · simpa [hclose, hcomma] using .malformed _ _ _

theorem readMembers_tail (h : ReadsOn lost tail fuel) (depth : Nat)
    (members : List (Symbols × Value)) (s : List Char) :
    Carries lost tail (readMembers (fuel + 1) (depth + lost) members s)
      (readMembers (fuel + more + 1) depth members (s ++ tail)) := by
  rcases s with _ | ⟨c, rest⟩
  · exact .malformed _ _ _
  by_cases hquote : c = '"'
  · subst hquote
    simp only [List.cons_append, readMembers]
    refine (readString_tail ('"' :: rest)).bind fun name rest _ => ?_
    simp only
    rcases skipSpace_tail rest tail with hempty | ⟨c, after, hafter, hafter'⟩
    · rw [hempty]
      exact .malformed _ _ _
    rw [hafter, hafter']
    by_cases hcolon : c = ':'
    · subst hcolon
      refine Carries.bind (.skipSpace (readValue_nil fuel (depth + lost))
        (fun c rest => h.value (Nat.le_add_right _ more) depth (c :: rest)) after)
        fun value rest _ => ?_
      simp only
      rcases skipSpace_tail rest tail with hempty | ⟨c, after, hafter, hafter'⟩
      · rw [hempty]
        exact .malformed _ _ _
      rw [hafter, hafter']
      by_cases hclose : c = '\x7d'
      · subst hclose
        exact .read _ _
      by_cases hcomma : c = ','
      · subst hcomma
        exact .skipSpace (readMembers_nil fuel (depth + lost) _)
          (fun c rest => h.members (Nat.le_add_right _ more) depth _ (c :: rest)) after
      · simpa [hclose, hcomma] using .malformed _ _ _
    · simpa [hcolon] using .malformed _ _ _
  · simpa [readMembers, hquote] using .malformed _ _ _

/-- By induction on the fuel, which all three readers take one unit of. -/
theorem readsOn (lost : Nat) (htail : EndsValue tail) (fuel : Nat) : ReadsOn lost tail fuel := by
  induction fuel with
  | zero => exact ⟨fun _ _ _ => .malformed _ _ _, fun _ _ _ _ => .malformed _ _ _,
      fun _ _ _ _ => .malformed _ _ _⟩
  | succ fuel ih =>
    constructor
    · intro fuel' hfuel depth s
      obtain ⟨more, rfl⟩ := Nat.exists_eq_add_of_lt hfuel
      exact readValue_tail htail ih depth s
    · intro fuel' hfuel depth items s
      obtain ⟨more, rfl⟩ := Nat.exists_eq_add_of_lt hfuel
      exact readItems_tail ih depth items s
    · intro fuel' hfuel depth members s
      obtain ⟨more, rfl⟩ := Nat.exists_eq_add_of_lt hfuel
      exact readMembers_tail ih depth members s

/-- A value with more text, more fuel and so many containers less. -/
theorem readValue_carries (htail : EndsValue tail) (hfuel : fuel ≤ fuel') {less : Nat}
    (hdepth : depth = less + lost) (s : List Char) :
    Carries lost tail (readValue fuel depth s) (readValue fuel' less (s ++ tail)) :=
  hdepth ▸ (readsOn lost htail fuel).value hfuel less s

/-- An array that is not empty. -/
theorem readValue_bracket {c : Char} (hs : skipSpace s = c :: rest) (hc : c ≠ ']') :
    readValue (fuel + 1) (depth + 1) ('[' :: s) = readItems fuel depth [] (c :: rest) := by
  simp [readValue, hs, hc]

theorem readItems_of_error {problem : Problem} {items : List Value}
    (h : readValue fuel depth s = .error problem) :
    readItems (fuel + 1) depth items s = .error problem := by
  rw [readItems, h, Except.error_bind]

end Readers

end TableTalk.Json
