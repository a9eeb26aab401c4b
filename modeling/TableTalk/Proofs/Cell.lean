import TableTalk.Cell
import TableTalk.Proofs.Number.Literal
import TableTalk.Proofs.Text.Symbols

/-! The text that a cell holds, and the number of a cell: it is always told, but for a text that
spells too long an integer. -/
namespace TableTalk
open TableTalk.Text

/-- The text that a cell holds. -/
def Cell.symbols? : Cell → Option Symbols
  | .text s => some (symbols s)
  | .broken s => some s.symbols
  | _ => none

theorem Cell.ofSymbols_symbols (s : String) : ofSymbols (symbols s) = .text s := by
  rw [ofSymbols, dif_pos (isWhole_symbols s), shown_symbols]

theorem Cell.ofSymbols_of_broken (s : BrokenText) : ofSymbols s.symbols = .broken s := by
  rw [ofSymbols, dif_neg (by simp [s.isBroken])]

/-- A cell holds a text exactly if it is the cell of the text. -/
theorem Cell.symbols?_eq_some_iff {cell : Cell} {symbols : Symbols} :
    cell.symbols? = some symbols ↔ cell = ofSymbols symbols := by
  constructor
  · intro h
    cases cell with
    | text s =>
      obtain rfl := Option.some.inj h
      exact (ofSymbols_symbols s).symm
    | broken s =>
      obtain rfl := Option.some.inj h
      exact (ofSymbols_of_broken s).symm
    | _ => cases h
  · rintro rfl
    unfold ofSymbols
    split
    case isTrue hwhole => rw [symbols?, symbols_shown hwhole]
    case isFalse => rfl

theorem Cell.symbols?_ofSymbols (symbols : Symbols) : (ofSymbols symbols).symbols? = some symbols :=
  symbols?_eq_some_iff.mpr rfl

theorem Cell.ofSymbols_injective : Function.Injective ofSymbols := fun a b h => by
  have hsymbols := congrArg symbols? h
  rw [symbols?_ofSymbols, symbols?_ofSymbols] at hsymbols
  exact Option.some.inj hsymbols

theorem Cell.isLegal_ofSymbols (symbols : Symbols) : (ofSymbols symbols).isLegal = true := by
  unfold ofSymbols
  split <;> rfl

theorem Cell.ofSymbols_ne_int (symbols : Symbols) (n : Int) : ofSymbols symbols ≠ .int n := by
  intro h
  have hnone := symbols?_eq_some_iff.mpr h.symm
  cases hnone

theorem Cell.renderText_ofSymbols (symbols : Symbols) :
    (ofSymbols symbols).renderText = .ok symbols := by
  unfold ofSymbols
  split
  case isTrue hwhole => simp [renderText, plainText, symbols_shown hwhole]
  case isFalse => rfl

/-- Whether a cell can be read as a number. -/
def Cell.denotesNumber (cell : Cell) : Bool :=
  match cell.toNumber? with
  | .ok (some _) => true
  | _ => false

/-- A text that would be an integer if it had fewer digits. -/
def Cell.IsOverlong (cell : Cell) : Prop :=
  ∃ s count, cell = .text s ∧ Number.IsLiteral s.toList count ∧ digitLimit < count

theorem Cell.toNumber?_eq_error_iff {cell : Cell} :
    (∃ fault, cell.toNumber? = .error fault) ↔ cell.IsOverlong := by
  cases cell with
  | text s =>
    simp only [Cell.toNumber?, Cell.IsOverlong, Number.ofText?_eq_error_iff, Cell.text.injEq]
    constructor
    · rintro ⟨fault, count, hs, hlimit, -⟩
      exact ⟨s, count, rfl, hs, hlimit⟩
    · rintro ⟨_, count, rfl, hs, hlimit⟩
      exact ⟨_, count, hs, hlimit, rfl⟩
  | _ => simp [Cell.toNumber?, Cell.IsOverlong]

theorem Cell.exists_toNumber?_eq_ok {cell : Cell} (h : ¬ cell.IsOverlong) :
    ∃ number, cell.toNumber? = .ok number := by
  cases hnumber : cell.toNumber? with
  | ok number => exact ⟨number, rfl⟩
  | error fault => exact absurd (Cell.toNumber?_eq_error_iff.mp ⟨fault, hnumber⟩) h

/-- A text with no more characters than an integer may have digits is not overlong. -/
theorem Cell.not_isOverlong_of_length {s : String} (h : s.toList.length ≤ digitLimit) :
    ¬ (Cell.text s).IsOverlong := by
  rintro ⟨_, count, heq, hliteral, hlimit⟩
  cases heq
  have hlength := hliteral.le_length
  omega

/-- A text that begins with a bracket is no integer, however long. -/
theorem Cell.not_isOverlong_of_bracket {c : Char} {s : List Char} (hc : c = '[' ∨ c = '\x7b') :
    ¬ (Cell.text (String.ofList (c :: s))).IsOverlong := by
  have hblank : isBlank c = false := by rcases hc with rfl | rfl <;> decide
  have hdigit : isDigit c = false := by rcases hc with rfl | rfl <;> decide
  have hsign : c ≠ '-' ∧ c ≠ '+' := by rcases hc with rfl | rfl <;> decide
  rintro ⟨_, count, heq, ⟨sign, hmem, digits, htrim, hdigits, rfl⟩, hlimit⟩
  obtain rfl := Cell.text.inj heq
  obtain ⟨after, hafter⟩ := Number.trim_cons hblank s
  rw [String.toList_ofList, hafter] at htrim
  simp only [Number.signs, List.mem_cons, List.not_mem_nil, or_false] at hmem
  rcases hmem with rfl | rfl | rfl
  · have hfirst := hdigits c (by rw [← List.nil_append digits, ← htrim]; exact List.mem_cons_self)
    exact Bool.false_ne_true (hdigit.symm.trans hfirst)
  · exact hsign.1 (List.cons.inj htrim).1
  · exact hsign.2 (List.cons.inj htrim).1

end TableTalk
