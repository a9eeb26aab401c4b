import TableTalk.Proofs.Cascade.Stages
import TableTalk.Proofs.Cell
import TableTalk.Proofs.Number.Binary

/-! The texts that cells show. Only integers beyond the limit on digits have none, on their own or
within a list; and a text that is shown is overlong only if the cell is that text. -/
namespace TableTalk
open TableTalk.Text TableTalk.Number

namespace Number

/-- A text with a character that is no part of a literal. -/
theorem not_isLiteral_of_mem {s : List Char} {c : Char} (hc : c ∈ s) (hblank : isBlank c = false)
    (hdigit : isDigit c = false) (hsign : c ≠ '-' ∧ c ≠ '+') (count : Nat) :
    ¬ IsLiteral s count := by
  rintro ⟨sign, hmem, digits, htrim, hdigits, -⟩
  have hmember := mem_trim hc hblank
  rw [htrim, List.mem_append] at hmember
  rcases hmember with hmember | hmember
  · simp only [signs, List.mem_cons, List.not_mem_nil, or_false] at hmem
    rcases hmem with rfl | rfl | rfl
    · cases hmember
    · exact hsign.1 (List.mem_singleton.mp hmember)
    · exact hsign.2 (List.mem_singleton.mp hmember)
  · exact Bool.false_ne_true (hdigit.symm.trans (hdigits c hmember))

theorem point_mem_positional (digits : List Char) (point : Int) :
    '.' ∈ positional digits point := by
  unfold positional
  split_ifs <;> simp

theorem mark_mem_scientific (format : FloatFormat) (digits : List Char) (point : Int) :
    'e' ∈ scientific format digits point := by
  simp [scientific]

/-- A float is never written like an integer. -/
theorem not_isLiteral_floatText (x : Float) (count : Nat) :
    ¬ IsLiteral (floatText x).toList count := by
  obtain ⟨c, hc, hmem⟩ : ∃ c ∈ ['n', 'i', '.', 'e'], c ∈ (floatText x).toList := by
    unfold floatText
    split
    case h_1 => exact ⟨'n', by decide, by decide⟩
    case h_2 negative _ => exact ⟨'i', by decide, by cases negative <;> decide⟩
    case h_3 negative mantissa exponent _ =>
      have hfinite : '.' ∈ writeFinite plainFormat mantissa exponent ∨
          'e' ∈ writeFinite plainFormat mantissa exponent := by
        unfold writeFinite
        split_ifs
        · exact .inl (by decide)
        · dsimp only
          split_ifs
          · exact .inl (point_mem_positional _ _)
          · exact .inr (mark_mem_scientific _ _ _)
      rcases hfinite with h | h
      · exact ⟨'.', by decide, by cases negative <;> simp [withSign, h]⟩
      · exact ⟨'e', by decide, by cases negative <;> simp [withSign, h]⟩
  have hkind : ∀ c ∈ ['n', 'i', '.', 'e'],
      isBlank c = false ∧ isDigit c = false ∧ c ≠ '-' ∧ c ≠ '+' := by
    simp only [List.forall_mem_cons, List.not_mem_nil, false_implies, forall_const]
    decide
  obtain ⟨hblank, hdigit, hsign⟩ := hkind c hc
  exact not_isLiteral_of_mem hmem hblank hdigit hsign count

end Number

namespace Cell

variable {cell : Cell} {text : Symbols} {bound : Nat}

mutual

/-- All integers in a cell are below a bound, also those in a list. -/
def IntegersBelow (bound : Nat) : Cell → Prop
  | .int n => n.natAbs < bound
  | .list items => ItemsBelow bound items
  | _ => True

def ItemsBelow (bound : Nat) : List Cell → Prop
  | [] => True
  | item :: rest => item.IntegersBelow bound ∧ ItemsBelow bound rest

end

mutual

theorem exists_itemText (hbound : bound ≤ 10 ^ digitLimit) :
    ∀ cell : Cell, cell.IntegersBelow bound → ∃ text, cell.itemText = .ok text
  | .null, _ => ⟨_, by rw [itemText]⟩
  | .bool _, _ => ⟨_, by rw [itemText]⟩
  | .float _, _ => ⟨_, by rw [itemText]⟩
  | .text _, _ => ⟨_, by rw [itemText]⟩
  | .broken _, _ => ⟨_, by rw [itemText]⟩
  | .int n, h => by
      rw [IntegersBelow] at h
      exact ⟨_, by rw [itemText, writeInteger_of_lt (h.trans_le hbound)]⟩
  | .list items, h => by
      rw [IntegersBelow] at h
      obtain ⟨text, htext⟩ := exists_itemTexts hbound items h
      exact ⟨_, by rw [itemText, htext]; rfl⟩

theorem exists_itemTexts (hbound : bound ≤ 10 ^ digitLimit) :
    ∀ items : List Cell, ItemsBelow bound items → ∃ text, itemTexts items = .ok text
  | [], _ => ⟨_, by rw [itemTexts]⟩
  | [item], h => by
      rw [ItemsBelow] at h
      rw [itemTexts]
      exact exists_itemText hbound item h.1
  | item :: next :: rest, h => by
      rw [ItemsBelow] at h
      obtain ⟨first, hfirst⟩ := exists_itemText hbound item h.1
      obtain ⟨others, hothers⟩ := exists_itemTexts hbound (next :: rest) h.2
      exact ⟨_, by rw [itemTexts, hfirst, hothers]; rfl⟩

end

theorem shows_float (x : Float) : Cascade.Shows (float x) := by
  simp only [Cascade.Shows, renderText]
  split
  · exact ⟨_, rfl⟩
  · cases hwhole : (Binary.ofFloat x).toInteger? with
    | none => exact ⟨_, rfl⟩
    | some n =>
      have htext := writeInteger_of_lt (natAbs_lt_limit_of_toInteger? hwhole)
      exact ⟨symbols (integerText n), by simp [htext]⟩

theorem IntegersBelow.shows (h : cell.IntegersBelow bound) (hbound : bound ≤ 10 ^ digitLimit) :
    Cascade.Shows cell := by
  cases cell with
  | null => exact ⟨_, rfl⟩
  | bool b => exact ⟨_, rfl⟩
  | float x => exact shows_float x
  | text s => exact ⟨_, rfl⟩
  | broken s => exact ⟨_, rfl⟩
  | int n =>
    obtain ⟨item, hitem⟩ := exists_itemText hbound (.int n) h
    exact ⟨symbols item, by simp [renderText, plainText, hitem]⟩
  | list items =>
    obtain ⟨item, hitem⟩ := exists_itemText hbound (.list items) h
    exact ⟨symbols item, by simp [renderText, plainText, hitem]⟩

theorem not_isOverlong_of_not_isLiteral {s : String} (h : ∀ count, ¬ IsLiteral s.toList count) :
    ¬ (Cell.text s).IsOverlong := by
  rintro ⟨_, count, heq, hliteral, -⟩
  exact h count (Cell.text.inj heq ▸ hliteral)

theorem not_isOverlong_writeInteger {n : Int} {s : String} (h : writeInteger n = .ok s) :
    ¬ (Cell.text s).IsOverlong := by
  unfold writeInteger at h
  split_ifs at h with hlimit
  cases h
  rintro hover
  obtain ⟨fault, hfault⟩ := toNumber?_eq_error_iff.mpr hover
  rw [toNumber?, ofText?_integerText (not_le.mp hlimit)] at hfault
  cases hfault

/-- A cell does not show an overlong literal, unless it is one. -/
theorem not_isOverlong_renderText (h : cell.renderText = .ok text)
    (hcell : ¬ cell.IsOverlong) : ¬ (ofSymbols text).IsOverlong := by
  cases cell with
  | null =>
    cases h
    rw [ofSymbols_symbols]
    exact not_isOverlong_of_length (by decide)
  | bool b =>
    cases h
    rw [ofSymbols_symbols]
    cases b <;> exact not_isOverlong_of_length (by decide)
  | int n =>
    simp only [renderText, plainText, itemText, Except.bind_eq_ok_iff, Except.pure_eq_ok_iff] at h
    obtain ⟨written, hwritten, rfl⟩ := h
    rw [ofSymbols_symbols]
    exact not_isOverlong_writeInteger hwritten
  | float x =>
    simp only [renderText] at h
    split at h
    · cases h
      rw [ofSymbols_symbols]
      exact not_isOverlong_of_length (by decide)
    · split at h
      · simp only [Except.bind_eq_ok_iff, Except.pure_eq_ok_iff] at h
        obtain ⟨written, hwritten, rfl⟩ := h
        rw [ofSymbols_symbols]
        exact not_isOverlong_writeInteger hwritten
      · cases h
        rw [ofSymbols_symbols]
        exact not_isOverlong_of_not_isLiteral (not_isLiteral_floatText x)
  | text s =>
    cases h
    rwa [ofSymbols_symbols]
  | broken s =>
    cases h
    rwa [ofSymbols_of_broken]
  | list items =>
    simp only [renderText, plainText, itemText, Except.bind_eq_ok_iff, Except.pure_eq_ok_iff] at h
    obtain ⟨_, ⟨inner, -, rfl⟩, rfl⟩ := h
    have hbracket : '[' ∈ ("[" ++ inner ++ "]").toList := by simp
    rw [ofSymbols_symbols]
    exact not_isOverlong_of_not_isLiteral
      (not_isLiteral_of_mem hbracket (by decide) (by decide) (by decide))

end Cell
end TableTalk
