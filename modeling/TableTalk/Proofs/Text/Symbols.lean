import Mathlib.Data.List.TakeWhile
import Mathlib.Logic.Function.Basic
import TableTalk.Text.Search
import TableTalk.Text.Symbol

/-! Texts of Unicode characters among the texts of symbols. -/
namespace TableTalk.Text

variable {text : Symbols}

theorem isWhole_symbols (s : String) : isWhole (symbols s) = true := by
  simp [isWhole, symbols, Symbol.isHalf]

theorem symbols_shown (h : isWhole text = true) : symbols (shown text) = text := by
  have hsymbol : ∀ symbol ∈ text, Symbol.char (shownChar symbol) = symbol := by
    intro symbol hsymbol
    have hchar := List.all_eq_true.mp h symbol hsymbol
    cases symbol with
    | char c => rfl
    | half unit => cases hchar
  rw [symbols, shown, String.toList_ofList, List.map_map]
  exact (List.map_congr_left hsymbol).trans (List.map_id text)

theorem symbols_injective : Function.Injective symbols :=
  Function.LeftInverse.injective shown_symbols

theorem symbols_ofList (s : List Char) : symbols (String.ofList s) = s.map .char := by
  rw [symbols, String.toList_ofList]

/-- There are no first halves exactly in a text of Unicode characters. -/
theorem firstHalves?_eq_none_iff : firstHalves? text = none ↔ isWhole text = true := by
  unfold firstHalves?
  split
  case h_1 unit rest hfirst =>
    have hmem : Symbol.half unit ∈ text :=
      (List.dropWhile_suffix _).subset (hfirst ▸ List.mem_cons_self)
    refine iff_of_false (Option.some_ne_none _) fun hwhole => ?_
    cases List.all_eq_true.mp hwhole _ hmem
  case h_2 hnone =>
    refine iff_of_true rfl ?_
    cases hrest : text.dropWhile fun symbol => !symbol.isHalf with
    | nil => exact List.all_eq_true.mpr (List.dropWhile_eq_nil_iff.mp hrest)
    | cons symbol rest =>
      cases symbol with
      | half unit => exact absurd hrest (hnone unit rest)
      | char c =>
        have hne : text.dropWhile (fun symbol => !symbol.isHalf) ≠ [] := by simp [hrest]
        have hhead := List.head_dropWhile_not (fun symbol : Symbol => !symbol.isHalf) hne
        simp only [hrest, List.head_cons] at hhead
        cases hhead
end TableTalk.Text
