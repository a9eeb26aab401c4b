import Mathlib.Algebra.Group.Nat.Defs
import Mathlib.Data.List.Basic
import TableTalk.Number.Integer
import TableTalk.Proofs.Text.Ascii

/-! Decimal texts of integers: they hold digits and perhaps a minus sign, a natural number other
than zero does not begin with zero, and the digits denote the number they were written for. -/
namespace TableTalk.Number
open TableTalk.Text

theorem isAsciiDigit_of_isDigit {c : Char} (h : c.isDigit = true) : isAsciiDigit c = true := by
  simpa [isAsciiDigit] using isDigit_iff.mp h

theorem isAsciiDigit_of_mem_toDigits {n : Nat} : ∀ c ∈ Nat.toDigits 10 n, isAsciiDigit c = true :=
  fun _ hc => isAsciiDigit_of_isDigit (Nat.isDigit_of_mem_toDigits (by decide) (by decide) hc)

theorem exists_toDigits_eq_cons (n : Nat) :
    ∃ c others, Nat.toDigits 10 n = c :: others ∧ isAsciiDigit c = true := by
  obtain ⟨c, others, hdigits⟩ := List.exists_cons_of_ne_nil (Nat.toDigits_ne_nil (b := 10) (n := n))
  have hmem : c ∈ Nat.toDigits 10 n := by rw [hdigits]; exact List.mem_cons_self
  exact ⟨c, others, hdigits, isAsciiDigit_of_mem_toDigits c hmem⟩

theorem ofDigits_toDigits (n : Nat) :
    ofDigits ((Nat.toDigits 10 n).map (fun c => c.toNat - 48)) = n := by
  rw [ofDigits, List.foldl_map]
  exact Nat.ofDigitChars_ten_toDigits

theorem natAbs_signed (negative : Bool) (n : Nat) : (signed negative n).natAbs = n := by
  cases negative <;> simp [signed]

theorem writeInteger_of_lt {n : Int} (h : n.natAbs < 10 ^ digitLimit) :
    writeInteger n = .ok (integerText n) := by
  rw [writeInteger, if_neg (Nat.not_le.mpr h)]

theorem digit_or_minus {n : Int} {c : Char} (h : c ∈ (integerText n).toList) :
    c.isDigit = true ∨ c = '-' := by
  have hdigit (m : Nat) (hm : c ∈ (naturalText m).toList) : c.isDigit = true := by
    rw [naturalText, String.toList_ofList] at hm
    exact Nat.isDigit_of_mem_toDigits (by decide) (by decide) hm
  unfold integerText at h
  split at h
  · rw [String.toList_append, List.mem_append] at h
    rcases h with h | h
    · exact .inr (by simpa using h)
    · exact .inl (hdigit _ h)
  · exact .inl (hdigit _ h)

theorem integerText_eq_toString (n : Int) : integerText n = toString n := by
  cases n with
  | ofNat n =>
    have hn : ¬ Int.ofNat n < 0 := by simp
    rw [integerText, if_neg hn]
    exact Nat.repr_eq_ofList_toDigits.symm
  | negSucc n =>
    rw [integerText, if_pos (Int.negSucc_lt_zero n)]
    exact congrArg ("-" ++ ·) Nat.repr_eq_ofList_toDigits.symm

theorem naturalText_injective : Function.Injective naturalText := by
  intro m n h
  have hdigits := congrArg String.toList h
  rw [naturalText, naturalText, String.toList_ofList, String.toList_ofList] at hdigits
  rw [← ofDigits_toDigits m, hdigits, ofDigits_toDigits]

theorem naturalText_ne_minus (m n : Nat) : "-" ++ naturalText m ≠ naturalText n := by
  intro h
  have hmem : '-' ∈ (naturalText n).toList := by
    rw [← h, String.toList_append]
    exact List.mem_cons_self
  rw [naturalText, String.toList_ofList] at hmem
  exact absurd (isAsciiDigit_of_mem_toDigits _ hmem) (by decide)

theorem integerText_injective : Function.Injective integerText := by
  intro m n h
  unfold integerText at h
  split at h <;> split at h
  · have hsize := naturalText_injective ((String.append_right_inj "-").mp h)
    omega
  · exact absurd h (naturalText_ne_minus _ _)
  · exact absurd h.symm (naturalText_ne_minus _ _)
  · have hsize := naturalText_injective h
    omega

end TableTalk.Number
