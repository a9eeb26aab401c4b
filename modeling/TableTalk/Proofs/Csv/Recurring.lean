import TableTalk.Proofs.Csv.Delimiter
import TableTalk.Proofs.Tally

/-! Which characters are taken for the delimiter of a text without quotes: any ASCII character,
letters included, that stands equally often in nearly all of the first lines. The comma is fallen
back on only where there is no such character. -/
namespace TableTalk.Csv.Delimiter

/-- A character that occurs as often as in most lines in so many of them that these outnumber the
others by 91 in a hundred. -/
structure Recurs (lines : List (List Char)) (c : Char) : Prop where
  ne_nil : lines ≠ []
  often : ∃ count, 0 < count ∧
    191 * lines.length ≤ 200 * lines.countP fun line => line.count c == count

/-- An ASCII character recurs in the first ten lines of a text, or twenty, and so on. -/
def HasRecurring (s : List Char) : Prop :=
  ∃ k, ∃ c ∈ asciiChars, Recurs ((filledLines s).take (10 * (k + 1))) c

variable {lines : List (List Char)} {s : List Char} {c : Char} {candidate : Candidate}
  {candidates : List Candidate}

theorem count_map_count (lines : List (List Char)) (c : Char) (count : Nat) :
    (lines.map fun line => line.count c).count count =
      lines.countP fun line => line.count c == count := by
  rw [List.count, List.countP_map]
  rfl

theorem candidate?_eq_some (h : candidate? lines c = some candidate) :
    candidate.char = c ∧ 0 < candidate.count ∧
      lines.length + candidate.lead =
        2 * lines.countP fun line => line.count c == candidate.count := by
  simp only [candidate?, Option.bind_eq_bind, Option.bind_eq_some_iff] at h
  obtain ⟨⟨count, agreeing⟩, hmost, h⟩ := h
  simp only at h
  split_ifs at h with hmajority
  obtain rfl := Option.some.inj h
  obtain ⟨-, hagreeing⟩ := Tally.mem_ofList_iff.mp (Tally.mostFrequent?_eq_some hmost).1
  rw [count_map_count] at hagreeing
  refine ⟨rfl, hmajority.1, ?_⟩
  simp only
  omega

theorem candidate?_of_recurs (h : Recurs lines c) :
    ∃ candidate, candidate? lines c = some candidate ∧
      91 * lines.length ≤ 100 * candidate.lead := by
  obtain ⟨hne, count, hpos, hoften⟩ := h
  have hlength : 0 < lines.length := List.length_pos_iff.mpr hne
  rw [← count_map_count] at hoften
  have hmajority : (lines.map fun line => line.count c).length <
      2 * (lines.map fun line => line.count c).count count := by
    rw [List.length_map]
    omega
  have hmost := Tally.mostFrequent?_of_majority hmajority
  rw [List.length_map] at hmajority
  refine ⟨⟨c, count, 2 * (lines.map fun line => line.count c).count count - lines.length⟩, ?_, ?_⟩
  · simp [candidate?, hmost, hpos, hmajority]
  · simp only
    omega

theorem recurs_of_candidate? (hne : lines ≠ []) (h : candidate? lines c = some candidate)
    (hlead : 91 * lines.length ≤ 100 * candidate.lead) : Recurs lines c := by
  obtain ⟨-, hpos, hsum⟩ := candidate?_eq_some h
  exact ⟨hne, candidate.count, hpos, by omega⟩

/-- The candidates that reach a percentage, given by how far it is below the whole. -/
def reaching (lines : List (List Char)) (k : Nat) : List Candidate :=
  (asciiChars.filterMap (candidate? lines)).filter fun c =>
    decide ((100 - k) * lines.length ≤ 100 * c.lead)

theorem mem_reaching {k : Nat} : candidate ∈ reaching lines k ↔
    (∃ c ∈ asciiChars, candidate? lines c = some candidate) ∧
      (100 - k) * lines.length ≤ 100 * candidate.lead := by
  rw [reaching, List.mem_filter, List.mem_filterMap, decide_eq_true_eq]

theorem leading_cases (lines : List (List Char)) :
    (∃ k < 10, leading lines = reaching lines k ∧ reaching lines k ≠ []) ∨
      leading lines = [] ∧ ∀ k < 10, reaching lines k = [] := by
  have hleading : leading lines = ((List.range 10).findSome? fun k =>
      if (reaching lines k).isEmpty then none else some (reaching lines k)).getD [] := rfl
  rw [hleading]
  cases hfound : (List.range 10).findSome? fun k =>
      if (reaching lines k).isEmpty then none else some (reaching lines k) with
  | none =>
    refine .inr ⟨rfl, fun k hk => ?_⟩
    have hnone := List.findSome?_eq_none_iff.mp hfound k (List.mem_range.mpr hk)
    split_ifs at hnone with hempty
    exact List.isEmpty_iff.mp hempty
  | some reached =>
    obtain ⟨k, hk, hsome⟩ := List.exists_of_findSome?_eq_some hfound
    split_ifs at hsome with hempty
    obtain rfl := Option.some.inj hsome
    exact .inl ⟨k, List.mem_range.mp hk, rfl, fun hnil => hempty (List.isEmpty_iff.mpr hnil)⟩

/-- Every leading candidate recurs, as 91 is the lowest percentage that is tried. -/
theorem recurs_of_mem_leading (hne : lines ≠ []) (h : candidate ∈ leading lines) :
    candidate.char ∈ asciiChars ∧ Recurs lines candidate.char := by
  rcases leading_cases lines with ⟨k, hk, hleading, -⟩ | ⟨hnil, -⟩
  · rw [hleading, mem_reaching] at h
    obtain ⟨⟨c, hc, hcandidate⟩, hlead⟩ := h
    obtain ⟨rfl, -⟩ := candidate?_eq_some hcandidate
    have hpercent : 91 * lines.length ≤ (100 - k) * lines.length :=
      Nat.mul_le_mul_right _ (by omega)
    exact ⟨hc, recurs_of_candidate? hne hcandidate (Nat.le_trans hpercent hlead)⟩
  · rw [hnil] at h
    cases h

theorem leading_ne_nil (hc : c ∈ asciiChars) (h : Recurs lines c) : leading lines ≠ [] := by
  obtain ⟨candidate, hcandidate, hlead⟩ := candidate?_of_recurs h
  rcases leading_cases lines with ⟨k, -, hleading, hne⟩ | ⟨-, hnone⟩
  · rwa [hleading]
  · have hreaching : candidate ∈ reaching lines 9 := mem_reaching.mpr ⟨⟨c, hc, hcandidate⟩, hlead⟩
    rw [hnone 9 (by decide)] at hreaching
    cases hreaching

theorem choose?_eq_none_iff : choose? candidates = none ↔ candidates = [] := by
  unfold choose?
  split <;> simp

/-- What is chosen is one of the candidates. -/
theorem choose?_eq_some (h : choose? candidates = some c) :
    ∃ candidate ∈ candidates, candidate.char = c := by
  unfold choose? at h
  split at h
  case h_1 => cases h
  case h_2 only => exact ⟨only, List.mem_singleton_self only, Option.some.inj h⟩
  case h_3 first rest _ =>
    rw [Option.or_eq_some_iff] at h
    rcases h with hpreferred | ⟨-, hbest⟩
    · have hany := List.find?_some hpreferred
      obtain ⟨candidate, hmem, hchar⟩ := List.any_eq_true.mp hany
      exact ⟨candidate, hmem, by simpa using hchar⟩
    · have hfold (best : Candidate) : rest.foldl
          (fun best next => if dominates best next then next else best) best ∈ best :: rest := by
        clear * -
        induction rest generalizing best with
        | nil => exact List.mem_singleton_self best
        | cons next rest ih =>
          rw [List.foldl_cons]
          split_ifs
          · exact List.mem_cons_of_mem best (ih next)
          · rcases List.mem_cons.mp (ih best) with hbest | hrest
            · rw [hbest]
              exact List.mem_cons_self
            · exact List.mem_cons_of_mem best (List.mem_cons_of_mem next hrest)
      exact ⟨_, hfold first, Option.some.inj hbest⟩

theorem recurs_of_ofLines? (h : ofLines? lines = some c) :
    ∃ k, c ∈ asciiChars ∧ Recurs (lines.take (10 * (k + 1))) c := by
  obtain ⟨k, hk, hchosen⟩ := List.exists_of_findSome?_eq_some h
  obtain ⟨candidate, hmem, rfl⟩ := choose?_eq_some hchosen
  have hne : lines.take (10 * (k + 1)) ≠ [] := by
    rw [List.mem_range] at hk
    rw [ne_eq, List.take_eq_nil_iff, not_or, ← List.length_eq_zero_iff]
    omega
  exact ⟨k, recurs_of_mem_leading hne hmem⟩

theorem ofLines?_ne_none {k : Nat} (hc : c ∈ asciiChars)
    (h : Recurs (lines.take (10 * (k + 1))) c) : ofLines? lines ≠ none := by
  have hlength : 0 < lines.length := by
    rw [List.length_pos_iff]
    rintro rfl
    exact h.ne_nil List.take_nil
  intro hnone
  -- From the last portion on all lines are looked at.
  obtain ⟨j, hj, htake⟩ : ∃ j < (lines.length + 9) / 10,
      lines.take (10 * (j + 1)) = lines.take (10 * (k + 1)) := by
    by_cases hk : k < (lines.length + 9) / 10
    · exact ⟨k, hk, rfl⟩
    · refine ⟨(lines.length + 9) / 10 - 1, by omega, ?_⟩
      rw [List.take_of_length_le (by omega), List.take_of_length_le (by omega)]
  have hchosen := List.findSome?_eq_none_iff.mp hnone j (List.mem_range.mpr hj)
  rw [choose?_eq_none_iff, htake] at hchosen
  exact leading_ne_nil hc h hchosen

/-- A line feed stands alone among the groups of a text. -/
theorem eq_lineFeed_of_isChain {group : List Char}
    (h : group.IsChain fun c d => joined c d = true) (hfeed : '\n' ∈ group) : group = ['\n'] := by
  induction group with
  | nil => cases hfeed
  | cons c rest ih =>
    cases rest with
    | nil => rw [List.mem_singleton.mp hfeed]
    | cons d rest =>
      rw [List.isChain_cons_cons] at h
      obtain ⟨hjoined, hchain⟩ := h
      obtain ⟨hc, hd⟩ : c ≠ '\n' ∧ d ≠ '\n' := by simpa [joined] using hjoined
      have hrest := ih hchain ((List.mem_cons.mp hfeed).resolve_left (Ne.symm hc))
      exact absurd (List.cons.inj hrest).1 hd

theorem mem_of_mem_filledLines {line : List Char} (h : line ∈ filledLines s) (hc : c ∈ line) :
    c ∈ s ∧ c ≠ '\n' := by
  obtain ⟨hgroup, hfilled⟩ := List.mem_filter.mp h
  constructor
  · rw [← List.flatten_splitBy joined s]
    exact List.mem_flatten.mpr ⟨line, hgroup, hc⟩
  · rintro rfl
    have hline := eq_lineFeed_of_isChain (List.isChain_of_mem_splitBy hgroup) hc
    simp [hline] at hfilled

theorem Recurs.exists_mem (h : Recurs lines c) : ∃ line ∈ lines, c ∈ line := by
  obtain ⟨hne, count, hpos, hoften⟩ := h
  have hlength : 0 < lines.length := List.length_pos_iff.mpr hne
  have hagreeing : 0 < lines.countP fun line => line.count c == count := by omega
  obtain ⟨line, hline, hcount⟩ := List.countP_pos_iff.mp hagreeing
  rw [beq_iff_eq] at hcount
  exact ⟨line, hline, List.count_pos_iff.mp (by omega)⟩

/-- In a text without quotes a character is told to be the delimiter exactly if one recurs. -/
theorem guess?_eq_none_iff (h : ∀ c ∈ s, isQuote c = false) :
    guess? s = none ↔ ¬ HasRecurring s := by
  rw [guess?, ofQuotes?_eq_none h, Option.none_or]
  constructor
  · rintro hnone ⟨k, c, hc, hrecurs⟩
    exact ofLines?_ne_none hc hrecurs hnone
  · intro hrecurring
    rw [Option.eq_none_iff_forall_ne_some]
    intro c hsome
    obtain ⟨k, hc, hrecurs⟩ := recurs_of_ofLines? hsome
    exact hrecurring ⟨k, c, hc, hrecurs⟩

/-- The delimiter stands in a line of the text. -/
theorem mem_of_guess? (h : ∀ c ∈ s, isQuote c = false) (hguess : guess? s = some c) :
    c ∈ s ∧ c ≠ '\n' := by
  rw [guess?, ofQuotes?_eq_none h, Option.none_or] at hguess
  obtain ⟨k, -, hrecurs⟩ := recurs_of_ofLines? hguess
  obtain ⟨line, hline, hc⟩ := hrecurs.exists_mem
  exact mem_of_mem_filledLines (List.mem_of_mem_take hline) hc

end TableTalk.Csv.Delimiter
