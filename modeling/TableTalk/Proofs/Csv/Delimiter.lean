import Mathlib.Data.List.SplitBy
import TableTalk.Csv.Delimiter

/-! When the comma is told to be the delimiter. In a text without quotes it is, as soon as every
line has the same number of commas and at least one: then no other character can reach more lines,
and among those that reach all of them the comma is the preferred one. -/
namespace TableTalk.Csv.Delimiter

theorem openMarked?_eq_none {s : List Char} (h : ∀ c ∈ s, isQuote c = false) :
    openMarked? s = none := by
  unfold openMarked?
  split
  case h_1 mark rest =>
    split
    case h_1 quote body hbody =>
      have hquote : quote ∈ mark :: rest := by
        unfold dropSpace at hbody
        split at hbody <;> simp [hbody]
      simp [h quote hquote]
    case h_2 => rfl
  case h_2 => rfl

/-- No quoted field is found where there is no quote. -/
theorem findMarks_eq_nil {match? : Bool → List Char → Option (Char × List Char)}
    (hmatch : ∀ atLineStart s, (∀ c ∈ s, isQuote c = false) → match? atLineStart s = none)
    (fuel : Nat) (atLineStart : Bool) {s : List Char} (h : ∀ c ∈ s, isQuote c = false) :
    findMarks match? fuel atLineStart s = [] := by
  induction fuel generalizing atLineStart s with
  | zero => rfl
  | succ fuel ih =>
    cases s with
    | nil => rfl
    | cons c rest =>
      rw [findMarks, hmatch atLineStart (c :: rest) h]
      rw [List.forall_mem_cons] at h
      exact ih (c == '\n') h.2

theorem beforeMark?_eq_none (atLineStart : Bool) {s : List Char}
    (h : ∀ c ∈ s, isQuote c = false) : beforeMark? atLineStart s = none := by
  unfold beforeMark?
  split
  case h_1 rest =>
    cases rest with
    | nil => rfl
    | cons c rest => simp [h c (by simp)]
  case h_2 =>
    cases s with
    | nil => split <;> rfl
    | cons c rest => simp [h c (by simp)]

theorem ofQuotes?_eq_none {s : List Char} (h : ∀ c ∈ s, isQuote c = false) :
    ofQuotes? s = none := by
  have hbetween : findMarks betweenMarks? s.length true s = [] :=
    findMarks_eq_nil (fun _ s hs => by simp [betweenMarks?, openMarked?_eq_none hs]) _ _ h
  have hbefore : findMarks beforeMark? s.length true s = [] :=
    findMarks_eq_nil (fun atLineStart _ hs => beforeMark?_eq_none atLineStart hs) _ _ h
  have hafter : findMarks afterMark? s.length true s = [] :=
    findMarks_eq_nil (fun _ s hs => by simp [afterMark?, openMarked?_eq_none hs]) _ _ h
  simp only [ofQuotes?, List.findSome?_cons, hbetween, hbefore, hafter]
  rfl

/-- Lines and line feeds in turn. -/
def groups (lines : List (List Char)) : List (List Char) :=
  lines.flatMap (fun line => [line, ['\n']])

def joined (c d : Char) : Bool := c != '\n' && d != '\n'

/-- Of two neighbours one is a line feed. -/
theorem groups_isChain {lines : List (List Char)} (hne : ∀ line ∈ lines, line ≠ []) :
    (['\n'] :: groups lines).IsChain
      fun a b => ∃ ha hb, joined (a.getLast ha) (b.head hb) = false := by
  induction lines with
  | nil => exact List.isChain_singleton _
  | cons line rest ih =>
    rw [List.forall_mem_cons] at hne
    rw [groups, List.flatMap_cons, List.cons_append, List.cons_append, List.nil_append, ← groups,
      List.isChain_cons_cons, List.isChain_cons_cons]
    exact ⟨⟨by simp, hne.1, rfl⟩, ⟨hne.1, by simp, by simp [joined]⟩, ih hne.2⟩

/-- Lines that each end in a line feed are told apart again. -/
theorem filledLines_flatMap {lines : List (List Char)} (hne : ∀ line ∈ lines, line ≠ [])
    (hfeed : ∀ line ∈ lines, '\n' ∉ line) :
    filledLines (lines.flatMap (fun line => line ++ ['\n'])) = lines := by
  have hgroups : lines.flatMap (fun line => line ++ ['\n']) = (groups lines).flatten := by
    rw [groups, List.flatMap_def, List.flatMap_def, List.flatten_flatten, List.map_map]
    simp [Function.comp_def]
  have hmem : ∀ group ∈ groups lines, group ∈ lines ∨ group = ['\n'] := by
    intro group hgroup
    simp only [groups, List.mem_flatMap, List.mem_cons, List.not_mem_nil, or_false] at hgroup
    obtain ⟨line, hline, rfl | rfl⟩ := hgroup
    · exact .inl hline
    · exact .inr rfl
  have hsplit : (groups lines).flatten.splitBy joined = groups lines := by
    apply List.splitBy_flatten
    · intro hnil
      rcases hmem [] hnil with h | h
      · exact hne [] h rfl
      · cases h
    · intro group hgroup
      rcases hmem group hgroup with hline | rfl
      · apply List.Pairwise.isChain
        apply List.pairwise_of_forall_mem_list
        intro c hc d hd
        have hc' : c ≠ '\n' := fun h => hfeed group hline (h ▸ hc)
        have hd' : d ≠ '\n' := fun h => hfeed group hline (h ▸ hd)
        simp [joined, hc', hd']
      · exact List.isChain_singleton _
    · exact (groups_isChain hne).tail
  have hfilter : (groups lines).filter (· ≠ ['\n']) = lines := by
    clear hgroups hmem hsplit hne
    induction lines with
    | nil => rfl
    | cons line rest ih =>
      rw [List.forall_mem_cons] at hfeed
      have hline : line ≠ ['\n'] := by
        rintro rfl
        simp at hfeed
      rw [groups, List.flatMap_cons, ← groups, List.filter_append, ih hfeed.2]
      simp [hline]
  rw [hgroups]
  exact (congrArg (List.filter (· ≠ ['\n'])) hsplit).trans hfilter

/-- A character that is found equally often in all of the lines. -/
theorem candidate?_of_count {lines : List (List Char)} {c : Char} {count : Nat}
    (hne : lines ≠ []) (hpos : 0 < count) (hcount : ∀ line ∈ lines, line.count c = count) :
    candidate? lines c = some ⟨c, count, lines.length⟩ := by
  have htally (n : Nat) : Tally.ofList (List.replicate (n + 1) count) = [(count, n + 1)] := by
    induction n with
    | zero => rfl
    | succ n ih =>
      rw [List.replicate_succ', Tally.ofList, List.foldl_append, ← Tally.ofList, ih]
      simp [Tally.add]
  have hcounts : lines.map (fun line => line.count c) = List.replicate lines.length count := by
    rw [List.eq_replicate_iff, List.length_map]
    exact ⟨rfl, List.forall_mem_map.mpr hcount⟩
  obtain ⟨n, hn⟩ := Nat.exists_eq_succ_of_ne_zero (List.length_eq_zero_iff.not.mpr hne)
  have hmost : Tally.mostFrequent? (Tally.ofList (lines.map (fun line => line.count c))) =
      some (count, lines.length) := by
    rw [hcounts, hn, htally]
    rfl
  have hlead : 2 * lines.length - lines.length = lines.length := by omega
  have hmore : lines.length < 2 * lines.length := by omega
  simp [candidate?, hmost, hpos, hmore, hlead]

/-- A character that reaches all lines is among those that are chosen from, as no smaller
percentage is tried. -/
theorem mem_leading {lines : List (List Char)} {c : Char} {count : Nat} (hc : c ∈ asciiChars)
    (hcandidate : candidate? lines c = some ⟨c, count, lines.length⟩) :
    (⟨c, count, lines.length⟩ : Candidate) ∈ leading lines := by
  have hmem : (⟨c, count, lines.length⟩ : Candidate) ∈
      (asciiChars.filterMap (candidate? lines)).filter
        (fun c => decide ((100 - 0) * lines.length ≤ 100 * c.lead)) := by
    rw [List.mem_filter, List.mem_filterMap]
    exact ⟨⟨c, hc, hcandidate⟩, by simp⟩
  have hfirst : leading lines = (asciiChars.filterMap (candidate? lines)).filter
      (fun c => decide ((100 - 0) * lines.length ≤ 100 * c.lead)) := by
    have hrange : List.range 10 = 0 :: (List.range 9).map (· + 1) := by decide
    rw [leading, hrange, List.findSome?_cons, if_neg]
    · rfl
    · rw [List.isEmpty_iff]
      exact List.ne_nil_of_mem hmem
  rw [hfirst]
  exact hmem

theorem choose?_eq_comma {candidates : List Candidate}
    (h : ∃ candidate ∈ candidates, candidate.char = ',') : choose? candidates = some ',' := by
  obtain ⟨candidate, hmem, hchar⟩ := h
  unfold choose?
  split
  case h_1 => cases hmem
  case h_2 only =>
    rw [List.mem_singleton] at hmem
    rw [← hchar, hmem]
  case h_3 first rest _ =>
    have hany : (first :: rest).any (fun candidate => candidate.char == ',') = true :=
      List.any_eq_true.mpr ⟨candidate, hmem, by simp [hchar]⟩
    have hfind : preferred.find? (fun c => (first :: rest).any (fun candidate =>
        candidate.char == c)) = some ',' := by
      rw [preferred, List.find?_cons, hany]
    rw [hfind]
    rfl

/-- The first ten lines are enough to tell the comma. -/
theorem ofLines?_eq_comma {lines : List (List Char)} {count : Nat} (hne : lines ≠ [])
    (hpos : 0 < count) (hcount : ∀ line ∈ lines, line.count ',' = count) :
    ofLines? lines = some ',' := by
  have hsome : (lines.length + 9) / 10 ≠ 0 := by
    have hlength := List.length_pos_iff.mpr hne
    omega
  obtain ⟨n, hn⟩ := Nat.exists_eq_succ_of_ne_zero hsome
  have htake : lines.take (10 * (0 + 1)) ≠ [] := by simpa using hne
  have hcandidate := candidate?_of_count htake hpos
    fun line hline => hcount line (List.mem_of_mem_take hline)
  have hchosen : choose? (leading (lines.take (10 * (0 + 1)))) = some ',' :=
    choose?_eq_comma ⟨_, mem_leading (by decide) hcandidate, rfl⟩
  rw [ofLines?, hn, List.range_succ_eq_map, List.findSome?_cons, hchosen]

/-- The delimiter of lines without quotes that have equally many commas. -/
theorem guess?_eq_comma {lines : List (List Char)} {count : Nat} (hne : lines ≠ [])
    (hpos : 0 < count) (hcount : ∀ line ∈ lines, line.count ',' = count)
    (hfeed : ∀ line ∈ lines, '\n' ∉ line)
    (hquote : ∀ line ∈ lines, ∀ c ∈ line, isQuote c = false) :
    guess? (lines.flatMap (fun line => line ++ ['\n'])) = some ',' := by
  have hfilled : ∀ line ∈ lines, line ≠ [] := by
    rintro _ hline rfl
    exact absurd (hcount [] hline) (by simp; omega)
  have hnoquote : ∀ c ∈ lines.flatMap (fun line => line ++ ['\n']), isQuote c = false := by
    intro c hc
    obtain ⟨line, hline, hc⟩ := List.mem_flatMap.mp hc
    rcases List.mem_append.mp hc with hc | hc
    · exact hquote line hline c hc
    · rw [List.mem_singleton.mp hc]
      rfl
  rw [guess?, ofQuotes?_eq_none hnoquote, filledLines_flatMap hfilled hfeed,
    ofLines?_eq_comma hne hpos hcount]
  rfl

end TableTalk.Csv.Delimiter
