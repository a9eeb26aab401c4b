import TableTalk.Proofs.Csv.Unquoted

/-! Lines of unequal length. A reader for which every line is the first one neither refuses nor fills
up any, and so it has them as they stand in the bytes. The lines under a header are these without the
ones that are longer than both the header and the first line under it, and the others are filled up
with empty fields. -/
namespace TableTalk.Csv
open TableTalk.Text

/-- Lines no longer than a width, filled up to it. -/
def fill {α : Type} (empty : α) (width : Nat) (lines : List (List α)) : List (List α) :=
  (lines.filter (fun line => decide (line.length ≤ width))).map
    (fun line => line ++ List.replicate (width - line.length) empty)

/-- The number of fields that lines are filled up to: that of the first one, unless the second one
exceeds it. -/
def widthOf : List (List Bytes) → Nat
  | [] => 0
  | [header] => header.length
  | header :: first :: _ => max header.length first.length

/-- Lines filled up under the first of them. -/
def fitted : List (List Bytes) → List (List Bytes)
  | [] => []
  | header :: body => header :: fill [] (widthOf (header :: body)) body

namespace Progress

/-- A step at which no line was read before, as far as the length of the next one goes. -/
def stepAlone (delimiter : UInt8) (p : Progress) (byte : UInt8) : Progress :=
  step delimiter { p with count := 0 } byte

/-- What a reader of lines of one length has, where this one has them as they stand in the bytes. -/
def leveled (p : Progress) : Progress :=
  { p with
    lines := (fitted p.lines.reverse).reverse
    count := (fitted p.lines.reverse).length
    width := widthOf p.lines.reverse }

end Progress

/-- The lines of some bytes as they stand in them. -/
def rawLines (delimiter : UInt8) (bytes : Bytes) : List (List Bytes) :=
  let p := (skipByteOrderMark bytes).foldl (Progress.stepAlone delimiter) .start
  (Progress.finish { p with count := 0 }).lines.reverse

/-- Lines under the header of a file as they stand in it, each with the texts of its own fields. -/
inductive HasLines (bytes : Bytes) : List (List String) → Prop where
  | ofBytes {raw : List (List Bytes)} {lines : List (List String)}
      (hdelimiter : (delimiterOf bytes).toNat < 128)
      (hraw : raw.Sublist (rawLines (UInt8.ofNat (delimiterOf bytes).toNat) bytes).tail)
      (hlines : raw.mapM (fun line => line.mapM fieldText) = .ok lines) : HasLines bytes lines
  | ofText {s : List Char} {raw : List (List (List Char))}
      (hdelimiter : 128 ≤ (delimiterOf bytes).toNat) (htext : Utf8.decode bytes = .ok s)
      (hraw : raw.Sublist (StrictLines.ofText isBlank (delimiterOf bytes) s).tail) :
      HasLines bytes (raw.map fun line => line.map String.ofList)

section Fill

variable {α β : Type} {empty : α} {width : Nat} {line : List α} {lines : List (List α)}

theorem fill_cons_of_le (h : line.length ≤ width) :
    fill empty width (line :: lines) =
      (line ++ List.replicate (width - line.length) empty) :: fill empty width lines := by
  simp [fill, h]

theorem fill_cons_of_lt (h : width < line.length) :
    fill empty width (line :: lines) = fill empty width lines := by
  simp [fill, h]

theorem fill_concat_of_le (h : line.length ≤ width) :
    fill empty width (lines ++ [line]) =
      fill empty width lines ++ [line ++ List.replicate (width - line.length) empty] := by
  simp [fill, h]

theorem fill_concat_of_lt (h : width < line.length) :
    fill empty width (lines ++ [line]) = fill empty width lines := by
  simp [fill, h]

theorem fill_ne_nil (h : line.length ≤ width) : fill empty width (line :: lines) ≠ [] := by
  rw [fill_cons_of_le h]
  exact List.cons_ne_nil _ _

theorem map_fill (f : α → β) (empty : α) (width : Nat) (lines : List (List α)) :
    (fill empty width lines).map (List.map f) =
      fill (f empty) width (lines.map (List.map f)) := by
  induction lines with
  | nil => rfl
  | cons line rest ih =>
    have hlength : (line.map f).length = line.length := List.length_map _
    rw [List.map_cons]
    rcases Nat.lt_or_ge width line.length with hlong | hshort
    · rw [fill_cons_of_lt hlong, fill_cons_of_lt (by rwa [hlength]), ih]
    · rw [fill_cons_of_le hshort, fill_cons_of_le (by rwa [hlength]), List.map_cons, ih,
        List.map_append, List.map_replicate, hlength]

end Fill

section Leveled

variable {delimiter byte : UInt8} {p : Progress} {header first line : List Bytes}
  {rest : List (List Bytes)}

/-- The width is settled with the first two lines. -/
theorem widthOf_append (header first : List Bytes) (rest more : List (List Bytes)) :
    widthOf (header :: first :: rest ++ more) = widthOf (header :: first :: rest) := rfl

theorem two_le_length_fitted (header first : List Bytes) (rest : List (List Bytes)) :
    2 ≤ (fitted (header :: first :: rest)).length := by
  have hkept : first.length ≤ widthOf (header :: first :: rest) := Nat.le_max_right _ _
  have hne : fill [] (widthOf (header :: first :: rest)) (first :: rest) ≠ [] := fill_ne_nil hkept
  have hpos := List.length_pos_iff.mpr hne
  rw [fitted, List.length_cons]
  omega

theorem fitted_pair (header line : List Bytes) :
    fitted [header, line] =
      [header, line ++ List.replicate (header.length - line.length) []] := by
  have hmissing : max header.length line.length - line.length = header.length - line.length := by
    omega
  rw [fitted, widthOf, fill_cons_of_le (Nat.le_max_right _ _), hmissing]
  rfl

theorem fitted_concat_of_le (h : line.length ≤ widthOf (header :: first :: rest)) :
    fitted (header :: first :: rest ++ [line]) = fitted (header :: first :: rest) ++
      [line ++ List.replicate (widthOf (header :: first :: rest) - line.length) []] := by
  rw [List.cons_append, fitted, fitted, ← List.cons_append, widthOf_append, fill_concat_of_le h,
    List.cons_append]

theorem fitted_concat_of_lt (h : widthOf (header :: first :: rest) < line.length) :
    fitted (header :: first :: rest ++ [line]) = fitted (header :: first :: rest) := by
  rw [List.cons_append, fitted, fitted, ← List.cons_append, widthOf_append, fill_concat_of_lt h]

namespace Progress

/-- Where no line was read before, a line ends as it is. -/
theorem endLine_alone (h : p.count = 0) :
    p.endLine = { p with mode := .lineStart, fields := [], passed := false, met := p.met + 1,
                         lines := p.fields.reverse :: p.lines, count := 1,
                         width := p.fields.length } := by
  simp [endLine, h]

theorem endLine_refused (hcount : 2 ≤ p.count) (h : p.width < p.fields.length) :
    p.endLine = { p with mode := .lineStart, fields := [], passed := false, met := p.met + 1 } := by
  simp [endLine, hcount, h]

theorem endLine_filled (hcount : p.count ≠ 0) (h : p.count < 2 ∨ p.fields.length ≤ p.width) :
    p.endLine =
      { p with mode := .lineStart, fields := [], passed := false, met := p.met + 1,
               lines := (p.fields.reverse ++ List.replicate (p.width - p.fields.length) []) :: p.lines
               count := p.count + 1, width := max p.width p.fields.length } := by
  have hkept : ¬ (2 ≤ p.count ∧ p.width < p.fields.length) := by omega
  have hwidth : p.fields.length + (p.width - p.fields.length) = max p.width p.fields.length := by
    omega
  simp [endLine, hcount, hkept, hwidth]

/-- The end of a line, where it is settled how long the line becomes: the first one stays as it is,
the second one is as long as the first one at least, and of the others the longer ones are refused. -/
theorem endLine_leveled (h : p.count = 0) : p.leveled.endLine = p.endLine.leveled := by
  rw [endLine_alone h]
  simp only [leveled, List.reverse_cons]
  generalize p.lines.reverse = raw
  rcases raw with _ | ⟨header, _ | ⟨first, rest⟩⟩
  · rw [endLine_alone rfl]
    simp [fitted, fill, widthOf]
  · rw [endLine_filled (Nat.succ_ne_zero 0) (.inl (Nat.lt_succ_self 1)), List.singleton_append,
      fitted_pair]
    simp [fitted, fill, widthOf]
  · have hcount := two_le_length_fitted header first rest
    rcases Nat.lt_or_ge (widthOf (header :: first :: rest)) p.fields.length with hlong | hshort
    · rw [endLine_refused hcount hlong, fitted_concat_of_lt (by rwa [List.length_reverse])]
      rfl
    · have hwidth := Nat.max_eq_left hshort
      have hmet := Nat.ne_of_gt (Nat.lt_of_succ_lt hcount)
      rw [endLine_filled hmet (.inr hshort),
        fitted_concat_of_le (by rwa [List.length_reverse])]
      simp only [List.length_append, List.length_singleton, List.length_reverse,
        List.reverse_concat, widthOf_append, hwidth]

theorem stepInField_leveled (h : byte = lineFeed → p.count = 0) :
    stepInField delimiter p.leveled byte = (stepInField delimiter p byte).leveled := by
  unfold stepInField
  split_ifs with hfeed
  · exact endLine_leveled (p := p.endField) (h hfeed)
  · rfl
  · rfl
  · rfl

theorem stepFieldStart_leveled (h : byte = lineFeed → p.count = 0) :
    stepFieldStart delimiter p.leveled byte = (stepFieldStart delimiter p byte).leveled := by
  unfold stepFieldStart
  split_ifs
  · rfl
  · exact stepInField_leveled h

/-- At the start of a line there is none that a line feed could end. -/
theorem stepLineStart_leveled :
    stepLineStart delimiter p.leveled byte = (stepLineStart delimiter p byte).leveled := by
  unfold stepLineStart
  split_ifs with hfeed
  · rfl
  · rfl
  · rfl
  · exact stepFieldStart_leveled fun h => absurd h hfeed

theorem stepAfterBlankReturn_leveled :
    stepAfterBlankReturn delimiter p.leveled byte =
      (stepAfterBlankReturn delimiter p byte).leveled := by
  unfold stepAfterBlankReturn
  split_ifs
  · rfl
  · rfl
  · exact stepLineStart_leveled

theorem stepInBlanks_leveled :
    stepInBlanks delimiter p.leveled byte = (stepInBlanks delimiter p byte).leveled := by
  have hpassed : p.leveled.passed = p.passed := rfl
  unfold stepInBlanks
  rw [hpassed]
  split_ifs with hfeed _ _ hdelimiter
  · rfl
  · rfl
  · rfl
  · exact stepInField_leveled (p := { p with fields := [] :: p.fields, passed := false })
      fun h => absurd h hfeed
  · exact stepInField_leveled (p := { p with passed := false }) fun h => absurd h hfeed

/-- Both readers take the same step. -/
theorem step_leveled (h : p.count = 0) :
    step delimiter p.leveled byte = (step delimiter p byte).leveled := by
  have hmode : p.leveled.mode = p.mode := rfl
  unfold step
  rw [hmode]
  cases p.mode with
  | lineStart => exact stepLineStart_leveled
  | fieldStart => exact stepFieldStart_leveled fun _ => h
  | inField => exact stepInField_leveled fun _ => h
  | inQuotes =>
    dsimp only
    split_ifs <;> rfl
  | afterQuote =>
    dsimp only
    split_ifs
    · rfl
    · exact stepInField_leveled fun _ => h
  | afterReturn =>
    dsimp only
    rw [endLine_leveled h]
    split_ifs
    · rfl
    · rfl
    · exact stepLineStart_leveled
  | afterBlankReturn => exact stepAfterBlankReturn_leveled
  | inBlanks => exact stepInBlanks_leveled

/-- And so they come to the same end. -/
theorem foldl_leveled (bytes : Bytes) (p : Progress) :
    bytes.foldl (step delimiter) p.leveled = (bytes.foldl (stepAlone delimiter) p).leveled := by
  induction bytes generalizing p with
  | nil => rfl
  | cons byte rest ih =>
    have hstep : step delimiter p.leveled byte = (stepAlone delimiter p byte).leveled :=
      step_leveled (p := { p with count := 0 }) rfl
    rw [List.foldl_cons, List.foldl_cons, hstep, ih]

theorem finish_leveled (h : p.count = 0) : p.leveled.finish = p.finish.leveled := by
  have hmode : p.leveled.mode = p.mode := rfl
  have hfield : p.endField.leveled.endLine = p.endField.endLine.leveled := endLine_leveled h
  unfold finish
  rw [hmode]
  cases p.mode with
  | inField | fieldStart | afterQuote => exact hfield
  | afterReturn => exact endLine_leveled h
  | lineStart | inQuotes | afterBlankReturn | inBlanks => rfl

end Progress

/-- The lines of some bytes are those that stand in them, the longer ones left out and the shorter
ones filled up under the first. -/
theorem Lines.ofBytes_lines (delimiter : UInt8) (bytes : Bytes) :
    (Lines.ofBytes delimiter bytes).lines = fitted (rawLines delimiter bytes) := by
  have hfold : (skipByteOrderMark bytes).foldl (Progress.step delimiter) .start =
      ((skipByteOrderMark bytes).foldl (Progress.stepAlone delimiter) .start).leveled :=
    Progress.foldl_leveled (skipByteOrderMark bytes) .start
  have hfinish := Progress.finish_leveled (p :=
    { (skipByteOrderMark bytes).foldl (Progress.stepAlone delimiter) .start with count := 0 }) rfl
  rw [Lines.ofBytes, hfold]
  exact (congrArg (fun p => p.lines.reverse) hfinish).trans (List.reverse_reverse _)

end Leveled

section Sheet

variable {bytes : Bytes} {width : Nat} {raw : List (List Bytes)} {texts : List (List String)}
  {sheet : Sheet}

/-- A line that was filled up has the texts of its own fields, and empty ones. -/
theorem mapM_fieldText_append {line : List Bytes} {texts : List String} {missing : Nat}
    (h : (line ++ List.replicate missing []).mapM fieldText = .ok texts) :
    ∃ own, line.mapM fieldText = .ok own ∧ own.length = line.length ∧
      texts = own ++ List.replicate missing "" := by
  have hmissing (missing : Nat) : (List.replicate missing ([] : Bytes)).mapM fieldText =
      .ok (List.replicate missing "") := by
    induction missing with
    | zero => rfl
    | succ missing ih =>
      rw [List.replicate_succ, List.mapM_cons, ih]
      rfl
  rw [List.mapM_append, Except.bind_eq_ok_iff] at h
  obtain ⟨own, hown, h⟩ := h
  rw [hmissing] at h
  exact ⟨own, hown, (Except.mapM_eq_ok_iff.mp hown).length_eq.symm, (Except.ok.inj h).symm⟩

theorem exists_of_mapM_fill
    (h : (fill [] width raw).mapM (fun line => line.mapM fieldText) = .ok texts) :
    ∃ (short : List (List Bytes)) (lines : List (List String)), short.Sublist raw ∧
      short.mapM (fun line => line.mapM fieldText) = .ok lines ∧ texts = fill "" width lines := by
  induction raw generalizing texts with
  | nil => exact ⟨[], [], .slnil, rfl, (Except.ok.inj h).symm⟩
  | cons line rest ih =>
    rcases Nat.lt_or_ge width line.length with hlong | hshort
    · rw [fill_cons_of_lt hlong] at h
      obtain ⟨short, lines, hsub, hlines, htexts⟩ := ih h
      exact ⟨short, lines, hsub.cons line, hlines, htexts⟩
    · rw [fill_cons_of_le hshort, List.mapM_cons] at h
      simp only [Except.bind_eq_ok_iff, Except.pure_eq_ok_iff] at h
      obtain ⟨first, hfirst, others, hothers, rfl⟩ := h
      obtain ⟨own, hown, hlength, rfl⟩ := mapM_fieldText_append hfirst
      obtain ⟨short, lines, hsub, hlines, rfl⟩ := ih hothers
      refine ⟨line :: short, own :: lines, hsub.cons_cons line, ?_, ?_⟩
      · rw [List.mapM_cons, hown, hlines]
        rfl
      · rw [fill_cons_of_le (by rwa [hlength]), hlength]

theorem length_le_widthOf (header : List Bytes) (body : List (List Bytes)) :
    header.length ≤ widthOf (header :: body) := by
  cases body with
  | nil => exact Nat.le_refl _
  | cons first rest => exact Nat.le_max_left _ _

theorem fitted_eq_cons {header : List Bytes} {body : List (List Bytes)}
    (h : fitted raw = header :: body) : body = fill [] (widthOf raw) raw.tail ∧
      header.length ≤ widthOf raw := by
  cases raw with
  | nil => cases h
  | cons first rest =>
    obtain ⟨rfl, rfl⟩ := List.cons.inj h
    exact ⟨rfl, length_le_widthOf first rest⟩

/-- The lines under a header of so many names are filled up to that number at least. -/
theorem fitBody_eq_fill (size : Nat) (body : List (List (List Char))) :
    ∃ (width : Nat) (kept : List (List (List Char))), kept.Sublist body ∧ size ≤ width ∧
      fitBody size body = fill [] width kept := by
  have hfold (lines : List (List (List Char))) (size : Nat) :
      size ≤ lines.foldl (fun width line => max width line.length) size := by
    induction lines generalizing size with
    | nil => exact Nat.le_refl size
    | cons line rest ih => exact (Nat.le_max_left size line.length).trans (ih _)
  unfold fitBody
  split
  next first second rest =>
    split_ifs with hlabels
    · exact ⟨second.length, second :: rest, List.sublist_cons_self _ _, by omega, rfl⟩
    · exact ⟨max size first.length, _, List.Sublist.refl _, Nat.le_max_left _ _, rfl⟩
  next => exact ⟨_, body, List.Sublist.refl _, hfold body size, rfl⟩

theorem length_skipMark {header marked : List (List Char)} (h : skipMark header = .ok marked) :
    marked.length = header.length := by
  cases header with
  | nil =>
    obtain rfl := Except.ok.inj h
    rfl
  | cons field rest =>
    simp only [skipMark, Except.bind_eq_ok_iff, Except.pure_eq_ok_iff] at h
    obtain ⟨first, -, rfl⟩ := h
    rfl

/-- The lines of a sheet have the texts of lines that stand in the file, and after these as many
empty texts as it takes to make them equally long, and no shorter than the header. -/
theorem exists_hasLines_of_read (h : read bytes = .ok sheet) :
    ∃ width lines, HasLines bytes lines ∧ sheet.header.length ≤ width ∧
      sheet.lines = fill "" width lines := by
  simp only [read] at h
  split_ifs at h with hreturn hdelimiter
  · obtain ⟨header, body, hfitted, hheader, hbody⟩ := Sheet.ofLines_eq_ok h
    rw [Lines.ofBytes_lines] at hfitted
    obtain ⟨rfl, hwidth⟩ := fitted_eq_cons hfitted
    obtain ⟨short, lines, hsub, hlines, htexts⟩ := exists_of_mapM_fill hbody
    rw [(Except.mapM_eq_ok_iff.mp hheader).length_eq] at hwidth
    exact ⟨_, lines, .ofBytes hdelimiter hsub hlines, hwidth, htexts⟩
  · split at h
    next s htext =>
      unfold Sheet.ofText at h
      split at h
      next => cases h
      next header body hlines =>
        simp only [Except.bind_eq_ok_iff, Except.pure_eq_ok_iff] at h
        obtain ⟨marked, hmarked, rfl⟩ := h
        obtain ⟨width, kept, hsub, hwidth, hkept⟩ := fitBody_eq_fill header.length body
        have hraw : kept.Sublist (StrictLines.ofText isBlank (delimiterOf bytes) s).tail := by
          rwa [hlines]
        refine ⟨width, _, .ofText (Nat.le_of_not_lt hdelimiter) htext hraw, ?_, ?_⟩
        · rw [List.length_map, length_skipMark hmarked]
          exact hwidth
        · rw [hkept]
          exact map_fill String.ofList [] width kept
    next => cases h

end Sheet

end TableTalk.Csv
