import TableTalk.Proofs.Csv.PlainSheet

/-! Lines of text without quotes and white space, under any delimiter. The delimiter is in no field,
whatever it is: a letter that is taken for it is gone from the table. -/
namespace TableTalk.Csv
open TableTalk.Text

variable {delimiter byte : UInt8} {P : UInt8 → Prop}

/-- All bytes of the fields of a line have a property. -/
def FieldsHave (P : UInt8 → Prop) (fields : List Bytes) : Prop :=
  ∀ field ∈ fields, ∀ byte ∈ field, P byte

/-- A line to be split: not empty, and of visible bytes that have a property unless they are the
delimiter. -/
structure IsUnquoted (delimiter : UInt8) (P : UInt8 → Prop) (bytes : Bytes) : Prop where
  ne_nil : bytes ≠ []
  visible : ∀ byte ∈ bytes, IsVisibleByte byte
  property : ∀ byte ∈ bytes, byte ≠ delimiter → P byte

namespace Progress

variable {mode : Mode} {read bytes : Bytes} {fields : List Bytes} {lines : List (List Bytes)}
  {count width met : Nat}

theorem fieldsHave_cons_reverse (hread : ∀ byte ∈ read, P byte) (hfields : FieldsHave P fields) :
    FieldsHave P (read.reverse :: fields) := by
  refine List.forall_mem_cons.mpr ⟨fun byte hbyte => ?_, hfields⟩
  exact hread byte (List.mem_reverse.mp hbyte)

/-- A visible byte ends a field or is added to it. -/
theorem step_visible (lines : List (List Bytes)) (count width met : Nat)
    (hbyte : IsVisibleByte byte) (hproperty : byte ≠ delimiter → P byte)
    (hmode : mode = .lineStart ∨ EndsLine mode) (hread : ∀ byte ∈ read, P byte)
    (hfields : FieldsHave P fields) :
    ∃ mode' read' fields',
      step delimiter ⟨mode, read, fields, lines, count, width, false, met⟩ byte =
        ⟨mode', read', fields', lines, count, width, false, met⟩ ∧
      EndsLine mode' ∧ (∀ byte ∈ read', P byte) ∧ FieldsHave P fields' := by
  by_cases hdelimiter : byte = delimiter
  · subst hdelimiter
    refine ⟨_, _, _, step_delimiter hbyte.isSeparator hmode, .inl rfl, List.forall_mem_nil _, ?_⟩
    exact fieldsHave_cons_reverse hread hfields
  · refine ⟨_, _, _, step_plain (hbyte.isPlainByte hdelimiter) hmode, .inr rfl, ?_, hfields⟩
    exact List.forall_mem_cons.mpr ⟨hproperty hdelimiter, hread⟩

theorem foldl_visible (lines : List (List Bytes)) (count width met : Nat) (hmode : EndsLine mode)
    (hvisible : ∀ byte ∈ bytes, IsVisibleByte byte)
    (hproperty : ∀ byte ∈ bytes, byte ≠ delimiter → P byte) (hread : ∀ byte ∈ read, P byte)
    (hfields : FieldsHave P fields) :
    ∃ mode' read' fields',
      bytes.foldl (step delimiter) ⟨mode, read, fields, lines, count, width, false, met⟩ =
        ⟨mode', read', fields', lines, count, width, false, met⟩ ∧
      EndsLine mode' ∧ (∀ byte ∈ read', P byte) ∧ FieldsHave P fields' := by
  induction bytes generalizing mode read fields with
  | nil => exact ⟨mode, read, fields, rfl, hmode, hread, hfields⟩
  | cons byte rest ih =>
    rw [List.forall_mem_cons] at hvisible hproperty
    obtain ⟨mode', read', fields', hstep, hmode', hread', hfields'⟩ :=
      step_visible lines count width met hvisible.1 hproperty.1 (.inr hmode) hread hfields
    rw [List.foldl_cons, hstep]
    exact ih hmode' hvisible.2 hproperty.2 hread' hfields'

/-- A line that ends is refused for its length, or kept and perhaps filled up. -/
theorem endLine_cases (hfields : FieldsHave P fields) :
    ∃ newer count' width', endLine ⟨mode, read, fields, lines, count, width, false, met⟩ =
        ⟨.lineStart, read, [], newer ++ lines, count', width', false, met + 1⟩ ∧
      (∀ line ∈ newer, FieldsHave P line) ∧ (newer = [] → 2 ≤ count) ∧ newer.length ≤ 1 := by
  by_cases hrefused : 2 ≤ count ∧ width < fields.length
  · refine ⟨[], count, width, ?_, List.forall_mem_nil _, fun _ => hrefused.1, Nat.zero_le 1⟩
    simp [endLine, hrefused]
  · refine ⟨[(List.replicate (if count = 0 then 0 else width - fields.length) [] ++
      fields).reverse], count + 1, _, by simp only [endLine, if_neg hrefused]; rfl, ?_,
      fun hnil => absurd hnil (List.cons_ne_nil _ _), Nat.le_refl 1⟩
    rw [List.forall_mem_singleton]
    intro field hfield
    rw [List.mem_reverse, List.mem_append] at hfield
    rcases hfield with hfilled | hfield
    · rw [List.eq_of_mem_replicate hfilled]
      exact List.forall_mem_nil _
    · exact hfields field hfield

/-- What one line of text adds to the lines, at most one; as the first line it is kept. -/
theorem foldl_unquoted (h : IsUnquoted delimiter P bytes) (lines : List (List Bytes))
    (count width met : Nat) :
    ∃ newer count' width', (bytes ++ [lineFeed]).foldl (step delimiter)
        ⟨.lineStart, [], [], lines, count, width, false, met⟩ =
        ⟨.lineStart, [], [], newer ++ lines, count', width', false, met + 1⟩ ∧
      (∀ line ∈ newer, FieldsHave P line) ∧ (newer = [] → 2 ≤ count) ∧ newer.length ≤ 1 := by
  obtain ⟨hne, hvisible, hproperty⟩ := h
  obtain ⟨byte, rest, rfl⟩ := List.exists_cons_of_ne_nil hne
  rw [List.forall_mem_cons] at hvisible hproperty
  obtain ⟨mode, read, fields, hstep, hmode, hread, hfields⟩ :=
    step_visible lines count width met hvisible.1 hproperty.1 (.inl rfl) (List.forall_mem_nil _)
      (List.forall_mem_nil _)
  obtain ⟨mode', read', fields', hrest, hmode', hread', hfields'⟩ :=
    foldl_visible lines count width met hmode hvisible.2 hproperty.2 hread hfields
  have hfeed : step delimiter ⟨mode', read', fields', lines, count, width, false, met⟩ lineFeed =
      endLine ⟨.fieldStart, [], read'.reverse :: fields', lines, count, width, false, met⟩ := by
    rcases hmode' with rfl | rfl <;> rfl
  rw [List.cons_append, List.foldl_cons, hstep, List.foldl_append, hrest, List.foldl_cons,
    List.foldl_nil, hfeed]
  exact endLine_cases (fieldsHave_cons_reverse hread' hfields')

/-- Line by line, more lines are put on those before. -/
theorem foldl_unquotedLines (all : List Bytes) (h : ∀ bytes ∈ all, IsUnquoted delimiter P bytes)
    (lines : List (List Bytes)) (count width met : Nat) :
    ∃ newer count' width', (all.flatMap (· ++ [lineFeed])).foldl (step delimiter)
        ⟨.lineStart, [], [], lines, count, width, false, met⟩ =
        ⟨.lineStart, [], [], newer ++ lines, count', width', false, met + all.length⟩ ∧
      ∀ line ∈ newer, FieldsHave P line := by
  induction all generalizing lines count width met with
  | nil => exact ⟨[], count, width, rfl, List.forall_mem_nil _⟩
  | cons bytes rest ih =>
    rw [List.forall_mem_cons] at h
    obtain ⟨newer, count', width', hfirst, hnewer, -, -⟩ :=
      foldl_unquoted h.1 lines count width met
    obtain ⟨newest, count'', width'', hrest, hnewest⟩ := ih h.2 (newer ++ lines) count' width'
      (met + 1)
    refine ⟨newest ++ newer, count'', width'', ?_, ?_⟩
    · rw [List.flatMap_cons, List.foldl_append, hfirst, hrest, List.append_assoc, List.length_cons,
        Nat.add_assoc, Nat.add_comm 1]
    · exact List.forall_mem_append.mpr ⟨hnewest, hnewer⟩

end Progress

/-- The lines of a text without quotes: a header made of the first line, and others made of all. -/
theorem Lines.ofBytes_unquoted {Q : UInt8 → Prop} {first : Bytes} {rest : List Bytes}
    (hfirst : IsUnquoted delimiter Q first) (hrest : ∀ bytes ∈ rest, IsUnquoted delimiter P bytes)
    (hascii : ∀ byte ∈ (first :: rest).flatMap (· ++ [lineFeed]), byte.toNat < 128) :
    ∃ header body, Lines.ofBytes delimiter ((first :: rest).flatMap (· ++ [lineFeed])) =
        ⟨header :: body, none⟩ ∧ FieldsHave Q header ∧ ∀ line ∈ body, FieldsHave P line := by
  obtain ⟨newer, count, width, hline, hnewer, hkept, hlength⟩ :=
    Progress.foldl_unquoted hfirst [] 0 0 0
  obtain ⟨header, rfl⟩ : ∃ header, newer = [header] := by
    cases newer with
    | nil => exact absurd (hkept rfl) (by decide)
    | cons header more =>
      cases more with
      | nil => exact ⟨header, rfl⟩
      | cons _ _ => simp at hlength
  obtain ⟨newest, count', width', hlines, hnewest⟩ :=
    Progress.foldl_unquotedLines rest hrest [header] count width 1
  have hfold : ((first :: rest).flatMap (· ++ [lineFeed])).foldl (Progress.step delimiter) .start =
      ⟨.lineStart, [], [], newest ++ [header], count', width', false, 1 + rest.length⟩ := by
    rw [List.flatMap_cons, List.foldl_append, Progress.start, hline]
    exact hlines
  refine ⟨header, newest.reverse, ?_, List.forall_mem_singleton.mp hnewer, fun line hline' =>
    hnewest line (List.mem_reverse.mp hline')⟩
  rw [Lines.ofBytes, skipByteOrderMark_ascii hascii, hfold]
  simp [Progress.finish]

/-- The byte of a plain character with a property. -/
def IsByteOf (S : Char → Prop) (byte : UInt8) : Prop :=
  ∃ c, (IsFieldChar c ∧ S c) ∧ byte = UInt8.ofNat c.toNat

variable {S : Char → Prop} {d : Char} {line : List Char} {field : Bytes} {fields : List Bytes}
  {texts : List String} {lines : Lines} {sheet : Sheet}

theorem isUnquoted_encode (hne : line ≠ []) (hline : ∀ c ∈ line, IsFieldChar c)
    (hproperty : ∀ c ∈ line, c ≠ d → S c) :
    IsUnquoted (UInt8.ofNat d.toNat) (IsByteOf S) (Utf8.encode line) := by
  rw [Utf8.encode_ascii (ascii_of_isFieldChar hline)]
  refine ⟨by simpa using hne, ?_, ?_⟩
  · rw [List.forall_mem_map]
    exact fun c hc => (hline c hc).isVisibleByte
  · rw [List.forall_mem_map]
    intro c hc hbyte
    have hdelimiter : c ≠ d := fun heq => hbyte (heq ▸ rfl)
    exact ⟨c, ⟨hline c hc, hproperty c hc hdelimiter⟩, rfl⟩

theorem exists_encode_eq (h : ∀ byte ∈ field, IsByteOf S byte) :
    ∃ text, field = Utf8.encode text ∧ ∀ c ∈ text, IsFieldChar c ∧ S c := by
  induction field with
  | nil => exact ⟨[], rfl, List.forall_mem_nil _⟩
  | cons byte rest ih =>
    rw [List.forall_mem_cons] at h
    obtain ⟨⟨c, hc, rfl⟩, hrest⟩ := h
    obtain ⟨text, rfl, htext⟩ := ih hrest
    have hcode := hc.1.code
    exact ⟨c :: text, (Utf8.encode_cons_ascii (by omega) text).symm,
      List.forall_mem_cons.mpr ⟨hc, htext⟩⟩

/-- Fields of plain characters give texts of these, as a header and below it. -/
theorem chars_of_fieldsHave {read : Bytes → Except Problem String}
    (hread : ∀ text, (∀ c ∈ text, IsFieldChar c) →
      read (Utf8.encode text) = .ok (String.ofList text))
    (hfields : FieldsHave (IsByteOf S) fields) (htexts : fields.mapM read = .ok texts) :
    ∀ text ∈ texts, ∀ c ∈ text.toList, S c := by
  rw [Except.mapM_eq_ok_iff] at htexts
  induction htexts with
  | nil => exact List.forall_mem_nil _
  | cons htext _ ih =>
    obtain ⟨hfield, hrest⟩ := List.forall_mem_cons.mp hfields
    refine List.forall_mem_cons.mpr ⟨?_, ih hrest⟩
    obtain ⟨chars, rfl, hchars⟩ := exists_encode_eq hfield
    rw [hread chars fun c hc => (hchars c hc).1] at htext
    obtain rfl := Except.ok.inj htext
    rw [String.toList_ofList]
    exact fun c hc => (hchars c hc).2

theorem fieldTexts_eq_ok {body : List (List Bytes)} {fields : List (List String)}
    (h : fieldTexts body = .ok fields) :
    body.mapM (fun line => line.mapM fieldText) = .ok fields := by
  unfold fieldTexts at h
  split at h
  case h_1 _ hbody => rw [hbody, Except.ok.inj h]
  case h_2 => cases h

/-- A sheet has the texts of its lines, the first of which is the header. -/
theorem Sheet.ofLines_eq_ok (h : Sheet.ofLines lines = .ok sheet) :
    ∃ header body, lines.lines = header :: body ∧ header.mapM headerText = .ok sheet.header ∧
      body.mapM (fun line => line.mapM fieldText) = .ok sheet.lines := by
  unfold Sheet.ofLines at h
  cases hlines : lines.lines with
  | nil =>
    simp only [hlines] at h
    split at h
    · simp only [Except.bind_eq_ok_iff] at h
      obtain ⟨-, -, h⟩ := h
      cases h
    · cases h
  | cons header body =>
    have hsheet : ∃ texts, header.mapM headerText = .ok texts ∧ ∃ fields,
        fieldTexts body = .ok fields ∧ Sheet.mk texts fields = sheet := by
      simp only [hlines] at h
      split at h <;> simp only [Except.bind_eq_ok_iff, Except.pure_eq_ok_iff] at h
      · obtain ⟨-, -, texts, htexts, -, -, hfields⟩ := h
        exact ⟨texts, htexts, hfields⟩
      · obtain ⟨texts, htexts, -, -, hfields⟩ := h
        exact ⟨texts, htexts, hfields⟩
    obtain ⟨texts, htexts, fields, hfields, rfl⟩ := hsheet
    exact ⟨header, body, rfl, htexts, fieldTexts_eq_ok hfields⟩

/-- Texts line by line, with their bytes. -/
theorem encode_flatMap (all : List (List Char)) :
    Utf8.encode (all.flatMap (· ++ ['\n'])) = (all.map Utf8.encode).flatMap (· ++ [lineFeed]) := by
  induction all with
  | nil => rfl
  | cons line rest ih =>
    rw [List.flatMap_cons, Utf8.encode_append, Utf8.encode_append, ih]
    rfl

theorem ascii_of_isFieldChar_lines {all : List (List Char)}
    (h : ∀ line ∈ all, ∀ c ∈ line, IsFieldChar c) :
    ∀ c ∈ all.flatMap (· ++ ['\n']), c.toNat < 128 := by
  intro c hc
  obtain ⟨line, hline, hc⟩ := List.mem_flatMap.mp hc
  rcases List.mem_append.mp hc with hc | hc
  · exact ascii_of_isFieldChar (h line hline) c hc
  · rw [List.mem_singleton.mp hc]
    decide

/-- Read under a delimiter that is a plain character, lines of plain text give a header with what is
left of the first line without it, and fields that do not have it. -/
theorem read_unquoted {first : List Char} {rest : List (List Char)} (hd : IsFieldChar d)
    (hne : ∀ line ∈ first :: rest, line ≠ [])
    (hplain : ∀ line ∈ first :: rest, ∀ c ∈ line, IsFieldChar c)
    (hdelimiter : delimiterOf (Utf8.encode ((first :: rest).flatMap (· ++ ['\n']))) = d)
    (hread : read (Utf8.encode ((first :: rest).flatMap (· ++ ['\n']))) = .ok sheet) :
    (∀ text ∈ sheet.header, ∀ c ∈ text.toList, c ∈ first ∧ c ≠ d) ∧
      ∀ texts ∈ sheet.lines, ∀ text ∈ texts, ∀ c ∈ text.toList, c ≠ d := by
  have hcode := hd.code
  have hreturn : d ≠ '\r' := hd.ne (by decide)
  have hascii := Utf8.lt_of_mem_encode (ascii_of_isFieldChar_lines hplain)
  simp only [read, hdelimiter, if_neg hreturn] at hread
  rw [if_pos (by omega)] at hread
  obtain ⟨header, body, hlines, htexts, hfields⟩ := Sheet.ofLines_eq_ok hread
  rw [encode_flatMap, List.map_cons] at hascii hlines
  rw [List.forall_mem_cons] at hne hplain
  have hfirst : IsUnquoted (UInt8.ofNat d.toNat) (IsByteOf fun c => c ∈ first ∧ c ≠ d)
      (Utf8.encode first) := isUnquoted_encode hne.1 hplain.1 fun c hc hc' => ⟨hc, hc'⟩
  have hrest : ∀ bytes ∈ rest.map Utf8.encode,
      IsUnquoted (UInt8.ofNat d.toNat) (IsByteOf fun c => c ≠ d) bytes := by
    rw [List.forall_mem_map]
    exact fun line hline =>
      isUnquoted_encode (hne.2 line hline) (hplain.2 line hline) fun c _ hc' => hc'
  obtain ⟨header', body', hsplit, hheader, hbody⟩ := Lines.ofBytes_unquoted hfirst hrest hascii
  rw [hsplit] at hlines
  obtain ⟨rfl, rfl⟩ := List.cons.inj hlines
  refine ⟨chars_of_fieldsHave (fun _ => headerText_plain) hheader htexts, ?_⟩
  intro texts hmem
  obtain ⟨line, hline, hline'⟩ := Except.exists_mem_of_mapM hfields hmem
  exact chars_of_fieldsHave (fun text _ => fieldText_encode text) (hbody line hline) hline'

end TableTalk.Csv
