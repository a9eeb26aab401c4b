import Mathlib.Data.List.TakeWhile
import TableTalk.Csv.Reader
import TableTalk.Csv.Writer
import TableTalk.Proofs.Csv.Delimiter
import TableTalk.Proofs.Csv.Lines
import TableTalk.Proofs.Except
import TableTalk.Proofs.Number.Decimal
import TableTalk.Proofs.Text.Ascii
import TableTalk.Proofs.Text.Utf8

/-! A written sheet of plain fields is read back, as long as the delimiter is guessed from all of
it: the fields need no quotes, so every line shows as many commas as any other. -/
namespace TableTalk.Csv
open TableTalk.Text

/-- What a plain field is made of. -/
def IsFieldChar (c : Char) : Prop := c.isAlphanum = true ∨ c = '_' ∨ c = '-' ∨ c = '.'

instance : DecidablePred IsFieldChar := fun c =>
  inferInstanceAs (Decidable (c.isAlphanum = true ∨ c = '_' ∨ c = '-' ∨ c = '.'))

theorem IsFieldChar.code {c : Char} (h : IsFieldChar c) : 45 ≤ c.toNat ∧ c.toNat ≤ 122 := by
  rcases h with halphanum | rfl | rfl | rfl
  · rw [isAlphanum_iff, isUpper_iff, isLower_iff, isDigit_iff] at halphanum
    omega
  all_goals decide

theorem IsFieldChar.ne {c d : Char} (h : IsFieldChar c) (hd : d.toNat < 45) : c ≠ d := by
  rintro rfl
  have hcode := h.code
  omega

theorem ascii_of_isFieldChar {field : List Char} (h : ∀ c ∈ field, IsFieldChar c) :
    ∀ c ∈ field, c.toNat < 128 := by
  intro c hc
  have hcode := (h c hc).code
  omega

theorem IsFieldChar.byte_ne {c : Char} (h : IsFieldChar c) {n : UInt8} (hn : n.toNat < 45) :
    UInt8.ofNat c.toNat ≠ n := by
  have hcode := h.code
  have hvalue : (UInt8.ofNat c.toNat).toNat = c.toNat := Utf8.toNat_ofNat_ascii (by omega)
  rintro rfl
  omega

theorem IsFieldChar.isVisibleByte {c : Char} (h : IsFieldChar c) :
    IsVisibleByte (UInt8.ofNat c.toNat) :=
  ⟨h.byte_ne (by decide), h.byte_ne (by decide), h.byte_ne (by decide), h.byte_ne (by decide),
    h.byte_ne (by decide)⟩

theorem IsFieldChar.isPlainByte {c : Char} (h : IsFieldChar c) :
    IsPlainByte 44 (UInt8.ofNat c.toNat) :=
  h.isVisibleByte.isPlainByte (h.byte_ne (by decide))

/-- So many plain fields. -/
structure IsPlainRecord (size : Nat) (fields : List (List Char)) : Prop where
  length : fields.length = size
  plain : ∀ field ∈ fields, ∀ c ∈ field, IsFieldChar c

/-- Plain fields as they stand in a line. -/
def plainLine : List (List Char) → List Char
  | [] => []
  | field :: further => field ++ further.flatMap (fun field => ',' :: field)

variable {size : Nat} {fields : List (List Char)} {records : List (List (List Char))}

theorem writeField_plain {field : List Char} (h : ∀ c ∈ field, IsFieldChar c) :
    writeField field = field := by
  have hquotes : needsQuotes field = false := by
    rw [needsQuotes_eq_false_iff]
    exact fun c hc =>
      ⟨⟨(h c hc).ne (by decide), (h c hc).ne (by decide)⟩, (h c hc).ne (by decide)⟩
  rw [writeField, hquotes]
  rfl

theorem writeFurther_plain (h : ∀ field ∈ fields, ∀ c ∈ field, IsFieldChar c) :
    writeFurther fields = fields.flatMap (fun field => ',' :: field) := by
  induction fields with
  | nil => rfl
  | cons field rest ih =>
    rw [List.forall_mem_cons] at h
    rw [writeFurther, writeField_plain h.1, ih h.2]
    rfl

theorem writeRecord_plain (h : IsPlainRecord size fields) (hsize : 2 ≤ size) :
    writeRecord fields = plainLine fields ++ ['\n'] := by
  obtain ⟨hlength, hplain⟩ := h
  match fields with
  | [] | [_] => simp at hlength; omega
  | first :: second :: rest =>
    rw [List.forall_mem_cons] at hplain
    rw [writeRecord, writeField_plain hplain.1, writeFurther_plain hplain.2, plainLine]
    · rfl
    · simp

theorem mem_plainLine (h : IsPlainRecord size fields) :
    ∀ c ∈ plainLine fields, IsFieldChar c ∨ c = ',' := by
  obtain ⟨-, hplain⟩ := h
  cases fields with
  | nil => exact fun c hc => nomatch hc
  | cons field further =>
    intro c hc
    rw [List.forall_mem_cons] at hplain
    rcases List.mem_append.mp hc with hc | hc
    · exact .inl (hplain.1 c hc)
    · obtain ⟨other, hother, hc⟩ := List.mem_flatMap.mp hc
      rcases List.mem_cons.mp hc with hcomma | hc
      · exact .inr hcomma
      · exact .inl (hplain.2 other hother c hc)

/-- A plain line has a comma less than fields. -/
theorem count_plainLine (h : IsPlainRecord size fields) :
    (plainLine fields).count ',' = size - 1 := by
  obtain ⟨hlength, hplain⟩ := h
  have hnone {field : List Char} (hfield : ∀ c ∈ field, IsFieldChar c) : field.count ',' = 0 :=
    List.count_eq_zero.mpr fun hmem => (hfield ',' hmem).ne (by decide) rfl
  have hfurther (fields : List (List Char))
      (hplain : ∀ field ∈ fields, ∀ c ∈ field, IsFieldChar c) :
      (fields.flatMap (fun field => ',' :: field)).count ',' = fields.length := by
    induction fields with
    | nil => rfl
    | cons field rest ih =>
      rw [List.forall_mem_cons] at hplain
      rw [List.flatMap_cons, List.count_append, List.count_cons_self, hnone hplain.1, ih hplain.2,
        List.length_cons]
      omega
  cases fields with
  | nil => rw [← hlength]; rfl
  | cons field further =>
    rw [List.forall_mem_cons] at hplain
    rw [plainLine, List.count_append, hnone hplain.1, hfurther further hplain.2, ← hlength]
    simp

theorem encode_plainLine (hne : fields ≠ []) :
    Utf8.encode (plainLine fields ++ ['\n']) = lineBytes 44 (fields.map Utf8.encode) := by
  have hfurther (fields : List (List Char)) :
      Utf8.encode (fields.flatMap (fun field => ',' :: field)) =
        furtherBytes 44 (fields.map Utf8.encode) := by
    induction fields with
    | nil => rfl
    | cons field rest ih =>
      rw [List.flatMap_cons, Utf8.encode_append, ih, Utf8.encode_cons_ascii (by decide)]
      rfl
  cases fields with
  | nil => exact absurd rfl hne
  | cons field further =>
    rw [plainLine, Utf8.encode_append, Utf8.encode_append, hfurther, List.append_assoc]
    rfl

theorem writeRecords_plain (h : ∀ fields ∈ records, IsPlainRecord size fields) (hsize : 2 ≤ size) :
    writeRecords records = (records.map plainLine).flatMap (fun line => line ++ ['\n']) := by
  rw [writeRecords, List.flatMap_map]
  exact List.flatMap_congr fun fields hfields => writeRecord_plain (h fields hfields) hsize

theorem writeRecords_ascii (h : ∀ fields ∈ records, IsPlainRecord size fields) (hsize : 2 ≤ size) :
    ∀ c ∈ writeRecords records, c.toNat < 128 := by
  intro c hc
  rw [writeRecords_plain h hsize, List.mem_flatMap] at hc
  obtain ⟨line, hline, hc⟩ := hc
  obtain ⟨fields, hfields, rfl⟩ := List.mem_map.mp hline
  rcases List.mem_append.mp hc with hc | hc
  · rcases mem_plainLine (h fields hfields) c hc with hchar | rfl
    · have hcode := hchar.code
      omega
    · decide
  · rw [List.mem_singleton.mp hc]
    decide

theorem encode_writeRecords (h : ∀ fields ∈ records, IsPlainRecord size fields)
    (hsize : 2 ≤ size) : Utf8.encode (writeRecords records) =
      (records.map (List.map Utf8.encode)).flatMap (lineBytes 44) := by
  rw [writeRecords_plain h hsize, List.flatMap_map, List.flatMap_map]
  induction records with
  | nil => rfl
  | cons fields rest ih =>
    rw [List.forall_mem_cons] at h
    have hne : fields ≠ [] := by
      rintro rfl
      exact absurd h.1.length (by simp; omega)
    rw [List.flatMap_cons, List.flatMap_cons, Utf8.encode_append, encode_plainLine hne, ih h.2]

/-- Of a written sheet no field is longer than the whole. -/
theorem length_le_of_mem (h : ∀ fields ∈ records, IsPlainRecord size fields) (hsize : 2 ≤ size)
    {fields : List (List Char)} (hfields : fields ∈ records) {field : List Char}
    (hfield : field ∈ fields) : field.length ≤ (Utf8.encode (writeRecords records)).length := by
  have hline : field.Sublist (plainLine fields ++ ['\n']) := by
    apply List.Sublist.trans _ (List.sublist_append_left _ _)
    cases fields with
    | nil => cases hfield
    | cons first further =>
      rcases List.mem_cons.mp hfield with rfl | hfield
      · exact List.sublist_append_left _ _
      · apply List.Sublist.trans _ (List.sublist_append_right first _)
        rw [List.flatMap_def]
        apply List.Sublist.trans (List.sublist_cons_self ',' field)
        exact List.sublist_flatten_of_mem (List.mem_map_of_mem hfield)
  have hall : (plainLine fields ++ ['\n']).Sublist (writeRecords records) := by
    rw [writeRecords_plain h hsize, List.flatMap_map, List.flatMap_def]
    exact List.sublist_flatten_of_mem (List.mem_map_of_mem hfields)
  rw [Utf8.length_encode_ascii (writeRecords_ascii h hsize)]
  exact (hline.trans hall).length_le

theorem delimiterOf_plain (h : ∀ fields ∈ records, IsPlainRecord size fields) (hsize : 2 ≤ size)
    (hne : records ≠ [])
    (hsample : (Utf8.encode (writeRecords records)).length ≤ sampleSize) :
    delimiterOf (Utf8.encode (writeRecords records)) = ',' := by
  have hguess : Delimiter.guess? (writeRecords records) = some ',' := by
    have hpos : 0 < size - 1 := by omega
    rw [writeRecords_plain h hsize]
    apply Delimiter.guess?_eq_comma (by simpa using hne) hpos
    · rw [List.forall_mem_map]
      exact fun fields hfields => count_plainLine (h fields hfields)
    · rw [List.forall_mem_map]
      intro fields hfields hmem
      rcases mem_plainLine (h fields hfields) _ hmem with hchar | hcomma
      · exact hchar.ne (by decide) rfl
      · cases hcomma
    · rw [List.forall_mem_map]
      intro fields hfields c hc
      rcases mem_plainLine (h fields hfields) c hc with hchar | rfl
      · have hdouble : c ≠ '"' := hchar.ne (by decide)
        have hsingle : c ≠ '\'' := hchar.ne (by decide)
        simp [Delimiter.isQuote, hdouble, hsingle]
      · rfl
  rw [delimiterOf, List.take_of_length_le hsample, Utf8.decode_encode]
  simp [hguess]

theorem ofBytes_plain (h : ∀ fields ∈ records, IsPlainRecord size fields) (hsize : 2 ≤ size) :
    Lines.ofBytes 44 (Utf8.encode (writeRecords records)) =
      ⟨records.map (List.map Utf8.encode), none⟩ := by
  have hseparator : IsSeparator 44 := ⟨by decide, by decide, by decide⟩
  have hlines : ∀ line ∈ records.map (List.map Utf8.encode), IsPlainLine 44 size line := by
    rw [List.forall_mem_map]
    intro fields hfields
    obtain ⟨hlength, hplain⟩ := h fields hfields
    have hcount : (fields.map Utf8.encode).length = size := by rw [List.length_map, hlength]
    refine ⟨hcount, ?_, ?_, ?_⟩
    · intro hnil
      simp [hnil] at hcount
      omega
    · intro hsingle
      simp [hsingle] at hcount
      omega
    · rw [List.forall_mem_map]
      intro field hfield byte hbyte
      rw [Utf8.encode_ascii (ascii_of_isFieldChar (hplain field hfield)), List.mem_map] at hbyte
      obtain ⟨c, hc, rfl⟩ := hbyte
      exact (hplain field hfield c hc).isPlainByte
  have hascii := Utf8.lt_of_mem_encode (writeRecords_ascii h hsize)
  rw [encode_writeRecords h hsize] at hascii ⊢
  exact Lines.ofBytes_lineBytes hseparator hlines hascii

theorem fieldText_encode (field : List Char) :
    fieldText (Utf8.encode field) = .ok (String.ofList field) := by
  rw [fieldText, Utf8.decode_encode]

theorem headerText_plain {field : List Char} (h : ∀ c ∈ field, IsFieldChar c) :
    headerText (Utf8.encode field) = .ok (String.ofList field) := by
  have hascii := ascii_of_isFieldChar h
  have hzero : ∀ byte ∈ Utf8.encode field, byte ≠ 0 := by
    rw [Utf8.encode_ascii hascii, List.forall_mem_map]
    intro c hc heq
    have hcode := (h c hc).code
    have hvalue := Utf8.toNat_ofNat_ascii (hascii c hc)
    rw [heq] at hvalue
    have hnone : (0 : UInt8).toNat = 0 := rfl
    omega
  have hwhole : (Utf8.encode field).takeWhile (· ≠ 0) = Utf8.encode field :=
    List.takeWhile_eq_self_iff.mpr fun byte hbyte => by simpa using hzero byte hbyte
  rw [headerText, hwhole, fieldText_encode]

variable {header : List (List Char)} {body : List (List (List Char))}

/-- The sheet of lines under a plain header has the texts of their fields. -/
theorem Sheet.ofLines_plain (hheader : ∀ field ∈ header, ∀ c ∈ field, IsFieldChar c)
    (body : List (List (List Char))) :
    Sheet.ofLines ⟨(header :: body).map (List.map Utf8.encode), none⟩ =
      .ok ⟨header.map String.ofList, body.map (List.map String.ofList)⟩ := by
  have htexts : (header.map Utf8.encode).mapM headerText = .ok (header.map String.ofList) := by
    rw [Except.mapM_eq_ok_iff, List.forall₂_map_left_iff, List.forall₂_map_right_iff,
      List.forall₂_same]
    exact fun field hfield => headerText_plain (hheader field hfield)
  have hfields : fieldTexts (body.map (List.map Utf8.encode)) =
      .ok (body.map (List.map String.ofList)) := by
    have hlines : (body.map (List.map Utf8.encode)).mapM (fun line => line.mapM fieldText) =
        .ok (body.map (List.map String.ofList)) := by
      rw [Except.mapM_eq_ok_iff, List.forall₂_map_left_iff, List.forall₂_map_right_iff,
        List.forall₂_same]
      intro fields _
      rw [Except.mapM_eq_ok_iff, List.forall₂_map_left_iff, List.forall₂_map_right_iff,
        List.forall₂_same]
      exact fun field _ => fieldText_encode field
    rw [fieldTexts, hlines]
  unfold Sheet.ofLines
  simp only [List.map_cons, htexts, hfields, checkClosed]
  split <;> rfl

/-- Plain records are read back as they were written. -/
theorem read_plain (h : ∀ fields ∈ header :: body, IsPlainRecord size fields) (hsize : 2 ≤ size)
    (hsample : (Utf8.encode (writeRecords (header :: body))).length ≤ sampleSize) :
    read (Utf8.encode (writeRecords (header :: body))) =
      .ok ⟨header.map String.ofList, body.map (List.map String.ofList)⟩ := by
  have hdelimiter := delimiterOf_plain h hsize (List.cons_ne_nil header body) hsample
  have hlines := ofBytes_plain h hsize
  rw [List.forall_mem_cons] at h
  have hsheet := Sheet.ofLines_plain h.1.plain body
  rw [← hlines] at hsheet
  simp only [read, hdelimiter]
  exact hsheet

end TableTalk.Csv
