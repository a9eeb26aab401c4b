import TableTalk.Proofs.Csv.Recurring
import TableTalk.Proofs.Csv.Unquoted
import TableTalk.Proofs.Ingest.ExportedTable
import TableTalk.Proofs.Ingest.MergedColumns

/-! Files of one column, a name and then a cell in each line. They hold no delimiter, and yet one
may be told from them: a letter or a digit that stands equally often in nearly all of their first
lines. Exactly if there is none, the column is read as it stands. -/
namespace TableTalk
open TableTalk.Text

namespace Ingest

/-- A name of small letters, and at least one cell of letters and digits. -/
structure IsColumn (header : String) (cells : List String) : Prop where
  header_ne : header ≠ ""
  letters : ∀ c ∈ header.toList, c.isLower = true
  cells_ne : cells ≠ []
  filled : ∀ cell ∈ cells, cell ≠ ""
  plain : ∀ cell ∈ cells, ∀ c ∈ cell.toList, c.isAlphanum = true
  short : ∀ cell ∈ cells, cell.toList.length ≤ digitLimit

instance (header : String) (cells : List String) : Decidable (IsColumn header cells) :=
  decidable_of_iff (header ≠ "" ∧ header.toList.all Char.isLower = true ∧ cells ≠ [] ∧
      cells.all (fun cell => cell != "" && cell.toList.all Char.isAlphanum &&
        decide (cell.toList.length ≤ digitLimit)) = true) <| by
    simp only [List.all_eq_true, Bool.and_eq_true, bne_iff_ne, decide_eq_true_eq]
    constructor
    · rintro ⟨hheader, hletters, hne, hcells⟩
      exact ⟨hheader, hletters, hne, fun cell hcell => (hcells cell hcell).1.1,
        fun cell hcell => (hcells cell hcell).1.2, fun cell hcell => (hcells cell hcell).2⟩
    · rintro ⟨hheader, hletters, hne, hfilled, hplain, hshort⟩
      exact ⟨hheader, hletters, hne, fun cell hcell =>
        ⟨⟨hfilled cell hcell, hplain cell hcell⟩, hshort cell hcell⟩⟩

/-- The text of a column, line by line. -/
def columnText (header : String) (cells : List String) : List Char :=
  ((header :: cells).map String.toList).flatMap (· ++ ['\n'])

variable {settings : Settings} {filename header : String} {cells : List String}

theorem IsColumn.lines_ne (h : IsColumn header cells) :
    ∀ line ∈ (header :: cells).map String.toList, line ≠ [] := by
  rw [List.forall_mem_map, List.forall_mem_cons]
  exact ⟨by simpa using h.header_ne, fun cell hcell => by simpa using h.filled cell hcell⟩

theorem IsColumn.lines_alphanum (h : IsColumn header cells) :
    ∀ line ∈ (header :: cells).map String.toList, ∀ c ∈ line, c.isAlphanum = true := by
  rw [List.forall_mem_map, List.forall_mem_cons]
  exact ⟨fun c hc => isAlphanum_iff.mpr (.inl (.inr (h.letters c hc))), h.plain⟩

theorem IsColumn.lines_plain (h : IsColumn header cells) :
    ∀ line ∈ (header :: cells).map String.toList, ∀ c ∈ line, Csv.IsFieldChar c :=
  fun line hline c hc => .inl (h.lines_alphanum line hline c hc)

theorem IsColumn.ascii (h : IsColumn header cells) :
    ∀ c ∈ columnText header cells, c.toNat < 128 :=
  Csv.ascii_of_isFieldChar_lines h.lines_plain

/-- A character of the text is a line feed, or in a line and no quote. -/
theorem IsColumn.mem_columnText (h : IsColumn header cells) {c : Char}
    (hc : c ∈ columnText header cells) :
    c = '\n' ∨ Csv.IsFieldChar c ∧ (c ∈ header.toList ∨ ∃ cell ∈ cells, c ∈ cell.toList) := by
  obtain ⟨line, hline, hc⟩ := List.mem_flatMap.mp hc
  rcases List.mem_append.mp hc with hc | hc
  · refine .inr ⟨h.lines_plain line hline c hc, ?_⟩
    rw [List.map_cons, List.mem_cons, List.mem_map] at hline
    rcases hline with rfl | ⟨cell, hcell, rfl⟩
    · exact .inl hc
    · exact .inr ⟨cell, hcell, hc⟩
  · exact .inl (List.mem_singleton.mp hc)

theorem IsColumn.isQuote_eq_false (h : IsColumn header cells) :
    ∀ c ∈ (columnText header cells).take Csv.sampleSize, Csv.Delimiter.isQuote c = false := by
  intro c hc
  rcases h.mem_columnText (List.mem_of_mem_take hc) with rfl | ⟨hplain, -⟩
  · rfl
  · have hdouble : c ≠ '"' := hplain.ne (by decide)
    have hsingle : c ≠ '\'' := hplain.ne (by decide)
    simp [Csv.Delimiter.isQuote, hdouble, hsingle]

theorem IsColumn.delimiterOf_eq (h : IsColumn header cells) :
    Csv.delimiterOf (Utf8.encode (columnText header cells)) =
      (Csv.Delimiter.guess? ((columnText header cells).take Csv.sampleSize)).getD ',' := by
  have htake : ∀ c ∈ (columnText header cells).take Csv.sampleSize, c.toNat < 128 :=
    fun c hc => h.ascii c (List.mem_of_mem_take hc)
  have hencode : (Utf8.encode (columnText header cells)).take Csv.sampleSize =
      Utf8.encode ((columnText header cells).take Csv.sampleSize) := by
    rw [Utf8.encode_ascii h.ascii, Utf8.encode_ascii htake, List.map_take]
  rw [Csv.delimiterOf, hencode, Utf8.decode_encode]

/-- Under the comma every line is one field. -/
theorem IsColumn.ofBytes_eq (h : IsColumn header cells) :
    Csv.Lines.ofBytes 44 (Utf8.encode (columnText header cells)) =
      ⟨([header.toList] :: cells.map fun cell => [cell.toList]).map (List.map Utf8.encode),
        none⟩ := by
  have hlines : ([header.toList] :: cells.map fun cell => [cell.toList]).map
      (List.map Utf8.encode) =
        ((header :: cells).map String.toList).map fun line => [Utf8.encode line] := by
    simp [Function.comp_def]
  have hbytes : Utf8.encode (columnText header cells) =
      (((header :: cells).map String.toList).map fun line => [Utf8.encode line]).flatMap
        (Csv.lineBytes 44) := by
    rw [columnText, Csv.encode_flatMap, List.flatMap_map _ (Csv.lineBytes 44), List.flatMap_map]
    rfl
  have hascii := Utf8.lt_of_mem_encode h.ascii
  have hsplit : ∀ line ∈ ((header :: cells).map String.toList).map fun line =>
      [Utf8.encode line], Csv.IsPlainLine 44 1 line := by
    rw [List.forall_mem_map]
    intro line hline
    have hplain := h.lines_plain line hline
    rw [Utf8.encode_ascii (Csv.ascii_of_isFieldChar hplain)]
    refine ⟨rfl, List.cons_ne_nil _ _, by simpa using h.lines_ne line hline, ?_⟩
    rw [List.forall_mem_singleton, List.forall_mem_map]
    exact fun c hc => (hplain c hc).isPlainByte
  rw [hlines]
  rw [hbytes] at hascii ⊢
  exact Csv.Lines.ofBytes_lineBytes ⟨by decide, by decide, by decide⟩ hsplit hascii

theorem IsColumn.read_eq (h : IsColumn header cells)
    (hcomma : Csv.delimiterOf (Utf8.encode (columnText header cells)) = ',') :
    Csv.read (Utf8.encode (columnText header cells)) =
      .ok ⟨[header], cells.map fun cell => [cell]⟩ := by
  have hplain := h.lines_plain
  rw [List.forall_mem_map, List.forall_mem_cons] at hplain
  have hsheet := Csv.Sheet.ofLines_plain (List.forall_mem_singleton.mpr hplain.1)
    (cells.map fun cell => [cell.toList])
  rw [← h.ofBytes_eq] at hsheet
  have hbyte : UInt8.ofNat (',' : Char).toNat = 44 := by decide
  simp only [Csv.read, hcomma]
  rw [if_neg (by decide), if_pos (by decide), hbyte, hsheet]
  simp [Function.comp_def]

theorem IsColumn.ofFile_of_comma (h : IsColumn header cells)
    (hname : isJsonName filename = false)
    (hsize : isTooLarge settings (Utf8.encode (columnText header cells)) = false)
    (hcomma : Csv.delimiterOf (Utf8.encode (columnText header cells)) = ',') :
    ∃ dataset, ofFile settings (Utf8.encode (columnText header cells)) filename = .ok dataset ∧
      dataset.rows = cells.map fun cell => [(header, .text cell)] := by
  have hrecords : records filename (Utf8.encode (columnText header cells)) =
      .ok (cells.map fun cell => [(header, Cell.text cell)]) := by
    simp only [records, hname, Bool.false_eq_true, if_false, csvRecords, h.read_eq hcomma,
      Except.mapError, Except.ok_bind]
    rw [Csv.Sheet.records_eq_zip (List.nodup_singleton header)
      (List.forall_mem_singleton.mpr h.header_ne) (by simp), List.map_map, List.map_map]
    rfl
  have hclean : ColumnName.normalize header = header :=
    ColumnName.normalize_eq_self fun c hc => .inl (h.letters c hc)
  apply exists_ofFile_eq_ok hsize hrecords
  · rw [List.map_map]
    apply List.map_congr_left
    intro cell _
    exact cleanRow_eq_self (List.nodup_singleton header) (List.forall_mem_singleton.mpr hclean)
  · simpa using h.cells_ne
  · rw [List.forall_mem_map]
    intro cell hcell
    exact List.forall_mem_singleton.mpr ⟨rfl, Cell.not_isOverlong_of_length (h.short cell hcell)⟩

/-- A cell of a cleaned row is one of the record. -/
theorem mem_of_get_cleanRow {record : List (String × Cell)} {column text : String}
    (h : (cleanRow record).get column = .text text) : ∃ entry ∈ record, entry.2 = .text text := by
  rw [(isCleaned_cleanRow record).last] at h
  cases hfound : record.reverse.find? fun entry => ColumnName.normalize entry.1 == column with
  | none =>
    rw [hfound] at h
    cases h
  | some entry =>
    rw [hfound] at h
    exact ⟨entry, List.mem_reverse.mp (List.mem_of_find?_eq_some hfound), h⟩

/-- A name that is cleaned to small letters is a text of its header, as a number would stay. -/
theorem not_mem_of_mem_names {texts : List String} {name : String} {d : Char}
    (hname : name ∈ Csv.Header.names texts)
    (htexts : ∀ text ∈ texts, ∀ c ∈ text.toList, c.isLower = true ∧ c ≠ d)
    (hletters : ∀ c ∈ (ColumnName.normalize name).toList, c.isLower = true) :
    d ∉ (ColumnName.normalize name).toList := by
  rcases Csv.Header.isGivenOrNumbered_names texts name hname with hgiven | ⟨c, hc, hdigit⟩
  · rw [ColumnName.normalize_eq_self fun c hc => .inl (htexts name hgiven c hc).1]
    exact fun hd => (htexts name hgiven d hd).2 rfl
  · have hclean : ColumnName.IsClean c := ColumnName.IsNameChar.isClean (.inr (.inl hdigit))
    have hkept : c ∈ (ColumnName.normalize name).toList := by
      rw [ColumnName.normalize, String.toList_ofList]
      exact ColumnName.mem_normalizeChars hc hclean
    have hlower := isLower_iff.mp (hletters c hkept)
    rw [isDigit_iff] at hdigit
    omega

/-- Under a character of the text as delimiter something of the column is gone. -/
theorem IsColumn.rows_ne (h : IsColumn header cells) {d : Char} {dataset : Dataset}
    (hname : isJsonName filename = false)
    (hdelimiter : Csv.delimiterOf (Utf8.encode (columnText header cells)) = d)
    (hd : Csv.IsFieldChar d) (hmem : d ∈ header.toList ∨ ∃ cell ∈ cells, d ∈ cell.toList)
    (hfile : ofFile settings (Utf8.encode (columnText header cells)) filename = .ok dataset) :
    dataset.rows ≠ cells.map fun cell => [(header, .text cell)] := by
  obtain ⟨records, hrecords, hbuild⟩ := ofFile_eq_ok hfile
  unfold Ingest.records at hrecords
  rw [if_neg (by simp [hname])] at hrecords
  obtain ⟨sheet, hsheet, rfl⟩ := csvRecords_eq_ok hrecords
  obtain ⟨hheader, hlines⟩ := Csv.read_unquoted hd h.lines_ne h.lines_plain hdelimiter hsheet
  rw [Dataset.rows_of_build hbuild]
  intro hrows
  have hrow (cell : String) (hcell : cell ∈ cells) : ∃ record ∈ sheet.records,
      cleanRow (record.map fun entry => (entry.1, Cell.text entry.2)) =
        [(header, .text cell)] := by
    have hmem : [(header, Cell.text cell)] ∈ cells.map fun cell => [(header, Cell.text cell)] :=
      List.mem_map_of_mem hcell
    rw [← hrows, List.map_map] at hmem
    exact List.mem_map.mp hmem
  rcases hmem with hin | ⟨cell, hcell, hin⟩
  · obtain ⟨cell, hcell⟩ := List.exists_mem_of_ne_nil cells h.cells_ne
    obtain ⟨record, hrecord, hclean⟩ := hrow cell hcell
    have hcolumn : header ∈ (cleanRow (record.map fun entry =>
        (entry.1, Cell.text entry.2))).columns := by
      rw [hclean]
      exact List.mem_singleton_self header
    obtain ⟨_, hmapped, hname⟩ := exists_name_of_mem_cleanRow hcolumn
    obtain ⟨entry, hentry, rfl⟩ := List.mem_map.mp hmapped
    have hname : ColumnName.normalize entry.1 = header := hname
    have htexts : ∀ text ∈ sheet.header, ∀ c ∈ text.toList, c.isLower = true ∧ c ≠ d :=
      fun text htext c hc =>
        ⟨h.letters c (hheader text htext c hc).1, (hheader text htext c hc).2⟩
    have hgone := not_mem_of_mem_names (Csv.Sheet.mem_records hrecord entry hentry).1 htexts
    rw [hname] at hgone
    exact hgone h.letters hin
  · obtain ⟨record, hrecord, hclean⟩ := hrow cell hcell
    have hget : (cleanRow (record.map fun entry => (entry.1, Cell.text entry.2))).get header =
        .text cell := by
      rw [hclean, Row.get_cons, if_pos rfl]
    obtain ⟨_, hmapped, htext⟩ := mem_of_get_cleanRow hget
    obtain ⟨entry, hentry, rfl⟩ := List.mem_map.mp hmapped
    obtain rfl := Cell.text.inj htext
    obtain ⟨-, fields, hfields, hfield⟩ := Csv.Sheet.mem_records hrecord entry hentry
    exact hlines fields hfields _ hfield d hin rfl

/-- A file of one column gives just that column exactly if it is not too large and no character
recurs in its beginning. -/
theorem ofFile_columnText_iff (h : IsColumn header cells) (hname : isJsonName filename = false) :
    (∃ dataset, ofFile settings (Utf8.encode (columnText header cells)) filename = .ok dataset ∧
      dataset.rows = cells.map fun cell => [(header, .text cell)]) ↔
    isTooLarge settings (Utf8.encode (columnText header cells)) = false ∧
      ¬ Csv.Delimiter.HasRecurring ((columnText header cells).take Csv.sampleSize) := by
  have hquote := h.isQuote_eq_false
  have hdelimiter := h.delimiterOf_eq
  constructor
  · rintro ⟨dataset, hfile, hrows⟩
    constructor
    · exact isTooLarge_of_ofFile hfile
    · rw [← Csv.Delimiter.guess?_eq_none_iff hquote, Option.eq_none_iff_forall_ne_some]
      intro d hguess
      rw [hguess, Option.getD_some] at hdelimiter
      obtain ⟨hmem, hfeed⟩ := Csv.Delimiter.mem_of_guess? hquote hguess
      obtain ⟨hplain, hin⟩ := (h.mem_columnText (List.mem_of_mem_take hmem)).resolve_left hfeed
      exact h.rows_ne hname hdelimiter hplain hin hfile hrows
  · rintro ⟨hsize, hrecurring⟩
    rw [(Csv.Delimiter.guess?_eq_none_iff hquote).mpr hrecurring, Option.getD_none] at hdelimiter
    exact h.ofFile_of_comma hname hsize hdelimiter

/-- Three lines in which no character stands equally often. -/
theorem ofFile_columnText_cities :
    IsColumn "city" ["Oslo", "Rome"] ∧ isJsonName "cities.csv" = false ∧
      columnText "city" ["Oslo", "Rome"] = "city\nOslo\nRome\n".toList ∧
      ¬ Csv.Delimiter.HasRecurring ((columnText "city" ["Oslo", "Rome"]).take Csv.sampleSize) ∧
      ∃ dataset, ofFile {} (Utf8.encode (columnText "city" ["Oslo", "Rome"])) "cities.csv" =
          .ok dataset ∧
        dataset.rows = [[("city", .text "Oslo")], [("city", .text "Rome")]] := by
  have hcolumn : IsColumn "city" ["Oslo", "Rome"] := by decide
  have hname : isJsonName "cities.csv" = false := by decide +kernel
  have hguess : Csv.Delimiter.guess?
      ((columnText "city" ["Oslo", "Rome"]).take Csv.sampleSize) = none := by decide +kernel
  have hrecurring := (Csv.Delimiter.guess?_eq_none_iff hcolumn.isQuote_eq_false).mp hguess
  exact ⟨hcolumn, hname, by decide, hrecurring,
    (ofFile_columnText_iff hcolumn hname).mpr ⟨by decide +kernel, hrecurring⟩⟩

/-- The only letter of a name stands in both cells, which are split at it. -/
theorem ofFile_split_at_letter :
    IsColumn "x" ["x1", "x2"] ∧ columnText "x" ["x1", "x2"] = "x\nx1\nx2\n".toList ∧
      ∃ dataset, ofFile {} (Utf8.encode (columnText "x" ["x1", "x2"])) "x.csv" = .ok dataset ∧
        dataset.rows.map (fun row => row.map fun entry => (entry.1, entry.2.renderText)) =
          [[("unnamed_0", .ok (symbols "")), ("unnamed_1", .ok (symbols "1"))],
            [("unnamed_0", .ok (symbols "")), ("unnamed_1", .ok (symbols "2"))]] := by
  have hshown : (ofFile {} (Utf8.encode (columnText "x" ["x1", "x2"])) "x.csv").map
      (fun dataset => dataset.rows.map fun row => row.map fun entry =>
        (entry.1, entry.2.renderText)) =
      .ok [[("unnamed_0", .ok (symbols "")), ("unnamed_1", .ok (symbols "1"))],
        [("unnamed_0", .ok (symbols "")), ("unnamed_1", .ok (symbols "2"))]] := by decide +kernel
  obtain ⟨dataset, hfile, hrows⟩ := Except.map_eq_ok_iff.mp hshown
  exact ⟨by decide, by decide, dataset, hfile, hrows⟩

end Ingest
end TableTalk
