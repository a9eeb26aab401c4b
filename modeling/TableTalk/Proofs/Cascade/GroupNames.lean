import TableTalk.Proofs.Cascade.Groups

/-! The names of groups. The row of a group holds the text that the group stands for and the number
of its rows, so that the groups of a column can be told apart, unless the grouped column is itself
called "count". Then the number is all that is left of a group. -/
namespace TableTalk.Cascade
open TableTalk.Text

variable {rows : Table} {column : String}

/-- Each group has its text under the grouped column and its size as the count, no text stands
twice, and no row is left out. -/
structure NamesGroups (column : String) (rows groups : Table) : Prop where
  named : ∀ group ∈ groups, ∃ text, group.get column = .ofSymbols text ∧
    group.get "count" = .int (rows.countP (showsText column text)) ∧
    0 < rows.countP (showsText column text)
  distinct : (groups.map fun group => group.get column).Nodup
  complete : ∀ row ∈ rows, ∀ text, (row.get column).renderText = .ok text →
    ∃ group ∈ groups, group.get column = .ofSymbols text

theorem groupRow_count_column (text : Symbols) (n : Nat) :
    groupRow "count" (text, n) = [("count", .int n)] := by
  simp [groupRow, Row.ofCells, Row.set]

/-- The groups of at least one row name their texts unless the column is called "count". -/
theorem namesGroups_iff {texts : List Symbols}
    (htexts : List.Forall₂ (fun row text => (row.get column).renderText = .ok text) rows texts)
    (hne : rows ≠ []) :
    NamesGroups column rows (texts.eraseDups.map fun text =>
      groupRow column (text, rows.countP (showsText column text))) ↔ column ≠ "count" := by
  constructor
  · rintro hnames rfl
    obtain ⟨row, rest, rfl⟩ := List.exists_cons_of_ne_nil hne
    obtain ⟨text, -, hshown, -⟩ := List.forall₂_cons_left_iff.mp htexts
    obtain ⟨group, hgroup, hkey⟩ := hnames.complete row List.mem_cons_self text hshown
    obtain ⟨_, -, hsize, -⟩ := hnames.named group hgroup
    exact Cell.ofSymbols_ne_int text _ (hkey.symm.trans hsize)
  · intro hcount
    have hkeys : ((texts.eraseDups.map fun text =>
        groupRow column (text, rows.countP (showsText column text))).map
          fun group => group.get column) = texts.eraseDups.map Cell.ofSymbols := by
      rw [List.map_map]
      exact List.map_congr_left fun text _ => groupRow_key hcount _
    refine ⟨?_, ?_, ?_⟩
    · rw [List.forall_mem_map]
      intro text htext
      refine ⟨text, groupRow_key hcount _, groupRow_count column _, ?_⟩
      rw [← count_texts htexts, List.count_pos_iff]
      exact List.mem_eraseDups.mp htext
    · rw [hkeys]
      exact (Tally.nodup_eraseDups texts).map Cell.ofSymbols_injective
    · intro row hrow text hshown
      have htext : text ∈ texts := by
        rw [← List.count_pos_iff, count_texts htexts, List.countP_pos_iff]
        exact ⟨row, hrow, by simp [showsText, hshown]⟩
      exact ⟨_, List.mem_map_of_mem (List.mem_eraseDups.mpr htext), groupRow_key hcount _⟩

/-- Rows that all show something in a column of their schema are grouped by it. The groups are named
exactly if the column is not called "count"; else each of them is reduced to its size. -/
theorem countBy_namesGroups (hcolumn : column ∈ Table.columns rows)
    (hshows : ∀ row ∈ rows, Shows (row.get column)) :
    ∃ groups, countBy column rows = .ok groups ∧
      (NamesGroups column rows groups ↔ column ≠ "count") ∧
      (column = "count" → ∃ texts : List Symbols, texts.Nodup ∧
        groups = texts.map fun text =>
          [("count", .int (rows.countP (showsText column text)))]) := by
  obtain ⟨texts, htexts, hgroups⟩ := exists_countBy_eq_ok hshows
  have hne : rows ≠ [] := by
    rintro rfl
    cases hcolumn
  refine ⟨_, hgroups, namesGroups_iff htexts hne, ?_⟩
  rintro rfl
  refine ⟨texts.eraseDups, Tally.nodup_eraseDups texts, ?_⟩
  exact List.map_congr_left fun text _ => groupRow_count_column text _

/-- Articles of three kinds, with a word for how many there are. -/
def stocks : Table :=
  [[("count", .text "few"), ("kind", .text "pen")], [("count", .text "many"), ("kind", .null)],
   [("kind", .text "pen"), ("count", .text "few")]]

theorem stocks_shows {row : Row} (hrow : row ∈ stocks) (column : String)
    (hcolumn : column ∈ Table.columns stocks) : Shows (row.get column) := by
  simp only [stocks, Table.columns, Row.columns, List.map_cons, List.map_nil, List.mem_cons,
    List.not_mem_nil, or_false] at hrow hcolumn
  rcases hrow with rfl | rfl | rfl <;> rcases hcolumn with rfl | rfl <;> exact ⟨_, rfl⟩

/-- The kinds are named; the counts are not. -/
theorem countBy_namesGroups_stocks :
    (∃ groups, countBy "kind" stocks = .ok groups ∧ NamesGroups "kind" stocks groups) ∧
    ∃ groups, countBy "count" stocks = .ok groups ∧ ¬ NamesGroups "count" stocks groups := by
  have hkind : "kind" ∈ Table.columns stocks := by simp [stocks, Table.columns, Row.columns]
  have hcount : "count" ∈ Table.columns stocks := by simp [stocks, Table.columns, Row.columns]
  obtain ⟨kinds, hkinds, hnamed, -⟩ :=
    countBy_namesGroups hkind fun row hrow => stocks_shows hrow "kind" hkind
  obtain ⟨counts, hcounts, hunnamed, -⟩ :=
    countBy_namesGroups hcount fun row hrow => stocks_shows hrow "count" hcount
  exact ⟨⟨kinds, hkinds, hnamed.mpr (by decide)⟩,
    ⟨counts, hcounts, fun h => hunnamed.mp h rfl⟩⟩

/-- Of the two words for how many there are, the groups tell neither. -/
theorem countBy_count_loses_texts :
    "count" ∈ Table.columns stocks ∧ (∀ row ∈ stocks, Shows (row.get "count")) ∧
      countBy "count" stocks = .ok [[("count", .int 2)], [("count", .int 1)]] ∧
      ∀ group ∈ ([[("count", .int 2)], [("count", .int 1)]] : Table),
        ∀ text, group.get "count" ≠ .ofSymbols text := by
  have hcount : "count" ∈ Table.columns stocks := by simp [stocks, Table.columns, Row.columns]
  refine ⟨hcount, fun row hrow => stocks_shows hrow "count" hcount, by rfl, ?_⟩
  simp [Row.get, (Cell.ofSymbols_ne_int _ _).symm]

end TableTalk.Cascade
