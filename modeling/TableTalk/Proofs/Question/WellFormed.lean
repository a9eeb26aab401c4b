import TableTalk.Cascade
import TableTalk.Proofs.Classification
import TableTalk.Proofs.Question.Counts
import TableTalk.Proofs.Question.Requests
import TableTalk.Proofs.Settings

/-! What can be relied on in the operations that are found in a question: limits are not negative,
columns are the first that will do, an aggregate has a column only where it is asked for and there
are rows, and where nothing is asked for the table is the answer. -/
namespace TableTalk.Question
open TableTalk.Text

/-- The first of some columns with a property. -/
def IsFirst (p : String → Prop) (columns : List String) (column : String) : Prop :=
  ∃ before after, columns = before ++ column :: after ∧ p column ∧ ∀ other ∈ before, ¬ p other

/-- A name that stands in a question, in the form in which phrases are looked for. -/
def StandsIn (question : List Char) (name : String) : Prop := name.toList <:+: normalize question

/-- An aggregate of a column is asked for, and the column is the first numeric one of a table with
rows. -/
structure IsAggregated (settings : Settings) (table : Table) (signals : Signals)
    (column : String) : Prop where
  requested : signals.averageRequested = true ∨ signals.sumRequested = true
  ne_nil : table ≠ []
  first : ∃ classification,
    Classification.classify (.ofSettings settings none none) table = .ok classification ∧
      IsFirst (fun name => classification.typeOf name = .numeric) table.columns column

/-- What holds of the operations that a question asks for of a table. -/
structure IsWellFormed (settings : Settings) (table : Table) (question : List Char)
    (signals : Signals) : Prop where
  head : ∀ count, signals.limitHead = some count → 0 ≤ count
  tail : ∀ count, signals.limitTail = some count → 0 ≤ count
  filter : ∀ column, signals.filterColumn = some column →
    IsFirst (StandsIn question) table.columns column
  group : ∀ column, signals.groupColumn = some column →
    signals.groupRequested = true ∧ IsFirst (StandsIn question) table.columns column
  aggregate : ∀ column, signals.aggregateColumn = some column →
    IsAggregated settings table signals column
  idle : signals.isEmpty = true →
    Cascade.run table signals = .ok table ∧ signals.query = .ok "SELECT * FROM data"

variable {settings : Settings} {table : Table} {question : List Char} {signals : Signals}
  {columns : List String} {column : String}

theorem isFirst_of_find? {p : String → Prop} {test : String → Bool}
    (htest : ∀ name, test name = true ↔ p name) (h : columns.find? test = some column) :
    IsFirst p columns column := by
  obtain ⟨hcolumn, before, after, hsplit, hbefore⟩ := List.find?_eq_some_iff_append.mp h
  refine ⟨before, after, hsplit, (htest column).mp hcolumn, fun other hother hp => ?_⟩
  simpa [(htest other).mpr hp] using hbefore other hother

theorem isFirst_of_mentionedColumn?
    (h : mentionedColumn? (normalize question) columns = some column) :
    IsFirst (StandsIn question) columns column :=
  isFirst_of_find? (fun _ => occursIn_iff) h

theorem Matches.isAggregated (h : Matches settings table question signals)
    (hcolumn : signals.aggregateColumn = some column) :
    IsAggregated settings table signals column := by
  have haggregate := h.aggregate
  split at haggregate
  next hrequested =>
    obtain ⟨classification, hclassify, hfirst⟩ := haggregate
    rw [hcolumn] at hfirst
    refine ⟨by simpa using hrequested, Classification.ne_nil_of_firstNumeric hclassify hfirst.symm,
      classification, hclassify, ?_⟩
    rw [Classification.firstNumeric_eq_find? hclassify] at hfirst
    exact isFirst_of_find? (fun _ => decide_eq_true_iff) hfirst.symm
  next =>
    rw [hcolumn] at haggregate
    cases haggregate

/-- A question that asks for nothing has no steps and shows none. -/
theorem Matches.idle (h : Matches settings table question signals)
    (hidle : signals.isEmpty = true) :
    Cascade.run table signals = .ok table ∧ signals.query = .ok "SELECT * FROM data" := by
  simp only [Signals.isEmpty, Bool.and_eq_true, Bool.not_eq_true', Option.isNone_iff_eq_none]
    at hidle
  obtain ⟨⟨⟨⟨⟨hhead, htail⟩, hfilter⟩, hgroupRequested⟩, haverage⟩, hsum⟩ := hidle
  have hgroup := h.group
  have haggregate := h.aggregate
  rw [← h.groupRequested, hgroupRequested, if_neg Bool.false_ne_true] at hgroup
  rw [haverage, hsum, Bool.or_self, if_neg Bool.false_ne_true] at haggregate
  have hunnamed : Signals.named? none = none := rfl
  have hsteps : Cascade.steps signals = [] := by
    simp [Cascade.steps, hhead, htail, hfilter, hgroup, haggregate, hunnamed]
  have hprojection : signals.projection = "*" := by
    simp [Signals.projection, hgroupRequested, haggregate, hunnamed]
  exact ⟨by rw [Cascade.run, hsteps]; rfl, by rw [Signals.query, hhead, hprojection]; rfl⟩

/-- The operations found in a question are well-formed if the settings are accepted ones. -/
theorem signals_isWellFormed {sources : Settings.Sources}
    (hsettings : Settings.ofSources sources = .ok settings)
    (h : Question.signals settings table question = .ok signals) :
    IsWellFormed settings table question signals := by
  have hmatches := signals_eq_ok_iff.mp h
  have hlimit : 0 ≤ settings.defaultLimit :=
    (Settings.isInRange_of_ofSources hsettings).defaultLimit.le
  refine ⟨?_, ?_, ?_, ?_, fun column => hmatches.isAggregated, hmatches.idle⟩
  · intro count hcount
    exact limit_nonneg (hcount ▸ hmatches.head) hlimit
  · intro count hcount
    exact limit_nonneg (hcount ▸ hmatches.tail) hlimit
  · intro column hcolumn
    rw [hmatches.filter, Option.ite_none_right_eq_some] at hcolumn
    exact isFirst_of_mentionedColumn? hcolumn.2
  · intro column hcolumn
    rw [hmatches.group, Option.ite_none_right_eq_some] at hcolumn
    exact ⟨hmatches.groupRequested.trans hcolumn.1, isFirst_of_mentionedColumn? hcolumn.2⟩

/-- Two offices with visits and rents, of which only the visits are named in the question, and after
the city. -/
def offices : Table :=
  [[("city", .text "Oslo"), ("visits", .int 3), ("rent", .text "12.5")],
   [("city", .text "Rome"), ("visits", .int 4), ("rent", .text "9")]]

def officesQuestion : List Char :=
  "Filter visits: top, the last 2, average and count per city".toList

/-- Every operation but a sum, with one count that is given and one that is set. -/
def officesSignals : Signals :=
  { limitHead := some 7, limitTail := some 2, filterColumn := some "city", groupRequested := true,
    groupColumn := some "city", averageRequested := true, aggregateColumn := some "visits" }

theorem signals_isWellFormed_offices :
    Settings.ofSources ⟨[], [("DEFAULT_LIMIT", " 07")]⟩ = .ok { defaultLimit := 7 } ∧
      Question.signals { defaultLimit := 7 } offices officesQuestion = .ok officesSignals ∧
      IsWellFormed { defaultLimit := 7 } offices officesQuestion officesSignals ∧
      IsFirst (StandsIn officesQuestion) ["city", "visits", "rent"] "city" ∧
      IsAggregated { defaultLimit := 7 } offices officesSignals "visits" := by
  have hsettings : Settings.ofSources ⟨[], [("DEFAULT_LIMIT", " 07")]⟩ =
      .ok { defaultLimit := 7 } := by rfl
  have hsignals : Question.signals { defaultLimit := 7 } offices officesQuestion =
      .ok officesSignals := by decide +kernel
  have hwell := signals_isWellFormed hsettings hsignals
  exact ⟨hsettings, hsignals, hwell, hwell.filter "city" rfl, hwell.aggregate "visits" rfl⟩

end TableTalk.Question
