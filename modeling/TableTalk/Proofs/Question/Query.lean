import Mathlib.Data.List.Basic
import TableTalk.Proofs.Except
import TableTalk.Proofs.Number.Decimal
import TableTalk.Question.Signals

/-! Reading a query text back. What it selects can be told from the text alone, whatever the
columns are called, because a limit is one word without spaces; and what it selects tells the
aggregate and its column. -/
namespace TableTalk.Signals
open TableTalk.Number

variable {signals : Signals} {query projection other column : String}

/-- The call of an aggregate on a column and the name of its result, which ends in the column. -/
def aggregateText (call name column : String) : String := call ++ column ++ name ++ column

def averageProjection : String → String := aggregateText "AVG(" ") as average_"

def sumProjection : String → String := aggregateText "SUM(" ") as total_"

def limitText : Option Int → String
  | none => ""
  | some count => " LIMIT " ++ integerText count

/-- A query text that selects a projection, with or without a limit. -/
def Projects (query projection : String) : Prop :=
  ∃ limit, query = "SELECT " ++ projection ++ " FROM data" ++ limitText limit

theorem writeInteger_eq_ok {n : Int} {s : String} (h : writeInteger n = .ok s) :
    s = integerText n := by
  unfold writeInteger at h
  split at h
  · cases h
  · exact (Except.ok.inj h).symm

theorem query_eq (h : signals.query = .ok query) :
    query = "SELECT " ++ signals.projection ++ " FROM data" ++ limitText signals.limitHead := by
  cases hlimit : signals.limitHead with
  | none =>
    simp only [Signals.query, hlimit, Except.ok.injEq] at h
    simp [← h, limitText]
  | some count =>
    simp only [Signals.query, hlimit, Except.bind_eq_ok_iff, Except.pure_eq_ok_iff] at h
    obtain ⟨digits, hdigits, rfl⟩ := h
    simp only [writeInteger_eq_ok hdigits, limitText, String.append_assoc]

theorem query_projects (h : signals.query = .ok query) : Projects query signals.projection :=
  ⟨signals.limitHead, query_eq h⟩

/-- A query can be written unless its limit has too many digits. -/
theorem exists_query_eq_ok
    (h : ∀ count, signals.limitHead = some count → count.natAbs < 10 ^ digitLimit) :
    ∃ query, signals.query = .ok query := by
  unfold Signals.query
  cases hcount : signals.limitHead with
  | none => exact ⟨_, rfl⟩
  | some count => simp [writeInteger_of_lt (h count hcount)]

/-- The last word of a query text. -/
def lastWord : Option Int → List Char
  | none => "data".toList
  | some count => (integerText count).toList

theorem space_notMem_lastWord (limit : Option Int) : ' ' ∉ lastWord limit := by
  cases limit with
  | none => decide
  | some count => exact fun h => by simpa using digit_or_minus h

theorem lastWord_injective : Function.Injective lastWord := by
  have hdata (count : Int) : "data".toList ≠ (integerText count).toList := fun h => by
    have hd : 'd' ∈ (integerText count).toList := h ▸ by decide
    simpa using digit_or_minus hd
  intro limit limit' h
  cases limit with
  | none =>
    cases limit' with
    | none => rfl
    | some count => exact absurd h (hdata count)
  | some count =>
    cases limit' with
    | none => exact absurd h.symm (hdata count)
    | some count' => rw [integerText_injective (String.toList_injective h)]

/-- The word after the last space of a text. -/
theorem takeWhile_reverse_append (start : List Char) {word : List Char} (h : ' ' ∉ word) :
    (start ++ ' ' :: word).reverse.takeWhile (· ≠ ' ') = word.reverse := by
  have hword : ∀ c ∈ word.reverse, decide (c ≠ ' ') = true := by
    intro c hc
    rw [decide_eq_true_eq]
    rintro rfl
    exact h (List.mem_reverse.mp hc)
  rw [List.reverse_append, List.reverse_cons, List.append_assoc,
    List.takeWhile_append_of_pos hword]
  simp

/-- What comes before the last word. -/
theorem query_toList (limit : Option Int) :
    ∃ start, ∀ projection : String,
      ("SELECT " ++ projection ++ " FROM data" ++ limitText limit).toList =
        "SELECT ".toList ++ projection.toList ++ start ++ ' ' :: lastWord limit := by
  cases limit with
  | none => exact ⟨" FROM".toList, fun _ => by simp [limitText, lastWord]⟩
  | some count => exact ⟨" FROM data LIMIT".toList, fun _ => by simp [limitText, lastWord]⟩

/-- The last words of query texts that are one are the same, whatever comes before them. -/
theorem eq_of_lastWord {start start' : List Char} {limit limit' : Option Int}
    (h : start ++ ' ' :: lastWord limit = start' ++ ' ' :: lastWord limit') : limit = limit' := by
  have h := congrArg (fun text => text.reverse.takeWhile (· ≠ ' ')) h
  simp only [takeWhile_reverse_append _ (space_notMem_lastWord _)] at h
  exact lastWord_injective (List.reverse_injective h)

theorem projects_unique (h : Projects query projection) (h' : Projects query other) :
    projection = other := by
  obtain ⟨limit, rfl⟩ := h
  obtain ⟨limit', h'⟩ := h'
  obtain ⟨start, hstart⟩ := query_toList limit
  obtain ⟨start', hstart'⟩ := query_toList limit'
  have htexts := congrArg String.toList h'
  rw [hstart, hstart'] at htexts
  obtain rfl := eq_of_lastWord htexts
  simpa [String.append_assoc, String.append_left_inj, String.append_right_inj] using h'

/-- A query text that ends in a limit. -/
def ShowsLimit (query : String) (count : Int) : Prop :=
  (limitText (some count)).toList <:+ query.toList

/-- The limit at the end of a query is that of its signals. -/
theorem showsLimit_iff {count : Int} (h : signals.query = .ok query) :
    ShowsLimit query count ↔ signals.limitHead = some count := by
  have hquery := query_eq h
  constructor
  · rintro ⟨before, hbefore⟩
    obtain ⟨start, hstart⟩ := query_toList signals.limitHead
    have hlimit : (limitText (some count)).toList =
        " LIMIT".toList ++ ' ' :: lastWord (some count) := by
      simp [limitText, lastWord]
    rw [hquery, hstart, hlimit, ← List.append_assoc] at hbefore
    exact (eq_of_lastWord hbefore).symm
  · intro hcount
    rw [ShowsLimit, hquery, hcount, String.toList_append]
    exact List.suffix_append _ _

theorem aggregateText_inj {call name : String}
    (h : aggregateText call name column = aggregateText call name other) : column = other := by
  have h := congrArg String.toList h
  simp only [aggregateText, String.toList_append, List.append_assoc,
    List.append_cancel_left_eq] at h
  have hlength := congrArg List.length h
  simp only [List.length_append] at hlength
  exact String.toList_injective (List.append_inj_left h (by omega))

/-- What a query can select. -/
inductive Selection where
  | groups
  | average (column : String)
  | total (column : String)
  | rows

def Selection.text : Selection → String
  | .groups => "*, COUNT(*) as count"
  | .average column => averageProjection column
  | .total column => sumProjection column
  | .rows => "*"

/-- What the query of some signals selects. -/
def selection (signals : Signals) : Selection :=
  if signals.groupRequested then .groups
  else match named? signals.aggregateColumn with
    | none => .rows
    | some column =>
        if signals.averageRequested then .average column
        else if signals.sumRequested then .total column
        else .rows

theorem projection_eq_text (signals : Signals) :
    signals.projection = signals.selection.text := by
  unfold projection selection
  split
  · rfl
  · cases named? signals.aggregateColumn with
    | none => rfl
    | some column => simp only [apply_ite Selection.text]; rfl

/-- The first letter of a text tells averages, totals and rows apart. -/
theorem text_injective : Function.Injective Selection.text := by
  intro first second h
  have hhead : first.text.toList.head? = second.text.toList.head? := by rw [h]
  cases first with
  | groups =>
    cases second with
    | groups => rfl
    | rows => exact absurd h (by decide)
    | _ => simp [Selection.text, averageProjection, sumProjection, aggregateText] at hhead
  | average column =>
    cases second with
    | average other => rw [aggregateText_inj h]
    | _ => simp [Selection.text, averageProjection, sumProjection, aggregateText] at hhead
  | total column =>
    cases second with
    | total other => rw [aggregateText_inj h]
    | _ => simp [Selection.text, averageProjection, sumProjection, aggregateText] at hhead
  | rows =>
    cases second with
    | groups => exact absurd h (by decide)
    | rows => rfl
    | _ => simp [Selection.text, averageProjection, sumProjection, aggregateText] at hhead

theorem projects_text_iff {selected : Selection} (h : signals.query = .ok query) :
    Projects query selected.text ↔ signals.selection = selected := by
  have hquery : Projects query signals.selection.text := by
    rw [← projection_eq_text]
    exact query_projects h
  exact ⟨fun hprojects => text_injective (projects_unique hquery hprojects), fun hs => hs ▸ hquery⟩

/-- A query that selects an average is that of signals that ask for one, and for no groups. -/
theorem projects_average_iff (h : signals.query = .ok query) :
    Projects query (averageProjection column) ↔
      signals.groupRequested = false ∧ named? signals.aggregateColumn = some column ∧
        signals.averageRequested = true := by
  rw [show averageProjection column = (Selection.average column).text from rfl,
    projects_text_iff h, selection]
  cases signals.groupRequested <;> cases named? signals.aggregateColumn <;>
    cases signals.averageRequested <;> cases signals.sumRequested <;> simp

/-- A total is selected only if no average is asked for. -/
theorem projects_sum_iff (h : signals.query = .ok query) :
    Projects query (sumProjection column) ↔
      signals.groupRequested = false ∧ named? signals.aggregateColumn = some column ∧
        signals.averageRequested = false ∧ signals.sumRequested = true := by
  rw [show sumProjection column = (Selection.total column).text from rfl,
    projects_text_iff h, selection]
  cases signals.groupRequested <;> cases named? signals.aggregateColumn <;>
    cases signals.averageRequested <;> cases signals.sumRequested <;> simp

end TableTalk.Signals
