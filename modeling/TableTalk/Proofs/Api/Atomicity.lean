import TableTalk.Proofs.Answer.Execution
import TableTalk.Proofs.Api.Requests
import TableTalk.Proofs.Chart.Choice
import TableTalk.Proofs.Ingest.JsonFile

/-! Whether a denied request leaves the session as it was. It does unless the answer to a question
was recorded already when no chart could be chosen for its rows. -/
namespace TableTalk.Api
open TableTalk.Text

variable {clock : Clock} {settings : Settings} {session : Session} {request : Request}

/-- The same dataset, log and latest answer. -/
def SameState (session next : Session) : Prop :=
  next.dataset = session.dataset ∧ next.history = session.history ∧ next.last = session.last

/-- A question is asked without a chart type, and can be answered, but no chart can be chosen for
the rows of its answer. -/
def ChartBlocked (settings : Settings) (session : Session) (request : Request) : Prop :=
  ∃ question dataset column, request.question? session = some (question, none) ∧
    session.dataset = some dataset ∧ Session.isBlankText question = false ∧
    (Answer.ask settings dataset.rows question).error = none ∧
    column ∈ (Answer.ask settings dataset.rows question).rows.columns ∧
    ChartType.Blocks (Answer.ask settings dataset.rows question).rows column

theorem not_sameState_answered {question : String} (dataset : Dataset) :
    ¬ SameState session (session.answered clock settings dataset question) := by
  rintro ⟨-, hhistory, -⟩
  simpa [Session.answered, History.append, History.size] using congrArg History.size hhistory

theorem blocked_of_changed (hdenied : Denied (handle clock settings session request))
    (hchanged : ¬ SameState session (handle clock settings session request).1) :
    ChartBlocked settings session request := by
  cases hquestion : request.question? session with
  | none =>
    rw [handle_of_denied hquestion hdenied] at hchanged
    exact absurd ⟨rfl, rfl, rfl⟩ hchanged
  | some asked =>
    obtain ⟨question, chartType⟩ := asked
    rw [handle_eq_query hquestion] at hdenied hchanged
    obtain ⟨problem, hproblem⟩ | ⟨dataset, type, hdataset, hblank, htype⟩ :=
      query_cases clock settings session question chartType
    · rw [hproblem] at hchanged
      exact absurd ⟨rfl, rfl, rfl⟩ hchanged
    · rw [query_eq_answered htype hdataset hblank] at hdenied
      obtain ⟨herror, hfigure⟩ := denied_answered_iff.mp hdenied
      cases chartType with
      | none =>
        obtain ⟨column, hcolumn, hblocks⟩ := Figure.ofRows_eq_error_iff.mp hfigure
        exact ⟨question, dataset, column, hquestion, hdataset, hblank, herror, hcolumn, hblocks⟩
      | some name =>
        -- The name was checked before the question was asked, and no chart has to be chosen.
        obtain ⟨problem, hproblem⟩ := hfigure
        obtain ⟨figure, hdrawn⟩ := Figure.ofRows_of_given htype
        cases hproblem.symm.trans hdrawn

theorem changed_of_blocked (h : ChartBlocked settings session request) :
    Denied (handle clock settings session request) ∧
      ¬ SameState session (handle clock settings session request).1 := by
  obtain ⟨question, dataset, column, hquestion, hdataset, hblank, herror, hcolumn, hblocks⟩ := h
  rw [handle_eq_query hquestion, query_eq_answered rfl hdataset hblank, answered_fst]
  refine ⟨denied_answered_iff.mpr ⟨herror, ?_⟩, not_sameState_answered dataset⟩
  exact Figure.ofRows_eq_error_iff.mpr ⟨column, hcolumn, hblocks⟩

/-- The requests that are denied and still change the session are those for whose answer no chart
can be chosen. -/
theorem denied_changed_iff (clock : Clock) (settings : Settings) (session : Session)
    (request : Request) :
    Denied (handle clock settings session request) ∧
        ¬ SameState session (handle clock settings session request).1 ↔
      ChartBlocked settings session request :=
  ⟨fun h => blocked_of_changed h.1 h.2, changed_of_blocked⟩

/-! A file with a number in as many rows as decide the type of a column, and then a numeral with
one digit too many. -/

def oneText : List Char := ['\x7b', '"', 'n', '"', ':', '1', '\x7d', ',']

def longNumeral : List Char := List.replicate 4301 '7'

def longText : List Char :=
  '\x7b' :: '"' :: 'n' :: '"' :: ':' :: '"' :: (longNumeral ++ ['"', '\x7d', ']'])

def numbersText : List Char := '[' :: ((List.replicate 100 oneText).flatten ++ longText)

/-- The members of the objects in the file. -/
def numbersMembers : List (List (Symbols × Json.Value)) :=
  List.replicate 100 [([.char 'n'], .int 1)] ++
    [[([.char 'n'], .string (longNumeral.map Symbol.char))]]

def numbersRows : Table :=
  List.replicate 100 [("n", .int 1)] ++ [[("n", .text (String.ofList longNumeral))]]

theorem readValue_one (fuel depth : Nat) (rest : List Char) :
    Json.readValue (fuel + 6) (depth + 1) (oneText ++ rest) =
      .ok (.object [([.char 'n'], .int 1)], ',' :: rest) :=
  rfl

theorem readItems_ones (count fuel depth : Nat) (items : List Json.Value) :
    Json.readItems (fuel + 6 + count) (depth + 1) items
        ((List.replicate count oneText).flatten ++ longText) =
      Json.readItems (fuel + 6) (depth + 1)
        (List.replicate count (.object [([.char 'n'], .int 1)]) ++ items) longText := by
  induction count generalizing items with
  | zero => rfl
  | succ count ih =>
    have hbrace : Json.skipSpace ((List.replicate count oneText).flatten ++ longText) =
        (List.replicate count oneText).flatten ++ longText := by
      cases count <;> rfl
    -- One unit of fuel goes with each item, so what is left is enough for the rest of them.
    have hitem := readValue_one (fuel + count) depth
      ((List.replicate count oneText).flatten ++ longText)
    rw [Nat.add_right_comm] at hitem
    rw [List.replicate_succ, List.flatten_cons, List.append_assoc, ← Nat.add_assoc,
      Json.readItems_next hitem rfl, hbrace, ih, List.replicate_succ', List.append_assoc]
    rfl

theorem forall_mem_longNumeral {p : Char → Prop} (h : p '7') : ∀ c ∈ longNumeral, p c := by
  intro c hc
  rw [(List.mem_replicate.mp hc).2]
  exact h

theorem readItems_long (fuel depth : Nat) (items : List Json.Value) :
    Json.readItems (fuel + 6) (depth + 1) items longText =
      .ok (.array (items.reverse ++ [.object [([.char 'n'],
        .string (longNumeral.map Symbol.char))]]), []) := by
  have hvalue : Json.readValue (fuel + 3) depth ('"' :: (longNumeral ++ ['"', '\x7d', ']'])) =
      .ok (.string (longNumeral.map Symbol.char), ['\x7d', ']']) :=
    Json.readValue_string (forall_mem_longNumeral rfl)
  have hmembers : Json.readMembers (fuel + 4) depth [] (longText.drop 1) =
      .ok (.object [([.char 'n'], .string (longNumeral.map Symbol.char))], [']']) :=
    Json.readMembers_last (List.forall_mem_singleton.mpr rfl) hvalue rfl
  have hitem : Json.readValue (fuel + 5) (depth + 1) longText =
      .ok (.object [([.char 'n'], .string (longNumeral.map Symbol.char))], [']']) := hmembers
  rw [Json.readItems_last hitem rfl, List.reverse_cons]

theorem readValue_numbersText (fuel depth : Nat) :
    Json.readValue (fuel + 6 + 100 + 1) (depth + 2) numbersText =
      .ok (.array (numbersMembers.map Json.Value.object), []) := by
  have hitems : Json.readValue (fuel + 6 + 100 + 1) (depth + 2) numbersText =
      Json.readItems (fuel + 6 + 100) (depth + 1) []
        ((List.replicate 100 oneText).flatten ++ longText) := rfl
  rw [hitems, readItems_ones, readItems_long, List.append_nil, List.reverse_replicate,
    numbersMembers, List.map_append, List.map_replicate]
  rfl

theorem length_numbersText : numbersText.length = 5005 + 6 + 100 := by
  simp only [numbersText, oneText, longText, longNumeral, List.length_cons, List.length_append,
    List.length_flatten, List.map_replicate, List.sum_replicate_nat, List.length_replicate,
    List.length_nil]

theorem read_numbersText :
    Json.read numbersText = .ok (.array (numbersMembers.map Json.Value.object)) := by
  have hhead : numbersText.head? = some '[' := rfl
  have hspace : Json.skipSpace numbersText = numbersText := rfl
  apply Json.read_of_readValue (by rw [hhead]; decide)
  rw [hspace, length_numbersText, Json.depthLimit, readValue_numbersText 5005 988]

theorem cleanRow_numbers :
    (numbersMembers.map Ingest.cellsOfMembers).map Ingest.cleanRow = numbersRows := by
  have hname : ColumnName.normalize (shown [.char 'n']) = "n" := by decide +kernel
  simp only [numbersMembers, numbersRows, List.map_append, List.map_replicate, List.map_cons,
    List.map_nil, Ingest.cellsOfMembers, Ingest.cellOfValue_string, Ingest.cleanRow, hname]
  rfl

theorem numbersText_ascii : ∀ c ∈ numbersText, c.toNat < 128 := by
  have hone : ∀ c ∈ oneText, c.toNat < 128 := by simp [oneText]
  have hones : ∀ c ∈ (List.replicate 100 oneText).flatten, c.toNat < 128 := by
    intro c hc
    obtain ⟨item, hitem, hc⟩ := List.mem_flatten.mp hc
    rw [(List.mem_replicate.mp hitem).2] at hc
    exact hone c hc
  have hlong : ∀ c ∈ longNumeral, c.toNat < 128 := forall_mem_longNumeral (by decide)
  simp only [numbersText, longText, List.forall_mem_cons, List.forall_mem_append]
  exact ⟨by decide, hones, by decide, by decide, by decide, by decide, by decide, by decide, hlong,
    by simp⟩

/-- The upload succeeds, since the numeral stands below the rows that decide the column's type. -/
theorem ofFile_numbers : ∃ dataset, Ingest.ofFile {} (Utf8.encode numbersText)
    (uploadName (some "numbers.json")) = .ok dataset ∧ dataset.rows = numbersRows := by
  have hsize : Ingest.isTooLarge {} (Utf8.encode numbersText) = false := by
    rw [Ingest.isTooLarge, Utf8.length_encode_ascii numbersText_ascii, length_numbersText]
    decide
  have hname : uploadName (some "numbers.json") = "numbers.json" := by decide
  have hbuild : (Dataset.build {} numbersRows "numbers.json").isOk = true := by decide +kernel
  have hjson : Ingest.isJsonName "numbers.json" = true := by decide +kernel
  have hfile := Ingest.ofFile_json hjson hsize read_numbersText
    (Ingest.recordsOfValue_objects numbersMembers)
  rw [cleanRow_numbers] at hfile
  cases hdataset : Dataset.build {} numbersRows "numbers.json" with
  | error problem =>
    rw [hdataset] at hbuild
    cases hbuild
  | ok dataset =>
    refine ⟨dataset, ?_, Dataset.rows_of_build hdataset⟩
    rw [hname, hfile, hdataset]
    rfl

/-- All rows answer a question that asks for nothing in particular. -/
theorem ask_numbers : Answer.ask {} numbersRows "show everything" =
    ⟨numbersRows, "SELECT * FROM data", none⟩ := by
  have hsignals : Question.signals {} numbersRows "show everything".toList = .ok {} := by
    decide +kernel
  have hcells : Answer.checkCells "QueryResult" numbersRows = .ok () := by decide +kernel
  exact Answer.ask_eq hsignals rfl rfl hcells

theorem blocks_numbers : ChartType.Blocks numbersRows "n" := by
  refine ⟨List.replicate 100 [("n", .int 1)], [("n", .text (String.ofList longNumeral))], [], rfl,
    ?_, String.ofList longNumeral, 4301, rfl, ?_, by decide⟩
  · intro other hother
    rw [(List.mem_replicate.mp hother).2]
    rfl
  · rw [String.toList_ofList]
    exact ⟨[], by decide, longNumeral, Number.trim_eq_self (forall_mem_longNumeral (by decide)),
      forall_mem_longNumeral (by decide), List.length_replicate⟩

def numbersClock : Clock := Clock.steady ⟨2024, 1, 1, 0, 0, 0, 0, some 0⟩ 1

/-- The session once the numbers are uploaded. -/
def numbersSession : Session :=
  after numbersClock {} .fresh [.upload (some "numbers.json") (.ok (Utf8.encode numbersText))]

theorem numbersSession_dataset :
    ∃ dataset, numbersSession.dataset = some dataset ∧ dataset.rows = numbersRows := by
  obtain ⟨dataset, hfile, hrows⟩ := ofFile_numbers
  refine ⟨dataset, ?_, hrows⟩
  rw [numbersSession, after, List.foldl_cons, List.foldl_nil, handle_upload hfile]
  rfl

/-- Asking for all of the numbers is denied, but it is recorded. -/
theorem numbers_denied_changed :
    Denied (handle numbersClock {} numbersSession (.query "show everything" none)) ∧
      ¬ SameState numbersSession
        (handle numbersClock {} numbersSession (.query "show everything" none)).1 := by
  obtain ⟨dataset, hdataset, hrows⟩ := numbersSession_dataset
  have hblank : Session.isBlankText "show everything" = false := by decide +kernel
  apply changed_of_blocked
  refine ⟨"show everything", dataset, "n", rfl, hdataset, hblank, ?_⟩
  rw [hrows, ask_numbers]
  exact ⟨rfl, by decide, blocks_numbers⟩

end TableTalk.Api
