import TableTalk.Proofs.Answer.Execution
import TableTalk.Proofs.Api.Requests
import TableTalk.Proofs.Text.Symbols

/-! The latest answer, and what is exported of it. It is all rows of the answer, not just those that
were shown, however many requests come in between, as long as none of them takes up a dataset or
answers a question. -/
namespace TableTalk.Api
open TableTalk.Text

variable {clock : Clock} {settings : Settings} {session : Session} {request : Request}
  {question : String} {chartType : Option String}

namespace Request

def asksQuestion : Request → Bool
  | .query .. | .rerun _ => true
  | _ => false

/-- The requests that leave another latest answer, or none, if they are carried out. -/
def replacesAnswer : Request → Bool
  | .upload .. | .sample => true
  | request => request.asksQuestion

end Request

/-- One more entry is in the log. -/
def Records (session next : Session) : Prop :=
  ∃ entry, next.history.entries = session.history.entries ++ [entry]

/-- None of the requests takes up a dataset or answers a question, and none of those that are denied
records an answer. -/
def Quiet (clock : Clock) (settings : Settings) : Session → List Request → Prop
  | _, [] => True
  | session, request :: rest =>
      let result := handle clock settings session request
      (request.replacesAnswer = true → Denied result) ∧
        (Denied result → ¬ Records session result.1) ∧ Quiet clock settings result.1 rest

/-- What is shown of an answer: the number of all its rows, and the first ones. -/
structure Previews (settings : Settings) (answer : Answer) (shown : Shown) : Prop where
  rowCount : shown.rowCount = answer.rows.length
  rows : shown.rows = Table.takeFirst answer.rows settings.resultPreviewRows

/-- What is exported of an answer: all its rows, unless they have no text or not one of Unicode
characters, or its error. -/
structure Exports (answer : Answer) (result : Except Denial Reply) : Prop where
  rows : answer.error = none → ∀ text, Export.rows answer.rows = .ok (symbols text) →
    result = .ok (.csv text "query_results.csv")
  broken : answer.error = none → (∀ text, Export.rows answer.rows ≠ .ok (symbols text)) →
    ∃ fault, result = .error (.broken fault)
  error : ∀ detail, answer.error = some detail → result = .error (.refused 400 detail)

theorem last_of_denied (hdenied : Denied (handle clock settings session request))
    (hrecords : ¬ Records session (handle clock settings session request).1) :
    (handle clock settings session request).1.last = session.last := by
  cases hquestion : request.question? session with
  | none => rw [handle_of_denied hquestion hdenied]
  | some asked =>
    obtain ⟨question, chartType⟩ := asked
    rw [handle_eq_query hquestion] at hrecords ⊢
    rcases query_cases clock settings session question chartType with
      ⟨problem, hproblem⟩ | ⟨dataset, type, hdataset, hblank, htype⟩
    · rw [hproblem]
      rfl
    · -- The question was answered before it was denied, so there is an entry about it.
      rw [query_eq_answered htype hdataset hblank, answered_fst] at hrecords
      exact absurd ⟨_, rfl⟩ hrecords

/-- A request that is carried out and neither loads nor asks leaves the latest answer. -/
theorem last_of_not_replaces (h : request.replacesAnswer = false) :
    (handle clock settings session request).1.last = session.last := by
  cases request with
  | upload | sample | query | rerun => cases h
  | overview =>
    simp only [handle]
    split <;> rfl
  | _ => rfl

theorem last_of_quiet {requests : List Request} (h : Quiet clock settings session requests) :
    (after clock settings session requests).last = session.last := by
  induction requests generalizing session with
  | nil => rfl
  | cons request rest ih =>
    obtain ⟨hreplaces, hrecords, hrest⟩ := h
    have hrun := ih hrest
    have hstep : (handle clock settings session request).1.last = session.last := by
      by_cases hdenied : Denied (handle clock settings session request)
      · exact last_of_denied hdenied (hrecords hdenied)
      · apply last_of_not_replaces
        by_contra hloads
        exact hdenied (hreplaces (by simpa using hloads))
    exact hrun.trans hstep

theorem encodable_symbols (s : String) : encodable (symbols s) = .ok s := by
  rw [encodable, firstHalves?_eq_none_iff.mpr (isWhole_symbols s), shown_symbols]

theorem exists_encodable_eq_error {text : Symbols} (h : ∀ s, text ≠ symbols s) :
    ∃ fault, encodable text = .error fault := by
  cases hfirst : firstHalves? text with
  | none => exact absurd (symbols_shown (firstHalves?_eq_none_iff.mp hfirst)).symm (h _)
  | some halves => exact ⟨_, by rw [encodable, hfirst]⟩

theorem exports_last {answer : Answer} (h : session.last = some answer) :
    Exports answer (handle clock settings session .exportRows).2 := by
  have hresult : (handle clock settings session .exportRows).2 = exportRows session := rfl
  have hlast : session.requireLast = .ok answer := by simp [Session.requireLast, h]
  rw [hresult]
  constructor
  · intro herror text htext
    simp [exportRows, hlast, herror, htext, encodable_symbols, Except.mapError, pure, Except.pure]
  · intro herror hnone
    cases htext : Export.rows answer.rows with
    | error fault =>
      exact ⟨fault, by simp [exportRows, hlast, herror, htext, Except.mapError]⟩
    | ok text =>
      obtain ⟨fault, hfault⟩ := exists_encodable_eq_error fun s hs => hnone s (hs ▸ htext)
      exact ⟨fault, by simp [exportRows, hlast, herror, htext, hfault, Except.mapError]⟩
  · intro detail herror
    simp [exportRows, hlast, herror, Except.mapError]

theorem previews_of_show {answer : Answer} {shown : Shown}
    (h : show? settings question answer chartType = .ok shown) : Previews settings answer shown := by
  unfold show? at h
  cases herror : answer.error with
  | some detail =>
    rw [herror] at h
    cases h
    exact ⟨rfl, rfl⟩
  | none =>
    simp only [herror, Except.bind_eq_ok_iff, Except.pure_eq_ok_iff] at h
    obtain ⟨figure, -, rfl⟩ := h
    exact ⟨rfl, rfl⟩

/-- A question that gets a reply was answered, and the reply shows this answer. -/
theorem handle_of_asksQuestion {reply : Reply} (hasks : request.asksQuestion = true)
    (h : (handle clock settings session request).2 = .ok reply) :
    ∃ question chartType dataset shown, request.question? session = some (question, chartType) ∧
      session.dataset = some dataset ∧
      (handle clock settings session request).1 =
        session.answered clock settings dataset question ∧
      reply = .shown shown ∧
      Previews settings (Answer.ask settings dataset.rows question) shown := by
  cases hquestion : request.question? session with
  | none =>
    cases request with
    | rerun id =>
      have hfind : session.history.find? id = none := by simpa [Request.question?] using hquestion
      simp [handle, rerun, Session.rerun, hfind, denied] at h
    | query => cases hquestion
    | _ => cases hasks
  | some asked =>
    obtain ⟨question, chartType⟩ := asked
    rw [handle_eq_query hquestion] at h ⊢
    rcases query_cases clock settings session question chartType with
      ⟨problem, hproblem⟩ | ⟨dataset, type, hdataset, hblank, htype⟩
    · rw [hproblem] at h
      cases h
    · rw [query_eq_answered htype hdataset hblank] at h ⊢
      cases hshow : show? settings question (Answer.ask settings dataset.rows question) chartType with
      | error problem => simp [answered, hshow, denied] at h
      | ok shown =>
        simp only [answered, hshow, Except.ok.injEq] at h
        exact ⟨question, chartType, dataset, shown, rfl, hdataset, answered_fst, h.symm,
          previews_of_show hshow⟩

/-- After a question with a reply, and any requests in between that neither load nor answer
anything, an export gives the whole answer of which the reply has shown the first rows. -/
theorem export_after_quiet {reply : Reply} (hasks : request.asksQuestion = true)
    (h : (handle clock settings session request).2 = .ok reply) :
    ∃ question chartType dataset shown, request.question? session = some (question, chartType) ∧
      session.dataset = some dataset ∧ reply = .shown shown ∧
      Previews settings (Answer.ask settings dataset.rows question) shown ∧
      ∀ requests, Quiet clock settings (handle clock settings session request).1 requests →
        Exports (Answer.ask settings dataset.rows question)
          (handle clock settings
            (after clock settings (handle clock settings session request).1 requests)
            .exportRows).2 := by
  obtain ⟨question, chartType, dataset, shown, hquestion, hdataset, hnext, hreply, hpreviews⟩ :=
    handle_of_asksQuestion hasks h
  refine ⟨question, chartType, dataset, shown, hquestion, hdataset, hreply, hpreviews, ?_⟩
  intro requests hquiet
  apply exports_last
  rw [last_of_quiet hquiet, hnext]
  rfl

/-- Sixty rows, of which ten are not shown. -/
def sixtyRows : Table := (List.range 60).map fun n => [("n", .int n)]

def sixtyDataset : Dataset :=
  ⟨sixtyRows, [("n", .numeric)], "sixty.json", ⟨["n"], [], [], 60, 1⟩⟩

def sixtySession : Session := Session.fresh.load sixtyDataset

def morning : Clock := Clock.steady ⟨2024, 1, 1, 9, 0, 0, 0, some 0⟩ 1

theorem ask_sixtyRows : Answer.ask {} sixtyRows "show everything" =
    ⟨sixtyRows, "SELECT * FROM data", none⟩ := by
  have hsignals : Question.signals {} sixtyRows "show everything".toList = .ok {} := by
    decide +kernel
  have hcells : Answer.checkCells "QueryResult" sixtyRows = .ok () := by decide +kernel
  exact Answer.ask_eq hsignals rfl rfl hcells

theorem exists_reply_sixtyRows : ∃ reply,
    (handle morning {} sixtySession (.query "show everything" (some "table"))).2 = .ok reply := by
  have htype : (some "table").mapM ChartType.ofName = .ok (some .table) := rfl
  have hdataset : sixtySession.dataset = some sixtyDataset := rfl
  have hblank : Session.isBlankText "show everything" = false := by decide +kernel
  have hshow : show? {} "show everything" ⟨sixtyRows, "SELECT * FROM data", none⟩ (some "table") =
      .ok ⟨"show everything", "SELECT * FROM data", sixtyRows.take 50, 60, none, none⟩ := by rfl
  rw [handle, query_eq_answered htype hdataset hblank, answered, sixtyDataset, ask_sixtyRows, hshow]
  exact ⟨_, rfl⟩

/-- A question with an unknown chart type is denied, and the other requests do not ask any. -/
theorem quiet_requests (session : Session) : Quiet morning {} session
    [.query "show more" (some "cube"), .clearHistory, .exportRows] := by
  have hrecords (session : Session) : ¬ Records session session := by simp [Records]
  exact ⟨fun _ => ⟨_, rfl⟩, fun _ => hrecords session, nofun, nofun, nofun,
    fun _ => hrecords session.clear, trivial⟩

/-- All sixty rows are exported when fifty were shown, though a question was denied and the log
was cleared since then. -/
theorem export_after_quiet_sixtyRows :
    ∃ shown, (handle morning {} sixtySession (.query "show everything" (some "table"))).2 =
        .ok (.shown shown) ∧ shown.rowCount = 60 ∧ shown.rows = sixtyRows.take 50 ∧
      ∃ text, Export.rows sixtyRows = .ok (symbols text) ∧
        (handle morning {} (after morning {}
            (handle morning {} sixtySession (.query "show everything" (some "table"))).1
            [.query "show more" (some "cube"), .clearHistory, .exportRows]) .exportRows).2 =
          .ok (.csv text "query_results.csv") := by
  obtain ⟨reply, hreply⟩ := exists_reply_sixtyRows
  obtain ⟨question, chartType, dataset, shown, hquestion, hdataset, rfl, hpreviews, hexports⟩ :=
    export_after_quiet rfl hreply
  cases hquestion
  cases hdataset
  have hanswer : Answer.ask {} sixtyDataset.rows "show everything" = _ := ask_sixtyRows
  have hquiet := hexports _ (quiet_requests _)
  rw [hanswer] at hpreviews hquiet
  have hwhole : (Export.rows sixtyRows).map isWhole = .ok true := by decide +kernel
  obtain ⟨text, htext, hwhole⟩ := Except.map_eq_ok_iff.mp hwhole
  rw [← symbols_shown hwhole] at htext
  exact ⟨shown, hreply, hpreviews.rowCount, hpreviews.rows, _, htext,
    hquiet.rows rfl _ htext⟩

end TableTalk.Api
