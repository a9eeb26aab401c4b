import TableTalk.Api
import TableTalk.Proofs.Session.Operations

/-! What requests do. One that asks a question, be it that of an entry, does what asking this
question does; any other one that is denied leaves the session as it is. -/
namespace TableTalk.Api

variable {clock : Clock} {settings : Settings} {session : Session} {request : Request}
  {question : String} {chartType : Option String}

/-- The question that a request asks, and the name of the chart type that it asks for. There is no
question for an entry that is not in the log. -/
def Request.question? (session : Session) : Request → Option (String × Option String)
  | .query question chartType => some (question, chartType)
  | .rerun id => (session.history.find? id).map fun entry => (entry.question, none)
  | _ => none

def Denied (result : Result) : Prop := ∃ denial, result.2 = .error denial

/-- The session after a sequence of requests. -/
def after (clock : Clock) (settings : Settings) (session : Session) (requests : List Request) :
    Session :=
  requests.foldl (fun session request => (handle clock settings session request).1) session

theorem handle_upload {filename : Option String} {content : List UInt8} {dataset : Dataset}
    (h : Ingest.ofFile settings content (uploadName filename) = .ok dataset) :
    (handle clock settings session (.upload filename (.ok content))).1 = session.load dataset := by
  rw [handle, h]
  rfl

theorem latestQuestion_answered (dataset : Dataset) :
    latestQuestion (session.answered clock settings dataset question).history = question := by
  simp [latestQuestion, Session.answered, History.append, Entry.ofAnswer]

/-- Asking the question of an entry again is asking it anew, without a chart type. -/
theorem rerun_eq_query {id : String} {entry : Entry} (h : session.history.find? id = some entry) :
    rerun clock settings session id = query clock settings session entry.question none := by
  have hname : (none : Option String).mapM ChartType.ofName = .ok none := rfl
  simp only [rerun, Session.rerun, query, h, hname]
  rcases hask : session.ask clock settings entry.question with ⟨next, problem | answer⟩
  · rfl
  · obtain ⟨dataset, -, -, -, rfl⟩ := Session.ask_eq_ok_iff.mp hask
    simp only [latestQuestion_answered]

theorem handle_eq_query (h : request.question? session = some (question, chartType)) :
    handle clock settings session request = query clock settings session question chartType := by
  cases request with
  | query =>
    cases h
    rfl
  | rerun id =>
    obtain ⟨entry, hfind, hentry⟩ := Option.map_eq_some_iff.mp h
    cases hentry
    exact rerun_eq_query hfind
  | _ => cases h

theorem loaded_of_denied {message : String} {dataset : Except Problem Dataset}
    (h : Denied (loaded session message dataset)) :
    (loaded session message dataset).1 = session := by
  cases dataset with
  | error problem => rfl
  | ok dataset =>
    obtain ⟨denial, hdenial⟩ := h
    cases hdenial

theorem handle_of_denied (hquestion : request.question? session = none)
    (h : Denied (handle clock settings session request)) :
    (handle clock settings session request).1 = session := by
  cases request with
  | upload filename content =>
    cases content with
    | error reason => rfl
    | ok content => exact loaded_of_denied h
  | sample => exact loaded_of_denied h
  | overview =>
    simp only [handle]
    split <;> rfl
  | query => cases hquestion
  | rerun id =>
    have hfind : session.history.find? id = none := by simpa [Request.question?] using hquestion
    simp [handle, rerun, Session.rerun, hfind, denied]
  | clearHistory =>
    obtain ⟨denial, hdenial⟩ := h
    cases hdenial
  | _ => rfl

/-- The session that follows a question that could be asked has its answer, whether or not the
answer is shown. -/
theorem query_eq_answered {dataset : Dataset} {type : Option ChartType}
    (htype : chartType.mapM ChartType.ofName = .ok type)
    (hdataset : session.dataset = some dataset) (hblank : Session.isBlankText question = false) :
    query clock settings session question chartType =
      answered settings (session.answered clock settings dataset question) question chartType
        (Answer.ask settings dataset.rows question) := by
  have hask : session.ask clock settings question =
      (session.answered clock settings dataset question,
        .ok (Answer.ask settings dataset.rows question)) :=
    Session.ask_eq_ok_iff.mpr ⟨dataset, hdataset, hblank, rfl, rfl⟩
  simp only [query, htype, hask]

/-- A question is refused at once or it is asked. -/
theorem query_cases (clock : Clock) (settings : Settings) (session : Session) (question : String)
    (chartType : Option String) :
    (∃ problem, query clock settings session question chartType = denied session problem) ∨
      ∃ dataset type, session.dataset = some dataset ∧
        Session.isBlankText question = false ∧ chartType.mapM ChartType.ofName = .ok type := by
  unfold query
  cases htype : chartType.mapM ChartType.ofName with
  | error problem => exact .inl ⟨problem, rfl⟩
  | ok type =>
    have hatomic := Session.isAtomic_ask clock settings session question
    rcases hask : session.ask clock settings question with ⟨next, problem | answer⟩
    · rw [hask] at hatomic
      obtain rfl : next = session := hatomic problem rfl
      exact .inl ⟨problem, rfl⟩
    · obtain ⟨dataset, hdataset, hblank, -, -⟩ := Session.ask_eq_ok_iff.mp hask
      exact .inr ⟨dataset, type, hdataset, hblank, rfl⟩

theorem answered_fst {next : Session} {answer : Answer} :
    (answered settings next question chartType answer).1 = next := by
  unfold answered
  split <;> rfl

theorem exists_show?_eq_error_iff {answer : Answer} :
    (∃ problem, show? settings question answer chartType = .error problem) ↔
      answer.error = none ∧
        ∃ problem, Figure.ofRows settings answer.rows question chartType = .error problem := by
  unfold show?
  cases answer.error with
  | none =>
    cases Figure.ofRows settings answer.rows question chartType <;> simp [pure, Except.pure]
  | some message => simp [pure, Except.pure]

/-- An answer is not shown exactly if it has no error and drawing its rows fails. -/
theorem denied_answered_iff {next : Session} {answer : Answer} :
    Denied (answered settings next question chartType answer) ↔
      answer.error = none ∧
        ∃ problem, Figure.ofRows settings answer.rows question chartType = .error problem := by
  rw [← exists_show?_eq_error_iff]
  unfold Denied answered
  cases show? settings question answer chartType <;> simp [denied]

end TableTalk.Api
