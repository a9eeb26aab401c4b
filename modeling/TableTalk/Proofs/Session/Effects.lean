import TableTalk.Proofs.Session.Operations

/-! The exact effect of every operation on the dataset, the log and the latest answer, and exactly
when an operation is refused. Until the log is cleared it only grows at its end. -/
namespace TableTalk.Session

variable {clock : Clock} {settings : Settings} {session next : Session} {operation : Operation}

/-- The dataset is replaced, and nothing is known of an answer about it. -/
structure TakesUp (session : Session) (dataset : Dataset) (next : Session) : Prop where
  dataset : next.dataset = some dataset
  history : next.history = session.history
  last : next.last = none

/-- The answer to a question becomes the latest one, and the log gets one entry about it. -/
structure Records (session : Session) (question : String) (answer : Answer) (next : Session) :
    Prop where
  dataset : next.dataset = session.dataset
  last : next.last = some answer
  history : ∃ entry, next.history.entries = session.history.entries ++ [entry] ∧
    entry.question = question ∧ entry.query = answer.query ∧
    entry.rowCount = (answer.rowCount : Int) ∧ entry.error = answer.error

structure Forgets (session next : Session) : Prop where
  dataset : next.dataset = session.dataset
  history : next.history.entries = []
  last : next.last = session.last

/-- What an operation that is carried out with some outcome does. -/
def HasEffect (settings : Settings) (session : Session) (operation : Operation)
    (outcome : Outcome) (next : Session) : Prop :=
  match operation with
  | .load rows filename =>
      ∃ dataset, Dataset.build settings rows filename = .ok dataset ∧ session.TakesUp dataset next
  | .sample => ∃ dataset, Dataset.sample settings = .ok dataset ∧ session.TakesUp dataset next
  | .file filename content =>
      ∃ dataset, Ingest.ofFile settings content filename = .ok dataset ∧
        session.TakesUp dataset next
  | .query question =>
      ∃ answer, outcome = .answer answer ∧ session.Records question answer next
  | .rerun id =>
      ∃ entry answer, session.history.find? id = some entry ∧ outcome = .answer answer ∧
        session.Records entry.question answer next
  | .clear => session.Forgets next
  | .last | .context | .overview | .history | .exportHistory | .exportRows => next = session

/-- What keeps an operation from being carried out. -/
def IsRefused (settings : Settings) (session : Session) : Operation → Prop
  | .load rows filename => ∃ problem, Dataset.build settings rows filename = .error problem
  | .sample => ∃ problem, Dataset.sample settings = .error problem
  | .file filename content => ∃ problem, Ingest.ofFile settings content filename = .error problem
  | .query question => session.dataset = none ∨ isBlankText question = true
  | .rerun id => ∀ entry, session.history.find? id = some entry →
      session.dataset = none ∨ isBlankText entry.question = true
  | .last => session.last = none
  | .context | .overview => session.dataset = none
  | .exportRows => ∀ answer, session.last = some answer →
      ∃ fault, Export.rows answer.rows = .error fault
  | .clear | .history | .exportHistory => False

theorem takesUp_load (session : Session) (dataset : Dataset) :
    session.TakesUp dataset (session.load dataset) :=
  ⟨rfl, rfl, rfl⟩

theorem records_answered (clock : Clock) (settings : Settings) (session : Session)
    (dataset : Dataset) (question : String) :
    session.Records question (Answer.ask settings dataset.rows question)
      (session.answered clock settings dataset question) :=
  ⟨rfl, rfl, _, rfl, rfl, rfl, rfl, rfl⟩

theorem exists_map_eq_error_iff {α β : Type} {x : Except Problem α} {f : α → β} :
    (∃ problem, x.map f = .error problem) ↔ ∃ problem, x = .error problem :=
  exists_congr fun _ => Except.map_eq_error_iff

theorem exists_takeUp_eq_error_iff {made : Except Problem Dataset} :
    (∃ problem, (session.takeUp made).2 = .error problem) ↔ ∃ problem, made = .error problem := by
  cases made <;> simp [takeUp]

theorem exists_ask_eq_error_iff {question : String} :
    (∃ problem, (session.ask clock settings question).2 = .error problem) ↔
      session.dataset = none ∨ isBlankText question = true := by
  unfold Session.ask requireDataset
  cases session.dataset with
  | none => simp
  | some dataset => cases isBlankText question <;> simp

theorem exists_requireLast_eq_error_iff :
    (∃ problem, session.requireLast = .error problem) ↔ session.last = none := by
  unfold requireLast
  split <;> simp_all

theorem exists_requireDataset_eq_error_iff :
    (∃ problem, session.requireDataset = .error problem) ↔ session.dataset = none := by
  unfold requireDataset
  split <;> simp_all

theorem exists_exportRows_eq_error_iff :
    (∃ problem, session.exportRows = .error problem) ↔
      ∀ answer, session.last = some answer → ∃ fault, Export.rows answer.rows = .error fault := by
  unfold exportRows requireLast
  cases session.last with
  | none => simp
  | some answer => cases hrows : Export.rows answer.rows <;> simp [Except.mapError, hrows]

theorem exists_rerun_eq_error_iff {id : String} :
    (∃ problem, (session.rerun clock settings id).2 = .error problem) ↔
      ∀ entry, session.history.find? id = some entry →
        session.dataset = none ∨ isBlankText entry.question = true := by
  unfold Session.rerun
  cases session.history.find? id with
  | none => simp
  | some entry => simpa using exists_ask_eq_error_iff

theorem isRefused_iff (clock : Clock) (settings : Settings) (session : Session)
    (operation : Operation) :
    session.IsRefused settings operation ↔
      ∃ problem, (session.run clock settings operation).2 = .error problem := by
  cases operation with
  | load | sample | file => exact exists_takeUp_eq_error_iff.symm
  | query question => exact (exists_map_eq_error_iff.trans exists_ask_eq_error_iff).symm
  | rerun id => exact (exists_map_eq_error_iff.trans exists_rerun_eq_error_iff).symm
  | last => exact (exists_map_eq_error_iff.trans exists_requireLast_eq_error_iff).symm
  | context | overview =>
    exact (exists_map_eq_error_iff.trans exists_requireDataset_eq_error_iff).symm
  | exportRows => exact (exists_map_eq_error_iff.trans exists_exportRows_eq_error_iff).symm
  | clear | history | exportHistory => simp [IsRefused, run]

/-- A question that is answered has the effect of recording its answer. -/
theorem records_of_ask {question : String} {answer : Answer}
    (h : session.ask clock settings question = (next, .ok answer)) :
    session.Records question answer next := by
  obtain ⟨dataset, -, -, rfl, rfl⟩ := ask_eq_ok_iff.mp h
  exact records_answered clock settings session dataset question

theorem hasEffect_of_run {outcome : Outcome}
    (h : session.run clock settings operation = (next, .ok outcome)) :
    session.HasEffect settings operation outcome next := by
  cases operation with
  | load | sample | file =>
    obtain ⟨dataset, hdataset, rfl⟩ := takeUp_eq_ok h
    exact ⟨dataset, hdataset, takesUp_load session dataset⟩
  | query question =>
    obtain ⟨answer, hask, houtcome⟩ := map_eq_ok h
    exact ⟨answer, houtcome.symm, records_of_ask hask⟩
  | rerun id =>
    obtain ⟨answer, hrerun, houtcome⟩ := map_eq_ok h
    obtain ⟨entry, hfind, hask⟩ := rerun_eq_ok hrerun
    exact ⟨entry, answer, hfind, houtcome.symm, records_of_ask hask⟩
  | clear =>
    obtain ⟨rfl, -⟩ := Prod.mk.inj h
    exact ⟨rfl, rfl, rfl⟩
  | last | context | overview | history | exportHistory | exportRows =>
    exact (Prod.mk.inj h).1.symm

/-- One operation other than clearing leaves the entries where they are. -/
theorem isPrefix_step_history (hclear : operation.isClear = false) :
    session.history.entries <+: (session.step clock settings operation).history.entries := by
  rcases step_cases clock settings session operation with ⟨next, hnext, -, hbecomes⟩ | ⟨hsame, -⟩
  · rw [hnext]
    cases hbecomes with
    | load dataset _ => exact List.prefix_refl _
    | answer question dataset _ _ => exact List.prefix_append _ _
    | clear => cases hclear
    | view => exact List.prefix_refl _
  · exact ⟨[], by rw [hsame, List.append_nil]⟩

theorem isPrefix_runs_history (session : Session) (operations : List Operation)
    (hclear : ∀ operation ∈ operations, operation.isClear = false) :
    session.history.entries <+: (session.runs clock settings operations).history.entries := by
  induction operations generalizing session with
  | nil => exact List.prefix_refl _
  | cons operation rest ih =>
    rw [List.forall_mem_cons] at hclear
    exact (isPrefix_step_history hclear.1).trans (ih _ hclear.2)

/-- An operation is either refused, and then nothing changes, or it has exactly its effect. Over
any operations but clearing the log keeps its entries as a prefix. -/
theorem operations_exact_effect (clock : Clock) (settings : Settings) (session : Session) :
    (∀ operation, session.IsRefused settings operation ↔
      ∃ problem, (session.run clock settings operation).2 = .error problem) ∧
    (∀ operation problem next, session.run clock settings operation = (next, .error problem) →
      next = session) ∧
    (∀ operation outcome next, session.run clock settings operation = (next, .ok outcome) →
      session.HasEffect settings operation outcome next) ∧
    ∀ before operations, (∀ operation ∈ operations, operation.isClear = false) →
      (session.runs clock settings before).history.entries <+:
        (session.runs clock settings (before ++ operations)).history.entries := by
  refine ⟨isRefused_iff clock settings session, fun operation problem next h => ?_,
    fun _ _ _ => hasEffect_of_run, fun before operations hclear => ?_⟩
  · have hatomic := isAtomic_run clock settings session operation problem
    rw [h] at hatomic
    exact hatomic rfl
  · rw [runs_append]
    exact isPrefix_runs_history _ operations hclear

end TableTalk.Session
