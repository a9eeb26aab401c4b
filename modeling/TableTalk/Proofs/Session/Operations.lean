import Mathlib.Data.List.Induction
import TableTalk.Proofs.Except
import TableTalk.Session

/-! What the operations do to a session: some take up a dataset, some answer a question and record
the answer, one clears the log, and the others leave the session as it is, as does every operation
that fails. -/
namespace TableTalk.Session

variable {clock : Clock} {settings : Settings} {session next : Session} {operation : Operation}
  {α β : Type} {result : Result α}

namespace Operation

/-- The operations that take up a dataset. -/
def isLoad : Operation → Bool
  | .load .. | .sample | .file .. => true
  | _ => false

/-- The operations that ask a question, a new one or that of an entry. -/
def isAsk : Operation → Bool
  | .query _ | .rerun _ => true
  | _ => false

def isClear : Operation → Bool
  | .clear => true
  | _ => false

/-- The question that an operation asks. There is none for an entry that is not in the log. -/
def question? (session : Session) : Operation → Option String
  | .query question => some question
  | .rerun id => (session.history.find? id).map Entry.question
  | _ => none

end Operation

/-- The session once it has answered a question about a dataset. -/
def answered (clock : Clock) (settings : Settings) (session : Session) (dataset : Dataset)
    (question : String) : Session :=
  let answer := Answer.ask settings dataset.rows question
  let stamp := clock (session.recorded + 1)
  { session with history := session.history.append (Entry.ofAnswer stamp question answer)
                 last := some answer
                 recorded := session.recorded + 1 }

theorem ask_eq_ok_iff {question : String} {answer : Answer} :
    session.ask clock settings question = (next, .ok answer) ↔
      ∃ dataset, session.dataset = some dataset ∧ isBlankText question = false ∧
        answer = Answer.ask settings dataset.rows question ∧
        next = session.answered clock settings dataset question := by
  unfold Session.ask requireDataset answered
  cases session.dataset with
  | none => simp
  | some dataset =>
    cases isBlankText question with
    | true => simp
    | false =>
      simp only [Bool.false_eq_true, if_false, Prod.mk.injEq, Except.ok.injEq, Option.some.injEq,
        exists_eq_left', true_and]
      exact ⟨fun ⟨hnext, hanswer⟩ => ⟨hanswer.symm, hnext.symm⟩,
        fun ⟨hanswer, hnext⟩ => ⟨hnext.symm, hanswer.symm⟩⟩

/-- What fails leaves the session as it was. -/
def IsAtomic (session : Session) (result : Result α) : Prop :=
  ∀ problem, result.2 = .error problem → result.1 = session

theorem IsAtomic.map (h : session.IsAtomic result) (f : α → β) : session.IsAtomic (result.map f) :=
  fun problem hproblem => h problem (Except.map_eq_error_iff.mp hproblem)

theorem isAtomic_takeUp (made : Except Problem Dataset) :
    session.IsAtomic (session.takeUp made) := by
  intro problem h
  cases made with
  | ok dataset => cases h
  | error => rfl

theorem isAtomic_ask (clock : Clock) (settings : Settings) (session : Session)
    (question : String) : session.IsAtomic (session.ask clock settings question) := by
  intro problem h
  unfold Session.ask at h ⊢
  cases hdataset : session.requireDataset with
  | error => rfl
  | ok dataset =>
    simp only [hdataset] at h ⊢
    split_ifs at h ⊢
    rfl

theorem isAtomic_rerun (id : String) : session.IsAtomic (session.rerun clock settings id) := by
  unfold Session.rerun
  split
  · exact fun _ _ => rfl
  · exact isAtomic_ask clock settings session _

/-- An operation that fails has done nothing before it does. -/
theorem isAtomic_run (clock : Clock) (settings : Settings) (session : Session)
    (operation : Operation) : session.IsAtomic (session.run clock settings operation) := by
  cases operation with
  | load | sample | file => exact isAtomic_takeUp _
  | query question => exact (isAtomic_ask clock settings session question).map _
  | rerun id => exact (isAtomic_rerun id).map _
  | clear => exact nofun
  | last | context | overview | history | exportHistory | exportRows => exact fun _ _ => rfl

/-- What an operation that is carried out makes of a session. -/
inductive Becomes (clock : Clock) (settings : Settings) (session : Session) :
    Operation → Session → Prop
  | load {operation : Operation} (dataset : Dataset) (h : operation.isLoad = true) :
      Becomes clock settings session operation (session.load dataset)
  | answer {operation : Operation} (question : String) (dataset : Dataset)
      (hquestion : operation.question? session = some question)
      (hdataset : session.dataset = some dataset) :
      Becomes clock settings session operation (session.answered clock settings dataset question)
  | clear : Becomes clock settings session .clear session.clear
  | view {operation : Operation} (hload : operation.isLoad = false)
      (hask : operation.isAsk = false) (hclear : operation.isClear = false) :
      Becomes clock settings session operation session

theorem takeUp_eq_ok {made : Except Problem Dataset} {outcome : Outcome}
    (h : session.takeUp made = (next, .ok outcome)) :
    ∃ dataset, made = .ok dataset ∧ next = session.load dataset := by
  cases made with
  | ok dataset => exact ⟨dataset, rfl, (Prod.mk.inj h).1.symm⟩
  | error => cases h

theorem map_eq_ok {f : α → β} {b : β} (h : result.map f = (next, .ok b)) :
    ∃ a, result = (next, .ok a) ∧ f a = b := by
  obtain ⟨hnext, hb⟩ := Prod.mk.inj h
  obtain ⟨a, ha, rfl⟩ := Except.map_eq_ok_iff.mp hb
  exact ⟨a, Prod.ext hnext ha, rfl⟩

theorem rerun_eq_ok {id : String} {answer : Answer}
    (h : session.rerun clock settings id = (next, .ok answer)) :
    ∃ entry, session.history.find? id = some entry ∧
      session.ask clock settings entry.question = (next, .ok answer) := by
  unfold Session.rerun at h
  split at h
  · cases h
  case h_2 entry hfind => exact ⟨entry, hfind, h⟩

theorem becomes_of_run {outcome : Outcome}
    (h : session.run clock settings operation = (next, .ok outcome)) :
    Becomes clock settings session operation next := by
  cases operation with
  | load | sample | file =>
    obtain ⟨dataset, -, rfl⟩ := takeUp_eq_ok h
    exact .load dataset rfl
  | query question =>
    obtain ⟨answer, hask, -⟩ := map_eq_ok h
    obtain ⟨dataset, hdataset, -, -, rfl⟩ := ask_eq_ok_iff.mp hask
    exact .answer question dataset rfl hdataset
  | rerun id =>
    obtain ⟨answer, hrerun, -⟩ := map_eq_ok h
    obtain ⟨entry, hfind, hask⟩ := rerun_eq_ok hrerun
    obtain ⟨dataset, hdataset, -, -, rfl⟩ := ask_eq_ok_iff.mp hask
    exact .answer entry.question dataset (by simp [Operation.question?, hfind]) hdataset
  | clear =>
    obtain ⟨rfl, -⟩ := Prod.mk.inj h
    exact .clear
  | last | context | overview | history | exportHistory | exportRows =>
    obtain ⟨rfl, -⟩ := Prod.mk.inj h
    exact .view rfl rfl rfl

/-- Whether a session carries out an operation. -/
def Succeeds (clock : Clock) (settings : Settings) (session : Session) (operation : Operation) :
    Prop :=
  ∃ outcome, (session.run clock settings operation).2 = .ok outcome

theorem succeeds_clear : Succeeds clock settings session .clear := ⟨.done, rfl⟩

/-- A step either does what the operation does or fails and leaves the session. -/
theorem step_cases (clock : Clock) (settings : Settings) (session : Session)
    (operation : Operation) :
    (∃ next, session.step clock settings operation = next ∧
      Succeeds clock settings session operation ∧
      Becomes clock settings session operation next) ∨
    (session.step clock settings operation = session ∧
      ¬ Succeeds clock settings session operation) := by
  cases h : (session.run clock settings operation).2 with
  | ok outcome => exact .inl ⟨_, rfl, ⟨outcome, h⟩, becomes_of_run (Prod.ext rfl h)⟩
  | error problem =>
    exact .inr ⟨isAtomic_run clock settings session operation problem h, by simp [Succeeds, h]⟩

/-- The session after a sequence of operations, some of which may fail. -/
def runs (clock : Clock) (settings : Settings) (session : Session)
    (operations : List Operation) : Session :=
  operations.foldl (step clock settings) session

theorem runs_append (first second : List Operation) :
    session.runs clock settings (first ++ second) =
      (session.runs clock settings first).runs clock settings second :=
  List.foldl_append

theorem runs_concat (operations : List Operation) (operation : Operation) :
    session.runs clock settings (operations ++ [operation]) =
      (session.runs clock settings operations).step clock settings operation :=
  runs_append operations [operation]

/-- What the last operation of a run does. -/
theorem runs_concat_cases (operations : List Operation) (operation : Operation) :
    (∃ next, session.runs clock settings (operations ++ [operation]) = next ∧
      Succeeds clock settings (session.runs clock settings operations) operation ∧
      Becomes clock settings (session.runs clock settings operations) operation next) ∨
    (session.runs clock settings (operations ++ [operation]) =
        session.runs clock settings operations ∧
      ¬ Succeeds clock settings (session.runs clock settings operations) operation) := by
  rw [runs_concat]
  exact step_cases clock settings (session.runs clock settings operations) operation

/-- No operation of a kind is carried out in a run. -/
def Without (clock : Clock) (settings : Settings) (kind : Operation → Bool) :
    Session → List Operation → Prop
  | _, [] => True
  | session, operation :: rest =>
      (kind operation = true → ¬ Succeeds clock settings session operation) ∧
        Without clock settings kind (session.step clock settings operation) rest

theorem without_concat {kind : Operation → Bool} (operations : List Operation)
    (operation : Operation) :
    Without clock settings kind session (operations ++ [operation]) ↔
      Without clock settings kind session operations ∧
        (kind operation = true →
          ¬ Succeeds clock settings (session.runs clock settings operations) operation) := by
  induction operations generalizing session with
  | nil => simp [Without, runs]
  | cons first rest ih =>
    rw [List.cons_append, Without, Without, ih, and_assoc]
    rfl

end TableTalk.Session
