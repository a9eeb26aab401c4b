import TableTalk.Proofs.Session.Operations

/-! What a session knows about its past. Whatever operations are tried, the latest answer is that
of the latest question to the dataset in use, and the entries recorded since that dataset was taken
up say what it answers to their questions. Entries from before are kept, but promise nothing. -/
namespace TableTalk.Session

variable {clock : Clock} {settings : Settings} {session : Session}
  {operations : List Operation} {dataset : Dataset}

/-- An entry has the query, the number of rows and the error of the answer that a dataset gives to
its question. -/
def Reports (settings : Settings) (dataset : Dataset) (entry : Entry) : Prop :=
  entry.query = (Answer.ask settings dataset.rows entry.question).query ∧
    entry.rowCount = (Answer.ask settings dataset.rows entry.question).rowCount ∧
    entry.error = (Answer.ask settings dataset.rows entry.question).error

/-- The operations after which the latest answer is another one, or none. -/
def replacesAnswer (operation : Operation) : Bool := operation.isLoad || operation.isAsk

/-- The latest answer is that of the dataset in use to the question of the latest operation that
asked one with success, and no dataset was taken up since. -/
def AnswersLatest (clock : Clock) (settings : Settings) (operations : List Operation) : Prop :=
  ∀ answer, (fresh.runs clock settings operations).last = some answer →
    ∃ before operation after question dataset,
      operations = before ++ operation :: after ∧
      operation.question? (fresh.runs clock settings before) = some question ∧
      Succeeds clock settings (fresh.runs clock settings before) operation ∧
      Without clock settings replacesAnswer
        (fresh.runs clock settings (before ++ [operation])) after ∧
      (fresh.runs clock settings operations).dataset = some dataset ∧
      answer = Answer.ask settings dataset.rows question

/-- After a dataset is taken up, the log is what there was before, unless it was cleared since, and
then entries that report the answers of this dataset. -/
def RecordsSince (clock : Clock) (settings : Settings) (operations : List Operation) : Prop :=
  ∀ before operation after, operations = before ++ operation :: after →
    operation.isLoad = true →
    Succeeds clock settings (fresh.runs clock settings before) operation →
    Without clock settings Operation.isLoad
      (fresh.runs clock settings (before ++ [operation])) after →
    ∃ dataset recorded, (fresh.runs clock settings operations).dataset = some dataset ∧
      (fresh.runs clock settings operations).history.entries =
        (if after.any Operation.isClear then []
          else (fresh.runs clock settings before).history.entries) ++ recorded ∧
      ∀ entry ∈ recorded, Reports settings dataset entry

/-- An entry needs a dataset, and a session that has one never gives it up. -/
theorem runs_dataset_isSome (operations : List Operation) :
    (fresh.runs clock settings operations).history.entries ≠ [] →
      (fresh.runs clock settings operations).dataset.isSome := by
  induction operations using List.reverseRecOn with
  | nil => exact fun hne => absurd rfl hne
  | append_singleton operations operation ih =>
    rcases runs_concat_cases operations operation with ⟨next, hnext, -, hbecomes⟩ | ⟨hsame, -⟩
    · rw [hnext]
      cases hbecomes with
      | load dataset _ => exact fun _ => rfl
      | answer question dataset _ hdataset => exact fun _ => by simp [answered, hdataset]
      | clear => exact fun hne => absurd rfl hne
      | view => exact ih
    · rw [hsame]
      exact ih

/-- One more operation that fails or leaves the dataset and the latest answer alone. -/
theorem answersLatest_concat {operation : Operation}
    (h : AnswersLatest clock settings operations)
    (hkeeps : replacesAnswer operation = true →
      ¬ Succeeds clock settings (fresh.runs clock settings operations) operation)
    (hlast : (fresh.runs clock settings (operations ++ [operation])).last =
      (fresh.runs clock settings operations).last)
    (hdataset : (fresh.runs clock settings (operations ++ [operation])).dataset =
      (fresh.runs clock settings operations).dataset) :
    AnswersLatest clock settings (operations ++ [operation]) := by
  intro answer hanswer
  obtain ⟨before, asked, after, question, dataset, rfl, hquestion, hasked, hquiet, hused,
      hanswer⟩ := h answer (hlast.symm.trans hanswer)
  refine ⟨before, asked, after ++ [operation], question, dataset, by simp, hquestion, hasked, ?_,
    hdataset.trans hused, hanswer⟩
  rw [without_concat, ← runs_append, List.append_assoc]
  exact ⟨hquiet, hkeeps⟩

theorem runs_answersLatest (operations : List Operation) :
    AnswersLatest clock settings operations := by
  induction operations using List.reverseRecOn with
  | nil => exact fun answer hanswer => nomatch hanswer
  | append_singleton operations operation ih =>
    rcases runs_concat_cases operations operation with
      ⟨next, hnext, hsucceeds, hbecomes⟩ | ⟨hsame, hfails⟩
    · cases hbecomes with
      | load dataset _ =>
        intro answer hanswer
        rw [hnext] at hanswer
        cases hanswer
      | answer question dataset hquestion hdataset =>
        intro answer hanswer
        rw [hnext] at hanswer
        refine ⟨operations, operation, [], question, dataset, rfl, hquestion, hsucceeds, trivial,
          ?_, (Option.some.inj hanswer).symm⟩
        rw [hnext]
        exact hdataset
      | clear =>
        exact answersLatest_concat ih (fun h => nomatch h) (by rw [hnext]; rfl)
          (by rw [hnext]; rfl)
      | view hload hask _ =>
        exact answersLatest_concat ih (by simp [replacesAnswer, hload, hask]) (by rw [hnext])
          (by rw [hnext])
    · exact answersLatest_concat ih (fun _ => hfails) (by rw [hsame]) (by rw [hsame])

/-- A question that is answered leaves an entry that reports the answer. -/
theorem answered_entries (clock : Clock) (settings : Settings) (session : Session)
    (dataset : Dataset) (question : String) :
    ∃ entry, (session.answered clock settings dataset question).history.entries =
      session.history.entries ++ [entry] ∧ Reports settings dataset entry :=
  ⟨_, rfl, rfl, rfl, rfl⟩

/-- As long as no other dataset is taken up, only entries that report its answers come to the
log. -/
theorem runs_recorded (hdataset : session.dataset = some dataset) (operations : List Operation)
    (hquiet : Without clock settings Operation.isLoad session operations) :
    (session.runs clock settings operations).dataset = some dataset ∧
      ∃ recorded, (session.runs clock settings operations).history.entries =
          (if operations.any Operation.isClear then [] else session.history.entries) ++ recorded ∧
        ∀ entry ∈ recorded, Reports settings dataset entry := by
  induction operations using List.reverseRecOn with
  | nil => exact ⟨hdataset, [], by simp [runs], by simp⟩
  | append_singleton operations operation ih =>
    obtain ⟨hquiet, hload⟩ := (without_concat operations operation).mp hquiet
    obtain ⟨hdataset, recorded, hentries, hreports⟩ := ih hquiet
    rcases runs_concat_cases operations operation with
      ⟨next, hnext, hsucceeds, hbecomes⟩ | ⟨hsame, hfails⟩
    · rw [hnext]
      cases hbecomes with
      | load dataset hload' => exact absurd hsucceeds (hload hload')
      | answer question other hquestion hother =>
        -- The dataset that answered is still the one in use, as no load succeeded since.
        have hsame : other = dataset := Option.some.inj (hother.symm.trans hdataset)
        subst hsame
        have hclear : operation.isClear = false := by
          cases operation <;> simp_all [Operation.isClear, Operation.question?]
        obtain ⟨entry, happend, hentry⟩ := answered_entries clock settings
          (session.runs clock settings operations) other question
        refine ⟨hdataset, recorded ++ [entry], ?_, ?_⟩
        · rw [happend, hentries, List.any_append, List.append_assoc]
          simp [hclear]
        · simp only [List.mem_append, List.mem_singleton]
          rintro entry (hmem | rfl)
          · exact hreports entry hmem
          · exact hentry
      | clear => exact ⟨hdataset, [], by simp [clear, History.empty, Operation.isClear], by simp⟩
      | view _ _ hclear =>
        exact ⟨hdataset, recorded, by simpa [hclear] using hentries, hreports⟩
    · have hclear : operation.isClear = false := by
        cases operation with
        | clear => exact absurd succeeds_clear hfails
        | _ => rfl
      rw [hsame]
      exact ⟨hdataset, recorded, by simpa [hclear] using hentries, hreports⟩

theorem runs_recordsSince (operations : List Operation) :
    RecordsSince clock settings operations := by
  rintro before operation after rfl hload hsucceeds hquiet
  have happend : before ++ operation :: after = (before ++ [operation]) ++ after := by simp
  rw [happend, runs_append]
  rcases runs_concat_cases before operation with ⟨next, hnext, -, hbecomes⟩ | ⟨-, hfails⟩
  · rw [hnext] at hquiet ⊢
    cases hbecomes with
    | load dataset _ =>
      obtain ⟨hdataset, recorded, hentries, hreports⟩ := runs_recorded rfl after hquiet
      exact ⟨dataset, recorded, hdataset, hentries, hreports⟩
    | answer question dataset hquestion _ =>
      cases operation <;> simp_all [Operation.isLoad, Operation.question?]
    | clear => cases hload
    | view hload' => simp [hload'] at hload
  · exact absurd hsucceeds hfails

/-- Whatever operations are tried on a fresh session, its latest answer, its dataset and its log
belong together. -/
theorem runs_fresh_consistent (clock : Clock) (settings : Settings) (operations : List Operation) :
    AnswersLatest clock settings operations ∧
      ((fresh.runs clock settings operations).history.entries ≠ [] →
        (fresh.runs clock settings operations).dataset.isSome) ∧
      RecordsSince clock settings operations :=
  ⟨runs_answersLatest operations, runs_dataset_isSome operations, runs_recordsSince operations⟩

end TableTalk.Session
