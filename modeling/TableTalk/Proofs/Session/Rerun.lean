import TableTalk.Proofs.Session.Consistency
import TableTalk.Proofs.Session.Numbering

/-! Asking the question of an entry again. Where ids never repeat, the entry that is found is the
one that the id was given to, and it can be asked again; the answer is the recorded one as long as
no other dataset was taken up. Entries that were cleared are not found any more. -/
namespace TableTalk.Session

variable {clock : Clock} {settings : Settings} {session next : Session} {operation : Operation}
  {entry : Entry} {dataset : Dataset}

/-- An operation adds the entry to the log. -/
def IsRecordedBy (clock : Clock) (settings : Settings) (session : Session)
    (operation : Operation) (entry : Entry) : Prop :=
  (session.step clock settings operation).history.entries = session.history.entries ++ [entry]

/-- An operation on the way to the session recorded the entry. -/
def WasRecorded (clock : Clock) (session : Session) (entry : Entry) : Prop :=
  ∃ earlier settings operation, Reaches clock fresh earlier ∧
    IsRecordedBy clock settings earlier operation entry ∧
    Reaches clock (earlier.step clock settings operation) session

/-- An entry of the log of a session: it is found, it was recorded on the way, and its question can
be asked again of the dataset in use, under any settings. -/
structure IsRerunnable (clock : Clock) (session : Session) (entry : Entry) : Prop where
  found : session.history.find? entry.stamp.id = some entry
  recorded : WasRecorded clock session entry
  answered : ∃ dataset, session.dataset = some dataset ∧ ∀ settings,
    session.rerun clock settings entry.stamp.id =
      (session.answered clock settings dataset entry.question,
        .ok (Answer.ask settings dataset.rows entry.question))

/-- The question of an entry is asked again with the result that the entry tells. -/
def Repeats (clock : Clock) (settings : Settings) (session : Session) (entry : Entry) : Prop :=
  ∃ answer next, session.rerun clock settings entry.stamp.id = (next, .ok answer) ∧
    entry.query = answer.query ∧ entry.rowCount = answer.rowCount ∧ entry.error = answer.error

/-- The questions of the log can be asked again: they have words, and there is a dataset. -/
def CanAskAgain (session : Session) : Prop :=
  ∀ entry ∈ session.history.entries,
    session.dataset.isSome = true ∧ isBlankText entry.question = false

theorem dataset_isSome_step (h : session.dataset.isSome = true) :
    (session.step clock settings operation).dataset.isSome = true := by
  rcases step_cases clock settings session operation with ⟨next, hnext, -, hbecomes⟩ | ⟨hsame, -⟩
  · rw [hnext]
    cases hbecomes with
    | load dataset _ => rfl
    | answer question dataset _ _ => exact h
    | clear => exact h
    | view => exact h
  · rwa [hsame]

theorem CanAskAgain.step (h : CanAskAgain session) :
    CanAskAgain (session.step clock settings operation) := by
  intro entry hentry
  rcases log_step_cases clock settings session operation with
    ⟨hhistory, -⟩ | ⟨hhistory, -⟩ | ⟨dataset, question, hdataset, hquestion, hstep⟩
  · rw [hhistory] at hentry
    exact ⟨dataset_isSome_step (h entry hentry).1, (h entry hentry).2⟩
  · rw [hhistory] at hentry
    cases hentry
  · refine ⟨dataset_isSome_step (hdataset ▸ rfl), ?_⟩
    rw [hstep, entries_answered, List.mem_append, List.mem_singleton] at hentry
    rcases hentry with hentry | rfl
    · exact (h entry hentry).2
    · exact hquestion

theorem CanAskAgain.of_reaches (h : CanAskAgain session) (hreaches : Reaches clock session next) :
    CanAskAgain next := by
  induction hreaches with
  | refl => exact h
  | step settings operation _ ih => exact ih.step

theorem canAskAgain_fresh : CanAskAgain fresh := List.forall_mem_nil _

theorem WasRecorded.step (h : WasRecorded clock session entry) :
    WasRecorded clock (session.step clock settings operation) entry := by
  obtain ⟨earlier, settings', operation', hearlier, hrecorded, hrest⟩ := h
  exact ⟨earlier, settings', operation', hearlier, hrecorded, hrest.step settings operation⟩

/-- Every entry was recorded by an operation. -/
theorem wasRecorded (hreaches : Reaches clock fresh session)
    (hentry : entry ∈ session.history.entries) : WasRecorded clock session entry := by
  induction hreaches with
  | refl => cases hentry
  | @step latest settings operation hlatest ih =>
    rcases log_step_cases clock settings latest operation with
      ⟨hhistory, -⟩ | ⟨hhistory, -⟩ | ⟨dataset, question, -, -, hstep⟩
    · exact (ih (hhistory ▸ hentry)).step
    · rw [hhistory] at hentry
      cases hentry
    · rw [hstep, entries_answered, List.mem_append, List.mem_singleton] at hentry
      rcases hentry with hentry | rfl
      · exact (ih hentry).step
      · exact ⟨latest, settings, operation, hlatest, by rw [IsRecordedBy, hstep]; rfl, .refl⟩

/-- An operation that records an entry answers its question from the dataset in use. -/
theorem IsRecordedBy.exists_reports (h : IsRecordedBy clock settings session operation entry) :
    ∃ dataset, (session.step clock settings operation).dataset = some dataset ∧
      Reports settings dataset entry := by
  rw [IsRecordedBy] at h
  rcases log_step_cases clock settings session operation with
    ⟨hhistory, -⟩ | ⟨hhistory, -⟩ | ⟨dataset, question, hdataset, -, hstep⟩
  · rw [hhistory] at h
    simp at h
  · rw [hhistory] at h
    simp [History.empty] at h
  · rw [hstep, entries_answered] at h
    obtain rfl := (List.cons.inj (List.append_cancel_left h)).1
    exact ⟨dataset, hstep ▸ hdataset, rfl, rfl, rfl⟩

/-- Without another dataset the entry goes on to report what is answered to its question. -/
theorem IsRecordedBy.reports_runs (h : IsRecordedBy clock settings session operation entry)
    {after : List Operation}
    (hquiet : Without clock settings Operation.isLoad
      (session.step clock settings operation) after) :
    ∃ dataset, ((session.step clock settings operation).runs clock settings after).dataset =
        some dataset ∧ Reports settings dataset entry := by
  obtain ⟨dataset, hdataset, hreports⟩ := h.exists_reports
  exact ⟨dataset, (runs_recorded hdataset after hquiet).1, hreports⟩

/-- A question that was recorded can be asked again. -/
theorem rerun_of_find? {id : String} (hfind : session.history.find? id = some entry)
    (hdataset : session.dataset = some dataset)
    (hquestion : isBlankText entry.question = false) :
    session.rerun clock settings id =
      (session.answered clock settings dataset entry.question,
        .ok (Answer.ask settings dataset.rows entry.question)) := by
  rw [Session.rerun, hfind]
  exact ask_eq_ok_iff.mpr ⟨dataset, hdataset, hquestion, rfl, rfl⟩

/-- The entries of a log that is cleared have smaller numbers than all that come afterwards. -/
theorem find?_of_cleared (hclock : clock.NeverRepeats) (hreaches : Reaches clock fresh session)
    (hentry : entry ∈ session.history.entries) (hnext : Reaches clock session.clear next) :
    next.history.find? entry.stamp.id = none := by
  have hcleared : IsNumbered clock (session.clear.recorded + 1) session.clear :=
    isNumbered_of_empty rfl
  obtain ⟨m, hpos, hm, hstamp⟩ := (isNumbered_fresh.of_reaches hreaches).exists_number hentry
  rw [History.find?, List.find?_eq_none]
  intro other hother
  obtain ⟨n, hn, -, hother⟩ := (hcleared.of_reaches hnext).exists_number hother
  have hlt : m < n := Nat.lt_of_le_of_lt hm hn
  rw [hother, hstamp, decide_eq_true_iff]
  exact fun heq => Nat.ne_of_lt hlt (hclock m n hpos (Nat.zero_lt_of_lt hlt) heq.symm)

theorem isRerunnable (hclock : clock.NeverRepeats) (hreaches : Reaches clock fresh session)
    (hentry : entry ∈ session.history.entries) : IsRerunnable clock session entry := by
  have hnumbered := isNumbered_fresh.of_reaches hreaches
  have hfound := History.find?_of_mem (hnumbered.nodup_ids hclock Nat.zero_lt_one) hentry
  obtain ⟨hsome, hquestion⟩ := canAskAgain_fresh.of_reaches hreaches entry hentry
  obtain ⟨dataset, hdataset⟩ := Option.isSome_iff_exists.mp hsome
  exact ⟨hfound, wasRecorded hreaches hentry, dataset, hdataset,
    fun _ => rerun_of_find? hfound hdataset hquestion⟩

/-- What was recorded is repeated while it is in the log and no other dataset is taken up. -/
theorem IsRecordedBy.repeats (h : IsRecordedBy clock settings session operation entry)
    (hclock : clock.NeverRepeats) (hreaches : Reaches clock fresh session) {after : List Operation}
    (hquiet : Without clock settings Operation.isLoad
      (session.step clock settings operation) after)
    (hentry : entry ∈
      ((session.step clock settings operation).runs clock settings after).history.entries) :
    Repeats clock settings ((session.step clock settings operation).runs clock settings after)
      entry := by
  obtain ⟨dataset, hdataset, hreports⟩ := h.reports_runs hquiet
  have hlater := (hreaches.step settings operation).runs settings after
  obtain ⟨other, hother, hanswered⟩ := (isRerunnable hclock hlater hentry).answered
  obtain rfl := Option.some.inj (hdataset.symm.trans hother)
  exact ⟨_, _, hanswered settings, hreports⟩

/-- Where ids never repeat, the entries of the log have different ones, each of them can be asked
again by its id, entries that are appended hide none, and those that are cleared do not come back.
Asking again repeats what is recorded until another dataset is taken up. -/
theorem reaches_rerunnable (hclock : clock.NeverRepeats) (hreaches : Reaches clock fresh session) :
    (session.history.entries.map fun entry => entry.stamp.id).Nodup ∧
    (∀ entry ∈ session.history.entries, IsRerunnable clock session entry) ∧
    (∀ id entry, session.history.find? id = some entry → ∀ later : List Entry,
      (later.foldl History.append session.history).find? id = some entry) ∧
    (∀ settings operation entry, IsRecordedBy clock settings session operation entry →
      ∀ after, Without clock settings Operation.isLoad
          (session.step clock settings operation) after →
        entry ∈
            ((session.step clock settings operation).runs clock settings after).history.entries →
          Repeats clock settings
            ((session.step clock settings operation).runs clock settings after) entry) ∧
    ∀ entry ∈ session.history.entries, ∀ next, Reaches clock session.clear next →
      next.history.find? entry.stamp.id = none := by
  refine ⟨(isNumbered_fresh.of_reaches hreaches).nodup_ids hclock Nat.zero_lt_one,
    fun entry => isRerunnable hclock hreaches, fun id entry hfind later => ?_,
    fun settings operation entry hrecorded after => hrecorded.repeats hclock hreaches,
    fun entry hentry next => find?_of_cleared hclock hreaches hentry⟩
  exact History.find?_foldl_append later hfind

/-- A clock whose ids are serial numbers. -/
def noon : Clock := .steady ⟨2024, 1, 1, 12, 0, 0, 0, some 0⟩ 1

/-- The first entry of the conversation is cleared, the second one is asked again. -/
def conversation : List Operation :=
  [.load [[("city", .text "Oslo"), ("visits", .int 3)], [("city", .text "Rome")]] "visits.csv",
    .query "total visits", .clear, .query "first 1", .query "\t", .rerun (Clock.serialId 2)]

/-- The entry that is asked again. -/
def firstRow : Entry := ⟨noon 2, "first 1", "SELECT * FROM data LIMIT 1", 1, none⟩

theorem reaches_rerunnable_conversation :
    noon.NeverRepeats ∧ Reaches noon fresh (fresh.runs noon {} conversation) ∧
      (fresh.runs noon {} conversation).history.entries.map
          (fun entry => (entry.stamp.id, entry.question)) =
        [(Clock.serialId 2, "first 1"), (Clock.serialId 3, "first 1")] ∧
      (∀ entry ∈ (fresh.runs noon {} conversation).history.entries,
        IsRerunnable noon (fresh.runs noon {} conversation) entry) ∧
      Repeats noon {} (fresh.runs noon {} conversation) firstRow ∧
      (fresh.runs noon {} conversation).history.find? (Clock.serialId 1) = none := by
  have hclock : noon.NeverRepeats := Clock.steady_neverRepeats _ _
  have hreaches (operations : List Operation) :
      Reaches noon fresh (fresh.runs noon {} operations) := Reaches.refl.runs {} operations
  refine ⟨hclock, hreaches _, by decide +kernel,
    (reaches_rerunnable hclock (hreaches conversation)).2.1, ?_, ?_⟩
  · have hrecorded : IsRecordedBy noon {} (fresh.runs noon {} (conversation.take 3))
        (.query "first 1") firstRow := by
      rw [IsRecordedBy]
      decide +kernel
    have hwhole : fresh.runs noon {} conversation =
        ((fresh.runs noon {} (conversation.take 3)).step noon {} (.query "first 1")).runs noon {}
          (conversation.drop 4) :=
      runs_append (conversation.take 3) (conversation.drop 3)
    rw [hwhole]
    exact (reaches_rerunnable hclock (hreaches (conversation.take 3))).2.2.2.1 _ _ _ hrecorded _
      ⟨(nomatch ·), (nomatch ·), trivial⟩ (by decide +kernel)
  · have hids : (fresh.runs noon {} (conversation.take 2)).history.entries.map
        (fun entry => entry.stamp.id) = [Clock.serialId 1] := by decide +kernel
    obtain ⟨entry, hentry, hid⟩ :=
      List.mem_map.mp (hids ▸ List.mem_singleton_self (Clock.serialId 1))
    have hcleared : Reaches noon (fresh.runs noon {} (conversation.take 2)).clear
        (fresh.runs noon {} conversation) :=
      Reaches.refl.runs {} (conversation.drop 3)
    exact hid ▸ (reaches_rerunnable hclock (hreaches (conversation.take 2))).2.2.2.2 entry hentry
      _ hcleared

end TableTalk.Session
