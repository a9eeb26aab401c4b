import TableTalk.Proofs.Except
import TableTalk.Question.Matching

/-! The operations that a question asks for, one by one. -/
namespace TableTalk.Question

variable {settings : Settings} {table : Table} {question : List Char} {signals : Signals}

/-- What the signals of a question are, each by the words of the normalized question. -/
structure Matches (settings : Settings) (table : Table) (question : List Char)
    (signals : Signals) : Prop where
  head : limit headWords settings.defaultLimit (normalize question) = .ok signals.limitHead
  tail : limit tailWords settings.defaultLimit (normalize question) = .ok signals.limitTail
  filter : signals.filterColumn = if mentions filterWords (normalize question)
    then mentionedColumn? (normalize question) table.columns else none
  groupRequested : signals.groupRequested = mentions groupWords (normalize question)
  group : signals.groupColumn = if mentions groupWords (normalize question)
    then mentionedColumn? (normalize question) table.columns else none
  average : signals.averageRequested = mentions averageWords (normalize question)
  sum : signals.sumRequested = mentions sumWords (normalize question)
  aggregate : if signals.averageRequested || signals.sumRequested
    then ∃ classification,
      Classification.classify (.ofSettings settings none none) table = .ok classification ∧
        signals.aggregateColumn = classification.firstNumeric
    else signals.aggregateColumn = none

theorem signals_eq_ok_iff :
    Question.signals settings table question = .ok signals ↔
      Matches settings table question signals := by
  simp only [Question.signals]
  constructor
  · intro h
    split at h
    next hrequested =>
      simp only [Except.bind_eq_ok_iff, Except.pure_eq_ok_iff] at h
      obtain ⟨classification, hclassify, _, rfl, head, hhead, tail, htail, rfl⟩ := h
      exact ⟨hhead, htail, rfl, rfl, rfl, rfl, rfl, by
        rw [if_pos hrequested]; exact ⟨classification, hclassify, rfl⟩⟩
    next hrequested =>
      simp only [Except.bind_eq_ok_iff, Except.pure_eq_ok_iff] at h
      obtain ⟨_, rfl, head, hhead, tail, htail, rfl⟩ := h
      exact ⟨hhead, htail, rfl, rfl, rfl, rfl, rfl, by rw [if_neg hrequested]⟩
  · rintro ⟨hhead, htail, hfilter, hgroupRequested, hgroup, haverage, hsum, haggregate⟩
    cases signals
    simp only at hhead htail hfilter hgroupRequested hgroup haverage hsum haggregate
    subst hfilter hgroupRequested hgroup haverage hsum
    split at haggregate
    next hrequested =>
      obtain ⟨classification, hclassify, rfl⟩ := haggregate
      simp [hrequested, hclassify, hhead, htail]
    next hrequested =>
      subst haggregate
      simp [hrequested, hhead, htail]

/-- There are signals as soon as the limits and the aggregate column, if one is needed, are known;
all others are mere words. -/
theorem exists_signals_eq_ok {head tail : Option Int} {aggregate : Option String}
    (hhead : limit headWords settings.defaultLimit (normalize question) = .ok head)
    (htail : limit tailWords settings.defaultLimit (normalize question) = .ok tail)
    (haggregate :
      if mentions averageWords (normalize question) || mentions sumWords (normalize question)
      then ∃ classification,
        Classification.classify (.ofSettings settings none none) table = .ok classification ∧
          aggregate = classification.firstNumeric
      else aggregate = none) :
    ∃ signals, Question.signals settings table question = .ok signals ∧
      signals.limitHead = head ∧ signals.aggregateColumn = aggregate := by
  let mentioned := mentionedColumn? (normalize question) table.columns
  let signals : Signals :=
    { limitHead := head
      limitTail := tail
      filterColumn := if mentions filterWords (normalize question) then mentioned else none
      groupRequested := mentions groupWords (normalize question)
      groupColumn := if mentions groupWords (normalize question) then mentioned else none
      averageRequested := mentions averageWords (normalize question)
      sumRequested := mentions sumWords (normalize question)
      aggregateColumn := aggregate }
  exact ⟨signals, signals_eq_ok_iff.mpr ⟨hhead, htail, rfl, rfl, rfl, rfl, rfl, haggregate⟩,
    rfl, rfl⟩

end TableTalk.Question
