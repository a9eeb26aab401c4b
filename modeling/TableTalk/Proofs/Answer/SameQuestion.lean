import TableTalk.Proofs.Answer.Execution
import TableTalk.Proofs.Text.WhiteSpace

/-! Questions that are one question. An answer depends on the normal form of its question alone; and
that form is its own, takes no notice of white space around the question and, but for the two
letters whose small forms are not looked up alone, none of capitals. -/
namespace TableTalk
open TableTalk.Text

namespace Question

variable {settings : Settings} {table : Table} {question other before after : List Char}

/-- The normal form of a question is normal. -/
theorem normalize_normalize (question : List Char) :
    normalize (normalize question) = normalize question := by
  have hsmall : ∀ c ∈ trim (lower question), IsSmall c := fun c hc =>
    isSmall_of_mem_lower ((Number.infix_trim (lower question)).subset hc)
  rw [normalize, normalize, lower_eq_self hsmall, trim_trim]

theorem normalize_padded (hbefore : AllBlank before) (hafter : AllBlank after)
    (question : List Char) : normalize (before ++ question ++ after) = normalize question := by
  rw [normalize, lower_padded hbefore hafter, trim_padded hbefore hafter, normalize]

/-- Not one of the two letters whose small forms are not looked up alone. -/
def isLoweredAlone (c : Char) : Bool := c != '\u0130' && c != '\u03a3'

/-- Texts of the same letters, capital or small. -/
structure SameLetters (question other : List Char) : Prop where
  letters : question.map lowerLetter = other.map lowerLetter
  left : question.all isLoweredAlone = true
  right : other.all isLoweredAlone = true

instance (question other : List Char) : Decidable (SameLetters question other) :=
  decidable_of_iff (question.map lowerLetter = other.map lowerLetter ∧
      question.all isLoweredAlone = true ∧ other.all isLoweredAlone = true)
    ⟨fun h => ⟨h.1, h.2.1, h.2.2⟩, fun h => ⟨h.letters, h.left, h.right⟩⟩

theorem SameLetters.normalize_eq (h : SameLetters question other) :
    normalize question = normalize other := by
  have hown {s : List Char} (h : s.all isLoweredAlone = true) :
      ∀ c ∈ s, c ≠ '\u0130' ∧ c ≠ '\u03a3' := by
    simpa [isLoweredAlone] using h
  rw [normalize, normalize, lower_eq_map (hown h.left), lower_eq_map (hown h.right), h.letters]

theorem signals_eq_of_normalize (h : normalize question = normalize other) :
    Question.signals settings table question = Question.signals settings table other := by
  rw [Question.signals, Question.signals, h]

end Question

namespace Answer

variable {settings : Settings} {items : List Item} {question other : String}

theorem execute_eq_of_normalize
    (h : Question.normalize question.toList = Question.normalize other.toList) :
    execute settings items (.text question) = execute settings items (.text other) := by
  have htable (table : Table) :
      ofTable settings table (.text question) = ofTable settings table (.text other) := by
    have hsignals : Question.signals settings table question.toList =
        Question.signals settings table other.toList := Question.signals_eq_of_normalize h
    simp only [ofTable, questionText, Except.ok_bind, hsignals]
  have hitems : ofItems settings items (.text question) =
      ofItems settings items (.text other) := by
    simp only [ofItems, htable]
  rw [execute, execute, hitems]

/-- A question is answered like its normal form, like every question with the same normal form, and
so like itself in other capitals or between other white space. -/
theorem execute_sameQuestion (settings : Settings) (items : List Item) (question : String) :
    Question.normalize (Question.normalize question.toList) = Question.normalize question.toList ∧
    execute settings items (.text (String.ofList (Question.normalize question.toList))) =
      execute settings items (.text question) ∧
    (∀ other : String, Question.normalize other.toList = Question.normalize question.toList →
      execute settings items (.text other) = execute settings items (.text question)) ∧
    (∀ other : String, Question.SameLetters other.toList question.toList →
      execute settings items (.text other) = execute settings items (.text question)) ∧
    ∀ before after, AllBlank before → AllBlank after →
      execute settings items (.text (String.ofList (before ++ question.toList ++ after))) =
        execute settings items (.text question) := by
  have hnormal := Question.normalize_normalize question.toList
  refine ⟨hnormal, ?_, fun other h => execute_eq_of_normalize h,
    fun other h => execute_eq_of_normalize h.normalize_eq, ?_⟩
  · apply execute_eq_of_normalize
    rw [String.toList_ofList, hnormal]
  · intro before after hbefore hafter
    apply execute_eq_of_normalize
    rw [String.toList_ofList, Question.normalize_padded hbefore hafter]

def pens : List Item :=
  [.row [("name", .text "Pen"), ("price", .int 2)], .row [("name", .text "Ink"), ("price", .int 5)],
    .row [("name", .text "Cap"), ("price", .null)]]

/-- The same question twice, in capitals and between other white space, and a final sigma that stays
final before white space. -/
theorem execute_sameQuestion_top :
    Question.SameLetters "TOP 2".toList "Top 2".toList ∧
    execute {} pens (.text "TOP 2") = execute {} pens (.text "Top 2") ∧
    AllBlank ['\t'] ∧ AllBlank ['\u3000', '\n'] ∧
    execute {} pens (.text "\tTop 2\u3000\n") = execute {} pens (.text "Top 2") ∧
    (execute {} pens (.text "Top 2")).rows.length = 2 ∧
    Question.normalize " ΤΟΠΟΣ\n".toList = Question.normalize "τοπος".toList ∧
    execute {} pens (.text " ΤΟΠΟΣ\n") = execute {} pens (.text "τοπος") := by
  have hsame : Question.SameLetters "TOP 2".toList "Top 2".toList := by decide +kernel
  have hbefore : AllBlank ['\t'] := by decide
  have hafter : AllBlank ['\u3000', '\n'] := by decide
  obtain ⟨-, -, -, hcase, hpadded⟩ := execute_sameQuestion {} pens "Top 2"
  obtain ⟨-, -, hnormal, -, -⟩ := execute_sameQuestion {} pens "τοπος"
  have hsigma : Question.normalize " ΤΟΠΟΣ\n".toList = Question.normalize "τοπος".toList := by
    decide +kernel
  have htext : String.ofList (['\t'] ++ "Top 2".toList ++ ['\u3000', '\n']) =
      "\tTop 2\u3000\n" := by decide
  have hpadded := hpadded _ _ hbefore hafter
  rw [htext] at hpadded
  exact ⟨hsame, hcase _ hsame, hbefore, hafter, hpadded, by decide +kernel, hsigma,
    hnormal _ hsigma⟩

end Answer
end TableTalk
