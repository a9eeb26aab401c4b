import TableTalk.Proofs.Number.Comparison
import TableTalk.Proofs.Settings

/-! Settings field by field. A field is judged by the value that is chosen for it and by nothing
else. There are settings exactly if every field is accepted, and otherwise the fields that are not
are reported, each with its own reason, in the order in which they are declared. -/
namespace TableTalk
open TableTalk.Number

variable {α β : Type} {verdict : Verdict (α → β)} {next : Verdict α}

/-- The fields that a verdict refuses. -/
def Verdict.refused : Verdict α → List (String × Refusal)
  | .ok _ => []
  | .error refused => refused

theorem Verdict.refused_apply : (verdict.apply next).refused = verdict.refused ++ next.refused := by
  cases verdict <;> cases next <;> simp [apply, refused]

/-- Nothing fails without a reason. -/
theorem Verdict.apply_ne_error_nil (h : verdict ≠ .error []) (hnext : next ≠ .error []) :
    verdict.apply next ≠ .error [] := by
  cases verdict <;> cases next <;> simp_all [apply]

namespace Settings

/-- A number above zero that is no more than one. -/
def IsShare (x : Float) : Prop := isFinite x = true ∧ 0 < floatValue x ∧ floatValue x ≤ 1

instance : DecidablePred IsShare := fun x =>
  inferInstanceAs (Decidable (isFinite x = true ∧ 0 < floatValue x ∧ floatValue x ≤ 1))

/-- A field: how a value given for it is read, which of these values are accepted, and where its
value stands in the settings. -/
structure Field where
  name : String
  {Value : Type}
  read : Cell → Except Refusal Value
  accepts : Value → Bool
  get : Settings → Value

namespace Field

/-- A field that takes every value of its type. -/
def free (name : String) {Value : Type} (read : Cell → Except Refusal Value)
    (get : Settings → Value) : Field :=
  { name, read, accepts := fun _ => true, get }

def positive (name : String) (get : Settings → Int) : Field :=
  { name, read := Coercion.integer, accepts := fun n => decide (0 < n), get }

def share (name : String) (get : Settings → Float) : Field :=
  { name, read := Coercion.float, accepts := fun x => decide (IsShare x), get }

variable (field : Field) (sources : Sources)

def take (cell : Cell) : Except Refusal field.Value := do
  let value ← field.read cell
  if field.accepts value then .ok value else .error .outOfRange

/-- The value of a field: one that is given comes before the variable of the field's name, and this
before the default. -/
def judge : Except Refusal field.Value :=
  match sources.given.lookup field.name, sources.environment.lookup field.name with
  | some cell, _ => field.take cell
  | none, some text => field.take (.text text)
  | none, none => .ok (field.get {})

/-- The report of a field that is not accepted. -/
def refusal? : Option (String × Refusal) :=
  match field.judge sources with
  | .ok _ => none
  | .error reason => some (field.name, reason)

end Field

/-- The fields in the order of their declaration. -/
def fields : List Field :=
  [.free "APP_NAME" Coercion.text appName,
   .free "APP_VERSION" Coercion.text appVersion,
   .free "DEBUG" Coercion.truth debug,
   .free "LOG_LEVEL" Coercion.text logLevel,
   .free "LOG_DIR" Coercion.text logDirectory,
   .free "LOG_TO_FILE" Coercion.truth logToFile,
   .free "HOST" Coercion.text host,
   .free "PORT" Coercion.integer port,
   .free "MAX_UPLOAD_SIZE_MB" Coercion.integer maxUploadSize,
   .positive "TYPE_SAMPLE_SIZE" typeSampleSize,
   .share "TYPE_THRESHOLD" typeThreshold,
   .positive "DEFAULT_LIMIT" defaultLimit,
   .free "RESULT_PREVIEW_ROWS" Coercion.integer resultPreviewRows,
   .free "CHART_MAX_POINTS" Coercion.integer chartMaxPoints]

/-- What is reported of the fields that are not accepted. -/
def refusals (sources : Sources) : List (String × Refusal) := fields.filterMap (·.refusal? sources)

/-- The settings are refused, and the field of this name is reported. -/
def IsReported (sources : Sources) (name : String) : Prop :=
  ∃ refused, ofSources sources = .error refused ∧ name ∈ refused.map Prod.fst

variable {sources other : Sources} {settings : Settings} {field : Field}
  {refused : List (String × Refusal)}

theorem Field.judge_eq : field.judge sources =
    (sources.find? field.name).elim (.ok (field.get {})) field.take := by
  rw [judge, Sources.find?]
  cases sources.given.lookup field.name <;> cases sources.environment.lookup field.name <;> rfl

theorem Field.verdict_eq : Verdict.field sources.find? field.name (field.get {}) field.take =
    (field.judge sources).mapError fun reason => [(field.name, reason)] := by
  rw [judge_eq, Verdict.field]
  cases sources.find? field.name <;> rfl

theorem Field.refused_eq :
    (Verdict.field sources.find? field.name (field.get {}) field.take).refused =
      (field.refusal? sources).toList := by
  rw [verdict_eq, refusal?]
  cases field.judge sources <;> rfl

theorem Field.take_free {name : String} {Value : Type} {read : Cell → Except Refusal Value}
    {get : Settings → Value} : (free name read get).take = read := by
  funext cell
  cases h : read cell <;> simp [take, free, h]

theorem Field.take_positive {name : String} {get : Settings → Int} :
    (positive name get).take = readPositive := by
  funext cell
  simp [take, positive, readPositive]

theorem Field.take_share {name : String} {get : Settings → Float} :
    (share name get).take = readShare := by
  have hshare (x : Float) : 0 < x ∧ x ≤ 1 ↔ IsShare x := share_iff
  funext cell
  simp [take, share, readShare, hshare]

theorem field_ne_error_nil {name : String} {fallback : α} {read : Cell → Except Refusal α} :
    Verdict.field sources.find? name fallback read ≠ .error [] := by
  rw [Verdict.field]
  cases sources.find? name with
  | none => simp
  | some cell => simp

theorem ofSources_ne_error_nil : ofSources sources ≠ .error [] := by
  unfold ofSources
  repeat refine Verdict.apply_ne_error_nil ?_ field_ne_error_nil
  simp

theorem refused_ofSources : (ofSources sources).refused = refusals sources := by
  simp only [ofSources, Verdict.refused_apply, refusals, List.filterMap_eq_flatMap_toList, fields,
    List.flatMap_cons, List.flatMap_nil, ← Field.refused_eq, Field.take_free, Field.take_positive,
    Field.take_share]
  simp only [Field.free, Field.positive, Field.share, List.append_assoc, List.append_nil]
  rfl

theorem Field.judge_eq_ok_iff {value : field.Value} : field.judge sources = .ok value ↔
    Verdict.field sources.find? field.name (field.get {}) field.take = .ok value := by
  rw [verdict_eq, Except.mapError_eq_ok_iff]

theorem ofSources_eq_ok_iff : ofSources sources = .ok settings ↔
    ∀ field ∈ fields, field.judge sources = .ok (field.get settings) := by
  simp only [fields, List.forall_mem_cons, Field.judge_eq_ok_iff, Field.take_free,
    Field.take_positive, Field.take_share, List.not_mem_nil, false_implies]
  simp only [Field.free, Field.positive, Field.share]
  simp only [ofSources, Verdict.apply_eq_ok_iff, Except.ok.injEq, exists_eq_left', existsAndEq,
    and_true, exists_exists_and_eq_and]
  constructor
  · rintro ⟨_, _, _, _, _, _, _, _, _, _, _, _, _, h, _, hlast, rfl⟩
    grind
  · intro h
    refine ⟨_, _, _, _, _, _, _, _, _, _, _, _, _, ?_, _, ?_, rfl⟩
    · grind
    · grind

theorem eq_refusals (h : ofSources sources = .error refused) : refused = refusals sources := by
  rw [← refused_ofSources, h, Verdict.refused]

theorem Field.refusal?_eq_some_iff {report : String × Refusal} :
    field.refusal? sources = some report ↔
      field.name = report.1 ∧ field.judge sources = .error report.2 := by
  rw [refusal?]
  cases field.judge sources <;> simp [Prod.ext_iff]

theorem nodup_names : (fields.map Field.name).Nodup := by decide

/-- A field is reported exactly if it is not accepted, whatever becomes of the others. -/
theorem isReported_iff (hfield : field ∈ fields) :
    IsReported sources field.name ↔ ∃ reason, field.judge sources = .error reason := by
  constructor
  · rintro ⟨refused, hrefused, hname⟩
    obtain ⟨report, hreport, hname⟩ := List.mem_map.mp hname
    rw [eq_refusals hrefused] at hreport
    obtain ⟨same, hsame, hreport⟩ := List.mem_filterMap.mp hreport
    obtain ⟨hreported, hjudge⟩ := Field.refusal?_eq_some_iff.mp hreport
    obtain rfl : same = field :=
      List.inj_on_of_nodup_map nodup_names hsame hfield (hreported.trans hname)
    exact ⟨report.2, hjudge⟩
  · rintro ⟨reason, hreason⟩
    have hreport : (field.name, reason) ∈ refusals sources :=
      List.mem_filterMap.mpr ⟨field, hfield, Field.refusal?_eq_some_iff.mpr ⟨rfl, hreason⟩⟩
    cases hsettings : ofSources sources with
    | ok settings =>
      rw [← refused_ofSources, hsettings] at hreport
      cases hreport
    | error refused =>
      exact ⟨refused, hsettings, List.mem_map.mpr ⟨_, eq_refusals hsettings ▸ hreport, rfl⟩⟩

theorem Field.judge_congr (h : sources.find? field.name = other.find? field.name) :
    field.judge sources = field.judge other := by
  rw [judge_eq, judge_eq, h]

/-- What lies beyond the numbers is no share. -/
theorem judge_threshold_of_not_finite {cell : Cell} {x : Float}
    (hcell : sources.find? "TYPE_THRESHOLD" = some cell) (hread : Coercion.float cell = .ok x)
    (hx : isFinite x = false) :
    (Field.share "TYPE_THRESHOLD" typeThreshold).judge sources = .error .outOfRange := by
  have hshare : ¬ IsShare x := fun h => Bool.false_ne_true (hx.symm.trans h.1)
  have hname : (Field.share "TYPE_THRESHOLD" typeThreshold).name = "TYPE_THRESHOLD" := rfl
  rw [Field.judge_eq, hname, hcell, Option.elim_some, Field.take]
  simp [Field.share, hread, hshare]

/-- Settings are made field by field. If there are any, each field has the value that was chosen for
it, by the call, else by the environment, else by default, and the sample, the limit and the share
are in their ranges, the share as a number. Otherwise the fields reported are those that are not
accepted, in order. No field but its own has a say in the value or the report of a field, and what
is no number is never taken for a share. -/
theorem ofSources_fieldwise (sources : Sources) :
    ((∃ settings, ofSources sources = .ok settings ∧
        (∀ field ∈ fields, field.judge sources = .ok (field.get settings)) ∧
        settings.IsInRange ∧ IsShare settings.typeThreshold) ∨
      ∃ refused, ofSources sources = .error refused ∧ refused ≠ [] ∧
        refused = refusals sources) ∧
    (∀ other, ∀ field ∈ fields, sources.find? field.name = other.find? field.name →
      (IsReported sources field.name ↔ IsReported other field.name) ∧
      ∀ settings others, ofSources sources = .ok settings → ofSources other = .ok others →
        field.get settings = field.get others) ∧
    ∀ cell x, sources.find? "TYPE_THRESHOLD" = some cell → Coercion.float cell = .ok x →
      isFinite x = false → IsReported sources "TYPE_THRESHOLD" := by
  refine ⟨?_, ?_, ?_⟩
  · cases hsettings : ofSources sources with
    | ok settings =>
      have hrange := isInRange_of_ofSources hsettings
      exact .inl ⟨settings, rfl, ofSources_eq_ok_iff.mp hsettings, hrange,
        share_iff.mp hrange.typeThreshold⟩
    | error refused =>
      refine .inr ⟨refused, rfl, ?_, eq_refusals hsettings⟩
      rintro rfl
      exact ofSources_ne_error_nil hsettings
  · intro other field hfield hsame
    have hjudge := Field.judge_congr hsame
    refine ⟨by rw [isReported_iff hfield, isReported_iff hfield, hjudge], ?_⟩
    intro settings others hsettings hothers
    have hvalue := ofSources_eq_ok_iff.mp hsettings field hfield
    have hvalue' := ofSources_eq_ok_iff.mp hothers field hfield
    rw [hjudge, hvalue'] at hvalue
    exact (Except.ok.inj hvalue).symm
  · intro cell x hcell hread hx
    have hfield : Field.share "TYPE_THRESHOLD" typeThreshold ∈ fields := by simp [fields]
    exact (isReported_iff hfield).mpr ⟨_, judge_threshold_of_not_finite hcell hread hx⟩

/-- A share that is no number, a port with a fraction, no truth value and no limit, beside a sample
from a padded text and a variable whose name is in small letters. -/
def mixedSources : Sources where
  given := [("TYPE_THRESHOLD", .text " NaN"), ("PORT", .float 80.5), ("DEBUG", .null)]
  environment := [("DEFAULT_LIMIT", "0"), ("TYPE_SAMPLE_SIZE", " 07.0 "), ("PORT", "81"),
    ("type_threshold", "0.5")]

def mixedRefusals : List (String × Refusal) :=
  [("DEBUG", .noTruthValue), ("PORT", .integerHasFraction), ("TYPE_THRESHOLD", .outOfRange),
   ("DEFAULT_LIMIT", .outOfRange)]

/-- All mended but the share. -/
def mendedSources : Sources where
  given := [("TYPE_THRESHOLD", .text " NaN"), ("DEBUG", .int 1)]
  environment := [("DEFAULT_LIMIT", "3"), ("TYPE_SAMPLE_SIZE", " 07.0 "), ("PORT", "81")]

/-- Mending the other fields changes nothing for the share, which is then reported alone. -/
theorem ofSources_fieldwise_mixed :
    ofSources mixedSources = .error mixedRefusals ∧ mixedRefusals = refusals mixedSources ∧
      mixedSources.find? "TYPE_THRESHOLD" = mendedSources.find? "TYPE_THRESHOLD" ∧
      IsReported mixedSources "TYPE_THRESHOLD" ∧ IsReported mendedSources "TYPE_THRESHOLD" ∧
      ofSources mendedSources = .error [("TYPE_THRESHOLD", .outOfRange)] := by
  obtain ⟨hsettings, hsame, hshare⟩ := ofSources_fieldwise mixedSources
  have hmixed : ofSources mixedSources = .error mixedRefusals := by rfl
  have hfield : Field.share "TYPE_THRESHOLD" typeThreshold ∈ fields := by simp [fields]
  have hreported : IsReported mixedSources "TYPE_THRESHOLD" :=
    hshare (.text " NaN") (Float.ofBits 0x7ff8000000000000) rfl rfl rfl
  refine ⟨hmixed, ?_, rfl, hreported, (hsame mendedSources _ hfield rfl).1.mp hreported, rfl⟩
  rcases hsettings with ⟨settings, hok, -⟩ | ⟨refused, herror, -, hrefused⟩
  · rw [hmixed] at hok
    cases hok
  · rw [hmixed] at herror
    exact (Except.error.inj herror).trans hrefused

end Settings
end TableTalk
