import TableTalk.Proofs.Ingest.JsonFile
import TableTalk.Proofs.Json.ObjectText

/-! A file of one object and a file of an array with that object alone. Both give the same dataset, or
both are refused, whatever white space stands around the object. -/
namespace TableTalk
open TableTalk.Text

namespace Json

variable {fuel depth : Nat} {s rest : List Char} {value : Value}
  {members : List (Symbols × Value)}

/-- What members are read into is an object. -/
theorem exists_object_of_readMembers
    (h : readMembers fuel depth members s = .ok (value, rest)) :
    ∃ members, value = .object members := by
  induction fuel generalizing depth members s with
  | zero => cases h
  | succ fuel ih =>
    unfold readMembers at h
    split at h
    next =>
      simp only [Except.bind_eq_ok_iff] at h
      obtain ⟨⟨name, after⟩, -, h⟩ := h
      split at h
      · simp only [Except.bind_eq_ok_iff] at h
        obtain ⟨⟨member, after⟩, -, h⟩ := h
        split at h
        · obtain ⟨rfl, -⟩ := Prod.mk.inj (Except.ok.inj h)
          exact ⟨_, rfl⟩
        · exact ih h
        · cases h
      · cases h
    next => cases h

theorem IsObjectText.exists_object (h : IsObjectText s) (hread : read s = .ok value) :
    ∃ members, value = .object members := by
  obtain ⟨rest, rfl⟩ := h.eq_cons
  rcases h.read_cases with ⟨object, left, hvalue, -, hobject⟩ | ⟨problem, -, hproblem, -⟩
  · obtain rfl := Except.ok.inj (hobject.symm.trans hread)
    have hlimit : depthLimit = 989 + 1 := rfl
    simp only [hlimit, readValue] at hvalue
    split at hvalue
    · obtain ⟨rfl, -⟩ := Prod.mk.inj (Except.ok.inj hvalue)
      exact ⟨_, rfl⟩
    · exact exists_object_of_readMembers hvalue
  · cases hproblem.symm.trans hread

end Json

/-- Two outcomes of an upload that are told apart by nothing: the same dataset, or problems of the
file of which the same is reported. -/
inductive SameUpload : Except Problem Dataset → Except Problem Dataset → Prop where
  | loaded (dataset : Dataset) : SameUpload (.ok dataset) (.ok dataset)
  | refused {problem problem' : Problem} (hkind : problem.kind? = some .file)
      (hkind' : problem'.kind? = some .file) (hmessage : problem.message = problem'.message) :
      SameUpload (.error problem) (.error problem')

theorem SameUpload.of_ok {dataset : Dataset} {outcome : Except Problem Dataset}
    (h : SameUpload (.ok dataset) outcome) : outcome = .ok dataset := by
  cases h
  rfl

namespace Ingest

variable {settings : Settings} {filename : String} {rows : Table} {problem : Problem}
  {s o alone inner array : List Char}

/-- A dataset of rows is refused as a problem of the file they are from. -/
theorem kind?_of_build
    (h : (Dataset.build settings rows filename).mapError (inFile filename) = .error problem) :
    problem.kind? = some .file := by
  obtain ⟨cause, hcause, rfl⟩ := Except.mapError_eq_error_iff.mp h
  rcases Dataset.build_eq_error hcause with rfl | ⟨fault, rfl⟩ <;> rfl

theorem sameUpload_build (settings : Settings) (rows : Table) (filename : String) :
    SameUpload ((Dataset.build settings rows filename).mapError (inFile filename))
      ((Dataset.build settings rows filename).mapError (inFile filename)) := by
  cases h : (Dataset.build settings rows filename).mapError (inFile filename) with
  | ok dataset => exact .loaded dataset
  | error problem => exact .refused (kind?_of_build h) (kind?_of_build h) rfl

/-- A text that is not JSON is a file that cannot be read. -/
theorem ofFile_unreadable {problem : Json.Problem} (hname : isJsonName filename = true)
    (hsize : isTooLarge settings (Utf8.encode s) = false) (hread : Json.read s = .error problem) :
    ofFile settings (Utf8.encode s) filename =
      .error (.unreadableFile filename (.json problem s)) := by
  unfold ofFile
  rw [if_neg (by simp [hsize])]
  simp only [Ingest.records, hname, if_true, jsonRecords, Utf8.decode_encode, Except.mapError,
    Except.ok_bind, hread, Except.error_bind]

/-- An object and an array of it alone are the same upload. -/
theorem ofFile_singleton (ho : Json.IsObjectText o) (halone : Json.Pads o alone)
    (hinner : Json.Pads o inner) (harray : Json.Pads (Json.inArray inner) array)
    (hname : isJsonName filename = true)
    (hsize : isTooLarge settings (Utf8.encode alone) = false)
    (hsize' : isTooLarge settings (Utf8.encode array) = false)
    (hdepth : ∀ isArray, Json.read array ≠ .error (.tooDeep isArray)) :
    SameUpload (ofFile settings (Utf8.encode alone) filename)
      (ofFile settings (Utf8.encode array) filename) := by
  have hread := Json.read_padded ho halone
  rcases Json.read_singleton ho hinner harray with
    ⟨value, hvalue, hitems⟩ | ⟨problem, hproblem, hproblem'⟩ | ⟨isArray, hdeep⟩
  · obtain ⟨members, rfl⟩ := ho.exists_object hvalue
    rw [ofFile_json hname hsize (hread.trans hvalue) rfl, ofFile_json hname hsize' hitems rfl]
    exact sameUpload_build settings _ filename
  · rw [ofFile_unreadable hname hsize (hread.trans hproblem),
      ofFile_unreadable hname hsize' hproblem']
    refine .refused rfl rfl ?_
    cases problem with
    | malformed reason left => exact absurd hproblem (ho.wellFormed reason left)
    | tooDeep isArray => exact absurd hproblem' (hdepth isArray)
    | fault cause => rfl
  · exact absurd hdeep (hdepth isArray)

/-- An object with a name twice, once by an escape, and with a value that is kept as text. -/
def person : List Char :=
  ("\x7b\"name\": \"Bo\", \"tags\": [1, \x7b\"a\": null\x7d], \"na\\u006de\": \"Zoë\", " ++
    "\"day\": \"2024-02-29\"\x7d").toList

def personAlone : List Char := '\n' :: (person ++ [' '])

def personInArray : List Char := Json.inArray ('\t' :: person) ++ ['\n']

/-- An object with half a character. -/
def halfPerson : List Char := "\x7b\"name\": \"\\ud800\"\x7d".toList

theorem pads_person : Json.Pads person personAlone ∧ Json.Pads person ('\t' :: person) ∧
    Json.Pads (Json.inArray ('\t' :: person)) personInArray :=
  ⟨⟨['\n'], [' '], by simp [Json.isSpace], by simp [Json.isSpace], rfl⟩,
    ⟨['\t'], [], by simp [Json.isSpace], by simp, by simp⟩,
    ⟨[], ['\n'], by simp, by simp [Json.isSpace], rfl⟩⟩

theorem ne_tooDeep_of_map_ok (h : (Json.read s).map (fun _ => ()) = .ok ()) (isArray : Bool) :
    Json.read s ≠ .error (.tooDeep isArray) := by
  intro hdeep
  rw [hdeep] at h
  cases h

theorem ofFile_singleton_person :
    Json.IsObjectText person ∧ Json.IsObjectText halfPerson ∧
    (∃ dataset, ofFile {} (Utf8.encode personAlone) "people.JSON" = .ok dataset ∧
      ofFile {} (Utf8.encode personInArray) "people.JSON" = .ok dataset ∧
      dataset.rows.texts =
        [[("name", some (symbols "Zoë")), ("tags", some (symbols "[1, \x7b\"a\": null\x7d]")),
          ("day", some (symbols "2024-02-29"))]]) ∧
    ∃ dataset, ofFile {} (Utf8.encode halfPerson) "people.JSON" = .ok dataset ∧
      ofFile {} (Utf8.encode (Json.inArray halfPerson)) "people.JSON" = .ok dataset ∧
      dataset.rows.texts = [[("name", some [.half 0xD800])]] := by
  have hname : isJsonName "people.JSON" = true := by decide +kernel
  have hperson : Json.IsObjectText person := by decide +kernel
  have hhalf : Json.IsObjectText halfPerson := by decide +kernel
  refine ⟨hperson, hhalf, ?_, ?_⟩
  · have hshown : (ofFile {} (Utf8.encode personAlone) "people.JSON").map
        (fun dataset => dataset.rows.texts) =
        .ok [[("name", some (symbols "Zoë")), ("tags", some (symbols "[1, \x7b\"a\": null\x7d]")),
          ("day", some (symbols "2024-02-29"))]] := by decide +kernel
    obtain ⟨dataset, hfile, hrows⟩ := Except.map_eq_ok_iff.mp hshown
    obtain ⟨halone, hinner, harray⟩ := pads_person
    have hsame : SameUpload (ofFile {} (Utf8.encode personAlone) "people.JSON") _ :=
      ofFile_singleton hperson halone hinner harray hname (by decide +kernel) (by decide +kernel)
        (ne_tooDeep_of_map_ok (by decide +kernel))
    rw [hfile] at hsame
    exact ⟨dataset, hfile, hsame.of_ok, hrows⟩
  · have hshown : (ofFile {} (Utf8.encode halfPerson) "people.JSON").map
        (fun dataset => dataset.rows.texts) = .ok [[("name", some [.half 0xD800])]] := by
      decide +kernel
    obtain ⟨dataset, hfile, hrows⟩ := Except.map_eq_ok_iff.mp hshown
    have hsame : SameUpload (ofFile {} (Utf8.encode halfPerson) "people.JSON") _ :=
      ofFile_singleton hhalf (.refl _) (.refl _) (.refl _) hname (by decide +kernel)
        (by decide +kernel) (ne_tooDeep_of_map_ok (by decide +kernel))
    rw [hfile] at hsame
    exact ⟨dataset, hfile, hsame.of_ok, hrows⟩

end Ingest
end TableTalk
