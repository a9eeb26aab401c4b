import Mathlib.Data.List.Nodup
import TableTalk.Json.Reader
import TableTalk.Proofs.Except

/-! Names in values that are read. A member whose name was there before takes the place of the
former one, so that no object, at any depth, has two members of one name. -/
namespace TableTalk.Json
open TableTalk.Text TableTalk.Number

/-- A value in which the members of every object have names of their own. -/
inductive IsNamed : Value → Prop where
  | null : IsNamed .null
  | bool (b : Bool) : IsNamed (.bool b)
  | int (n : Int) : IsNamed (.int n)
  | float (x : Float) : IsNamed (.float x)
  | string (text : Symbols) : IsNamed (.string text)
  | array {items : List Value} (h : ∀ item ∈ items, IsNamed item) : IsNamed (.array items)
  | object {members : List (Symbols × Value)} (hnodup : (members.map Prod.fst).Nodup)
      (h : ∀ member ∈ members, IsNamed member.2) : IsNamed (.object members)

/-- Members that make an object with names of their own. -/
structure AreNamed (members : List (Symbols × Value)) : Prop where
  nodup : (members.map Prod.fst).Nodup
  values : ∀ member ∈ members, IsNamed member.2

variable {fuel depth : Nat} {negative : Bool} {s start rest : List Char} {value : Value}
  {name : Symbols} {items : List Value} {members : List (Symbols × Value)}

/-- A member is set in the place of its name, or comes last. -/
theorem map_fst_setMember (members : List (Symbols × Value)) (name : Symbols) (value : Value) :
    (setMember members name value).map Prod.fst = members.map Prod.fst ∨
      name ∉ members.map Prod.fst ∧
        (setMember members name value).map Prod.fst = members.map Prod.fst ++ [name] := by
  induction members with
  | nil => exact .inr ⟨List.not_mem_nil, rfl⟩
  | cons member others ih =>
    obtain ⟨other, old⟩ := member
    rw [setMember]
    split_ifs with hname
    · exact .inl rfl
    · rcases ih with hsame | ⟨hnew, hlast⟩
      · exact .inl (congrArg (other :: ·) hsame)
      · refine .inr ⟨?_, congrArg (other :: ·) hlast⟩
        rw [List.map_cons, List.mem_cons, not_or]
        exact ⟨Ne.symm hname, hnew⟩

theorem mem_setMember {member : Symbols × Value} (h : member ∈ setMember members name value) :
    member ∈ members ∨ member.2 = value := by
  induction members with
  | nil => exact .inr (congrArg Prod.snd (List.mem_singleton.mp h))
  | cons first others ih =>
    obtain ⟨other, old⟩ := first
    rw [setMember] at h
    split_ifs at h
    · rcases List.mem_cons.mp h with rfl | h
      · exact .inr rfl
      · exact .inl (List.mem_cons_of_mem _ h)
    · rcases List.mem_cons.mp h with rfl | h
      · exact .inl List.mem_cons_self
      · exact (ih h).imp_left (List.mem_cons_of_mem _)

theorem areNamed_nil : AreNamed [] := ⟨List.nodup_nil, List.forall_mem_nil _⟩

theorem AreNamed.setMember (h : AreNamed members) (name : Symbols) (hvalue : IsNamed value) :
    AreNamed (setMember members name value) := by
  constructor
  · rcases map_fst_setMember members name value with hsame | ⟨hnew, hlast⟩
    · rw [hsame]
      exact h.nodup
    · rw [hlast]
      exact List.nodup_append_comm.mp (List.nodup_cons.mpr ⟨hnew, h.nodup⟩)
  · intro member hmember
    rcases mem_setMember hmember with hold | hnew
    · exact h.values member hold
    · exact hnew ▸ hvalue

theorem isNamed_of_readNumber (h : readNumber negative s start = .ok (value, rest)) :
    IsNamed value := by
  unfold readNumber at h
  split at h
  · cases h
  · simp only at h
    split_ifs at h
    · split at h
      · obtain ⟨rfl, -⟩ := Prod.mk.inj (Except.ok.inj h)
        exact .int _
      · cases h
    · obtain ⟨rfl, -⟩ := Prod.mk.inj (Except.ok.inj h)
      exact .float _

theorem isNamed_of_mem_words {word : List Char × Value} (h : word ∈ words) : IsNamed word.2 := by
  have hall : ∀ word ∈ words, IsNamed word.2 := by
    simp only [words, List.forall_mem_cons, List.not_mem_nil, false_implies, implies_true, and_true]
    exact ⟨.null, .bool _, .bool _, .float _, .float _, .float _⟩
  exact hall word h

theorem isNamed_of_readPlain (h : readPlain s = .ok (value, rest)) : IsNamed value := by
  unfold readPlain at h
  split at h
  next word after hword =>
    obtain ⟨rfl, -⟩ := Prod.mk.inj (Except.ok.inj h)
    obtain ⟨entry, hentry, hfound⟩ := List.exists_of_findSome?_eq_some hword
    split_ifs at hfound
    obtain ⟨rfl, -⟩ := Prod.mk.inj (Option.some.inj hfound)
    exact isNamed_of_mem_words hentry
  next =>
    split at h
    · exact isNamed_of_readNumber h
    · exact isNamed_of_readNumber h

/-- What the readers give with some fuel, from items and members that were read well before. -/
structure ReadsNamed (fuel : Nat) : Prop where
  value : ∀ {depth s value rest}, readValue fuel depth s = .ok (value, rest) → IsNamed value
  items : ∀ {depth items s value rest}, (∀ item ∈ items, IsNamed item) →
    readItems fuel depth items s = .ok (value, rest) → IsNamed value
  members : ∀ {depth members s value rest}, AreNamed members →
    readMembers fuel depth members s = .ok (value, rest) → IsNamed value

theorem isNamed_of_readValue (h : ReadsNamed fuel)
    (hread : readValue (fuel + 1) depth s = .ok (value, rest)) : IsNamed value := by
  unfold readValue at hread
  split at hread
  next =>
    simp only [Except.bind_eq_ok_iff, Except.pure_eq_ok_iff] at hread
    obtain ⟨text, -, hvalue⟩ := hread
    obtain ⟨rfl, -⟩ := Prod.mk.inj hvalue
    exact .string _
  next =>
    split at hread
    · cases hread
    · split at hread
      · obtain ⟨rfl, -⟩ := Prod.mk.inj (Except.ok.inj hread)
        exact .array (List.forall_mem_nil _)
      · exact h.items (List.forall_mem_nil _) hread
  next =>
    split at hread
    · cases hread
    · split at hread
      · obtain ⟨rfl, -⟩ := Prod.mk.inj (Except.ok.inj hread)
        exact .object areNamed_nil.nodup areNamed_nil.values
      · exact h.members areNamed_nil hread
  next => exact isNamed_of_readPlain hread

theorem isNamed_of_readItems (h : ReadsNamed fuel) (hitems : ∀ item ∈ items, IsNamed item)
    (hread : readItems (fuel + 1) depth items s = .ok (value, rest)) : IsNamed value := by
  simp only [readItems, Except.bind_eq_ok_iff] at hread
  obtain ⟨⟨item, after⟩, hitem, hread⟩ := hread
  have hitems : ∀ other ∈ item :: items, IsNamed other :=
    List.forall_mem_cons.mpr ⟨h.value hitem, hitems⟩
  split at hread
  · obtain ⟨rfl, -⟩ := Prod.mk.inj (Except.ok.inj hread)
    exact .array fun other hother => hitems other (List.mem_reverse.mp hother)
  · exact h.items hitems hread
  · cases hread

theorem isNamed_of_readMembers (h : ReadsNamed fuel) (hmembers : AreNamed members)
    (hread : readMembers (fuel + 1) depth members s = .ok (value, rest)) : IsNamed value := by
  unfold readMembers at hread
  split at hread
  next =>
    simp only [Except.bind_eq_ok_iff] at hread
    obtain ⟨⟨name, after⟩, -, hread⟩ := hread
    split at hread
    · simp only [Except.bind_eq_ok_iff] at hread
      obtain ⟨⟨member, after⟩, hmember, hread⟩ := hread
      have hmembers := hmembers.setMember name (h.value hmember)
      split at hread
      · obtain ⟨rfl, -⟩ := Prod.mk.inj (Except.ok.inj hread)
        exact .object hmembers.nodup hmembers.values
      · exact h.members hmembers hread
      · cases hread
    · cases hread
  next => cases hread

/-- By induction on the fuel, which all three readers take one unit of. -/
theorem readsNamed (fuel : Nat) : ReadsNamed fuel := by
  induction fuel with
  | zero => exact ⟨nofun, fun _ => nofun, fun _ => nofun⟩
  | succ fuel ih =>
    exact ⟨isNamed_of_readValue ih, isNamed_of_readItems ih, isNamed_of_readMembers ih⟩

theorem isNamed_of_read (h : read s = .ok value) : IsNamed value := by
  unfold read at h
  split at h
  · cases h
  · simp only [Except.bind_eq_ok_iff] at h
    obtain ⟨⟨result, after⟩, hresult, h⟩ := h
    split at h
    · obtain rfl := Except.pure_eq_ok_iff.mp h
      exact (readsNamed _).value hresult
    · cases h

end TableTalk.Json
