import Mathlib.Algebra.GroupWithZero.Nat
import Mathlib.Data.List.Count
import Mathlib.Data.List.Induction
import Mathlib.Data.List.Nodup
import TableTalk.Tally

/-! Counts of values. The distinct values stand in the order in which they first came, each with the
number of times it occurs, and the counts add up to the number of values. A value that more than
half of them are is the most frequent one. -/
namespace TableTalk.Tally

variable {α : Type}

theorem mostFrequent?_concat (counts : List (α × Nat)) (last : α × Nat) :
    mostFrequent? (counts ++ [last]) = match mostFrequent? counts with
      | none => some last
      | some best => if best.2 < last.2 then some last else some best := by
  rw [mostFrequent?, List.foldl_append]
  rfl

theorem mostFrequent?_eq_none_iff {counts : List (α × Nat)} :
    mostFrequent? counts = none ↔ counts = [] := by
  rcases counts.eq_nil_or_concat' with rfl | ⟨former, last, rfl⟩
  · exact ⟨fun _ => rfl, fun _ => rfl⟩
  · rw [mostFrequent?_concat]
    cases mostFrequent? former with
    | none => simp
    | some best =>
      simp only
      split_ifs <;> simp

/-- What is found to be most frequent was counted, and nothing was counted more often. -/
theorem mostFrequent?_eq_some {counts : List (α × Nat)} {best : α × Nat}
    (h : mostFrequent? counts = some best) :
    best ∈ counts ∧ ∀ other ∈ counts, other.2 ≤ best.2 := by
  induction counts using List.reverseRecOn generalizing best with
  | nil => cases h
  | append_singleton counts last ih =>
    rw [mostFrequent?_concat] at h
    cases hcounts : mostFrequent? counts with
    | none =>
      rw [hcounts] at h
      obtain rfl := Option.some.inj h
      rw [mostFrequent?_eq_none_iff] at hcounts
      simp [hcounts]
    | some former =>
      obtain ⟨hmem, hmax⟩ := ih hcounts
      simp only [hcounts] at h
      split_ifs at h with hless
      · obtain rfl := Option.some.inj h
        refine ⟨by simp, ?_⟩
        simp only [List.mem_append, List.mem_singleton]
        rintro other (hother | rfl)
        · exact Nat.le_trans (hmax other hother) (Nat.le_of_lt hless)
        · exact Nat.le_refl _
      · obtain rfl := Option.some.inj h
        refine ⟨by simp [hmem], ?_⟩
        simp only [List.mem_append, List.mem_singleton]
        rintro other (hother | rfl)
        · exact hmax other hother
        · exact Nat.not_lt.mp hless

section Distinct

variable [BEq α] [LawfulBEq α] {values : List α} {value : α}

theorem eraseDups_concat (values : List α) (value : α) :
    (values ++ [value]).eraseDups =
      if value ∈ values then values.eraseDups else values.eraseDups ++ [value] := by
  rw [List.eraseDups_append]
  by_cases h : value ∈ values
  · simp [List.removeAll, h]
  · simp [List.removeAll, h, List.eraseDups_cons]

theorem nodup_eraseDups (values : List α) : values.eraseDups.Nodup := by
  induction values using List.reverseRecOn with
  | nil => exact List.nodup_nil
  | append_singleton values value ih =>
    rw [eraseDups_concat]
    split_ifs with h
    · exact ih
    · rw [List.nodup_append_comm, List.singleton_append, List.nodup_cons, List.mem_eraseDups]
      exact ⟨h, ih⟩

theorem count_add_count_le {other : α} (h : other ≠ value) :
    values.count other + values.count value ≤ values.length := by
  induction values with
  | nil => exact Nat.le_refl 0
  | cons first rest ih =>
    rw [List.count_cons, List.count_cons, List.length_cons]
    by_cases hother : first = other
    · rw [if_pos (by simpa using hother), if_neg (by simpa [hother] using h)]
      omega
    · rw [if_neg (by simpa using hother)]
      split <;> omega

end Distinct

variable [DecidableEq α] {values : List α} {value : α}

/-- One more occurrence of a value that was counted before. -/
theorem add_of_mem {names : List α} (hnodup : names.Nodup) (h : value ∈ names) (count : α → Nat) :
    add (names.map fun name => (name, count name)) value =
      names.map fun name => (name, if name = value then count name + 1 else count name) := by
  induction names with
  | nil => cases h
  | cons name rest ih =>
    rw [List.nodup_cons] at hnodup
    by_cases hname : name = value
    · subst hname
      have hrest : ∀ other ∈ rest, other ≠ name := fun other hother heq => hnodup.1 (heq ▸ hother)
      simp only [List.map_cons, add, if_true, List.cons.injEq, true_and]
      apply List.map_congr_left
      intro other hother
      rw [if_neg (hrest other hother)]
    · have hmem : value ∈ rest := (List.mem_cons.mp h).resolve_left (Ne.symm hname)
      simp only [List.map_cons, add, if_neg hname, ih hnodup.2 hmem]

theorem add_of_not_mem {names : List α} (h : value ∉ names) (count : α → Nat) :
    add (names.map fun name => (name, count name)) value =
      names.map (fun name => (name, count name)) ++ [(value, 1)] := by
  induction names with
  | nil => rfl
  | cons name rest ih =>
    rw [List.mem_cons, not_or] at h
    simp only [List.map_cons, add, if_neg (Ne.symm h.1), ih h.2, List.cons_append]

theorem ofList_concat (values : List α) (value : α) :
    ofList (values ++ [value]) = add (ofList values) value := by
  rw [ofList, List.foldl_append]
  rfl

theorem sum_add (counts : List (α × Nat)) (value : α) :
    ((add counts value).map Prod.snd).sum = (counts.map Prod.snd).sum + 1 := by
  induction counts with
  | nil => rfl
  | cons entry rest ih =>
    obtain ⟨other, n⟩ := entry
    rw [add]
    split_ifs
    · simp only [List.map_cons, List.sum_cons]
      omega
    · simp only [List.map_cons, List.sum_cons, ih]
      omega

/-- Every value is counted once. -/
theorem sum_ofList (values : List α) : ((ofList values).map Prod.snd).sum = values.length := by
  induction values using List.reverseRecOn with
  | nil => rfl
  | append_singleton values value ih =>
    rw [ofList_concat, sum_add, ih, List.length_append, List.length_singleton]

variable [BEq α] [LawfulBEq α]

/-- The distinct values, each with the number of its occurrences. -/
theorem ofList_eq (values : List α) :
    ofList values = values.eraseDups.map fun value => (value, values.count value) := by
  induction values using List.reverseRecOn with
  | nil => rfl
  | append_singleton values value ih =>
    rw [ofList_concat, ih, eraseDups_concat]
    by_cases h : value ∈ values
    · rw [if_pos h, add_of_mem (nodup_eraseDups values) (List.mem_eraseDups.mpr h)]
      apply List.map_congr_left
      intro other _
      by_cases hother : other = value
      · simp [hother]
      · simp [hother, Ne.symm hother]
    · rw [if_neg h, add_of_not_mem (by rwa [List.mem_eraseDups]), List.map_append]
      congr 1
      · apply List.map_congr_left
        intro other hother
        have hne : value ≠ other := fun heq => h (heq ▸ List.mem_eraseDups.mp hother)
        simp [hne]
      · simp [List.count_eq_zero.mpr h]

theorem mem_ofList_iff {n : Nat} :
    (value, n) ∈ ofList values ↔ value ∈ values ∧ n = values.count value := by
  rw [ofList_eq, List.mem_map]
  constructor
  · rintro ⟨other, hother, heq⟩
    obtain ⟨rfl, rfl⟩ := Prod.mk.inj heq
    exact ⟨List.mem_eraseDups.mp hother, rfl⟩
  · rintro ⟨hmem, rfl⟩
    exact ⟨value, List.mem_eraseDups.mpr hmem, rfl⟩

/-- A value that more than half of all are is the most frequent one. -/
theorem mostFrequent?_of_majority (h : values.length < 2 * values.count value) :
    mostFrequent? (ofList values) = some (value, values.count value) := by
  have hmem : value ∈ values := List.count_pos_iff.mp (by omega)
  have hcounted : (value, values.count value) ∈ ofList values := mem_ofList_iff.mpr ⟨hmem, rfl⟩
  cases hmost : mostFrequent? (ofList values) with
  | none =>
    rw [mostFrequent?_eq_none_iff.mp hmost] at hcounted
    cases hcounted
  | some best =>
    obtain ⟨other, n⟩ := best
    obtain ⟨hbest, hmax⟩ := mostFrequent?_eq_some hmost
    obtain ⟨-, rfl⟩ := mem_ofList_iff.mp hbest
    have hle : values.count value ≤ values.count other := hmax _ hcounted
    by_cases hother : other = value
    · rw [hother]
    · have htwo : values.count other + values.count value ≤ values.length :=
        count_add_count_le hother
      omega

end TableTalk.Tally
