import TableTalk.Proofs.Except
import TableTalk.Settings

/-! Settings that are accepted. There are settings only if no field is refused, so that the fields
with a range are in it, whether they are given or left at their defaults. -/
namespace TableTalk

variable {α β : Type}

theorem Verdict.apply_eq_ok_iff {verdict : Verdict (α → β)} {next : Verdict α} {b : β} :
    verdict.apply next = .ok b ↔ ∃ f, verdict = .ok f ∧ ∃ a, next = .ok a ∧ f a = b := by
  cases verdict <;> cases next <;> simp [Verdict.apply]

/-- What holds of the fallback of a field and of all that can be read holds of its value. -/
theorem Verdict.of_field {P : α → Prop} {find? : String → Option Cell} {name : String}
    {fallback a : α} {read : Cell → Except Refusal α}
    (h : Verdict.field find? name fallback read = .ok a) (hfallback : P fallback)
    (hread : ∀ cell value, read cell = .ok value → P value) : P a := by
  unfold Verdict.field at h
  split at h
  next => exact Except.ok.inj h ▸ hfallback
  next cell _ => exact hread cell a (Except.mapError_eq_ok_iff.mp h)

namespace Settings

/-- The fields that have a range are in it. -/
structure IsInRange (settings : Settings) : Prop where
  typeSampleSize : 0 < settings.typeSampleSize
  typeThreshold : 0 < settings.typeThreshold ∧ settings.typeThreshold ≤ 1
  defaultLimit : 0 < settings.defaultLimit

variable {settings : Settings} {sources : Sources}

theorem isInRange_default : IsInRange {} := ⟨by decide, by decide, by decide⟩

theorem pos_of_readPositive (cell : Cell) (n : Int) (h : readPositive cell = .ok n) : 0 < n := by
  obtain ⟨m, -, hm⟩ := Except.bind_eq_ok_iff.mp h
  split at hm
  next hpos => exact Except.ok.inj hm ▸ hpos
  next => cases hm

theorem range_of_readShare (cell : Cell) (share : Float) (h : readShare cell = .ok share) :
    0 < share ∧ share ≤ 1 := by
  obtain ⟨x, -, hx⟩ := Except.bind_eq_ok_iff.mp h
  split at hx
  next hrange => exact Except.ok.inj hx ▸ hrange
  next => cases hx

theorem isInRange_of_ofSources (h : ofSources sources = .ok settings) : settings.IsInRange := by
  simp only [ofSources, Verdict.apply_eq_ok_iff, Except.ok.injEq, exists_eq_left', existsAndEq,
    and_true, exists_exists_and_eq_and] at h
  obtain ⟨_, _, _, _, _, _, _, _, _, size, threshold, limit, _,
    ⟨⟨⟨⟨-, hsize⟩, hthreshold⟩, hlimit⟩, -⟩, _, -, rfl⟩ := h
  exact ⟨Verdict.of_field hsize isInRange_default.typeSampleSize pos_of_readPositive,
    Verdict.of_field (P := fun share => 0 < share ∧ share ≤ 1) hthreshold
      isInRange_default.typeThreshold range_of_readShare,
    Verdict.of_field hlimit isInRange_default.defaultLimit pos_of_readPositive⟩

end Settings
end TableTalk
