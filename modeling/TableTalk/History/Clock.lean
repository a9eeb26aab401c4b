import TableTalk.History

/-! Where the stamps of entries come from. -/
namespace TableTalk
open TableTalk.Calendar

/-- The stamp of each entry by its number, from one. -/
abbrev Clock := Nat → Stamp

namespace Clock

/-- The number in 32 hexadecimal digits. -/
def serialId (n : Nat) : String := String.ofList (Number.padLeft 32 '0' (Nat.toDigits 16 n))

/-- A clock that starts at a midnight and goes on by a fixed step, with serial numbers as ids. -/
def steady (midnight : Timestamp) (step : Nat) : Clock :=
  fun n => ⟨serialId n, midnight.afterMidnight ((n - 1) * step)⟩

end Clock
end TableTalk
