/-! Opened where a number is raised to a power: the power is that of the core library, which
computes, also where the powers of a monoid are at hand. An exponent that is a numeral has its type
written to it, as it would be taken for one of a monoid otherwise. -/
namespace TableTalk.CorePowers

attribute [scoped instance (high)] instPowNat

end TableTalk.CorePowers
