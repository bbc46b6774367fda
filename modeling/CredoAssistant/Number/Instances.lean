/-!
Powers and sums of numbers. Where an algebraic hierarchy offers instances of its own, those below go
first, so that a term means the same in every module.
-/
namespace CredoAssistant

attribute [instance (20000), default_instance (20000)] instPowNat

/-- What sums of natural numbers start from. -/
instance (priority := 20000) zeroNat : Zero Nat := ⟨0⟩

/-- What sums of integers start from. -/
instance (priority := 20000) zeroInt : Zero Int := ⟨0⟩

end CredoAssistant
