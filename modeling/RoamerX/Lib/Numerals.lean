import Mathlib

set_option autoImplicit false

/-! # Numerals of the parameters

The numerals that definitions over a field are written with. Each has an instance with a name, so that a definition
holds the name and no proof of its own. -/

namespace RoamerX

namespace Numerals

scoped instance two : Nat.AtLeastTwo 2 := ⟨by decide⟩

scoped instance four : Nat.AtLeastTwo 4 := ⟨by decide⟩

scoped instance five : Nat.AtLeastTwo 5 := ⟨by decide⟩

scoped instance ten : Nat.AtLeastTwo 10 := ⟨by decide⟩

scoped instance twenty : Nat.AtLeastTwo 20 := ⟨by decide⟩

scoped instance eighty : Nat.AtLeastTwo 80 := ⟨by decide⟩

scoped instance three_ne_zero : NeZero 3 := ⟨by decide⟩

scoped instance lawfulBEq_index : LawfulBEq (ℕ × ℕ) := inferInstance

end Numerals

end RoamerX
