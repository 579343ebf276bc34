import Mathlib.Tactic

/-!
# Numerals

A numeral of a field carries a proof that it is at least two, and one of `Fin n` a proof that `n` is
not zero. Each definition that uses a numeral would get such a proof of its own; the instances here give
the proofs that are used in several modules one name.
-/

set_option autoImplicit false

namespace DeepKernel.Lib

instance atLeastTwo_two : Nat.AtLeastTwo 2 := ⟨le_refl 2⟩

instance atLeastTwo_three : Nat.AtLeastTwo 3 := ⟨by decide⟩

instance atLeastTwo_four : Nat.AtLeastTwo 4 := ⟨by decide⟩

instance atLeastTwo_five : Nat.AtLeastTwo 5 := ⟨by decide⟩

instance atLeastTwo_six : Nat.AtLeastTwo 6 := ⟨by decide⟩

instance atLeastTwo_seven : Nat.AtLeastTwo 7 := ⟨by decide⟩

instance atLeastTwo_eight : Nat.AtLeastTwo 8 := ⟨by decide⟩

instance atLeastTwo_ten : Nat.AtLeastTwo 10 := ⟨by decide⟩

instance atLeastTwo_fifteen : Nat.AtLeastTwo 15 := ⟨by decide⟩

instance atLeastTwo_fifty : Nat.AtLeastTwo 50 := ⟨by decide⟩

instance atLeastTwo_ninetyFive : Nat.AtLeastTwo 95 := ⟨by decide⟩

instance atLeastTwo_hundred : Nat.AtLeastTwo 100 := ⟨by decide⟩

instance neZero_twentyFour : NeZero 24 := ⟨by decide⟩

end DeepKernel.Lib
