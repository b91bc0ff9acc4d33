import Mathlib.Algebra.GroupWithZero.Nat

/-!
# Sizes of index types

The numerals of `Fin n` need that `n` is not zero.  For the sizes in use the fact
is a constant, so that every module writes the same numeral.
-/

namespace Sizes

instance neZero_two : NeZero 2 := ⟨by decide⟩

instance neZero_three : NeZero 3 := ⟨by decide⟩

instance neZero_four : NeZero 4 := ⟨by decide⟩

instance neZero_six : NeZero 6 := ⟨by decide⟩

instance neZero_eight : NeZero 8 := ⟨by decide⟩

instance neZero_sixteen : NeZero 16 := ⟨by decide⟩

instance neZero_twentyFour : NeZero 24 := ⟨by decide⟩

instance neZero_thirtyTwo : NeZero 32 := ⟨by decide⟩

instance neZero_ninetySix : NeZero 96 := ⟨by decide⟩

end Sizes
