/-!
# Numbers in words

The numbers of this development have no bound. A machine has words of so many bits, and what does
not fit into a word is no result: `inWord?` gives a number only if it fits. What is worked out in
words, step by step, and ends with a number has overflowed nowhere.
-/

namespace RiskReport

/-- A number in a word of some bits, if it fits. -/
def inWord? (bits n : Nat) : Option Nat :=
  if n < Nat.pow 2 bits then some n else none

theorem inWord?_eq_some {bits n : Nat} (h : n < Nat.pow 2 bits) : inWord? bits n = some n :=
  if_pos h

theorem inWord?_eq_none {bits n : Nat} (h : ¬ n < Nat.pow 2 bits) : inWord? bits n = none :=
  if_neg h

/-- The words of 16, 32 and 64 bits, with their numbers written out. -/
theorem words_eq : Nat.pow 2 16 = 65536 ∧ Nat.pow 2 32 = 4294967296 ∧
    Nat.pow 2 64 = 18446744073709551616 :=
  ⟨rfl, rfl, rfl⟩

end RiskReport
