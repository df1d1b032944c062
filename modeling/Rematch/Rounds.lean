/-!
# Rounds

A supply of rounds bounds a loop whose length is known only up to an astronomical number. It is
handed out round by round, and a round that is never asked for costs nothing.
-/

namespace Rematch

inductive Rounds where
  | none
  | next (rest : Unit → Rounds)

namespace Rounds

instance : Inhabited Rounds := ⟨.none⟩

def count : Rounds → Nat
  | .none => 0
  | .next rest => (rest ()).count + 1

/-- At least `2 ^ exponent` rounds, and then those of `rest`. -/
def power : (exponent : Nat) → (rest : Rounds) → Rounds
  | 0, rest => .next fun _ => rest
  | exponent + 1, rest => .next fun _ => power exponent (power exponent rest)

@[simp] theorem count_none : Rounds.none.count = 0 := rfl

theorem count_next (rest : Unit → Rounds) : (Rounds.next rest).count = (rest ()).count + 1 := rfl

end Rounds
end Rematch
