namespace Modbus.Residue

def sub (m a b : Nat) : Nat := (a + (m - b)) % m

def power (m base exponent : Nat) : Nat :=
  if exponent = 0 then 1 % m
  else
    let root := power m (base * base % m) (exponent / 2)
    if exponent % 2 = 1 then root * base % m else root
termination_by exponent

theorem power_eq (m base exponent : Nat) : power m base exponent = Nat.pow base exponent % m := by
  change power m base exponent = base ^ exponent % m
  fun_induction power m base exponent with
  | case1 base => rw [Nat.pow_zero]
  | case2 base exponent _ root odd ih =>
    have split : exponent = 2 * (exponent / 2) + 1 := by omega
    rw [split, Nat.pow_succ, Nat.pow_mul, Nat.pow_two]
    rw [show root = (base * base % m) ^ (exponent / 2) % m from ih]
    rw [← Nat.pow_mod, Nat.mod_mul_mod]
  | case3 base exponent _ root even ih =>
    have split : exponent = 2 * (exponent / 2) := by omega
    rw [show root = (base * base % m) ^ (exponent / 2) % m from ih]
    rw [← Nat.pow_mod, ← Nat.pow_two, ← Nat.pow_mul, ← split]

/-- The inverse of a residue modulo a prime, which is a power of it. Zero has none, and is left. -/
def inverse (p a : Nat) : Nat := power p a (p - 2)

end Modbus.Residue
