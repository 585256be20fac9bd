/-!
Powers modulo a number, by repeated squaring.
-/

namespace MetadataTrust

/-- The power `b ^ e` modulo `m`. -/
def powMod (b e m : Nat) : Nat :=
  if e = 0 then 1 % m
  else
    let half := powMod (b * b % m) (e / 2) m
    if e % 2 = 1 then b * half % m else half
termination_by e
decreasing_by omega

theorem powMod_eq (b e m : Nat) : powMod b e m = Nat.pow b e % m := by
  rw [Nat.pow_eq]
  induction e using Nat.strongRecOn generalizing b with
  | _ e ih =>
    unfold powMod
    split
    · rename_i h; subst h; simp
    · rename_i h
      have ih' := ih (e / 2) (by omega) (b * b % m)
      have hsq : (b * b % m) ^ (e / 2) % m = b ^ (2 * (e / 2)) % m := by
        rw [← Nat.pow_mod, Nat.pow_mul, Nat.pow_two]
      split
      · rename_i ho
        rw [ih', hsq, Nat.mul_mod_mod, ← Nat.pow_succ', show (2 * (e / 2)).succ = e by omega]
      · rename_i ho
        rw [ih', hsq, show 2 * (e / 2) = e by omega]

end MetadataTrust
