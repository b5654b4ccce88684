/-!
# What a computation that can fail has done if it succeeds

A sequence has succeeded if its first part has, and the rest has with the answer of the first. A
check has been passed.
-/

namespace Choreography

variable {ε α β : Type}

theorem bind_eq_ok_iff {first : Except ε α} {rest : α → Except ε β} {b : β} :
    (first >>= rest) = .ok b ↔ ∃ a, first = .ok a ∧ rest a = .ok b := by
  cases first <;> simp [bind, Except.bind]

theorem pure_eq_ok_iff {a b : α} : (pure a : Except ε α) = .ok b ↔ a = b := by
  simp [pure, Except.pure]

theorem throw_ne_ok {e : ε} {b : α} : (throw e : Except ε α) ≠ .ok b := nofun

theorem throw_bind {e : ε} {rest : α → Except ε β} :
    (throw e : Except ε α) >>= rest = throw e := rfl

theorem check_eq_ok_iff {c : Prop} [Decidable c] {refusal rest : Except ε α} {b : α}
    (h : refusal ≠ .ok b) : (if c then refusal else rest) = .ok b ↔ ¬ c ∧ rest = .ok b := by
  split <;> simp_all

theorem check_throw_eq_ok_iff {c : Prop} [Decidable c] {e : ε} {rest : Except ε α} {b : α} :
    (if c then throw e else rest) = .ok b ↔ ¬ c ∧ rest = .ok b :=
  check_eq_ok_iff throw_ne_ok

theorem mapError_ok {ε' : Type} (f : ε → ε') (a : α) :
    (Except.ok a : Except ε α).mapError f = .ok a := rfl

theorem mapError_error {ε' : Type} (f : ε → ε') (e : ε) :
    (Except.error e : Except ε α).mapError f = .error (f e) := rfl

theorem mapError_eq_ok_iff {ε' : Type} {f : ε → ε'} {first : Except ε α} {a : α} :
    first.mapError f = .ok a ↔ first = .ok a := by
  cases first with
  | error e => simp [mapError_error]
  | ok b => simp [mapError_ok]

end Choreography
