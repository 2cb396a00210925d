import Prebuild.Event

/-!
# How reported computations end

The events of a computation have no say in how it ends. So its result can be taken apart
along its steps: it is a success exactly when each step is.
-/

namespace Prebuild

variable {α β : Type}

/-- Failures need not be compared in order to evaluate what succeeds. -/
theorem Failure.eq_ok_of_toOption {x : Except Failure α} {a : α} (h : x.toOption = some a) :
    x = .ok a := by
  cases x with
  | error e => cases h
  | ok b => rw [Option.some.inj h]

namespace Reported

theorem bind_ok (events : List Event) (a : α) (f : α → Reported β) :
    (⟨events, .ok a⟩ >>= f : Reported β) = ⟨events ++ (f a).events, (f a).result⟩ := rfl

/-- Events come in the order of the steps, however the steps are put together. -/
instance : LawfulMonad Reported := by
  refine .mk' Reported ?id_map ?pure_bind ?bind_assoc
  case id_map =>
    rintro α ⟨events, e | a⟩
    · rfl
    · exact congrArg (Reported.mk · _) (List.append_nil events)
  case pure_bind =>
    intro α β a f
    rfl
  case bind_assoc =>
    rintro α β γ ⟨events, e | a⟩ f g
    · rfl
    · rw [bind_ok, bind_ok]
      obtain ⟨events', e | b⟩ := f a
      · rfl
      · rw [bind_ok, bind_ok, List.append_assoc]

@[simp] theorem result_fail (f : Failure) : (fail f : Reported α).result = .error f := rfl

theorem result_bind (x : Reported α) (f : α → Reported β) :
    (x >>= f).result = x.result >>= fun a => (f a).result := by
  obtain ⟨events, result⟩ := x
  cases result <;> rfl

theorem bind_eq_ok {x : Reported α} {f : α → Reported β} {b : β} :
    (x >>= f).result = .ok b ↔ ∃ a, x.result = .ok a ∧ (f a).result = .ok b := by
  rw [result_bind]
  cases x.result with
  | error e => simp [bind, Except.bind]
  | ok a => simp [bind, Except.bind]

end Reported

end Prebuild
