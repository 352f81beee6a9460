namespace ValueSpec

/-- A result together with a trace of what was done on the way. -/
structure Traced (τ ε α : Type) where
  trace : List τ
  result : Except ε α

namespace Traced

variable {τ ε α β : Type}

/-- A result that leaves no trace. -/
def of (result : Except ε α) : Traced τ ε α := ⟨[], result⟩

/-- Leave one entry in the trace. -/
def note (entry : τ) : Traced τ ε Unit := ⟨[entry], .ok ()⟩

/-- One computation after the other; a failure stops both. -/
def andThen (r : Traced τ ε α) (f : α → Traced τ ε β) : Traced τ ε β :=
  match r.result with
  | .error e => ⟨r.trace, .error e⟩
  | .ok a => ⟨r.trace ++ (f a).trace, (f a).result⟩

instance : Monad (Traced τ ε) where
  pure a := of (.ok a)
  bind := andThen

@[simp] theorem pure_eq (a : α) : (pure a : Traced τ ε α) = ⟨[], .ok a⟩ := rfl

@[simp] theorem bind_ok (trace : List τ) (a : α) (f : α → Traced τ ε β) :
    ((⟨trace, .ok a⟩ : Traced τ ε α) >>= f) = ⟨trace ++ (f a).trace, (f a).result⟩ := rfl

@[simp] theorem bind_error (trace : List τ) (e : ε) (f : α → Traced τ ε β) :
    ((⟨trace, .error e⟩ : Traced τ ε α) >>= f) = ⟨trace, .error e⟩ := rfl

@[simp] theorem map_ok (f : α → β) (trace : List τ) (a : α) :
    (f <$> (⟨trace, .ok a⟩ : Traced τ ε α)) = ⟨trace, .ok (f a)⟩ := by
  show (⟨trace ++ [], .ok (f a)⟩ : Traced τ ε β) = ⟨trace, .ok (f a)⟩
  rw [List.append_nil]

@[simp] theorem map_error (f : α → β) (trace : List τ) (e : ε) :
    (f <$> (⟨trace, .error e⟩ : Traced τ ε α)) = ⟨trace, .error e⟩ := rfl

/-- The result of one computation after the other. -/
theorem result_bind (r : Traced τ ε α) (f : α → Traced τ ε β) :
    (r >>= f).result = r.result >>= fun a => (f a).result := by
  rcases r with ⟨trace, e | a⟩ <;> rfl

theorem result_bind_eq_ok_iff {r : Traced τ ε α} {f : α → Traced τ ε β} {b : β} :
    (r >>= f).result = .ok b ↔ ∃ a, r.result = .ok a ∧ (f a).result = .ok b := by
  rcases r with ⟨trace, e | a⟩ <;> simp

theorem eq_of_map_eq_ok {f : α → β} {r : Traced τ ε α} {trace : List τ} {b : β}
    (h : f <$> r = ⟨trace, .ok b⟩) : ∃ a, r = ⟨trace, .ok a⟩ ∧ f a = b := by
  rcases r with ⟨trace', e | a⟩
  · simp at h
  · obtain ⟨rfl, rfl⟩ : trace' = trace ∧ f a = b := by simpa using h
    exact ⟨a, rfl, rfl⟩

theorem eq_of_map_eq_error {f : α → β} {r : Traced τ ε α} {trace : List τ} {e : ε}
    (h : f <$> r = ⟨trace, .error e⟩) : r = ⟨trace, .error e⟩ := by
  rcases r with ⟨trace', e' | a⟩
  · simpa using h
  · simp at h

theorem exists_map_eq_ok_iff {f : α → β} {r : Traced τ ε α} {trace : List τ} :
    (∃ b, f <$> r = ⟨trace, .ok b⟩) ↔ ∃ a, r = ⟨trace, .ok a⟩ := by
  rcases r with ⟨trace', e | a⟩ <;> simp

theorem result_map_eq_error_iff {f : α → β} {r : Traced τ ε α} {e : ε} :
    (f <$> r).result = .error e ↔ r.result = .error e := by
  rcases r with ⟨trace, e' | a⟩ <;> simp

instance : LawfulMonad (Traced τ ε) := LawfulMonad.mk' _
  (by
    intro α r
    rcases r with ⟨trace, _ | a⟩ <;> simp)
  (by
    intro α β a f
    simp)
  (by
    intro α β γ r f g
    rcases r with ⟨trace, _ | a⟩
    · simp
    · rcases h : f a with ⟨trace', _ | b⟩ <;> simp [h])

end Traced

end ValueSpec
