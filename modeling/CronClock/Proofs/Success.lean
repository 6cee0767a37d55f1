/-! # What a success says of its parts

A composite that succeeds has parts that succeed, and one that fails has a part that fails. Each lemma
reads the outcome of one way of composing as what it says of the parts. -/
set_option autoImplicit false
namespace CronClock

variable {ε φ α β : Type}

theorem bind_eq_ok (outcome : Except ε α) (following : α → Except ε β) (result : β) :
    (outcome >>= following) = .ok result ↔
      ∃ value, outcome = .ok value ∧ following value = .ok result := by
  cases outcome <;> simp [bind, Except.bind]

theorem bind_eq_error (outcome : Except ε α) (following : α → Except ε β) (fault : ε) :
    (outcome >>= following) = .error fault ↔
      outcome = .error fault ∨ ∃ value, outcome = .ok value ∧ following value = .error fault := by
  cases outcome <;> simp [bind, Except.bind]

theorem pure_eq_ok (value result : α) : (pure value : Except ε α) = .ok result ↔ value = result := by
  simp [pure, Except.pure]

theorem map_eq_ok (outcome : Except ε α) (f : α → β) (result : β) :
    outcome.map f = .ok result ↔ ∃ value, outcome = .ok value ∧ f value = result := by
  cases outcome <;> simp [Except.map]

theorem mapError_eq_ok (outcome : Except ε α) (f : ε → φ) (result : α) :
    outcome.mapError f = .ok result ↔ outcome = .ok result := by
  cases outcome with
  | error fault => exact ⟨nofun, nofun⟩
  | ok value =>
    constructor
    · intro same
      cases same
      rfl
    · intro same
      cases same
      rfl

theorem mapM_eq_map (f : α → Except ε β) (g : α → β) (list : List α)
    (each : ∀ value ∈ list, f value = .ok (g value)) : list.mapM f = .ok (list.map g) := by
  induction list with
  | nil => rfl
  | cons head rest ih =>
    have others := ih fun value member => each value (by simp [member])
    simp only [List.mapM_cons, each head (by simp), others, bind, Except.bind]
    rfl

/-- The results of a list are those of its members. -/
theorem mem_of_mapM (f : α → Except ε β) (list : List α) (results : List β)
    (mapped : list.mapM f = .ok results) (result : β) :
    result ∈ results ↔ ∃ value ∈ list, f value = .ok result := by
  induction list generalizing results with
  | nil =>
    rw [List.mapM_nil, pure_eq_ok] at mapped
    subst mapped
    simp
  | cons head rest ih =>
    rw [List.mapM_cons, bind_eq_ok] at mapped
    obtain ⟨first, given, mapped⟩ := mapped
    rw [bind_eq_ok] at mapped
    obtain ⟨others, mapped, same⟩ := mapped
    rw [pure_eq_ok] at same
    subst same
    rw [List.mem_cons, ih others mapped]
    simp [given, eq_comm]

theorem mapM_eq_error (f : α → Except ε β) (list : List α) (fault : ε) :
    list.mapM f = .error fault ↔ ∃ before value after, list = before ++ value :: after ∧
      (∀ earlier ∈ before, ∃ result, f earlier = .ok result) ∧ f value = .error fault := by
  induction list with
  | nil => simp [pure, Except.pure]
  | cons head rest ih =>
    have unfailing : ∀ (first : β) (others : List β),
        (pure (first :: others) : Except ε (List β)) ≠ .error fault := fun _ _ => nofun
    simp only [List.mapM_cons, bind_eq_error, ih, unfailing, and_false, exists_false, or_false]
    constructor
    · rintro (failed | ⟨first, given, before, value, after, rfl, earlier, failed⟩)
      · exact ⟨[], head, rest, rfl, by simp, failed⟩
      · exact ⟨head :: before, value, after, rfl, List.forall_mem_cons.mpr ⟨⟨first, given⟩, earlier⟩,
          failed⟩
    · rintro ⟨before, value, after, cut, earlier, failed⟩
      cases before with
      | nil =>
        obtain ⟨rfl, rfl⟩ := List.cons.inj cut
        exact .inl failed
      | cons first others =>
        obtain ⟨rfl, rfl⟩ := List.cons.inj cut
        obtain ⟨⟨result, given⟩, others⟩ := List.forall_mem_cons.mp earlier
        exact .inr ⟨result, given, _, value, after, rfl, others, failed⟩

end CronClock
