/-! # Results of work that may fail

When a sequence of steps, each of which may fail, gives a result.
-/

namespace FormCheck

variable {ε α β : Type}

theorem bind_eq_ok_iff {x : Except ε α} {k : α → Except ε β} {b : β} :
    x >>= k = .ok b ↔ ∃ a, x = .ok a ∧ k a = .ok b := by
  cases x <;> simp [bind, Except.bind]

theorem bind_eq_error_iff {x : Except ε α} {k : α → Except ε β} {e : ε} :
    x >>= k = .error e ↔ x = .error e ∨ ∃ a, x = .ok a ∧ k a = .error e := by
  cases x <;> simp [bind, Except.bind]

/-- A step that gives what is known when it succeeds, and what is made of that. -/
theorem bind_pure_eq_ok_iff {x : Except ε α} {p : Prop} {a : α} (h : ∀ b, x = .ok b ↔ p ∧ b = a)
    {f : α → β} {b : β} : (do let a ← x; pure (f a)) = .ok b ↔ p ∧ b = f a := by
  rw [bind_eq_ok_iff]
  constructor
  · rintro ⟨a', made, result⟩
    obtain ⟨held, rfl⟩ := (h a').1 made
    exact ⟨held, (Except.ok.inj result).symm⟩
  · rintro ⟨held, rfl⟩
    exact ⟨a, (h a).2 ⟨held, rfl⟩, rfl⟩

theorem exists_of_isOk {x : Except ε α} (h : x.isOk) : ∃ a, x = .ok a := by
  cases x with
  | error e => cases h
  | ok a => exact ⟨a, rfl⟩

theorem map_some_inj {x y : Except ε α} : x.map some = y.map some ↔ x = y := by
  cases x <;> cases y <;> simp [Except.map]

theorem mapError_eq_ok_iff {ε' : Type} {x : Except ε α} {f : ε → ε'} {a : α} :
    x.mapError f = .ok a ↔ x = .ok a := by
  cases x with
  | error e => exact ⟨nofun, nofun⟩
  | ok b =>
    exact ⟨fun h => congrArg Except.ok (Except.ok.inj h),
      fun h => congrArg Except.ok (Except.ok.inj h)⟩

theorem ite_eq_ok_iff {p : Prop} [Decidable p] {a b : α} {e : ε} :
    (if p then Except.ok a else .error e) = .ok b ↔ p ∧ b = a := by
  split <;> simp [*, eq_comm]

theorem mapM_eq_ok_iff {f : α → Except ε β} {g : α → β} {p : α → Prop}
    (h : ∀ a b, f a = .ok b ↔ p a ∧ b = g a) {as : List α} {bs : List β} :
    as.mapM f = .ok bs ↔ (∀ a ∈ as, p a) ∧ bs = as.map g := by
  induction as generalizing bs with
  | nil => simp [pure, Except.pure, eq_comm]
  | cons a as ih =>
    simp only [List.mapM_cons, bind_eq_ok_iff, h, ih, List.forall_mem_cons, List.map_cons]
    constructor
    · rintro ⟨_, ⟨first, rfl⟩, _, ⟨others, rfl⟩, result⟩
      exact ⟨⟨first, others⟩, (Except.ok.inj result).symm⟩
    · rintro ⟨⟨first, others⟩, rfl⟩
      exact ⟨_, ⟨first, rfl⟩, _, ⟨others, rfl⟩, rfl⟩

theorem mapM_eq_some_iff {f : α → Option β} {p : α → Prop} {g : α → β}
    (h : ∀ a b, f a = some b ↔ p a ∧ b = g a) {as : List α} {bs : List β} :
    as.mapM f = some bs ↔ (∀ a ∈ as, p a) ∧ bs = as.map g := by
  induction as generalizing bs with
  | nil => simp [eq_comm]
  | cons a as ih =>
    simp only [List.mapM_cons, Option.bind_eq_bind, Option.bind_eq_some_iff, h, ih,
      List.forall_mem_cons, List.map_cons]
    constructor
    · rintro ⟨_, ⟨first, rfl⟩, _, ⟨others, rfl⟩, result⟩
      exact ⟨⟨first, others⟩, (Option.some.inj result).symm⟩
    · rintro ⟨⟨first, others⟩, rfl⟩
      exact ⟨_, ⟨first, rfl⟩, _, ⟨others, rfl⟩, rfl⟩

theorem map_of_mapM_ok {f : α → Except ε β} {g : α → β}
    (each : ∀ a b, f a = .ok b → b = g a) {as : List α} {bs : List β} (ran : as.mapM f = .ok bs) :
    bs = as.map g := by
  have exact_of (a : α) (b : β) : f a = .ok b ↔ (∃ b, f a = .ok b) ∧ b = g a := by
    constructor
    · exact fun ran => ⟨⟨b, ran⟩, each a b ran⟩
    · rintro ⟨⟨b', ran⟩, rfl⟩
      rwa [← each a b' ran]
  exact ((mapM_eq_ok_iff exact_of).1 ran).2

theorem exists_of_mem_mapM_ok {f : α → Except ε β} {as : List α} {bs : List β}
    (made : as.mapM f = .ok bs) {b : β} (member : b ∈ bs) : ∃ a ∈ as, f a = .ok b := by
  induction as generalizing bs with
  | nil =>
    cases made
    cases member
  | cons first rest ih =>
    simp only [List.mapM_cons, bind_eq_ok_iff] at made
    obtain ⟨b', here, others, later, made⟩ := made
    cases made
    rcases List.mem_cons.1 member with rfl | member
    · exact ⟨first, List.mem_cons_self, here⟩
    · obtain ⟨a, member', made⟩ := ih later member
      exact ⟨a, List.mem_cons_of_mem _ member', made⟩

theorem exists_of_mapM_error {f : α → Except ε β} {as : List α} {e : ε}
    (failed : as.mapM f = .error e) : ∃ a ∈ as, f a = .error e := by
  induction as with
  | nil => cases failed
  | cons first rest ih =>
    simp only [List.mapM_cons, bind_eq_error_iff] at failed
    rcases failed with failed | ⟨b, -, failed | ⟨others, -, failed⟩⟩
    · exact ⟨first, List.mem_cons_self, failed⟩
    · obtain ⟨a, member, failed⟩ := ih failed
      exact ⟨a, List.mem_cons_of_mem _ member, failed⟩
    · cases failed

/-- Steps that all fail in the same way, or else give what is known, give all of it or fail. -/
theorem mapM_eq_ite {f : α → Except ε β} {g : α → β} {p : α → Bool} {e : ε} {as : List α}
    (h : ∀ a ∈ as, f a = if p a then .error e else .ok (g a)) :
    as.mapM f = if as.any p then .error e else .ok (as.map g) := by
  induction as with
  | nil => rfl
  | cons a as ih =>
    rw [List.forall_mem_cons] at h
    rw [List.mapM_cons, h.1, ih h.2, List.any_cons]
    cases p a
    · cases as.any p <;> rfl
    · rfl

end FormCheck
