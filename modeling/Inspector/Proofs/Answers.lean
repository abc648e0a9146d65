import Mathlib.Data.List.Forall2

/-!
# Answers and failures

Wherever the program reads something, follows a path or does a job, any step may fail instead of
giving an answer. The whole has an answer exactly if each of its steps has one, and then it is
made of theirs.
-/

namespace Inspector

variable {ε δ α β : Type}

/-- What goes on after a first step has an answer exactly if both have one. -/
theorem bind_eq_ok_iff {first : Except ε α} {next : α → Except ε β} {b : β} :
    first >>= next = .ok b ↔ ∃ a, first = .ok a ∧ next a = .ok b := by
  cases first with
  | error fault => simp [bind, Except.bind]
  | ok a =>
    refine ⟨fun rest => ⟨a, rfl, rest⟩, ?_⟩
    rintro ⟨_, ⟨⟩, rest⟩
    exact rest

/-- Wording a failure makes no success. -/
theorem mapError_eq_ok_iff {complain : ε → δ} {result : Except ε α} {a : α} :
    result.mapError complain = .ok a ↔ result = .ok a := by
  cases result <;> simp [Except.mapError]

theorem map_eq_ok_iff {f : α → β} {result : Except ε α} {b : β} :
    result.map f = .ok b ↔ ∃ a, result = .ok a ∧ f a = b := by
  cases result <;> simp [Except.map]

theorem map_eq_error_iff {f : α → β} {result : Except ε α} {fault : ε} :
    result.map f = .error fault ↔ result = .error fault := by
  cases result <;> simp [Except.map]

/-- A list is read without a fault exactly if each of its members is. -/
theorem mapM_eq_ok_iff {read : α → Except ε β} {xs : List α} {ys : List β} :
    xs.mapM read = .ok ys ↔ List.Forall₂ (fun x y => read x = .ok y) xs ys := by
  induction xs generalizing ys with
  | nil =>
    rw [List.mapM_nil, List.forall₂_nil_left_iff]
    exact ⟨fun same => (Except.ok.inj same).symm, fun same => same ▸ rfl⟩
  | cons x xs ih =>
    simp only [List.mapM_cons, List.forall₂_cons_left_iff, bind_eq_ok_iff, ih]
    constructor
    · rintro ⟨y, first, more, rest, ⟨⟩⟩
      exact ⟨y, more, first, rest, rfl⟩
    · rintro ⟨y, more, first, rest, rfl⟩
      exact ⟨y, first, more, rest, rfl⟩

theorem exists_mapM_iff {read : α → Except ε β} {xs : List α} :
    (∃ ys, xs.mapM read = .ok ys) ↔ ∀ x ∈ xs, ∃ b, read x = .ok b := by
  simp only [mapM_eq_ok_iff]
  induction xs with
  | nil => simp
  | cons x xs ih =>
    simp only [List.forall₂_cons_left_iff, List.forall_mem_cons, ← ih]
    constructor
    · rintro ⟨_, b, ys, first, rest, _⟩
      exact ⟨⟨b, first⟩, ys, rest⟩
    · rintro ⟨⟨b, first⟩, ys, rest⟩
      exact ⟨b :: ys, b, ys, first, rest, rfl⟩

/-- A list is read with a fault exactly if it is that of a first member with one. -/
theorem mapM_eq_error_iff {read : α → Except ε β} {xs : List α} {fault : ε} :
    xs.mapM read = .error fault ↔ ∃ before x after, xs = before ++ x :: after ∧
      (∀ y ∈ before, ∃ b, read y = .ok b) ∧ read x = .error fault := by
  induction xs with
  | nil =>
    refine iff_of_false nofun ?_
    rintro ⟨before, x, after, cut, _⟩
    cases before <;> cases cut
  | cons x xs ih =>
    rw [List.mapM_cons]
    simp only [List.cons_eq_append_iff]
    cases first : read x with
    | error own =>
      constructor
      · rintro ⟨⟩
        exact ⟨[], x, xs, .inl ⟨rfl, rfl⟩, List.forall_mem_nil _, first⟩
      · rintro ⟨before, y, after, ⟨rfl, cut⟩ | ⟨rest, rfl, _⟩, clear, faulty⟩
        · cases cut
          rw [first] at faulty
          cases faulty
          rfl
        · obtain ⟨b, good⟩ := clear x List.mem_cons_self
          rw [first] at good
          cases good
    | ok b =>
      -- the first member is clear, so that the fault is one of the rest
      have rest : (do let y ← Except.ok b; let ys ← xs.mapM read; pure (y :: ys)) =
          Except.error fault ↔ xs.mapM read = .error fault := by
        cases xs.mapM read <;> simp [bind, Except.bind, pure, Except.pure]
      rw [rest, ih]
      constructor
      · rintro ⟨before, y, after, rfl, clear, faulty⟩
        exact ⟨x :: before, y, after, .inr ⟨before, rfl, rfl⟩,
          List.forall_mem_cons.mpr ⟨⟨b, first⟩, clear⟩, faulty⟩
      · rintro ⟨before, y, after, ⟨rfl, cut⟩ | ⟨tail, rfl, rfl⟩, clear, faulty⟩
        · cases cut
          rw [first] at faulty
          cases faulty
        · exact ⟨tail, y, after, rfl, (List.forall_mem_cons.mp clear).2, faulty⟩

/-- Whatever fails has a fault, and whatever does not has an answer. -/
theorem exists_ok_iff {result : Except ε α} :
    (∃ a, result = .ok a) ↔ ∀ fault, result ≠ .error fault := by
  cases result <;> simp

end Inspector
