import Mathlib.Data.List.Forall2

/-!
When a chain of steps that may fail succeeds: every step has to, and the result is the one that
the last step makes of the others. These are the laws by which the readers and checks are taken
apart.
-/
namespace WorkflowCompiler

variable {ε δ α β γ : Type}

theorem bind_eq_ok_iff {x : Except ε α} {f : α → Except ε β} {b : β} :
    (x >>= f) = .ok b ↔ ∃ a, x = .ok a ∧ f a = .ok b := by
  cases x with
  | error e => simp [bind, Except.bind]
  | ok a => simp [bind, Except.bind]

theorem bind_eq_error_iff {x : Except ε α} {f : α → Except ε β} {e : ε} :
    (x >>= f) = .error e ↔ x = .error e ∨ ∃ a, x = .ok a ∧ f a = .error e := by
  cases x with
  | error e => simp [bind, Except.bind]
  | ok a => simp [bind, Except.bind]

theorem mapError_eq_ok_iff {x : Except ε α} {f : ε → δ} {a : α} :
    x.mapError f = .ok a ↔ x = .ok a := by
  cases x with
  | error e => simp [Except.mapError]
  | ok a => simp [Except.mapError]

theorem mapError_eq_error_iff {x : Except ε α} {f : ε → δ} {d : δ} :
    x.mapError f = .error d ↔ ∃ e, x = .error e ∧ f e = d := by
  cases x <;> simp [Except.mapError]

theorem toOption_eq_some_iff {x : Except ε α} {a : α} :
    x.toOption = some a ↔ x = .ok a := by
  cases x <;> simp [Except.toOption]

theorem map_eq_ok_iff {x : Except ε α} {f : α → β} {b : β} :
    f <$> x = .ok b ↔ ∃ a, x = .ok a ∧ f a = b := by
  cases x with
  | error e => simp [Functor.map, Except.map]
  | ok a => simp [Functor.map, Except.map]

theorem map_eq_error_iff {f : α → β} {x : Except ε α} {e : ε} :
    f <$> x = .error e ↔ x = .error e := by
  cases x <;> simp [Functor.map, Except.map]

/-- Where a step succeeds and what follows does not look at its result, the step does not
count. -/
theorem map_of_exists_ok {x : Except ε α} (h : ∃ a, x = .ok a) {f : α → β} {g : β → γ} {c : γ}
    (same : ∀ a, g (f a) = c) : g <$> (do .ok (f (← x))) = (.ok c : Except ε γ) := by
  obtain ⟨a, rfl⟩ := h
  exact congrArg Except.ok (same a)

/-- Two steps whose results have something in common succeed or fail alike. -/
theorem alike_of_map_eq {f : α → β} {x y : Except ε α} (h : f <$> x = f <$> y) :
    ((∃ a, x = .ok a) ↔ ∃ a, y = .ok a) ∧ (∀ e, x = .error e ↔ y = .error e) ∧
      ∀ a b, x = .ok a → y = .ok b → f a = f b := by
  cases x with
  | error e =>
    have fails : y = .error e := map_eq_error_iff.mp h.symm
    subst fails
    exact ⟨Iff.rfl, fun _ => Iff.rfl, fun a b ha => by cases ha⟩
  | ok a =>
    obtain ⟨b, rfl, same⟩ := map_eq_ok_iff.mp h.symm
    refine ⟨by simp, by simp, fun a' b' ha hb => ?_⟩
    cases ha
    cases hb
    exact same.symm

/-- Results for all elements together are results for each. -/
theorem exists_forall₂_iff {related : α → β → Prop} {xs : List α} :
    (∃ ys, List.Forall₂ related xs ys) ↔ ∀ x ∈ xs, ∃ y, related x y := by
  induction xs with
  | nil => simp
  | cons x xs ih =>
    simp only [List.forall_mem_cons, ← ih, List.forall₂_cons_left_iff]
    constructor
    · rintro ⟨_, y, rest, hy, hrest, _⟩
      exact ⟨⟨y, hy⟩, rest, hrest⟩
    · rintro ⟨⟨y, hy⟩, rest, hrest⟩
      exact ⟨y :: rest, y, rest, hy, hrest, rfl⟩

/-- What each pair gives a third element for gives a third list. -/
theorem exists_forall₂_of_forall₂ {related : α → β → Prop} {left : α → γ → Prop}
    {right : β → γ → Prop} {xs : List α} {ys : List β} (h : List.Forall₂ related xs ys)
    (each : ∀ x ∈ xs, ∀ y, related x y → ∃ z, left x z ∧ right y z) :
    ∃ zs, List.Forall₂ left xs zs ∧ List.Forall₂ right ys zs := by
  induction h with
  | nil => exact ⟨[], .nil, .nil⟩
  | cons hxy _ ih =>
    obtain ⟨first, rest⟩ := List.forall_mem_cons.mp each
    obtain ⟨z, hz, hz'⟩ := first _ hxy
    obtain ⟨zs, hzs, hzs'⟩ := ih rest
    exact ⟨z :: zs, .cons hz hzs, .cons hz' hzs'⟩

theorem exists_mem_of_forall₂ {related : α → β → Prop} {xs : List α} {ys : List β}
    (h : List.Forall₂ related xs ys) : ∀ y ∈ ys, ∃ x ∈ xs, related x y := by
  induction h with
  | nil => exact List.forall_mem_nil _
  | cons hxy _ ih =>
    refine List.forall_mem_cons.mpr ⟨⟨_, List.mem_cons_self, hxy⟩, fun y hy => ?_⟩
    obtain ⟨x, hx, hxy⟩ := ih y hy
    exact ⟨x, List.mem_cons_of_mem _ hx, hxy⟩

/-- Each element succeeds, and the results stand in the order of the elements. -/
theorem mapM_eq_ok_iff {f : α → Except ε β} {xs : List α} {ys : List β} :
    xs.mapM f = .ok ys ↔ List.Forall₂ (fun x y => f x = .ok y) xs ys := by
  induction xs generalizing ys with
  | nil =>
    simp only [List.mapM_nil, List.forall₂_nil_left_iff]
    exact ⟨fun h => (Except.ok.inj h).symm, fun h => h ▸ rfl⟩
  | cons x xs ih =>
    simp only [List.mapM_cons, bind_eq_ok_iff, List.forall₂_cons_left_iff, ih]
    constructor
    · rintro ⟨y, hy, rest, hrest, h⟩
      exact ⟨y, rest, hy, hrest, (Except.ok.inj h).symm⟩
    · rintro ⟨y, rest, hy, hrest, rfl⟩
      exact ⟨y, hy, rest, hrest, rfl⟩

/-- The first element that fails makes the whole fail. -/
theorem mapM_eq_error_iff {f : α → Except ε β} {xs : List α} {e : ε} :
    xs.mapM f = .error e ↔ ∃ before x after, xs = before ++ x :: after ∧
      (∀ y ∈ before, ∃ z, f y = .ok z) ∧ f x = .error e := by
  induction xs with
  | nil => simp [pure, Except.pure]
  | cons x xs ih =>
    rw [List.mapM_cons, bind_eq_error_iff]
    constructor
    · rintro (here | ⟨z, first, h⟩)
      · exact ⟨[], x, xs, rfl, List.forall_mem_nil _, here⟩
      · rcases bind_eq_error_iff.mp h with later | ⟨_, _, h⟩
        · obtain ⟨before, y, after, rfl, succeed, failed⟩ := ih.mp later
          exact ⟨x :: before, y, after, rfl, List.forall_mem_cons.mpr ⟨⟨z, first⟩, succeed⟩, failed⟩
        · cases h
    · rintro ⟨before, y, after, same, succeed, failed⟩
      cases before with
      | nil =>
        obtain ⟨rfl, _⟩ := List.cons.inj same
        exact .inl failed
      | cons _ before =>
        obtain ⟨rfl, rfl⟩ := List.cons.inj same
        obtain ⟨⟨z, first⟩, succeed⟩ := List.forall_mem_cons.mp succeed
        exact .inr ⟨z, first, bind_eq_error_iff.mpr (.inl (ih.mpr ⟨before, y, after, rfl, succeed, failed⟩))⟩

theorem mapM_eq_error {f : α → Except ε β} {xs : List α} {e : ε} (h : xs.mapM f = .error e) :
    ∃ x ∈ xs, f x = .error e := by
  obtain ⟨before, x, after, rfl, _, failed⟩ := mapM_eq_error_iff.mp h
  exact ⟨x, List.mem_append_right before List.mem_cons_self, failed⟩

/-- To change each result is to change them all afterwards; what fails first fails as before. -/
theorem mapM_map_eq (f : α → Except ε β) (g : β → γ) (xs : List α) :
    xs.mapM (fun x => g <$> f x) = List.map g <$> xs.mapM f := by
  induction xs with
  | nil => rfl
  | cons x xs ih =>
    rw [List.mapM_cons, List.mapM_cons, ih]
    cases f x with
    | error e => rfl
    | ok y => cases xs.mapM f <;> rfl

theorem mapM_eq_some_iff {f : α → Option β} {xs : List α} {ys : List β} :
    xs.mapM f = some ys ↔ List.Forall₂ (fun x y => f x = some y) xs ys := by
  induction xs generalizing ys with
  | nil => simp [eq_comm]
  | cons x xs ih =>
    simp only [List.mapM_cons, Option.bind_eq_bind, Option.bind_eq_some_iff,
      List.forall₂_cons_left_iff, ih]
    constructor
    · rintro ⟨y, hy, rest, hrest, h⟩
      exact ⟨y, rest, hy, hrest, (Option.some.inj h).symm⟩
    · rintro ⟨y, rest, hy, hrest, rfl⟩
      exact ⟨y, hy, rest, hrest, rfl⟩

end WorkflowCompiler
