import Mathlib.Data.List.Forall2

/-!
# Steps that may fail

A step gives a value or a fault. Two steps after each other give a value when both do; a list of
steps keeps what every single one of them keeps, and fails as the first of them that fails.
-/
namespace StatusLine
variable {ε α β σ : Type}

theorem bind_eq_ok {x : Except ε α} {f : α → Except ε β} {b : β} :
    (x >>= f) = .ok b ↔ ∃ a, x = .ok a ∧ f a = .ok b := by
  cases x with
  | error e => simp [bind, Except.bind]
  | ok a => simp [bind, Except.bind]

theorem bind_eq_error {x : Except ε α} {f : α → Except ε β} {e : ε} :
    (x >>= f) = .error e ↔ x = .error e ∨ ∃ a, x = .ok a ∧ f a = .error e := by
  cases x with
  | error e => simp [bind, Except.bind]
  | ok a => simp [bind, Except.bind]

theorem map_eq_ok {x : Except ε α} {f : α → β} {b : β} :
    (f <$> x) = .ok b ↔ ∃ a, x = .ok a ∧ f a = b := by
  cases x with
  | error e => simp [Functor.map, Except.map]
  | ok a => simp [Functor.map, Except.map]

theorem map_eq_error {x : Except ε α} {f : α → β} {e : ε} :
    (f <$> x) = .error e ↔ x = .error e := by
  cases x with
  | error e => simp [Functor.map, Except.map]
  | ok a => simp [Functor.map, Except.map]

theorem mapError_eq_ok {ε' : Type} {x : Except ε α} {f : ε → ε'} {a : α} :
    x.mapError f = .ok a ↔ x = .ok a := by
  cases x <;> simp [Except.mapError]

theorem mapError_eq_error {ε' : Type} {x : Except ε α} {f : ε → ε'} {e : ε'} :
    x.mapError f = .error e ↔ ∃ cause, x = .error cause ∧ f cause = e := by
  cases x <;> simp [Except.mapError]

theorem ite_error_eq_ok {p : Prop} [Decidable p] {e : ε} {x : Except ε α} {a : α} :
    (if p then .error e else x) = .ok a ↔ ¬ p ∧ x = .ok a := by
  by_cases hp : p <;> simp [hp]

@[simp] theorem ok_bind (a : α) (f : α → Except ε β) : (Except.ok a >>= f) = f a := rfl

@[simp] theorem error_bind (e : ε) (f : α → Except ε β) : (Except.error e >>= f) = .error e := rfl

@[simp] theorem pure_eq_ok (a : α) : (pure a : Except ε α) = .ok a := rfl

theorem foldlM_invariant {P : σ → Prop} {step : σ → α → Except ε σ} {as : List α}
    (hstep : ∀ a ∈ as, ∀ s s', P s → step s a = .ok s' → P s') {s s' : σ} (hs : P s)
    (h : as.foldlM step s = .ok s') : P s' := by
  induction as generalizing s with
  | nil =>
    obtain rfl := Except.ok.inj h
    exact hs
  | cons a as ih =>
    rw [List.foldlM_cons, bind_eq_ok] at h
    obtain ⟨t, ht, h⟩ := h
    have hP : P t := hstep a (by simp) s t hs ht
    exact ih (fun b hb => hstep b (by simp [hb])) hP h

theorem foldlM_eq_error {step : σ → α → Except ε σ} {as : List α} {s : σ} {e : ε} :
    as.foldlM step s = .error e ↔
      ∃ i a t, as[i]? = some a ∧ (as.take i).foldlM step s = .ok t ∧ step t a = .error e := by
  induction as generalizing s with
  | nil => simp
  | cons a as ih =>
    rw [List.foldlM_cons, bind_eq_error]
    constructor
    · intro h
      rcases h with h | ⟨t, ht, h⟩
      · exact ⟨0, a, s, rfl, rfl, h⟩
      · obtain ⟨i, b, u, hb, hu, hstep⟩ := ih.1 h
        refine ⟨i + 1, b, u, hb, ?_, hstep⟩
        rw [List.take_succ_cons, List.foldlM_cons, ht, ok_bind, hu]
    · intro h
      obtain ⟨i, b, u, hb, hu, hstep⟩ := h
      cases i with
      | zero =>
        obtain rfl : a = b := by simpa using hb
        obtain rfl := Except.ok.inj hu
        exact Or.inl hstep
      | succ i =>
        rw [List.take_succ_cons, List.foldlM_cons, bind_eq_ok] at hu
        obtain ⟨t, ht, hu⟩ := hu
        exact Or.inr ⟨t, ht, ih.2 ⟨i, b, u, by simpa using hb, hu, hstep⟩⟩

theorem mapM_eq_ok {f : α → Except ε β} {R : α → β → Prop} {as : List α} {bs : List β}
    (h : ∀ a ∈ as, ∀ b, f a = .ok b ↔ R a b) : as.mapM f = .ok bs ↔ List.Forall₂ R as bs := by
  induction as generalizing bs with
  | nil => simp [eq_comm]
  | cons a as ih =>
    rw [List.mapM_cons, bind_eq_ok, List.forall₂_cons_left_iff]
    refine exists_congr fun b => ?_
    rw [bind_eq_ok, h a List.mem_cons_self, ← exists_and_left]
    refine exists_congr fun bs' => ?_
    rw [ih fun c hc => h c (List.mem_cons_of_mem a hc), pure_eq_ok, Except.ok.injEq,
      eq_comm (a := b :: bs')]

theorem mapM_eq_error {f : α → Except ε β} {as : List α} {e : ε} :
    as.mapM f = .error e ↔ ∃ a before after, as = before ++ a :: after ∧
      (∀ b ∈ before, ∃ c, f b = .ok c) ∧ f a = .error e := by
  induction as with
  | nil => simp
  | cons a as ih =>
    rw [List.mapM_cons, bind_eq_error]
    constructor
    · intro h
      rcases h with h | ⟨b, hb, h⟩
      · exact ⟨a, [], as, rfl, by simp, h⟩
      · rcases bind_eq_error.1 h with h | ⟨bs, -, h⟩
        · obtain ⟨c, before, after, rfl, hbefore, hc⟩ := ih.1 h
          exact ⟨c, a :: before, after, rfl, List.forall_mem_cons.2 ⟨⟨b, hb⟩, hbefore⟩, hc⟩
        · simp at h
    · intro h
      obtain ⟨c, before, after, has, hbefore, hc⟩ := h
      cases before with
      | nil =>
        obtain ⟨rfl, rfl⟩ := List.cons.inj has
        exact Or.inl hc
      | cons b before =>
        obtain ⟨rfl, rfl⟩ := List.cons.inj has
        obtain ⟨⟨d, hd⟩, hbefore⟩ := List.forall_mem_cons.1 hbefore
        have hrest := ih.2 ⟨c, before, after, rfl, hbefore, hc⟩
        exact Or.inr ⟨d, hd, bind_eq_error.2 (Or.inl hrest)⟩

theorem exists_forall₂ {R : α → β → Prop} {as : List α} :
    (∃ bs, List.Forall₂ R as bs) ↔ ∀ a ∈ as, ∃ b, R a b := by
  induction as with
  | nil => exact ⟨fun _ a ha => absurd ha (List.not_mem_nil), fun _ => ⟨[], .nil⟩⟩
  | cons a as ih =>
    rw [List.forall_mem_cons, ← ih]
    constructor
    · intro h
      obtain ⟨bs, h⟩ := h
      obtain ⟨b, bs', hb, hbs, -⟩ := List.forall₂_cons_left_iff.1 h
      exact ⟨⟨b, hb⟩, ⟨bs', hbs⟩⟩
    · intro h
      obtain ⟨⟨b, hb⟩, ⟨bs, hbs⟩⟩ := h
      exact ⟨b :: bs, .cons hb hbs⟩

/-- If the step fails, then for a reason of this sort. -/
def FailsOnly (P : ε → Prop) (x : Except ε α) : Prop := ∀ e, x = .error e → P e

namespace FailsOnly
variable {P : ε → Prop}

theorem ok (a : α) : FailsOnly P (.ok a) := by
  intro e h
  simp at h

theorem error {e : ε} (he : P e) : FailsOnly P (.error e : Except ε α) := by
  intro e' h
  obtain rfl := Except.error.inj h
  exact he

theorem bind {x : Except ε α} {f : α → Except ε β} (hx : FailsOnly P x)
    (hf : ∀ a, x = .ok a → FailsOnly P (f a)) : FailsOnly P (x >>= f) := by
  intro e h
  rcases bind_eq_error.1 h with h | ⟨a, ha, h⟩
  · exact hx e h
  · exact hf a ha e h

theorem mapError {ε' : Type} {g : ε' → ε} (hg : ∀ e, P (g e)) (x : Except ε' α) :
    FailsOnly P (x.mapError g) := by
  cases x with
  | error e => exact .error (hg e)
  | ok a => exact .ok a

theorem foldlM {step : σ → α → Except ε σ} (hstep : ∀ s a, FailsOnly P (step s a)) (as : List α)
    (s : σ) : FailsOnly P (as.foldlM step s) := by
  intro e h
  obtain ⟨i, a, t, -, -, h⟩ := foldlM_eq_error.1 h
  exact hstep t a e h

end FailsOnly
end StatusLine
