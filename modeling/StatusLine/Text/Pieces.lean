/-!
# Cutting lists at separators

A list is cut at each element of a class. The separators are dropped and nothing else is, so that
there is one piece more than there are separators.
-/
namespace StatusLine.Pieces

def consHead {α : Type} (c : α) : List (List α) → List (List α)
  | [] => [[c]]
  | p :: ps => (c :: p) :: ps

@[simp] theorem consHead_ne_nil {α : Type} (c : α) (ps : List (List α)) : consHead c ps ≠ [] := by
  cases ps <;> simp [consHead]

theorem consHead_append {α : Type} (c : α) {ps : List (List α)} (h : ps ≠ []) (qs : List (List α)) :
    consHead c (ps ++ qs) = consHead c ps ++ qs := by
  cases ps
  · simp at h
  · rfl

def splitWhere {α : Type} (p : α → Bool) : List α → List (List α)
  | [] => [[]]
  | c :: cs => if p c then [] :: splitWhere p cs else consHead c (splitWhere p cs)

theorem splitWhere_ne_nil {α : Type} (p : α → Bool) (cs : List α) : splitWhere p cs ≠ [] := by
  fun_cases splitWhere p cs <;> simp

theorem splitWhere_append {α : Type} {p : α → Bool} {s : α} (hs : p s = true) (a b : List α) :
    splitWhere p (a ++ s :: b) = splitWhere p a ++ splitWhere p b := by
  induction a with
  | nil => simp [splitWhere, hs]
  | cons c a ih =>
    by_cases hc : p c
    · simp [splitWhere, hc, ih]
    · simp [splitWhere, hc, ih, consHead_append c (splitWhere_ne_nil p a)]

theorem splitWhere_of_forall {α : Type} {p : α → Bool} {cs : List α}
    (h : ∀ c ∈ cs, p c = false) : splitWhere p cs = [cs] := by
  induction cs with
  | nil => rfl
  | cons c cs ih =>
    obtain ⟨hc, hcs⟩ := List.forall_mem_cons.1 h
    simp [splitWhere, hc, ih hcs, consHead]

theorem eq_append_of_splitWhere {α : Type} {p : α → Bool} {cs w : List α} {ws : List (List α)}
    (h : splitWhere p cs = w :: ws) : (cs = w ∧ ws = []) ∨
      ∃ s rest, p s = true ∧ cs = w ++ s :: rest ∧ ws = splitWhere p rest := by
  induction cs generalizing w ws with
  | nil => simp_all [splitWhere]
  | cons c cs ih =>
    by_cases hc : p c
    · simp only [splitWhere, hc, if_true, List.cons.injEq] at h
      exact Or.inr ⟨c, cs, hc, by simp [h.1.symm], h.2.symm⟩
    · cases hsplit : splitWhere p cs with
      | nil => exact absurd hsplit (splitWhere_ne_nil p cs)
      | cons v vs =>
        simp only [splitWhere, hc, hsplit, consHead] at h
        obtain ⟨rfl, rfl⟩ : c :: v = w ∧ vs = ws := by simpa using h
        rcases ih hsplit with ⟨rfl, rfl⟩ | ⟨s, rest, hs, rfl, rfl⟩
        · exact Or.inl ⟨rfl, rfl⟩
        · exact Or.inr ⟨s, rest, hs, rfl, rfl⟩

end StatusLine.Pieces
