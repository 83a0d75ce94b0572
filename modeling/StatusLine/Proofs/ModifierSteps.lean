import StatusLine.Placeholder.Modifier
import StatusLine.Proofs.Steps

/-!
# What a modifier does

A modifier that is accepted fills one slot that was empty and leaves the others as they are. Each
statement lists every way in which that can happen, so that what holds of a placeholder that was
read follows by looking at one modifier at a time.
-/
namespace StatusLine

theorem Modifier.fill_eq_ok {α β : Type} {slot : Option α} {f : Fault} {x : Except Fault β}
    {b : β} : (if slot.isSome then .error f else x) = .ok b ↔ slot = none ∧ x = .ok b := by
  cases slot with
  | none => simp
  | some a => simp

theorem DirectoryName.apply_eq_ok {d d' : DirectoryName} {m : List Char} :
    d.apply m = .ok d' ↔
      (∃ value n, m = '+' :: value ∧ d.offset = none ∧ offset? value = some n ∧
        d' = { d with offset := some (n : Int) }) ∨
      (∃ value f, m = '>' :: value ∧ d.format = none ∧
        WordFormat.ofName? (String.ofList value) = some f ∧ d' = { d with format := some f }) ∨
      (∃ value c, m = '^' :: value ∧ d.casing = none ∧
        WordCasing.ofName? (String.ofList value) = some c ∧ d' = { d with casing := some c }) ∨
      (∃ value, m = '-' :: value ∧ d.joiner = none ∧
        d' = { d with joiner := some (String.ofList value) }) := by
  constructor
  · intro h
    unfold apply at h
    split at h
    case h_1 value =>
      obtain ⟨hd, h⟩ := Modifier.fill_eq_ok.1 h
      split at h
      case h_1 n hn =>
        obtain rfl := Except.ok.inj h
        exact Or.inl ⟨value, n, rfl, hd, hn, rfl⟩
      case h_2 => simp at h
    case h_2 value =>
      obtain ⟨hd, h⟩ := Modifier.fill_eq_ok.1 h
      split at h
      case h_1 f hf =>
        obtain rfl := Except.ok.inj h
        exact Or.inr (Or.inl ⟨value, f, rfl, hd, hf, rfl⟩)
      case h_2 => simp at h
    case h_3 value =>
      obtain ⟨hd, h⟩ := Modifier.fill_eq_ok.1 h
      split at h
      case h_1 c hc =>
        obtain rfl := Except.ok.inj h
        exact Or.inr (Or.inr (Or.inl ⟨value, c, rfl, hd, hc, rfl⟩))
      case h_2 => simp at h
    case h_4 value =>
      obtain ⟨hd, h⟩ := Modifier.fill_eq_ok.1 h
      obtain rfl := Except.ok.inj h
      exact Or.inr (Or.inr (Or.inr ⟨value, rfl, hd, rfl⟩))
    case h_5 => simp at h
  · intro h
    rcases h with ⟨value, n, rfl, hd, hn, rfl⟩ | ⟨value, f, rfl, hd, hf, rfl⟩ |
      ⟨value, c, rfl, hd, hc, rfl⟩ | ⟨value, rfl, hd, rfl⟩
    · simp [apply, hd, hn]
    · simp [apply, hd, hf]
    · simp [apply, hd, hc]
    · simp [apply, hd]

theorem GitReference.apply_eq_ok {r r' : Option GitReference} {m : List Char} :
    apply r m = .ok r' ↔
      ∃ value x, m = '?' :: value ∧ r = none ∧ ofName? (String.ofList value) = some x ∧
        r' = some x := by
  constructor
  · intro h
    unfold apply at h
    split at h
    case h_1 value =>
      obtain ⟨hr, h⟩ := Modifier.fill_eq_ok.1 h
      split at h
      case h_1 x hx => exact ⟨value, x, rfl, hr, hx, (Except.ok.inj h).symm⟩
      case h_2 => simp at h
    case h_2 => simp at h
  · intro h
    obtain ⟨value, x, rfl, rfl, hx, rfl⟩ := h
    simp [apply, hx]

theorem InputChoice.apply_eq_ok {i i' : InputChoice} {m : List Char} :
    i.apply m = .ok i' ↔
      (∃ value, m = '=' :: value ∧ i.mandatory = none ∧ i.optional = none ∧
        i' = { i with mandatory := some ((Escaped.split ';' value).map String.ofList) }) ∨
      (∃ value, m = '~' :: value ∧ i.mandatory = none ∧ i.optional = none ∧
        i' = { i with optional := some ((Escaped.split ';' value).map String.ofList) }) := by
  constructor
  · intro h
    unfold apply at h
    split at h
    case h_1 value =>
      obtain ⟨hm, h⟩ := Modifier.fill_eq_ok.1 h
      obtain ⟨ho, h⟩ := Modifier.fill_eq_ok.1 h
      exact Or.inl ⟨value, rfl, hm, ho, (Except.ok.inj h).symm⟩
    case h_2 value =>
      obtain ⟨ho, h⟩ := Modifier.fill_eq_ok.1 h
      obtain ⟨hm, h⟩ := Modifier.fill_eq_ok.1 h
      exact Or.inr ⟨value, rfl, hm, ho, (Except.ok.inj h).symm⟩
    case h_3 => simp at h
  · intro h
    rcases h with ⟨value, rfl, hm, ho, rfl⟩ | ⟨value, rfl, hm, ho, rfl⟩
    · simp [apply, hm, ho]
    · simp [apply, hm, ho]

theorem ClockTime.apply_eq_ok {t t' : ClockTime} {m : List Char} :
    t.apply m = .ok t' ↔
      (∃ sign value n, m = sign :: value ∧ (sign = '+' ∨ sign = '-') ∧ t.offset = none ∧
        shiftOf m = .ok n ∧ t' = { t with offset := some n }) ∨
      (∃ value r, m = '~' :: value ∧ t.round = none ∧ Rounding.read value = .ok r ∧
        t' = { t with round := some r }) ∨
      (∃ value, m = '=' :: value ∧ t.format = none ∧
        t' = { t with format := some (namedPattern (String.ofList value)) }) := by
  constructor
  · intro h
    unfold apply at h
    split at h
    case h_1 value =>
      obtain ⟨ht, h⟩ := Modifier.fill_eq_ok.1 h
      obtain ⟨n, hn, h⟩ := bind_eq_ok.1 h
      exact Or.inl ⟨'+', value, n, rfl, Or.inl rfl, ht, hn, (Except.ok.inj h).symm⟩
    case h_2 value =>
      obtain ⟨ht, h⟩ := Modifier.fill_eq_ok.1 h
      obtain ⟨n, hn, h⟩ := bind_eq_ok.1 h
      exact Or.inl ⟨'-', value, n, rfl, Or.inr rfl, ht, hn, (Except.ok.inj h).symm⟩
    case h_3 value =>
      obtain ⟨ht, h⟩ := Modifier.fill_eq_ok.1 h
      obtain ⟨r, hr, h⟩ := bind_eq_ok.1 h
      exact Or.inr (Or.inl ⟨value, r, rfl, ht, hr, (Except.ok.inj h).symm⟩)
    case h_4 value =>
      obtain ⟨ht, h⟩ := Modifier.fill_eq_ok.1 h
      exact Or.inr (Or.inr ⟨value, rfl, ht, (Except.ok.inj h).symm⟩)
    case h_5 => simp at h
  · intro h
    rcases h with ⟨sign, value, n, rfl, rfl | rfl, ht, hn, rfl⟩ | ⟨value, r, rfl, ht, hr, rfl⟩ |
      ⟨value, rfl, ht, rfl⟩
    · simp [apply, ht, hn]
    · simp [apply, ht, hn]
    · simp [apply, ht, hr]
    · simp [apply, ht]

end StatusLine
