import StatusLine.Proofs.TimeSpanReading

/-!
# The grammar of time spans

A range is one group, or two groups that count different units; a group is digits and the letter of
a unit. A text is read as a span exactly when it is a range behind one sign or none and no group
counts past 64 bits. The span has for each unit the signed count of its group, and nothing for a
unit without a group.

The groups are found from left to right with the digits of the unfinished one kept aside, so that
induction on the text gives the list of all groups; that a unit is counted once leaves two at most.
-/
namespace StatusLine.TimeSpan

inductive Sign
  | plus
  | minus

namespace Sign

def char : Sign → Char
  | plus => '+'
  | minus => '-'

def factor : Sign → Int
  | plus => 1
  | minus => -1

def text : Option Sign → List Char
  | some s => [s.char]
  | none => []

def factorOf : Option Sign → Int
  | some s => s.factor
  | none => 1

end Sign

structure Group where
  digits : List Char
  unit : TimeUnit
  ne_nil : digits ≠ []
  isDigit : ∀ c ∈ digits, Digits.isDigit c = true

namespace Group

def count (g : Group) : Nat := Digits.value g.digits

def chars (g : Group) : List Char := g.digits ++ [letter g.unit]

theorem exists_chars (g : Group) :
    ∃ d cs, g.chars = d :: cs ∧ Digits.isDigit d = true := by
  obtain ⟨d, ds, hds⟩ := List.exists_cons_of_ne_nil g.ne_nil
  refine ⟨d, ds ++ [letter g.unit], by rw [chars, hds, List.cons_append], ?_⟩
  exact g.isDigit d (hds ▸ List.mem_cons_self)

end Group

def DifferInUnit (gs : List Group) : Prop := gs.Pairwise fun g g' => g.unit ≠ g'.unit

def withGroups (factor : Int) (s : TimeSpan) (gs : List Group) : TimeSpan :=
  gs.foldl (fun s g => s.withAmount (factor * g.count) g.unit) s

@[simp] theorem withGroups_nil (factor : Int) (s : TimeSpan) : withGroups factor s [] = s := rfl

@[simp] theorem withGroups_cons (factor : Int) (s : TimeSpan) (g : Group) (gs : List Group) :
    withGroups factor s (g :: gs) =
      withGroups factor (s.withAmount (factor * g.count) g.unit) gs := rfl

theorem amount_withGroups {factor : Int} {s : TimeSpan} {gs : List Group} {u : TimeUnit} {n : Int}
    (h : DifferInUnit gs) :
    (withGroups factor s gs).amount u = some n ↔
      (∃ g ∈ gs, g.unit = u ∧ n = factor * g.count) ∨
        (∀ g ∈ gs, g.unit ≠ u) ∧ s.amount u = some n := by
  induction gs generalizing s with
  | nil => simp
  | cons g gs ih =>
    obtain ⟨hg, hgs⟩ := List.pairwise_cons.1 h
    rw [withGroups_cons, ih hgs, amount_withAmount]
    by_cases hu : g.unit = u
    · have hlater : ∀ g' ∈ gs, g'.unit ≠ u := fun g' hg' => hu ▸ (hg g' hg').symm
      have hnone : ¬ ∃ g' ∈ gs, g'.unit = u ∧ n = factor * g'.count := by
        rintro ⟨g', hg', hu', -⟩
        exact hlater g' hg' hu'
      have heq : some (factor * (g.count : Int)) = some n ↔ n = factor * g.count := by
        rw [Option.some.injEq, eq_comm]
      simp only [List.exists_mem_cons_iff, List.forall_mem_cons, hnone, hu, if_true, heq, true_and,
        or_false, false_or, ne_eq, not_true_eq_false, false_and]
      exact and_iff_right hlater
    · simp only [List.exists_mem_cons_iff, List.forall_mem_cons, hu, if_false, false_and, false_or,
        not_false_eq_true, true_and, ne_eq]

structure Range where
  first : Group
  second : Option Group
  units_ne : ∀ g, second = some g → first.unit ≠ g.unit

namespace Range

def groups (r : Range) : List Group := r.first :: r.second.toList

def chars (r : Range) : List Char := r.groups.flatMap Group.chars

def Fits (r : Range) : Prop := ∀ g ∈ r.groups, g.count ≤ Bounds.signed64Max

def span (r : Range) (factor : Int) : TimeSpan := withGroups factor empty r.groups

theorem differInUnit_groups (r : Range) : DifferInUnit r.groups := by
  obtain ⟨first, second, hne⟩ := r
  cases second with
  | none => exact List.pairwise_singleton _ first
  | some g => exact List.pairwise_pair.2 (hne g rfl)

theorem exists_groups_eq {gs : List Group} (hne : gs ≠ []) (h : DifferInUnit gs) :
    ∃ r : Range, r.groups = gs := by
  match gs, hne with
  | [g], _ => exact ⟨⟨g, none, by simp⟩, rfl⟩
  | [g, g'], _ =>
    have hunits : g.unit ≠ g'.unit := (List.pairwise_cons.1 h).1 g' (by simp)
    refine ⟨⟨g, some g', ?_⟩, rfl⟩
    intro k hk
    obtain rfl := Option.some.inj hk
    exact hunits
  | g :: g' :: k :: gs, _ =>
    -- of three units two are the same
    obtain ⟨hg, htail⟩ := List.pairwise_cons.1 h
    have h1 : g.unit ≠ g'.unit := hg g' (by simp)
    have h2 : g.unit ≠ k.unit := hg k (by simp)
    have h3 : g'.unit ≠ k.unit := (List.pairwise_cons.1 htail).1 k (by simp)
    cases hu : g.unit <;> cases hu' : g'.unit <;> cases hk : k.unit <;> simp_all

theorem amount_span (r : Range) (factor : Int) (u : TimeUnit) (n : Int) :
    (r.span factor).amount u = some n ↔ ∃ g ∈ r.groups, g.unit = u ∧ n = factor * g.count := by
  have hempty : empty.amount u = none := by cases u <;> rfl
  rw [span, amount_withGroups r.differInUnit_groups, hempty]
  simp

theorem exists_amount_span (r : Range) (factor : Int) : ∃ u n, (r.span factor).amount u = some n :=
  ⟨r.first.unit, _, (r.amount_span factor _ _).2 ⟨r.first, List.mem_cons_self, rfl, rfl⟩⟩

theorem exists_chars (r : Range) : ∃ d cs, r.chars = d :: cs ∧ Digits.isDigit d = true := by
  obtain ⟨d, cs, hcs, hd⟩ := r.first.exists_chars
  exact ⟨d, _, by rw [chars, groups, List.flatMap_cons, hcs, List.cons_append], hd⟩

end Range

theorem groups_chars (sign : Int) (span : TimeSpan) (g : Group) (rest : List Char) :
    groups sign span none (g.chars ++ rest) =
      if (span.amount g.unit).isSome ∨ Bounds.signed64Max < g.count then none
      else groups sign (span.withAmount (sign * g.count) g.unit) none rest := by
  rw [Group.chars, List.append_assoc, groups_number g.ne_nil g.isDigit, List.singleton_append,
    groups_letter]
  rfl

theorem groups_flatMap {sign : Int} {span result : TimeSpan} {gs : List Group} :
    groups sign span none (gs.flatMap Group.chars) = some result ↔
      DifferInUnit gs ∧ (∀ g ∈ gs, span.amount g.unit = none ∧ g.count ≤ Bounds.signed64Max) ∧
        result = withGroups sign span gs := by
  induction gs generalizing span with
  | nil => simp [groups, DifferInUnit, eq_comm]
  | cons g gs ih =>
    have hstays : ∀ g' : Group,
        (span.withAmount (sign * g.count) g.unit).amount g'.unit = none ↔
          g.unit ≠ g'.unit ∧ span.amount g'.unit = none := by
      intro g'
      rw [amount_withAmount]
      split <;> simp_all
    rw [List.flatMap_cons, groups_chars]
    by_cases hg : span.amount g.unit = none ∧ g.count ≤ Bounds.signed64Max
    · have hopen : ¬ ((span.amount g.unit).isSome = true ∨ Bounds.signed64Max < g.count) := by
        rw [hg.1, not_or]
        exact ⟨Bool.false_ne_true, Nat.not_lt.2 hg.2⟩
      rw [if_neg hopen, ih]
      simp only [DifferInUnit, List.pairwise_cons, List.forall_mem_cons, hstays, hg,
        withGroups_cons, and_assoc, forall_and, true_and]
      tauto
    · have hshut : (span.amount g.unit).isSome = true ∨ Bounds.signed64Max < g.count := by
        rw [not_and_or, ← ne_eq, ← Option.isSome_iff_ne_none, Nat.not_le] at hg
        exact hg
      rw [if_pos hshut]
      simp [hg]

def pending (ds : List Char) : Option Nat := if ds = [] then none else some (Digits.value ds)

theorem pending_concat (ds : List Char) (d : Char) :
    some (10 * (pending ds).getD 0 + Digits.digit d) = pending (ds ++ [d]) := by
  have hne : ds ++ [d] ≠ [] := by simp
  rw [pending, pending, if_neg hne, Digits.value_append]
  split
  case isTrue h => rw [h]; rfl
  case isFalse => rfl

theorem eq_letter_of_unitOf? {c : Char} {u : TimeUnit} (h : unitOf? c = some u) : c = letter u := by
  unfold unitOf? at h
  split at h
  · obtain rfl := Option.some.inj h
    rfl
  · obtain rfl := Option.some.inj h
    rfl
  · simp at h

theorem exists_groups {sign : Int} {span result : TimeSpan} {ds cs : List Char}
    (hds : ∀ c ∈ ds, Digits.isDigit c = true)
    (h : groups sign span (pending ds) cs = some result) :
    ∃ gs : List Group, ds ++ cs = gs.flatMap Group.chars := by
  induction cs generalizing span ds with
  | nil =>
    by_cases hnil : ds = []
    · exact ⟨[], by simp [hnil]⟩
    · simp [groups, pending, hnil] at h
  | cons c cs ih =>
    unfold groups at h
    split at h
    case isTrue hc =>
      rw [pending_concat] at h
      have hdigits : ∀ d ∈ ds ++ [c], Digits.isDigit d = true := by
        intro d hd
        rcases List.mem_append.1 hd with hd | hd
        · exact hds d hd
        · exact List.mem_singleton.1 hd ▸ hc
      obtain ⟨gs, hgs⟩ := ih hdigits h
      exact ⟨gs, by rw [← hgs, List.append_assoc, List.singleton_append]⟩
    case isFalse hc =>
      split at h
      case h_1 n u hn hu =>
        have hne : ds ≠ [] := by
          rintro rfl
          simp [pending] at hn
        split at h
        · simp at h
        · obtain ⟨gs, hgs⟩ := ih (List.forall_mem_nil _) h
          refine ⟨⟨ds, u, hne, hds⟩ :: gs, ?_⟩
          rw [List.flatMap_cons, ← hgs, eq_letter_of_unitOf? hu]
          simp [Group.chars]
      case h_2 => simp at h

theorem readSigned_chars {sign : Int} {r : Range} {result : TimeSpan} :
    readSigned sign r.chars = some result ↔ r.Fits ∧ result = r.span sign := by
  have hempty : ∀ u, empty.amount u = none := by
    intro u
    cases u <;> rfl
  obtain ⟨d, cs, hcs, -⟩ := r.exists_chars
  have hne : r.chars.isEmpty = false := by rw [hcs]; rfl
  rw [readSigned, if_neg (by simp [hne]), Range.chars, groups_flatMap]
  simp only [r.differInUnit_groups, hempty, true_and]
  rfl

theorem readSigned_eq_some {sign : Int} {cs : List Char} {result : TimeSpan} :
    readSigned sign cs = some result ↔
      ∃ r : Range, cs = r.chars ∧ r.Fits ∧ result = r.span sign := by
  constructor
  · intro h
    have hread := h
    unfold readSigned at h
    split at h
    case isTrue => simp at h
    case isFalse hne =>
      obtain ⟨gs, rfl⟩ := exists_groups (List.forall_mem_nil _) h
      have hgs : gs ≠ [] := by
        rintro rfl
        exact hne rfl
      obtain ⟨r, rfl⟩ := Range.exists_groups_eq hgs (groups_flatMap.1 h).1
      exact ⟨r, rfl, readSigned_chars.1 hread⟩
  · intro h
    obtain ⟨r, rfl, h⟩ := h
    exact readSigned_chars.2 h

theorem read?_signed (sign : Option Sign) (r : Range) :
    read? (Sign.text sign ++ r.chars) = readSigned (Sign.factorOf sign) r.chars := by
  match sign with
  | some .plus => rfl
  | some .minus => rfl
  | none =>
    obtain ⟨d, cs, hcs, hd⟩ := r.exists_chars
    refine read?_of_isDigit_head fun c hc => ?_
    rw [hcs] at hc
    obtain rfl := Option.some.inj hc
    exact hd

theorem exists_readSigned {cs : List Char} {span : TimeSpan} (h : read? cs = some span) :
    ∃ sign body, cs = Sign.text sign ++ body ∧
      readSigned (Sign.factorOf sign) body = some span := by
  unfold read? at h
  split at h
  · exact ⟨some .minus, _, rfl, h⟩
  · exact ⟨some .plus, _, rfl, h⟩
  · exact ⟨none, cs, rfl, h⟩

theorem read?_eq_some {cs : List Char} {span : TimeSpan} :
    read? cs = some span ↔ ∃ sign, ∃ r : Range, cs = Sign.text sign ++ r.chars ∧ r.Fits ∧
      span = r.span (Sign.factorOf sign) := by
  constructor
  · intro h
    obtain ⟨sign, body, rfl, hbody⟩ := exists_readSigned h
    obtain ⟨r, rfl, hr⟩ := readSigned_eq_some.1 hbody
    exact ⟨sign, r, rfl, hr⟩
  · intro h
    obtain ⟨sign, r, rfl, hr⟩ := h
    rw [read?_signed]
    exact readSigned_chars.2 hr

theorem ext_amount {s t : TimeSpan} (h : ∀ u n, s.amount u = some n ↔ t.amount u = some n) :
    s = t := by
  obtain ⟨hours, minutes⟩ := s
  obtain ⟨hours', minutes'⟩ := t
  have hhours : hours = hours' := Option.ext (h .hours)
  have hminutes : minutes = minutes' := Option.ext (h .minutes)
  rw [hhours, hminutes]

def IsSpelled (cs : List Char) (sign : Option Sign) (r : Range) : Prop :=
  cs = Sign.text sign ++ r.chars ∧ r.Fits

/-- Time spans are read along their grammar. A text is accepted when it is a range behind one sign
or none, its numbers fitting in 64 bits; each unit then has the signed number of its group, or
nothing where no group counts it, and some unit has a number. Every other text is the user's fault,
and the report names it. -/
theorem parse_follows_grammar (text : String) :
    (∀ span, parse text = .ok span ↔ ∃ sign r, IsSpelled text.toList sign r ∧
      ∀ u n, span.amount u = some n ↔
        ∃ g ∈ r.groups, g.unit = u ∧ n = Sign.factorOf sign * g.count) ∧
    (∀ span, parse text = .ok span → span.hours.isSome ∨ span.minutes.isSome) ∧
    (∀ f, parse text = .error f ↔
      (∀ sign r, ¬ IsSpelled text.toList sign r) ∧ f = .timeSpanMalformed text) ∧
    (Fault.timeSpanMalformed text).report =
      Failure.user .parseInvalidTimeRange ("Invalid time range: " ++ text) := by
  refine ⟨?_, ?_, ?_, rfl⟩
  · intro span
    rw [parse_eq_ok, read?_eq_some]
    refine exists_congr fun sign => exists_congr fun r => ?_
    rw [IsSpelled, and_assoc]
    refine and_congr_right fun _ => and_congr_right fun _ => ?_
    constructor
    · rintro rfl
      exact r.amount_span (Sign.factorOf sign)
    · intro h
      exact ext_amount fun u n => (h u n).trans (r.amount_span (Sign.factorOf sign) u n).symm
  · intro span h
    obtain ⟨sign, r, -, -, rfl⟩ := read?_eq_some.1 (parse_eq_ok.1 h)
    obtain ⟨u, n, hn⟩ := r.exists_amount_span (Sign.factorOf sign)
    cases u with
    | hours => exact Or.inl (Option.isSome_iff_exists.2 ⟨n, hn⟩)
    | minutes => exact Or.inr (Option.isSome_iff_exists.2 ⟨n, hn⟩)
  · intro f
    unfold parse
    cases hread : read? text.toList with
    | some span =>
      obtain ⟨sign, r, hcs, hfits, -⟩ := read?_eq_some.1 hread
      simp only [reduceCtorEq, false_iff, not_and]
      exact fun hno => absurd ⟨hcs, hfits⟩ (hno sign r)
    | none =>
      have hno : ∀ sign r, ¬ IsSpelled text.toList sign r := by
        intro sign r h
        have hsome := read?_eq_some.2 ⟨sign, r, h.1, h.2, rfl⟩
        simp [hread] at hsome
      simp [hno, eq_comm]

end StatusLine.TimeSpan
