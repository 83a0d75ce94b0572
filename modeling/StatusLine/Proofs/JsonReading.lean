import StatusLine.Proofs.JsonTokens

/-!
# JSON is read back

What is written is read as the value that it was written for, as long as the value has a text of its
own. That is proved once for every layout, and the two ways of writing are layouts. The proof
follows the value: each of its parts is read up to the character after it, which is a comma, a
bracket or a blank, so that a number ends where it should.
-/
namespace StatusLine.Json

mutual
/-- Values with a text of their own. Integers are those of 64 bits, with either sign. -/
def HasText : Json → Prop
  | integer n => n.natAbs ≤ Bounds.word64Max
  | array items => AllHaveText items
  | object members => MembersHaveText members
  | decimal => False
  | unreadable => False
  | _ => True

def AllHaveText : List Json → Prop
  | [] => True
  | v :: vs => HasText v ∧ AllHaveText vs

def MembersHaveText : List (String × Json) → Prop
  | [] => True
  | (_, v) :: ms => HasText v ∧ MembersHaveText ms
end

theorem skipBlank_cons {c : Char} (h : isBlank c = false) (cs : List Char) :
    skipBlank (c :: cs) = c :: cs := by
  simp [skipBlank, h]

section
variable {bs : List Char} (hbs : ∀ c ∈ bs, isBlank c = true)
include hbs

theorem skipBlank_append (cs : List Char) : skipBlank (bs ++ cs) = skipBlank cs :=
  List.dropWhile_append_of_pos hbs

theorem value?_append (fuel : Nat) (cs : List Char) : value? fuel (bs ++ cs) = value? fuel cs := by
  cases fuel with
  | zero => rfl
  | succ fuel => rw [value?, value?, skipBlank_append hbs]

theorem items?_append (fuel : Nat) (cs : List Char) : items? fuel (bs ++ cs) = items? fuel cs := by
  cases fuel with
  | zero => rfl
  | succ fuel => rw [items?, items?, value?_append hbs]

theorem members?_append (fuel : Nat) (cs : List Char) :
    members? fuel (bs ++ cs) = members? fuel cs := by
  cases fuel with
  | zero => rfl
  | succ fuel => rw [members?, members?, skipBlank_append hbs]

end

def StartsNumber (c : Char) : Prop := c = '-' ∨ Digits.isDigit c = true

theorem StartsNumber.ne {c d : Char} (hc : StartsNumber c) (hd : ¬ StartsNumber d) : c ≠ d := by
  intro heq
  subst heq
  exact hd hc

instance (c : Char) : Decidable (StartsNumber c) := by unfold StartsNumber; infer_instance

theorem StartsNumber.isBlank {c : Char} (hc : StartsNumber c) : isBlank c = false := by
  simp [Json.isBlank, hc.ne (by decide : ¬ StartsNumber ' '),
    hc.ne (by decide : ¬ StartsNumber '\n'), hc.ne (by decide : ¬ StartsNumber '\t'),
    hc.ne (by decide : ¬ StartsNumber '\r')]

theorem value?_number {c : Char} (hc : StartsNumber c) (fuel : Nat) (cs : List Char) :
    value? (fuel + 1) (c :: cs) = number? (c :: cs) := by
  have hne : ∀ {d}, ¬ StartsNumber d → ∀ {ds}, c :: cs ≠ d :: ds :=
    fun hd _ h => hc.ne hd (List.cons.inj h).1
  rw [value?, skipBlank_cons hc.isBlank]
  split
  case h_7 => rfl
  all_goals
    rename_i h
    exact absurd h (hne (by decide))

theorem exists_startsNumber (n : Int) : ∃ c cs, (toString n).toList = c :: cs ∧ StartsNumber c := by
  cases n with
  | ofNat m =>
    have htext : (toString (Int.ofNat m)).toList = Nat.toDigits 10 m := Nat.toList_repr
    obtain ⟨d, ds, hds⟩ := List.exists_cons_of_ne_nil (Nat.toDigits_ne_nil (n := m) (b := 10))
    have hd : Digits.isDigit d = true := Digits.isDigit_of_mem_toDigits (n := m) (by simp [hds])
    exact ⟨d, ds, htext.trans hds, Or.inr hd⟩
  | negSucc m =>
    refine ⟨'-', (toString (m + 1)).toList, ?_, Or.inl rfl⟩
    have hminus : toString (Int.negSucc m) = "-" ++ toString (m + 1) := rfl
    rw [hminus, String.toList_append]
    rfl

/-- Where the blanks of a text stand: before an item, a member or the end of one that is not empty,
and after a colon. -/
structure Layout where
  line : Nat → List Char
  colon : List Char
  isBlank_line : ∀ level, ∀ c ∈ line level, isBlank c = true
  isBlank_colon : ∀ c ∈ colon, isBlank c = true

namespace Layout

mutual
def chars (l : Layout) (level : Nat) : Json → List Char
  | array [] => ['[', ']']
  | array (v :: vs) =>
    '[' :: (l.line (level + 1) ++ (l.chars (level + 1) v ++ l.items level vs))
  | object [] => ['{', '}']
  | object ((k, v) :: ms) =>
    '{' :: (l.line (level + 1) ++
      (quote k ++ ':' :: (l.colon ++ (l.chars (level + 1) v ++ l.members level ms))))
  | v => scalar v

def items (l : Layout) (level : Nat) : List Json → List Char
  | [] => l.line level ++ [']']
  | v :: vs => ',' :: (l.line (level + 1) ++ (l.chars (level + 1) v ++ l.items level vs))

def members (l : Layout) (level : Nat) : List (String × Json) → List Char
  | [] => l.line level ++ ['}']
  | (k, v) :: ms =>
    ',' :: (l.line (level + 1) ++
      (quote k ++ ':' :: (l.colon ++ (l.chars (level + 1) v ++ l.members level ms))))
end

def pretty : Layout where
  line := newline
  colon := [' ']
  isBlank_line level c hc := by
    rcases List.mem_cons.1 hc with rfl | hc
    · rfl
    · obtain rfl := List.eq_of_mem_replicate hc
      rfl
  isBlank_colon := by simp [isBlank]

def compact : Layout where
  line _ := []
  colon := []
  isBlank_line := by simp
  isBlank_colon := by simp

mutual
theorem prettyChars_eq : ∀ (v : Json) (level : Nat), prettyChars level v = pretty.chars level v
  | null, _ | bool _, _ | integer _, _ | decimal, _ | string _, _ | unreadable, _ | array [], _
  | object [], _ => rfl
  | array (v :: vs), level => by
    rw [prettyChars, chars, prettyChars_eq v, prettyItems_eq vs]
    simp [pretty]
  | object ((k, v) :: ms), level => by
    rw [prettyChars, chars, prettyChars_eq v, prettyMembers_eq ms]
    simp [pretty]

theorem prettyItems_eq : ∀ (vs : List Json) (level : Nat),
    prettyItems level vs = pretty.items level vs
  | [], _ => rfl
  | v :: vs, level => by
    rw [prettyItems, items, prettyChars_eq v, prettyItems_eq vs]
    simp [pretty]

theorem prettyMembers_eq : ∀ (ms : List (String × Json)) (level : Nat),
    prettyMembers level ms = pretty.members level ms
  | [], _ => rfl
  | (k, v) :: ms, level => by
    rw [prettyMembers, members, prettyChars_eq v, prettyMembers_eq ms]
    simp [pretty]
end

mutual
theorem compactChars_eq : ∀ (v : Json) (level : Nat), compactChars v = compact.chars level v
  | null, _ | bool _, _ | integer _, _ | decimal, _ | string _, _ | unreadable, _ | array [], _
  | object [], _ => rfl
  | array (v :: vs), level => by
    rw [compactChars, chars, compactChars_eq v (level + 1), compactItems_eq vs level]
    simp [compact]
  | object ((k, v) :: ms), level => by
    rw [compactChars, chars, compactChars_eq v (level + 1), compactMembers_eq ms level]
    simp [compact]

theorem compactItems_eq : ∀ (vs : List Json) (level : Nat), compactItems vs = compact.items level vs
  | [], _ => rfl
  | v :: vs, level => by
    rw [compactItems, items, compactChars_eq v (level + 1), compactItems_eq vs level]
    simp [compact]

theorem compactMembers_eq : ∀ (ms : List (String × Json)) (level : Nat),
    compactMembers ms = compact.members level ms
  | [], _ => rfl
  | (k, v) :: ms, level => by
    rw [compactMembers, members, compactChars_eq v (level + 1), compactMembers_eq ms level]
    simp [compact]
end

theorem head_chars (l : Layout) (level : Nat) (v : Json) :
    ∃ c cs, l.chars level v = c :: cs ∧ isBlank c = false ∧ c ≠ ']' := by
  match v with
  | null | decimal | unreadable | bool true | bool false =>
    exact ⟨_, _, rfl, by decide, by decide⟩
  | integer n =>
    obtain ⟨c, cs, hcs, hc⟩ := exists_startsNumber n
    exact ⟨c, cs, hcs, hc.isBlank, hc.ne (by decide)⟩
  | string s => exact ⟨'"', _, rfl, by decide, by decide⟩
  | array [] | array (_ :: _) => exact ⟨'[', _, rfl, by decide, by decide⟩
  | object [] | object (_ :: _) => exact ⟨'{', _, rfl, by decide, by decide⟩

theorem length_chars_pos (l : Layout) (level : Nat) (v : Json) : 0 < (l.chars level v).length := by
  obtain ⟨c, cs, hcs, -, -⟩ := l.head_chars level v
  simp [hcs]

theorem endsValue_items (l : Layout) (level : Nat) (vs : List Json) (rest : List Char) :
    EndsValue (l.items level vs ++ rest) := by
  cases vs with
  | nil =>
    rw [items, List.append_assoc]
    exact endsValue_blanks (l.isBlank_line level) (endsValue_cons (by decide) _)
  | cons v vs => exact endsValue_cons (by decide) _

theorem endsValue_members (l : Layout) (level : Nat) (ms : List (String × Json))
    (rest : List Char) : EndsValue (l.members level ms ++ rest) := by
  match ms with
  | [] =>
    rw [members, List.append_assoc]
    exact endsValue_blanks (l.isBlank_line level) (endsValue_cons (by decide) _)
  | (k, v) :: ms => exact endsValue_cons (by decide) _

theorem length_items_pos (l : Layout) (level : Nat) (vs : List Json) :
    0 < (l.items level vs).length := by
  cases vs <;> simp [items]

theorem length_members_pos (l : Layout) (level : Nat) (ms : List (String × Json)) :
    0 < (l.members level ms).length := by
  match ms with
  | [] => simp [members]
  | (_, _) :: _ => simp [members]

end Layout

theorem value?_string (fuel : Nat) (s : String) (rest : List Char) :
    value? (fuel + 1) (quote s ++ rest) = some (string s, rest) := by
  obtain ⟨ps, hps, htext⟩ := exists_text s rest
  simp only [quote, List.cons_append, List.append_assoc]
  rw [value?, skipBlank_cons (by decide)]
  simp [hps, htext]

theorem value?_array {c : Char} (hblank : isBlank c = false) (hc : c ≠ ']') (fuel : Nat)
    {bs : List Char} (hbs : ∀ b ∈ bs, isBlank b = true) (cs : List Char) :
    value? (fuel + 1) ('[' :: (bs ++ c :: cs)) =
      (items? fuel (c :: cs)).map fun (vs, rest) => (array vs, rest) := by
  rw [value?, skipBlank_cons (by decide)]
  simp only [skipBlank_append hbs, skipBlank_cons hblank]
  split
  · rename_i h
    exact absurd (List.cons.inj h).1 hc
  · rfl

theorem value?_object (fuel : Nat) {bs : List Char} (hbs : ∀ b ∈ bs, isBlank b = true)
    (cs : List Char) :
    value? (fuel + 1) ('{' :: (bs ++ '"' :: cs)) =
      (members? fuel ('"' :: cs)).map fun (ms, rest) => (ms.elim unreadable object, rest) := by
  rw [value?, skipBlank_cons (by decide)]
  simp only [skipBlank_append hbs, skipBlank_cons (show isBlank '"' = false by decide)]
  rfl

namespace Layout

mutual
theorem value?_chars (l : Layout) : ∀ (v : Json) (level fuel : Nat) (rest : List Char),
    HasText v → (l.chars level v).length ≤ fuel → EndsValue rest →
      value? fuel (l.chars level v ++ rest) = some (v, rest)
  | v, level, 0, rest, _, hfuel, _ => by
    have hpos := l.length_chars_pos level v
    omega
  | null, level, fuel + 1, rest, _, _, _ => rfl
  | bool true, level, fuel + 1, rest, _, _, _ => rfl
  | bool false, level, fuel + 1, rest, _, _, _ => rfl
  | integer n, level, fuel + 1, rest, hv, _, hrest => by
    obtain ⟨c, cs, hcs, hc⟩ := exists_startsNumber n
    have hn := number?_integer hv hrest
    rw [hcs, List.cons_append] at hn
    have htext : l.chars level (integer n) = c :: cs := hcs
    rw [htext, List.cons_append, value?_number hc, hn]
  | string s, level, fuel + 1, rest, _, _, _ => value?_string fuel s rest
  | array [], level, fuel + 1, rest, _, _, _ => rfl
  | array (v :: vs), level, fuel + 1, rest, hv, hfuel, _ => by
    rw [chars] at hfuel ⊢
    obtain ⟨c, cs, hcs, hblank, hc⟩ := l.head_chars (level + 1) v
    have hitems := items?_items l v vs level fuel rest hv (by
      simp only [List.length_cons, List.length_append] at hfuel ⊢
      omega)
    rw [hcs] at hitems ⊢
    simp only [List.cons_append, List.append_assoc] at hitems ⊢
    rw [value?_array hblank hc fuel (l.isBlank_line (level + 1)), hitems]
    rfl
  | object [], level, fuel + 1, rest, _, _, _ => rfl
  | object ((k, v) :: ms), level, fuel + 1, rest, hv, hfuel, _ => by
    rw [chars] at hfuel ⊢
    have hmembers := members?_members l k v ms level fuel rest hv (by
      simp only [List.length_cons, List.length_append] at hfuel ⊢
      omega)
    simp only [quote, List.cons_append, List.append_assoc] at hmembers ⊢
    rw [value?_object fuel (l.isBlank_line (level + 1)), hmembers]
    rfl

theorem items?_items (l : Layout) : ∀ (v : Json) (vs : List Json) (level fuel : Nat)
    (rest : List Char), HasText v ∧ AllHaveText vs →
      (l.chars (level + 1) v ++ l.items level vs).length ≤ fuel →
        items? fuel (l.chars (level + 1) v ++ l.items level vs ++ rest) = some (v :: vs, rest)
  | v, vs, level, 0, rest, _, hfuel => by
    have hpos := l.length_chars_pos (level + 1) v
    rw [List.length_append] at hfuel
    omega
  | v, vs, level, fuel + 1, rest, hv, hfuel => by
    have hfirst := l.length_chars_pos (level + 1) v
    have hlast := l.length_items_pos level vs
    rw [List.length_append] at hfuel
    have hvalue := value?_chars l v (level + 1) fuel (l.items level vs ++ rest) hv.1 (by omega)
      (l.endsValue_items level vs rest)
    rw [List.append_assoc, items?, hvalue, Option.bind_eq_bind, Option.bind_some]
    match vs with
    | [] =>
      rw [items, List.append_assoc]
      simp only [skipBlank_append (l.isBlank_line level)]
      rfl
    | w :: ws =>
      rw [items] at hfuel ⊢
      have hitems := items?_items l w ws level fuel rest hv.2 (by
        simp only [List.length_cons, List.length_append] at hfuel ⊢
        omega)
      rw [List.cons_append, List.append_assoc]
      simp only [skipBlank_cons (show isBlank ',' = false by decide),
        items?_append (l.isBlank_line (level + 1)), hitems]
      rfl

theorem members?_members (l : Layout) : ∀ (k : String) (v : Json) (ms : List (String × Json))
    (level fuel : Nat) (rest : List Char), HasText v ∧ MembersHaveText ms →
      (quote k ++ ':' :: (l.colon ++ (l.chars (level + 1) v ++ l.members level ms))).length ≤ fuel →
        members? fuel
          (quote k ++ ':' :: (l.colon ++ (l.chars (level + 1) v ++ l.members level ms)) ++ rest) =
            some (some ((k, v) :: ms), rest)
  | k, v, ms, level, 0, rest, _, hfuel => by simp [quote] at hfuel
  | k, v, ms, level, fuel + 1, rest, hv, hfuel => by
    have hlast := l.length_members_pos level ms
    simp only [List.length_append, List.length_cons] at hfuel
    have hvalue := value?_chars l v (level + 1) fuel (l.members level ms ++ rest) hv.1 (by omega)
      (l.endsValue_members level ms rest)
    obtain ⟨ps, hps, hkey⟩ := exists_text k
      (':' :: (l.colon ++ (l.chars (level + 1) v ++ (l.members level ms ++ rest))))
    simp only [quote, List.cons_append, List.append_assoc, List.nil_append]
    rw [members?, skipBlank_cons (by decide)]
    simp only [hps, Option.bind_eq_bind, Option.bind_some,
      skipBlank_cons (show isBlank ':' = false by decide), value?_append l.isBlank_colon, hvalue,
      hkey]
    match ms with
    | [] =>
      rw [members, List.append_assoc]
      simp only [skipBlank_append (l.isBlank_line level)]
      rfl
    | (k', w) :: ws =>
      rw [members] at hfuel ⊢
      have hmembers := members?_members l k' w ws level fuel rest hv.2 (by
        simp only [List.length_cons, List.length_append] at hfuel ⊢
        omega)
      rw [List.cons_append, List.append_assoc]
      simp only [skipBlank_cons (show isBlank ',' = false by decide),
        members?_append (l.isBlank_line (level + 1)), hmembers]
      rfl
end

theorem read?_chars (l : Layout) {v : Json} (h : HasText v) (bs : List Char)
    (hbs : ∀ c ∈ bs, isBlank c = true) : read? (String.ofList (l.chars 0 v ++ bs)) = some v := by
  have hrest : EndsValue bs := by simpa using endsValue_blanks hbs endsValue_nil
  have hblank : skipBlank bs = [] := by simpa [skipBlank] using skipBlank_append hbs []
  have hvalue := value?_chars l v 0 (2 * (l.chars 0 v ++ bs).length + 2) bs h
    (by rw [List.length_append]; omega) hrest
  rw [read?, String.toList_ofList]
  simp only [hvalue, Option.bind_eq_bind, Option.bind_some, hblank]
  rfl

end Layout

theorem read?_pretty {v : Json} (h : HasText v) : read? v.pretty = some v := by
  have hread := Layout.pretty.read?_chars h [] (by simp)
  rwa [List.append_nil, ← Layout.prettyChars_eq] at hread

theorem read?_compact {v : Json} (h : HasText v) : read? v.compact = some v := by
  have hread := Layout.compact.read?_chars h [] (by simp)
  rwa [List.append_nil, ← Layout.compactChars_eq] at hread

theorem read?_pretty_line {v : Json} (h : HasText v) : read? (v.pretty ++ "\n") = some v := by
  have hread := Layout.pretty.read?_chars h ['\n'] (by simp [isBlank])
  rwa [String.ofList_append, ← Layout.prettyChars_eq] at hread

end StatusLine.Json
