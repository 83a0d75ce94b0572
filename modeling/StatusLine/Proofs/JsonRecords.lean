import StatusLine.Json.Record
import StatusLine.Proofs.JsonReading

/-!
# Records are read back

What a record is read from does not depend on the order of its members, and a field that was left
out is read as missing. Two values are the same if they differ in the order of members only; where
no objects are inside, that is to be equal.
-/
namespace StatusLine.Json

theorem allHaveText_map {α : Type} (toJson : α → Json) {as : List α}
    (h : ∀ a ∈ as, HasText (toJson a)) : AllHaveText (as.map toJson) := by
  induction as with
  | nil => trivial
  | cons a as ih =>
    exact ⟨h a List.mem_cons_self, ih fun b hb => h b (List.mem_cons_of_mem a hb)⟩

theorem membersHaveText_iff {ms : List (String × Json)} :
    MembersHaveText ms ↔ ∀ m ∈ ms, HasText m.2 := by
  induction ms with
  | nil => simp [MembersHaveText]
  | cons m ms ih => simp [MembersHaveText, ih]

theorem list?_map {α : Type} {read : Json → Option α} {toJson : α → Json}
    (h : ∀ a, read (toJson a) = some a) (as : List α) :
    list? read (array (as.map toJson)) = some as := by
  induction as with
  | nil => rfl
  | cons a as ih =>
    have hitems : (as.map toJson).mapM read = some as := ih
    simp [list?, List.mapM_cons, h, hitems]

theorem optional_map {α : Type} (read : Json → Option α) (write : α → Json) {v : Option α}
    (hnull : read null = none) (h : ∀ a, v = some a → read (write a) = some a) :
    optional read (v.map write) = some v := by
  cases v with
  | none => rfl
  | some a =>
    have hread := h a rfl
    cases hw : write a with
    | null => simp [hw, hnull] at hread
    | _ => simpa [optional, hw] using hread

section
variable {ms ns : List (String × Json)} (h : ms.Perm ns)
include h

theorem field?_perm (name : String) : field? ms name = field? ns name := by
  have hfilter := h.filter (·.1 == name)
  unfold field?
  generalize ms.filter (·.1 == name) = as at hfilter ⊢
  generalize ns.filter (·.1 == name) = bs at hfilter ⊢
  rcases as with _ | ⟨a, _ | ⟨a', as⟩⟩
  · rw [← hfilter.nil_eq]
  · rw [List.singleton_perm.1 hfilter]
  · rcases bs with _ | ⟨b, _ | ⟨b', bs⟩⟩
    · simp at hfilter
    · simp at hfilter
    · rfl

theorem fields?_perm (names : List String) :
    fields? names (object ms) = fields? names (object ns) := by
  have hfield : field? ms = field? ns := funext (field?_perm h)
  simp only [fields?, hfield]

end

mutual
/-- The same value, whatever order its objects list their members in. -/
inductive Same : Json → Json → Prop
  | refl (v : Json) : Same v v
  | array {vs ws : List Json} (h : AllSame vs ws) : Same (array vs) (array ws)
  | object {ms ns os : List (String × Json)} (h : MembersSame ms ns) (hperm : ns.Perm os) :
    Same (object ms) (object os)

inductive AllSame : List Json → List Json → Prop
  | nil : AllSame [] []
  | cons {v w : Json} {vs ws : List Json} (h : Same v w) (hs : AllSame vs ws) :
    AllSame (v :: vs) (w :: ws)

inductive MembersSame : List (String × Json) → List (String × Json) → Prop
  | nil : MembersSame [] []
  | cons {k : String} {v w : Json} {ms ns : List (String × Json)} (h : Same v w)
    (hs : MembersSame ms ns) : MembersSame ((k, v) :: ms) ((k, w) :: ns)
end

mutual
def HasNoObject : Json → Prop
  | array items => AllHaveNoObject items
  | object _ => False
  | _ => True

def AllHaveNoObject : List Json → Prop
  | [] => True
  | v :: vs => HasNoObject v ∧ AllHaveNoObject vs
end

mutual
theorem Same.eq : ∀ {v w : Json}, Same v w → HasNoObject v → v = w
  | _, _, .refl _, _ => rfl
  | _, _, .array h, hv => congrArg Json.array (h.eq hv)
  | _, _, .object _ _, hv => hv.elim

theorem AllSame.eq : ∀ {vs ws : List Json}, AllSame vs ws → AllHaveNoObject vs → vs = ws
  | _, _, .nil, _ => rfl
  | _, _, .cons h hs, hv => congrArg₂ List.cons (h.eq hv.1) (hs.eq hv.2)
end

theorem allHaveNoObject_map {α : Type} (toJson : α → Json) (h : ∀ a, HasNoObject (toJson a))
    (as : List α) : AllHaveNoObject (as.map toJson) := by
  induction as with
  | nil => trivial
  | cons a as ih => exact ⟨h a, ih⟩

theorem AllSame.refl : ∀ vs : List Json, AllSame vs vs
  | [] => .nil
  | v :: vs => .cons (.refl v) (AllSame.refl vs)

theorem MembersSame.eq {ms ns : List (String × Json)} (h : MembersSame ms ns)
    (hms : ∀ m ∈ ms, HasNoObject m.2) : ms = ns := by
  induction ms generalizing ns with
  | nil => cases h; rfl
  | cons m ms ih =>
    cases h with
    | cons h hs =>
      have hv := h.eq (hms _ List.mem_cons_self)
      have hrest := ih hs fun n hn => hms n (List.mem_cons_of_mem _ hn)
      rw [hv, hrest]

theorem Same.of_array {vs : List Json} {w : Json} (h : Same (Json.array vs) w) :
    ∃ ws, w = Json.array ws ∧ AllSame vs ws := by
  cases h with
  | refl => exact ⟨vs, rfl, .refl vs⟩
  | array h => exact ⟨_, rfl, h⟩

theorem Same.of_object {ms : List (String × Json)} {w : Json} (h : Same (Json.object ms) w)
    (hms : ∀ m ∈ ms, HasNoObject m.2) : ∃ os, w = Json.object os ∧ ms.Perm os := by
  cases h with
  | refl => exact ⟨ms, rfl, .refl ms⟩
  | object h hperm =>
    obtain rfl := h.eq hms
    exact ⟨_, rfl, hperm⟩

theorem AllSame.mapM {α : Type} {read : Json → Option α} {toJson : α → Json} {as : List α}
    (hread : ∀ a ∈ as, ∀ w, Same (toJson a) w → read w = some a) {ws : List Json}
    (h : AllSame (as.map toJson) ws) : ws.mapM read = some as := by
  induction as generalizing ws with
  | nil => cases h; rfl
  | cons a as ih =>
    cases h with
    | cons h hs =>
      have hfirst := hread a List.mem_cons_self _ h
      have hrest := ih (fun b hb => hread b (List.mem_cons_of_mem a hb)) hs
      simp [List.mapM_cons, hfirst, hrest]

end StatusLine.Json
