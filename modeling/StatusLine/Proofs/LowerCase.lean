import StatusLine.Words.Casing

/-!
# Lower case

A text in lower case stays as it is when it is put in lower case again. For single characters this
is a fact about pairs of runs in the table: what one run moves, no run covers. A sigma comes to one
of the two small ones, and these stay, whatever is around them.
-/
namespace StatusLine
namespace Unicode
namespace Run
variable {r a b : Run} {n : Nat}

theorem covers_iff : r.covers n = true ↔ r.first ≤ n ∧ n ≤ r.last ∧ r.step ∣ n - r.first := by
  simp [covers, and_assoc, Nat.dvd_iff_mod_eq_zero]

theorem mod_eq_of_covers (h : r.covers n = true) {k : Nat} (hk : k ∣ r.step) :
    n % k = r.first % k := by
  obtain ⟨hfirst, -, hstep⟩ := covers_iff.1 h
  obtain ⟨m, hm⟩ := Nat.dvd_trans hk hstep
  rw [show n = r.first + k * m by omega, Nat.add_mul_mod_self_left]

def image (r : Run) : Run where
  first := (r.first + r.distance).toNat
  last := (r.last + r.distance).toNat
  step := r.step
  distance := -r.distance

def Lands (r : Run) : Prop :=
  0 ≤ r.first + r.distance ∧ (r.last + r.distance < 0xD800 ∨
    0xDFFF < r.first + r.distance ∧ r.last + r.distance < 0x110000)

instance (r : Run) : Decidable r.Lands := by unfold Lands; infer_instance

theorem Lands.image_covers (h : r.Lands) {c : Char} (hc : r.covers c.toNat = true) :
    r.image.covers (Char.ofNat (c.toNat + r.distance).toNat).toNat = true := by
  obtain ⟨hfirst, hlast, hstep⟩ := covers_iff.1 hc
  obtain ⟨hpos, hrange⟩ := h
  have hvalid : (c.toNat + r.distance).toNat.isValidChar := by
    unfold Nat.isValidChar
    omega
  have hnat : (Char.ofNat (c.toNat + r.distance).toNat).toNat = (c.toNat + r.distance).toNat := by
    rw [Char.ofNat, dif_pos hvalid]
    rfl
  rw [hnat, covers_iff]
  simp only [image]
  rw [show (c.toNat + r.distance).toNat - (r.first + r.distance).toNat = c.toNat - r.first by omega]
  exact ⟨by omega, by omega, hstep⟩

/-- Two runs are apart when one is out of the other's reach or between its steps. The test is on
numbers alone, since it is made for all pairs of the table. -/
def apart (a b : Run) : Bool :=
  Nat.blt b.last a.first || Nat.blt a.last b.first ||
    (Nat.beq a.first a.last || Nat.beq (a.step % b.step) 0) &&
      !Nat.beq (a.first % b.step) (b.first % b.step)

theorem covers_eq_false_of_apart (h : a.apart b = true) (ha : a.covers n = true) :
    b.covers n = false := by
  obtain ⟨hfirst, hlast, -⟩ := covers_iff.1 ha
  rw [Bool.eq_false_iff]
  intro hb
  obtain ⟨hfirst', hlast', -⟩ := covers_iff.1 hb
  have hphase := mod_eq_of_covers hb (Nat.dvd_refl _)
  simp only [apart, Bool.or_eq_true, Bool.and_eq_true, Nat.blt_eq, Nat.beq_eq, Bool.not_eq_true',
    Bool.eq_false_iff, ne_eq] at h
  rcases h with (hright | hleft) | ⟨hsingle | hmultiple, hbetween⟩
  · omega
  · omega
  · obtain rfl : n = a.first := by omega
    exact hbetween hphase
  · rw [mod_eq_of_covers ha (Nat.dvd_of_mod_eq_zero hmultiple)] at hphase
    exact hbetween hphase

end Run

/-! ## One character -/

theorem lower_eq_self {c : Char} (hspecials : lowerSpecials.lookup c.toNat = none)
    (hruns : ∀ r ∈ lowerRuns, r.covers c.toNat = false) : lower c = [c] := by
  rw [lower, mapCase, hspecials]
  exact congrArg (fun d => [d]) (Run.move_eq_self hruns)

theorem lower_eq_self_of_image_covers {r : Run} (hr : r ∈ lowerRuns) {c : Char}
    (hc : r.image.covers c.toNat = true) : lower c = [c] := by
  have hapart : lowerRuns.all (fun a => lowerRuns.all fun b => a.image.apart b) = true := by
    decide +kernel
  have hspecials : lowerRuns.all (fun a => lowerSpecials.all fun s =>
    a.image.apart ⟨s.1, s.1, 1, 0⟩) = true := by decide +kernel
  simp only [List.all_eq_true] at hapart hspecials
  refine lower_eq_self (List.lookup_eq_none_iff.2 fun s hs => ?_) fun b hb =>
    Run.covers_eq_false_of_apart (hapart r hr b hb) hc
  have hnot := Run.covers_eq_false_of_apart (hspecials r hr s hs) hc
  rw [bne_iff_ne]
  intro heq
  simp [Run.covers, heq] at hnot

theorem lower_of_mem_lower {c d : Char} (h : d ∈ lower c) : lower d = [d] := by
  have hlands : ∀ r ∈ lowerRuns, r.Lands := by decide +kernel
  have himages : ∀ s ∈ lowerSpecials, ∀ n ∈ s.2, lower (Char.ofNat n) = [Char.ofNat n] := by
    decide +kernel
  unfold lower mapCase at h
  split at h
  case h_1 ns hlookup =>
    obtain ⟨n, hn, rfl⟩ := List.mem_map.1 h
    obtain ⟨before, after, hsplit, -⟩ := List.lookup_eq_some_iff.1 hlookup
    exact himages (c.toNat, ns) (by simp [hsplit]) n hn
  case h_2 hlookup =>
    obtain rfl := List.mem_singleton.1 h
    unfold Run.move
    split
    case h_1 r hfind =>
      have hr := List.mem_of_find?_eq_some hfind
      have hc : r.covers c.toNat = true := by simpa using List.find?_some hfind
      exact lower_eq_self_of_image_covers hr ((hlands r hr).image_covers hc)
    case h_2 hfind => exact lower_eq_self hlookup (by simpa using hfind)

theorem lower_ne_nil (c : Char) : lower c ≠ [] := by
  have hspecials : ∀ s ∈ lowerSpecials, s.2 ≠ [] := by decide
  unfold lower mapCase
  split
  case h_1 cs hlookup =>
    obtain ⟨_, _, hsplit, -⟩ := List.lookup_eq_some_iff.1 hlookup
    simpa using hspecials (c.toNat, cs) (by simp [hsplit])
  case h_2 => exact List.cons_ne_nil _ _

/-! ## Texts -/

theorem toLower_ne_nil {cs : List Char} (h : cs ≠ []) : toLower cs ≠ [] := by
  cases cs with
  | nil => exact absurd rfl h
  | cons c cs =>
    rw [toLower, lowerAfter]
    split
    · simp
    · simp [lower_ne_nil]

theorem lower_of_mem_lowerAfter {before cs : List Char} {d : Char} (h : d ∈ lowerAfter before cs) :
    lower d = [d] := by
  induction cs generalizing before with
  | nil => simp [lowerAfter] at h
  | cons c cs ih =>
    rw [lowerAfter, List.mem_append] at h
    rcases h with hhead | hrest
    · split at hhead
      · obtain rfl := List.mem_singleton.1 hhead
        split
        · decide
        · decide
      · exact lower_of_mem_lower hhead
    · exact ih hrest

theorem lowerAfter_eq_self {before cs : List Char} (h : ∀ c ∈ cs, lower c = [c]) :
    lowerAfter before cs = cs := by
  induction cs generalizing before with
  | nil => rfl
  | cons c cs ih =>
    obtain ⟨hc, hcs⟩ := List.forall_mem_cons.1 h
    have hsigma : c ≠ 'Σ' := by
      rintro rfl
      exact absurd hc (by decide)
    rw [lowerAfter, if_neg hsigma, hc, ih hcs]
    rfl

theorem toLower_toLower (cs : List Char) : toLower (toLower cs) = toLower cs :=
  lowerAfter_eq_self fun _ => lower_of_mem_lowerAfter

end Unicode

namespace Words
open Unicode

theorem recase_low (words : List (List Char)) : recase .low words = words.map toLower := by
  simp [recase, toLower_toLower]

end Words
end StatusLine
