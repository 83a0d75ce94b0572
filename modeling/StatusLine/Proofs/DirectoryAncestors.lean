import Mathlib.Data.List.DropRight
import Mathlib.Logic.Function.Iterate
import StatusLine.Proofs.Rendering

/-!
# Directories above a path

The directory above a path is found on the bytes: slashes and dots at the end are passed over, the
last name goes, and then the slashes and dots before it. Whatever the spelling, this takes away the
last component, so that as many steps up as there are levels lead to the component that many places
before the last one. At the root and at the empty path there is no step up; to stop there is the
same as to stay.
-/
namespace StatusLine

def Component.name? : Component → Option (List UInt8)
  | .name bytes => some bytes
  | _ => none

namespace DirectoryPath
open Pieces

/-! ## Paths as bytes -/

def startLength (path : List UInt8) : Nat :=
  if path.head? = some slash ∨ path = [dot] ∨ [dot, slash] <+: path then 1 else 0

def lastPiece (body : List UInt8) : List UInt8 := body.rtakeWhile (· != slash)

def beforeLast (body : List UInt8) : List UInt8 := (body.rdropWhile (· != slash)).dropLast

theorem beforeLast_prefix_body (body : List UInt8) : beforeLast body <+: body :=
  (List.dropLast_prefix _).trans (List.rdropWhile_prefix _ body)

theorem length_beforeLast_lt {body : List UInt8} (h : body ≠ []) :
    (beforeLast body).length < body.length := by
  have hle := (List.rdropWhile_prefix (· != slash) body).length_le
  have hpos := List.length_pos_of_ne_nil h
  rw [beforeLast, List.length_dropLast]
  omega

def trim (body : List UInt8) : List UInt8 :=
  if _h : body = [] then []
  else if (ofPiece false (lastPiece body)).isSome then body
  else trim (beforeLast body)
termination_by body.length
decreasing_by exact length_beforeLast_lt ‹_›

def parent? (path : List UInt8) : Option (List UInt8) :=
  let start := path.take (startLength path)
  let body := trim (path.drop (startLength path))
  if body ≠ [] then some (start ++ trim (beforeLast body))
  else if start = [dot] then some [] else none

def fileName? (path : List UInt8) : Option (List UInt8) :=
  match ofPiece false (lastPiece (trim (path.drop (startLength path)))) with
  | some (.name bytes) => some bytes
  | _ => none

/-- So many steps up, or as far as there are directories above. -/
def ancestor : Nat → List UInt8 → List UInt8
  | 0, path => path
  | n + 1, path =>
    match parent? path with
    | some above => ancestor n above
    | none => path

/-! ## Components of the body -/

def bodyComponents (body : List UInt8) : List Component :=
  (splitWhere (· == slash) body).filterMap (ofPiece false)

@[simp] theorem bodyComponents_nil : bodyComponents [] = [] := rfl

theorem eq_of_ofPiece {piece : List UInt8} {c : Component} (h : ofPiece false piece = some c) :
    c = .parent ∨ piece ≠ [] ∧ c = .name piece := by
  by_cases hempty : piece = []
  · simp [ofPiece, hempty] at h
  · by_cases hdot : piece = [dot]
    · simp [ofPiece, hdot] at h
    · by_cases hdots : piece = [dot, dot]
      · rw [hdots] at h
        exact Or.inl (Option.some.inj h).symm
      · simp only [ofPiece, List.isEmpty_iff, hempty, hdot, hdots, if_false, Option.some.injEq] at h
        exact Or.inr ⟨hempty, h.symm⟩

theorem eq_of_mem_bodyComponents {body : List UInt8} {c : Component} (h : c ∈ bodyComponents body) :
    c = .parent ∨ ∃ name, name ≠ [] ∧ c = .name name := by
  obtain ⟨piece, -, hpiece⟩ := List.mem_filterMap.1 h
  rcases eq_of_ofPiece hpiece with hup | ⟨hne, hname⟩
  · exact Or.inl hup
  · exact Or.inr ⟨piece, hne, hname⟩

theorem lastPiece_cases (body : List UInt8) :
    beforeLast body = [] ∧ lastPiece body = body ∨
      body = beforeLast body ++ slash :: lastPiece body := by
  have hbody := List.rdropWhile_append_rtakeWhile (l := body) (p := (· != slash))
  by_cases hnil : body.rdropWhile (· != slash) = []
  · rw [hnil, List.nil_append] at hbody
    exact Or.inl ⟨by rw [beforeLast, hnil, List.dropLast_nil], hbody⟩
  · have hslash : (body.rdropWhile (· != slash)).getLast hnil = slash := by
      simpa using List.rdropWhile_last_not (· != slash) body hnil
    have hconcat := List.dropLast_append_getLast hnil
    rw [hslash] at hconcat
    rw [← hconcat, List.append_assoc, List.singleton_append] at hbody
    exact Or.inr hbody.symm

theorem bodyComponents_eq (body : List UInt8) :
    bodyComponents body =
      bodyComponents (beforeLast body) ++ (ofPiece false (lastPiece body)).toList := by
  have hlast : splitWhere (· == slash) (lastPiece body) = [lastPiece body] :=
    splitWhere_of_forall fun b hb => by simpa using List.mem_rtakeWhile_imp hb
  have hsplit : bodyComponents body =
      bodyComponents (beforeLast body) ++ [lastPiece body].filterMap (ofPiece false) := by
    rcases lastPiece_cases body with ⟨hbefore, hpiece⟩ | hbody
    · rw [hpiece] at hlast
      rw [hbefore, hpiece, bodyComponents, hlast]
      rfl
    · have happend : splitWhere (· == slash) (beforeLast body ++ slash :: lastPiece body) =
          splitWhere (· == slash) (beforeLast body) ++ splitWhere (· == slash) (lastPiece body) :=
        splitWhere_append (s := slash) (by simp) _ _
      rw [← hbody, hlast] at happend
      rw [bodyComponents, happend, List.filterMap_append]
      rfl
  rw [hsplit]
  cases hpiece : ofPiece false (lastPiece body) <;> simp [hpiece]

theorem trim_prefix_body (body : List UInt8) : trim body <+: body := by
  fun_induction trim body with
  | case1 => exact List.prefix_rfl
  | case2 => exact List.prefix_rfl
  | case3 body _ _ ih => exact ih.trans (beforeLast_prefix_body body)

@[simp] theorem bodyComponents_trim (body : List UInt8) :
    bodyComponents (trim body) = bodyComponents body := by
  fun_induction trim body with
  | case1 => rfl
  | case2 => rfl
  | case3 body _ hpiece ih => simp_all [bodyComponents_eq body]

theorem bodyComponents_of_trim {body : List UInt8} (h : trim body = []) :
    bodyComponents body = [] := by
  rw [← bodyComponents_trim, h, bodyComponents_nil]

theorem isSome_of_trim (body : List UInt8) (h : trim body ≠ []) :
    (ofPiece false (lastPiece (trim body))).isSome := by
  fun_induction trim body with
  | case1 => exact absurd rfl h
  | case2 body _ hpiece => exact hpiece
  | case3 body _ _ ih => exact ih h

/-- What is left ends in a component, and the others are those before it. -/
theorem exists_last_component {body : List UInt8} (h : trim body ≠ []) :
    ∃ c, ofPiece false (lastPiece (trim body)) = some c ∧
      bodyComponents body = bodyComponents (trim (beforeLast (trim body))) ++ [c] := by
  obtain ⟨c, hc⟩ := Option.isSome_iff_exists.1 (isSome_of_trim body h)
  refine ⟨c, hc, ?_⟩
  rw [← bodyComponents_trim body, bodyComponents_eq (trim body), hc, bodyComponents_trim]
  rfl

theorem trim_ne_dot (body : List UInt8) : trim body ≠ [dot] := by
  intro h
  have hpiece := isSome_of_trim body (by simp [h])
  rw [h] at hpiece
  exact absurd hpiece (by decide)

/-! ## The start of a path -/

theorem startLength_eq_zero {path : List UInt8} : startLength path = 0 ↔
    path.head? ≠ some slash ∧ path ≠ [dot] ∧ ¬ [dot, slash] <+: path := by
  unfold startLength
  split
  case isTrue h => simp only [Nat.one_ne_zero, false_iff]; tauto
  case isFalse h => simp only [true_iff]; tauto

/-- A path is a start and a body: the root, a leading dot, or neither. -/
inductive Starts : List UInt8 → Option Component → List UInt8 → Prop
  | root (body : List UInt8) : Starts [slash] (some .root) body
  | current {body : List UInt8} (h : body = [] ∨ [slash] <+: body) :
    Starts [dot] (some .current) body
  | bare {body : List UInt8} (h : startLength body = 0) : Starts [] none body

theorem exists_starts (path : List UInt8) :
    ∃ start first body, path = start ++ body ∧ Starts start first body := by
  by_cases hbare : startLength path = 0
  · exact ⟨[], none, path, rfl, .bare hbare⟩
  · rw [startLength_eq_zero] at hbare
    by_cases hslash : path.head? = some slash
    · obtain ⟨body, rfl⟩ := List.head?_eq_some_iff.1 hslash
      exact ⟨_, _, body, rfl, .root body⟩
    · by_cases hdot : path = [dot]
      · exact ⟨_, _, [], hdot, .current (Or.inl rfl)⟩
      · obtain ⟨rest, rfl⟩ : [dot, slash] <+: path := by tauto
        exact ⟨_, _, slash :: rest, rfl, .current (Or.inr ⟨rest, rfl⟩)⟩

namespace Starts
variable {start body : List UInt8} {first : Option Component}

theorem length_eq (h : Starts start first body) : startLength (start ++ body) = start.length := by
  cases h with
  | root => simp [startLength]
  | current h =>
    rcases h with rfl | ⟨rest, rfl⟩
    · rfl
    · simp [startLength]
  | bare h => exact h

theorem ofPiece_first {path piece : List UInt8} {pieces : List (List UInt8)}
    (h : startLength path = 0) (hsplit : splitWhere (· == slash) path = piece :: pieces) :
    ofPiece true piece = ofPiece false piece := by
  obtain ⟨-, hdot, hstart⟩ := startLength_eq_zero.1 h
  have hne : piece ≠ [dot] := by
    rintro rfl
    rcases eq_append_of_splitWhere hsplit with ⟨rfl, -⟩ | ⟨s, rest, hs, rfl, -⟩
    · exact hdot rfl
    · obtain rfl : s = slash := by simpa using hs
      exact hstart ⟨rest, rfl⟩
  unfold ofPiece
  simp only [hne, if_false]

theorem components_eq (h : Starts start first body) :
    components (start ++ body) = first.toList ++ bodyComponents body := by
  cases h with
  | root => simp [components, splitWhere, bodyComponents]
  | current h =>
    rcases h with rfl | ⟨rest, rfl⟩
    · rfl
    · have hdot : splitWhere (· == slash) ([dot] ++ ([slash] ++ rest)) =
          [dot] :: splitWhere (· == slash) rest :=
        splitWhere_append (s := slash) (by simp) [dot] rest
      have hbody : splitWhere (· == slash) ([slash] ++ rest) =
          [] :: splitWhere (· == slash) rest := splitWhere_append (s := slash) (by simp) [] rest
      rw [components, bodyComponents, hdot, hbody]
      rfl
  | bare h =>
    have hslash := (startLength_eq_zero.1 h).1
    cases hsplit : splitWhere (· == slash) body with
    | nil => exact absurd hsplit (splitWhere_ne_nil _ body)
    | cons piece pieces =>
      rw [List.nil_append, components, bodyComponents, hsplit]
      simp only [hslash, if_false, ofPiece_first h hsplit]
      cases hpiece : ofPiece false piece <;> simp [hpiece]

theorem mono (h : Starts start first body) {body' : List UInt8} (hpre : body' <+: body)
    (hdot : body' ≠ [dot]) : Starts start first body' := by
  have hhead : ∀ b, body'.head? = some b → body.head? = some b := by
    intro b hb
    obtain ⟨rest, rfl⟩ := List.head?_eq_some_iff.1 hb
    obtain ⟨more, rfl⟩ := hpre
    rfl
  cases h with
  | root => exact .root body'
  | current h =>
    refine .current ?_
    rcases h with rfl | ⟨rest, rfl⟩
    · exact Or.inl (List.prefix_nil.1 hpre)
    · cases body' with
      | nil => exact Or.inl rfl
      | cons b body' =>
        obtain rfl : slash = b := by simpa using hhead b rfl
        exact Or.inr ⟨body', rfl⟩
  | bare h =>
    obtain ⟨hslash, -, hstart⟩ := startLength_eq_zero.1 h
    refine .bare (startLength_eq_zero.2 ⟨fun hb => hslash (hhead slash hb), hdot, ?_⟩)
    exact fun hdots => hstart (hdots.trans hpre)

end Starts

/-! ## One step up -/

/-- One step up takes away the last component, and there is one unless it is the root. -/
theorem map_components_parent? (path : List UInt8) :
    (parent? path).map (fun above => (components above).reverse) =
      up? (components path).reverse := by
  obtain ⟨start, first, body, rfl, h⟩ := exists_starts path
  rw [h.components_eq, parent?, h.length_eq, List.take_left, List.drop_left]
  by_cases htrim : trim body = []
  · have hbody : bodyComponents body = [] := bodyComponents_of_trim htrim
    rw [hbody]
    simp only [htrim, ne_eq, not_true_eq_false, if_false]
    cases h <;> rfl
  · obtain ⟨c, hc, hbody⟩ := exists_last_component htrim
    have hpre : trim (beforeLast (trim body)) <+: body :=
      (trim_prefix_body _).trans ((beforeLast_prefix_body _).trans (trim_prefix_body body))
    have habove := (h.mono hpre (trim_ne_dot _)).components_eq
    have hroot : c ≠ .root := ne_root_of_ofPiece hc
    rw [if_pos htrim, Option.map_some, habove, hbody, ← List.append_assoc, List.reverse_concat]
    cases c with
    | root => exact absurd rfl hroot
    | current | parent | name => rfl

theorem fileName?_eq_some {path bytes : List UInt8} :
    fileName? path = some bytes ↔ (components path).getLast? = some (.name bytes) := by
  obtain ⟨start, first, body, rfl, h⟩ := exists_starts path
  rw [h.components_eq, fileName?, h.length_eq, List.drop_left]
  by_cases htrim : trim body = []
  · have hbody : bodyComponents body = [] := bodyComponents_of_trim htrim
    rw [hbody, htrim]
    cases h <;> simp [lastPiece, ofPiece]
  · obtain ⟨c, hc, hbody⟩ := exists_last_component htrim
    rw [hbody, ← List.append_assoc, List.getLast?_concat, hc]
    cases c <;> simp

/-! ## Many steps up -/

theorem reverse_components_ancestor (levels : Nat) (path : List UInt8) :
    (components (ancestor levels path)).reverse = climb levels (components path).reverse := by
  induction levels generalizing path with
  | zero => rfl
  | succ levels ih =>
    have hup := map_components_parent? path
    rw [ancestor, climb, ← hup]
    cases parent? path with
    | none => rfl
    | some above => exact ih above

theorem fileName?_ancestor (levels : Nat) (path : List UInt8) :
    fileName? (ancestor levels path) = nameAbove? levels path := by
  refine Option.ext fun bytes => ?_
  rw [fileName?_eq_some, nameAbove?_eq_some_head?, ← reverse_components_ancestor,
    List.head?_reverse]

def up (path : List UInt8) : List UInt8 := (parent? path).getD path

theorem ancestor_eq_iterate (levels : Nat) (path : List UInt8) :
    ancestor levels path = up^[levels] path := by
  induction levels generalizing path with
  | zero => rfl
  | succ levels ih =>
    rw [ancestor, Function.iterate_succ_apply]
    cases hparent : parent? path with
    | none =>
      have hstay : up path = path := by rw [up, hparent, Option.getD_none]
      rw [hstay, Function.iterate_fixed hstay]
    | some above =>
      have hup : up path = above := by rw [up, hparent, Option.getD_some]
      rw [hup]
      exact ih above

theorem ancestor_add (levels more : Nat) (path : List UInt8) :
    ancestor (levels + more) path = ancestor more (ancestor levels path) := by
  simp only [ancestor_eq_iterate, Nat.add_comm levels, Function.iterate_add_apply]

/-! ## Names -/

/-- The component so many places before the last one is a name. -/
def IsNameAbove (levels : Nat) (path name : List UInt8) : Prop :=
  ∃ h : levels < (components path).length,
    (components path)[(components path).length - 1 - levels] = .name name

theorem nameAbove?_eq_some_iff {levels : Nat} {path name : List UInt8} :
    nameAbove? levels path = some name ↔ IsNameAbove levels path name := by
  rw [nameAbove?_eq_some, List.getElem?_eq_some_iff]
  simp only [IsNameAbove, List.length_reverse, List.getElem_reverse]

def names (path : List UInt8) : List (List UInt8) := (components path).filterMap Component.name?

theorem components_absolute {path : List UInt8} (habsolute : path.head? = some slash)
    (hparent : .parent ∉ components path) : components path = .root :: (names path).map .name := by
  obtain ⟨body, rfl⟩ := List.head?_eq_some_iff.1 habsolute
  have hcomponents : components (slash :: body) = .root :: bodyComponents body :=
    (Starts.root body).components_eq
  have hnames : (bodyComponents body).filterMap (Option.map Component.name ∘ Component.name?) =
      (bodyComponents body).filterMap some := by
    refine List.filterMap_congr fun c hc => ?_
    rcases eq_of_mem_bodyComponents hc with rfl | ⟨name, -, rfl⟩
    · rw [hcomponents] at hparent
      exact absurd (List.mem_cons_of_mem _ hc) hparent
    · rfl
  rw [names, hcomponents, List.filterMap_cons_none rfl, List.map_filterMap]
  exact congrArg _ (hnames.trans List.filterMap_some).symm

theorem nameAbove?_eq_none_iff {path : List UInt8} (habsolute : path.head? = some slash)
    (hparent : .parent ∉ components path) (levels : Nat) :
    nameAbove? levels path = none ↔ (names path).length ≤ levels := by
  have hreverse : (components path).reverse = (names path).reverse.map .name ++ [.root] := by
    rw [components_absolute habsolute hparent, List.reverse_cons, List.map_reverse]
  by_cases hlt : levels < (names path).length
  · have hname : nameAbove? levels path = (names path).reverse[levels]? := by
      rw [List.getElem?_eq_getElem (by simpa using hlt), nameAbove?_eq_some, hreverse,
        List.getElem?_append_left (by simpa using hlt)]
      simp [hlt]
    rw [hname, List.getElem?_eq_none_iff, List.length_reverse]
  · have hnone : nameAbove? levels path = none := by
      refine Option.eq_none_iff_forall_ne_some.2 fun name hname => ?_
      rw [nameAbove?_eq_some, hreverse, List.getElem?_append_right (by simpa using hlt)] at hname
      have hmem := List.mem_of_getElem? hname
      simp at hmem
    simp only [hnone, true_iff]
    omega

theorem ne_nil_of_isNameAbove {levels : Nat} {path name : List UInt8}
    (h : IsNameAbove levels path name) : name ≠ [] := by
  obtain ⟨hlevels, hname⟩ := h
  have hmem : .name name ∈ components path := hname ▸ List.getElem_mem _
  obtain ⟨start, first, body, rfl, hstarts⟩ := exists_starts path
  rw [hstarts.components_eq, List.mem_append] at hmem
  rcases hmem with hfirst | hbody
  · cases hstarts <;> simp at hfirst
  · rcases eq_of_mem_bodyComponents hbody with hup | ⟨name', hne, heq⟩
    · simp at hup
    · rwa [Component.name.inj heq]

end DirectoryPath

namespace Utf8

/-- A byte shows something, or it leaves a character open. -/
theorem step_shows_or_opens (p : Option Partial) (b : UInt8) :
    (step p b).1 ≠ [] ∨ (step p b).2.isSome = true := by
  have hopening : (opening b).1 ≠ [] ∨ (opening b).2.isSome = true := by
    unfold opening
    cases start b <;> simp
  cases p with
  | none => exact hopening
  | some p =>
    unfold step
    simp only
    split
    · split <;> simp
    · simp

theorem decodeFrom_ne_nil {p : Option Partial} {bytes : List UInt8}
    (h : p.isSome = true ∨ bytes ≠ []) : decodeFrom p bytes ≠ [] := by
  induction bytes generalizing p with
  | nil => simp_all [decodeFrom]
  | cons b bytes ih =>
    rw [decodeFrom]
    simp only
    rcases step_shows_or_opens p b with hshown | hopen
    · simp [hshown]
    · simp [ih (Or.inl hopen)]

theorem decode_ne_empty {bytes : List UInt8} (h : bytes ≠ []) : decode bytes ≠ "" := by
  intro hempty
  have hnil := congrArg String.toList hempty
  rw [decode, String.toList_ofList] at hnil
  exact decodeFrom_ne_nil (Or.inr h) hnil

end Utf8

namespace DirectoryName
open DirectoryPath

theorem render_of_directory {env : Environment} {d : DirectoryName} {path : List UInt8}
    (hpath : env.directory = .ok path) {levels : Nat} (hlevels : d.levels = levels)
    (hsafe : levels ≤ Bounds.safeMax) :
    d.render env = match nameAbove? levels path with
      | some name => .ok (d.restyle (Utf8.decode name))
      | none => .error (.directoryUnresolved levels (display path)) := by
  have hindex : Bounds.IsSafeIndex (levels : Int) :=
    ⟨Int.natCast_nonneg levels, Int.ofNat_le.2 hsafe⟩
  rw [render, hlevels, hpath, if_neg (not_not_intro hindex)]
  rfl

/-- A directory name is the component that many places before the last one, when that is a name;
else it fails, and the failure is internal. The steps up are made on the path as it is spelled, and
to stop where there is nothing above is to stay. So the spelling does not matter, steps add up, and
below the root, where nothing leads up again, there are as many levels as there are names. -/
theorem render_names_component (path : List UInt8) {levels : Nat}
    (hsafe : levels ≤ Bounds.safeMax) :
    (∀ (env : Environment) (d : DirectoryName), env.directory = .ok path → d.levels = levels →
      (∀ out, d.render env = .ok out ↔ ∃ name, IsNameAbove levels path name ∧
        Utf8.decode name ≠ "" ∧ out = d.restyle (Utf8.decode name)) ∧
      (∀ f, d.render env = .error f ↔ (¬ ∃ name, IsNameAbove levels path name) ∧
        f = .directoryUnresolved levels (display path)) ∧
      ∀ f, d.render env = .error f →
        f.report.scope = .internal ∧ f.report.code = some .invalidDynamicValue) ∧
    (∀ name, fileName? (ancestor levels path) = some name ↔ IsNameAbove levels path name) ∧
    ancestor levels path = up^[levels] path ∧
    (∀ path', components path' = components path →
      fileName? (ancestor levels path') = fileName? (ancestor levels path)) ∧
    (∀ more, fileName? (ancestor (levels + more) path) =
      fileName? (ancestor more (ancestor levels path))) ∧
    (path.head? = some slash → .parent ∉ components path →
      (fileName? (ancestor levels path) = none ↔ (names path).length ≤ levels)) := by
  refine ⟨fun env d hpath hlevels => ?_, fun name => ?_, ancestor_eq_iterate levels path, ?_,
    fun more => by rw [ancestor_add], fun habsolute hparent => ?_⟩
  · simp only [render_of_directory hpath hlevels hsafe, ← nameAbove?_eq_some_iff]
    cases hname : nameAbove? levels path with
    | none =>
      refine ⟨fun out => by simp, fun f => by simp [eq_comm], fun f h => ?_⟩
      obtain rfl := Except.error.inj h
      exact ⟨rfl, rfl⟩
    | some name =>
      have hshown : Utf8.decode name ≠ "" :=
        Utf8.decode_ne_empty (ne_nil_of_isNameAbove (nameAbove?_eq_some_iff.1 hname))
      refine ⟨fun out => ⟨fun h => ?_, fun h => ?_⟩, fun f => by simp, fun f h => by simp at h⟩
      · exact ⟨name, rfl, hshown, (Except.ok.inj h).symm⟩
      · obtain ⟨name', hname', -, rfl⟩ := h
        rw [Option.some.inj hname']
  · rw [fileName?_ancestor, nameAbove?_eq_some_iff]
  · intro path' hcomponents
    simp only [fileName?_ancestor, nameAbove?, hcomponents]
  · rw [fileName?_ancestor, nameAbove?_eq_none_iff habsolute hparent]

/-- Two levels above `/srv//./data/../work/`, whose last names are `data`, a step up, and `work`. -/
theorem render_names_component_data :
    2 ≤ Bounds.safeMax ∧
    DirectoryName.render ⟨.ok [0x2F, 0x73, 0x72, 0x76, 0x2F, 0x2F, 0x2E, 0x2F, 0x64, 0x61, 0x74,
        0x61, 0x2F, 0x2E, 0x2E, 0x2F, 0x77, 0x6F, 0x72, 0x6B, 0x2F], .fixed none none,
        .fixed ⟨0, 0, by decide⟩ 0⟩ ⟨some 2, none, none, none⟩ = .ok "data" := by
  have hsafe : 2 ≤ Bounds.safeMax := by decide
  refine ⟨hsafe, (((render_names_component _ hsafe).1 _ _ rfl rfl).1 _).2 ?_⟩
  exact ⟨[0x64, 0x61, 0x74, 0x61], ⟨by decide, by decide⟩, by decide, by decide +kernel⟩

end DirectoryName
end StatusLine
