import StatusLine.Git.Repository
import StatusLine.Proofs.Steps
import StatusLine.Render

/-!
# The branch and the commit of HEAD

A template can show a branch and a commit, and the two answers come about differently. The branch is
the name that `HEAD` holds, whether there is such a reference or not. The commit is searched for:
`HEAD` is only the first of the names that may be meant. The two belong together as long as there is
such a branch. Before its first commit the commit shown is that of another reference whose name ends
in `HEAD`, if there is one.
-/
namespace StatusLine.Git

namespace RefName

def ofBranch (branch : String) : String := "refs/heads/" ++ branch

def IsName (name : String) : Prop := isValid name = true ∧ fits name = true

instance (name : String) : Decidable (IsName name) := by unfold IsName; infer_instance

theorem branch?_eq_some {name branch : String} :
    branch? name = some branch ↔ name = ofBranch branch := by
  have hstart : (ofBranch branch).toList = branchStart ++ branch.toList := String.toList_append
  unfold branch?
  constructor
  · intro h
    split at h
    case isTrue hp =>
      obtain ⟨rest, hrest⟩ := List.isPrefixOf_iff_prefix.1 hp
      rw [← hrest, List.drop_left, Option.some.injEq] at h
      rw [← String.toList_inj, hstart, ← h, String.toList_ofList, hrest]
    case isFalse => simp at h
  · intro h
    rw [h, hstart, if_pos (by simp), List.drop_left, String.ofList_toList]

end RefName

namespace Repository
variable {r : Repository}

/-- Steps to spare change an answer only if it is that the way is too long. -/
theorem follow_succ {n : Nat} {t : Target} (h : ∀ why, r.follow n t ≠ .failed why) :
    r.follow (n + 1) t = r.follow n t := by
  induction n generalizing t with
  | zero =>
    cases t with
    | direct id => rfl
    | symbolic name => exact absurd rfl (h .notFound)
  | succ n ih =>
    cases t with
    | direct id => rfl
    | symbolic name =>
      rw [follow]
      rw [follow] at h ⊢
      cases hl : r.lookup name with
      | missing => rfl
      | broken => rfl
      | damaged => rfl
      | found t' =>
        simp only [hl] at h ⊢
        exact ih h

theorem lookup_head {b : String} (h : r.branch headReference = .ok (some b)) :
    r.lookup headReference = .found (.symbolic (RefName.ofBranch b)) := by
  have hname : (RefName.normalize? headReference).filter RefName.fits = some headReference := by
    decide
  have hhead : RefName.branch? headReference = none := by decide
  rw [branch, hname] at h
  simp only [orNotFound, ok_bind] at h
  split at h
  case h_1 target hl =>
    rw [hl, RefName.branch?_eq_some.1 (Except.ok.inj h)]
  case h_2 => simp [hhead] at h
  all_goals simp at h

theorem resolve_head {b : String} (h : r.branch headReference = .ok (some b)) :
    r.resolve headReference = r.follow maxSteps (.symbolic (RefName.ofBranch b)) := by
  rw [resolve, if_pos (by decide), follow, lookup_head h]

theorem resolve_ofBranch {b : String} (h : r.branch headReference = .ok (some b))
    (hname : RefName.IsName (RefName.ofBranch b))
    (hend : ∀ why, r.resolve headReference ≠ .failed why) :
    r.resolve (RefName.ofBranch b) = r.resolve headReference := by
  rw [resolve_head h] at hend ⊢
  rw [resolve, if_pos hname.2, follow_succ hend]

theorem exists_resolve_of_search {names : List String} {last : End} {id : String}
    (hlast : last ≠ .object id) (h : r.search last names = .object id) :
    ∃ name ∈ names, r.resolve name = .object id := by
  induction names generalizing last with
  | nil => exact absurd h hlast
  | cons name names ih =>
    rw [search] at h
    split at h
    · split at h
      · obtain ⟨other, hmem, hother⟩ := ih (by simp) h
        exact ⟨other, List.mem_cons_of_mem name hmem, hother⟩
      · exact ⟨name, List.mem_cons_self, h⟩
    · obtain ⟨other, hmem, hother⟩ := ih (by simp) h
      exact ⟨other, List.mem_cons_of_mem name hmem, hother⟩

theorem search_of_resolve {name : String} {names : List String} {last : End} {id : String}
    (hvalid : RefName.isValid name = true) (h : r.resolve name = .object id) :
    r.search last (name :: names) = .object id := by
  rw [search, if_pos hvalid, h]

theorem object_headReference {id : String} (h : r.object headReference = .ok id) :
    r.search .missing (RefName.candidates headReference) = .object id := by
  have hdigits : Abbreviation.ofName? headReference = none := by decide
  have hid : Target.id? headReference.toList = none := by decide
  simp only [object, fullId?, hid] at h
  split at h
  case h_1 id' hsearch => rw [hsearch, Except.ok.inj h]
  case h_2 => simp [abbreviated?, hdigits, orNotFound] at h
  case h_3 => simp at h

theorem object_ofBranch {b id : String} (hname : RefName.IsName (RefName.ofBranch b))
    (h : r.resolve (RefName.ofBranch b) = .object id) :
    r.object (RefName.ofBranch b) = .ok id := by
  have hid : Target.id? (RefName.ofBranch b).toList = none := by
    have hstart : (RefName.ofBranch b).toList = 'r' :: ("efs/heads/".toList ++ b.toList) :=
      String.toList_append
    rw [hstart, Target.id?, if_neg]
    intro hall
    simp [Target.idLength, Target.isHex] at hall
  have hsearch : r.search .missing (RefName.candidates (RefName.ofBranch b)) = .object id :=
    search_of_resolve hname.1 h
  simp only [object, fullId?, hid, hsearch]

theorem commit_eq_ok {name c : String} :
    r.commit name = .ok c ↔
      ∃ id, r.object name = .ok id ∧ r.peel (r.objects.length + 1) id = some c := by
  rw [commit, bind_eq_ok]
  refine exists_congr fun id => and_congr_right fun _ => ?_
  cases r.peel (r.objects.length + 1) id <;> simp [orNotFound]

theorem commitHash_eq_ok {name c : String} :
    r.versionControl.commitHash name = .ok c ↔ r.commit name = .ok c := mapError_eq_ok

theorem branchName_eq_ok {name : String} {b : Option String} :
    r.versionControl.branchName name = .ok b ↔ r.branch name = .ok b := mapError_eq_ok

/-- A branch and a commit of `HEAD` belong together as long as there is such a branch. Where `HEAD`
leads nowhere, the commit is the one of another name that may be meant by `HEAD`. -/
theorem commit_of_shown_branch {b c : String}
    (hb : r.versionControl.branchName headReference = .ok (some b))
    (hc : r.versionControl.commitHash headReference = .ok c) :
    (RefName.IsName (RefName.ofBranch b) →
      r.resolve (RefName.ofBranch b) = r.resolve headReference ∧
        (r.resolve (RefName.ofBranch b) ≠ .missing →
          r.versionControl.commitHash (RefName.ofBranch b) = .ok c)) ∧
    (r.resolve headReference = .missing →
      ∃ other ∈ (RefName.candidates headReference).tail, ∃ id,
        r.resolve other = .object id ∧ r.peel (r.objects.length + 1) id = some c) := by
  rw [branchName_eq_ok] at hb
  rw [commitHash_eq_ok, commit_eq_ok] at hc
  obtain ⟨id, hid, hpeel⟩ := hc
  have hsearch := object_headReference hid
  have hvalid : RefName.isValid headReference = true := by decide
  rw [RefName.candidates, search, if_pos hvalid] at hsearch
  have hend : ∀ why, r.resolve headReference ≠ .failed why := by
    intro why hwhy
    simp [hwhy] at hsearch
  constructor
  · intro hname
    have hsame := resolve_ofBranch hb hname hend
    refine ⟨hsame, fun hborn => ?_⟩
    cases hr : r.resolve headReference with
    | missing => exact absurd (hsame.trans hr) hborn
    | failed why => exact absurd hr (hend why)
    | object id' =>
      obtain rfl : id' = id := by simpa [hr] using hsearch
      have hobject := object_ofBranch hname (hsame.trans hr)
      exact commitHash_eq_ok.2 (commit_eq_ok.2 ⟨id', hobject, hpeel⟩)
  · intro hunborn
    rw [hunborn] at hsearch
    obtain ⟨other, hmem, hother⟩ := exists_resolve_of_search (by simp) hsearch
    exact ⟨other, hmem, id, hother, hpeel⟩

theorem commit_of_shown_alias :
    let r : Repository :=
      { files := ((FileTree.empty.put ["HEAD"] (.file "ref: refs/heads/alias\n")).put
            ["refs", "heads", "alias"] (.file "ref: refs/heads/main\n")).put
            ["packed-refs"] (.file "8acfb679ccb12a45230c7b8be3e5390d87e9be2f refs/heads/main\n")
        place := []
        objects := [("8acfb679ccb12a45230c7b8be3e5390d87e9be2f",
            .tag "aea212ab9159c22dcdde204faf55dcf7c43647e5"),
          ("aea212ab9159c22dcdde204faf55dcf7c43647e5", .commit)] }
    (RefName.IsName (RefName.ofBranch "alias") ∧
      r.versionControl.branchName headReference = .ok (some "alias") ∧
      r.versionControl.commitHash headReference =
        .ok "aea212ab9159c22dcdde204faf55dcf7c43647e5") ∧
    r.versionControl.commitHash (RefName.ofBranch "alias") =
      .ok "aea212ab9159c22dcdde204faf55dcf7c43647e5" := by
  intro r
  have hname : RefName.IsName (RefName.ofBranch "alias") := by decide
  have hb : r.versionControl.branchName headReference = .ok (some "alias") := by decide +kernel
  have hc : r.versionControl.commitHash headReference =
      .ok "aea212ab9159c22dcdde204faf55dcf7c43647e5" := by decide +kernel
  have hborn : r.resolve (RefName.ofBranch "alias") ≠ .missing := by decide +kernel
  exact ⟨⟨hname, hb, hc⟩, ((commit_of_shown_branch hb hc).1 hname).2 hborn⟩

/-- Before the first commit of `main`, a branch named `HEAD` lends its commit. -/
theorem commit_of_unborn_branch :
    let r : Repository :=
      { files := (FileTree.empty.put ["HEAD"] (.file "ref: refs/heads/main\n")).put
            ["refs", "heads", "HEAD"] (.file "aea212ab9159c22dcdde204faf55dcf7c43647e5\n")
        place := []
        objects := [("aea212ab9159c22dcdde204faf55dcf7c43647e5", .commit)] }
    r.versionControl.branchName headReference = .ok (some "main") ∧
    r.versionControl.commitHash headReference =
      .ok "aea212ab9159c22dcdde204faf55dcf7c43647e5" ∧
    r.versionControl.commitHash (RefName.ofBranch "main") =
      .error (.commitUnresolved "refs/heads/main" .notFound) := by
  decide +kernel

end Repository
end StatusLine.Git
