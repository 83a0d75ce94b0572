import StatusLine.DirectoryPath
import StatusLine.Environment
import StatusLine.FileTree
import StatusLine.Git.Abbreviation
import StatusLine.Git.PackedRefs
import StatusLine.Git.RefName

/-!
# Repositories

What a repository says about references: the files around and in its directory, and the objects with
their kinds. A reference is the file under its name, or else an entry of the packed references. It
is an object identifier or names another reference; following stops after five steps. A tag is
followed to the object that it tags. A name stands for the first of its candidates that leads to an
identifier; one that leads to a missing reference, as `HEAD` does before the first commit, counts as
missing itself. If all are missing, the name is taken for an abbreviated identifier. A text of
packed references that cannot be read is reported by the first answer that needs it; after that
there are none.
-/
namespace StatusLine.Git

inductive Object
  | commit
  | tag (target : String)
  | other
  deriving DecidableEq, Repr

structure Repository where
  files : FileTree
  /-- The plain path of the directory that holds `HEAD`. -/
  place : List String
  objects : List (String × Object)
  damageReported : Bool := false

inductive Lookup
  | missing
  | broken
  /-- It would have to be among the packed references, and they cannot be read. -/
  | damaged
  | found (t : Target)
  deriving DecidableEq, Repr

inductive End
  | object (id : String)
  | missing
  | failed (why : Unresolved)
  deriving DecidableEq, Repr

namespace Repository

def packed? (r : Repository) : Option (List (String × String)) :=
  match r.files (r.place ++ ["packed-refs"]) with
  | some (.file text) =>
    match PackedRefs.read? text with
    | some refs => some refs
    | none => if r.damageReported then some [] else none
  | _ => some []

def lookupPacked (r : Repository) (name : String) : Lookup :=
  match r.packed? with
  | none => .damaged
  | some refs => ((PackedRefs.lookup? refs name).map Target.direct).elim .missing .found

/-- A file hides a packed reference, whatever it holds, and so does a name that the system
refuses. -/
def lookup (r : Repository) (name : String) : Lookup :=
  match r.files.find (r.place ++ FileTree.names name) with
  | .entry (.file text) => (Target.ofText? text).elim .broken .found
  | .refused => .broken
  | .entry .directory | .nothing => r.lookupPacked name

def follow (r : Repository) : Nat → Target → End
  | _, .direct id => .object id
  | 0, .symbolic _ => .failed .notFound
  | n + 1, .symbolic name =>
    match r.lookup name with
    | .found t => r.follow n t
    | .missing => .missing
    | .broken => .failed .notFound
    | .damaged => .failed .packedDamaged

def maxSteps : Nat := 5

def resolve (r : Repository) (name : String) : End :=
  if RefName.fits name then r.follow (maxSteps + 1) (.symbolic name)
  else .failed .notFound

/-- Where the first name leads that does not lead to a missing reference. A name that is not valid
is passed over; as the last one it makes the search fail. -/
def search (r : Repository) : End → List String → End
  | last, [] => last
  | _, name :: names =>
    if RefName.isValid name then
      match r.resolve name with
      | .missing => r.search .missing names
      | found => found
    else r.search (.failed .notFound) names

def fullId? (r : Repository) (name : String) : Option String :=
  match Target.id? name.toList with
  | some (id, []) => (r.objects.lookup id).map fun _ => id
  | _ => none

def abbreviated? (r : Repository) (name : String) : Option String :=
  (Abbreviation.ofName? name).bind fun digits => Abbreviation.expand? digits (r.objects.map (·.1))

def orNotFound {α : Type} : Option α → Except Unresolved α
  | some a => .ok a
  | none => .error .notFound

def object (r : Repository) (name : String) : Except Unresolved String :=
  match r.fullId? name with
  | some id => .ok id
  | none =>
    match r.search .missing (RefName.candidates name) with
    | .object id => .ok id
    | .missing => orNotFound (r.abbreviated? name)
    | .failed why => .error why

def peel (r : Repository) : Nat → String → Option String
  | 0, _ => none
  | n + 1, id =>
    match r.objects.lookup id with
    | some .commit => some id
    | some (.tag target) => r.peel n target
    | _ => none

def commit (r : Repository) (name : String) : Except Unresolved String := do
  let id ← r.object name
  orNotFound (r.peel (r.objects.length + 1) id)

/-- The branch of a reference: of the name that it holds, whether there is such a reference or not,
or else of its own name. -/
def branch (r : Repository) (name : String) : Except Unresolved (Option String) := do
  let name ← orNotFound ((RefName.normalize? name).filter RefName.fits)
  match r.lookup name with
  | .found (.symbolic target) => .ok (RefName.branch? target)
  | .found (.direct _) => .ok (RefName.branch? name)
  | .missing | .broken => .error .notFound
  | .damaged => .error .packedDamaged

def fresh (head : String) : Repository where
  files := FileTree.empty.put ["HEAD"] (.file head)
  place := []
  objects := []

example : (branch (fresh "ref: refs/heads/main\n") "HEAD").toOption = some (some "main") := by
  decide

example : resolve (fresh "ref: refs/heads/main\n") "HEAD" = .missing := by decide
example : resolve (fresh "ref: .//HEAD\n") "HEAD" = .failed .notFound := by decide

def versionControl (r : Repository) : VersionControl where
  branchName name := (r.branch name).mapError (.branchUnresolved name)
  commitHash name := (r.commit name).mapError (.commitUnresolved name)

def reportsDamage {α : Type} : Except Fault α → Bool
  | .error (.branchUnresolved _ why) | .error (.commitUnresolved _ why) => why == .packedDamaged
  | _ => false

def after {α : Type} (r : Repository) (answer : Except Fault α) : Repository :=
  { r with damageReported := r.damageReported || reportsDamage answer }

example :
    let r : Repository :=
      { files :=
          (FileTree.empty.put ["HEAD"] (.file "ref: refs/x\n")).put ["packed-refs"] (.file "?")
        place := []
        objects := [] }
    r.lookup "refs/x" = .damaged ∧
      (r.after (r.versionControl.commitHash "HEAD")).lookup "refs/x" = .missing := by
  decide

def locate (directory : List UInt8) : Option Repository → Except Fault Repository
  | some r => .ok r
  | none =>
    .error (.repositoryMissing (DirectoryPath.display directory) "could not find repository")

def discover (directory : List UInt8) (enabled : Bool) (found : Option Repository) :
    VersionControl :=
  if enabled then
    match locate directory found with
    | .ok r => r.versionControl
    | .error fault => .unavailable fault.report.message
  else .unavailable "Git integration is disabled in the configuration"

end Repository
end StatusLine.Git
