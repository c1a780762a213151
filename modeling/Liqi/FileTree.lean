import Mathlib.Data.List.Basic

/-!
# Trees of files

A tree gives each path what is there, a directory or a file; the path of its root has no components. An operation that
raises has no result and changes nothing.
-/

namespace FileTree

abbrev Path := List String

/-- The components of a path; empty ones and `.` do not count. -/
def parts (text : String) : Path :=
  ((text.toList.splitOn '/').map String.ofList).filter fun part => part ≠ "" ∧ part ≠ "."

inductive Node (δ : Type) where
  | directory (mode : Nat)
  | file (content : δ) (mode : Nat)

abbrev Files (δ : Type) := Path → Option (Node δ)

variable {δ : Type} {tree later : Files δ} {path : Path} {content : δ} {mode : Nat}

/-- The file at a path, with its mode. -/
def fileAt (tree : Files δ) (path : Path) : Option (δ × Nat) :=
  match tree path with
  | some (.file content mode) => some (content, mode)
  | _ => none

/-- `mkdir(parents=True, exist_ok=True)`: each missing directory is made, with the given mode. -/
def mkdir (mode : Nat) (path : Path) (tree : Files δ) : Option (Files δ) :=
  if path.inits.any fun above => (fileAt tree above).isSome then none
  else some fun other => if other ∈ path.inits ∧ (tree other).isNone then some (.directory mode) else tree other

/-- A file in a directory that is there is opened, written and given its mode. -/
def write (path : Path) (content : δ) (mode : Nat) (tree : Files δ) : Option (Files δ) :=
  match tree path with
  | some (.directory _) => none
  | _ => some (Function.update tree path (some (.file content mode)))

/-- `os.replace` of a file. -/
def rename (source target : Path) (tree : Files δ) : Option (Files δ) :=
  match tree target with
  | some (.directory _) => none
  | _ => some (Function.update (Function.update tree source none) target (tree source))

theorem fileAt_update {node : Option (Node δ)} : fileAt (Function.update tree path node)
    = Function.update (fileAt tree) path (fileAt (fun _ => node) path) := by
  funext other
  by_cases same : other = path
  · subst same
    simp [fileAt]
  · simp [fileAt, same]

theorem fileAt_mkdir (made : mkdir mode path tree = some later) : fileAt later = fileAt tree := by
  unfold mkdir at made
  split at made
  · cases made
  · cases made
    funext other
    by_cases missing : other ∈ path.inits ∧ (tree other).isNone
    · simp [fileAt, missing, Option.isNone_iff_eq_none.1 missing.2]
    · simp only [fileAt, if_neg missing]

theorem fileAt_write (written : write path content mode tree = some later) :
    fileAt later = Function.update (fileAt tree) path (some (content, mode)) := by
  unfold write at written
  split at written
  · cases written
  · cases written
    exact fileAt_update

theorem fileAt_rename {source target : Path} (renamed : rename source target tree = some later) :
    fileAt later = Function.update (Function.update (fileAt tree) source none) target (fileAt tree source) := by
  unfold rename at renamed
  split at renamed
  · cases renamed
  · cases renamed
    rw [fileAt_update, fileAt_update]
    rfl

end FileTree
