import Mathlib.Data.List.Infix
import SchemaSdl.Sdl.Entry

/-! Paths: their last name, the path they hang under, and which paths lie under others. -/

namespace SchemaSdl.TypePath

/-- The path one name up; a definition has none. -/
def parent? (path : TypePath) : Option TypePath :=
  if path.below = [] then none else some ⟨path.root, path.below.dropLast⟩

@[simp] theorem lastName_child (path : TypePath) (name : String) : (path.child name).lastName = name := by
  simp [lastName]

@[simp] theorem lastName_nested (parent : Option TypePath) (name : String) : (nested parent name).lastName = name := by
  cases parent
  · rfl
  · exact lastName_child _ name

@[simp] theorem parent?_child (path : TypePath) (name : String) : (path.child name).parent? = some path := by
  simp [parent?, child]

@[simp] theorem parent?_nested (parent : Option TypePath) (name : String) : (nested parent name).parent? = parent := by
  cases parent
  · rfl
  · exact parent?_child _ name

@[simp] theorem length_segments_child (path : TypePath) (name : String) :
    (path.child name).segments.length = path.segments.length + 1 := by
  simp

theorem child_injective (path : TypePath) : Function.Injective path.child := fun m n h => by
  simpa [child] using h

/-- Of two paths with as many names no other path lies under both. -/
theorem eq_of_isPrefix {p q : TypePath} {segments : List String} (hp : p.segments <+: segments)
    (hq : q.segments <+: segments) (hlength : p.segments.length = q.segments.length) : p = q :=
  segments_injective ((List.prefix_of_prefix_length_le hp hq (Nat.le_of_eq hlength)).eq_of_length hlength)

theorem prefix_child (path : TypePath) (name : String) : path.segments <+: (path.child name).segments :=
  List.prefix_append _ _

theorem not_child_isPrefix (path : TypePath) (name : String) : ¬(path.child name).segments <+: path.segments := by
  intro h
  have hlength := h.length_le
  rw [length_segments_child] at hlength
  omega

end SchemaSdl.TypePath
