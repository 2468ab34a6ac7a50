import Relink.Proofs.Path.Course

/-!
# Joined paths

A path collapses to the steps that are left when its segments are taken one by one from the
place it begins at.  A path that does not begin at the root goes on from where the base ends,
so what a joined path collapses to depends on the base by its normal path alone.
-/

namespace Relink

namespace Path

open Component

/-- The steps behind which the segments of a path are taken. -/
def ground (path : Path) : List Component :=
  if path.isAbsolute then [.root] else []

theorem foldl_push_anchor (path : Path) :
    path.split.1.components.foldl push [] = path.ground := by
  obtain ⟨letters⟩ := path
  unfold split ground
  split
  · rename_i rest spelled
    simp only at spelled
    rw [spelled]
    rfl
  · rename_i spelled
    simp only at spelled
    rw [spelled]
    rfl
  · rename_i rest spelled
    simp only at spelled
    rw [spelled]
    rfl
  · rename_i notRoot _ _
    have unrooted : (⟨letters⟩ : Path).isAbsolute = false := by
      cases letters with
      | nil => rfl
      | cons letter rest =>
          have notSlash : letter ≠ .char '/' := by
            rintro rfl
            exact notRoot rest rfl
          simpa [isAbsolute] using notSlash
    rw [unrooted]
    rfl

theorem foldl_push_components (path : Path) :
    path.components.foldl push [] = (stepsOf path.letters).foldl push path.ground := by
  rw [components_eq, List.foldl_append, foldl_push_anchor]

/-- What is left once the segments of a path are taken. -/
theorem collapse_eq (path : Path) :
    collapse path.components = ((stepsOf path.letters).foldl push path.ground).reverse := by
  rw [collapse, foldl_push_components]

/-- A normal path takes the steps that the path collapses to. -/
theorem components_normalize (path : Path) :
    path.normalize.components = collapse path.components := by
  obtain ⟨course, collapsed⟩ := Course.exists_collapse path
  rw [normalize, collapsed, Course.ofComponents_components, Course.components_path]

theorem normalize_eq_iff {first second : Path} :
    first.normalize = second.normalize ↔
      collapse first.components = collapse second.components := by
  constructor
  · intro same
    rw [← components_normalize, same, components_normalize]
  · intro same
    rw [normalize, normalize, same]

/-! ## Joining -/

theorem isAbsolute_join_eq {target : Path} (unrooted : target.isAbsolute = false) (base : Path) :
    (base.join target).isAbsolute = base.isAbsolute := by
  unfold join
  rw [if_neg (by simp [unrooted])]
  obtain ⟨letters⟩ := base
  cases letters with
  | nil => simpa [isAbsolute] using unrooted
  | cons letter rest => split <;> simp [isAbsolute]

/-- A path that does not begin at the root takes its steps behind those of the base. -/
theorem collapse_join {target : Path} (unrooted : target.isAbsolute = false) (base : Path) :
    collapse (base.join target).components =
      ((stepsOf target.letters).foldl push (collapse base.components).reverse).reverse := by
  have grounded : (base.join target).ground = base.ground := by
    rw [ground, ground, isAbsolute_join_eq unrooted]
  rw [collapse_eq, collapse_eq base, stepsOf_join unrooted, List.foldl_append, grounded,
    List.reverse_reverse]

/-- Bases that are one place make joined paths that are one place. -/
theorem normalize_join_congr {first second : Path} (same : first.normalize = second.normalize)
    (target : Path) : (first.join target).normalize = (second.join target).normalize := by
  cases rooted : target.isAbsolute with
  | true => simp [join, rooted]
  | false =>
      rw [normalize_eq_iff] at same ⊢
      rw [collapse_join rooted, collapse_join rooted, same]

end Path

end Relink
