import Relink.FileSystem
import Relink.Host
import Relink.Path.Normal

/-!
# Disks

A disk is a finite tree of directories, regular files and symbolic links.  A path
is walked from the root or from the working directory: `.` and empty segments stay
in a directory, `..` leaves it, a name enters what lies there, and a link puts its
target in front of the segments that are left.
-/

namespace Relink

/-- The names that lead to a node, the innermost first. -/
abbrev Place := List Letters

/-- What lies at a place of a disk. -/
inductive Node
  | directory
  | file (bytes : ByteArray)
  | link (target : Path)

/-- The nodes below the root, and the working directory. -/
structure Disk where
  nodes : List (Place × Node)
  working : Place

namespace Disk

/-- The number of links that one walk may follow. -/
def linkLimit : Nat := 40

/-- The number of bytes below which a path has to stay. -/
def pathLimit : Nat := 4096

/-- The number of bytes that a name may have. -/
def nameLimit : Nat := 255

def node? (disk : Disk) (place : Place) : Option Node :=
  match place with
  | [] => some .directory
  | _ => (disk.nodes.find? (·.1 = place)).map Prod.snd

def pathOf (place : Place) : Path :=
  Path.glue .root place.reverse

/-- Where a path begins, and the segments to walk from there. -/
def setOut (current : Place) (path : Path) : Place × List Letters :=
  match path.letters with
  | .char '/' :: rest => ([], Text.splitOn (.char '/') rest)
  | letters => (current, Text.splitOn (.char '/') letters)

/-- The place that is reached from `place` through the given segments. -/
def walk (disk : Disk) (links : Nat) (place : Place) (segments : List Letters) :
    Except IoError Place :=
  match segments with
  | [] => .ok place
  | segment :: rest =>
      match disk.node? place with
      | some .directory =>
          if segment = [] ∨ segment = [.char '.'] then disk.walk links place rest
          else if segment = [.char '.', .char '.'] then disk.walk links place.tail rest
          else if nameLimit < segment.byteLength then .error .invalidFilename
          else
            match disk.node? (segment :: place) with
            | none => .error .notFound
            | some (.link target) =>
                match links with
                | 0 => .error .filesystemLoop
                | links + 1 =>
                    disk.walk links (setOut place target).1 ((setOut place target).2 ++ rest)
            | some _ => disk.walk links (segment :: place) rest
      | _ => .error .notADirectory
termination_by (links, segments.length)

def find (disk : Disk) (path : Path) : Except IoError Place :=
  if .char '\x00' ∈ path.letters then .error .invalidInput
  else if path.letters = [] then .error .notFound
  else if pathLimit ≤ path.letters.byteLength then .error .invalidFilename
  else
    match setOut disk.working path with
    | (place, segments) => disk.walk linkLimit place segments

def read (disk : Disk) (path : Path) : Except IoError Text :=
  match disk.find path with
  | .error error => .error error
  | .ok place =>
      match disk.node? place with
      | some (.file bytes) =>
          match String.fromUTF8? bytes with
          | some text => .ok text.toList
          | none => .error .invalidData
      | some .directory => .error .isADirectory
      | _ => .error .notFound

def isFile (disk : Disk) (path : Path) : Bool :=
  match disk.find path with
  | .error _ => false
  | .ok place =>
      match disk.node? place with
      | some (.file _) => true
      | _ => false

def canonical? (disk : Disk) (path : Path) : Option Path :=
  (disk.find path).toOption.map pathOf

def files (disk : Disk) : List Path :=
  disk.nodes.filterMap fun (place, node) =>
    match node with
    | .file _ => some (pathOf place)
    | _ => none

theorem mem_files {disk : Disk} {place : Place} {bytes : ByteArray}
    (isFile : disk.node? place = some (.file bytes)) : pathOf place ∈ disk.files := by
  unfold node? at isFile
  split at isFile
  · simp at isFile
  · simp only [Option.map_eq_some_iff, Prod.exists] at isFile
    obtain ⟨found, node, entry, rfl⟩ := isFile
    have here := List.find?_some entry
    simp only [decide_eq_true_eq] at here
    subst here
    exact List.mem_filterMap.2 ⟨_, List.mem_of_find?_eq_some entry, rfl⟩

/-- A walk that only stays where it is ends in a directory. -/
theorem node?_of_walk_of_blank {disk : Disk} {links : Nat} {place reached : Place}
    {segments : List Letters} (nonempty : segments ≠ [])
    (blank : segments.filterMap Component.ofSegment? = [])
    (walked : disk.walk links place segments = .ok reached) :
    disk.node? reached = some .directory := by
  induction segments with
  | nil => exact absurd rfl nonempty
  | cons segment rest ih =>
      rw [List.filterMap_eq_nil_iff, List.forall_mem_cons] at blank
      have stays : segment = [] ∨ segment = [.char '.'] := by
        refine Decidable.byContradiction fun moves => ?_
        have named := blank.1
        rw [Component.ofSegment?, if_neg moves] at named
        split at named <;> cases named
      rw [walk] at walked
      split at walked
      · rename_i isDirectory
        rw [if_pos stays] at walked
        cases rest with
        | nil =>
            rw [walk, Except.ok.injEq] at walked
            rwa [← walked]
        | cons next others =>
            exact ih (List.cons_ne_nil _ _) (List.filterMap_eq_nil_iff.2 blank.2) walked
      · cases walked

/-- A path that takes no step, or only that to the root, leads to a directory. -/
theorem exists_step_of_read {disk : Disk} {path : Path} {text : Text}
    (readable : disk.read path = .ok text) : ∃ step ∈ path.components, step ≠ .root := by
  have moves : (setOut disk.working path).2.filterMap Component.ofSegment? ≠ [] := by
    intro blank
    have nonempty : (setOut disk.working path).2 ≠ [] := by
      unfold setOut
      split <;> exact Text.splitOn_ne_nil _ _
    unfold read find at readable
    split at readable
    · cases readable
    · rename_i place found
      split at found
      · cases found
      · split at found
        · cases found
        · split at found
          · cases found
          · have isDirectory := node?_of_walk_of_blank nonempty blank found
            simp [isDirectory] at readable
  obtain ⟨step, member⟩ := List.exists_mem_of_ne_nil _ moves
  have notRoot : step ≠ .root := by
    rintro rfl
    obtain ⟨segment, -, isRoot⟩ := List.mem_filterMap.1 member
    unfold Component.ofSegment? at isRoot
    split at isRoot
    · cases isRoot
    · split at isRoot <;> cases isRoot
  unfold setOut at member
  unfold Path.components Path.split
  split
  · rename_i rest spelled
    exact ⟨step, List.mem_append_right _ (by simpa [spelled] using member), notRoot⟩
  · exact ⟨.current, by simp [Anchor.components], by simp⟩
  · exact ⟨.current, by simp [Anchor.components], by simp⟩
  · refine ⟨step, List.mem_append_right _ ?_, notRoot⟩
    split at member
    · rename_i notAbsolute _ _ _ rest spelled
      exact absurd spelled (notAbsolute rest)
    · exact member

/-- The disk as configuration loading sees it. -/
def system (disk : Disk) : FileSystem where
  read := disk.read
  canonical? := disk.canonical?
  files := disk.files
  canonical_of_read := by
    intro path text readable
    unfold read at readable
    split at readable
    · simp at readable
    · rename_i place found
      split at readable
      · rename_i bytes isFile
        exact ⟨pathOf place, mem_files isFile, by simp [canonical?, found, Except.toOption]⟩
      · simp at readable
      · simp at readable
  step_of_read := exists_step_of_read

def host (disk : Disk) : Host where
  isFile := disk.isFile
  read := fun path => (disk.read path).toOption

/-! ## Building -/

/-- The place a path names, without regard to links. -/
def placeOf (disk : Disk) (path : Path) : Place :=
  ((pathOf disk.working).join path).normalize.components.reverse.filterMap fun
    | .name letters => some letters
    | _ => none

/-- The disk with a node at a place, in place of what lies there. -/
def put (disk : Disk) (place : Place) (node : Node) : Disk :=
  { disk with nodes := (place, node) :: disk.nodes.filter (·.1 ≠ place) }

/-- The disk with a directory at a place and at every place above it. -/
def makeDirectories (disk : Disk) : Place → Disk
  | [] => disk
  | name :: above =>
      let disk := disk.makeDirectories above
      if (disk.node? (name :: above)).isNone then disk.put (name :: above) .directory else disk

def blank (working : Path) : Disk :=
  let start : Disk := ⟨[], []⟩
  let place := start.placeOf working
  { start.makeDirectories place with working := place }

def withDirectory (disk : Disk) (path : Path) : Disk :=
  disk.makeDirectories (disk.placeOf path)

/-- The disk with a node at a path, and the directories above it. -/
def withNode (disk : Disk) (path : Path) (node : Node) : Disk :=
  let place := disk.placeOf path
  (disk.makeDirectories place.tail).put place node

end Disk

end Relink
