import ExportIndex.FilePath

/-
This file defines file systems with symbolic links. Files and directories are known
by the names on the way from the root, none of which is a link.
-/

namespace ExportIndex

/-- What a place holds. Not every directory lets its entries be listed, and not every
file lets its bytes be read. -/
inductive FileContent where
  | directory (listable : Bool)
  | file (bytes : List UInt8) (readable : Bool)
  | link (target : String)
deriving DecidableEq, Repr, Inhabited

/-- Everything in a file system except its root. -/
structure FileSystem where
  entries : List (List String × FileContent)
deriving Repr, Inhabited

/-- Why a path leads nowhere. -/
inductive LookupFault where
  | missing
  | notDirectory
  | tooManyLinks
deriving DecidableEq, Repr

def LookupFault.message : LookupFault → String
  | missing => "No such file or directory (os error 2)"
  | notDirectory => "Not a directory (os error 20)"
  | tooManyLinks => "Too many levels of symbolic links (os error 40)"

namespace FileSystem

def empty : FileSystem := ⟨[]⟩

/-- What is in a place; the root is a directory. -/
def content? (system : FileSystem) (place : List String) : Option FileContent :=
  if place = [] then some (.directory true)
  else (system.entries.find? fun entry => entry.1 = place).map Prod.snd

def isDirectory (system : FileSystem) (place : List String) : Bool :=
  match system.content? place with
  | some (.directory _) => true
  | _ => false

/-- The steps that a path is made of. An empty step or `.` stays in a directory. -/
def steps (path : String) : List String :=
  (FilePath.partsAt '/' path.toList).map String.ofList

def isAbsolute (path : String) : Bool := path.toList.head? == some '/'

/-- Follows steps from a place on, over at most `links` links. The root is its own parent, and a link
with an absolute target leads on from there. -/
def follow (system : FileSystem) (links : Nat) (place : List String) :
    List String → Except LookupFault (List String)
  | [] => .ok place
  | step :: rest =>
    if !system.isDirectory place then .error .notDirectory
    else if step = "" || step = "." then system.follow links place rest
    else if step = ".." then system.follow links place.dropLast rest
    else
      match system.content? (place ++ [step]) with
      | none => .error .missing
      | some (.link target) =>
        if _exhausted : links = 0 then .error .tooManyLinks
        else
          let start := if isAbsolute target then [] else place
          system.follow (links - 1) start (steps target ++ rest)
      | some _ => system.follow links (place ++ [step]) rest
termination_by remaining => (links, remaining.length)

/-- The greatest number of links on one path. -/
def linkLimit : Nat := 40

/-- The place that a path leads to from the root. -/
def resolve (system : FileSystem) (path : List String) : Except LookupFault (List String) :=
  system.follow linkLimit [] path

/-- The one place of what a path leads to, on which every path to it agrees. -/
def canonical? (system : FileSystem) (path : List String) : Option (List String) :=
  (system.resolve path).toOption

/-- What a path leads to. -/
def target? (system : FileSystem) (path : List String) : Option FileContent :=
  (system.canonical? path).bind system.content?

/-- The names in a directory, in the order in which they were made. -/
def namesIn (system : FileSystem) (place : List String) : List String :=
  system.entries.filterMap fun entry =>
    match entry.1.getLast? with
    | some name => if entry.1.dropLast = place then some name else none
    | none => none

/-- The names in the directory that a path leads to, if it lets them be listed. -/
def listing? (system : FileSystem) (path : List String) : Option (List String) := do
  let place ← system.canonical? path
  match system.content? place with
  | some (.directory true) => some (system.namesIn place)
  | _ => none

theorem listing?_nowhere {system : FileSystem} {path : List String}
    (leads : system.canonical? path = none) : system.listing? path = none := by
  rw [listing?, leads]
  rfl

/-- A path whose names are listed leads to a place. -/
theorem listing?_place {system : FileSystem} {path names : List String}
    (lists : system.listing? path = some names) :
    ∃ place, system.canonical? path = some place ∧ system.content? place = some (.directory true) ∧
      names = system.namesIn place := by
  obtain ⟨place, canonical, lists⟩ := Option.bind_eq_some_iff.mp lists
  refine ⟨place, canonical, ?_⟩
  split at lists
  · next holds => exact ⟨holds, (Option.some.inj lists).symm⟩
  · cases lists

/-- Puts content into a place. -/
def put (system : FileSystem) (place : List String) (content : FileContent) : FileSystem :=
  if system.entries.any fun entry => entry.1 == place then
    ⟨system.entries.map fun entry => if entry.1 = place then (place, content) else entry⟩
  else ⟨system.entries ++ [(place, content)]⟩

/-- Goes one step on, into a new directory if there is nothing. -/
def enter (system : FileSystem) (place : List String) (step : String) :
    FileSystem × List String :=
  match system.follow linkLimit place [step] with
  | .ok place => (system, place)
  | .error _ => (system.put (place ++ [step]) (.directory true), place ++ [step])

/-- Adds content under a path and the directories that it needs. -/
def add (system : FileSystem) (path : String) (content : FileContent) : FileSystem :=
  let named := (steps path).filter fun step => step ≠ "" && step ≠ "."
  let (system, place) := named.dropLast.foldl
    (fun (system, place) step => system.enter place step) (system, [])
  match named.getLast? with
  | none => system
  | some name =>
    match content with
    | .directory true => (system.enter place name).1
    | content => system.put (place ++ [name]) content

/-- The places that hold something. -/
def places (system : FileSystem) : List (List String) := [] :: system.entries.map Prod.fst

theorem place_member {system : FileSystem} {place : List String} {content : FileContent}
    (holds : system.content? place = some content) : place ∈ system.places := by
  rw [content?] at holds
  split at holds
  · next root => exact root ▸ List.mem_cons_self
  · obtain ⟨entry, found, _⟩ := Option.map_eq_some_iff.mp holds
    have named : entry.1 = place := by simpa using List.find?_some found
    exact List.mem_cons_of_mem _ (named ▸ List.mem_map_of_mem (List.mem_of_find?_eq_some found))

/-- How many places are left to enter. -/
def depthBelow (system : FileSystem) (entered : List (List String)) : Nat :=
  (system.places.filter fun place => !entered.contains place).length

theorem depthBelow_enter {system : FileSystem} {entered : List (List String)}
    {place : List String} (member : place ∈ system.places) (outside : place ∉ entered) :
    system.depthBelow (place :: entered) < system.depthBelow entered := by
  have split : (system.places.filter fun other => !(place :: entered).contains other) =
      (system.places.filter fun other => !entered.contains other).filter (· != place) := by
    rw [List.filter_filter]
    refine List.filter_congr fun other _ => ?_
    rw [List.contains_cons, Bool.not_or]
    rfl
  rw [depthBelow, split]
  refine List.length_filter_lt_length_iff_exists.mpr ⟨place, ?_, ?_⟩
  · simp [member, outside]
  · simp

/-- How many directories can be read one inside the other from a path on, whose directory is
entered. One that cannot be listed counts for none. -/
def depthFrom (system : FileSystem) (path : List String) (entered : List (List String)) : Nat :=
  match system.listing? path with
  | none => 0
  | some _ => system.depthBelow entered + 1

theorem depthFrom_nowhere {system : FileSystem} {path : List String}
    (leads : system.canonical? path = none) (entered : List (List String)) :
    system.depthFrom path entered < system.depthBelow entered + 1 := by
  rw [depthFrom, listing?_nowhere leads]
  exact Nat.succ_pos _

theorem depthFrom_enter {system : FileSystem} {path place : List String}
    {entered : List (List String)} (canonical : system.canonical? path = some place)
    (outside : place ∉ entered) :
    system.depthFrom path (place :: entered) < system.depthBelow entered + 1 := by
  rw [depthFrom]
  split
  · exact Nat.succ_pos _
  · next names lists =>
    obtain ⟨other, leads, holds, _⟩ := listing?_place lists
    obtain rfl : place = other := Option.some.inj (canonical.symm.trans leads)
    exact Nat.succ_lt_succ (depthBelow_enter (place_member holds) outside)

theorem depthFrom_listed {system : FileSystem} {path names : List String}
    (lists : system.listing? path = some names) (entered : List (List String)) :
    system.depthFrom path entered = system.depthBelow entered + 1 := by
  rw [depthFrom, lists]

end FileSystem

end ExportIndex
