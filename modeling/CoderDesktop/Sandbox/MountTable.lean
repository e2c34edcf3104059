import Mathlib.Data.List.Basic
import Mathlib.Data.List.Infix

/-!
# Mount tables

A table is the list of mounts in the order they were made. The mount that
provides a path is the last one whose target is at or above the path, so a later
mount shadows earlier ones at and below its target. Paths are component lists
from the root; `Path.ofString` reads them lexically, ignoring symlinks.
-/

namespace CoderDesktop.Sandbox

/-- Component names from the root down. A relative string is read from the root. -/
abbrev Path := List (List Char)

namespace Path

/-- Follow one component: empty names and `.` stay, `..` goes up, at most to the root. -/
def follow (path : Path) (name : List Char) : Path :=
  if name = [] ∨ name = ['.'] then path
  else if name = ['.', '.'] then path.dropLast
  else path ++ [name]

/-- The path a string names. -/
def ofString (text : String) : Path :=
  (text.toList.splitOn '/').foldl follow []

/-- Appending `/name` goes one level down. -/
theorem ofString_child (directory name : String) (plain : '/' ∉ name.toList)
    (named : name.toList ≠ [] ∧ name.toList ≠ ['.'] ∧ name.toList ≠ ['.', '.']) :
    ofString (directory ++ "/" ++ name) = ofString directory ++ [name.toList] := by
  have split : (directory ++ "/" ++ name).toList.splitOn '/' =
      directory.toList.splitOn '/' ++ [name.toList] := by
    have slash : "/".toList = ['/'] := rfl
    rw [String.toList_append, String.toList_append, slash, List.append_assoc,
      List.singleton_append, List.splitOn_append_cons_self, List.splitOn_eq_singleton plain]
  rw [ofString, split, List.foldl_append, ← ofString, List.foldl_cons, List.foldl_nil]
  simp [follow, named]

end Path

/-- What a mount puts at its target: nothing of the host, or a host directory. -/
inductive Source where
  | fresh
  | host (path : Path) (writable : Bool)
deriving DecidableEq, Repr

/-- A mount point and what is mounted there. -/
structure Mount where
  target : Path
  source : Source
deriving DecidableEq, Repr

/-- The host file behind a sandbox path. -/
structure Backing where
  path : Path
  writable : Bool
deriving DecidableEq, Repr

/-- The mount is made at or above the path. -/
def Mount.covers (mount : Mount) (path : Path) : Bool :=
  mount.target.isPrefixOf path

/-- What the mount shows at a path it covers. -/
def Mount.backing (mount : Mount) (path : Path) : Option Backing :=
  match mount.source with
  | .fresh => none
  | .host root writable => some ⟨root ++ path.drop mount.target.length, writable⟩

/-- The last mount that covers the path. -/
def provider (table : List Mount) (path : Path) : Option Mount :=
  table.reverse.find? fun mount => mount.covers path

/-- The host file visible at a sandbox path, if any. -/
def backing (table : List Mount) (path : Path) : Option Backing :=
  (provider table path).bind fun mount => mount.backing path

/-! ## Shadowing -/

section Shadowing

variable {table : List Mount} {mount : Mount} {path : Path}

/-- A mount covers what lies below its target. -/
theorem Mount.covers_iff : mount.covers path = true ↔ mount.target <+: path :=
  List.isPrefixOf_iff_prefix

/-- Later mounts come first. -/
theorem provider_append (table more : List Mount) (path : Path) :
    provider (table ++ more) path = (provider more path).or (provider table path) := by
  simp [provider, List.find?_append]

/-- One mount provides what it covers. -/
theorem provider_singleton (mount : Mount) (path : Path) :
    provider [mount] path = if mount.covers path then some mount else none := by
  simp [provider, List.find?_singleton]

/-- The provider is one of the mounts. -/
theorem provider_mem (found : provider table path = some mount) : mount ∈ table :=
  List.mem_reverse.mp (List.mem_of_find?_eq_some found)

/-- The provider covers the path. -/
theorem provider_covers (found : provider table path = some mount) :
    mount.covers path = true := by
  simpa using List.find?_some found

/-- A covering mount hides everything mounted before it. -/
theorem provider_of_covers (table more : List Mount) (covers : mount.covers path = true) :
    provider (table ++ mount :: more) path = (provider more path).or (some mount) := by
  rw [provider_append, ← List.singleton_append, provider_append, provider_singleton,
    if_pos covers]
  cases provider more path <;> rfl

/-- No provider, no mount above the path. -/
theorem provider_eq_none :
    provider table path = none ↔ ∀ other ∈ table, ¬ other.target <+: path := by
  simp [provider, ← Mount.covers_iff]

/-- A path is backed by its provider. -/
theorem backing_eq_some {file : Backing} :
    backing table path = some file ↔
      ∃ mount, provider table path = some mount ∧ mount.backing path = some file := by
  simp [backing, Option.bind_eq_some_iff]

/-- A directory bound to its own path shows the host's file there. -/
theorem Mount.backing_self {root : Path} {writable : Bool}
    (covers : root <+: path) :
    (Mount.mk root (.host root writable)).backing path = some ⟨path, writable⟩ := by
  obtain ⟨rest, rfl⟩ := covers
  simp [Mount.backing]


section InPlace

variable {after : List Mount}

/-- Mounts that show the host in place make the host's own file visible. -/
theorem backing_inPlace (inPlace : ∀ mount ∈ after, ∃ writable,
      mount.source = .host mount.target writable) (found : provider after path = some mount) :
    ∃ file, mount.backing path = some file ∧ file.path = path := by
  obtain ⟨target, source⟩ := mount
  obtain ⟨writable, shape⟩ := inPlace _ (provider_mem found)
  obtain rfl : source = .host target writable := shape
  exact ⟨_, Mount.backing_self (Mount.covers_iff.mp (provider_covers found)), rfl⟩

/-- Below a fresh mount the host's own file is visible exactly where a later mount
covers the path. -/
theorem backing_overlay (before : List Mount) {directory : Path} (below : directory <+: path)
    (inPlace : ∀ mount ∈ after, ∃ writable, mount.source = .host mount.target writable) :
    (∃ file, backing (before ++ ⟨directory, .fresh⟩ :: after) path = some file ∧
      file.path = path) ↔ ∃ mount ∈ after, mount.target <+: path := by
  have overlaid : (Mount.mk directory .fresh).covers path = true := Mount.covers_iff.mpr below
  have table := provider_of_covers before after overlaid
  rw [backing, table]
  cases found : provider after path with
  | none =>
      have away := provider_eq_none.mp found
      simpa [Mount.backing] using away
  | some mount =>
      have above := Mount.covers_iff.mp (provider_covers found)
      exact ⟨fun _ => ⟨mount, provider_mem found, above⟩,
        fun _ => backing_inPlace inPlace found⟩

/-- At the target of a bind its source is visible, unless a later mount covers it. -/
theorem backing_bound (before : List Mount) (path source : Path) (writable : Bool)
    (inPlace : ∀ mount ∈ after, ∃ writable, mount.source = .host mount.target writable) :
    ∃ file, backing (before ++ ⟨path, .host source writable⟩ :: after) path = some file ∧
      ((∃ mount ∈ after, mount.target <+: path) ∧ file.path = path ∨
        (∀ mount ∈ after, ¬ mount.target <+: path) ∧ file.path = source) := by
  have covers : (Mount.mk path (.host source writable)).covers path = true :=
    Mount.covers_iff.mpr (List.prefix_refl path)
  have table := provider_of_covers before after covers
  rw [backing, table]
  cases found : provider after path with
  | none =>
      exact ⟨⟨source, writable⟩, by simp [Mount.backing], .inr ⟨provider_eq_none.mp found, rfl⟩⟩
  | some mount =>
      obtain ⟨file, shows, same⟩ := backing_inPlace inPlace found
      have above := Mount.covers_iff.mp (provider_covers found)
      exact ⟨file, shows, .inl ⟨⟨mount, provider_mem found, above⟩, same⟩⟩

/-- A directory bound in place shows its own files, writable, if every later mount over
the path does so too. -/
theorem backing_kept (before : List Mount) {root : Path} (above : root <+: path)
    (later : ∀ mount ∈ after, mount.target <+: path →
      mount.source = .host mount.target true) :
    backing (before ++ ⟨root, .host root true⟩ :: after) path = some ⟨path, true⟩ := by
  have covers : (Mount.mk root (.host root true)).covers path = true := Mount.covers_iff.mpr above
  rw [backing, provider_of_covers before after covers]
  cases found : provider after path with
  | none => exact Mount.backing_self above
  | some mount =>
      have above := Mount.covers_iff.mp (provider_covers found)
      obtain ⟨target, source⟩ := mount
      obtain rfl : source = .host target true := later _ (provider_mem found) above
      exact Mount.backing_self above

end InPlace
end Shadowing

/-! ## What a table exposes -/

/-- A host file is visible at the path, and may be written to. -/
def WritableAt (table : List Mount) (path : Path) : Prop :=
  ∃ file, backing table path = some file ∧ file.writable = true

/-- What the mount shows of the host may be written to. -/
def Mount.writable (mount : Mount) : Bool :=
  match mount.source with
  | .fresh => false
  | .host _ writable => writable

section WritableAt

variable {table : List Mount} {path : Path}

/-- It is up to the mount that provides the path. -/
theorem writableAt_iff :
    WritableAt table path ↔ ∃ mount, provider table path = some mount ∧ mount.writable = true := by
  simp only [WritableAt, backing_eq_some]
  constructor
  · rintro ⟨file, ⟨⟨target, source⟩, provides, shows⟩, writable⟩
    refine ⟨⟨target, source⟩, provides, ?_⟩
    cases source with
    | fresh => cases shows
    | host root mode =>
        obtain rfl := Option.some.inj shows
        exact writable
  · rintro ⟨⟨target, source⟩, provides, writable⟩
    cases source with
    | fresh => cases writable
    | host root mode => exact ⟨_, ⟨_, provides, rfl⟩, writable⟩

/-- Later mounts decide where they cover the path. -/
theorem writableAt_append {more : List Mount} :
    WritableAt (table ++ more) path ↔
      WritableAt more path ∨ (∀ mount ∈ more, ¬ mount.target <+: path) ∧ WritableAt table path := by
  simp only [writableAt_iff, provider_append, ← provider_eq_none]
  cases found : provider more path with
  | none => simp
  | some mount => simp

/-- Writable mounts add what they cover. -/
theorem writableAt_append_writable {more : List Mount}
    (writable : ∀ mount ∈ more, mount.writable = true) :
    WritableAt (table ++ more) path ↔
      (∃ mount ∈ more, mount.target <+: path) ∨ WritableAt table path := by
  have added : WritableAt more path ↔ ∃ mount ∈ more, mount.target <+: path := by
    rw [writableAt_iff]
    constructor
    · rintro ⟨mount, provides, -⟩
      exact ⟨mount, provider_mem provides, Mount.covers_iff.mp (provider_covers provides)⟩
    · rintro ⟨mount, member, above⟩
      cases found : provider more path with
      | none => exact absurd above (provider_eq_none.mp found mount member)
      | some other => exact ⟨other, rfl, writable other (provider_mem found)⟩
  rw [writableAt_append, added]
  by_cases covered : ∃ mount ∈ more, mount.target <+: path
  · exact iff_of_true (.inl covered) (.inl covered)
  · have away : ∀ mount ∈ more, ¬ mount.target <+: path :=
      fun mount member above => covered ⟨mount, member, above⟩
    exact or_congr_right (and_iff_right away)

/-- Other mounts take away what they cover. -/
theorem writableAt_append_readOnly {more : List Mount}
    (readOnly : ∀ mount ∈ more, mount.writable = false) :
    WritableAt (table ++ more) path ↔
      (∀ mount ∈ more, ¬ mount.target <+: path) ∧ WritableAt table path := by
  have nothing : ¬ WritableAt more path := by
    rw [writableAt_iff]
    rintro ⟨mount, provides, writable⟩
    rw [readOnly mount (provider_mem provides)] at writable
    cases writable
  rw [writableAt_append]
  exact or_iff_right nothing

end WritableAt

/-- Writable host files are visible only at or below one of the roots. -/
def WritesConfined (roots : List Path) (table : List Mount) : Prop :=
  ∀ path file, backing table path = some file → file.writable = true →
    ∃ root ∈ roots, root <+: path

/-- Neither the sandbox's copy of the directory nor the host's directory itself is
visible, except at or below one of the roots. -/
def Hides (directory : Path) (roots : List Path) (table : List Mount) : Prop :=
  ∀ path file, backing table path = some file →
    directory <+: path ∨ directory <+: file.path → ∃ root ∈ roots, root <+: path

/-- Writes are confined if every writable mount lies below a root. -/
theorem WritesConfined.of_mounts {roots : List Path} {table : List Mount}
    (bound : ∀ mount ∈ table, ∀ source, mount.source = .host source true →
      ∃ root ∈ roots, root <+: mount.target) : WritesConfined roots table := by
  intro path file visible writable
  obtain ⟨mount, provides, shows⟩ := backing_eq_some.mp visible
  cases shape : mount.source with
  | fresh => simp [Mount.backing, shape] at shows
  | host source mode =>
      simp only [Mount.backing, shape, Option.some.injEq] at shows
      subst shows
      obtain rfl : mode = true := writable
      obtain ⟨root, member, above⟩ := bound mount (provider_mem provides) source shape
      exact ⟨root, member, above.trans (Mount.covers_iff.mp (provider_covers provides))⟩

/-- A fresh mount over a directory hides it, up to the mounts made later, if the
earlier mounts show every host file under its own path. -/
theorem Hides.of_overlay {directory : Path} {roots : List Path} {before after : List Mount}
    (inPlace : ∀ mount ∈ before, ∀ source writable, mount.source = .host source writable →
      source = mount.target)
    (bound : ∀ mount ∈ after, ∀ source writable, mount.source = .host source writable →
      ∃ root ∈ roots, root <+: mount.target) :
    Hides directory roots (before ++ ⟨directory, .fresh⟩ :: after) := by
  intro path file visible below
  obtain ⟨⟨target, source⟩, provides, shows⟩ := backing_eq_some.mp visible
  have covers := Mount.covers_iff.mp (provider_covers provides)
  cases source with
  | fresh => simp [Mount.backing] at shows
  | host source writable =>
      rcases List.mem_append.mp (provider_mem provides) with early | late
      · -- An early mount shows the file in place, where the overlay would hide it.
        obtain rfl := inPlace _ early source writable rfl
        rw [Mount.backing_self covers] at shows
        obtain rfl := Option.some.inj shows
        have overlaid : (Mount.mk directory .fresh).covers path = true :=
          Mount.covers_iff.mpr (below.elim id id)
        rw [provider_of_covers _ _ overlaid] at provides
        rcases Option.or_eq_some_iff.mp provides with found | ⟨-, same⟩
        · obtain ⟨root, member, above⟩ := bound _ (provider_mem found) source writable rfl
          exact ⟨root, member, above.trans covers⟩
        · cases same
      · rcases List.mem_cons.mp late with same | late
        · cases same
        · obtain ⟨root, member, above⟩ := bound _ late source writable rfl
          exact ⟨root, member, above.trans covers⟩

end CoderDesktop.Sandbox
