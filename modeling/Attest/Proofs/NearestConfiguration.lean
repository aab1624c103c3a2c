import Attest.Config.Discovery
import Attest.Proofs.Locations
import Mathlib.Data.List.Infix

/-!
# The nearest configuration file

A search for a configuration goes from a location up to the root and ends at the first directory
that has a file of the usual name, whatever that is. What the search answers is what loading this
file answers, so a file that cannot be read or understood hides all those above it. Every path to a
directory on the way has the same answer.
-/

namespace Attest.Config

open FileSystem (Target origin maximalLinks)

/-- What the configuration file of a directory is, links followed. -/
def found? (fs : FileSystem) (directory : FileSystem.Location) : Option Target :=
  match fs.entry? (fileName :: directory) with
  | none => none
  | some .directory => some .directory
  | some (.file content) => some (.file content)
  | some .sealedFile => some .sealedFile
  | some (.link path) =>
    if path.isEmpty then none
    else (fs.follow? (maximalLinks - 1) (origin path directory) path.steps).map Prod.snd

/-- Whether a location is a directory with a configuration file. A link to nothing is none. -/
def HasFile (fs : FileSystem) (location : FileSystem.Location) : Prop :=
  fs.IsDirectory location ∧ (found? fs location).isSome

/-- The first directory with a configuration file on the way from a location to the root. -/
structure IsNearest (fs : FileSystem) (location directory : FileSystem.Location) : Prop where
  above : directory <:+ location
  hasFile : HasFile fs directory
  first : ∀ other, other <:+ location → HasFile fs other → other <:+ directory

/-- What the configuration file of a directory gives, or the sentence that reports its error. -/
def outcome (directory : FileSystem.Location) : Target → Except String Loaded
  | .directory | .sealedFile =>
    .error ("Failed to read config file: " ++ Text.quote (fileIn directory).text)
  | .file content =>
    match String.fromUTF8? content with
    | none => .error ("Failed to read config file: " ++ Text.quote (fileIn directory).text)
    | some text =>
      match ofText? text with
      | none => .error ("Failed to parse config file: " ++ Text.quote (fileIn directory).text)
      | some config => .ok ⟨config, directory.path⟩

theorem isName_fileName : Path.IsName fileName := by
  decide

variable {fs : FileSystem} {location directory : FileSystem.Location} {target : Target}

theorem found?_eq (fs : FileSystem) (directory : FileSystem.Location) :
    found? fs directory = (fs.follow? maximalLinks directory [.down fileName]).map Prod.snd := by
  rw [found?, FileSystem.follow?]
  cases fs.entry? (fileName :: directory) with
  | none => rfl
  | some entry =>
    cases entry with
    | directory => simp [FileSystem.follow?]
    | file content => rfl
    | sealedFile => rfl
    | link path =>
      rw [maximalLinks]
      simp only [List.append_nil]
      split <;> rfl

/-- The path of the configuration file of a directory leads to what that file is. -/
theorem resolve?_fileIn (h : fs.IsDirectory directory) :
    (fs.resolve? (fileIn directory)).map Prod.snd = found? fs directory := by
  rw [fileIn, FileSystem.resolve?_path_cons isName_fileName h, found?_eq]

theorem leadsSomewhere_fileIn (h : fs.Holds location target) :
    fs.leadsSomewhere (fileIn location) = true ↔ HasFile fs location := by
  by_cases ht : target = .directory
  · have hd := FileSystem.holds_directory.mp (ht ▸ h)
    rw [HasFile, ← resolve?_fileIn hd, Option.isSome_map]
    exact ⟨fun hs => ⟨hd, hs⟩, fun hs => hs.2⟩
  · rw [FileSystem.leadsSomewhere, fileIn,
      FileSystem.resolve?_path_cons_eq_none isName_fileName h ht]
    refine iff_of_false Bool.false_ne_true fun hfile => ht ?_
    exact h.unique (FileSystem.holds_directory.mpr hfile.1)

/-- The search tries one directory after the other up to the root, and ends with the first file. -/
theorem nearest?_eq (fs : FileSystem) (location : FileSystem.Location) :
    nearest? fs location = (location.tails.find? fun directory =>
      fs.leadsSomewhere (fileIn directory)).map fileIn := by
  induction location with
  | nil =>
    rw [nearest?, List.tails, List.find?_singleton]
    split <;> rfl
  | cons name outer ih =>
    rw [nearest?, List.tails_cons, List.find?_cons]
    cases fs.leadsSomewhere (fileIn (name :: outer)) with
    | true => rfl
    | false => exact ih

/-- Something lies at each location on the way to the root. -/
theorem holds_of_suffix (h : fs.Holds location target) (hs : directory <:+ location) :
    ∃ found, fs.Holds directory found := by
  cases location with
  | nil =>
    rw [List.suffix_nil.mp hs]
    exact ⟨target, h⟩
  | cons name outer =>
    rcases List.suffix_cons_iff.mp hs with rfl | hs
    · exact ⟨target, h⟩
    · exact ⟨.directory, FileSystem.holds_directory.mpr (h.2.2.of_suffix hs)⟩

theorem nearest?_eq_none_iff (h : fs.Holds location target) :
    nearest? fs location = none ↔ ∀ directory, directory <:+ location → ¬HasFile fs directory := by
  rw [nearest?_eq, Option.map_eq_none_iff, List.find?_eq_none]
  constructor
  · intro hnone directory hs
    obtain ⟨found, hf⟩ := holds_of_suffix h hs
    rw [← leadsSomewhere_fileIn hf]
    exact hnone directory ((List.mem_tails _ _).mpr hs)
  · intro hnone directory hmem
    have hs := (List.mem_tails _ _).mp hmem
    obtain ⟨found, hf⟩ := holds_of_suffix h hs
    rw [leadsSomewhere_fileIn hf]
    exact hnone directory hs

theorem isNearest_self (h : HasFile fs location) : IsNearest fs location location :=
  ⟨List.suffix_refl _, h, fun _ hs _ => hs⟩

/-- Of the directories that have a file one is the first, if there are any. -/
theorem exists_isNearest (hs : directory <:+ location) (h : HasFile fs directory) :
    ∃ nearest, IsNearest fs location nearest := by
  induction location with
  | nil =>
    rw [List.suffix_nil.mp hs] at h
    exact ⟨[], isNearest_self h⟩
  | cons name outer ih =>
    by_cases hhere : HasFile fs (name :: outer)
    · exact ⟨name :: outer, isNearest_self hhere⟩
    · have hup : ∀ other, other <:+ name :: outer → HasFile fs other → other <:+ outer := by
        intro other hother hfile
        rcases List.suffix_cons_iff.mp hother with rfl | hother
        · exact absurd hfile hhere
        · exact hother
      obtain ⟨nearest, hn⟩ := ih (hup directory hs h)
      exact ⟨nearest, hn.above.trans (List.suffix_cons _ _), hn.hasFile,
        fun other hother hf => hn.first other (hup other hother hf) hf⟩

theorem IsNearest.unique {first second : FileSystem.Location} (hfirst : IsNearest fs location first)
    (hsecond : IsNearest fs location second) : first = second :=
  have hle := hsecond.first first hfirst.above hfirst.hasFile
  have hge := hfirst.first second hsecond.above hsecond.hasFile
  hle.eq_of_length_le hge.length_le

/-- What is nearest to a location is nearest to all directories on the way to it. -/
theorem IsNearest.between {middle : FileSystem.Location} (h : IsNearest fs location directory)
    (hd : directory <:+ middle) (hm : middle <:+ location) : IsNearest fs middle directory :=
  ⟨hd, h.hasFile, fun other hother hf => h.first other (hother.trans hm) hf⟩

theorem nearest?_of_isNearest (h : fs.Holds location target)
    (hn : IsNearest fs location directory) : nearest? fs location = some (fileIn directory) := by
  induction location generalizing target with
  | nil =>
    have hd := List.suffix_nil.mp hn.above
    subst hd
    rw [nearest?, if_pos ((leadsSomewhere_fileIn h).mpr hn.hasFile)]
  | cons name outer ih =>
    by_cases hhere : HasFile fs (name :: outer)
    · rw [nearest?, if_pos ((leadsSomewhere_fileIn h).mpr hhere),
        (isNearest_self hhere).unique hn]
    · rw [nearest?, if_neg (mt (leadsSomewhere_fileIn h).mp hhere)]
      rcases List.suffix_cons_iff.mp hn.above with rfl | hd
      · exact absurd hn.hasFile hhere
      · exact ih (FileSystem.holds_directory.mpr h.2.2)
          (hn.between hd (List.suffix_cons _ _))

/-- A search that ends at a file answers what loading the file answers. -/
theorem discover_of_nearest? {start path : Path} (hr : fs.resolve? start = some (location, target))
    (hn : nearest? fs location = some path) : discover fs start = (load fs path).map some := by
  rw [discover, hr]
  simp only [hn, load]
  cases read fs path <;> rfl

theorem discover_of_nearest?_eq_none {start : Path}
    (hr : fs.resolve? start = some (location, target)) (hn : nearest? fs location = none) :
    discover fs start = .ok none := by
  rw [discover, hr]
  simp only [hn]

/-- Loading the configuration file of a directory gives what the file gives, with the path of the
directory, and each error reports the path of the file. -/
theorem load_fileIn (h : fs.IsDirectory directory) {found : Target}
    (hf : found? fs directory = some found) :
    (load fs (fileIn directory)).mapError ConfigError.message = outcome directory found := by
  have hparent : (fileIn directory).parent = directory.path :=
    FileSystem.Location.parent_path_cons (List.forall_mem_cons.mpr ⟨isName_fileName, h.isName⟩)
  obtain ⟨⟨place, target⟩, hr, rfl⟩ := Option.map_eq_some_iff.mp ((resolve?_fileIn h).trans hf)
  simp only [load, read, FileSystem.readText?, hr, hparent]
  cases target with
  | directory => rfl
  | sealedFile => rfl
  | file content =>
    simp only [outcome]
    cases String.fromUTF8? content with
    | none => rfl
    | some text =>
      simp only
      cases ofText? text <;> rfl

/-- What a search tells that starts at a location. -/
structure FindsNearest (fs : FileSystem) (start : Path) (location : FileSystem.Location) :
    Prop where
  /-- The directories up to the root are tried in order, each once. -/
  walk : nearest? fs location = (location.tails.find? fun directory =>
    fs.leadsSomewhere (fileIn directory)).map fileIn
  /-- Nothing is found exactly where there is nothing. -/
  absent : discover fs start = .ok none ↔
    ∀ directory, directory <:+ location → ¬HasFile fs directory
  present : ∀ directory, directory <:+ location → HasFile fs directory →
    ∃ nearest, IsNearest fs location nearest
  /-- The nearest file decides, for better or worse. -/
  loaded : ∀ nearest, IsNearest fs location nearest →
    discover fs start = (load fs (fileIn nearest)).map some
  reported : ∀ nearest, IsNearest fs location nearest →
    ∃ found, found? fs nearest = some found ∧
      (discover fs start).mapError ConfigError.message = (outcome nearest found).map some
  /-- All directories up to that file have the same answer, whatever path leads to them. -/
  shared : ∀ nearest middle, IsNearest fs location nearest → nearest <:+ middle →
    middle <:+ location → discover fs (FileSystem.Location.path middle) = discover fs start ∧
      ∀ (path : Path) (found : Target), fs.resolve? path = some (middle, found) →
        discover fs path = discover fs start

theorem findsNearest_of_resolve? {start : Path} (hr : fs.resolve? start = some (location, target))
    (h : fs.Holds location target) : FindsNearest fs start location where
  walk := nearest?_eq fs location
  absent := by
    rw [← nearest?_eq_none_iff h]
    constructor
    · intro hnone
      cases hn : nearest? fs location with
      | none => rfl
      | some path =>
        rw [discover_of_nearest? hr hn] at hnone
        cases hl : load fs path <;> rw [hl] at hnone <;> cases hnone
    · exact discover_of_nearest?_eq_none hr
  present := fun _ hs hfile => exists_isNearest hs hfile
  loaded := fun _ hn => discover_of_nearest? hr (nearest?_of_isNearest h hn)
  reported := by
    intro nearest hn
    obtain ⟨found, hf⟩ := Option.isSome_iff_exists.mp hn.hasFile.2
    refine ⟨found, hf, ?_⟩
    rw [discover_of_nearest? hr (nearest?_of_isNearest h hn), ← load_fileIn hn.hasFile.1 hf]
    cases load fs (fileIn nearest) <;> rfl
  shared := by
    intro nearest middle hn hd hm
    obtain ⟨there, hthere⟩ := holds_of_suffix h hm
    have hnearest := nearest?_of_isNearest hthere (hn.between hd hm)
    have hsame : ∀ (path : Path) (found : Target), fs.resolve? path = some (middle, found) →
        discover fs path = discover fs start := by
      intro path found hp
      rw [discover_of_nearest? hp hnearest,
        discover_of_nearest? hr (nearest?_of_isNearest h hn)]
    exact ⟨hsame _ there (FileSystem.resolve?_path hthere), hsame⟩

/-- A search for a configuration finds the nearest file, and answers what loading that file does. It
finds nothing if the path that it starts from leads nowhere. -/
theorem discover_nearest {fs : FileSystem} (hwd : fs.IsDirectory fs.workingDirectory)
    (start : Path) :
    (fs.resolve? start = none → discover fs start = .ok none) ∧
    ∀ (location : FileSystem.Location) (target : Target),
      fs.resolve? start = some (location, target) →
        fs.Holds location target ∧ FindsNearest fs start location := by
  constructor
  · intro hr
    rw [discover, hr]
  · intro location target hr
    have h := FileSystem.holds_of_resolve? hwd hr
    exact ⟨h, findsNearest_of_resolve? hr h⟩

/-- A file system in which the configuration file of the working directory is a directory, while
there is a good one at the root. -/
def shadowed : FileSystem :=
  ((FileSystem.bare ["work"]).insert ["tryke.yaml"] (.file "truncate_at: 7".toUTF8)).insert
    ["tryke.yaml", "work"] .directory

theorem discover_nearest_shadowed :
    shadowed.IsDirectory shadowed.workingDirectory ∧ HasFile shadowed [] ∧
    (discover shadowed (FileSystem.Location.path ["work"])).mapError ConfigError.message =
      .error ("Failed to read config file: " ++ Text.quote "/work/tryke.yaml") := by
  have hwd : shadowed.IsDirectory ["work"] := ⟨by decide, rfl, trivial⟩
  have hr := FileSystem.resolve?_path (FileSystem.holds_directory.mpr hwd)
  obtain ⟨found, hf, hm⟩ := ((discover_nearest hwd _).2 _ _ hr).2.reported ["work"]
    (isNearest_self ⟨hwd, rfl⟩)
  cases hf
  exact ⟨hwd, ⟨trivial, rfl⟩, hm⟩

end Attest.Config
