import CoderDesktop.Apps.ExecLine
import CoderDesktop.Collections.FirstWins

/-!
# Application discovery

`AppDiscovery` lists the applications of the machine: those of the desktop files it finds,
and of a table of known binaries those on `PATH`. An application is known by its id, the
name of the binary its command starts, and the first one discovered keeps it.
-/

namespace CoderDesktop.Apps

open Encoding Collections

/-- A program that is looked for in `PATH`. -/
structure KnownBinary where
  binary : String
  displayName : String
  category : String

/-- The table of the source, in its order. -/
def kKnownBinaries : List KnownBinary := [
  ⟨"code", "Visual Studio Code", "IDE"⟩,
  ⟨"code-insiders", "VS Code Insiders", "IDE"⟩,
  ⟨"cursor", "Cursor", "IDE"⟩,
  ⟨"codium", "VSCodium", "IDE"⟩,
  ⟨"idea", "IntelliJ IDEA", "IDE"⟩,
  ⟨"goland", "GoLand", "IDE"⟩,
  ⟨"pycharm", "PyCharm", "IDE"⟩,
  ⟨"webstorm", "WebStorm", "IDE"⟩,
  ⟨"clion", "CLion", "IDE"⟩,
  ⟨"phpstorm", "PhpStorm", "IDE"⟩,
  ⟨"rider", "Rider", "IDE"⟩,
  ⟨"rubymine", "RubyMine", "IDE"⟩,
  ⟨"datagrip", "DataGrip", "IDE"⟩,
  ⟨"fleet", "Fleet", "IDE"⟩,
  ⟨"zed", "Zed", "IDE"⟩,
  ⟨"lapce", "Lapce", "IDE"⟩,
  ⟨"antigravity", "Antigravity", "IDE"⟩,
  ⟨"firefox", "Firefox", "Browser"⟩,
  ⟨"google-chrome", "Google Chrome", "Browser"⟩,
  ⟨"google-chrome-stable", "Google Chrome", "Browser"⟩,
  ⟨"chromium", "Chromium", "Browser"⟩,
  ⟨"chromium-browser", "Chromium", "Browser"⟩,
  ⟨"brave-browser", "Brave", "Browser"⟩,
  ⟨"vivaldi", "Vivaldi", "Browser"⟩,
  ⟨"zen-browser", "Zen Browser", "Browser"⟩,
  ⟨"microsoft-edge", "Microsoft Edge", "Browser"⟩,
  ⟨"gedit", "gedit", "Editor"⟩,
  ⟨"kate", "Kate", "Editor"⟩,
  ⟨"kwrite", "KWrite", "Editor"⟩,
  ⟨"mousepad", "Mousepad", "Editor"⟩,
  ⟨"xed", "Xed", "Editor"⟩,
  ⟨"pluma", "Pluma", "Editor"⟩,
  ⟨"sublime_text", "Sublime Text", "Editor"⟩,
  ⟨"subl", "Sublime Text", "Editor"⟩,
  ⟨"emacs", "Emacs", "Editor"⟩,
  ⟨"gvim", "GVim", "Editor"⟩,
  ⟨"neovide", "Neovide", "Editor"⟩,
  ⟨"claude", "Claude", "AI Tool"⟩,
  ⟨"aider", "Aider", "AI Tool"⟩,
  ⟨"continue", "Continue", "AI Tool"⟩,
  ⟨"alacritty", "Alacritty", "Terminal"⟩,
  ⟨"kitty", "Kitty", "Terminal"⟩,
  ⟨"wezterm", "WezTerm", "Terminal"⟩,
  ⟨"foot", "Foot", "Terminal"⟩,
  ⟨"gnome-terminal", "GNOME Terminal", "Terminal"⟩,
  ⟨"konsole", "Konsole", "Terminal"⟩,
  ⟨"xfce4-terminal", "Xfce Terminal", "Terminal"⟩,
  ⟨"tilix", "Tilix", "Terminal"⟩]

/-- An application as the scan finds it. -/
structure AppEntry where
  id : Text
  name : Text
  exec : Text
  iconName : Text := []
  iconPath : Text := []
  category : Text
  desktopFile : Text := []
  fromDesktopFile : Bool
deriving DecidableEq, Repr

/-- What a scan asks of the machine. -/
structure Host where
  homePath : Text
  /-- The directories in `/snap`, if there is such a directory. -/
  snapEntries : Option (List Text)
  dirExists : Text → Bool
  /-- The `*.desktop` files in and below a directory, as `QDirIterator` comes to them. -/
  desktopFiles : Text → List Text
  /-- The lines of a file that opens. -/
  readLines : Text → Option (List Text)
  hasThemeIcon : Text → Bool
  /-- Empty for a binary that is not on `PATH`. -/
  findExecutable : Text → Text

/-- Where `.desktop` files are looked for, in this order. -/
def desktopFileDirs (host : Host) : List Text :=
  ["/usr/share/applications".toList,
    "/usr/local/share/applications".toList,
    host.homePath ++ "/.local/share/applications".toList,
    "/var/lib/flatpak/exports/share/applications".toList,
    host.homePath ++ "/.local/share/flatpak/exports/share/applications".toList] ++
  ((host.snapEntries.getD []).map fun snap =>
    "/snap/".toList ++ snap ++ "/current/meta/gui".toList).filter host.dirExists

/-! ## Desktop files -/

/-- The variables of `parseDesktopFile`. -/
structure DesktopEntry where
  inDesktopEntry : Bool := false
  name : Text := []
  exec : Text := []
  icon : Text := []
  categories : Text := []
  type : Text := []
  noDisplay : Bool := false
  hidden : Bool := false

namespace DesktopEntry

/-- `value.compare("true", Qt::CaseInsensitive) == 0` -/
def isTrue (value : Text) : Bool :=
  value.map Char.toLower = "true".toList

/-- One line of the `[Desktop Entry]` group. -/
def assign (entry : DesktopEntry) (key value : Text) : DesktopEntry :=
  if key = "Name".toList then { entry with name := value }
  else if key = "Exec".toList then { entry with exec := value }
  else if key = "Icon".toList then { entry with icon := value }
  else if key = "Categories".toList then { entry with categories := value }
  else if key = "Type".toList then { entry with type := value }
  else if key = "NoDisplay".toList then { entry with noDisplay := isTrue value }
  else if key = "Hidden".toList then { entry with hidden := isTrue value }
  else entry

/-- The key and the value of a line with an equals sign behind its start. -/
def keyValue (line : Text) : Option (Text × Text) :=
  let key := line.takeWhile (· ≠ '=')
  match line.dropWhile (· ≠ '=') with
  | [] => none
  | _ :: value => if key = [] then none else some (trimmed isSpace key, trimmed isSpace value)

/-- The loop of `parseDesktopFile`. -/
def read : DesktopEntry → List Text → DesktopEntry
  | entry, [] => entry
  | entry, line :: rest =>
      let line := trimmed isSpace line
      if line.head? = some '[' ∧ line.getLast? = some ']' then
        if line = "[Desktop Entry]".toList then read { entry with inDesktopEntry := true } rest
        else if entry.inDesktopEntry then entry
        else read entry rest
      else if entry.inDesktopEntry then
        match keyValue line with
        | some (key, value) => read (entry.assign key value) rest
        | none => read entry rest
      else
        read entry rest

/-- An application that is not hidden, with a name and a command. -/
def Visible (entry : DesktopEntry) : Prop :=
  ¬ (entry.type ≠ "Application".toList ∨ entry.noDisplay = true ∨ entry.hidden = true) ∧
    ¬ (entry.name = [] ∨ entry.exec = [])

instance (entry : DesktopEntry) : Decidable entry.Visible :=
  inferInstanceAs (Decidable (_ ∧ _))

end DesktopEntry

/-- The first rule that fits decides, not the first category. -/
def categorizeFromDesktopCategories (categories : Text) : Text :=
  let parts := ((categories.splitOn ';').filter (· ≠ [])).map (trimmed isSpace)
  if "IDE".toList ∈ parts ∨ "Development".toList ∈ parts then "IDE".toList
  else if "WebBrowser".toList ∈ parts then "Browser".toList
  else if "TextEditor".toList ∈ parts then "Editor".toList
  else if "TerminalEmulator".toList ∈ parts then "Terminal".toList
  else "Other".toList

/-- The last part of the program's path; behind `env` the first word that assigns nothing. -/
def binaryNameFromExec (exec : Text) : Text :=
  let firstToken := exec.takeWhile (· ≠ ' ')
  let binary :=
    if firstToken = "env".toList then
      let tokens := (exec.splitOn ' ').filter (· ≠ [])
      ((tokens.drop 1).find? fun token => '=' ∉ token).getD firstToken
    else
      firstToken
  binary.rtakeWhile (· ≠ '/')

/-- The entry of a desktop file that passes the filter. -/
def appEntry (host : Host) (filePath : Text) (fields : DesktopEntry) : AppEntry :=
  let exec := cleanExecLine fields.exec
  let absolute := fields.icon.head? = some '/'
  { id := binaryNameFromExec exec
    name := fields.name
    exec
    iconName := if absolute ∨ (fields.icon ≠ [] ∧ host.hasThemeIcon fields.icon) then fields.icon
      else []
    iconPath := if absolute then fields.icon else []
    category := categorizeFromDesktopCategories fields.categories
    desktopFile := filePath
    fromDesktopFile := true }

/-- The application a readable file describes, if it is to be shown. -/
def parseDesktopFile (host : Host) (filePath : Text) : Option AppEntry :=
  match host.readLines filePath with
  | none => none
  | some lines =>
      let fields := DesktopEntry.read {} lines
      if fields.Visible then some (appEntry host filePath fields) else none

/-! ## The scan -/

/-- What a scan has found so far, and the ids it has seen. -/
structure Discovered where
  results : List AppEntry := []
  seenIds : List Text := []

/-- One file of the inner loop of `scanDesktopFiles`. -/
def Discovered.visit (host : Host) (found : Discovered) (filePath : Text) : Discovered :=
  match parseDesktopFile host filePath with
  | none => found
  | some entry =>
      if entry.id ∈ found.seenIds then found
      else { results := found.results ++ [entry], seenIds := entry.id :: found.seenIds }

/-- The files of all directories, visited in their order. -/
def scanDesktopFiles (host : Host) : List AppEntry :=
  ((desktopFileDirs host).foldl
    (fun found dirPath => (host.desktopFiles dirPath).foldl (Discovered.visit host) found)
    {}).results

/-- The entry of a binary that is on `PATH`. -/
def KnownBinary.entry (known : KnownBinary) : AppEntry where
  id := known.binary.toList
  name := known.displayName.toList
  exec := known.binary.toList
  category := known.category.toList
  fromDesktopFile := false

/-- The known programs that are in `PATH` and were not found before. -/
def scanPathBinaries (host : Host) (existing : List AppEntry) : List AppEntry :=
  let existingIds := existing.map AppEntry.id
  (kKnownBinaries.filter fun known =>
    known.binary.toList ∉ existingIds ∧ host.findExecutable known.binary.toList ≠ []).map
    KnownBinary.entry

/-- First the `.desktop` files, then the programs they left out. -/
def scan (host : Host) : List AppEntry :=
  let apps := scanDesktopFiles host
  apps ++ scanPathBinaries host apps

/-! ## First discovered -/

/-- The desktop files of a scan, in order. -/
def desktopFilePaths (host : Host) : List Text :=
  (desktopFileDirs host).flatMap host.desktopFiles

/-- The applications of these files, before any is left out for its id. -/
def visibleApps (host : Host) : List AppEntry :=
  (desktopFilePaths host).filterMap (parseDesktopFile host)

/-- A file with the desktop entry of a visible application. -/
def Describes (host : Host) (filePath : Text) (fields : DesktopEntry) : Prop :=
  ∃ lines, host.readLines filePath = some lines ∧ DesktopEntry.read {} lines = fields ∧
    fields.Visible

variable (host : Host)

/-- Visiting files keeps the first app of each id. -/
theorem results_visit (found : Discovered) (filePaths : List Text) :
    (filePaths.foldl (Discovered.visit host) found).results =
      found.results ++ firstWins AppEntry.id found.seenIds
        (filePaths.filterMap (parseDesktopFile host)) := by
  induction filePaths generalizing found with
  | nil => exact (List.append_nil _).symm
  | cons filePath rest inductionHypothesis =>
      rw [List.foldl_cons, inductionHypothesis, Discovered.visit]
      cases parsed : parseDesktopFile host filePath with
      | none => rw [List.filterMap_cons_none parsed]
      | some entry =>
          rw [List.filterMap_cons_some parsed, firstWins]
          by_cases seen : entry.id ∈ found.seenIds
          · simp only [seen, if_true]
          · simp only [seen, if_false, List.append_assoc, List.singleton_append]

/-- Of the visible apps the scan keeps the first of each id. -/
theorem scanDesktopFiles_eq :
    scanDesktopFiles host = firstWins AppEntry.id [] (visibleApps host) := by
  rw [scanDesktopFiles, ← List.foldl_flatMap, results_visit]
  rfl

/-- No binary is listed twice. -/
theorem nodup_binary : (kKnownBinaries.map KnownBinary.binary).Nodup := by decide

/-- A known binary is its own binary name. -/
theorem binaryNameFromExec_binary :
    ∀ known ∈ kKnownBinaries, binaryNameFromExec known.binary.toList = known.binary.toList := by
  decide

/-- A binary that is found is a known one, and no app has its id yet. -/
theorem mem_scanPathBinaries {existing : List AppEntry} {app : AppEntry}
    (member : app ∈ scanPathBinaries host existing) :
    app.id ∉ existing.map AppEntry.id ∧ ∃ known ∈ kKnownBinaries, known.entry = app := by
  obtain ⟨known, kept, rfl⟩ := List.mem_map.mp member
  obtain ⟨listed, passes⟩ := List.mem_filter.mp kept
  exact ⟨(decide_eq_true_iff.mp passes).1, known, listed, rfl⟩

/-- No binary is found twice. -/
theorem nodup_scanPathBinaries (existing : List AppEntry) :
    ((scanPathBinaries host existing).map AppEntry.id).Nodup := by
  have ids : ((scanPathBinaries host existing).map AppEntry.id).Sublist
      ((kKnownBinaries.map KnownBinary.binary).map String.toList) := by
    rw [scanPathBinaries, List.map_map, List.map_map]
    exact List.filter_sublist.map _
  exact (nodup_binary.map fun _ _ same => String.toList_injective same).sublist ids

/-- No id is found twice. -/
theorem nodup_scan : ((scan host).map AppEntry.id).Nodup := by
  rw [scan, List.map_append, List.nodup_append']
  refine ⟨?_, nodup_scanPathBinaries host _, ?_⟩
  · rw [scanDesktopFiles_eq]
    exact nodup_map_firstWins [] (visibleApps host)
  · intro id fromFile onPath
    obtain ⟨app, member, rfl⟩ := List.mem_map.mp onPath
    exact (mem_scanPathBinaries host member).1 fromFile

/-- A file makes an app exactly when it can be read and is visible. -/
theorem parseDesktopFile_eq_some_iff {filePath : Text} {app : AppEntry} :
    parseDesktopFile host filePath = some app ↔
      ∃ lines, host.readLines filePath = some lines ∧
        (DesktopEntry.read {} lines).Visible ∧
          appEntry host filePath (DesktopEntry.read {} lines) = app := by
  rw [parseDesktopFile]
  cases host.readLines filePath with
  | none => simp
  | some lines => simp [Option.ite_none_right_eq_some]

/-- The id of an application is the name of the binary of its command. -/
theorem id_of_mem_scan {app : AppEntry} (member : app ∈ scan host) :
    app.id = binaryNameFromExec app.exec := by
  rcases List.mem_append.mp member with fromFile | onPath
  · rw [scanDesktopFiles_eq] at fromFile
    have found := List.mem_of_find?_eq_some (mem_firstWins.mp fromFile).2
    obtain ⟨filePath, -, parsed⟩ := List.mem_filterMap.mp found
    obtain ⟨lines, -, -, rfl⟩ := (parseDesktopFile_eq_some_iff host).mp parsed
    rfl
  · obtain ⟨-, known, listed, rfl⟩ := mem_scanPathBinaries host onPath
    exact (binaryNameFromExec_binary known listed).symm

/-- Of the applications with one id, the first discovered is listed and no other. So the
command of a file is listed exactly if the first file with its id has the same command. -/
theorem scan_firstDiscovered :
    ((scan host).map AppEntry.id).Nodup ∧
      ∀ filePath ∈ desktopFilePaths host, ∀ fields, Describes host filePath fields →
        ∃ first ∈ scan host,
          (visibleApps host).find? (fun app =>
            app.id = binaryNameFromExec (cleanExecLine fields.exec)) = some first ∧
          ((∃ app ∈ scan host, app.exec = cleanExecLine fields.exec) ↔
            first.exec = cleanExecLine fields.exec) := by
  refine ⟨nodup_scan host, ?_⟩
  rintro filePath member fields ⟨lines, opens, rfl, visible⟩
  have parsed := (parseDesktopFile_eq_some_iff host).mpr ⟨lines, opens, visible, rfl⟩
  have appears : appEntry host filePath (DesktopEntry.read {} lines) ∈ visibleApps host :=
    List.mem_filterMap.mpr ⟨filePath, member, parsed⟩
  obtain ⟨first, kept, found⟩ : ∃ first ∈ firstWins AppEntry.id [] (visibleApps host), _ :=
    exists_mem_firstWins appears
  have listed : first ∈ scan host :=
    List.mem_append_left _ ((scanDesktopFiles_eq host).symm ▸ kept)
  refine ⟨first, listed, found, ?_, fun same => ⟨first, listed, same⟩⟩
  rintro ⟨app, other, exec⟩
  have firstId : first.id =
      binaryNameFromExec (cleanExecLine (DesktopEntry.read {} lines).exec) := by
    have holds := List.find?_some found
    exact decide_eq_true_iff.mp holds
  have appId := id_of_mem_scan host other
  rw [exec] at appId
  have equal : app = first :=
    List.inj_on_of_nodup_map (nodup_scan host) other listed (appId.trans firstId.symm)
  exact equal ▸ exec

/-- Two Flatpak applications. Both are started by `flatpak`. -/
def flatpakHost : Host where
  homePath := "/home/user".toList
  snapEntries := none
  dirExists _ := false
  desktopFiles dirPath :=
    if dirPath = "/var/lib/flatpak/exports/share/applications".toList then
      ["gimp.desktop".toList, "kate.desktop".toList]
    else
      []
  readLines filePath :=
    if filePath = "gimp.desktop".toList then
      some ["[Desktop Entry]".toList, "Type=Application".toList, "Name=GIMP".toList,
        "Exec=flatpak run org.gimp.GIMP %U".toList]
    else if filePath = "kate.desktop".toList then
      some ["[Desktop Entry]".toList, "Type=Application".toList, "Name=Kate".toList,
        "Exec=flatpak run org.kde.kate %U".toList]
    else
      none
  hasThemeIcon _ := false
  findExecutable _ := []

/-- Kate's file on a host with Flatpak apps. -/
theorem describes_kate : ∃ fields, Describes flatpakHost "kate.desktop".toList fields ∧
    cleanExecLine fields.exec = "flatpak run org.kde.kate".toList :=
  ⟨_, ⟨_, rfl, rfl, by decide⟩, by decide⟩

/-- The first app with the id `flatpak` is found. -/
theorem first_flatpak_listed : ∃ first ∈ scan flatpakHost,
    (visibleApps flatpakHost).find? (fun app => app.id = "flatpak".toList) = some first := by
  obtain ⟨fields, describes, command⟩ := describes_kate
  obtain ⟨first, listed, found, -⟩ :=
    (scan_firstDiscovered flatpakHost).2 _ (by decide) fields describes
  have id : binaryNameFromExec (cleanExecLine fields.exec) = "flatpak".toList := by
    rw [command]
    decide
  rw [id] at found
  exact ⟨first, listed, found⟩

/-- A second app with the same id is not. -/
theorem second_flatpak_not_listed :
    ¬ ∀ filePath ∈ desktopFilePaths flatpakHost, ∀ fields,
      Describes flatpakHost filePath fields →
        ∃ app ∈ scan flatpakHost, app.exec = cleanExecLine fields.exec := by
  intro listed
  obtain ⟨fields, describes, command⟩ := describes_kate
  have member : "kate.desktop".toList ∈ desktopFilePaths flatpakHost := by decide
  obtain ⟨app, kept, exec⟩ := listed _ member fields describes
  rw [command] at exec
  have absent : ∀ app ∈ scan flatpakHost, app.exec ≠ "flatpak run org.kde.kate".toList := by decide
  exact absent app kept exec

end CoderDesktop.Apps
