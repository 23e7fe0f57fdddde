import QuestWeb.Dataset.Access
import QuestWeb.Proofs.Results

/-!
What writing a file does to a tree. A path that has been written leads to its file from then on, its
folder lists the file, and other writes leave the file alone unless they lead to the same place.
-/

namespace QuestWeb

namespace Path

def step (here : Path) (name : String) : Path :=
  if name = ".." then here.dropLast else here ++ [name]

def resolve (here : Path) (names : List String) : Path :=
  names.foldl step here

theorem partsFrom_slash (part left right : List Char) :
    partsFrom part (left ++ '/' :: right) = partsFrom part left ++ partsFrom [] right := by
  induction left generalizing part with
  | nil => rfl
  | cons c rest ih =>
      rw [List.cons_append, partsFrom, partsFrom]
      by_cases slash : c = '/'
      · simp [slash, ih]
      · simp [slash, ih]

theorem parts_slash (text : String) (left right : List Char)
    (spelled : text.toList = left ++ '/' :: right) :
    parts text = parts (String.ofList left) ++ parts (String.ofList right) := by
  simp [parts, spelled, partsFrom_slash]

theorem partsFrom_plain (part text : List Char) (plain : '/' ∉ text) :
    partsFrom part text = [String.ofList (part.reverse ++ text)] := by
  induction text generalizing part with
  | nil => simp [partsFrom]
  | cons c rest ih =>
      rw [List.mem_cons, not_or] at plain
      rw [partsFrom, if_neg (Ne.symm plain.1), ih _ plain.2]
      simp

theorem parts_plain (text : String) (plain : '/' ∉ text.toList) :
    parts text = [text].filter leads := by
  simp [parts, partsFrom_plain [] _ plain]

theorem parts_under (root path : String) (relative : isAbsolute path = false) :
    parts (under root path) = parts root ++ parts path := by
  unfold under
  rw [relative]
  simp only [Bool.false_eq_true, ↓reduceIte, Bool.or_eq_true, decide_eq_true_eq]
  split
  · rename_i ends
    rcases ends with rfl | slash
    · simp [parts, partsFrom, leads]
    · obtain ⟨before, spelled⟩ := List.getLast?_eq_some_iff.mp slash
      rw [parts_slash (root ++ path) before path.toList (by simp [spelled]),
        parts_slash root before [] spelled]
      simp [parts, partsFrom, leads]
  · rw [parts_slash (root ++ "/" ++ path) root.toList path.toList (by simp)]
    simp

theorem isAbsolute_under (root path : String) (relative : isAbsolute path = false) :
    isAbsolute (under root path) = isAbsolute root := by
  by_cases empty : root = ""
  · subst empty
    simpa [under, relative, isAbsolute] using relative
  · obtain ⟨c, rest, spelled⟩ : ∃ c rest, root.toList = c :: rest :=
      List.exists_cons_of_ne_nil (by simpa using empty)
    unfold under
    rw [relative]
    simp only [Bool.false_eq_true, ↓reduceIte]
    split <;> simp [isAbsolute, spelled]

theorem under_append (root path rest : String) (some_ : path ≠ "")
    (relative : isAbsolute path = false) : under root (path ++ rest) = under root path ++ rest := by
  obtain ⟨c, others, spelled⟩ : ∃ c others, path.toList = c :: others :=
    List.exists_cons_of_ne_nil (by simpa using some_)
  have longer : isAbsolute (path ++ rest) = false := by
    simpa [isAbsolute, spelled] using relative
  unfold under
  rw [relative, longer]
  simp only [Bool.false_eq_true, ↓reduceIte]
  split <;> simp [String.append_assoc]

theorem check_eq_ok (text : String) :
    check text = .ok () ↔ '\x00' ∉ text.toList ∧ text.utf8ByteSize ≤ longest := by
  unfold check
  by_cases zero : '\x00' ∈ text.toList
  · simp [zero]
  · by_cases long : longest < text.utf8ByteSize
    · simp [zero, long]
    · simp [zero, long, Nat.le_of_not_lt long]

theorem check_append (text rest : String) (checked : check (text ++ rest) = .ok ()) :
    check text = .ok () := by
  rw [check_eq_ok, String.toList_append, String.utf8ByteSize_append] at checked
  rw [check_eq_ok]
  exact ⟨fun zero => checked.1 (List.mem_append_left _ zero), Nat.le_of_add_right_le checked.2⟩

theorem asksFolder_slash (text name : String) (plain : '/' ∉ name.toList)
    (named : leads name = true) : asksFolder (text ++ "/" ++ name) = false := by
  have spelled : (text ++ "/" ++ name).toList = text.toList ++ '/' :: name.toList := by simp
  rw [asksFolder, spelled, partsFrom_slash, partsFrom_plain [] _ plain]
  simp [named]

end Path

namespace FileTree

theorem beginning_under (tree : FileTree) (root path : String)
    (relative : Path.isAbsolute path = false) :
    tree.beginning (Path.under root path) = tree.beginning root := by
  rw [beginning, Path.isAbsolute_under root path relative, beginning]

def Walks (tree : FileTree) : Path → List String → Prop
  | _, [] => True
  | here, name :: rest =>
      (tree.isFile here = false ∧ tree.isFolder here = true) ∧
        (name = ".." ∨ name.utf8ByteSize ≤ Path.longestName) ∧
          tree.Walks (Path.step here name) rest

theorem walk_ok (tree : FileTree) (here there : Path) (names : List String) :
    tree.walk here names = .ok there ↔ tree.Walks here names ∧ there = Path.resolve here names := by
  induction names generalizing here with
  | nil =>
      simp only [walk, Walks, Path.resolve, List.foldl_nil, true_and, Except.ok.injEq]
      exact eq_comm
  | cons name rest ih =>
      unfold walk Walks
      rw [Path.resolve, List.foldl_cons, ← Path.resolve]
      by_cases file : tree.isFile here = true
      · simp [file]
      by_cases folder : tree.isFolder here = true
      · by_cases up : name = ".."
        · simp [file, folder, up, ih, Path.step]
        · by_cases short : name.utf8ByteSize ≤ Path.longestName
          · simp [file, folder, up, ih, Path.step, short, Nat.not_lt.mpr short]
          · simp [file, folder, up, short, Nat.not_le.mp short]
      · simp [file, folder]

theorem Walks.first {tree : FileTree} {here : Path} (names rest : List String)
    (walks : tree.Walks here (names ++ rest)) : tree.Walks here names := by
  induction names generalizing here with
  | nil => trivial
  | cons name names ih =>
      obtain ⟨standing, short, later⟩ := walks
      exact ⟨standing, short, ih later⟩

def Stands (tree : FileTree) : Path → List String → Prop
  | _, [] => True
  | here, name :: rest =>
      (name = ".." ∨ name.utf8ByteSize ≤ Path.longestName ∧
        tree.isFile (here ++ [name]) = false ∧ tree.isFolder (here ++ [name]) = true) ∧
          tree.Stands (Path.step here name) rest

/-- Folders that are there are not created again. -/
theorem Stands.createFolders {tree : FileTree} {here : Path} {names : List String}
    (stands : tree.Stands here names) (isNew : Bool) :
    tree.createFolders isNew here names = .ok tree := by
  induction names generalizing here with
  | nil => rfl
  | cons name rest ih =>
      obtain ⟨own, later⟩ := stands
      by_cases up : name = ".."
      · subst up
        exact ih later
      · obtain ⟨short, file, folder⟩ := own.resolve_left up
        rw [Path.step, if_neg up] at later
        rw [FileTree.createFolders]
        · simp only [Nat.not_lt.mpr short, file, folder, Bool.false_eq_true, ↓reduceIte]
          exact ih later
        · exact up

structure Grows (tree after : FileTree) : Prop where
  here : after.here = tree.here
  folders : ∀ place, tree.isFolder place = true → after.isFolder place = true
  apart : ∀ place, tree.isFolder place = true → tree.isFile place = false →
    after.isFile place = false
  kept : ∀ place, tree.isFile place = true → tree.isFolder place = false →
    after.isFile place = true ∧ after.isFolder place = false

namespace Grows

variable {tree middle after : FileTree}

theorem refl (tree : FileTree) : tree.Grows tree where
  here := rfl
  folders := fun _ folder => folder
  apart := fun _ _ file => file
  kept := fun _ file folder => ⟨file, folder⟩

theorem trans (first : tree.Grows middle) (second : middle.Grows after) : tree.Grows after where
  here := second.here.trans first.here
  folders := fun place folder => second.folders place (first.folders place folder)
  apart := fun place folder file =>
    second.apart place (first.folders place folder) (first.apart place folder file)
  kept := fun place file folder =>
    have own := first.kept place file folder
    second.kept place own.1 own.2

theorem beginning (grows : tree.Grows after) (path : String) :
    after.beginning path = tree.beginning path := by
  rw [FileTree.beginning, grows.here, FileTree.beginning]

theorem walks (grows : tree.Grows after) {here : Path} {names : List String}
    (walks : tree.Walks here names) : after.Walks here names := by
  induction names generalizing here with
  | nil => trivial
  | cons name rest ih =>
      obtain ⟨⟨file, folder⟩, short, later⟩ := walks
      exact ⟨⟨grows.apart here folder file, grows.folders here folder⟩, short, ih later⟩

theorem stands (grows : tree.Grows after) {here : Path} {names : List String}
    (stands : tree.Stands here names) : after.Stands here names := by
  induction names generalizing here with
  | nil => trivial
  | cons name rest ih =>
      obtain ⟨own, later⟩ := stands
      refine ⟨own.imp_right ?_, ih later⟩
      rintro ⟨short, file, folder⟩
      exact ⟨short, grows.apart _ folder file, grows.folders _ folder⟩

end Grows

theorem isFolder_insert (tree : FileTree) (folder place : Path) :
    FileTree.isFolder { tree with folders := tree.folders.insert folder } place =
      (folder == place || tree.isFolder place) := by
  simp only [isFolder, Std.ExtTreeSet.contains_insert, Std.compare_beq_eq_beq]
  cases place.isEmpty <;> simp

theorem grows_folder (tree : FileTree) (folder : Path) (free : tree.isFile folder = false) :
    tree.Grows { tree with folders := tree.folders.insert folder } where
  here := rfl
  folders := by
    intro place present
    rw [isFolder_insert, present, Bool.or_true]
  apart := fun _ _ file => file
  kept := by
    intro place file apart
    refine ⟨file, ?_⟩
    rw [isFolder_insert, apart, Bool.or_false, beq_eq_false_iff_ne]
    rintro rfl
    rw [free] at file
    contradiction

theorem createFolders_ok (tree after : FileTree) (isNew : Bool) (here : Path)
    (names : List String) (created : tree.createFolders isNew here names = .ok after) :
    tree.Grows after ∧ after.files = tree.files ∧ after.Stands here names := by
  induction names generalizing tree isNew here with
  | nil =>
      cases created
      exact ⟨.refl _, rfl, trivial⟩
  | cons name rest ih =>
      by_cases up : name = ".."
      · subst up
        obtain ⟨grows, files, stands⟩ := ih tree isNew here.dropLast created
        exact ⟨grows, files, .inl rfl, stands⟩
      · rw [createFolders] at created
        · by_cases long : Path.longestName < name.utf8ByteSize
          · simp [long] at created
          by_cases file : tree.isFile (here ++ [name]) = true
          · simp [long, file] at created
          have free : tree.isFile (here ++ [name]) = false := by simpa using file
          have next : Path.step here name = here ++ [name] := if_neg up
          simp only [long, free, Bool.false_eq_true, ↓reduceIte] at created
          by_cases folder : tree.isFolder (here ++ [name]) = true
          · simp only [folder, ↓reduceIte] at created
            obtain ⟨grows, files, stands⟩ := ih tree isNew _ created
            exact ⟨grows, files, .inr ⟨Nat.le_of_not_lt long, grows.apart _ folder free,
              grows.folders _ folder⟩, next ▸ stands⟩
          · simp only [folder, Bool.false_eq_true, ↓reduceIte] at created
            obtain ⟨grows, files, stands⟩ := ih _ true _ created
            have there : FileTree.isFolder
                { tree with folders := tree.folders.insert (here ++ [name]) } (here ++ [name]) =
                  true := by
              simp [isFolder_insert]
            exact ⟨(tree.grows_folder _ free).trans grows, files,
              .inr ⟨Nat.le_of_not_lt long, grows.apart _ there free, grows.folders _ there⟩,
              next ▸ stands⟩
        · exact up

section Files

-- Left closed, since the folders on a path are told by its parts, which would be evaluated.
attribute [local irreducible] Path.parts

def target (tree : FileTree) (path : String) : Path :=
  Path.resolve (tree.beginning path) (Path.parts path)

theorem Grows.target {tree after : FileTree} (grows : tree.Grows after) (path : String) :
    after.target path = tree.target path := by
  rw [FileTree.target, grows.beginning, FileTree.target]

theorem target_under (tree : FileTree) (root path : String)
    (relative : Path.isAbsolute path = false) :
    tree.target (Path.under root path) = Path.resolve (tree.target root) (Path.parts path) := by
  rw [target, tree.beginning_under root path relative, Path.parts_under root path relative,
    Path.resolve, List.foldl_append]
  rfl

/-- A path that leads to a file with this content, by folders that are all there. -/
structure Holds (tree : FileTree) (path : String) (content : FileContent) : Prop where
  checked : Path.check path = .ok ()
  aboveChecked : Path.check (Path.above path) = .ok ()
  above : tree.Stands (tree.beginning (Path.above path)) (Path.parts (Path.above path))
  walks : tree.Walks (tree.beginning path) (Path.parts path)
  named : Path.endsInSlash path = false ∧ Path.asksFolder path = false
  folder : tree.isFolder (tree.target path).dropLast = true
  free : tree.isFolder (tree.target path) = false
  content : tree.files[tree.target path]? = some content

theorem grows_file (tree : FileTree) (place : Path) (content : FileContent)
    (free : tree.isFolder place = false) :
    tree.Grows { tree with files := tree.files.insert place content } where
  here := rfl
  folders := fun _ folder => folder
  apart := by
    intro other folder file
    have apart : place ≠ other := by
      rintro rfl
      rw [free] at folder
      contradiction
    rw [isFile] at file
    simp [isFile, Std.ExtTreeMap.contains_insert, apart, file]
  kept := by
    intro other file folder
    rw [isFile] at file
    exact ⟨by simp [isFile, Std.ExtTreeMap.contains_insert, file], folder⟩

theorem locate_ok (tree : FileTree) (path : String) (here : Path)
    (located : tree.locate path = .ok here) :
    Path.check path = .ok () ∧ tree.Walks (tree.beginning path) (Path.parts path) ∧
      here = tree.target path := by
  unfold locate at located
  obtain ⟨_, checked, located⟩ := (bind_eq_ok _ _ _).mp located
  obtain ⟨there, walked, located⟩ := (bind_eq_ok _ _ _).mp located
  obtain ⟨walks, rfl⟩ := (tree.walk_ok _ _ _).mp walked
  split at located
  · cases located
  · exact ⟨checked, walks, ((pure_eq_ok _ _).mp located).symm⟩

theorem locate_of_walks (tree : FileTree) (path : String) (checked : Path.check path = .ok ())
    (walks : tree.Walks (tree.beginning path) (Path.parts path))
    (named : Path.asksFolder path = false) : tree.locate path = .ok (tree.target path) := by
  have walked := (tree.walk_ok _ _ _).mpr ⟨walks, rfl⟩
  unfold locate
  rw [checked, walked, named]
  rfl

theorem writeAt_ok (tree after : FileTree) (path : String) (content : FileContent)
    (written : tree.writeAt path content = .ok after) :
    tree.locate path = .ok (tree.target path) ∧
      (Path.endsInSlash path = false ∧ Path.asksFolder path = false) ∧
        tree.isFolder (tree.target path).dropLast = true ∧
          tree.isFolder (tree.target path) = false ∧
            after = { tree with files := tree.files.insert (tree.target path) content } := by
  unfold writeAt at written
  by_cases slash : Path.endsInSlash path = true
  · rw [if_pos slash] at written
    obtain ⟨_, _, written⟩ := (bind_eq_ok _ _ _).mp written
    cases written
  · rw [if_neg slash] at written
    obtain ⟨here, located, written⟩ := (bind_eq_ok _ _ _).mp written
    obtain ⟨_, _, rfl⟩ := tree.locate_ok path here located
    by_cases folder : tree.isFolder (tree.target path) = true
    · rw [if_pos folder] at written
      cases written
    · rw [if_neg folder] at written
      by_cases room : (!Path.asksFolder path && tree.isFolder (tree.target path).dropLast) = true
      · rw [if_pos room, pure_eq_ok] at written
        rw [Bool.and_eq_true, Bool.not_eq_true'] at room
        exact ⟨located, ⟨by simpa using slash, room.1⟩, room.2, by simpa using folder,
          written.symm⟩
      · rw [if_neg room] at written
        cases written

/-- A file that is written is there, the tree has grown, and no other file has changed. -/
theorem write_ok (tree after : FileTree) (path : String) (content : FileContent)
    (written : tree.write path content = .ok after) :
    after.Holds path content ∧ tree.Grows after ∧
      ∀ place, place ≠ tree.target path → after.files[place]? = tree.files[place]? := by
  unfold write at written
  obtain ⟨middle, created, written⟩ := (bind_eq_ok _ _ _).mp written
  unfold createFolder at created
  obtain ⟨_, aboveChecked, created⟩ := (bind_eq_ok _ _ _).mp created
  obtain ⟨first, files, above⟩ := createFolders_ok _ _ _ _ _ created
  obtain ⟨located, named, folder, free, rfl⟩ := writeAt_ok _ _ _ _ written
  obtain ⟨checked, walks, _⟩ := locate_ok _ _ _ located
  have second := middle.grows_file (middle.target path) content free
  refine ⟨⟨checked, aboveChecked, ?above, second.walks walks, named, folder, free, ?content⟩,
    first.trans second, ?others⟩
  case above =>
    rw [second.beginning, first.beginning]
    exact second.stands above
  case content =>
    rw [second.target]
    change (middle.files.insert (middle.target path) content)[middle.target path]? = _
    rw [Std.ExtTreeMap.getElem?_insert_self]
  case others =>
    intro place other
    have apart : middle.target path ≠ place := by
      rw [first.target]
      exact other.symm
    change (middle.files.insert (middle.target path) content)[place]? = _
    rw [Std.ExtTreeMap.getElem?_insert, files]
    simp [apart]

namespace Holds

variable {tree after : FileTree} {path : String} {content : FileContent}

theorem located (holds : tree.Holds path content) : tree.locate path = .ok (tree.target path) :=
  tree.locate_of_walks path holds.checked holds.walks holds.named.2

theorem readText {text : String} (holds : tree.Holds path (.text text)) :
    tree.readText path = .ok text := by
  simp [FileTree.readText, FileTree.content, holds.located, holds.content]

theorem write (holds : tree.Holds path content) : tree.write path content = .ok tree := by
  have same : tree.files.insert (tree.target path) content = tree.files := by
    apply Std.ExtTreeMap.ext_getElem?
    intro place
    rw [Std.ExtTreeMap.getElem?_insert]
    by_cases own : tree.target path = place
    · simp [← own, holds.content]
    · simp [own]
  have created : tree.createFolder (Path.above path) = .ok tree :=
    (bind_eq_ok _ _ _).mpr ⟨(), holds.aboveChecked, holds.above.createFolders false⟩
  have written : tree.writeAt path content = .ok tree := by
    unfold writeAt
    rw [if_neg (by simp [holds.named.1]), holds.located]
    simp [bind, Except.bind, holds.free, holds.named.2, holds.folder, same, pure, Except.pure]
  exact (bind_eq_ok _ _ _).mpr ⟨tree, created, written⟩

/-- A file stays what it is until something is written where it is. -/
theorem grows (holds : tree.Holds path content) (grows : tree.Grows after)
    (kept : after.files[tree.target path]? = tree.files[tree.target path]?) :
    after.Holds path content := by
  have file : tree.isFile (tree.target path) = true := by
    rw [isFile, Std.ExtTreeMap.contains_eq_isSome_getElem?, holds.content]
    rfl
  constructor
  case checked => exact holds.checked
  case aboveChecked => exact holds.aboveChecked
  case above =>
    rw [grows.beginning]
    exact grows.stands holds.above
  case walks =>
    rw [grows.beginning]
    exact grows.walks holds.walks
  case named => exact holds.named
  case folder =>
    rw [grows.target]
    exact grows.folders _ holds.folder
  case free =>
    rw [grows.target]
    exact (grows.kept _ file holds.free).2
  case content =>
    rw [grows.target, kept]
    exact holds.content

theorem mem_jsonNames {folder name : String}
    (holds : tree.Holds (folder ++ "/" ++ name) content)
    (asks : Path.asksFolder folder = false) (parts : Path.parts name = [name]) (up : name ≠ "..")
    (json : isJsonName name = true) : name ∈ tree.jsonNames folder := by
  have spelled : (folder ++ "/" ++ name).toList = folder.toList ++ '/' :: name.toList := by simp
  have begins : tree.beginning (folder ++ "/" ++ name) = tree.beginning folder := by
    cases first : folder.toList with
    | nil => simp [Path.asksFolder, first, Path.partsFrom, Path.leads] at asks
    | cons c rest => simp [beginning, Path.isAbsolute, first]
  have behind : Path.parts (folder ++ "/" ++ name) = Path.parts folder ++ [name] := by
    rw [Path.parts_slash _ _ _ spelled, String.ofList_toList, String.ofList_toList, parts]
  have place : tree.target (folder ++ "/" ++ name) = tree.target folder ++ [name] := by
    rw [target, begins, behind, Path.resolve, List.foldl_append, target]
    simp [Path.resolve, Path.step, up]
  have walks := holds.walks
  rw [begins, behind] at walks
  have checked := holds.checked
  rw [String.append_assoc] at checked
  have located := tree.locate_of_walks folder (Path.check_append _ _ checked)
    (walks.first _ _) asks
  have file : tree.target folder ++ [name] ∈ tree.files.keys := by
    rw [Std.ExtTreeMap.mem_keys, Std.ExtTreeMap.mem_iff_isSome_getElem?, ← place, holds.content]
    rfl
  rw [jsonNames, located]
  refine List.mem_filterMap.mpr ⟨_, file, ?_⟩
  simp [json]

end Holds

end Files

end FileTree

end QuestWeb
