/-!
# A working directory

The files and folders that a console can reach, as a value. Paths are resolved name by name from the working directory, and every way
in which this can fail has a reason. Names are limited to 255 bytes and paths to 4095.

`Directory.save` writes a file after it has made the folders on the way to it. The folders stay where they are if the file cannot
be written in the end.
-/

namespace DebugConsole

/-- Why a file or folder cannot be used. -/
inductive FileError
  | missing
  /-- Something on the way that is not a folder. -/
  | notAFolder
  /-- A folder in the place of a file. -/
  | isAFolder
  | alreadyThere
  | nameTooLong
  /-- A path with a null character. -/
  | nullCharacter
deriving DecidableEq, Repr

/-- The error as the system words it. -/
def FileError.message : FileError → String
  | missing => "No such file or directory (os error 2)"
  | notAFolder => "Not a directory (os error 20)"
  | isAFolder => "Is a directory (os error 21)"
  | alreadyThere => "File exists (os error 17)"
  | nameTooLong => "File name too long (os error 36)"
  | nullCharacter => "file name contained an unexpected NUL byte"

/-- What a name in a folder stands for. -/
inductive Entry
  | file (text : String)
  | folder
deriving DecidableEq, Repr

/-- All that is below a working directory, by the names that lead there. A folder is listed before what is in it. -/
structure Directory where
  entries : List (List String × Entry) := []
deriving DecidableEq, Repr

/-- Where a path leads: a name in a folder, or a folder itself. -/
inductive Place
  /-- A name in a folder. The path may end in a slash, which asks for a folder. -/
  | name (folder : List String) (name : String) (slash : Bool)
  /-- The folder that a path with a dot or two at its end leads to. -/
  | folder (names : List String)
deriving DecidableEq, Repr

namespace Path

/-- The names of a path, cut at every slash. -/
def names (path : String) : List String :=
  (path.toList.splitOn '/').map String.ofList

/-- Whether a name stays in the folder it is looked up in. -/
def isStay (name : String) : Bool :=
  name == "" || name == "."

/-- Names without those at the end that lead nowhere else. -/
def dropStays (names : List String) : List String :=
  (names.reverse.dropWhile isStay).reverse

/-- The path of the folder that a path leads into, if the path has a name to leave out. -/
def parent? (path : String) : Option String :=
  match names path with
  | [] => none
  | first :: rest =>
    match dropStays rest with
    | [] => if first = "" then none else some ""
    | rest =>
      match dropStays rest.dropLast with
      | [] => some (if first = "" then "/" else first)
      | rest => some (String.intercalate "/" (first :: rest))

end Path

namespace Directory

/-- An error and the path that it is about. -/
structure Failure where
  path : String
  error : FileError
deriving DecidableEq, Repr

/-- What a list of names leads to. No names lead to the working directory. -/
def entry? (d : Directory) (names : List String) : Option Entry :=
  if names = [] then some .folder else (d.entries.find? fun e => e.1 = names).map (·.2)

/-- What a name leads to from a folder, if anything. -/
def lookUp (d : Directory) (here : List String) (name : String) : Except FileError (Option Entry) :=
  if 255 < name.utf8ByteSize then .error .nameTooLong else .ok (d.entry? (here ++ [name]))

/-- The folder that a name leads to from another one. -/
def enter (d : Directory) (here : List String) (name : String) : Except FileError (List String) :=
  if Path.isStay name then .ok here
  else if name = ".." then .ok here.dropLast
  else
    match d.lookUp here name with
    | .error e => .error e
    | .ok none => .error .missing
    | .ok (some (.file _)) => .error .notAFolder
    | .ok (some .folder) => .ok (here ++ [name])

/-- Where a path leads. -/
def locate (d : Directory) (path : String) : Except FileError Place :=
  if path.toList.contains '\x00' then .error .nullCharacter
  else if path = "" then .error .missing
  else if 4095 < path.utf8ByteSize then .error .nameTooLong
  else
    let names := Path.names path
    let walked := (names.reverse.dropWhile (· == "")).reverse
    match walked.getLast? with
    | none => .ok (.folder [])
    | some last => do
      let folder ← walked.dropLast.foldlM d.enter []
      if last = "." ∨ last = ".." then return .folder (← d.enter folder last)
      return .name folder last (names.getLast? == some "")

/-- Whether a path leads to something. -/
def contains (d : Directory) (path : String) : Bool :=
  match d.locate path with
  | .error _ => false
  | .ok (.folder _) => true
  | .ok (.name folder last slash) =>
    match d.entry? (folder ++ [last]) with
    | none => false
    | some (.file _) => !slash
    | some .folder => true

/-- Whether a path leads to a folder. -/
def containsFolder (d : Directory) (path : String) : Bool :=
  match d.locate path with
  | .error _ => false
  | .ok (.folder _) => true
  | .ok (.name folder last _) => d.entry? (folder ++ [last]) == some .folder

/-- The text of the file that a path leads to. -/
def read (d : Directory) (path : String) : Except FileError String :=
  match d.locate path with
  | .error e => .error e
  | .ok (.folder _) => .error .isAFolder
  | .ok (.name folder last slash) =>
    match d.lookUp folder last with
    | .error e => .error e
    | .ok none => .error .missing
    | .ok (some .folder) => .error .isAFolder
    | .ok (some (.file text)) => if slash then .error .notAFolder else .ok text

/-- The directory with an entry in place of the one that had its names. -/
def put (d : Directory) (names : List String) (e : Entry) : Directory :=
  ⟨d.entries.filter (fun other => other.1 ≠ names) ++ [(names, e)]⟩

/-- Writes a file, in place of the one that is there. -/
def write (d : Directory) (path text : String) : Except FileError Directory :=
  match d.locate path with
  | .error e => .error e
  | .ok (.folder _) => .error .isAFolder
  | .ok (.name folder last slash) =>
    if slash then .error .isAFolder
    else
      match d.lookUp folder last with
      | .error e => .error e
      | .ok (some .folder) => .error .isAFolder
      | .ok _ => .ok (d.put (folder ++ [last]) (.file text))

/-- Makes a folder. -/
def makeFolder (d : Directory) (path : String) : Except FileError Directory :=
  match d.locate path with
  | .error e => .error e
  | .ok (.folder _) => .error .alreadyThere
  | .ok (.name folder last _) =>
    match d.lookUp folder last with
    | .error e => .error e
    | .ok (some _) => .error .alreadyThere
    | .ok none => .ok (d.put (folder ++ [last]) .folder)

/-- Makes a folder, unless it is there already. -/
def provideFolder (d : Directory) (path : String) : Except FileError Directory :=
  match d.makeFolder path with
  | .ok d => .ok d
  | .error e => if d.containsFolder path then .ok d else .error e

/-- Makes the folder that names lead to, the last name first, and before it the folders on the way that are missing. The folders
that are made before an error stay. -/
def makeFoldersTo (d : Directory) : List String → Except FileError Unit × Directory
  | [] => (.ok (), d)
  | last :: before =>
    let path := String.intercalate "/" (last :: before).reverse
    match d.makeFolder path with
    | .error .missing =>
      match d.makeFoldersTo before with
      | (.error e, d) => (.error e, d)
      | (.ok (), d) =>
        match d.provideFolder path with
        | .ok d => (.ok (), d)
        | .error e => (.error e, d)
    | _ =>
      match d.provideFolder path with
      | .ok d => (.ok (), d)
      | .error e => (.error e, d)

/-- Makes a folder and the folders on the way to it that are missing. -/
def makeFolders (d : Directory) (path : String) : Except FileError Unit × Directory :=
  d.makeFoldersTo ((Path.names path).filter (!Path.isStay ·)).reverse

/-- Makes the folders on the way to a file that are missing. -/
def makeWay (d : Directory) (path : String) : Except Failure Unit × Directory :=
  match Path.parent? path with
  | none => (.ok (), d)
  | some parent =>
    if parent = "" ∨ d.contains parent then (.ok (), d)
    else
      let (made, d) := d.makeFolders parent
      (made.mapError (Failure.mk parent), d)

/-- Writes a file and makes the folders on the way to it. An error that has to do with the folders is about their path. -/
def save (d : Directory) (path text : String) : Except Failure Unit × Directory :=
  match d.makeWay path with
  | (.error failure, d) => (.error failure, d)
  | (.ok (), d) =>
    match d.write path text with
    | .ok d => (.ok (), d)
    | .error e => (.error ⟨path, e⟩, d)

end Directory

end DebugConsole
