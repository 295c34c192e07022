set_option autoImplicit false

/-! # Files

`FileError` says why a file has no text, and `decode` makes a text of its bytes. A `Folder` is a set
of files by their paths; it answers requests the way a file system does whose current directory it
is, so that a run of the command can be described without one.

A *place* is the list of the names that lead from the root to a file or a directory. The folder lies
below the directory for temporary files and has no name that a path could hold: a way out of it does
not lead back.
-/

namespace SqlFilter

/-- Why there is no text to be had from a file. -/
inductive FileError where
  | notFound
  | notDirectory
  | isDirectory
  | nameTooLong
  | notUtf8
  /-- another reason, in the words of the system -/
  | other (reason : String)
  deriving DecidableEq, Repr

/-- The words for an error. -/
def FileError.message : FileError → String
  | .notFound => "No such file or directory (os error 2)"
  | .notDirectory => "Not a directory (os error 20)"
  | .isDirectory => "Is a directory (os error 21)"
  | .nameTooLong => "File name too long (os error 36)"
  | .notUtf8 => "stream did not contain valid UTF-8"
  | .other reason => reason

/-- The text that bytes encode. -/
def decode (bytes : ByteArray) : Except FileError String :=
  match String.fromUTF8? bytes with
  | some text => .ok text
  | none => .error .notUtf8

/-- Files, by their places. -/
structure Folder where
  files : List (List String × ByteArray)

namespace Folder

/-- The names on a path. -/
def names (path : String) : List String :=
  (path.toList.splitOn '/').map String.ofList

/-- The place of the folder itself. -/
def home : List String :=
  ["tmp", "/"]

/-- The folder of the given files, by their paths. Outside of it there is one file, which is empty
at all times. -/
def ofList (files : List (String × ByteArray)) : Folder :=
  ⟨(["dev", "null"], .empty) ::
    files.map fun (path, bytes) => (home ++ (names path).filter (· ≠ ""), bytes)⟩

/-- The bytes of the file at a place. -/
def file? (folder : Folder) (place : List String) : Option ByteArray :=
  (folder.files.find? (·.1 == place)).map (·.2)

/-- The directories that every system has below its root. -/
def standard : List String :=
  ["bin", "boot", "dev", "etc", "home", "lib", "media", "mnt", "opt", "proc", "root", "run", "sbin",
    "srv", "sys", "tmp", "usr", "var"]

/-- Whether a place is a directory: one that every system has, one on the way to the folder, or one
on the way to a file. -/
def isDirectory (folder : Folder) (place : List String) : Bool :=
  standard.any (fun name => place == [name]) || place.isPrefixOf home ||
    folder.files.any fun (path, _) => place.isPrefixOf path && place != path

/-- The longest name that a file may have, in bytes. -/
def longestName : Nat :=
  255

/-- The longest path that may be asked for, in bytes. -/
def longestPath : Nat :=
  4095

/-- The bytes found by following names from a place. Every place that is left has to be a
directory, also when the next name is empty or a dot, which stay where they are. Nothing is above
the root. -/
def follow (folder : Folder) (place : List String) : List String → Except FileError ByteArray
  | [] =>
    match folder.file? place with
    | some bytes => .ok bytes
    | none => if folder.isDirectory place then .error .isDirectory else .error .notFound
  | name :: rest =>
    if (folder.file? place).isSome then .error .notDirectory
    else if !folder.isDirectory place then .error .notFound
    else if name = "" ∨ name = "." then folder.follow place rest
    else if longestName < name.utf8ByteSize then .error .nameTooLong
    else if name = ".." then folder.follow place.dropLast rest
    else folder.follow (place ++ [name]) rest

/-- The bytes of the file at a path. A path that starts with a slash starts at the root. -/
def read (folder : Folder) (path : String) : Except FileError ByteArray :=
  if longestPath < path.utf8ByteSize then
    .error .nameTooLong
  else if path.toList.head? = some '/' then
    folder.follow [] (names path)
  else
    folder.follow home (names path)

end Folder

end SqlFilter
