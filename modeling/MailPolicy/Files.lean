/-
Files as a check sees them: under a path there is nothing, a file or a directory, and each has a stamp that
tells one version from another.

* `Entry.read` is the content as text, `Entry.stamp` the modification stamp;
* `Files.put`, `Files.remove` and `Files.at?` are a store of files by path.
-/
import MailPolicy.Text.Utf8

namespace MailPolicy

/-- Why a file cannot be read. -/
inductive FileError where
  | notFound
  | isDirectory
  | notUtf8
deriving DecidableEq, Repr

namespace FileError

/-- The word for the kind of error. -/
def name : FileError → String
  | notFound => "NotFound"
  | isDirectory => "IsADirectory"
  | notUtf8 => "InvalidData"

/-- The text of the error. -/
def message : FileError → String
  | notFound => "No such file or directory (os error 2)"
  | isDirectory => "Is a directory (os error 21)"
  | notUtf8 => "stream did not contain valid UTF-8"

end FileError

/-- A modification stamp.  That of a directory is no file's; the modification time of a directory is
ignored, so all directories have the same one. -/
inductive Stamp where
  | file (time : Int)
  | directory
deriving DecidableEq, Repr

/-- What is under a path. -/
inductive Entry where
  | absent
  | file (content : List UInt8) (time : Int)
  | directory
deriving DecidableEq, Repr

namespace Entry

/-- The text of a file. -/
def read : Entry → Except FileError Text
  | absent => .error .notFound
  | directory => .error .isDirectory
  | file content _ =>
    match Utf8.decode? content with
    | some text => .ok text
    | none => .error .notUtf8

/-- The modification stamp. -/
def stamp : Entry → Except FileError Stamp
  | absent => .error .notFound
  | directory => .ok .directory
  | file _ time => .ok (.file time)

end Entry

/-- Files by path. -/
structure Files where
  entries : List (Text × Entry) := []
deriving DecidableEq, Repr

namespace Files

/-- What is under a path. -/
def at? (fs : Files) (path : Text) : Entry := (fs.entries.lookup path).getD .absent

/-- Puts something under a path in place of what was there. -/
def put (fs : Files) (path : Text) (e : Entry) : Files :=
  ⟨(path, e) :: fs.entries.filter (·.1 != path)⟩

/-- Takes away what is under a path. -/
def remove (fs : Files) (path : Text) : Files := fs.put path .absent

@[simp] theorem at?_put_self (fs : Files) (path : Text) (e : Entry) : (fs.put path e).at? path = e := by
  simp [at?, put]

end Files
end MailPolicy
