/-!
# Folders

The files a program finds around it, by their paths.  A path is followed step by step, so that
`./a`, `x/../a` and `a` lead to the same file if there is a folder `x`; and a path that goes on
behind a file leads nowhere, even if all that follows is a `/`.

A folder knows nothing about what is outside of it, except that it is inside some other folder.
-/

namespace LooseEquality

/-- Why a file cannot be read. -/
inductive ReadFailure where
  | missing
  | isFolder
  | notFolder
  /-- The bytes of the file are no UTF-8. -/
  | notText
  /-- Any other reason, in the words of the system. -/
  | other (detail : String)
  deriving DecidableEq, Repr

/-- The failure in words. -/
def ReadFailure.message : ReadFailure → String
  | missing => "No such file or directory (os error 2)"
  | isFolder => "Is a directory (os error 21)"
  | notFolder => "Not a directory (os error 20)"
  | notText => "stream did not contain valid UTF-8"
  | other detail => detail

/-- Files, each with the steps that lead to it and its contents. -/
structure Folder where
  files : List (List String × ByteArray)

namespace Folder

/-- The steps of a path. -/
def steps (path : String) : List String :=
  (path.toList.splitOn '/').map String.ofList

/-- A folder with the given files. -/
def ofFiles (files : List (String × ByteArray)) : Folder :=
  ⟨files.map fun file => (steps file.1, file.2)⟩

/-- The contents of the file at a place, if there is one. -/
def file? (f : Folder) (place : List String) : Option ByteArray := f.files.lookup place

/-- Whether some file lies deeper than the given place. -/
def hasFolder (f : Folder) (place : List String) : Bool :=
  f.files.any fun file => place.isPrefixOf file.1 && place.length < file.1.length

/-- Follow the steps of a path from a place in the folder.  There is no place for where the path
has left the folder. -/
def follow (f : Folder) : Option (List String) → List String → Except ReadFailure ByteArray
  | _, [] => .error .isFolder
  | place, "" :: rest => f.follow place rest
  | place, "." :: rest => f.follow place rest
  | place, ".." :: rest =>
    match place with
    | some (step :: steps) => f.follow (some (step :: steps).dropLast) rest
    | _ => f.follow none rest
  | none, _ :: _ => .error .missing
  | some place, step :: rest =>
    match f.file? (place ++ [step]) with
    | some contents => if rest.isEmpty then .ok contents else .error .notFolder
    | none =>
      if f.hasFolder (place ++ [step]) then f.follow (some (place ++ [step])) rest
      else .error .missing

/-- The bytes of the file at a path.  A path that starts with `/` starts outside of the folder. -/
def read (f : Folder) (path : String) : Except ReadFailure ByteArray :=
  match steps path with
  | "" :: rest => f.follow none rest
  | steps => f.follow (some []) steps

end Folder
end LooseEquality
