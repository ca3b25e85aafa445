import ScopeCheck.FileCheck

/-!
# ScopeCheck.Folder

Folders in memory. A dot stays where it is, and two dots go back to the folder around. A name with
anything behind it must be that of a folder. What lies outside of the folder is not known.
-/

namespace ScopeCheck

/-- The files and folders inside of a folder, each under the names that lead to it. -/
structure Folder where
  contents : List (List String × ByteArray) := []
  /-- Folders that are there without regard to files in them. -/
  folders : List (List String) := []

namespace Folder

/-- The names of which a path consists. -/
def names (path : String) : List String := path.splitToList (· == '/')

def addFile (folder : Folder) (path : String) (bytes : ByteArray) : Folder :=
  { folder with contents := (names path, bytes) :: folder.contents }

def addFolder (folder : Folder) (path : String) : Folder :=
  { folder with folders := names path :: folder.folders }

def file? (folder : Folder) (place : List String) : Option ByteArray :=
  (folder.contents.find? fun entry => entry.1 == place).map Prod.snd

/-- Whether some names lead to a folder: one that is there by itself, or has something in it. -/
def isFolder (folder : Folder) (place : List String) : Bool :=
  let leadsBelow (other : List String) : Bool :=
    place.isPrefixOf other && place.length < other.length
  place.isEmpty || folder.folders.any (fun other => other == place || leadsBelow other) ||
    folder.contents.any fun entry => leadsBelow entry.1

/-- The place to which some names lead from another place. -/
def follow (folder : Folder) (place : List String) : List String → Except ReadFailure (List String)
  | [] => .ok place
  | name :: rest =>
    if !folder.isFolder place then
      -- A file on the way is another fault than a missing name.
      .error (if (folder.file? place).isSome then .unreadable else .notFound)
    else if name == "" || name == "." then follow folder place rest
    else if name == ".." then
      if place.isEmpty then .error .notFound else follow folder place.dropLast rest
    else follow folder (place ++ [name]) rest

/-- What can be read under each path. A path that begins with a slash leads outside. -/
def files (folder : Folder) : Files := fun path =>
  if path.isEmpty || path.startsWith "/" then .error .notFound
  else do
    let place ← folder.follow [] (names path)
    match folder.file? place with
    | some bytes => return bytes
    | none => throw (if folder.isFolder place then .unreadable else .notFound)

end Folder

end ScopeCheck
