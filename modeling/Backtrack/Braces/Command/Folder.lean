import Backtrack.Braces.Command.Error

/-!
A folder of files, and what reading a path in it gives. A path is followed component by component:
an empty component or a dot stays, two dots go up, and only a folder can be passed through. The
names under which the files were put into the folder follow the same rules.
-/
namespace Backtrack.Braces.Command

/-- Files by name, and folders inside. Names are relative, with components divided by slashes. -/
structure Folder where
  files : List (String × ByteArray) := []
  folders : List String := []

namespace Folder

/-- The components of a path. -/
def components (path : String) : List String := path.splitOn "/"

/-- A component that stays where it is. -/
def isIdle (component : String) : Bool := component == "" || component == "."

/-- The places that some components pass through, beginning with `place`; a place is given by the
names that lead to it, outermost first. Nothing is passed any more outside of the folder. -/
def places (place : List String) : List String → List (List String)
  | [] => [place]
  | component :: rest =>
    if isIdle component then places place rest
    else if component == ".." then
      place :: if place.isEmpty then [] else places place.dropLast rest
    else place :: places (place ++ [component]) rest

/-- The places that a name passes through; the last one is what it names. -/
def placesOf (name : String) : List (List String) :=
  if name.startsWith "/" then [] else places [] (components name)

/-- The content of the file at a place, of several files the one put there last. -/
def file? (folder : Folder) (place : List String) : Option ByteArray :=
  (folder.files.reverse.find? fun (name, _) => (placesOf name).getLast? == some place).map (·.2)

/-- A place is a folder if a folder's name passes through it, or a file's name on its way. -/
def isFolder (folder : Folder) (place : List String) : Bool :=
  (folder.folders.flatMap placesOf ++
    folder.files.flatMap fun (name, _) => (placesOf name).dropLast).contains place

/-- Names have at most this many bytes. -/
def maxNameBytes : Nat := 255

/-- Paths have at most this many bytes. -/
def maxPathBytes : Nat := 4095

/-- Follow components from a place; outside of the folder, where it has `none`, nothing is found
by name. -/
def follow (folder : Folder) (place : Option (List String)) :
    List String → Except ReadError ByteArray
  | [] => .error .isDirectory
  | component :: rest =>
    if isIdle component then folder.follow place rest
    else if component == ".." then
      folder.follow (place.bind fun path => if path.isEmpty then none else some path.dropLast) rest
    else if maxNameBytes < component.utf8ByteSize then .error .nameTooLong
    else
      match place with
      | none => .error .notFound
      | some path =>
        let next := path ++ [component]
        match folder.file? next with
        | some content => if rest.isEmpty then .ok content else .error .notDirectory
        | none => if folder.isFolder next then folder.follow (some next) rest else .error .notFound

/-- Read the file at a path. A path with a NUL is no path at all, the empty path names nothing, and
a path that begins with a slash does not begin in the folder. -/
def read (folder : Folder) (path : String) : Except ReadError ByteArray :=
  if path.contains '\x00' then .error .nulInPath
  else if path.isEmpty then .error .notFound
  else if maxPathBytes < path.utf8ByteSize then .error .nameTooLong
  else folder.follow (if path.startsWith "/" then none else some []) (components path)

end Folder
end Backtrack.Braces.Command
