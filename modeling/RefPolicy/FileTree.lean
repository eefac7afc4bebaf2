import RefPolicy.Settings.Load

/-!
# RefPolicy.FileTree

A directory tree given by the files in it: a working directory and a home
directory, and what paths lead to in them.  What is not a file is a directory.
A path is followed component by component, so every directory on the way has to
exist; above the working directory there are directories of which nothing is
known.
-/

namespace RefPolicy

/-- Files by path, relative to a directory; without text, the path is an
empty directory.  Components are in order from the directory down. -/
structure FileTree where
  entries : List (List String × Option String)

namespace FileTree

/-- What stands at a place in the tree. -/
def at? (tree : FileTree) (place : List String) : Option Entry :=
  if place.isEmpty then some .noFile
  else
    match tree.entries.find? fun entry => entry.1 == place with
    | some (_, some text) => some (.file text)
    | some (_, none) => some .noFile
    | none =>
      if tree.entries.any fun entry => place.isPrefixOf entry.1 then some .noFile else none

/-- Follow components from a directory; `none` for a place is a directory
above the tree. -/
def follow (tree : FileTree) : List String → Option (List String) → Option (Option (List String))
  | [], place => some place
  | component :: rest, place =>
    let isDirectory := match place with
      | none => true
      | some place => match tree.at? place with
        | some .noFile => true
        | _ => false
    if !isDirectory then none
    else if component = "" ∨ component = "." then tree.follow rest place
    else if component = ".." then
      match place with
      | some (_ :: _) => tree.follow rest (place.map List.dropLast)
      | _ => tree.follow rest none
    else
      match place with
      | some place =>
        let inner := place ++ [component]
        if (tree.at? inner).isSome then tree.follow rest (some inner) else none
      | none => none

/-- The components of a path. -/
def components (path : String) : List String := path.splitToList (· == '/')

/-- What a path leads to.  Nothing is known of absolute paths but the root. -/
def lookUp (tree : FileTree) (path : String) : Option Entry :=
  match path.toList with
  | [] => none
  | '/' :: rest => if rest.all (fun c => c == '/' || c == '.') then some .noFile else none
  | _ =>
    match tree.follow (components path) (some []) with
    | some (some place) => tree.at? place
    | some none => some .noFile
    | none => none

/-- A tree from names; a name that ends in a slash is an empty directory. -/
def ofNames (files : List (String × String)) : FileTree :=
  ⟨files.map fun file =>
    ((components file.1).filter (· != ""), if file.1.endsWith "/" then none else some file.2)⟩

end FileTree

/-- A working directory and a home directory. -/
structure Surroundings where
  working : FileTree
  home : FileTree

/-- What a place leads to.  Nothing is known of what stands beside the working
directory. -/
def Surroundings.lookUp (surroundings : Surroundings) : Place → Option Entry
  | .path path => surroundings.working.lookUp path
  | .home path => surroundings.home.lookUp path
  | .besideWorking => none

/-- Surroundings from names; names below the home directory begin with `~/`. -/
def Surroundings.ofNames (files : List (String × String)) : Surroundings where
  working := .ofNames (files.filter fun file => !file.1.startsWith "~/")
  home :=
    .ofNames ((files.filter fun file => file.1.startsWith "~/").map fun file =>
      (String.ofList (file.1.toList.drop 2), file.2))

end RefPolicy
