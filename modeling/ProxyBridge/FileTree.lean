import ProxyBridge.Dict

/-!
# File trees

Directories and files below one root directory. A `Place` is a list of names from the root down. A
path is a text with slashes, which is followed from the root; it passes through directories only.

* `FileTree.locate?` — the place that a path leads to.
* `FileTree.read?`, `FileTree.write?` — the text of a file.
* `FileTree.withFile` — a file with all directories above it.
-/

namespace ProxyBridge

/-- Names from the root down. -/
abbrev Place := List String

/-- Directories and files below a root, which is always there. -/
structure FileTree where
  directories : List Place
  /-- The files with their texts; a file without one holds bytes that are no text. -/
  files : List (Place × Option String)

/-- The text that bytes are, if they are one. -/
def textOfBytes? (bytes : List UInt8) : Option String := String.fromUTF8? ⟨bytes.toArray⟩

namespace Place

/-- The place from the root and all directories above it, the nearest first. -/
def upward (p : Place) : List Place := (List.range (p.length + 1)).reverse.map p.take

/-- The names of a path. -/
def names (path : String) : List String := path.splitOn "/"

/-- The place that names lead to, wherever there are directories. Nothing above the root is a
place. -/
def follow? (start : Place) : List String → Option Place
  | [] => some start
  | name :: rest =>
    if name = "" ∨ name = "." then follow? start rest
    else if name = ".." then if start = [] then none else follow? start.dropLast rest
    else follow? (start ++ [name]) rest

/-- A place as a path from the root. -/
def path (p : Place) : String := "/".intercalate p

end Place

namespace FileTree

/-- The tree with the root only. -/
def empty : FileTree := { directories := [], files := [] }

/-- There is a directory at the place. -/
def isDirectory (t : FileTree) (p : Place) : Bool := p.isEmpty || t.directories.contains p

/-- The text can name a file: it has at most 255 bytes, none of which is zero. -/
def isName (name : String) : Bool := name.utf8ByteSize ≤ 255 && !name.toList.contains '\x00'

/-- The place that names lead to from a place. All names but the last have to be those of
directories. -/
def walk? (t : FileTree) (start : Place) : List String → Option Place
  | [] => some start
  | name :: rest =>
    if !t.isDirectory start then none
    else if name = "" ∨ name = "." then t.walk? start rest
    else if name = ".." then if start = [] then none else t.walk? start.dropLast rest
    else if !isName name then none
    else t.walk? (start ++ [name]) rest

/-- The greatest number of bytes in a path. -/
def longestPath : Nat := 4095

/-- The place that a path leads to. -/
def locate? (t : FileTree) (path : String) : Option Place :=
  if path.utf8ByteSize ≤ longestPath then t.walk? [] (Place.names path) else none

/-! ## Files -/

/-- The text at a place. -/
def textAt? (t : FileTree) (p : Place) : Option String :=
  if t.isDirectory p then none else (t.files.lookup p).join

/-- The text of a file. -/
def read? (t : FileTree) (path : String) : Option String := (t.locate? path).bind t.textAt?

/-- The tree with a text at a place, whatever was there. -/
def putText (t : FileTree) (p : Place) (content : Option String) : FileTree :=
  { t with files := t.files.filter (·.1 ≠ p) ++ [(p, content)] }

/-- The tree with a text in a file. The directory of the file has to exist. -/
def write? (t : FileTree) (path : String) (text : String) : Option FileTree :=
  match t.locate? path with
  | none => none
  | some p => if t.isDirectory p then none else some (t.putText p (some text))

/-! ## Building trees -/

/-- The tree with a directory and all above it. -/
def withDirectory (t : FileTree) (p : Place) : FileTree :=
  { t with directories := p.upward ++ t.directories }

/-- The tree with a file and all directories above it. -/
def withFile (t : FileTree) (p : Place) (content : Option String) : FileTree :=
  (t.withDirectory p.dropLast).putText p content

/-- The tree with every directory that names pass through from a place, and the place that they
lead to. Nothing lies above the root. -/
def withPassage (t : FileTree) (start : Place) : List String → FileTree × Place
  | [] => (t, start)
  | name :: rest =>
    if name = "" ∨ name = "." then t.withPassage start rest
    else if name = ".." then t.withPassage start.dropLast rest
    else (t.withDirectory (start ++ [name])).withPassage (start ++ [name]) rest

/-- The tree of directories and files with given paths. -/
def ofPaths (directories : List String) (files : List (String × Option String)) : FileTree :=
  let t := directories.foldl (fun t d => (t.withPassage [] (Place.names d)).1) empty
  files.foldl (fun t f =>
    let names := Place.names f.1
    let (t, d) := t.withPassage [] names.dropLast
    t.putText (d ++ names.getLast?.toList) f.2) t

/-- The paths of all files, in order. -/
def listing (t : FileTree) : List String :=
  let listed : Dict String Unit :=
    t.files.foldl (fun listed f => Dict.insert (Place.path f.1) () listed) []
  listed.keys

end FileTree

end ProxyBridge
