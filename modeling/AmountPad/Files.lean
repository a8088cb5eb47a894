/-!
# Files by name

The files that a program can reach from the directory it was started in. A path is resolved name by
name; a name that is missing, or a file where a directory is wanted, is a fault of its own.

* `Entry`, `Files` — files and directories by name;
* `Files.readText` — the text of a file;
* `Files.append` — a text written behind what a file holds, creating the file where it is missing.
-/

namespace AmountPad

/-- What a name leads to. -/
inductive Entry where
  | file (bytes : ByteArray)
  | directory (entries : List (String × Entry))

/-- The entries of the directory that paths start from. -/
structure Files where
  entries : List (String × Entry) := []

namespace Files

/-- Why a path leads to no text. -/
inductive Fault where
  | notFound
  | notDirectory
  | isDirectory
  | notText
  | nameTooLong
  | nulInName
  | denied
  /-- Any other reason, in words. -/
  | other (what : String)
  deriving DecidableEq, Repr

def Fault.message : Fault → String
  | .notFound => "No such file or directory (os error 2)"
  | .notDirectory => "Not a directory (os error 20)"
  | .isDirectory => "Is a directory (os error 21)"
  | .notText => "stream did not contain valid UTF-8"
  | .nameTooLong => "File name too long (os error 36)"
  | .nulInName => "file name contained an unexpected NUL byte"
  | .denied => "Permission denied (os error 13)"
  | .other what => what

/-- The most octets that one name may have. -/
def maxNameSize : Nat := 255

/-- The most octets that a path may have. -/
def maxPathSize : Nat := 4095

/-- The entry under a list of names. -/
def entryAt : List String → Entry → Option Entry
  | [], e => some e
  | name :: names, .directory entries => (entries.lookup name).bind (entryAt names)
  | _ :: _, .file _ => none

/-- The directory that paths start from, as an entry. -/
def root (fs : Files) : Entry := .directory fs.entries

/-- What a path meets that has left what is known with these names to go: a directory, if they lead
further out only. -/
def outside (names : List String) : Fault :=
  if names.all fun name => ["", ".", ".."].contains name then .isDirectory else .notFound

/-- Follows the names of a path from a place that is given by its own names, innermost first. Only
the last name may be missing. -/
def follow (fs : Files) : List String → List String → Except Fault (List String)
  | above, [] => .ok above
  | above, name :: names =>
    match entryAt above.reverse fs.root with
    | none => .error .notFound
    | some (.file _) => .error .notDirectory
    | some (.directory entries) =>
      if name = "" ∨ name = "." then follow fs above names
      else if name = ".." then
        match above with
        | [] => .error (outside names)
        | _ :: outer => follow fs outer names
      else if maxNameSize < name.utf8ByteSize then .error .nameTooLong
      else if (entries.lookup name).isNone && !names.isEmpty then .error .notFound
      else follow fs (name :: above) names

/-- The names, outermost first, of the place to which a path leads; paths from the root of the
system lead out of what is known. -/
def locate (fs : Files) (path : String) : Except Fault (List String) :=
  if path.toList.contains '\x00' then .error .nulInName
  else if maxPathSize < path.utf8ByteSize then .error .nameTooLong
  else if path = "" ∨ path.toList.head? = some '/' then .error .notFound
  else do return (← follow fs [] (path.splitOn "/")).reverse

/-- The text of the file at a path. -/
def readText (fs : Files) (path : String) : Except Fault String := do
  let names ← fs.locate path
  match entryAt names fs.root with
  | none => throw .notFound
  | some (.directory _) => throw .isDirectory
  | some (.file bytes) =>
    match String.fromUTF8? bytes with
    | some text => return text
    | none => throw .notText

/-- Puts a file under a list of names. -/
def put (bytes : ByteArray) : List String → List (String × Entry) → List (String × Entry)
  | [], entries => entries
  | [name], entries =>
    if (entries.lookup name).isSome then
      entries.map fun (n, e) => if n == name then (n, .file bytes) else (n, e)
    else entries ++ [(name, .file bytes)]
  | name :: names, entries =>
    entries.map fun (n, e) =>
      match e with
      | .directory inner => if n == name then (n, .directory (put bytes names inner)) else (n, e)
      | .file _ => (n, e)

/-- The place of a file that may have to be created. A path that ends in a slash names a directory,
whether there is one or not. -/
def locateFile (fs : Files) (path : String) : Except Fault (List String) :=
  match path.toList.reverse with
  | '/' :: rest => do
    let _ ← fs.locate (String.ofList ('.' :: '/' :: (rest.dropWhile (· != '/')).reverse))
    throw .isDirectory
  | _ => fs.locate path

/-- Writes a text behind what the file at a path holds. -/
def append (fs : Files) (path text : String) : Except Fault Files := do
  let names ← fs.locateFile path
  match entryAt names fs.root with
  | some (.directory _) => throw .isDirectory
  | some (.file bytes) => return ⟨put (bytes ++ text.toUTF8) names fs.entries⟩
  | none => return ⟨put text.toUTF8 names fs.entries⟩

end Files

end AmountPad
