import CommentSpell.Host.Path
import CommentSpell.Text.Lines
import CommentSpell.Text.Utf8

/-!
# Files

The files that a session can read, as a small tree in memory.  Relative paths start at the working
directory, which is the top of the tree; what lies above it is not known.  Absolute paths lead into
the tree of the machine, of which only the standard folders and the null device are known.

Reading a file can fail because there is nothing at the path, because a step leads through a file,
because the path leads to a directory, because the path is too long, or because the bytes are not
UTF-8.  A file is written together with the directories on the way to it; it replaces a file, but a
file and a directory never replace each other.
-/

namespace CommentSpell

/-- What a path can lead to. -/
inductive FileNode where
  | file (bytes : List UInt8)
  | directory
deriving DecidableEq

/-- The files and directories below the top of a tree: `nodes` pairs the steps from the top with the
node there. -/
structure FileStore where
  nodes : List (List Text × FileNode)
deriving DecidableEq

/-- Why a path could not be read as a text. -/
inductive ReadFault where
  | notFound
  | notDirectory
  | isDirectory
  | nameTooLong
  | notUtf8 (cause : Text.Utf8Error)
deriving DecidableEq

/-- Why a node could not be written at a path. -/
inductive WriteFault where
  /-- A directory is wanted where a file is. -/
  | isFile
  /-- The path leads through a file. -/
  | notDirectory
  /-- A file is wanted where a directory is. -/
  | isDirectory
  | nameTooLong
deriving DecidableEq

namespace ReadFault

/-- `fault.message path` is the wording of `fault` for `path`. -/
def message (path : Path) : ReadFault → String
  | notFound => s!"[Errno 2] No such file or directory: {path.quoted}"
  | notDirectory => s!"[Errno 20] Not a directory: {path.quoted}"
  | isDirectory => s!"[Errno 21] Is a directory: {path.quoted}"
  | nameTooLong => s!"[Errno 36] File name too long: {path.quoted}"
  | notUtf8 cause => cause.message

end ReadFault

namespace FileStore

instance : EmptyCollection FileStore := ⟨⟨[]⟩⟩

/-- The step `..` to the parent. -/
def upward : Text :=
  ['.', '.']

/-- `store.nodeAt? steps` is the node at `steps` from the top; the top itself is a directory. -/
def nodeAt? (store : FileStore) (steps : List Text) : Option FileNode :=
  if steps.isEmpty then some .directory else store.nodes.lookup steps

/-- `byteLength text` is the number of bytes of `text` in UTF-8. -/
def byteLength (text : Text) : Nat :=
  text.foldl (fun bytes c => bytes + c.utf8Size) 0

/-- The number of bytes that a step may have. -/
def maxStepBytes : Nat :=
  255

/-- The number of bytes that a path may not reach. -/
def maxPathBytes : Nat :=
  4096

/-! ### Reading -/

/-- `store.walk rooted above here steps` follows `steps` from `here`, which lies `above` levels above
the top or, if `above = 0`, below it.  A step upward from the top of a tree that is `rooted` leads
nowhere. -/
def walk (store : FileStore) (rooted : Bool) : (above : Nat) → (here : List Text) → List Text →
    Except ReadFault FileNode
  | above, here, [] =>
    if above = 0 then
      match store.nodeAt? here with
      | some node => .ok node
      | none => .error .notFound
    else .ok .directory
  | above, here, step :: steps =>
    match (if above = 0 then store.nodeAt? here else some .directory) with
    | none => .error .notFound
    | some (.file _) => .error .notDirectory
    | some .directory =>
      if step = upward then
        if !here.isEmpty then walk store rooted above here.dropLast steps
        else if rooted then walk store rooted above [] steps
        else walk store rooted (above + 1) [] steps
      else if maxStepBytes < byteLength step then .error .nameTooLong
      else if above = 0 then walk store rooted 0 (here ++ [step]) steps
      else .error .notFound

/-- The standard folders at the root of a machine, and its null device, which reads as an empty
file. -/
def machine : FileStore :=
  ⟨(["bin", "boot", "dev", "etc", "home", "lib", "media", "mnt", "opt", "proc", "root", "run", "sbin",
      "srv", "sys", "tmp", "usr", "var"].map fun name => ([name.toList], .directory))
    ++ [(["dev".toList, "null".toList], .file [])]⟩

/-- `store.find path` is the node at `path`; a path with a root leads into `machine`. -/
def find (store : FileStore) (path : Path) : Except ReadFault FileNode :=
  if maxPathBytes ≤ byteLength path.toText then .error .nameTooLong
  else if path.root.isEmpty then store.walk false 0 [] path.steps
  else machine.walk true 0 [] path.steps

/-- `store.readText path` is the text of the file at `path`, with all line breaks written as line
feeds. -/
def readText (store : FileStore) (path : Path) : Except ReadFault Text :=
  match store.find path with
  | .error fault => .error fault
  | .ok .directory => .error .isDirectory
  | .ok (.file bytes) =>
    match Text.decodeUtf8 bytes with
    | .ok text => .ok (Text.unifyLineBreaks text)
    | .error cause => .error (.notUtf8 cause)

/-! ### Writing -/

/-- `store.put steps node` is `store` with `node` at `steps` from the top, in place of what was there. -/
def put (store : FileStore) (steps : List Text) (node : FileNode) : FileStore :=
  ⟨(steps, node) :: store.nodes.filter (·.1 != steps)⟩

/-- `store.makeDirectories here steps` follows `steps` from the directory `here` and makes the
directories that are missing; the answer is the store then, and the directory at the end. -/
def makeDirectories (store : FileStore) : (here : List Text) → List Text →
    Except WriteFault (FileStore × List Text)
  | here, [] => .ok (store, here)
  | here, step :: steps =>
    if step = upward then makeDirectories store here.dropLast steps
    else if maxStepBytes < byteLength step then .error .nameTooLong
    else
      match store.nodeAt? (here ++ [step]) with
      | some .directory => makeDirectories store (here ++ [step]) steps
      | some (.file _) => .error (if steps.isEmpty then .isFile else .notDirectory)
      | none => makeDirectories (store.put (here ++ [step]) .directory) (here ++ [step]) steps

/-- `store.write path node` is `store` with `node` written at `path`. -/
def write (store : FileStore) (path : Path) : FileNode → Except WriteFault FileStore
  | .directory => (store.makeDirectories [] path.steps).map Prod.fst
  | .file bytes =>
    match store.makeDirectories [] path.steps.dropLast with
    | .error fault => .error fault
    | .ok (store, here) =>
      match path.steps.getLast? with
      | none => .error .isDirectory
      | some name =>
        if name = upward then .error .isDirectory
        else if maxStepBytes < byteLength name then .error .nameTooLong
        else
          match store.nodeAt? (here ++ [name]) with
          | some .directory => .error .isDirectory
          | _ => .ok (store.put (here ++ [name]) (.file bytes))

/-- `store.writeAll nodes` writes `nodes` one after the other, up to the first that cannot be written;
the answer is the fault of that one, if there is one, and the store then. -/
def writeAll (store : FileStore) : List (Path × FileNode) → Except WriteFault Unit × FileStore
  | [] => (.ok (), store)
  | (path, node) :: rest =>
    match store.write path node with
    | .ok store => store.writeAll rest
    | .error fault => (.error fault, store)

end FileStore

end CommentSpell
