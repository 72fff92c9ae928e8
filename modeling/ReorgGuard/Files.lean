import ReorgGuard.Path
import ReorgGuard.Text.Utf8
import ReorgGuard.Text.Quoted

/-!
The files that a node can read.

Files and directories are held under their full list of components.  A path is walked component
by component from the working directory or the root, so that two dots lead back only from a
directory that exists, and nothing lies below a file.

There are no permissions and no links: whatever stands at a place can be looked up, entered and read.
-/

namespace ReorgGuard

inductive FileNode where
  | file (octets : List UInt8)
  | directory

structure Files where
  home : List String
  nodes : List (List String × FileNode)

/-- What a path leads to. -/
inductive FileFound where
  | missing
  | belowFile
  | nameTooLong
  | directory
  | file (octets : List UInt8)

inductive FileFault where
  | missing (path : String)
  | notDirectory (path : String)
  | isDirectory (path : String)
  | nameTooLong (path : String)

def FileFault.message : FileFault → String
  | missing path => "[Errno 2] No such file or directory: " ++ Text.quote path
  | notDirectory path => "[Errno 20] Not a directory: " ++ Text.quote path
  | isDirectory path => "[Errno 21] Is a directory: " ++ Text.quote path
  | nameTooLong path => "[Errno 36] File name too long: " ++ Text.quote path

namespace Files

/-- The text of a file, line ends unified. -/
def textOf? (octets : List UInt8) : Option String :=
  (Text.ofUtf8? octets).map fun s => String.ofList (Text.unifyLineEnds s.toList)

def node? (files : Files) (place : List String) : Option FileNode :=
  if place.isPrefixOf files.home then some .directory else files.nodes.lookup place

def walk (files : Files) (place : List String) : List String → FileFound
  | [] => .directory
  | part :: rest =>
      if part = ".." then walk files place.dropLast rest
      else if 255 < part.utf8ByteSize then .nameTooLong
      else
        match files.node? (place ++ [part]) with
        | none => .missing
        | some .directory => walk files (place ++ [part]) rest
        | some (.file octets) => if rest.isEmpty then .file octets else .belowFile

def find (files : Files) (path : Path) : FileFound :=
  if path.parts.any fun part => part.toList.contains '\x00' then .missing
  else if 4096 ≤ path.text.utf8ByteSize then .nameTooLong
  else files.walk (if path.isAbsolute then [] else files.home) path.parts

def homePath (files : Files) : Path :=
  ⟨.slash, files.home⟩

def placesAbove (place : List String) : List (List String) :=
  (List.range place.length).map place.take

/-- Puts something at a place, with the directories on the way to it. -/
def putNode (files : Files) (place : List String) (node : FileNode) : Files :=
  let missing := (placesAbove place).filter fun above => (files.node? above).isNone
  { files with
    nodes := (place, node) :: missing.map (·, .directory) ++ files.nodes.filter (·.1 ≠ place) }

def placeOf (files : Files) (path : Path) : List String :=
  (Path.absolute files.homePath path).parts

def write (files : Files) (path : Path) (octets : List UInt8) : Files :=
  files.putNode (files.placeOf path) (.file octets)

def makeDirectory (files : Files) (path : Path) : Files :=
  files.putNode (files.placeOf path) .directory

def remove (files : Files) (path : Path) : Except FileFault Files :=
  match files.find path with
  | .missing => .error (.missing path.text)
  | .belowFile => .error (.notDirectory path.text)
  | .directory => .error (.isDirectory path.text)
  | .nameTooLong => .error (.nameTooLong path.text)
  | .file _ => .ok { files with nodes := files.nodes.filter (·.1 ≠ files.placeOf path) }

end Files

end ReorgGuard
