import ReorgGuard.Text.Lines

/-!
Paths of files.

A path is its root and its components.  Empty components and single dots are dropped when a
text is read, two dots are kept.  Exactly two leading slashes are a root of their own.
-/

namespace ReorgGuard

inductive PathRoot where
  | relative
  | slash
  | doubleSlash
  deriving DecidableEq

structure Path where
  root : PathRoot
  parts : List String
  deriving DecidableEq

namespace Path

def rootOf : List Char → PathRoot
  | ['/', '/'] => .doubleSlash
  | '/' :: '/' :: c :: _ => if c = '/' then .slash else .doubleSlash
  | '/' :: _ => .slash
  | _ => .relative

def ofText (s : String) : Path :=
  let pieces := (Text.splitAt '/' s.toList).filter fun p => p ≠ [] && p ≠ ['.']
  ⟨rootOf s.toList, pieces.map String.ofList⟩

/-- Text in which half of a surrogate pair is replaced, as part of a path.  Nothing can be looked for under such a
name, and neither can anything under one with the character zero. -/
def unfindable (s : String) : String :=
  String.ofList (s.toList.map fun c => if c.toNat = 0xFFFD then '\x00' else c)

/-- A path as text; the path without components is a single dot. -/
def text (path : Path) : String :=
  let body := "/".intercalate path.parts
  match path.root with
  | .relative => if body.isEmpty then "." else body
  | .slash => "/" ++ body
  | .doubleSlash => "//" ++ body

def isAbsolute (path : Path) : Bool :=
  path.root ≠ .relative

def join (base path : Path) : Path :=
  if path.isAbsolute then path else ⟨base.root, base.parts ++ path.parts⟩

def parent (path : Path) : Path :=
  ⟨path.root, path.parts.dropLast⟩

def child (path : Path) (name : String) : Path :=
  path.join (ofText name)

/-- Removes each pair of dots together with the component in front of it. -/
def collapse (parts : List String) : List String :=
  parts.foldl (fun kept part => if part = ".." then kept.dropLast else kept ++ [part]) []

def absolute (directory path : Path) : Path :=
  ⟨.slash, collapse (directory.join path).parts⟩

end Path

end ReorgGuard
