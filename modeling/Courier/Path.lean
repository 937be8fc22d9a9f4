import Courier.Text.Blank
/-!
File paths. A path keeps the text it was given, because messages show it; two texts name the same
path when they have the same components. A slash too many, and a single dot that is not the whole
start of a relative path, name no component.
-/

namespace Courier

structure Path where
  text : String
  deriving DecidableEq, Repr, Inhabited

namespace Path

inductive Component where
  | root
  | here
  | up
  | name (text : String)
  deriving DecidableEq, Repr

/-- What stands between two slashes of a path, and whether it names a component. -/
structure Piece where
  text : List Char
  counts : Bool

def isAbsolute (path : Path) : Bool :=
  path.text.toList.head? == some '/'

/-- The pieces of a path. The first piece of a relative path counts even if it is a dot. -/
def pieces (path : Path) : List Piece :=
  match Text.pieces (· == '/') path.text.toList with
  | [] => []
  | first :: rest =>
    let piece (text : List Char) : Piece := ⟨text, !text.isEmpty && text != ['.']⟩
    (if first == ['.'] then ⟨first, true⟩ else piece first) :: rest.map piece

def Piece.component (piece : Piece) : Component :=
  if piece.text = ['.'] then .here
  else if piece.text = ['.', '.'] then .up
  else .name (String.ofList piece.text)

def components (path : Path) : List Component :=
  (if path.isAbsolute then [.root] else []) ++
    ((path.pieces.filter (·.counts)).map Piece.component)

def Same (left right : Path) : Prop :=
  left.components = right.components

instance (left right : Path) : Decidable (Same left right) :=
  inferInstanceAs (Decidable (left.components = right.components))

def isEmpty (path : Path) : Bool :=
  path.text.isEmpty

/-- The path of `rest` as seen from `base`. An absolute rest stands for itself. -/
def join (base : Path) (rest : String) : Path :=
  let chars := base.text.toList
  if rest.toList.head? == some '/' || chars.isEmpty then ⟨rest⟩
  else if chars.getLast? == some '/' then ⟨base.text ++ rest⟩
  else ⟨base.text ++ "/" ++ rest⟩

def ofPieces (pieces : List Piece) : Path :=
  ⟨String.ofList (List.intercalate ['/'] (pieces.map Piece.text))⟩

def dropIdle (pieces : List Piece) : List Piece :=
  (pieces.reverse.dropWhile fun piece => !piece.counts).reverse

/-- The path without its last component; a root and an empty path have none. -/
def parent? (path : Path) : Option Path :=
  match dropIdle path.pieces with
  | [] => none
  | piece :: rest =>
    match dropIdle (piece :: rest).dropLast with
    | [] => some ⟨if path.isAbsolute then "/" else ""⟩
    | front => some (ofPieces front)

/-- The name that the path ends with, unless it ends with a root or dots. -/
def fileName? (path : Path) : Option String :=
  match path.components.getLast? with
  | some (.name text) => some text
  | _ => none

/-- A file name up to its last dot; a dot at the start begins no extension. -/
def stem (name : List Char) : List Char :=
  match (name.reverse.dropWhile (· != '.')).drop 1 with
  | [] => name
  | front => front.reverse

/-- What a file name has behind the dot after its stem. -/
def extension (name : List Char) : List Char :=
  name.drop ((stem name).length + 1)

def withoutExtension (path : Path) : Path :=
  match path.fileName? with
  | some name =>
    let cut := (extension name.toList).length
    ⟨String.ofList (path.text.toList.reverse.drop cut).reverse⟩
  | none => path

/-- The path with an extension behind the stem of its file name, if it has one. -/
def setExtension (path : Path) (extension : String) : Path :=
  match path.fileName?, (dropIdle path.pieces).getLast? with
  | some _, some last =>
    let ending := if extension.isEmpty then [] else '.' :: extension.toList
    ofPieces ((dropIdle path.pieces).dropLast ++ [⟨stem last.text ++ ending, true⟩])
  | _, _ => path

/-- The path with the extension of its file name replaced, or added where there is none. What is
replaced is cut off up to its dot before the new one is set, and a path that ends in two dots by
then has no file name left. -/
def withExtension (path : Path) (extension : String) : Path :=
  path.withoutExtension.setExtension extension

/-- What is left of the path after the components of `base`, if it begins with them. -/
def after? (base path : Path) : Option Path :=
  if base.components.isPrefixOf path.components then
    let named := base.components.filter (· != .root)
    if base.components.isEmpty then
      some (ofPieces (dropIdle path.pieces))
    else
      let rec skip : Nat → List Piece → List Piece
        | _, [] => []
        | 0, piece :: rest => if piece.counts then piece :: rest else skip 0 rest
        | count + 1, piece :: rest => skip (if piece.counts then count else count + 1) rest
      some (ofPieces (dropIdle (skip named.length path.pieces)))
  else none

end Path

end Courier
