/-! A tree of files and directories, and what a path names in it. -/
namespace MathTokens

inductive FileNode where
  | directory
  | file (bytes : ByteArray)

inductive Found where
  | nothing
  | notAFile
  | file (place : List String) (size : Nat) (bytes : ByteArray)

structure FileTree where
  working : List String
  nodes : List (List String × FileNode)

namespace FileTree

def node? (t : FileTree) (place : List String) : Option FileNode :=
  match t.nodes.find? (·.1 == place) with
  | some (_, node) => some node
  | none =>
    if place.isPrefixOf t.working ∨ t.nodes.any (fun (p, _) => place.isPrefixOf p) then some .directory
    else none

/-- Follows the parts of a path. Every part but the last must be a directory, also where the part
after it is empty, a point or two points. -/
def follow (t : FileTree) (place : List String) : List String → Option (List String)
  | [] => some place
  | part :: parts =>
    match t.node? place with
    | some .directory =>
      if part = "" ∨ part = "." then t.follow place parts
      else if part = ".." then t.follow place.dropLast parts
      else t.follow (place ++ [part]) parts
    | _ => none

def splitPath (current : List Char) : List Char → List String
  | [] => [String.ofList current.reverse]
  | c :: cs =>
    if c = '/' then String.ofList current.reverse :: splitPath [] cs else splitPath (c :: current) cs

def writeFrom (t : FileTree) (node : FileNode) (place : List String) : List String → FileTree
  | [] => { t with nodes := (place, node) :: t.nodes }
  | part :: parts =>
    if part = "" ∨ part = "." then t.writeFrom node place parts
    else if part = ".." then
      let made : FileTree := { t with nodes := (place, .directory) :: t.nodes }
      made.writeFrom node place.dropLast parts
    else t.writeFrom node (place ++ [part]) parts

def write (t : FileTree) (path : String) (node : FileNode) : FileTree :=
  t.writeFrom node t.working (splitPath [] path.toList)

def find (t : FileTree) (path : String) : Found :=
  let cs := path.toList
  if path.isEmpty ∨ cs.contains '\x00' ∨ 4095 < path.utf8ByteSize then .nothing
  else
    let start := if cs.head? = some '/' then [] else t.working
    match t.follow start (splitPath [] cs) with
    | none => .nothing
    | some place =>
      match t.node? place with
      | none => .nothing
      | some .directory => .notAFile
      | some (.file bytes) => .file place bytes.size bytes

end FileTree

def placeText (place : List String) : String := "/" ++ String.intercalate "/" place

def extension? (name : String) : Option String :=
  let fromEnd := name.toList.reverse
  let after := fromEnd.takeWhile (· != '.')
  match fromEnd.drop after.length with
  | [] | [_] => none
  | _ => some (String.ofList after.reverse)

end MathTokens
