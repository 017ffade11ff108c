import AttributeProfiles.Table
import AttributeProfiles.Text.Pieces

/-!
# Files

A directory tree, and how a path leads through it. A path is read from left to right; every step
but the last must lead to a directory. Two dots lead back to the enclosing directory, and a slash at
the beginning leads outside of the tree, where nothing is found.
-/

namespace AttributeProfiles

/-- A file with its bytes, or a directory with what it holds. -/
inductive FileTree where
  | file (content : ByteArray)
  | directory (entries : List (String × FileTree))

inductive ReadFault where
  | missing
  | notADirectory
  | isADirectory
  | nameTooLong
  | refused (reason : String)
  | notText
deriving DecidableEq, Repr

def ReadFault.message : ReadFault → String
  | .missing => "No such file or directory (os error 2)"
  | .notADirectory => "Not a directory (os error 20)"
  | .isADirectory => "Is a directory (os error 21)"
  | .nameTooLong => "File name too long (os error 36)"
  | .refused reason => reason
  | .notText => "stream did not contain valid UTF-8"

/-- Whether there is something at a path that cannot be read for this reason. -/
def ReadFault.exists : ReadFault → Bool
  | .missing | .notADirectory | .nameTooLong => false
  | .isADirectory | .refused _ | .notText => true

abbrev Files := String → Except ReadFault ByteArray

namespace Files

def readText (files : Files) (path : String) : Except ReadFault String := do
  match String.fromUTF8? (← files path) with
  | some text => .ok text
  | none => .error .notText

def existsAt (files : Files) (path : String) : Bool :=
  match files path with
  | .ok _ => true
  | .error fault => fault.exists

end Files

namespace FileTree

def maxNameBytes : Nat := 255

/-- The longest path, in bytes, with its end mark. -/
def maxPathBytes : Nat := 4096

/-- What is outside of a tree: a directory in which nothing is found. -/
def outside : FileTree := .directory []

/-- What a path leads to from inside nested directories, the innermost first. -/
def walk (here : FileTree) (enclosing : List FileTree) : List String → Except ReadFault FileTree
  | [] => .ok here
  | step :: steps =>
    match here with
    | .file _ => .error .notADirectory
    | .directory entries =>
      if step = "" ∨ step = "." then walk here enclosing steps
      else if step = ".." then
        match enclosing with
        | [] => walk outside [] steps
        | outer :: enclosing => walk outer enclosing steps
      else if maxNameBytes < step.utf8ByteSize then .error .nameTooLong
      else
        match entries.lookup step with
        | some inner => walk inner (here :: enclosing) steps
        | none => .error .missing

def files (root : FileTree) : Files := fun path =>
  if path = "" ∨ '\x00' ∈ path.toList then .error .missing
  else if maxPathBytes ≤ path.utf8ByteSize then .error .nameTooLong
  else
    let start := if path.toList.head? = some '/' then outside else root
    match start.walk [] (Text.split '/' path) with
    | .ok (.file content) => .ok content
    | .ok (.directory _) => .error .isADirectory
    | .error fault => .error fault

/-- The tree with `content` at a path, and with the directories that lead there. -/
def add (content : FileTree) : List String → FileTree → FileTree
  | [], _ => content
  | step :: steps, here =>
    let entries := match here with
      | .directory entries => entries
      | .file _ => []
    let inner := (entries.lookup step).getD (.directory [])
    .directory (Table.setEntry step (add content steps inner) entries)

end FileTree

/-- The part of a path after its last slash, not counting slashes at the end. -/
def fileName (path : String) : List Char :=
  ((path.toList.reverse.dropWhile (· == '/')).takeWhile (· != '/')).reverse

/-- The extension of a file's name: what follows its last dot, unless this dot begins the name. -/
def extension? (path : String) : Option String :=
  let reversed := (fileName path).reverse
  let tail := reversed.takeWhile (· != '.')
  match reversed.drop tail.length with
  | [] => none
  | [_] => none
  | _ :: _ => if fileName path = ['.', '.'] then none else some (String.ofList tail.reverse)

end AttributeProfiles
