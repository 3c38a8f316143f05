import ArchDiagram.Text.Scan

/-!
# Links of a diagram

A directive `click node "path"` makes a node of the diagram a link.  The path is one in the
repository; it is replaced by the address where the repository's host shows that file or directory.

* `clickAt`: recognises a directive.
* `Place.address`: where a path is shown.
* `linkPaths`: a diagram with every path replaced.
-/

namespace ArchDiagram.Diagram

open Text

/-- The repository and branch that paths belong to. -/
structure Place where
  owner : String
  repo : String
  branch : String

structure Click where
  node : List Char
  path : List Char

def clickWord : List Char :=
  "click ".toList

/-- Recognises a directive: the word, a node without blanks and quotes, at least one blank, and a
path between quotes.  Neither the node nor the path is empty. -/
def clickAt : Recogniser Click := fun cs => do
  let afterWord ← dropFront? clickWord cs
  let node := afterWord.takeWhile fun c => !isBlank c && c != '"'
  let afterNode := afterWord.drop node.length
  let gap := afterNode.takeWhile isBlank
  let quoted ← dropFront? ['"'] (afterNode.drop gap.length)
  let path := quoted.takeWhile (· != '"')
  if node = [] ∨ gap = [] ∨ path = [] ∨ quoted.drop path.length = [] then none
  else some (⟨node, path⟩, clickWord.length + node.length + gap.length + path.length + 1)

def isQuote (c : Char) : Bool :=
  c == '"' || c == '\''

/-- The path of a directive without blanks around it and quotation marks around that. -/
def Click.cleanPath (k : Click) : List Char :=
  trimBy isQuote (trimBy isBlank k.path)

/-- A path with a dot that does not end in a slash is taken for a file, any other one for a
directory. -/
def isFile (path : List Char) : Bool :=
  path.contains '.' && path.getLast? != some '/'

def Place.address (p : Place) (path : List Char) : List Char :=
  let kind := if isFile path then "blob" else "tree"
  ("https://github.com/" ++ p.owner ++ "/" ++ p.repo ++ "/" ++ kind ++ "/" ++ p.branch ++ "/").toList
    ++ path

def Click.linked (p : Place) (k : Click) : List Char :=
  clickWord ++ k.node ++ [' ', '"'] ++ p.address k.cleanPath ++ ['"']

/-- A diagram in which every directive links to the address of its path. -/
def linkPaths (p : Place) (diagram : String) : String :=
  String.ofList (assemble (Click.linked p) (pieces clickAt diagram.toList))

end ArchDiagram.Diagram
