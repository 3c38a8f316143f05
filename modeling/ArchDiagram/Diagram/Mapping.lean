import ArchDiagram.Text.Scan

/-!
# The component mapping in an answer

The mapping stands between two tags.  What is handed on starts with the first opening tag and ends
before the first closing tag; an answer that lacks one of them is handed on as it is.
-/

namespace ArchDiagram.Diagram

open Text

def openTag : List Char :=
  "<component_mapping>".toList

def closeTag : List Char :=
  "</component_mapping>".toList

/-- From the first opening tag up to the first closing tag, nothing if the latter comes first. -/
def mappingChars (cs : List Char) : List Char :=
  match breakAt? openTag cs, breakAt? closeTag cs with
  | some (front, _), some (body, _) => body.drop front.length
  | _, _ => cs

def mappingOf (answer : String) : String :=
  String.ofList (mappingChars answer.toList)

end ArchDiagram.Diagram
