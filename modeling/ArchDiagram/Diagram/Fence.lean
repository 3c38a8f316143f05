import ArchDiagram.Text.Scan

/-!
# Code fences

A model may wrap a diagram into a fenced block although it was told not to.  All fences are removed
and the rest is trimmed.
-/

namespace ArchDiagram.Diagram

open Text

def fence : List Char :=
  ['\x60', '\x60', '\x60']

def mermaidFence : List Char :=
  fence ++ "mermaid".toList

def stripFences (s : String) : String :=
  String.ofList (trimBy isBlank (replaceAll fence [] (replaceAll mermaidFence [] s.toList)))

end ArchDiagram.Diagram
