import ArchDiagram.Text.Scan
import ArchDiagram.Text.Utf8

/-!
# Event streams

The body of an event stream consists of blocks with an empty line after each.  The payload of a
block is made of its lines that start with `data:`; blocks without such a line have none.  The body
arrives in pieces that may end anywhere, also inside a character, so a decoder keeps what does not
yet make a block.  Carriage returns are dropped.

* `Decoder.push`: the payloads that a piece completes.
* `Decoder.finish`: the payload of a last block without its empty line.
-/

namespace ArchDiagram.Sse

/-- What has been received and is not yet part of a complete block. -/
structure Decoder where
  buffer : List UInt8

def Decoder.empty : Decoder :=
  ⟨[]⟩

/-- Cuts octets into the blocks that two line feeds end and what is left; `block` is the block being
read and `done` the blocks before it, both reversed. -/
def blocksLoop (block : List UInt8) (done : List (List UInt8)) :
    List UInt8 → List (List UInt8) × List UInt8
  | [] => (done.reverse, block.reverse)
  | [b] => (done.reverse, (b :: block).reverse)
  | b :: c :: rest =>
    if b = 10 ∧ c = 10 then blocksLoop [] (block.reverse :: done) rest
    else blocksLoop (b :: block) done (c :: rest)

/-- What a line adds to the payload of its block. -/
def dataOf? (line : List Char) : Option (List Char) :=
  (Text.dropFront? "data:".toList line).map fun d =>
    match d with
    | ' ' :: r => r
    | r => r

def payload? (block : List UInt8) : Option String :=
  match (Text.lines (Utf8.decodeLossy block).toList).filterMap dataOf? with
  | [] => none
  | ds => some (String.ofList (['\n'].intercalate ds))

/-- The payloads that a piece of the body completes. -/
def Decoder.push (d : Decoder) (piece : List UInt8) : List String × Decoder :=
  let (blocks, rest) := blocksLoop [] [] (d.buffer ++ piece.filter (· ≠ 13))
  (blocks.filterMap payload?, ⟨rest⟩)

/-- The payload of what is left at the end of the body. -/
def Decoder.finish (d : Decoder) : List String × Decoder :=
  ((payload? d.buffer).toList, .empty)

end ArchDiagram.Sse
