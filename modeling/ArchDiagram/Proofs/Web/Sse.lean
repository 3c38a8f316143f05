import ArchDiagram.Proofs.Text.Line
import ArchDiagram.Web.Sse
import Mathlib.Data.List.Chain

/-!
# Event streams as blocks of lines

The payloads of a body can be told from the whole of it: its lines are cut into blocks at the empty
ones, and each block has a payload or none (`payloads`).  A block counts as soon as its empty line
is complete (`completed`).  A decoder receives the body in pieces and cuts at two line feeds in a
row instead.  Of three in a row it leaves the last one to the block that follows, which then begins
with an empty line.

What joins the two readings is that two line feeds in a row divide a body into parts that do not
depend on each other (`payloadsOf_append_gap`), and that a part without two in a row is a single
block, but for empty lines at its ends (`IsWhole.payloadsOf`).

* `Cut`: octets cut at two line feeds, as the loop of a decoder does it.
* `Decoder.Holds`: what a decoder keeps and has put out, in terms of what it has received.
* `Decoder.Holds.push`: a piece more.
* `Decoder.pushAll_payloads`: **however a body is cut into pieces, its payloads come out**, each
  from the piece that completes its block.
-/

namespace ArchDiagram.Sse

/-! ## The payloads of a body -/

/-- The octets of a body that count. -/
def kept (body : List UInt8) : List UInt8 :=
  body.filter (· ≠ 13)

def lines (bs : List UInt8) : List (List UInt8) :=
  bs.splitOn 10

/-- The blocks of lines between the empty ones. -/
def blocks (ls : List (List UInt8)) : List (List (List UInt8)) :=
  ls.splitOn []

/-- What stands in a line after `data:` and at most one space. -/
def valueOf (line : List Char) : List Char :=
  let v := line.drop 5
  if v.head? = some ' ' then v.tail else v

/-- The payload of a block: the values of the lines of its text that start with `data:`. -/
def blockPayload? (block : List (List UInt8)) : Option String :=
  let text := (Utf8.decodeLossy ([10].intercalate block)).toList
  match (text.splitOn '\n').filter fun l => "data:".toList.isPrefixOf l with
  | [] => none
  | ls => some (String.ofList (['\n'].intercalate (ls.map valueOf)))

/-- The payloads of the blocks that some lines make up. -/
def payloadsOf (ls : List (List UInt8)) : List String :=
  (blocks ls).filterMap blockPayload?

/-- The payloads of a whole body. -/
def payloads (body : List UInt8) : List String :=
  payloadsOf (lines (kept body))

/-- The payloads of the blocks that an empty line has completed.  A line is complete once its line
feed has come, and the last block of the complete lines is still open. -/
def completed (body : List UInt8) : List String :=
  (blocks (lines (kept body)).dropLast).dropLast.filterMap blockPayload?

/-- A decoder that receives one piece after another: what each of them completes. -/
def Decoder.pushAll (d : Decoder) : List (List UInt8) → List (List String) × Decoder
  | [] => ([], d)
  | p :: ps =>
    let (out, d') := d.push p
    let (outs, d'') := d'.pushAll ps
    (out :: outs, d'')

/-! ## Values -/

def ofValues : List (List Char) → Option String
  | [] => none
  | vs => some (String.ofList (['\n'].intercalate vs))

def values (bs : List UInt8) : List (List Char) :=
  ((Utf8.decodeLossy bs).toList.splitOn '\n').filterMap dataOf?

theorem dataOf?_eq (line : List Char) :
    dataOf? line = if "data:".toList.isPrefixOf line then some (valueOf line) else none := by
  rw [dataOf?, Text.dropFront?_eq]
  split
  · have hlength : "data:".toList.length = 5 := rfl
    rw [Option.map_some, hlength, valueOf]
    generalize line.drop 5 = v
    split
    · rfl
    · rename_i hv
      rw [if_neg]
      intro hh
      obtain ⟨r, hr⟩ := List.head?_eq_some_iff.mp hh
      exact hv r hr
  · rfl

theorem dataOf?_nil : dataOf? [] = none := rfl

/-- The values in a text are those of its lines that start with `data:`. -/
theorem filterMap_dataOf? (ls : List (List Char)) :
    ls.filterMap dataOf? = (ls.filter fun l => "data:".toList.isPrefixOf l).map valueOf := by
  induction ls with
  | nil => rfl
  | cons l ls ih =>
    cases hl : "data:".toList.isPrefixOf l with
    | true =>
      have hd : dataOf? l = some (valueOf l) := by rw [dataOf?_eq, if_pos hl]
      rw [List.filterMap_cons_some hd, List.filter_cons_of_pos hl, List.map_cons, ih]
    | false =>
      have hn : ¬ "data:".toList.isPrefixOf l = true := by rw [hl]; exact Bool.false_ne_true
      have hd : dataOf? l = none := by rw [dataOf?_eq, if_neg hn]
      rw [List.filterMap_cons_none hd, List.filter_cons_of_neg hn, ih]

theorem values_nil : values [] = [] := by decide

/-- Octets may be cut at a line feed before their values are read. -/
theorem values_append_lineFeed (a b : List UInt8) :
    values (a ++ 10 :: b) = values a ++ values b := by
  rw [values, Utf8.decodeLossy_append_lineFeed, List.splitOn_append_cons_self,
    List.filterMap_append]
  rfl

theorem values_intercalate (ls : List (List UInt8)) :
    values ([10].intercalate ls) = ls.flatMap values := by
  induction ls with
  | nil => exact values_nil
  | cons l ls ih =>
    cases ls with
    | nil => simp
    | cons m ls =>
      rw [List.intercalate_cons_cons, List.append_assoc, List.singleton_append,
        values_append_lineFeed, ih]
      rfl

theorem payload?_eq (bs : List UInt8) : payload? bs = ofValues (values bs) := by
  rw [payload?, Text.filterMap_lines dataOf?_nil, values]
  cases ((Utf8.decodeLossy bs).toList.splitOn '\n').filterMap dataOf? <;> rfl

theorem blockPayload?_eq (block : List (List UInt8)) :
    blockPayload? block = ofValues (block.flatMap values) := by
  rw [blockPayload?, ← values_intercalate, values, filterMap_dataOf?]
  cases ((Utf8.decodeLossy ([10].intercalate block)).toList.splitOn '\n').filter
    fun l => "data:".toList.isPrefixOf l with
  | nil => rfl
  | cons l ls => rfl

/-- Octets have the payload of the block that their lines make up. -/
theorem payload?_eq_blockPayload? (bs : List UInt8) :
    payload? bs = blockPayload? (lines bs) := by
  rw [payload?_eq, blockPayload?_eq, ← values_intercalate, lines, List.intercalate_splitOn]

theorem blockPayload?_nil : blockPayload? [] = none := rfl

/-- An empty line at the front of a block adds nothing to its payload. -/
theorem blockPayload?_cons_nil (block : List (List UInt8)) :
    blockPayload? ([] :: block) = blockPayload? block := by
  rw [blockPayload?_eq, blockPayload?_eq, List.flatMap_cons, values_nil, List.nil_append]

/-- Nor does one at its end. -/
theorem blockPayload?_append_nil (block : List (List UInt8)) :
    blockPayload? (block ++ [[]]) = blockPayload? block := by
  rw [blockPayload?_eq, blockPayload?_eq, List.flatMap_append, List.flatMap_singleton, values_nil,
    List.append_nil]

/-! ## Parts of a body -/

/-- An empty line divides lines into two parts. -/
theorem payloadsOf_append_nil (ls ms : List (List UInt8)) :
    payloadsOf (ls ++ [] :: ms) = payloadsOf ls ++ payloadsOf ms := by
  rw [payloadsOf, blocks, List.splitOn_append_cons_self, List.filterMap_append]
  rfl

theorem payloadsOf_nil : payloadsOf [] = [] := rfl

/-- Lines none of which is empty, but for the first one perhaps, are a single block, before which
there is an empty one if the first line is empty. -/
theorem blocks_eq {ls : List (List UInt8)} (h : ∀ l ∈ ls.tail, l ≠ []) :
    blocks ls = [ls] ∨ ∃ ms, ls = [] :: ms ∧ blocks ls = [[], ms] := by
  cases ls with
  | nil => exact Or.inl rfl
  | cons l ls =>
    have hls : [] ∉ ls := fun hm => h [] hm rfl
    by_cases hl : l = []
    · subst hl
      refine Or.inr ⟨ls, rfl, ?_⟩
      rw [blocks, List.splitOn_cons_eq_if_modifyHead, List.splitOn_eq_singleton hls]
      rfl
    · have hmem : [] ∉ l :: ls := by
        intro hm
        exact (List.mem_cons.mp hm).elim (fun he => hl he.symm) hls
      exact Or.inl (List.splitOn_eq_singleton hmem)

theorem filterMap_singleton (block : List (List UInt8)) :
    [block].filterMap blockPayload? = (blockPayload? block).toList := by
  cases hb : blockPayload? block <;> simp [hb]

/-- Such lines have the payload of one block. -/
theorem payloadsOf_eq {ls : List (List UInt8)} (h : ∀ l ∈ ls.tail, l ≠ []) :
    payloadsOf ls = (blockPayload? ls).toList := by
  rw [payloadsOf]
  rcases blocks_eq h with hb | ⟨ms, rfl, hb⟩
  · rw [hb, filterMap_singleton]
  · rw [hb, List.filterMap_cons_none blockPayload?_nil, filterMap_singleton, blockPayload?_cons_nil]

/-- Such lines complete no block that has a payload. -/
theorem payloads_dropLast_blocks {ls : List (List UInt8)} (h : ∀ l ∈ ls.tail, l ≠ []) :
    (blocks ls).dropLast.filterMap blockPayload? = [] := by
  rcases blocks_eq h with hb | ⟨ms, -, hb⟩ <;> rw [hb] <;> rfl

/-- No two line feeds in a row. -/
def IsWhole (bs : List UInt8) : Prop :=
  bs.IsChain fun a b => ¬ (a = 10 ∧ b = 10)

theorem lines_ne_nil (bs : List UInt8) : lines bs ≠ [] :=
  List.splitOn_ne_nil _ _

theorem lines_cons_lineFeed (bs : List UInt8) : lines (10 :: bs) = [] :: lines bs :=
  List.splitOn_append_cons_self [] bs

theorem lines_cons {b : UInt8} (hb : b ≠ 10) (bs : List UInt8) :
    ∃ l ls, lines bs = l :: ls ∧ lines (b :: bs) = (b :: l) :: ls := by
  obtain ⟨l, ls, hls⟩ := List.exists_cons_of_ne_nil (lines_ne_nil bs)
  refine ⟨l, ls, hls, ?_⟩
  rw [lines] at hls
  rw [lines, List.splitOn_cons_eq_if_modifyHead, if_neg (by simpa using hb), hls]
  rfl

/-- Without two line feeds in a row only the first line and the last one may be empty. -/
theorem IsWhole.line_ne_nil {bs : List UInt8} (h : IsWhole bs) :
    ∀ l ∈ (lines bs).dropLast.tail, l ≠ [] := by
  induction bs with
  | nil => simp [lines]
  | cons b bs ih =>
    have ih := ih h.tail
    by_cases hb : b = 10
    · subst hb
      rw [lines_cons_lineFeed, List.dropLast_cons_of_ne_nil (lines_ne_nil bs), List.tail_cons]
      cases bs with
      | nil => simp [lines]
      | cons c bs =>
        have hc : c ≠ 10 := fun hc => (List.isChain_cons_cons.mp h).1 ⟨rfl, hc⟩
        obtain ⟨l, ls, -, hls⟩ := lines_cons hc bs
        rw [hls] at ih ⊢
        cases ls with
        | nil => simp
        | cons m ls =>
          intro x hx
          rcases List.mem_cons.mp hx with rfl | hx
          · exact List.cons_ne_nil _ _
          · exact ih x hx
    · obtain ⟨l, ls, hl, hls⟩ := lines_cons hb bs
      rw [hl] at ih
      rw [hls]
      cases ls with
      | nil => simp
      | cons m ls => exact ih

theorem IsWhole.payloadsOf {bs : List UInt8} (h : IsWhole bs) :
    payloadsOf (lines bs) = (payload? bs).toList := by
  have hne := h.line_ne_nil
  rw [payload?_eq_blockPayload?]
  rcases List.eq_nil_or_concat' (lines bs) with hls | ⟨front, last, hls⟩
  · exact absurd hls (lines_ne_nil bs)
  rw [hls, List.dropLast_concat] at hne
  rw [hls]
  by_cases hlast : last = []
  · subst hlast
    rw [payloadsOf_append_nil, payloadsOf_nil, List.append_nil, payloadsOf_eq hne,
      blockPayload?_append_nil]
  · refine payloadsOf_eq ?_
    cases front with
    | nil => simp
    | cons l ls =>
      intro x hx
      rcases List.mem_append.mp hx with hx | hx
      · exact hne x hx
      · rw [List.mem_singleton.mp hx]
        exact hlast

/-! ## Two line feeds in a row -/

theorem lines_append_gap (a b : List UInt8) :
    lines (a ++ 10 :: 10 :: b) = lines a ++ [] :: lines b := by
  rw [lines, List.splitOn_append_cons_self]
  exact congrArg (lines a ++ ·) (lines_cons_lineFeed b)

/-- **Two line feeds in a row divide a body into parts that do not depend on each other.** -/
theorem payloadsOf_append_gap (a b : List UInt8) :
    payloadsOf (lines (a ++ 10 :: 10 :: b)) = payloadsOf (lines a) ++ payloadsOf (lines b) := by
  rw [lines_append_gap, payloadsOf_append_nil]

/-- The part before two line feeds in a row is complete. -/
theorem dropLast_blocks_append_gap (a b : List UInt8) :
    (blocks (lines (a ++ 10 :: 10 :: b)).dropLast).dropLast =
      blocks (lines a) ++ (blocks (lines b).dropLast).dropLast := by
  rw [lines_append_gap, List.dropLast_append_of_ne_nil (List.cons_ne_nil _ _),
    List.dropLast_cons_of_ne_nil (lines_ne_nil b), blocks, List.splitOn_append_cons_self]
  exact List.dropLast_append_of_ne_nil (List.splitOn_ne_nil _ _)

/-- Octets are cut into blocks, each before two line feeds, and a rest, none of which has two line
feeds in a row. -/
structure Cut (octets : List UInt8) (bs : List (List UInt8)) (rest : List UInt8) : Prop where
  octets_eq : octets = bs.flatMap (· ++ [10, 10]) ++ rest
  whole : ∀ b ∈ bs, IsWhole b
  rest_whole : IsWhole rest

/-- The loop cuts the octets that it is given after those of the block being read. -/
theorem blocksLoop_cut (block : List UInt8) (done : List (List UInt8)) (bs : List UInt8)
    (h : IsWhole (block.reverse ++ bs.take 1)) :
    ∃ more, (blocksLoop block done bs).1 = done.reverse ++ more ∧
      Cut (block.reverse ++ bs) more (blocksLoop block done bs).2 := by
  fun_induction blocksLoop block done bs with
  | case1 block done => exact ⟨[], by simp, by simp, by simp, by simpa using h⟩
  | case2 block done b => exact ⟨[], by simp, by simp, by simp, by simpa using h⟩
  | case3 block done b c rest hbc ih =>
    obtain ⟨rfl, rfl⟩ := hbc
    have hfirst : IsWhole (rest.take 1) := by
      cases rest with
      | nil => exact .nil
      | cons d rest => exact .singleton d
    obtain ⟨more, hmore, hcut⟩ := ih hfirst
    refine ⟨block.reverse :: more, by simp [hmore], ?_, ?_, hcut.rest_whole⟩
    · have hrest : rest = more.flatMap (· ++ [10, 10]) ++ (blocksLoop [] (block.reverse :: done)
        rest).2 := hcut.octets_eq
      rw [List.flatMap_cons, List.append_assoc, ← hrest]
      simp
    · intro b hb
      rcases List.mem_cons.mp hb with rfl | hb
      · exact h.left_of_append
      · exact hcut.whole b hb
  | case4 block done b c rest hbc ih =>
    have hnext : IsWhole ((b :: block).reverse ++ (c :: rest).take 1) := by
      rw [List.reverse_cons, List.append_assoc]
      exact List.isChain_append_cons_cons.mpr ⟨h, hbc, .singleton c⟩
    obtain ⟨more, hmore, hcut⟩ := ih hnext
    refine ⟨more, hmore, ?_⟩
    simpa using hcut

namespace Cut

variable {octets more rest rest' : List UInt8} {bs bs' : List (List UInt8)}

theorem append (h : Cut octets bs rest) (h' : Cut (rest ++ more) bs' rest') :
    Cut (octets ++ more) (bs ++ bs') rest' := by
  refine ⟨?_, ?_, h'.rest_whole⟩
  · rw [h.octets_eq, List.append_assoc, h'.octets_eq, List.flatMap_append, List.append_assoc]
  · intro b hb
    exact (List.mem_append.mp hb).elim (h.whole b) (h'.whole b)

/-- The blocks that are cut off have the payloads of the blocks that are complete. -/
theorem dropLast_blocks_eq (h : Cut octets bs rest) :
    (blocks (lines octets).dropLast).dropLast.filterMap blockPayload? = bs.filterMap payload? := by
  obtain ⟨rfl, hbs, hrest⟩ := h
  induction bs with
  | nil => exact payloads_dropLast_blocks hrest.line_ne_nil
  | cons b bs ih =>
    have htail := ih fun c hc => hbs c (List.mem_cons_of_mem _ hc)
    have hb : (blocks (lines b)).filterMap blockPayload? = (payload? b).toList :=
      (hbs b List.mem_cons_self).payloadsOf
    rw [List.flatMap_cons, List.append_assoc, List.append_assoc, List.cons_append,
      List.singleton_append, dropLast_blocks_append_gap, List.filterMap_append, hb, htail]
    cases hp : payload? b <;> simp [hp]

/-- All payloads are those of the blocks that are cut off, and that of the rest. -/
theorem payloadsOf_eq (h : Cut octets bs rest) :
    payloadsOf (lines octets) = bs.filterMap payload? ++ (payload? rest).toList := by
  obtain ⟨rfl, hbs, hrest⟩ := h
  induction bs with
  | nil => exact hrest.payloadsOf
  | cons b bs ih =>
    have htail := ih fun c hc => hbs c (List.mem_cons_of_mem _ hc)
    have hb := (hbs b List.mem_cons_self).payloadsOf
    rw [List.flatMap_cons, List.append_assoc, List.append_assoc, List.cons_append,
      List.singleton_append, payloadsOf_append_gap, hb, htail]
    cases hp : payload? b <;> simp [hp]

end Cut

/-! ## Decoders -/

namespace Decoder

/-- A decoder that has put out the payloads `outs` of the body that it has received so far. -/
def Holds (d : Decoder) (outs : List String) (body : List UInt8) : Prop :=
  ∃ bs, Cut (kept body) bs d.buffer ∧ outs = bs.filterMap payload?

theorem holds_empty : empty.Holds [] [] :=
  ⟨[], ⟨rfl, by simp, .nil⟩, rfl⟩

variable {d : Decoder} {outs : List String} {body : List UInt8}

/-- What has been put out are the payloads that are complete. -/
theorem Holds.eq_completed (h : d.Holds outs body) : outs = completed body := by
  obtain ⟨bs, hcut, rfl⟩ := h
  exact hcut.dropLast_blocks_eq.symm

/-- At the end of the body nothing is missing. -/
theorem Holds.eq_payloads (h : d.Holds outs body) : outs ++ d.finish.1 = payloads body := by
  obtain ⟨bs, hcut, rfl⟩ := h
  exact hcut.payloadsOf_eq.symm

/-- **A piece more.**  Wherever the body was cut before the piece, the decoder goes on as if it had
received both at once. -/
theorem Holds.push (h : d.Holds outs body) (piece : List UInt8) :
    (d.push piece).2.Holds (outs ++ (d.push piece).1) (body ++ piece) := by
  obtain ⟨bs, hcut, rfl⟩ := h
  have hfirst : IsWhole ([].reverse ++ (d.buffer ++ kept piece).take 1) := by
    cases d.buffer ++ kept piece with
    | nil => exact .nil
    | cons b rest => exact .singleton b
  obtain ⟨more, hmore, hnext⟩ := blocksLoop_cut [] [] (d.buffer ++ kept piece) hfirst
  refine ⟨bs ++ more, ?_, ?_⟩
  · rw [kept, List.filter_append]
    exact hcut.append hnext
  · rw [List.filterMap_append, Decoder.push]
    exact congrArg (_ ++ List.filterMap payload? ·) hmore

theorem Holds.pushAll (h : d.Holds outs body) (pieces : List (List UInt8)) :
    (d.pushAll pieces).2.Holds (outs ++ (d.pushAll pieces).1.flatten) (body ++ pieces.flatten) := by
  induction pieces generalizing d outs body with
  | nil => simpa [Decoder.pushAll] using h
  | cons piece pieces ih => simpa [Decoder.pushAll] using ih (h.push piece)

/-- Whatever its pieces, a decoder holds the body that it has received. -/
theorem holds_pushAll (pieces : List (List UInt8)) :
    (empty.pushAll pieces).2.Holds (empty.pushAll pieces).1.flatten pieces.flatten :=
  holds_empty.pushAll pieces

/-- Of a body that ends with an empty line nothing is left at its end. -/
theorem pushAll_of_cut {pieces bs : List (List UInt8)} (h : Cut (kept pieces.flatten) bs []) :
    (empty.pushAll pieces).1.flatten = bs.filterMap payload? ∧
      (empty.pushAll pieces).2.finish.1 = [] := by
  have hholds := holds_pushAll pieces
  have houts : (empty.pushAll pieces).1.flatten = bs.filterMap payload? :=
    hholds.eq_completed.trans h.dropLast_blocks_eq
  have hall := hholds.eq_payloads.trans h.payloadsOf_eq
  rw [houts] at hall
  exact ⟨houts, List.append_cancel_left hall⟩

theorem length_pushAll (d : Decoder) (pieces : List (List UInt8)) :
    (d.pushAll pieces).1.length = pieces.length := by
  induction pieces generalizing d with
  | nil => rfl
  | cons piece pieces ih => exact congrArg (· + 1) (ih _)

/-- What the first pieces complete does not depend on those that follow. -/
theorem pushAll_take (d : Decoder) (pieces : List (List UInt8)) (k : Nat) :
    (d.pushAll pieces).1.take k = (d.pushAll (pieces.take k)).1 := by
  induction k generalizing d pieces with
  | zero => rfl
  | succ k ih =>
    cases pieces with
    | nil => rfl
    | cons piece pieces => exact congrArg (_ :: ·) (ih _ pieces)

/-- **However a body is cut into pieces, its payloads come out**: after every piece those that are
complete, and at the end all of them.  The decoder is then as it was in the beginning. -/
theorem pushAll_payloads (pieces : List (List UInt8)) :
    let (outs, d) := empty.pushAll pieces
    outs.flatten ++ d.finish.1 = payloads pieces.flatten ∧ d.finish.2 = empty ∧
      outs.length = pieces.length ∧
      ∀ k, (outs.take k).flatten = completed (pieces.take k).flatten := by
  refine ⟨?_, rfl, length_pushAll empty pieces, ?_⟩
  · exact (holds_empty.pushAll pieces).eq_payloads
  · intro k
    rw [pushAll_take]
    exact (holds_empty.pushAll (pieces.take k)).eq_completed

example : payloads (Utf8.encode "data: a\r\n\r\n\ndata:b\ndata: c") = ["a", "b\nc"] := by
  decide +kernel

end Decoder

end ArchDiagram.Sse
