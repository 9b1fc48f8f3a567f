/-! Places in a source or in a token stream, and marks: how far a source has been read, as a position for people and as
a count of bytes. -/

namespace StreamScript

/-- Lines and columns count from one. Column zero is unknown: a stream keeps the line of a token only. -/
structure Position where
  line : Nat
  column : Nat
deriving Repr, DecidableEq, Inhabited

namespace Position

def ofLine (line : Nat) : Position := ⟨line, 0⟩

def text (position : Position) : String :=
  if position.column = 0 then s!"line {position.line}" else s!"{position.line}:{position.column}"

end Position

namespace Source

structure Mark where
  position : Position
  offset : Nat
deriving Repr, DecidableEq

namespace Mark

def start : Mark := ⟨⟨1, 1⟩, 0⟩

/-- Only a newline starts a line. -/
def after (mark : Mark) (c : Char) : Mark :=
  ⟨if c = '\n' then ⟨mark.position.line + 1, 1⟩ else ⟨mark.position.line, mark.position.column + 1⟩,
    mark.offset + c.utf8Size⟩

def past (mark : Mark) (text : List Char) : Mark := text.foldl after mark

@[simp] theorem past_nil (mark : Mark) : mark.past [] = mark := rfl

@[simp] theorem past_cons (mark : Mark) (c : Char) (text : List Char) :
    mark.past (c :: text) = (mark.after c).past text := rfl

@[simp] theorem past_append (mark : Mark) (first second : List Char) :
    mark.past (first ++ second) = (mark.past first).past second := List.foldl_append

end Mark

end Source

end StreamScript
