/-! Lines of a text: a line feed ends a line, and one carriage return before it belongs to the end. -/
namespace ScriptBench.Text

def pushFront (c : Char) : List (List Char) → List (List Char)
  | [] => [[c]]
  | line :: more => (c :: line) :: more

/-- The lines of a text without their ends. What follows the last line feed is a line if it is not empty. -/
def lines : List Char → List (List Char)
  | [] => []
  | '\n' :: rest => [] :: lines rest
  | '\r' :: '\n' :: rest => [] :: lines rest
  | c :: rest => pushFront c (lines rest)

/-- The parts of a text between separators, also empty ones. There is one more of them than separators. -/
def cut (separator : Char) : List Char → List (List Char)
  | [] => [[]]
  | c :: rest =>
    if c = separator then [] :: cut separator rest else pushFront c (cut separator rest)

/-- Every part of a text between line feeds, also an empty last one. -/
def rows (text : List Char) : List (List Char) := cut '\n' text

/-- The lines put together again with one line feed between them. -/
def unlines : List (List Char) → List Char
  | [] => []
  | [line] => line
  | line :: more => line ++ '\n' :: unlines more

def dropReturns (line : List Char) : List Char :=
  (line.reverse.dropWhile (· == '\r')).reverse

def byteCount : List Char → Nat
  | [] => 0
  | c :: rest => c.utf8Size + byteCount rest

@[simp] theorem byteCount_nil : byteCount [] = 0 := rfl

@[simp] theorem byteCount_cons (c : Char) (text : List Char) :
    byteCount (c :: text) = c.utf8Size + byteCount text := rfl

@[simp] theorem lines_nil : lines [] = [] := rfl

@[simp] theorem lines_feed (rest : List Char) : lines ('\n' :: rest) = [] :: lines rest := rfl

end ScriptBench.Text
