import RowSync.Database.Dialect

/-!
Reading a statement apart into quoted names and the characters outside of them. A name ends at the
first quote character that is not doubled, and a name that was quoted is read back, whatever
characters it is made of.
-/

set_option autoImplicit false

namespace RowSync

/-- A part of a statement. -/
inductive Lexeme
  | name (text : String)
  /-- A character outside of names. -/
  | mark (c : Char)
  deriving DecidableEq, Repr

namespace Lexeme

def name? : Lexeme → Option String
  | name text => some text
  | mark _ => none

/-- The characters of a text that has no names in it. -/
def marks (text : String) : List Lexeme := text.toList.map mark

theorem marks_append (a b : String) : marks (a ++ b) = marks a ++ marks b := by
  simp [marks]

theorem filterMap_name?_marks (text : String) : (marks text).filterMap name? = [] := by
  simp [marks, name?]

/-- Where a reader is. -/
inductive Position
  | outside
  /-- Behind these characters of a name. -/
  | inside (front : List Char)
  /-- Behind a quote character in a name, which ends the name unless another one follows. -/
  | atQuote (front : List Char)

/-- Reads the rest of a statement; a name that does not end makes it unreadable. -/
def readFrom (quote : Char) : Position → List Char → Option (List Lexeme)
  | .outside, [] => some []
  | .inside _, [] => none
  | .atQuote front, [] => some [.name (String.ofList front)]
  | .outside, c :: cs =>
    if c = quote then readFrom quote (.inside []) cs
    else (readFrom quote .outside cs).map (.mark c :: ·)
  | .inside front, c :: cs =>
    if c = quote then readFrom quote (.atQuote front) cs
    else readFrom quote (.inside (front ++ [c])) cs
  | .atQuote front, c :: cs =>
    if c = quote then readFrom quote (.inside (front ++ [quote])) cs
    else (readFrom quote .outside cs).map fun more => .name (String.ofList front) :: .mark c :: more

def read (quote : Char) (statement : List Char) : Option (List Lexeme) :=
  readFrom quote .outside statement

variable {quote : Char}

theorem read_clear {text : List Char} (clear : ∀ c ∈ text, c ≠ quote) (rest : List Char) :
    read quote (text ++ rest) = (read quote rest).map (text.map mark ++ ·) := by
  induction text with
  | nil => simp
  | cons c text ih =>
    have step : read quote (c :: (text ++ rest)) = (read quote (text ++ rest)).map (.mark c :: ·) :=
      if_neg (clear c List.mem_cons_self)
    rw [List.cons_append, step, ih fun d member => clear d (List.mem_cons_of_mem c member),
      Option.map_map]
    rfl

theorem readFrom_atQuote (front : List Char) {rest : List Char} (apart : rest.head? ≠ some quote) :
    readFrom quote (.atQuote front) rest =
      (read quote rest).map (.name (String.ofList front) :: ·) := by
  cases rest with
  | nil => rfl
  | cons c rest =>
    have other : c ≠ quote := fun same => apart (congrArg some same)
    rw [readFrom, if_neg other, read, readFrom, if_neg other, Option.map_map]
    rfl

theorem readFrom_inside (name : List Char) (front : List Char) {rest : List Char}
    (apart : rest.head? ≠ some quote) :
    readFrom quote (.inside front)
        ((name.flatMap fun c => if c == quote then [c, c] else [c]) ++ quote :: rest) =
      (read quote rest).map (.name (String.ofList (front ++ name)) :: ·) := by
  induction name generalizing front with
  | nil =>
    rw [List.flatMap_nil, List.nil_append, readFrom, if_pos rfl, readFrom_atQuote front apart,
      List.append_nil]
  | cons c name ih =>
    have regroup : front ++ c :: name = (front ++ [c]) ++ name := by simp
    rw [List.flatMap_cons, List.append_assoc, regroup, ← ih (front ++ [c])]
    by_cases same : c = quote
    · subst same
      rw [if_pos (beq_self_eq_true c), List.cons_append, readFrom, if_pos rfl, List.cons_append,
        readFrom, if_pos rfl]
      rfl
    · rw [if_neg (by simpa using same), List.cons_append, readFrom, if_neg same]
      rfl

/-- A quoted name is read back, whatever follows but another quote character. -/
theorem read_quoteWith (name : String) {rest : List Char} (apart : rest.head? ≠ some quote) :
    read quote ((Dialect.quoteWith quote name).toList ++ rest) =
      (read quote rest).map (.name name :: ·) := by
  have text : (Dialect.quoteWith quote name).toList ++ rest =
      quote :: ((name.toList.flatMap fun c => if c == quote then [c, c] else [c]) ++
        quote :: rest) := by
    simp [Dialect.quoteWith]
  rw [text, read, readFrom, if_pos rfl, readFrom_inside name.toList [] apart, List.nil_append,
    String.ofList_toList]

example : (read '"' "\"a\"\"b\" = $1".toList) = some (.name "a\"b" :: marks " = $1") := by decide

end Lexeme

end RowSync
