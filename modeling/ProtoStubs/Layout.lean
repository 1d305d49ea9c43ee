/-! Generated text as lines with an indentation depth. Text is made last, from a list of lines. -/

namespace ProtoStubs

inductive Line
  /-- A line at a depth; its indentation is written even if its content is empty. -/
  | text (depth : Nat) (content : String)
  /-- An empty line, never indented. -/
  | blank
  /-- A finished piece of text, taken as it is. -/
  | verbatim (content : String)
  deriving DecidableEq

namespace Line

def indentation (depth : Nat) : String :=
  String.ofList (List.replicate (2 * depth) ' ')

def render : Line → String
  | .text depth content => indentation depth ++ content ++ "\n"
  | .blank => "\n"
  | .verbatim content => content

def indentBy (levels : Nat) : Line → Line
  | .text depth content => .text (levels + depth) content
  | .blank => .blank
  | .verbatim content => .verbatim content

end Line

namespace Layout

def render (lines : List Line) : String :=
  String.join (lines.map Line.render)

def indentBy (levels : Nat) (lines : List Line) : List Line :=
  lines.map (Line.indentBy levels)

def indent (lines : List Line) : List Line :=
  indentBy 1 lines

theorem render_cons (l : Line) (lines : List Line) :
    render (l :: lines) = l.render ++ render lines := by
  simp [render]

theorem render_append (xs ys : List Line) : render (xs ++ ys) = render xs ++ render ys := by
  simp [render]

theorem indentBy_indentBy (m n : Nat) (lines : List Line) :
    indentBy m (indentBy n lines) = indentBy (m + n) lines := by
  simp only [indentBy, List.map_map]
  congr 1
  funext l
  cases l <;> simp [Line.indentBy, Nat.add_assoc]

theorem indentBy_append (n : Nat) (xs ys : List Line) :
    indentBy n (xs ++ ys) = indentBy n xs ++ indentBy n ys :=
  List.map_append

theorem indentBy_zero (lines : List Line) : indentBy 0 lines = lines := by
  have hline : Line.indentBy 0 = id := by
    funext l
    cases l <;> simp [Line.indentBy]
  rw [indentBy, hline, List.map_id]

def line (content : String) : Line := .text 0 content

def openBrace : String := "\x7b"

def closeBrace : String := "\x7d"

def braced (head : String) (body : List Line) (tail : String) : List Line :=
  line (head ++ openBrace) :: indent body ++ [line (closeBrace ++ tail)]

theorem indentBy_line (n : Nat) (content : String) : indentBy n [line content] = [.text n content] :=
  rfl

theorem indentBy_braced (n : Nat) (head : String) (body : List Line) :
    indentBy n (braced head body "") =
      .text n (head ++ openBrace) :: indentBy (n + 1) body ++ [.text n closeBrace] := by
  rw [braced, indent, indentBy_append, String.append_empty, indentBy_line, ← indentBy_indentBy]
  rfl

def bracedElse (head : String) (body otherwise : List Line) : List Line :=
  line (head ++ openBrace) :: indent body ++ line (closeBrace ++ " else " ++ openBrace) ::
    indent otherwise ++ [line closeBrace]

end Layout

end ProtoStubs
