import ClientForge.Code.Basic
import ClientForge.Text.Quoted

namespace ClientForge.Code

namespace Rank

def tuple : Nat := 2
def standalone : Nat := 3
def test : Nat := 4
def conjunction : Nat := 6
def comparison : Nat := 8
def negative : Nat := 15
def atom : Nat := 18

end Rank

def parens (needed : Bool) (text : String) : String :=
  if needed then "(" ++ text ++ ")" else text

def Comparison.text : Comparison → String
  | .same => " is "
  | .different => " is not "
  | .equal => " == "
  | .member => " in "

def constantText : Value → String
  -- there is no literal for these, but `1e309` is too large to be finite
  | .real (.infinite negative) => if negative then "-1e309" else "1e309"
  | .real .notANumber => "(1e309-1e309)"
  | value => value.literal

def pointAfter : Expr → String
  -- right behind a digit, the point would belong to the number
  | .constant (.int _) | .constant (.bool _) => " ."
  | _ => "."

def tupleText : List String → String
  | [item] => "(" ++ item ++ ",)"
  | items => "(" ++ ", ".intercalate items ++ ")"

def doubleBraces (text : List Char) : List Char :=
  text.flatMap fun c => if c = '\x7b' ∨ c = '\x7d' then [c, c] else [c]

def formatParts (marks : List (List Char)) : List FormatPart → List Char × List (List Char)
  | [] => ([], marks)
  | part :: rest =>
    let (body, marks) := match part with
      | .text chars => Text.literalPart true marks (doubleBraces chars)
      | .applied function argument =>
        Text.literalPart false marks ('\x7b' :: (function ++ "(" ++ argument ++ ")").toList ++ ['\x7d'])
    let (bodies, marks) := formatParts marks rest
    (body ++ bodies, marks)

def formattedLiteral (parts : List FormatPart) : List Char :=
  let (body, marks) := formatParts Text.allMarks parts
  let mark := marks.headD []
  mark ++ body ++ mark

mutual

def Expr.print (rank : Nat) : Expr → String
  | .name id => id
  | .constant value => constantText value
  | .attribute object name => object.print Rank.atom ++ pointAfter object ++ name
  | .call function args keywords =>
    function.print Rank.atom ++ "(" ++ ", ".intercalate (printEach args ++ printKeywords keywords) ++
      ")"
  | .conjunction operands =>
    parens (Rank.conjunction < rank)
      (" and ".intercalate (printRising (Rank.conjunction + 1) operands))
  | .compare left op right =>
    parens (Rank.comparison < rank)
      (left.print (Rank.comparison + 1) ++ op.text ++ right.print (Rank.comparison + 1))
  | .choice value test other =>
    parens (Rank.test < rank)
      (value.print (Rank.test + 1) ++ " if " ++ test.print (Rank.test + 1) ++ " else " ++
        other.print Rank.test)
  | .formatted parts => String.ofList ('f' :: formattedLiteral parts)
  | .emptyDict => "\x7b\x7d"
  | .filterDict key value targets source test =>
    "\x7b" ++ key.print Rank.test ++ ": " ++ value.print Rank.test ++ " for " ++
      ", ".intercalate targets ++ " in " ++ source.print (Rank.test + 1) ++ " if " ++
      test.print (Rank.test + 1) ++ "\x7d"
  | .tuple items => tupleText (printEach items)
  | .item object index => object.print Rank.atom ++ "[" ++ index.print Rank.test ++ "]"
  | .negative operand => parens (Rank.negative < rank) ("-" ++ operand.print Rank.negative)

def printEach : List Expr → List String
  | [] => []
  | e :: rest => e.print Rank.test :: printEach rest

def printKeywords : List (Option String × Expr) → List String
  | [] => []
  | (name, e) :: rest =>
    ((match name with
      | some name => name ++ "="
      | none => "**") ++ e.print Rank.test) :: printKeywords rest

def printRising (rank : Nat) : List Expr → List String
  | [] => []
  | e :: rest => e.print rank :: printRising (min (rank + 1) Rank.atom) rest

end

def indented (depth : Nat) (text : String) : String :=
  String.ofList (List.replicate (4 * depth) ' ') ++ text

def splitDoc : List Stmt → Option String × List Stmt
  | .expr (.constant (.text doc)) :: rest => (some doc, rest)
  | body => (none, body)

def docLines (depth : Nat) (body : List Stmt) : List String :=
  match (splitDoc body).1 with
  | some doc => [indented depth (Text.blockQuoted doc)]
  | none => []

def paramsText (params : List String) (rest : Option String) : String :=
  ", ".intercalate (params ++ (rest.map ("**" ++ ·)).toList)

mutual

def Stmt.lines (depth : Nat) : Stmt → List String
  | .expr e => [indented depth (e.print Rank.standalone)]
  | .assign target value =>
    [indented depth (target.print Rank.tuple ++ " = " ++ value.print Rank.test)]
  | .importNames module names =>
    [indented depth ("from " ++ module ++ " import " ++ ", ".intercalate names)]
  | .importModule module => [indented depth ("import " ++ module)]
  | .raise exception => [indented depth ("raise " ++ exception.print Rank.test)]
  | .give value => [indented depth ("return " ++ value.print Rank.test)]
  | .check test => [indented depth ("assert " ++ test.print Rank.test)]
  | .branch test body other =>
    indented depth ("if " ++ test.print Rank.test ++ ":") ::
      (bodyLines (depth + 1) body ++ otherLines depth other)
  | .define name params rest body =>
    "" :: indented depth ("def " ++ name ++ "(" ++ paramsText params rest ++ "):") ::
      (docLines (depth + 1) body ++ restLines (depth + 1) body)
  | .inContext context body =>
    indented depth ("with " ++ context.print Rank.test ++ ":") :: bodyLines (depth + 1) body

def bodyLines (depth : Nat) : List Stmt → List String
  | [] => []
  | stmt :: rest => stmt.lines depth ++ bodyLines depth rest

def restLines (depth : Nat) : List Stmt → List String
  | .expr (.constant (.text _)) :: rest => bodyLines depth rest
  | [] => []
  | stmt :: rest => stmt.lines depth ++ bodyLines depth rest

def otherLines (depth : Nat) : List Stmt → List String
  | [] => []
  -- a branch that stands alone continues the chain
  | [.branch test body other] =>
    indented depth ("elif " ++ test.print Rank.test ++ ":") ::
      (bodyLines (depth + 1) body ++ otherLines depth other)
  | stmt :: rest =>
    indented depth "else:" :: (stmt.lines (depth + 1) ++ bodyLines (depth + 1) rest)

end

def print (body : List Stmt) : String :=
  let lines := docLines 0 body ++ restLines 0 body
  "\n".intercalate (match body with
    | .define .. :: _ => lines.tail
    | _ => lines) ++ "\n"

def printFragment (body : List Stmt) : String :=
  "\n".intercalate (bodyLines 0 body)

end ClientForge.Code
