import ClientForge.Code.Printer
import ClientForge.Text.Basic
import ClientForge.Text.Fold
import ClientForge.Text.Identifier

namespace ClientForge.Code

def isGap (c : Char) : Bool :=
  c == ' ' || c == '\t' || c == '\x0c'

def trimGaps (text : List Char) : List Char :=
  Text.stripBy isGap text

def isName (text : List Char) : Bool :=
  Text.isIdentifier text && !Text.isKeyword (String.ofList text)

def isBinder (text : List Char) : Bool :=
  isName text && Text.folded text != "__debug__".toList

def dottedNames (text : List Char) : List (List Char) :=
  (Text.splitOn (· == '.') text).map trimGaps

def isDotted (text : List Char) : Bool :=
  (dottedNames text).all isName

def isModulePath (text : List Char) : Bool :=
  let rest := text.dropWhile fun c => c == '.' || isGap c
  if rest.isEmpty then text.contains '.' else isDotted rest

def isImported (text : List Char) : Bool :=
  match Text.splitOn isGap (trimGaps text) |>.filter (!·.isEmpty) with
  | [name] => isBinder name
  | [name, as, binder] => isName name && as == "as".toList && isBinder binder
  | _ => false

def constantWords : List String :=
  ["None", "True", "False", "..."]

def isWholeNumber (text : List Char) : Bool :=
  !text.isEmpty && text.all Char.isDigit && (text.head? != some '0' || text.all (· == '0'))

def isValueText (text : List Char) : Bool :=
  let text := trimGaps text
  isDotted text || isWholeNumber text || constantWords.contains (String.ofList text) ||
    match dottedNames text with
    | first :: rest =>
      constantWords.contains (String.ofList first) && !rest.isEmpty && rest.all isName
    | [] => false

def isObjectText (text : List Char) : Bool :=
  isValueText text && !isWholeNumber (trimGaps text)

def passWord : List Char := "pass".toList

def isStatementText (text : List Char) : Bool :=
  isValueText text || trimGaps text == passWord

def areStatements : List (List Char) → Bool
  | [] => true
  | [last] => (trimGaps last).isEmpty || isStatementText last
  | text :: rest => isStatementText text && areStatements rest

def endsLine (text : List Char) : Bool :=
  match Text.splitOn (· == ';') text with
  | [] => false
  | first :: rest => isValueText first && areStatements rest

def opensLine (text : List Char) : Bool :=
  (text.head?.map (!isGap ·)).getD false &&
    match Text.splitOn (· == ';') text with
    | [] => false
    | first :: rest => isStatementText first && areStatements rest

def isTargetText (text : List Char) : Bool :=
  match (dottedNames text).reverse with
  | [] => false
  | last :: others => isBinder last && others.all isName

mutual

def isConstantTarget : Value → Bool
  | .list items => areConstantTargets items
  | _ => false

def areConstantTargets : List Value → Bool
  | [] => true
  | item :: rest => isConstantTarget item && areConstantTargets rest

end

def areKeywords (keywords : List (Option String)) : Bool :=
  let names := (keywords.filterMap id).map fun name => trimGaps name.toList
  names.all isBinder && decide (names.map Text.folded).Nodup

def afterMark? (mark : List Char) : List Char → Option (List Char)
  | [] => none
  | '\\' :: _ :: rest => afterMark? mark rest
  | c :: rest =>
    if mark.isPrefixOf (c :: rest) then some ((c :: rest).drop mark.length)
    else afterMark? mark rest

/-- Literals, one right behind the other; each ends at the first mark like the one it starts with. -/
def areLiterals : (fuel : Nat) → List Char → Bool
  | 0, _ | _, [] => false
  | fuel + 1, c :: text =>
    let mark := if [c, c].isPrefixOf text then [c, c, c] else [c]
    (c == '\'' || c == '"') &&
      match afterMark? mark ((c :: text).drop mark.length) with
      | none => false
      | some rest => rest.isEmpty || areLiterals fuel rest

def FormatPart.isValid : FormatPart → Bool
  | .text _ => true
  | .applied function argument => isObjectText function.toList && isValueText argument.toList

mutual

def Expr.isValid (asObject : Bool) : Expr → Bool
  | .name id => if asObject then isObjectText id.toList else isValueText id.toList
  | .constant _ => true
  | .attribute object field => object.isValid true && isDotted field.toList
  | .call function args keywords =>
    function.isValid true && areValid args && areKeywords (keywords.map (·.1)) &&
      keywordsValid keywords
  | .conjunction operands => areValid operands
  | .compare left _ right => left.isValid false && right.isValid false
  | .choice value test other => value.isValid false && test.isValid false && other.isValid false
  | .formatted parts => parts.all FormatPart.isValid &&
      (let text := formattedLiteral parts; areLiterals text.length text)
  | .emptyDict => true
  | .filterDict key value targets source test =>
    key.isValid false && value.isValid false && targets.all (isBinder ·.toList) &&
      source.isValid false && test.isValid false
  | .tuple items => areValid items
  | .item object index => object.isValid true && index.isValid false
  | .negative operand => operand.isValid false

def areValid : List Expr → Bool
  | [] => true
  | e :: rest => e.isValid false && areValid rest

def keywordsValid : List (Option String × Expr) → Bool
  | [] => true
  | (_, e) :: rest => e.isValid false && keywordsValid rest

end

def Expr.endsLine : Expr → Bool
  | .name id => Code.endsLine id.toList
  | e => e.isValid false

def Expr.isNegated : Expr → Bool
  | .constant (.int n) => n < 0
  | .constant (.real (.finite below _ _)) => below
  | .attribute object _ => object.isNegated
  | .call function _ _ => function.isNegated
  | .item object _ => object.isNegated
  | _ => false

def Expr.isTarget : Expr → Bool
  | .name id => isTargetText id.toList
  | .attribute object field => object.isValid true && !object.isNegated && isTargetText field.toList
  | .constant value => isConstantTarget value
  | .tuple [] => true
  | _ => false

def futureModule : String := "__future__"

def futureFeatures : List String :=
  ["nested_scopes", "generators", "division", "absolute_import", "with_statement",
   "print_function", "unicode_literals", "barry_as_FLUFL", "generator_stop", "annotations"]

def importValid (inFunction : Bool) (module : String) (names : List String) : Bool :=
  isModulePath module.toList &&
    ((names == ["*"] && !inFunction) || (!names.isEmpty && names.all fun name => isImported name.toList))

mutual

def Stmt.isValid (inFunction : Bool) : Stmt → Bool
  | .expr (.name id) => opensLine id.toList
  | .expr e => e.isValid false
  | .assign target value => target.isTarget && value.endsLine
  | .importNames module names => module != futureModule && importValid inFunction module names
  | .importModule module => isDotted module.toList
  | .raise exception => exception.endsLine
  | .give value => inFunction && value.endsLine
  | .check test => test.endsLine
  | .branch test body other =>
    test.isValid false && !body.isEmpty && bodyValid inFunction body && bodyValid inFunction other
  | .define function params rest body =>
    (function :: params ++ rest.toList).all (isBinder ·.toList) &&
      decide ((params ++ rest.toList).map fun name => Text.folded name.toList).Nodup && !body.isEmpty && bodyValid true body
  | .inContext context body => context.isValid false && !body.isEmpty && bodyValid inFunction body

def bodyValid (inFunction : Bool) : List Stmt → Bool
  | [] => true
  | stmt :: rest => stmt.isValid inFunction && bodyValid inFunction rest

end

def moduleValid : List Stmt → Bool
  | .importNames module names :: rest =>
    if module = futureModule then
      !names.isEmpty && names.all futureFeatures.contains && moduleValid rest
    else bodyValid false (.importNames module names :: rest)
  | body => bodyValid false body

def isValid : List Stmt → Bool
  | .expr (.constant (.text _)) :: rest => moduleValid rest
  | body => moduleValid body

end ClientForge.Code
