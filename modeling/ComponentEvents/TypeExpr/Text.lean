/-
This file prints type expressions and members.
-/

import ComponentEvents.Number.Decimal
import ComponentEvents.TypeExpr.Basic

namespace ComponentEvents

/-- A text literal stands in single quotes as it is. -/
def Literal.text : Literal → String
  | .string value => "'" ++ value ++ "'"
  | .bool value => if value then "true" else "false"
  | .integer value => toString value
  | .double value => value.text

namespace TypeExpr

/-- Arguments stand in angle brackets, which are left out where there are none. -/
def applied (name : String) (arguments : List String) : String :=
  if arguments.isEmpty then name
  else name ++ "<" ++ ", ".intercalate arguments ++ ">"

def braced (members : List String) : String :=
  if members.isEmpty then "\x7b\x7d"
  else "\x7b " ++ "; ".intercalate members ++ " \x7d"

def heritageClause (heritage : List String) : String :=
  if heritage.isEmpty then "" else " extends " ++ ", ".intercalate heritage

mutual

/-- This function prints a type expression. -/
def text : TypeExpr → String
  | .keyword word => word.text
  | .literal value => value.text
  | .reference name arguments => applied name (texts arguments)
  | .union arms => " | ".intercalate (texts arms)
  | .intersection parts => " & ".intercalate (texts parts)
  | .parenthesized inner => "(" ++ text inner ++ ")"
  | .object members => braced (memberTexts members)
  | .interfaceDecl name members heritage =>
      "interface " ++ name ++ heritageClause (texts heritage) ++ " " ++
        braced (memberTexts members)
  | .aliasDecl name definition => "type " ++ name ++ " = " ++ text definition

def texts : List TypeExpr → List String
  | [] => []
  | node :: nodes => text node :: texts nodes

/-- The parameters and the result of a method are not kept. -/
def memberText : Member → String
  | .property key type optional => key ++ (if optional then "?" else "") ++ ": " ++ text type
  | .method key => key ++ "(): unknown"
  | .index keyType valueType => "[key: " ++ text keyType ++ "]: " ++ text valueType
  | .call result => "(): " ++ text result
  | .spread argument => "..." ++ text argument

def memberTexts : List Member → List String
  | [] => []
  | member :: members => memberText member :: memberTexts members

end

end TypeExpr

/-- This function prints a member. -/
def Member.text (member : Member) : String := TypeExpr.memberText member

end ComponentEvents
