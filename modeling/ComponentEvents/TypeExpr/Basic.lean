/-
This file holds type expressions, their members and their declarations.
-/

import ComponentEvents.Number.Double

namespace ComponentEvents

/-- These are the types that are named by a keyword. -/
inductive Keyword where
  | boolean
  | string
  | number
  | bigInt
  | symbol
  | null
  | undefined
  | void
  | object
  | any
  | unknown
  | never
  deriving DecidableEq, Repr

namespace Keyword

def all : List Keyword :=
  [boolean, string, number, bigInt, symbol, null, undefined, void, object, any, unknown, never]

/-- This is the kind of a syntax node that is the keyword. -/
def nodeKind : Keyword → String
  | boolean => "TSBooleanKeyword"
  | string => "TSStringKeyword"
  | number => "TSNumberKeyword"
  | bigInt => "TSBigIntKeyword"
  | symbol => "TSSymbolKeyword"
  | null => "TSNullKeyword"
  | undefined => "TSUndefinedKeyword"
  | void => "TSVoidKeyword"
  | object => "TSObjectKeyword"
  | any => "TSAnyKeyword"
  | unknown => "TSUnknownKeyword"
  | never => "TSNeverKeyword"

/-- This function finds the keyword of a node kind. -/
def ofNodeKind? (kind : String) : Option Keyword :=
  all.find? fun keyword => keyword.nodeKind = kind

@[simp] theorem ofNodeKind?_nodeKind (keyword : Keyword) :
    ofNodeKind? keyword.nodeKind = some keyword := by
  cases keyword <;> rfl

/-- This is the keyword as it is written in a type. -/
def text : Keyword → String
  | boolean => "boolean"
  | string => "string"
  | number => "number"
  | bigInt => "bigint"
  | symbol => "symbol"
  | null => "null"
  | undefined => "undefined"
  | void => "void"
  | object => "object"
  | any => "any"
  | unknown => "unknown"
  | never => "never"

/-- A nullish keyword stands for a missing value. -/
def isNullish : Keyword → Bool
  | null => true
  | undefined => true
  | _ => false

end Keyword

/-- A literal type has one value. -/
inductive Literal where
  | string (value : String)
  | bool (value : Bool)
  | integer (value : Int)
  | double (value : Double)
  deriving DecidableEq, Repr

mutual

/-- A declaration is a type expression too, because a name may stand for either. -/
inductive TypeExpr where
  | keyword (keyword : Keyword)
  | literal (value : Literal)
  | reference (name : String) (arguments : List TypeExpr)
  | union (arms : List TypeExpr)
  | intersection (parts : List TypeExpr)
  | parenthesized (inner : TypeExpr)
  | object (members : List Member)
  | interfaceDecl (name : String) (members : List Member) (heritage : List TypeExpr)
  | aliasDecl (name : String) (definition : TypeExpr)

/-- Members stand in object types and interfaces. -/
inductive Member where
  | property (key : String) (type : TypeExpr) (optional : Bool)
  | method (key : String)
  | index (keyType valueType : TypeExpr)
  | call (result : TypeExpr)
  | spread (argument : TypeExpr)

end

namespace TypeExpr

/-- This is the name of the type that makes the members of its argument read-only. -/
def readonlyName : String := "Readonly"

/-- Messages call a node by its kind. -/
def nodeKind : TypeExpr → String
  | .keyword word => word.nodeKind
  | .literal _ => "TSLiteralType"
  | .reference _ _ => "TSTypeReference"
  | .union _ => "TSUnionType"
  | .intersection _ => "TSIntersectionType"
  | .parenthesized _ => "TSParenthesizedType"
  | .object _ => "TSTypeLiteral"
  | .interfaceDecl _ _ _ => "TSInterfaceDeclaration"
  | .aliasDecl _ _ => "TSTypeAliasDeclaration"

/-- A reference is called by its name and any other node by its kind. -/
def kindLabel : TypeExpr → String
  | .reference name _ => name
  | node => node.nodeKind

def isNullish : TypeExpr → Bool
  | .keyword word => word.isNullish
  | _ => false

/-- Only a literal type with a text has one. -/
def stringLiteral? : TypeExpr → Option String
  | .literal (.string value) => some value
  | _ => none

/-- An alias declaration gives way to its definition; a second one inside it stays. -/
def unaliased : TypeExpr → TypeExpr
  | .aliasDecl _ definition => definition
  | node => node

/-- A union has a nullish arm when one of its own arms is a nullish keyword. -/
def hasNullish (arms : List TypeExpr) : Bool := arms.any isNullish

/-- The other arms of a union keep their order. -/
def otherArms (arms : List TypeExpr) : List TypeExpr :=
  arms.filter fun arm => !arm.isNullish

/-- A union without a nullish arm has only other arms. -/
theorem otherArms_eq_self_iff {arms : List TypeExpr} :
    otherArms arms = arms ↔ hasNullish arms = false := by
  simp [otherArms, hasNullish]

@[simp] theorem otherArms_cons_nullish {arm : TypeExpr} (arms : List TypeExpr)
    (nullish : arm.isNullish = true) : otherArms (arm :: arms) = otherArms arms := by
  simp [otherArms, nullish]

@[simp] theorem otherArms_cons_other {arm : TypeExpr} (arms : List TypeExpr)
    (other : arm.isNullish = false) : otherArms (arm :: arms) = arm :: otherArms arms := by
  simp [otherArms, other]

end TypeExpr

namespace Member

def nodeKind : Member → String
  | .property _ _ _ => "TSPropertySignature"
  | .method _ => "TSMethodSignature"
  | .index _ _ => "TSIndexSignature"
  | .call _ => "TSCallSignatureDeclaration"
  | .spread _ => "TSSpreadMember"

/-- Messages call a method by its key and any other member without a type by its kind. -/
def label : Member → String
  | .method key => key
  | member => member.nodeKind

end Member

end ComponentEvents
