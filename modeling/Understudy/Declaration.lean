import Understudy.Text.Split

/-!
Declarations as a parser reports them.

Positions are byte positions in the text of the file. A callable carries its argument labels in
its name, as in `foo(bar:_:)`; every other declaration has its plain name.
-/

namespace Understudy

inductive DeclarationKind where
  | protocolType
  | classType
  | extensionType
  | function
  | initializer
  | subscript
  | property
  | parameter
  | genericParameter
  | importStatement
deriving DecidableEq, Repr, Inhabited

/-- Whether declarations of the kind own members. -/
def DeclarationKind.isType : DeclarationKind → Bool
  | .protocolType | .classType | .extensionType => true
  | _ => false

structure Declaration where
  kind : DeclarationKind
  name : String
  offset : Nat
  length : Nat
  /-- End of the name and the parameter list; effects stand between here and the body. -/
  signatureEnd : Nat := offset + length
  bodyOffset : Option Nat := none
  /-- The declared type or return type, empty when it is not written. -/
  typeText : String := ""
  isStatic : Bool := false
  accessLevel : String := ""
  attributes : List String := []
  inheritedTypes : List String := []
  /-- A variable property with a setter or without accessors. -/
  settable : Bool := false
  /-- A property whose value comes from a getter. -/
  computed : Bool := false
  children : List Declaration := []
deriving Repr, Inhabited

namespace Declaration

open Text

def stop (declaration : Declaration) : Nat :=
  declaration.offset + declaration.length

def isInitializer (declaration : Declaration) : Bool :=
  declaration.kind == .initializer

def isParameter (declaration : Declaration) : Bool :=
  declaration.kind == .parameter

def isGenericParameter (declaration : Declaration) : Bool :=
  declaration.kind == .genericParameter

def hasAvailability (declaration : Declaration) : Bool :=
  declaration.attributes.any fun text => "@available".toList.isPrefixOf text.toList

def attributesContaining (declaration : Declaration) (fragment : String) : List String :=
  declaration.attributes.filter fun text => contains fragment.toList text.toList

def params (declaration : Declaration) : List Declaration :=
  declaration.children.filter isParameter

def genericParams (declaration : Declaration) : List Declaration :=
  declaration.children.filter isGenericParameter

end Declaration

end Understudy
