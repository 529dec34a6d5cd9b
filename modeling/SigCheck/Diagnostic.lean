import SigCheck.Location

/-!
# Diagnostics

What the checker reports about a program: a kind with its details, and the location it is about.
-/

namespace SigCheck

/-- The errors in a program that the checker reports. -/
inductive DiagnosticKind where
  /-- A value does not have the declared type. -/
  | typeClassMismatch (expected actual : String)
  /-- A constructor does not assign its fields in the declared order. -/
  | missingFieldInConstructor (field other func : String)
  | tooManyArgsInFunction (func : String) (expected actual : Nat)
  | tooFewArgsInFunction (func : String) (expected actual : Nat)
  | tooManyArgsInNew (func : String) (expected actual : Nat)
  | tooFewArgsInNew (func : String) (expected actual : Nat)
  | nonExistentField (field object : String)
  | nonVoidReturnType (expected actual func : String)
  | missingReturnStatement (expected actual func : String)
  /-- A function that no declaration gives a function type. -/
  | untypedFunctionFound (func : String)
  | callingNewOnPlainFunction (func type : String)
  | constructorMustBePascalCase (func type : String)
  | constructorThisTypeMustBeObject (func thisType : String)
  | constructorMustReturnVoid (func returnType : String)
  | returnStatementInConstructor (func returnType : String)
  | unionFieldAccess (field union : String)
  | headerLoadFailed (file reason : String)
deriving DecidableEq, Repr

namespace DiagnosticKind

/-- The tag a kind of diagnostic is known by. -/
def tag : DiagnosticKind → String
  | typeClassMismatch _ _ => "jsig.sub-type.type-class-mismatch"
  | missingFieldInConstructor _ _ _ => "jsig.verify.missing-field-in-constructor"
  | tooManyArgsInFunction _ _ _ => "jsig.verify.too-many-function-args"
  | tooFewArgsInFunction _ _ _ => "jsig.verify.too-few-function-args"
  | tooManyArgsInNew _ _ _ => "jsig.verify.too-many-args-in-new-expression"
  | tooFewArgsInNew _ _ _ => "jsig.verify.too-few-args-in-new-expression"
  | nonExistentField _ _ => "jsig.verify.non-existant-field"
  | nonVoidReturnType _ _ _ => "jsig.verify.non-void-return-type"
  | missingReturnStatement _ _ _ => "jsig.verify.missing-return-statement"
  | untypedFunctionFound _ => "jsig.verify.untyped-function-found"
  | callingNewOnPlainFunction _ _ => "jsig.verify.calling-new-on-plain-function"
  | constructorMustBePascalCase _ _ => "jsig.verify.constructor-must-be-pascal-case"
  | constructorThisTypeMustBeObject _ _ => "jsig.verify.constructor-this-type-must-be-object"
  | constructorMustReturnVoid _ _ => "jsig.verify.constructor-must-return-void"
  | returnStatementInConstructor _ _ => "jsig.verify.return-statement-in-constructor"
  | unionFieldAccess _ _ => "jsig.verify.accessing-field-on-union"
  | headerLoadFailed _ _ => "jsig.verify.header-load-failed"

/-- The wording for a wrong number of arguments. -/
def argumentCount (subject func : String) (expected actual : Nat) : String :=
  "Expected the " ++ subject ++ " " ++ func ++ " to have exactly " ++ toString expected ++
    " arguments but instead has " ++ toString actual ++ "."

/-- What is wrong. -/
def message : DiagnosticKind → String
  | typeClassMismatch expected actual =>
    "Got unexpected type class. Expected " ++ expected ++ " but got " ++ actual
  | missingFieldInConstructor field other func =>
    "Expected the field: " ++ field ++ " to be defined in constructor " ++ func ++
      " but instead found: " ++ other ++ "."
  | tooManyArgsInFunction func expected actual
  | tooFewArgsInFunction func expected actual =>
    argumentCount "function" func expected actual
  | tooManyArgsInNew func expected actual
  | tooFewArgsInNew func expected actual =>
    argumentCount "new call on constructor" func expected actual
  | nonExistentField field object =>
    "Object " ++ object ++ " does not have field " ++ field ++ "."
  | nonVoidReturnType _ actual func =>
    "Expected function " ++ func ++ " to return void but found: " ++ actual ++ "."
  | missingReturnStatement expected _ func =>
    "Expected function " ++ func ++ " to return " ++ expected ++
      " but found no return statement."
  | untypedFunctionFound func =>
    "Expected the function " ++ func ++ " to have type but could not find one."
  | callingNewOnPlainFunction func type =>
    "Cannot call `new` on plain function " ++ func ++ ". The function type " ++ type ++
      " is not a constructor."
  | constructorMustBePascalCase func type =>
    "Constructor function " ++ func ++
      " must be pascal case. Cannot call `new` on function type " ++ type ++ "."
  | constructorThisTypeMustBeObject func thisType =>
    "Constructor " ++ func ++
      " must have non-empty thisType. Cannot have non-object or empty object this (" ++ thisType ++
      ")."
  | constructorMustReturnVoid func returnType =>
    "Constructor " ++ func ++ " must return void. Cannot return type: " ++ returnType ++ "."
  | returnStatementInConstructor func returnType =>
    "Constructor " ++ func ++
      " has unexpected return statement. Expected no return but found type: " ++ returnType ++ "."
  | unionFieldAccess field union =>
    "Cannot read field " ++ field ++ " of union. Expected an object type but found " ++ union ++ "."
  | headerLoadFailed file reason => "Could not load header file " ++ file ++ ": " ++ reason

end DiagnosticKind

/-- A reported error and the location it is about. -/
structure Diagnostic where
  kind : DiagnosticKind
  loc : Location
deriving DecidableEq, Repr

namespace Diagnostic

/-- The line a diagnostic is about. -/
def line (d : Diagnostic) : Nat := d.loc.start.line

/-- The diagnostic as it is reported. -/
def text (d : Diagnostic) : String := "@" ++ toString d.line ++ ": " ++ d.kind.message

end Diagnostic

end SigCheck
