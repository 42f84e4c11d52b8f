import SceneBridge.Datum.Printer
import SceneBridge.TypeExpr.Brackets

/-!
# Faults

Everything that can go wrong, as causes. A fault knows its kind, and its wording
is one function of it. A value that a fault is about is kept as the datum it was
when the fault arose.
-/

namespace SceneBridge

open Text

/-! ## Kinds -/

/-- The kinds of faults that callers tell apart. -/
inductive FaultKind where
  | value
  | type
  | key
  | attribute
  | index
  | overflow
  | zeroDivision
  | runtime
  | recursion
  | malformed
  | conversion
  | reflection
  | disposed
  | unbound
deriving Repr, DecidableEq

/-- Is the kind a kind of bad value? Malformed texts and failed conversions are. -/
def FaultKind.isValue : FaultKind → Bool
  | .value => true
  | .malformed => true
  | .conversion => true
  | _ => false

/-! ## Causes -/

mutual

/-- Why an operation failed. -/
inductive Fault where
  /-- A text without bracket structure. -/
  | malformed (m : Malformed)
  /-- A registry key that is no text. -/
  | keyNotText
  /-- A registry key of blanks only. -/
  | keyBlank
  /-- A registry key that names something else already. -/
  | keyTaken (key : String)
  /-- A name that no registry entry has. -/
  | keyMissing (name : String)
  | notNumber (value : Datum)
  | notBoolean (value : Datum)
  | notSplittable (value : Datum)
  /-- More components than a value of the class has. -/
  | componentCount (className : String) (size got : Nat)
  /-- Not as many elements as a matrix of the class has. -/
  | elementCount (className : String) (size got : Nat)
  /-- A value that stands for no colour. -/
  | colourValue (value : Datum)
  /-- A number of channels that makes no colour. -/
  | colourCount (got : Nat)
  /-- A colour text of the wrong length. -/
  | colourLength (text : String)
  /-- A colour text with other characters than digits. -/
  | colourDigits (text : String)
  /-- A layout that no constructor has. -/
  | unknownLayout (value : Datum)
  /-- A tag that is defined for another class. -/
  | tagTaken (tag className : String)
  /-- Metadata was asked of something that is no class. -/
  | notClass (value : Datum)
  /-- No instance of the class could be made. -/
  | reflection (className : String) (cause : Fault)
  /-- No alternative of a choice fits the value. -/
  | conversion (value : Datum) (alternatives : List String)
  /-- A value that an alternative of a choice would have let pass as it is. -/
  | attempt (reason : Reason) (value : Datum) (type : TypeExpr)
  /-- The adapter has let go of its target. -/
  | disposed (className : String)
  /-- A private name was asked of an adapter. -/
  | privateName (name : String)
  /-- A name that an adapter does not have. -/
  | noMember (adapterClass className name : String)
  | writeOnly (name : String)
  | readOnly (name : String)
  /-- A failure raised by the code of a class or a callback. -/
  | raised (kind : FaultKind) (text : String)
  /-- A script variable without a value. -/
  | unbound (name : String)
  /-- A failure of a basic operation: arithmetic, argument lists, reading numbers. -/
  | basic (kind : FaultKind) (text : String)

/-- Why a value is passed through a conversion as it is. -/
inductive Reason where
  /-- The value could not be coerced. -/
  | coercion (cause : Fault)
  | unknownType (name : String)
  | unknownGeneric (name : String)
  /-- The constructor of the named type failed. -/
  | construction (name : String) (cause : Fault)
  | notList
  | notRecord
  | notSplittable
  /-- The text is not in the notation for records. -/
  | unreadable (message : String)

end

namespace Fault

/-- The kind of a fault. -/
def kind : Fault → FaultKind
  | malformed _ => .malformed
  | keyNotText | notClass _ => .type
  | keyMissing _ => .key
  | keyBlank | keyTaken _ | notNumber _ | notBoolean _ | notSplittable _ | componentCount ..
  | elementCount .. | colourValue _ | colourCount _ | colourLength _ | colourDigits _
  | unknownLayout _ | tagTaken .. | attempt .. => .value
  | reflection .. => .reflection
  | conversion .. => .conversion
  | disposed _ => .disposed
  | privateName _ | noMember .. | writeOnly _ | readOnly _ => .attribute
  | raised k _ | basic k _ => k
  | unbound _ => .unbound

/-- Is the wording of the fault part of an answer? That of basic operations, of code
of classes and callbacks, and of unbound variables is not. -/
def isWorded : Fault → Bool
  | raised .. | basic .. | unbound _ => false
  | _ => true

mutual

/-- The wording of a fault. -/
def text : Fault → String
  | malformed m => m.message
  | keyNotText => "レジストリキーは str である必要があります"
  | keyBlank => "レジストリキーは空であってはなりません"
  | keyTaken key => "'" ++ key ++ "' は既に登録されています"
  | keyMissing name => "'" ++ name ++ "' は登録されていません"
  | notNumber v => "not a number: " ++ v.quote
  | notBoolean v => "not a boolean: " ++ v.quote
  | notSplittable v => "cannot split " ++ v.quote ++ " into numeric components"
  | componentCount c size got =>
    c ++ " takes at most " ++ toString size ++ " components, got " ++ toString got
  | elementCount c size got => c ++ " needs " ++ toString size ++ " elements, got " ++ toString got
  | colourValue v => "unsupported color value: " ++ v.quote
  | colourCount got => "Color takes 1 or 3 arguments, got " ++ toString got
  | colourLength s => "invalid hex color length: '" ++ s ++ "' (expected RRGGBB)"
  | colourDigits s => "invalid hex color: '" ++ s ++ "'"
  | unknownLayout v => "unknown layout: " ++ v.quote
  | tagTaken tag c => "tag " ++ quotedText tag ++ " is already defined for " ++ c
  | notClass v => "metadata_for expects a class, got " ++ v.quote
  | reflection c cause =>
    "cannot reflect " ++ c ++ ": default construction failed: " ++ text cause
  | conversion v alternatives =>
    "Cannot convert " ++ v.quote ++ " to any of " ++ join ", " alternatives
  | attempt reason v t => reasonText reason ++ ": " ++ v.quote ++ " as " ++ t.format
  | disposed c => c ++ " adapter is disposed"
  | privateName name => name
  | noMember a c name => a ++ "[" ++ c ++ "] has no attribute " ++ quotedText name
  | writeOnly name => name ++ " is write-only"
  | readOnly name => name ++ " is read-only"
  | raised _ t => t
  | unbound name => name
  | basic _ t => t

/-- The wording of a reason. -/
def reasonText : Reason → String
  | .coercion cause => text cause
  | .unknownType name => "unknown type " ++ quotedText name
  | .unknownGeneric name => "unknown generic " ++ quotedText name
  | .construction name cause => name ++ " construction failed: " ++ text cause
  | .notList => "not a list"
  | .notRecord => "JSON value is not an object"
  | .notSplittable => "not splittable"
  | .unreadable m => "invalid JSON: " ++ m

end

/-! ## Basic failures -/

/-- A text that should be a number and is none. -/
def floatText (s : String) : Fault :=
  .basic .value ("could not convert string to float: " ++ quotedText s)

/-- A value of the named kind where a number is needed. -/
def notReal (typeName : String) : Fault :=
  .basic .type ("float() argument must be a string or a real number, not '" ++ typeName ++ "'")

/-- An integer beyond the largest double. -/
def intTooLarge : Fault :=
  .basic .overflow "int too large to convert to float"

/-- An infinity has no integer part. -/
def infiniteInt : Fault :=
  .basic .overflow "cannot convert float infinity to integer"

/-- What is not a number has no integer part. -/
def nanInt : Fault :=
  .basic .value "cannot convert float NaN to integer"

/-- An integer in a JSON text that has more digits than are read. -/
def longInteger : Fault :=
  .basic .value "Exceeds the limit (4300 digits) for integer string conversion"

/-- An array without any dimension has no items. -/
def notIterable : Fault :=
  .basic .type "'float' object is not iterable"

/-- An array of less than two dimensions has no rows and columns to exchange. -/
def notMatrix : Fault :=
  .basic .value "matrix transpose with ndim < 2 is undefined"

/-- An array of several cells counts neither as yes nor as no. -/
def ambiguousTruth : Fault :=
  .basic .value "The truth value of an array is ambiguous"

/-- A value without a written form where one is needed. -/
def unwritten : Fault :=
  .basic .value "the value has no written form"

/-- A fault whose wording shows a value. Where the value has no written form, there is no
wording either. -/
def about (f : Datum → Fault) (d : Datum) : Fault :=
  if d.isWritable then f d else unwritten

/-- Calls within calls, or levels below levels, that go too deep. -/
def tooDeep : Fault :=
  .basic .recursion "maximum recursion depth exceeded"

/-- A value that cannot be called. -/
def notCallable (typeName : String) : Fault :=
  .basic .type ("'" ++ typeName ++ "' object is not callable")

/-- An attribute that a value of the named kind does not have. -/
def noAttribute (typeName name : String) : Fault :=
  .basic .attribute ("'" ++ typeName ++ "' object has no attribute '" ++ name ++ "'")

end Fault

end SceneBridge
