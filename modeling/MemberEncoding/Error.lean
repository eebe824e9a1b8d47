import MemberEncoding.Descriptor.Key
import MemberEncoding.Path
import MemberEncoding.Tag.Basic
import MemberEncoding.Text.Quoted
import MemberEncoding.Yaml.Fault

/-!
# MemberEncoding.Error

**Everything that can be wrong** with a member's description, as causes. The wording of a cause is
`Error.message`; what kind of mistake it is, `Error.category`.
-/

namespace MemberEncoding

/-- What is wrong with the text of a type. -/
inductive TypeFault
  /-- A character that no token starts with. -/
  | unexpectedCharacter (c : Char)
  /-- No token at all. -/
  | emptyType
  /-- A token after the end of the type. -/
  | leftover (token : String)
  /-- The text ends where a type is due. -/
  | endOfInput
  /-- A wildcard that is not a type argument. -/
  | misplacedWildcard
  /-- A token that is no name where a name is due. -/
  | notAName (token : String)
  /-- Type arguments after a primitive type or a type variable. -/
  | argumentsRefused (name : String)
  /-- Type arguments without their closing bracket. -/
  | openArguments
  /-- Array brackets without the closing one. -/
  | openBrackets
  deriving DecidableEq

/-- The wording of a fault. -/
def TypeFault.reason : TypeFault → String
  | unexpectedCharacter c => "unexpected character '" ++ c.toString ++ "'"
  | emptyType => "empty type"
  | leftover token => "unexpected '" ++ token ++ "'"
  | endOfInput => "unexpected end of input"
  | misplacedWildcard => "wildcard outside of type arguments"
  | notAName token => "expected a type name, got '" ++ token ++ "'"
  | argumentsRefused name => "'" ++ name ++ "' cannot take type arguments"
  | openArguments => "unterminated type arguments"
  | openBrackets => "unterminated array brackets"

/-- What bears a name that has to be an identifier. -/
inductive Bearer
  | parameter
  | typeParameter
  | element
  deriving DecidableEq

/-- The wording of a bearer. -/
def Bearer.text : Bearer → String
  | parameter => "Parameter"
  | typeParameter => "TypeParameter"
  | element => "EncodedElement"

/-- A cause of failure. -/
inductive Error
  /-- A name is empty. -/
  | emptyName (bearer : Bearer)
  /-- A name is no identifier. -/
  | invalidName (bearer : Bearer) (name : String)
  /-- No tag has this name. -/
  | unknownTag (name : String)
  /-- A bit set has bits that stand for no tag. -/
  | bitsOutsideAlphabet (bits : Int)
  /-- Something that is no tag was given as one. -/
  | notATag (kind : String)
  /-- A constant naming has a trail, or no name. -/
  | constantWithoutName
  /-- The text is no naming template. -/
  | invalidTemplate (template : String)
  /-- A scope would hold these names more than once. -/
  | duplicateVariables (names : List String)
  /-- The scope holds the variable already. -/
  | variableInScope (name : String)
  /-- The scope, which has the names given, does not hold the variable. -/
  | unknownVariable (name : String) (available : List String)
  /-- No primitive type has this name. -/
  | notPrimitive (name : String)
  /-- A parameterized type has no arguments. -/
  | noArguments (head : String)
  /-- A wildcard is of no known kind. -/
  | unknownWildcardKind (kind : String)
  /-- A wildcard has a bound and no kind, or a kind and no bound. -/
  | wildcardBoundMismatch
  /-- The text is not exactly one type. -/
  | unreadableType (text : String) (fault : TypeFault)
  /-- The text of a bound is a type, but not one that is declared by name. -/
  | structuralBoundText (bound typeParameter : String)
  /-- A bound is not a type that is declared by name. -/
  | structuralBound (bound typeParameter : String)
  /-- A parameter line has no colon. -/
  | parameterForm (line : String)
  /-- An element repeats parameter names. -/
  | duplicateParameters (element : String) (names : List String)
  /-- An element is a field and a helper at once. -/
  | fieldAndHelper (element : String)
  /-- An element draft lacks attributes. -/
  | missingAttributes (names : List String)
  /-- A type parameter draft lacks its name. -/
  | missingTypeParameterName
  /-- A descriptor has keys, given as they are quoted, that no descriptor has. -/
  | unknownKeys (keys : List String)
  /-- Unknown keys of these kinds have no common order to be listed in. -/
  | incomparableKeys (left right : String)
  /-- Unknown keys are a moment and a day. -/
  | momentAgainstDay
  /-- Unknown keys are moments of which one does not tell its clock. -/
  | momentsOnUnknownClocks
  /-- A datum holds a whole number that is too long for a text. -/
  | numberTooLong
  /-- A descriptor has no name. -/
  | nameRequired
  /-- A descriptor has no type. -/
  | typeRequired (element : String)
  /-- An entry is neither a text nor a list of texts. -/
  | notATextList (element : String) (key : Descriptor.Key)
  /-- A descriptor repeats type parameters. -/
  | duplicateTypeParameters (element : String) (names : List String)
  /-- A document has no list of elements. -/
  | noElementList (path : String)
  /-- An entry of the list of elements is no mapping. -/
  | notAMapping (path : String) (index : Nat)
  /-- An entry of the list of elements cannot be read. -/
  | invalidElement (path label : String) (cause : Error)
  /-- A file holds no document. -/
  | invalidDocument (path : String)
  /-- A file holds a document with data that do not exist. -/
  | invalidData (fault : Yaml.Fault)
  /-- A path leads to no file. -/
  | noFile (fault : PathFault) (path : String)
  /-- A file is not encoded in UTF-8. -/
  | notUtf8 (fault : Text.Utf8.Fault)
  deriving DecidableEq

/-- Kinds of mistake. -/
inductive Error.Category
  /-- A value that is not acceptable. -/
  | invalid
  /-- The text of a type that cannot be read. -/
  | typeText
  /-- A value of the wrong kind. -/
  | wrongKind
  /-- A name that is not known. -/
  | unknownName
  /-- A file that is not there. -/
  | missingFile
  /-- A folder in place of a file. -/
  | folder
  /-- A file in place of a folder. -/
  | noFolder
  /-- A path that cannot be looked up. -/
  | path
  /-- A file that is no text. -/
  | notText
  /-- A number for which there is no place. -/
  | overflow
  /-- Nothing at all where something is due. -/
  | nothing
  /-- A value without the parts that are due. -/
  | shapeless
  /-- A value that has no end. -/
  | endless
  deriving DecidableEq

namespace Error

/-- The kind of mistake that a fault of a document is. -/
def faultCategory : Yaml.Fault → Category
  | .encoding _ => .notText
  | .codePoint n => if n < Yaml.Fault.registerLimit then .invalid else .overflow
  | .tooManyPlaces => .overflow
  | .notTruth _ => .unknownName
  | .noNumber => .nothing
  | .notMoment => .shapeless
  | .momentInParts => .wrongKind
  | .endless => .endless
  | _ => .invalid

/-- The kind of mistake that a fault of a path is. -/
def pathCategory : PathFault → Category
  | .missing => .missingFile
  | .beyondFile => .noFolder
  | .folder => .folder
  | .tooLong => .path
  | .nul => .invalid

/-- The kind of mistake that a cause is. -/
def category : Error → Category
  | unreadableType .. => .typeText
  | notATag _ | structuralBound .. | incomparableKeys .. => .wrongKind
  | momentAgainstDay | momentsOnUnknownClocks => .wrongKind
  | unknownVariable .. => .unknownName
  | noFile fault _ => pathCategory fault
  | notUtf8 _ => .notText
  | invalidData fault => faultCategory fault
  | _ => .invalid

/-- A bit set in hexadecimal, with its sign. -/
def hexBits (bits : Int) : String :=
  (if bits < 0 then "-0x" else "0x") ++ String.ofList (Text.hex 1 bits.natAbs)

/-- The wording of a structural bound. -/
def boundMessage (bound typeParameter : String) : String :=
  "Bound '" ++ bound ++ "' of type parameter " ++ typeParameter ++ " is not a defined type"

/-- The wording of a cause. -/
def message : Error → String
  | emptyName b => b.text ++ " name cannot be empty"
  | invalidName b name => b.text ++ " name '" ++ name ++ "' is not a valid identifier"
  | unknownTag name =>
    "Unknown tag '" ++ name ++ "'. Available: " ++ ", ".intercalate (Tag.all.map Tag.name)
  | bitsOutsideAlphabet bits => "TagSet bits outside the tag alphabet: " ++ hexBits bits
  | notATag kind => "TagSet members must be Tag, got " ++ kind
  | constantWithoutName => "Constant naming must carry its name in prefix only"
  | invalidTemplate template => "Invalid naming template '" ++ template ++ "'"
  | duplicateVariables names => "Duplicate type variables: " ++ Text.quoteList names
  | variableInScope name => "Type variable " ++ name ++ " already in scope"
  | unknownVariable name available =>
    "Unknown type variable: " ++ name ++ ". Available: " ++ Text.quoteList available
  | notPrimitive name => "Not a primitive type: " ++ name
  | noArguments head => "Parameterized type " ++ head ++ " needs at least one argument"
  | unknownWildcardKind kind => "Wildcard kind must be 'extends', 'super' or '', got " ++ kind
  | wildcardBoundMismatch => "Wildcard bound must be given exactly when kind is set"
  | unreadableType text fault => "Cannot parse type '" ++ text ++ "': " ++ fault.reason
  | structuralBoundText bound name => boundMessage bound name
  | structuralBound bound name => boundMessage bound name
  | parameterForm line => "Parameter '" ++ line ++ "' must have the form 'name: Type'"
  | duplicateParameters element names =>
    "Element " ++ element ++ ": duplicate parameter names " ++ Text.quoteList names
  | fieldAndHelper element =>
    "Element " ++ element ++ ": FIELD and HELPER tags cannot be combined"
  | missingAttributes names =>
    "Cannot build EncodedElement, missing required attributes: " ++ Text.quoteList names
  | missingTypeParameterName => "Cannot build TypeParameter, missing required attribute: name"
  | unknownKeys keys =>
    "Unknown descriptor keys: [" ++ ", ".intercalate keys ++ "]. Available: "
      ++ Text.quoteList (Descriptor.Key.all.map Descriptor.Key.text)
  | incomparableKeys left right =>
    "'<' not supported between instances of '" ++ left ++ "' and '" ++ right ++ "'"
  | momentAgainstDay => "can't compare datetime.datetime to datetime.date"
  | momentsOnUnknownClocks => "can't compare offset-naive and offset-aware datetimes"
  | numberTooLong => Yaml.Fault.overLimit ++ Yaml.Fault.raiseLimit
  | nameRequired => "Element descriptor requires a non-empty 'name'"
  | typeRequired element => "Element " ++ element ++ ": descriptor requires a 'type'"
  | notATextList element key =>
    "Element " ++ element ++ ": '" ++ key.text ++ "' must be a string or a list of strings"
  | duplicateTypeParameters element names =>
    "Element " ++ element ++ ": duplicate type parameters " ++ Text.quoteList names
  | noElementList path => path ++ ": expected a mapping with an 'elements' list"
  | notAMapping path index => path ++ ": element #" ++ toString index ++ " must be a mapping"
  | invalidElement path label cause =>
    path ++ ": invalid element " ++ label ++ ": " ++ cause.message
  | invalidDocument path => "Invalid YAML in " ++ path
  | invalidData fault => fault.message
  | noFile fault path => fault.message path
  | notUtf8 fault => fault.message

end Error

end MemberEncoding
