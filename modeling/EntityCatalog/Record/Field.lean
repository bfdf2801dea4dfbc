import EntityCatalog.Number.Word
import EntityCatalog.OrderedMap
import EntityCatalog.Record
import EntityCatalog.Record.Integer

/-!
# Checks of single fields

Each check takes a datum and gives the value of a field. Octets stand for the text that they
encode, and members of enumerations for what is stored for them. Truth values and integers are also
read from numbers and texts that stand for them.
-/

namespace EntityCatalog

/-- A text with at least one character. -/
abbrev NonemptyText := { content : String // content ≠ "" }

/-- The issue of a text or a number that stands for no integer. -/
def Record.IntegerFault.issue : Record.IntegerFault → IssueKind
  | .unreadable => .integerUnreadable
  | .tooLarge => .integerTooLarge
  | .fractional => .integerFractional
  | .notFinite => .finiteExpected

namespace Datum

variable {τ α β κ : Type}

/-- The text that octets encode. -/
def textOfOctets? (content : List UInt8) : Option String :=
  (String.fromUTF8? ⟨content.toArray⟩).map fun text => Text.ofCharacters text.toList

/-- Refuses a text with surrogates, which has no encoding. -/
def encodable (content : String) : Checked String :=
  if Text.isEncodable content then .valid content else .refuse .textUndecodable

/-- A text, the encoding of one, or a member of an enumeration by the text of what it stores. -/
def checkText : Datum τ → Checked String
  | .value (.scalar (.text content)) => .valid content
  | .value (.scalar (.octets form content)) =>
      if form = .window then .refuse .textExpected
      else match textOfOctets? content with
        | some text => .valid text
        | none => .refuse .textUndecodable
  | .value (.member _ _ stored) => .valid stored.plainText
  | _ => .refuse .textExpected

/-- A text with at least one character. -/
def checkNonemptyText (datum : Datum τ) : Checked NonemptyText :=
  datum.checkText.andThen fun content =>
    (encodable content).andThen fun content =>
      if nonempty : content ≠ "" then .valid ⟨content, nonempty⟩ else .refuse .textTooShort

/--
The text of a datum from which truth values and integers are read, if it is of such a type; octets
that encode no text have an issue of their own.
-/
def readableText? (unreadable : IssueKind) : Datum τ → Option (Checked String)
  | .value (.scalar (.text content)) => some (encodable content)
  | .value (.scalar (.octets .fixed content)) =>
      some ((textOfOctets? content).elim (.refuse unreadable) .valid)
  | _ => none

/-- The truth value that a text stands for. -/
def truthOfText? (content : String) : Option Bool :=
  let lower := String.ofList (content.toList.map Char.toLower)
  if lower ∈ ["0", "off", "f", "false", "n", "no"] then some false
  else if lower ∈ ["1", "on", "t", "true", "y", "yes"] then some true
  else none

/-- The truth value that an integer stands for. -/
def truthOfInteger (number : Int) : Checked Bool :=
  if number = 0 then .valid false
  else if number = 1 then .valid true
  else .refuse .booleanUnreadable

/-- The truth value that a floating-point number stands for. -/
def truthOfFloat (number : Float) : Checked Bool :=
  match Record.integerOfFloat number with
  | .ok integer => truthOfInteger integer
  | .error _ => .refuse .booleanExpected

/-- A truth value, or a number or text that stands for one. -/
def checkBoolean (datum : Datum τ) : Checked Bool :=
  match datum.readableText? .booleanUnreadable, datum with
  | some content, _ =>
      content.andThen fun content =>
        (truthOfText? content).elim (.refuse .booleanUnreadable) .valid
  | none, .value (.scalar (.boolean truth)) => .valid truth
  | none, .value (.scalar (.integer number)) =>
      if Number.fitsWord 64 number then truthOfInteger number else .refuse .booleanExpected
  | none, .value (.scalar (.float number)) => truthOfFloat number
  | none, .value (.scalar (.decimal number)) => truthOfFloat number.toFloat
  | none, _ => .refuse .booleanExpected

/-- The integer that was read, or the issue of what stands for none. -/
def integerRead : Except Record.IntegerFault Int → Checked Quantity
  | .ok integer => .valid (.whole integer)
  | .error fault => .refuse fault.issue

/--
An integer, or a truth value, number or text that stands for one; a member of an enumeration stands
for what it stores, whatever that is.
-/
def checkInteger (datum : Datum τ) : Checked Quantity :=
  match datum.readableText? .integerUnreadable, datum with
  | some content, _ =>
      content.andThen fun content => integerRead (Record.integerOfText content)
  | none, .value (.scalar (.integer number)) => .valid (.whole number)
  | none, .value (.scalar (.boolean truth)) => .valid (.whole (if truth then 1 else 0))
  | none, .value (.scalar (.float number)) => integerRead (Record.integerOfFloat number)
  | none, .value (.scalar (.decimal number)) => integerRead (Record.integerOfDecimal number)
  | none, .value (.member enumeration name stored) =>
      .valid (.ofStored ⟨enumeration, name⟩ stored)
  | none, _ => .refuse .integerExpected

/-- The absent value, or what a check accepts. -/
def checkOptional (check : Datum τ → Checked α) : Datum τ → Checked (Option α)
  | .value (.scalar .null) => .valid none
  | datum => some <$> check datum

/-- One of the choices, by its word. -/
def checkChoice (choices : List α) (word : α → String) (datum : Datum τ) : Checked α :=
  let refusal : Checked α := .refuse (.choiceExpected (choices.map word))
  match datum.checkText with
  | .valid content =>
      (encodable content).andThen fun content =>
        (choices.find? fun choice => word choice == content).elim refusal .valid
  | .invalid _ => refusal

/-- The outcomes of a check of several items, each behind its position. -/
def checkItems (check : Datum τ → Checked α) (items : List (Datum τ)) : Checked (List α) :=
  .sequence (items.zipIdx.map fun item => (check item.1).behind (.position item.2))

/-- The pairs of a name and a content that a report consists of, by their number. -/
def reportItems : List (Datum τ) := List.replicate 3 (.tuple [])

/--
A list, or a tuple, of items. A window on octets has them as its items, and a report the pairs that
it consists of, which no check of items accepts.
-/
def checkList (check : Datum τ → Checked α) : Datum τ → Checked (List α)
  | .list items => checkItems check items
  | .tuple items => checkItems check items
  | .value (.scalar (.octets .window content)) =>
      checkItems check (content.map fun octet => .value (.integer octet.toNat))
  | .value (.record ..) | .report _ => checkItems check reportItems
  | _ => .refuse .listExpected

/-- The step to what goes by a name; surrogates are not shown. -/
def nameStep (name : String) : LocationStep := .name (Text.withReplacements name)

/-- The step to the entry at a key: texts and small integers as they are, others literally. -/
def keyStep : Value → LocationStep
  | .scalar (.text content) => nameStep content
  | .scalar (.boolean truth) => .position (if truth then 1 else 0)
  | .scalar (.integer number) =>
      if Number.fitsWord 64 number then .position number else .name (toString number)
  | key => .name key.literal

/-- One entry: the issues of its key come first, behind a step that marks them. -/
def checkEntry (checkKey : Value → Checked κ) (check : Datum τ → Checked α)
    (entry : Value × Datum τ) : Checked (κ × α) :=
  (Prod.mk <$> (checkKey entry.1).behind (.name "[key]") <*> check entry.2).behind
    (keyStep entry.1)

/-- A mapping whose keys and values pass their checks. -/
def checkMapping [DecidableEq κ] (checkKey : Value → Checked κ) (check : Datum τ → Checked α) :
    Datum τ → Checked (OrderedMap κ α)
  | .mapping entries =>
      OrderedMap.ofList <$> .sequence (entries.map (checkEntry checkKey check))
  | _ => .refuse .mappingExpected

/-- A transform. -/
def checkTransform : Datum τ → Checked τ
  | .transform content => .valid content
  | _ => .refuse .transformExpected

/-- The field of a record: the default if it is absent, an issue if there is no default. -/
def field (entries : List (Value × Datum τ)) (name : String) (check : Datum τ → Checked α)
    (default : Option α) : Checked α :=
  match OrderedMap.findEntry (Value.text name) entries, default with
  | some datum, _ => (check datum).behind (.name name)
  | none, some fallback => .valid fallback
  | none, none => .invalid [⟨.missing, [.name name]⟩]

/-- A field that has to be present. -/
def required (entries : List (Value × Datum τ)) (name : String) (check : Datum τ → Checked α) :
    Checked α :=
  field entries name check none

/-- The identifier of two texts that passed. -/
def identifierOfParts (scope name : String) : Checked Identifier :=
  match Identifier.ofParts scope name with
  | .ok identifier => .valid identifier
  | .error error => .refuse (.ruleBroken error.message)

/-- The issues of the keys that are no texts, each behind its key. -/
def checkTextKeys (entries : List (Value × Datum τ)) : Checked Unit :=
  let isText : Value → Bool
    | .scalar (.text _) => true
    | _ => false
  match (entries.map Prod.fst).filter fun key => !isText key with
  | [] => .valid ()
  | keys => .invalid (keys.map fun key => ⟨.nameExpected, [keyStep key]⟩)

/-- Whether a key is a text with surrogates. -/
def isUndecodableKey : Value → Bool
  | .scalar (.text content) => !Text.isEncodable content
  | _ => false

/--
An identifier, or a mapping of its two parts, all of whose keys are texts. A key with surrogates
is the only issue of a mapping that has one.
-/
def checkIdentifier : Datum τ → Checked Identifier
  | .value (.scalar (.identifier identifier)) => .valid identifier
  | .mapping entries =>
      if entries.any fun entry => isUndecodableKey entry.1 then .refuse .textUndecodable
      else
        ((fun scope name _ => (scope, name)) <$> required entries "scope" checkText
          <*> required entries "name" checkText <*> checkTextKeys entries).andThen
          fun parts => identifierOfParts parts.1 parts.2
  | _ => .refuse .identifierExpected

/-- An identifier in the place of a key. -/
def checkIdentifierKey (key : Value) : Checked Identifier :=
  checkIdentifier (.value key : Datum Empty)

/-- A text in the place of a key. -/
def checkTextKey (key : Value) : Checked String := checkText (.value key : Datum Empty)

/-- The element type of an array: an identifier or the name of a type. -/
def checkElementType (datum : Datum τ) : Checked ElementType :=
  match datum.checkIdentifier.behind (.name "Identifier"),
    datum.checkText.behind (.name "str") with
  | _, .valid typeName => .valid (.named typeName)
  | .valid identifier, _ => .valid (.entity identifier)
  | .invalid identifierIssues, .invalid textIssues =>
      .invalid (identifierIssues ++ textIssues)

end Datum

end EntityCatalog
