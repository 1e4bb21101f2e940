import VersionOrder.Document.Fault
import VersionOrder.Text.Utf8

/-!
# Faults

Every operation of the library that can fail says why by one of the causes listed here. The causes
are grouped by what they concern; four groups form the categories that a report names, and the
others are plain refusals of a value.

## Main definitions

- `IntervalFault`, `RenderFault`, `SchemeFault`, `SettingsFault`: the causes of each category
- `Refusal`: values that cannot be read or used
- `Fault`: any cause
- `Fault.message`, `Fault.context`, `Fault.category?`: its wording, details and category
-/

namespace VersionOrder

/-- One of the two sides of an interval. -/
inductive Side where
  | left
  | right
  deriving DecidableEq, Repr

namespace Side

/-- The name of a side inside a key. -/
def code : Side → String
  | .left => "left"
  | .right => "right"

/-- The name of a side at the start of a sentence. -/
def heading : Side → String
  | .left => "Left"
  | .right => "Right"

end Side

/-- What the operating system reports. -/
structure SystemFault where
  /-- The number of the report. -/
  number : Nat
  /-- Its wording. -/
  reason : String
  deriving DecidableEq, Repr

/-- Why an interval cannot be formed or combined. -/
inductive IntervalFault where
  /-- The kind of one side is not one of the three kinds of boundary. -/
  | unknownBoundary (side : Side)
  /-- A bounded side has no value. -/
  | missingValue (side : Side) (boundary : String)
  /-- The left value comes after the right one. -/
  | reversed (left right : String)
  /-- Both values are equal and one of them is excluded. -/
  | openPoint (value : String)
  /-- Two intervals have no common value. -/
  | disjoint (left right : String)
  deriving DecidableEq, Repr

/-- Why a version or a qualifier cannot be written. -/
inductive RenderFault where
  /-- The build part is to be emitted, but the layout has no delimiter for it. -/
  | undelimitedBuild (scheme layout : String)
  /-- A release qualifier was given a label. -/
  | labelledRelease
  /-- A qualifier of this kind needs a label. -/
  | missingLabel (kind : String)
  deriving DecidableEq, Repr

/-- The things that are known by a code. -/
inductive Coded where
  | layout
  | style
  | scheme
  deriving DecidableEq, Repr

/-- The name of a coded thing at the start of a sentence. -/
def Coded.heading : Coded → String
  | .layout => "Structure"
  | .style => "Format spec"
  | .scheme => "Scheme"

/-- Why a scheme cannot be made, found or combined. -/
inductive SchemeFault where
  /-- A code that holds nothing but blanks. -/
  | blankCode (thing : Coded)
  /-- A scheme was given no comparator. -/
  | missingComparator (code : String)
  /-- No scheme has the code; `known` lists the codes that a registry holds. -/
  | unknown (code : Option String) (known : Option (List String))
  /-- A scheme with the same code is registered. -/
  | duplicate (code : String)
  /-- The value, of the kind named, is neither a scheme nor a code. -/
  | notScheme (kind : String)
  /-- Two intervals follow different schemes. -/
  | mixed (left right : String)
  deriving DecidableEq, Repr

/-- A value or word that cannot be read or used, outside the four categories. -/
inductive Refusal where
  /-- A run of too many digits to be read as a number. -/
  | tooManyDigits (count : Nat)
  /-- A word that names no build comparison policy. -/
  | unknownComparisonPolicy (word : String)
  /-- A word that names no build format policy. -/
  | unknownFormatPolicy (word : String)
  /-- A word that names no qualifier kind. -/
  | unknownQualifierKind (word : String)
  /-- An interval was asked about no value at all. -/
  | absentValue
  /-- A version was to be made from a value that is no text. -/
  | versionNotText (kind : String)
  /-- A column holds values of another type. -/
  | columnNotText (name dtype : String)
  /-- Two values of these kinds have no order. -/
  | incomparable (left right : String)
  /-- Settings were looked for in a value of a kind that holds nothing. -/
  | notContainer (kind : String)
  /-- Settings were looked up by name in a text. -/
  | namedInText
  /-- Settings were looked up by name in a list. -/
  | namedInList
  /-- A file is no UTF-8. -/
  | undecodable (fault : Utf8.Fault)
  /-- A document holds a value that cannot be formed. -/
  | unformed (fault : ReadFault)
  /-- A value cannot be written. -/
  | unwritable (fault : WriteFault)
  /-- A value of a kind that lacks the part by which versions compare. -/
  | notVersion (kind part : String)
  /-- Two versions are to be compared without a comparator. -/
  | noComparator
  /-- The system does not tell whether there is a file at the path. -/
  | undetermined (path : String) (fault : SystemFault)
  /-- A table cannot be drawn. -/
  | undrawable (fault : ForeignFault)
  deriving DecidableEq, Repr

/-- Why settings cannot be loaded or used. -/
inductive SettingsFault where
  /-- The value at a place is no mapping. -/
  | notMapping (place kind : String)
  /-- A mapping has keys that mean nothing at its place. -/
  | unknownKeys (place : String) (keys allowed : List String)
  /-- A scheme definition has no code. -/
  | missingCode
  /-- The code of a scheme definition is blank or no text. -/
  | blankSchemeCode
  /-- A field of a scheme definition is no text. -/
  | fieldNotText (field code kind : String)
  /-- A scheme definition names no known comparator. -/
  | unknownComparator (comparator code : String) (allowed : List String)
  /-- A field of a scheme definition is neither true nor false. -/
  | orderNotBoolean (code : String)
  /-- A scheme definition names no known policy. -/
  | unknownPolicy (refusal : Refusal) (code : String)
  /-- The list of scheme definitions is no list. -/
  | schemesNotList
  /-- The code of the default scheme is blank or no text. -/
  | blankDefaultScheme
  /-- The value, written as shown, names no log level. -/
  | unknownLogLevel (literal : String) (allowed : List String)
  /-- A defined scheme cannot be registered. -/
  | unregistrable (code : String) (cause : SchemeFault)
  /-- The default scheme is not registered. -/
  | unknownDefaultScheme (code : String) (known : List String)
  /-- There is no file at the path. -/
  | fileNotFound (path : String)
  /-- The file cannot be read. -/
  | fileUnreadable (path : String)
  /-- The suffix of the file names no known format. -/
  | unknownFormat (suffix : String)
  /-- The content of the file is malformed. -/
  | malformed (path : String)
  /-- The content of the file is no mapping. -/
  | rootNotMapping (path : String)
  deriving DecidableEq, Repr

/-- Any cause of failure. -/
inductive Fault where
  | interval (cause : IntervalFault)
  | render (cause : RenderFault)
  | scheme (cause : SchemeFault)
  | settings (cause : SettingsFault)
  | refusal (cause : Refusal)
  deriving DecidableEq, Repr

/-- The four areas that a report distinguishes. -/
inductive Category where
  | interval
  | format
  | scheme
  | configuration
  deriving DecidableEq, Repr

/-- The word for a category. -/
def Category.code : Category → String
  | .interval => "interval"
  | .format => "format"
  | .scheme => "scheme"
  | .configuration => "configuration"

/-- A list of words, with commas between them. -/
def commaSeparated (words : List String) : String :=
  ", ".intercalate words

namespace IntervalFault

/-- The wording of a cause. -/
def message : IntervalFault → String
  | .unknownBoundary side => s!"{side.heading} boundary must be a Boundary"
  | .missingValue side _ =>
    s!"{side.heading} value must not be None when the {side.code} boundary is bounded"
  | .reversed _ _ => "Invalid interval: left value is greater than right value"
  | .openPoint _ => "Invalid interval: point interval requires both boundaries to be closed"
  | .disjoint _ _ => "Intervals do not overlap"

/-- The details of a cause. -/
def context : IntervalFault → List (String × String)
  | .unknownBoundary _ => []
  | .missingValue side boundary => [(s!"{side.code}_boundary", boundary)]
  | .reversed left right => [("left", left), ("right", right)]
  | .openPoint value => [("value", value)]
  | .disjoint left right => [("left", left), ("right", right)]

end IntervalFault

namespace RenderFault

/-- The wording of a cause. -/
def message : RenderFault → String
  | .undelimitedBuild _ _ => "Build format policy EMIT requires a non-empty build delimiter"
  | .labelledRelease => "Label must be empty for a release qualifier"
  | .missingLabel kind => s!"Label is required for qualifier kind {quoted kind}"

/-- The details of a cause. -/
def context : RenderFault → List (String × String)
  | .undelimitedBuild scheme layout => [("scheme", scheme), ("structure", layout)]
  | .labelledRelease => []
  | .missingLabel _ => []

end RenderFault

namespace SchemeFault

/-- The wording of a cause. -/
def message : SchemeFault → String
  | .blankCode thing => s!"{thing.heading} code must not be blank"
  | .missingComparator _ => "Scheme comparator must not be None"
  | .unknown (some code) _ => s!"Unknown version scheme: {quoted code}"
  | .unknown none _ => "Unknown version scheme: None"
  | .duplicate code => s!"Version scheme already registered: {quoted code}"
  | .notScheme kind => s!"Expected a version scheme or code, got {kind}"
  | .mixed _ _ => "Cannot intersect intervals of different version schemes"

/-- The details of a cause. -/
def context : SchemeFault → List (String × String)
  | .blankCode _ => []
  | .missingComparator code => [("code", code)]
  | .unknown _ (some known) => [("known", commaSeparated known)]
  | .unknown _ none => []
  | .duplicate _ => []
  | .notScheme _ => []
  | .mixed left right => [("left", left), ("right", right)]

end SchemeFault

/-- The wording of a refusal. -/
def Refusal.message : Refusal → String
  | .tooManyDigits count => (NumeralFault.tooManyDigits count).message
  | .unknownComparisonPolicy word => s!"Unknown build comparison policy: {quoted word}"
  | .unknownFormatPolicy word => s!"Unknown build format policy: {quoted word}"
  | .unknownQualifierKind word => s!"Unsupported qualifier kind: {quoted word}"
  | .absentValue => "Value must not be None"
  | .versionNotText kind => s!"Version text must be a string, got {kind}"
  | .columnNotText name dtype => s!"Column {quoted name} must hold strings, got {dtype}"
  | .incomparable left right =>
    s!"'>' not supported between instances of '{left}' and '{right}'"
  | .notContainer kind => s!"argument of type '{kind}' is not iterable"
  | .namedInText => "string indices must be integers, not 'str'"
  | .namedInList => "list indices must be integers or slices, not str"
  | .undecodable fault => fault.message
  | .unformed fault => fault.message
  | .unwritable fault => fault.message
  | .notVersion kind part => s!"'{kind}' object has no attribute '{part}'"
  | .noComparator => "'NoneType' object is not callable"
  | .undetermined path fault => s!"[Errno {fault.number}] {fault.reason}: {quoted path}"
  | .undrawable fault => fault.message

namespace SettingsFault

/-- The wording of a cause. -/
def message : SettingsFault → String
  | .notMapping place kind => s!"{place} must be a mapping, got {kind}"
  | .unknownKeys place keys _ => s!"Unknown keys in {place}: {commaSeparated keys}"
  | .missingCode => "Scheme definition requires a 'code'"
  | .blankSchemeCode => "Scheme code must not be blank"
  | .fieldNotText field code _ => s!"{field} must be a string for scheme {quoted code}"
  | .unknownComparator comparator code _ =>
    s!"Unknown comparator {quoted comparator} for scheme {quoted code}"
  | .orderNotBoolean code => s!"version_before_build must be a boolean for scheme {quoted code}"
  | .unknownPolicy refusal code => s!"{refusal.message} (scheme {quoted code})"
  | .schemesNotList => "'schemes' must be a list of scheme definitions"
  | .blankDefaultScheme => "default_scheme must not be blank"
  | .unknownLogLevel literal _ => s!"Invalid log level: {literal}"
  | .unregistrable code cause => s!"Cannot register scheme {quoted code}: {cause.message}"
  | .unknownDefaultScheme code _ => s!"Default scheme {quoted code} is not registered"
  | .fileNotFound path => s!"Configuration file not found: {path}"
  | .fileUnreadable path => s!"Cannot read configuration file: {path}"
  | .unknownFormat suffix => s!"Unsupported configuration format: {suffix}"
  | .malformed path => s!"Failed to parse configuration file: {path}"
  | .rootNotMapping path => s!"Configuration root must be a mapping: {path}"

/-- The details of a cause. -/
def context : SettingsFault → List (String × String)
  | .unknownKeys _ _ allowed => [("allowed", commaSeparated allowed)]
  | .fieldNotText _ _ kind => [("got", kind)]
  | .unknownComparator _ _ allowed => [("allowed", commaSeparated allowed)]
  | .unknownLogLevel _ allowed => [("allowed", commaSeparated allowed)]
  | .unregistrable code _ => [("code", code)]
  | .unknownDefaultScheme _ known => [("known", commaSeparated known)]
  | _ => []

end SettingsFault

namespace Fault

/-- The wording of a fault. -/
def message : Fault → String
  | .interval cause => cause.message
  | .render cause => cause.message
  | .scheme cause => cause.message
  | .settings cause => cause.message
  | .refusal cause => cause.message

/-- The details of a fault, by key. -/
def context : Fault → List (String × String)
  | .interval cause => cause.context
  | .render cause => cause.context
  | .scheme cause => cause.context
  | .settings cause => cause.context
  | .refusal _ => []

/-- The category of a fault; a refused value has none. -/
def category? : Fault → Option Category
  | .interval _ => some .interval
  | .render _ => some .format
  | .scheme _ => some .scheme
  | .settings _ => some .configuration
  | .refusal _ => none

end Fault

end VersionOrder
