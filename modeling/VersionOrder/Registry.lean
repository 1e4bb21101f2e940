import VersionOrder.Scheme

/-!
# Registries

A registry holds schemes in the order in which they were added. Codes are told apart without regard
to case and surrounding blanks, and a scheme, once added, is neither replaced nor removed.

## Main definitions

- `Registry`: the schemes of a registry
- `Registry.initial`: where a caller starts
- `Registry.add`, `Registry.register`: one more scheme
- `Registry.find?`, `Registry.get`: look-up by code
- `Registry.resolve`: what a scheme or a code stands for
-/

namespace VersionOrder

/-- What may stand for a scheme: the scheme itself or its code. Any other value is known by its kind
only. -/
inductive SchemeRef where
  | scheme (scheme : Scheme)
  | code (code : String)
  | other (kind : String)

/-- The registered schemes, in order. -/
structure Registry where
  /-- The schemes, first added first. -/
  schemes : List Scheme

namespace Registry

/-- The registry without schemes. -/
def empty : Registry :=
  ⟨[]⟩

/-- The registry of the built-in schemes. -/
def builtin : Registry :=
  ⟨Scheme.builtins⟩

/-- The registry that a caller starts with. -/
def initial (includeBuiltins : Bool) : Registry :=
  if includeBuiltins then builtin else empty

/-- The scheme registered under a key. -/
def atKey? (registry : Registry) (key : Text) : Option Scheme :=
  registry.schemes.find? fun scheme => Scheme.key scheme.code = key

/-- The registry with one more scheme, unless its code is taken. -/
def add (registry : Registry) (scheme : Scheme) : Except Fault Registry :=
  match registry.atKey? (Scheme.key scheme.code) with
  | some _ => .error (.scheme (.duplicate scheme.code))
  | none => .ok ⟨registry.schemes ++ [scheme]⟩

/-- The registry with one more scheme of the caller's own, which is made first. -/
def register (registry : Registry) (code : String) (comparator? : Option Comparator)
    (layout : Layout) (style : Style) (codec? : Option Codec) : Except Fault Registry := do
  registry.add (← Scheme.make code comparator? layout style codec?)

/-- The scheme with a code; a blank code finds none. -/
def find? (registry : Registry) (code : String) : Option Scheme :=
  if Text.allBlank code.toList then none else registry.atKey? (Scheme.key code)

/-- The codes of the registered schemes, in order. -/
def codes (registry : Registry) : List String :=
  registry.schemes.map Scheme.code

/-- The scheme with the given code, if one is given; it has to be registered. -/
def require (registry : Registry) (code? : Option String) : Except Fault Scheme :=
  match code?.bind registry.find? with
  | some scheme => .ok scheme
  | none => .error (.scheme (.unknown code? (some registry.codes)))

/-- The scheme with a code, which has to be registered. -/
def get (registry : Registry) (code : String) : Except Fault Scheme :=
  registry.require (some code)

/-- Whether a scheme with the code is registered. -/
def contains (registry : Registry) (code : String) : Bool :=
  (registry.find? code).isSome

/-- The number of registered schemes. -/
def size (registry : Registry) : Nat :=
  registry.schemes.length

/-- The scheme that a reference stands for. A code is looked up in the given registry; one that is
missing or empty stands for the built-in one. -/
def resolve (own? : Option Registry) : SchemeRef → Except Fault Scheme
  | .scheme scheme => .ok scheme
  | .code code =>
    match own? with
    | some registry => if registry.schemes.isEmpty then builtin.get code else registry.get code
    | none => builtin.get code
  | .other kind => .error (.scheme (.notScheme kind))

/-- The written form of a registry. -/
def display (registry : Registry) : String :=
  s!"SchemeRegistry([{commaSeparated (registry.codes.map quoted)}])"

end Registry

end VersionOrder
