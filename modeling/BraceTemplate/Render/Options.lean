import BraceTemplate.Data.Kind
import BraceTemplate.Diagnostic.Usage

/-!
# Options and their use

A template renders strictly or leniently, and tidies its output or not.  An option keeps the value
it was given; what counts is whether that value switches it on.  Options come as such or as a
mapping, where either spelling of a name serves, null leaves an option alone, and unknown names are
refused.
-/

namespace BraceTemplate

namespace Value

/-- The type of a value as messages name it. -/
def typeName (g : Graph) : Value → String
  | .null => "NoneType"
  | .undefined => "_Undefined"
  | .bool _ => "bool"
  | .int _ => "int"
  | .float _ => "float"
  | .decimal _ _ => "Decimal"
  | .complex _ _ => "complex"
  | .text _ => "str"
  | .bytes _ _ => "bytes"
  | .object _ _ _ _ => "object"
  | .scope _ => "Scope"
  | .collection place =>
    match g.at? place with
    | some (.list _) => "list"
    | some (.tuple _) => "tuple"
    | some (.map _) => "dict"
    | some (.scope _) => "Scope"
    | none => "NoneType"

/-- The type of a value as the refusal to iterate it names it: decimal numbers with the module that
they come from. -/
def fullTypeName (g : Graph) : Value → String
  | .decimal _ _ => "decimal.Decimal"
  | v => v.typeName g

/-- Why a value cannot be an element of a set.  Lists, mappings and scopes cannot, nor can a
signaling "not a number", alone or in tuples; the first such part counts. -/
def unfitElementInside? (g : Graph) (inside : List Nat) : Value → Option UsageError
  | .decimal s _ => if Exact.isSignalingText s then some .signalingElement else none
  | .scope _ => some (.unfitElement "Scope")
  | .collection place =>
    match _ : g.enter? inside place with
    | some (.list _) => some (.unfitElement "list")
    | some (.map _) => some (.unfitElement "dict")
    | some (.scope _) => some (.unfitElement "Scope")
    | some (.tuple items) => items.findSome? fun v => unfitElementInside? g (place :: inside) v
    | none => none
  | _ => none
termination_by _ => g.unentered inside
decreasing_by exact Graph.unentered_cons_lt ‹_›

/-- The names that data provides to a template: the text keys of a mapping.  A sequence provides the
texts in it, and a text its characters. -/
def providedNames (g : Graph) (v : Value) : Except UsageError (List String) :=
  match v.entries? g, v.items? g, v with
  | some es, _, _ => .ok es.names
  | _, some items, _ =>
    match items.findSome? (·.unfitElementInside? g []) with
    | some e => .error e
    | none => .ok <| items.filterMap fun
      | .text s => some s
      | _ => none
  | _, _, .text s => .ok (s.toList.map String.singleton)
  | _, _, .bytes _ _ => .ok []
  | _, _, v => .error (.notIterable (v.fullTypeName g))

end Value

/-- What a template is rendered with. -/
structure Options where
  strict : Value := .bool true
  normalize : Value := .bool true

/-- The names of the options. -/
inductive OptionName
  | strict
  | normalize
deriving DecidableEq, Repr

/-- An option by either spelling of its name. -/
def OptionName.ofText? : String → Option OptionName
  | "strict_var_mode" | "strictVarMode" => some .strict
  | "normalize_output" | "normalizeOutput" => some .normalize
  | _ => none

namespace Options

def set (o : Options) (name : OptionName) (v : Value) : Options :=
  match name with
  | .strict => { o with strict := v }
  | .normalize => { o with normalize := v }

/-- Sets one option from an entry of a mapping. -/
def setEntry (g : Graph) (o : Options) (e : Key × Value) : Except UsageError Options :=
  match e.1 with
  | .text s =>
    match OptionName.ofText? s with
    | some name =>
      match e.2 with
      | .null => .ok o
      | v => .ok (o.set name (.bool (v.switchesOn g)))
    | none => .error (.naming .unknownOption e.1.literal)
  | key => .error (.naming .unknownOption key.literal)

/-- The options that a mapping gives; later entries override earlier ones. -/
def ofEntries (g : Graph) (es : Entries) : Except UsageError Options :=
  es.foldlM (setEntry g) {}

end Options

/-- A configuration: options as such, or data that describes them. -/
inductive Configuration
  | options (o : Options)
  | data (v : Value)

/-- The options of a configuration; null gives the defaults. -/
def Configuration.options? (g : Graph) : Configuration → Except UsageError Options
  | .options o => .ok o
  | .data .null => .ok {}
  | .data v =>
    match v.entries? g with
    | some es => Options.ofEntries g es
    | none => .error (.optionsNotMapping (v.typeName g))

end BraceTemplate
