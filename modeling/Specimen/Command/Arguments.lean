import Specimen.Command.Request

set_option autoImplicit false

/-! # Arguments

The request that the arguments of a command line make up. The first plain argument names the
product; options follow it. An option with a value takes it from behind an equals sign, from
the rest of a group of short options, or from the next argument; the option for inputs takes all
plain arguments that follow. What an option is given is looked at when the next option or the
end is reached, so a fault of the next argument may come first.
-/

namespace Specimen.Command

open Specimen.Document Specimen.Inference

/-! ## Options -/

/-- An option without a value. -/
inductive Switch
  /-- More messages; may be repeated. -/
  | verbose
  /-- Help is asked for. -/
  | help
  /-- The version is asked for. -/
  | version
  /-- Strings are typed by what they hold. -/
  | sniffStrings
  /-- Identical classes are merged. -/
  | dedupe
  /-- Nothing is done. -/
  | noOp
  deriving DecidableEq

/-- An option with a value. -/
inductive Setting
  /-- The format of the inputs. -/
  | format
  /-- The pointer to the sample. -/
  | pointer
  /-- The filter for the sample. -/
  | filter
  /-- Inputs; may be repeated, and takes several values. -/
  | input
  /-- The name of the root class. -/
  | root
  /-- The package of the root classes. -/
  | package
  /-- The path of what is made. -/
  | output
  deriving DecidableEq

/-- An option. -/
inductive OptionKind
  /-- An option without a value. -/
  | switch (s : Switch)
  /-- An option with a value. -/
  | setting (s : Setting)
  deriving DecidableEq

/-- The option with a long name, in front of the product (`none`) or behind it. -/
def longOption? (product : Option Product) (name : String) : Option OptionKind :=
  match product, name with
  | _, "verbose" => some (.switch .verbose)
  | _, "help" => some (.switch .help)
  | none, "version" => some (.switch .version)
  | none, _ => none
  | some _, "format" => some (.setting .format)
  | some _, "json-pointer" => some (.setting .pointer)
  | some _, "jq-expr" => some (.setting .filter)
  | some _, "input" => some (.setting .input)
  | some _, "root" => some (.setting .root)
  | some _, "package" => some (.setting .package)
  | some _, "sniff-strings" => some (.switch .sniffStrings)
  | some _, "dedupe" => some (.switch .dedupe)
  | some _, "no-op" => some (.switch .noOp)
  | some .classes, "out-dir" => some (.setting .output)
  | some .schema, "out" => some (.setting .output)
  | some _, _ => none

/-- The option with a short name, in front of the product (`none`) or behind it. -/
def shortOption? (product : Option Product) (name : Char) : Option OptionKind :=
  match product, name with
  | _, 'v' => some (.switch .verbose)
  | _, 'h' => some (.switch .help)
  | none, 'V' => some (.switch .version)
  | some _, 'i' => some (.setting .input)
  | some _, 'o' => some (.setting .output)
  | _, _ => none

/-- The product with a name. -/
def Product.ofName? : String → Option Product
  | "classes" => some .classes
  | "schema" => some .schema
  | _ => none

/-- The name of the command for help, which takes the place of a product. -/
def helpCommand : String := "help"

/-- The format with a name; one of the names leaves the format open. -/
def formatOfName? : String → Option (Option Format)
  | "auto" => some none
  | "json" => some (some .json)
  | "xml" => some (some .xml)
  | _ => none

/-- An option takes a value. -/
def Setting.accepts (value : String) : Setting → Bool
  | .format => (formatOfName? value).isSome
  | .output => !value.isEmpty
  | _ => true

/-! ## Words -/

/-- An argument by its form. -/
inductive Word
  /-- Behind it no argument is an option. -/
  | separator
  /-- A long option, and the value behind the equals sign. -/
  | long (name : String) (value : Option String)
  /-- A group of short options, not empty. -/
  | short (group : List Char)
  /-- An argument that is no option. -/
  | plain (text : String)
  deriving DecidableEq

/-- The form of an argument. -/
def Word.ofArgument (argument : String) : Word :=
  match argument.toList with
  | ['-', '-'] => .separator
  | '-' :: '-' :: rest =>
    .long (String.ofList (rest.takeWhile (· != '=')))
      (match rest.dropWhile (· != '=') with
        | [] => none
        | _ :: value => some (String.ofList value))
  | '-' :: c :: rest => .short (c :: rest)
  | _ => .plain argument

/-! ## Reading -/

/-- Why arguments make up no request. -/
inductive ArgumentFault
  /-- Help is asked for. -/
  | help
  /-- The version is asked for. -/
  | version
  /-- There is neither a product nor any option. -/
  | nothingGiven
  /-- There is no product. -/
  | missingCommand
  /-- An argument stands in the place of the product, but names none. -/
  | unknownCommand
  /-- An option that has to be given is not. -/
  | missingOption
  /-- An option has no value, or none that it takes. -/
  | invalidValue
  /-- An option has a value, but takes none. -/
  | unexpectedValue
  /-- Options exclude each other, or are repeated. -/
  | conflict
  /-- An argument is no option, or not one of the product. -/
  | unknownArgument
  deriving DecidableEq

/-- What was asked for is given, so the fault is no mistake. -/
def ArgumentFault.isAnswer : ArgumentFault → Bool
  | .help => true
  | .version => true
  | _ => false

/-- The exit code of a program that was given such arguments. -/
def ArgumentFault.exitCode (f : ArgumentFault) : Nat := if f.isAnswer then 0 else 2

/-- The arguments that have been read. -/
structure Reading where
  /-- The product, once it is named. -/
  product : Option Product
  /-- The options without values. -/
  switches : List Switch
  /-- The options with their values, in order. -/
  settings : List (Setting × List String)
  /-- The last option and the values that it has been given up to now. -/
  pending : Option (Setting × List String)
  /-- No further argument is an option. -/
  isSeparated : Bool

namespace Reading

/-- Nothing has been read but the product. -/
def start (product : Option Product) : Reading := ⟨product, [], [], none, false⟩

/-- An option with all its values is read. -/
def record (r : Reading) (setting : Setting) (values : List String) :
    Except ArgumentFault Reading :=
  if values.isEmpty then .error .invalidValue
  else if setting ≠ .input ∧ r.settings.any (·.1 == setting) then .error .conflict
  else if !values.all setting.accepts then .error .invalidValue
  else .ok { r with settings := r.settings ++ [(setting, values)] }

/-- The pending option takes no further values. -/
def settle (r : Reading) : Except ArgumentFault Reading :=
  match r.pending with
  | none => .ok r
  | some (setting, values) => { r with pending := none }.record setting values

/-- An option without a value is read. -/
def turnOn (r : Reading) (switch : Switch) : Except ArgumentFault Reading := do
  let r ← r.settle
  match switch with
  | .help => .error .help
  | .version => .error .version
  | .verbose => .ok { r with switches := .verbose :: r.switches }
  | _ =>
    if r.switches.contains switch then .error .conflict
    else .ok { r with switches := switch :: r.switches }

/-- An option is read whose values follow. -/
def await (r : Reading) (setting : Setting) : Except ArgumentFault Reading := do
  let r ← r.settle
  return { r with pending := some (setting, []) }

/-- An option is read with its only value. -/
def assign (r : Reading) (setting : Setting) (value : String) : Except ArgumentFault Reading := do
  let r ← r.settle
  r.record setting [value]

/-- A long option is read. -/
def takeLong (r : Reading) (name : String) (value : Option String) :
    Except ArgumentFault Reading :=
  match longOption? r.product name, value with
  | none, _ => .error .unknownArgument
  | some (.switch s), none => r.turnOn s
  | some (.switch _), some _ => .error .unexpectedValue
  | some (.setting s), none => r.await s
  | some (.setting s), some value => r.assign s value

/-- A group of short options is read. -/
def takeShort (r : Reading) : List Char → Except ArgumentFault Reading
  | [] => .ok r
  | c :: rest =>
    match shortOption? r.product c with
    | none => .error .unknownArgument
    | some (.switch s) =>
      match r.turnOn s with
      | .error f => .error f
      | .ok r => r.takeShort rest
    | some (.setting s) =>
      match rest with
      | [] => r.await s
      | d :: value => r.assign s (String.ofList (if d = '=' then value else rest))

/-- The values with one more, if the pending option takes one. -/
def takeValue? (r : Reading) (value : String) : Option Reading :=
  match r.pending with
  | some (setting, values) =>
    if setting = .input ∨ values = [] then
      some { r with pending := some (setting, values ++ [value]) }
    else none
  | none => none

/-- What a plain argument makes of a reading that takes no value. -/
def stray (r : Reading) (text : String) : ArgumentFault :=
  if r.product.isSome then .unknownArgument
  else if r.isSeparated ∧ ((Product.ofName? text).isSome ∨ text = helpCommand) then
    .unknownArgument
  else .unknownCommand

/-- The values of an option, if it is given. -/
def values? (r : Reading) (setting : Setting) : Option (List String) := r.settings.lookup setting

/-- The first value of an option, if it is given. -/
def value? (r : Reading) (setting : Setting) : Option String :=
  (r.values? setting).bind List.head?

/-- The naming that the options ask for. -/
def naming (r : Reading) : Except ArgumentFault Naming :=
  match r.value? .root, r.value? .package with
  | some _, some _ => .error .conflict
  | some name, none => .ok (.root name)
  | none, some name => .ok (.package name)
  | none, none => .error .missingOption

/-- The request that the arguments make up. -/
def finish (r : Reading) : Except ArgumentFault Request := do
  let r ← r.settle
  match r.product with
  | none => .error (if r.switches.isEmpty then .nothingGiven else .missingCommand)
  | some product =>
    let naming ← r.naming
    let inputs := (r.settings.filter (·.1 == .input)).flatMap Prod.snd
    if inputs.isEmpty then .error .missingOption
    else
      return {
        product
        inputs
        format := ((r.value? .format).bind formatOfName?).join
        selection := ⟨r.value? .pointer, r.value? .filter⟩
        naming
        options :=
          ⟨if r.switches.contains .sniffStrings then .sniff else .literal,
            r.switches.contains .dedupe⟩
        output := r.value? .output
        isDry := r.switches.contains .noOp }

/-- Whether help is given for commands: for none, or for one that there is. -/
def helpFor (commands : List String) : ArgumentFault :=
  match commands with
  | [] => .help
  | [name] =>
    if (Product.ofName? name).isSome ∨ name = helpCommand then .help else .unknownCommand
  | _ => .unknownCommand

/-- The request that the arguments read and some more make up. -/
def readAll (r : Reading) : List String → Except ArgumentFault Request
  | [] => r.finish
  | argument :: rest =>
    if r.isSeparated then .error (r.stray argument)
    else
      match Word.ofArgument argument with
      | .separator => { r with isSeparated := true }.readAll rest
      | .long name value =>
        match r.takeLong name value with
        | .error f => .error f
        | .ok r => r.readAll rest
      | .short group =>
        match r.takeShort group with
        | .error f => .error f
        | .ok r => r.readAll rest
      | .plain text =>
        match r.product, Product.ofName? text with
        | none, some product => (start (some product)).readAll rest
        | none, none => .error (if text = helpCommand then helpFor rest else r.stray text)
        | some _, _ =>
          match r.takeValue? text with
          | some r => r.readAll rest
          | none => .error (r.stray text)

end Reading

/-- The request that arguments make up. -/
def Request.ofArguments (arguments : List String) : Except ArgumentFault Request :=
  (Reading.start none).readAll arguments

end Specimen.Command
