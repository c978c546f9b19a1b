import TemplateFacts.Facts.Record
import TemplateFacts.Settings.Value
import TemplateFacts.Text.Case
import TemplateFacts.Text.Digits

/-! The conversion of values to the kinds of settings. -/

namespace TemplateFacts.Settings

/-- The greatest natural number that a setting can have. -/
def greatestNat : Nat := 18446744073709551615

/-- The whole number that a word or digits write. -/
def readCount? (s : String) : Option Nat :=
  -- Words for yes and no count as one and zero.
  let word := Text.lower s
  if word == "true" || word == "on" || word == "yes" then some 1
  else if word == "false" || word == "off" || word == "no" then some 0
  else match Text.readSignedNat? s.toList with
    | some n => if n ≤ greatestNat then some n else none
    | none => none

/-- The flag that a word or a digit writes in small letters. -/
def readFlag? (word : String) : Option Bool :=
  if word == "1" || word == "true" || word == "on" || word == "yes" then some true
  else if word == "0" || word == "false" || word == "off" || word == "no" then some false
  else none

namespace Value

/-- The failure to convert a value, found under a key, to what is expected. -/
def refusal (v : Value) (key expected : String) : Fault :=
  .unconvertible v.found expected key v.origin

/-- The value as a text. -/
def toText (key : String) (v : Value) : Except Fault String :=
  -- Flags and numbers are written out.
  match v with
  | .scalar (.text s) _ => .ok s
  | .scalar (.bool b) _ => .ok (if b then "true" else "false")
  | .scalar (.int n) _ => .ok (toString n)
  | .scalar (.float x) _ => .ok x.plainText
  | v => .error (v.refusal key "a string")

/-- The value as a flag. -/
def toBool (key : String) (v : Value) : Except Fault Bool :=
  -- Numbers other than zero count as yes, and a word is shown in small letters.
  match v with
  | .scalar (.bool b) _ => .ok b
  | .scalar (.int n) _ => .ok (n != 0)
  | .scalar (.float x) _ => .ok (!x.isZero)
  | .scalar (.text s) origin =>
    let word := Text.lower s
    match readFlag? word with
    | some b => .ok b
    | none => .error ((scalar (.text word) origin).refusal key "a boolean")
  | v => .error (v.refusal key "a boolean")

/-- The value as a natural number of 64 bits. -/
def toNat (key : String) (v : Value) : Except Fault Nat :=
  -- Floats are rounded, a half going away from zero, and held within the bounds.
  match v with
  | .scalar (.int n) _ =>
    if n < 0 then .error (v.refusal key "an unsigned 64 bit or less integer") else .ok n.toNat
  | .scalar (.bool b) _ => .ok (if b then 1 else 0)
  | .scalar (.float x) _ => .ok (x.toIntClamped 0 greatestNat).toNat
  | .scalar (.text s) _ =>
    match readCount? s with
    | some n => .ok n
    | none => .error (v.refusal key "an integer")
  | v => .error (v.refusal key "an integer")

/-- Some items as texts, each under the key of its place. -/
def textsFrom (key : String) (place : Nat) : List Value → Except Fault (List String)
  -- The first failure ends the reading.
  | [] => .ok []
  | v :: vs => do
    let s ← v.toText s!"{key}[{place}]"
    let rest ← textsFrom key (place + 1) vs
    return s :: rest

/-- The value as a list of texts. -/
def toTexts (key : String) (v : Value) : Except Fault (List String) :=
  match v with
  | .list items _ => textsFrom key 0 items
  | v => .error (.misplaced v.found "a sequence")

/-- The name of the choice of a source of component ids. -/
def sourceTypeName : String := "ComponentIdSource"

/-- The value as a source of component ids. -/
def toSource (v : Value) : Except Fault ComponentIdSource :=
  -- The only key of a table counts as its name.
  let named (name : String) : Except Fault ComponentIdSource :=
    match ComponentIdSource.ofText? name with
    | some source => .ok source
    | none => .error (.unknownVariant sourceTypeName name)
  match v with
  | .scalar (.text s) _ => named s
  | .table [(name, _)] _ => named name
  | _ => .error (.notVariant sourceTypeName)

end Value

/-- A section as it is found: a table of settings by name, or a list of them by place. -/
inductive Section where
  | table (key : String) (entries : Entries)
  | list (key : String) (items : List Value) (expected : String)

namespace Section

/-- The section that a value holds under a key. -/
def ofValue (key type : String) (count : Nat) : Value → Except Fault Section
  | .table entries _ => .ok (.table key entries)
  | .list items _ => .ok (.list key items s!"struct {type} with {count} elements")
  | v => .error (.misplaced v.found s!"struct {type}")

/-- Converts a setting of the section, if it is there. -/
def read? {α : Type} (name : String) (place : Nat)
    (convert : (key : String) → Value → Except Fault α) : Section → Except Fault (Option α)
  -- The key says how the setting was found.
  | .table key entries =>
    match entries.lookup name with
    | some v => (convert s!"{key}.{name}" v).map some
    | none => .ok none
  | .list key items _ =>
    match items[place]? with
    | some v => (convert s!"{key}[{place}]" v).map some
    | none => .ok none

/-- The setting, which must have been there. -/
def required {α : Type} (name : String) (place : Nat) (read : Option α) :
    Section → Except Fault α
  -- A table lacks a name, and a list is too short.
  | .table .. =>
    match read with
    | some x => .ok x
    | none => .error (.missingField name)
  | .list _ _ expected =>
    match read with
    | some x => .ok x
    | none => .error (.shortList place expected)

end Section

end TemplateFacts.Settings
