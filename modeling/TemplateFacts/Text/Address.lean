import TemplateFacts.Text.Digits
import TemplateFacts.Text.Lines

/-! Addresses in a network: four numbers between points, or eight groups between colons. -/

namespace TemplateFacts.Text

/-- A number up to 255 without zeros in front. -/
def isByteNumber (cs : List Char) : Bool :=
  -- Zero itself is a single digit.
  match readNat? cs with
  | some n => n ≤ 255 && (cs.length == 1 || cs.head? != some '0')
  | none => false

/-- Four numbers between points. -/
def isPointedAddress (cs : List Char) : Bool :=
  let parts := splitChars (· == '.') cs
  parts.length == 4 && parts.all isByteNumber

/-- One to four hexadecimal digits. -/
def isHexGroup (cs : List Char) : Bool :=
  1 ≤ cs.length && cs.length ≤ 4 && cs.all fun c => (hexValue? c).isSome

/-- The number of groups that pieces write, the last of which may write two as four numbers. -/
def groupCount? (pointed : Bool) : List (List Char) → Option Nat
  -- Every other piece is a group.
  | [] => some 0
  | [last] =>
    if isHexGroup last then some 1
    else if pointed && isPointedAddress last then some 2
    else none
  | piece :: pieces =>
    if isHexGroup piece then (groupCount? pointed pieces).map (· + 1) else none

/-- What stands before the first two colons in a row, and what stands behind them. -/
def cutAtGap? : List Char → Option (List Char × List Char)
  | ':' :: ':' :: rest => some ([], rest)
  | c :: rest => (cutAtGap? rest).map fun (before, behind) => (c :: before, behind)
  | [] => none

/-- The pieces between colons, none of an empty text. -/
def colonPieces (cs : List Char) : List (List Char) :=
  if cs.isEmpty then [] else splitChars (· == ':') cs

/-- Eight groups between colons, of which a gap leaves out one or more. -/
def isGroupedAddress (cs : List Char) : Bool :=
  -- Numbers between points stand at the very end only.
  match cutAtGap? cs with
  | none => groupCount? true (colonPieces cs) == some 8
  | some (before, behind) =>
    match groupCount? false (colonPieces before), groupCount? true (colonPieces behind) with
    | some left, some right => left + right ≤ 7
    | _, _ => false

end TemplateFacts.Text
