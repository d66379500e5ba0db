import Triage.Data
import Triage.Text.Case
import Triage.Yaml.Tag

/-!
# Values of scalars

A whole number may be written in base two, eight, ten or sixteen or in groups of sixtieths, a binary64
number in base ten or in groups of sixtieths. Underscores inside numbers are passed over.
-/

namespace Triage.Yaml.Scalar

/-- The parts between colons. -/
def groups (cs : List Char) : List (List Char) := cs.splitOn ':'

/-- The body of a number without underscores, and whether a minus stands before it. -/
def signed (cs : List Char) : Except ScalarFault (Bool × List Char) :=
  if cs.isEmpty then .error .noDigits else .ok (Decimal.splitSign cs)

def integerIn (base : Nat) (cs : List Char) : Except ScalarFault Int :=
  (Decimal.integer base (String.ofList cs)).mapError .integer

def magnitude : List Char → Except ScalarFault Int
  | [] => .error .noDigits
  | ['0'] => .ok 0
  | '0' :: 'b' :: ds => integerIn 2 ds
  | '0' :: 'x' :: ds => integerIn 16 ds
  | '0' :: ds => integerIn 8 ('0' :: ds)
  | cs =>
    if cs.contains ':' then do
      let parts ← (groups cs).mapM (integerIn 10)
      return parts.foldl (fun total part => total * 60 + part) 0
    else integerIn 10 cs

def integer (text : String) : Except ScalarFault Int := do
  let (negative, body) ← signed (text.toList.filter (· != '_'))
  let n ← magnitude body
  return if negative then -n else n

def decimal (cs : List Char) : Except ScalarFault Float :=
  match Decimal.float? (String.ofList cs) with
  | some x => .ok x
  | none => .error (.float (String.ofList cs))

/-- Adds groups of sixtieths, the last one first; `unit` is the weight of the next. -/
def addSixtieths (unit : Nat) (total : Float) : List Float → Except ScalarFault Float
  | [] => .ok total
  | part :: rest =>
    match Decimal.ofInt? unit with
    | some weight => addSixtieths (unit * 60) (total + part * weight) rest
    | none => .error .overflow

def float (text : String) : Except ScalarFault Float := do
  let cs := (Text.lower text).toList.filter (· != '_')
  let (negative, body) ← signed cs
  let x ←
    if body == ".inf".toList then pure (1 / 0)
    else if body == ".nan".toList then pure (0 / 0)
    else if body.contains ':' then do addSixtieths 1 0 (← (groups body).mapM decimal).reverse
    else decimal body
  return if negative then -x else x

def truth (text : String) : Except ScalarFault Bool :=
  let word := Text.lower text
  if ["yes", "true", "on"].contains word then .ok true
  else if ["no", "false", "off"].contains word then .ok false
  else .error (.truth word)

/-- A date, or a moment; the parts have to be in range. -/
def stamp (text : String) : Except ScalarFault Data :=
  match Form.stamp? (Form.withoutFinalBreak text.toList) with
  | none => .error .noDate
  | some (date, none) => match date.fault? with
    | some fault => .error (.range fault)
    | none => .ok (.date date)
  | some (_, some moment) => match moment.fault? with
    | some fault => .error (.range fault)
    | none => .ok (.moment moment)

/-- Octets in base 64, which is written in ASCII. -/
def octets (text : String) : Except Problem (List UInt8) :=
  let cs := text.toList
  let isAscii := fun c : Char => c.toNat < 128
  match cs.findIdx? (!isAscii ·) with
  | some first =>
    .error (.notAscii text first (first + ((cs.drop first).takeWhile (!isAscii ·)).length - 1))
  | none => (Text.Base64.decode cs).mapError .base64

end Triage.Yaml.Scalar
