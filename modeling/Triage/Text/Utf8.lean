import Triage.Text.Quoted

/-!
# Octets as text

Text is stored in UTF-8. A sequence of octets is read up to the first one that cannot go on; the fault
covers the octets that belong to the broken character.
-/

namespace Triage.Text.Utf8

inductive Reason where
  | start
  | continuation
  | truncated
deriving Repr, DecidableEq

/-- What a sequence of octets begins with. -/
inductive Head where
  | char (c : Char) (length : Nat)
  | broken (reason : Reason) (length : Nat)

def isContinuation (b : UInt8) : Bool := 0x80 ≤ b && b < 0xC0

/-- The least and greatest second octet behind a first one. -/
def secondRange (first : UInt8) : UInt8 × UInt8 :=
  if first == 0xE0 then (0xA0, 0xBF)
  else if first == 0xED then (0x80, 0x9F)
  else if first == 0xF0 then (0x90, 0xBF)
  else if first == 0xF4 then (0x80, 0x8F)
  else (0x80, 0xBF)

/-- The number of octets of a character with a given first octet, none if there is no such character. -/
def lengthOf (first : UInt8) : Nat :=
  if first < 0x80 then 1
  else if first < 0xC2 then 0
  else if first < 0xE0 then 2
  else if first < 0xF0 then 3
  else if first < 0xF5 then 4
  else 0

/-- How many octets behind the first fit, up to the number wanted. -/
def fitting (first : UInt8) (wanted : Nat) (rest : List UInt8) : Nat :=
  match wanted, rest with
  | 0, _ | _, [] => 0
  | wanted + 1, second :: more =>
    let (low, high) := secondRange first
    if low ≤ second && second ≤ high then
      1 + ((more.take wanted).takeWhile isContinuation).length
    else 0

def codeOf (first : UInt8) (rest : List UInt8) : Nat :=
  let lead := if rest.isEmpty then first.toNat else first.toNat % Nat.pow 2 (6 - rest.length)
  rest.foldl (fun n b => n * 64 + b.toNat % 64) lead

def head (first : UInt8) (rest : List UInt8) : Head :=
  let length := lengthOf first
  if length = 0 then .broken .start 1
  else
    let fit := fitting first (length - 1) rest
    if fit = length - 1 then .char (Char.ofNat (codeOf first (rest.take fit))) length
    else if rest.length = fit then .broken .truncated (fit + 1)
    else .broken .continuation (fit + 1)

structure Fault where
  reason : Reason
  position : Nat
  length : Nat
  first : UInt8
deriving Repr, DecidableEq

namespace Reason

def message : Reason → String
  | .start => "invalid start byte"
  | .continuation => "invalid continuation byte"
  | .truncated => "unexpected end of data"

end Reason

namespace Fault

def message (f : Fault) : String :=
  let span := if f.length = 1 then
      s!"byte 0x{String.ofList (Quoted.hex 2 f.first.toNat)} in position {f.position}"
    else s!"bytes in position {f.position}-{f.position + f.length - 1}"
  s!"'utf-8' codec can't decode {span}: {f.reason.message}"

end Fault

/-- Reads octets; `fuel` bounds their number and `position` counts those before. -/
def decodeFrom (position : Nat) : Nat → List UInt8 → Except Fault (List Char)
  | 0, _ | _, [] => .ok []
  | fuel + 1, first :: rest =>
    match head first rest with
    | .char c length => (decodeFrom (position + length) fuel (rest.drop (length - 1))).map (c :: ·)
    | .broken reason length => .error ⟨reason, position, length, first⟩

def decode (bytes : List UInt8) : Except Fault String :=
  (decodeFrom 0 bytes.length bytes).map String.ofList

/-- Reads octets up to a character that is cut off at their end; gives the octets that are left. -/
def decodeOpen (position : Nat) : Nat → List UInt8 → Except Fault (List Char × List UInt8)
  | 0, bytes => .ok ([], bytes)
  | _, [] => .ok ([], [])
  | fuel + 1, first :: rest =>
    match head first rest with
    | .char c length =>
      (decodeOpen (position + length) fuel (rest.drop (length - 1))).map fun (cs, left) => (c :: cs, left)
    | .broken .truncated _ => .ok ([], first :: rest)
    | .broken reason length => .error ⟨reason, position, length, first⟩

/-- Reads octets that come in pieces of a given size. A character that a piece cuts off waits for the
next piece, and the position of a fault counts from the first octet that waited. -/
def decodePiecesFrom (size : Nat) : (fuel : Nat) → (waiting bytes : List UInt8) → Except Fault (List Char)
  | 0, waiting, bytes => decodeFrom 0 (waiting ++ bytes).length (waiting ++ bytes)
  | _, waiting, [] => decodeFrom 0 waiting.length waiting
  | fuel + 1, waiting, bytes => do
    let piece := waiting ++ bytes.take size
    let (cs, left) ← decodeOpen 0 piece.length piece
    return cs ++ (← decodePiecesFrom size fuel left (bytes.drop size))

def decodePieces (size : Nat) (bytes : List UInt8) : Except Fault String :=
  (decodePiecesFrom size bytes.length [] bytes).map String.ofList

/-- Reads octets and puts the replacement character for every broken one. -/
def decodeLossyFrom : Nat → List UInt8 → List Char
  | 0, _ | _, [] => []
  | fuel + 1, first :: rest =>
    match head first rest with
    | .char c length => c :: decodeLossyFrom fuel (rest.drop (length - 1))
    | .broken _ length => '\uFFFD' :: decodeLossyFrom fuel (rest.drop (length - 1))

def decodeLossy (bytes : List UInt8) : String :=
  String.ofList (decodeLossyFrom bytes.length bytes)

def encode (s : String) : List UInt8 := s.toUTF8.toList

end Triage.Text.Utf8
