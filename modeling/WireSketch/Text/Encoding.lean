/-! Reading bytes as text in UTF-8, ASCII and Latin-1, and where that fails. -/
namespace WireSketch.Text

/-- The bytes from `start` on that cannot be read, `count` of them, and why. -/
structure DecodeError where
  codec : String
  start : Nat
  count : Nat
  first : UInt8
  reason : String
deriving Repr, DecidableEq

namespace DecodeError

def hexDigit (n : Nat) : Char := if n < 10 then Char.ofNat (48 + n) else Char.ofNat (87 + n)

/-- Which bytes fail, at which positions, and why. -/
def message (e : DecodeError) : String :=
  if e.count = 1 then
    let byte := String.ofList [hexDigit (e.first.toNat / 16), hexDigit (e.first.toNat % 16)]
    s!"byte 0x{byte} in position {e.start}: {e.reason}"
  else s!"bytes in position {e.start}-{e.start + e.count - 1}: {e.reason}"

end DecodeError

/-- One character at the front of some bytes, or how many bytes are at fault and why. -/
inductive Step
  | char (c : Char) (length : Nat)
  | bad (length : Nat) (reason : String)

namespace Step

def badStart : Step := bad 1 "invalid start byte"

def badContinuation (length : Nat) : Step := bad length "invalid continuation byte"

end Step

def isContinuation (b : UInt8) : Bool := b.toNat / 64 == 2

/-- The character of a sequence: the low bits of the first byte, then six bits for each other one. -/
def sequenceChar (lead : Nat) (others : List UInt8) : Char :=
  Char.ofNat (others.foldl (fun n b => n * 64 + b.toNat % 64) lead)

/-- The first bytes that cannot be continued to a character of the lead. -/
def badSecond (lead second : UInt8) : Bool :=
  !isContinuation second ||
    (lead == 0xe0 && second < 0xa0) || (lead == 0xed && second ≥ 0xa0) ||
    (lead == 0xf0 && second < 0x90) || (lead == 0xf4 && second ≥ 0x90)

/-- The next character of UTF-8; surrogates and longer forms than needed are refused. -/
def utf8Step (lead : UInt8) (rest : List UInt8) : Step :=
  let tooShort := Step.bad (rest.length + 1) "unexpected end of data"
  if lead < 0x80 then .char (Char.ofNat lead.toNat) 1
  else if lead < 0xc2 || lead ≥ 0xf5 then .badStart
  else if lead < 0xe0 then
    match rest with
    | [] => tooShort
    | b :: _ =>
      if isContinuation b then .char (sequenceChar (lead.toNat % 32) [b]) 2 else .badContinuation 1
  else if lead < 0xf0 then
    match rest with
    | [] => tooShort
    | b :: rest =>
      if badSecond lead b then .badContinuation 1
      else match rest with
        | [] => tooShort
        | c :: _ =>
          if isContinuation c then .char (sequenceChar (lead.toNat % 16) [b, c]) 3
          else .badContinuation 2
  else
    match rest with
    | [] => tooShort
    | b :: rest =>
      if badSecond lead b then .badContinuation 1
      else match rest with
        | [] => tooShort
        | c :: rest =>
          if !isContinuation c then .badContinuation 2
          else match rest with
            | [] => tooShort
            | d :: _ =>
              if isContinuation d then .char (sequenceChar (lead.toNat % 8) [b, c, d]) 4
              else .badContinuation 3

def asciiStep (lead : UInt8) (_ : List UInt8) : Step :=
  if lead < 0x80 then .char (Char.ofNat lead.toNat) 1 else .bad 1 "ordinal not in range(128)"

def latinStep (lead : UInt8) (_ : List UInt8) : Step := .char (Char.ofNat lead.toNat) 1

/-- Reads bytes step by step; `onError` gives the characters for bytes at fault, or refuses them. -/
def decodeBy (codec : String) (step : UInt8 → List UInt8 → Step)
    (onError : DecodeError → Except DecodeError (List Char)) :
    Nat → Nat → List UInt8 → Array Char → Except DecodeError (Array Char)
  | 0, _, _, done => .ok done
  | _, _, [], done => .ok done
  | fuel + 1, i, b :: rest, done =>
    match step b rest with
    | .char c n => decodeBy codec step onError fuel (i + n) (rest.drop (n - 1)) (done.push c)
    | .bad n reason => do
      let cs ← onError { codec, start := i, count := n, first := b, reason }
      decodeBy codec step onError fuel (i + n) (rest.drop (n - 1)) (done ++ cs)

def decodeUtf8 (bytes : List UInt8) : Except DecodeError String := do
  let cs ← decodeBy "utf-8" utf8Step .error bytes.length 0 bytes #[]
  return String.ofList cs.toList

end WireSketch.Text
