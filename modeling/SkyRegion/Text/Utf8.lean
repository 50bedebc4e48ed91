import SkyRegion.Text.Basic

/-! Text as the bytes of a file. Reading accepts only the shortest encoding of a scalar value. A refusal
names the bytes from the start of the faulty sequence up to the first byte that cannot continue it. -/

namespace SkyRegion.Text

inductive Utf8Reason where
  | invalidStart
  | invalidContinuation
  | unexpectedEnd
  deriving DecidableEq

structure Utf8Fault where
  lead : Nat
  position : Nat
  length : Nat
  reason : Utf8Reason
  deriving DecidableEq

namespace Utf8Reason

def text : Utf8Reason → Text
  | .invalidStart => "invalid start byte".toList
  | .invalidContinuation => "invalid continuation byte".toList
  | .unexpectedEnd => "unexpected end of data".toList

end Utf8Reason

namespace Utf8Fault

def message (fault : Utf8Fault) : Text :=
  let place :=
    if fault.length = 1 then
      "byte 0x".toList ++ (Nat.toDigits 16 fault.lead) ++ " in position ".toList ++ Text.ofNat fault.position
    else
      "bytes in position ".toList ++ Text.ofNat fault.position ++ '-' ::
        Text.ofNat (fault.position + fault.length - 1)
  "'utf-8' codec can't decode ".toList ++ place ++ ": ".toList ++ fault.reason.text

end Utf8Fault

namespace Utf8

def isContinuation (byte : UInt8) : Bool := 0x80 ≤ byte.toNat && byte.toNat < 0xC0

def payload (byte : UInt8) : Nat := byte.toNat % 0x40

/-- How many bytes a sequence has, by its first byte. -/
def sequenceLength? (lead : UInt8) : Option Nat :=
  let code := lead.toNat
  if code < 0x80 then some 1
  else if code < 0xC2 then none
  else if code < 0xE0 then some 2
  else if code < 0xF0 then some 3
  else if code < 0xF5 then some 4
  else none

/-- The second byte also rules out long encodings, surrogates and codes beyond the last. -/
def mayFollow (lead second : UInt8) : Bool :=
  isContinuation second &&
    match lead.toNat with
    | 0xE0 => 0xA0 ≤ second.toNat
    | 0xED => second.toNat < 0xA0
    | 0xF0 => 0x90 ≤ second.toNat
    | 0xF4 => second.toNat < 0x90
    | _ => true

/-- Decodes the bytes from a position on. -/
def decodeFrom (position : Nat) : List UInt8 → Except Utf8Fault Text
  | [] => .ok []
  | lead :: rest =>
    let refuse (length : Nat) (reason : Utf8Reason) : Except Utf8Fault Text :=
      .error ⟨lead.toNat, position, length, reason⟩
    match sequenceLength? lead, rest with
    | none, _ => refuse 1 .invalidStart
    | some 1, rest => (decodeFrom (position + 1) rest).map (Char.ofNat lead.toNat :: ·)
    | some _, [] => refuse 1 .unexpectedEnd
    | some size, second :: rest =>
      if !mayFollow lead second then refuse 1 .invalidContinuation
      else if size = 2 then
        (decodeFrom (position + 2) rest).map (Char.ofNat (lead.toNat % 0x20 * 0x40 + payload second) :: ·)
      else
        match rest with
        | [] => refuse 2 .unexpectedEnd
        | third :: rest =>
          if !isContinuation third then refuse 2 .invalidContinuation
          else if size = 3 then
            (decodeFrom (position + 3) rest).map
              (Char.ofNat ((lead.toNat % 0x10 * 0x40 + payload second) * 0x40 + payload third) :: ·)
          else
            match rest with
            | [] => refuse 3 .unexpectedEnd
            | fourth :: rest =>
              if !isContinuation fourth then refuse 3 .invalidContinuation
              else
                (decodeFrom (position + 4) rest).map
                  (Char.ofNat (((lead.toNat % 0x08 * 0x40 + payload second) * 0x40 + payload third) * 0x40 +
                    payload fourth) :: ·)

def decode (bytes : List UInt8) : Except Utf8Fault Text := decodeFrom 0 bytes

/-- A continuation byte that carries six bits. -/
def continuation (bits : Nat) : UInt8 := UInt8.ofNat (0x80 + bits % 0x40)

def encodeChar (c : Char) : List UInt8 :=
  let code := c.toNat
  if code < 0x80 then [UInt8.ofNat code]
  else if code < 0x800 then [UInt8.ofNat (0xC0 + code / 0x40), continuation code]
  else if code < 0x10000 then
    [UInt8.ofNat (0xE0 + code / 0x1000), continuation (code / 0x40), continuation code]
  else
    [UInt8.ofNat (0xF0 + code / 0x40000), continuation (code / 0x1000), continuation (code / 0x40),
      continuation code]

def encode (text : Text) : List UInt8 := text.flatMap encodeChar

end Utf8

/-- A carriage return, alone or with a line feed after it, is read from a file as a line feed. -/
def unifyBreaks : Text → Text
  | [] => []
  | '\r' :: '\n' :: rest => '\n' :: unifyBreaks rest
  | c :: rest => (if c = '\r' then '\n' else c) :: unifyBreaks rest

end SkyRegion.Text
