import ClientForge.Text.Basic

namespace ClientForge.Text.Utf8

inductive Reason
  | invalidStart
  | invalidContinuation
  | unexpectedEnd
  deriving DecidableEq, Repr

def Reason.message : Reason → String
  | .invalidStart => "invalid start byte"
  | .invalidContinuation => "invalid continuation byte"
  | .unexpectedEnd => "unexpected end of data"

structure Fault where
  start : Nat
  count : Nat
  first : UInt8
  reason : Reason
  deriving DecidableEq, Repr

def Fault.message (fault : Fault) : String :=
  let place :=
    if fault.count == 1 then
      "byte 0x" ++ String.ofList (hexDigits 2 fault.first.toNat) ++ " in position " ++
        toString fault.start
    else
      "bytes in position " ++ toString fault.start ++ "-" ++
        toString (fault.start + fault.count - 1)
  "'utf-8' codec can't decode " ++ place ++ ": " ++ fault.reason.message

def encode (text : List Char) : List UInt8 :=
  text.flatMap String.utf8EncodeChar

def isTail (b : UInt8) : Bool :=
  0x80 ≤ b && b < 0xC0

def fitsSecond (first second : UInt8) : Bool :=
  isTail second &&
    (first != 0xE0 || 0xA0 ≤ second) && (first != 0xED || second < 0xA0) &&
    (first != 0xF0 || 0x90 ≤ second) && (first != 0xF4 || second < 0x90)

def join (lead : Nat) (tails : List UInt8) : Char :=
  Char.ofNat (tails.foldl (fun n b => n * 64 + (b.toNat - 0x80)) lead)

def decodeChar? : List UInt8 → Option (Except (Nat × Reason) (Char × List UInt8))
  | [] => none
  | a :: rest => some <|
    if a < 0x80 then .ok (Char.ofNat a.toNat, rest)
    else if a < 0xC2 then .error (1, .invalidStart)
    else if a < 0xE0 then
      match rest with
      | [] => .error (1, .unexpectedEnd)
      | b :: rest =>
        if isTail b then .ok (join (a.toNat - 0xC0) [b], rest)
        else .error (1, .invalidContinuation)
    else if a < 0xF5 then
      match rest with
      | [] => .error (1, .unexpectedEnd)
      | b :: rest =>
        if !fitsSecond a b then .error (1, .invalidContinuation)
        else match rest with
          | [] => .error (2, .unexpectedEnd)
          | c :: rest =>
            if !isTail c then .error (2, .invalidContinuation)
            else if a < 0xF0 then .ok (join (a.toNat - 0xE0) [b, c], rest)
            else match rest with
              | [] => .error (3, .unexpectedEnd)
              | d :: rest =>
                if !isTail d then .error (3, .invalidContinuation)
                else .ok (join (a.toNat - 0xF0) [b, c, d], rest)
    else .error (1, .invalidStart)

def decodeFrom (start : Nat) : Nat → List UInt8 → Except Fault (List Char)
  | 0, _ => .ok []
  | fuel + 1, bytes =>
    match decodeChar? bytes with
    | none => .ok []
    | some (.error (count, reason)) => .error ⟨start, count, bytes.headD 0, reason⟩
    | some (.ok (c, rest)) =>
      (decodeFrom (start + (bytes.length - rest.length)) fuel rest).map (c :: ·)

def decode (bytes : List UInt8) : Except Fault String :=
  (decodeFrom 0 bytes.length bytes).map String.ofList

end ClientForge.Text.Utf8
