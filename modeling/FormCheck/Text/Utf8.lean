import FormCheck.Text.Quoted

/-! # Texts of bytes

A file's bytes are read as UTF-8. Where they are not, the reason names the bytes that do not fit: a
byte that no character starts with, a character that is not continued, or one that the end of the
data cuts off. Line breaks of every kind become the line feed.
-/

namespace FormCheck.Text

inductive MisfitReason where
  | start
  | continuation
  | truncated
  deriving DecidableEq, Repr, Inhabited

structure Misfit where
  first : UInt8
  position : Nat
  length : Nat
  reason : MisfitReason
  deriving DecidableEq, Repr, Inhabited

def MisfitReason.text : MisfitReason → String
  | .start => "invalid start byte"
  | .continuation => "invalid continuation byte"
  | .truncated => "unexpected end of data"

def Misfit.text (m : Misfit) : String :=
  let place :=
    if m.length = 1 then
      s!"byte 0x{String.ofList (hexDigits 2 m.first.toNat)} in position {m.position}"
    else s!"bytes in position {m.position}-{m.position + m.length - 1}"
  s!"'utf-8' codec can't decode {place}: {m.reason.text}"

inductive HeadChar where
  | char (c : Char) (size : Nat)
  | cut
  | misfit (reason : MisfitReason) (length : Nat)
  deriving Repr, Inhabited

def isTail (b : UInt8) : Bool := 0x80 ≤ b && b ≤ 0xBF

def suits (first second : UInt8) : Bool :=
  isTail second && (first != 0xE0 || 0xA0 ≤ second) && (first != 0xED || second < 0xA0) &&
    (first != 0xF0 || 0x90 ≤ second) && (first != 0xF4 || second < 0x90)

def tailBits (b : UInt8) : Nat := b.toNat % 64

def headChar (a : UInt8) (rest : List UInt8) : HeadChar :=
  if a < 0x80 then .char (Char.ofNat a.toNat) 1
  else if a < 0xC2 || 0xF4 < a then .misfit .start 1
  else match rest with
    | [] => .cut
    | b :: rest =>
      if !suits a b then .misfit .continuation 1
      else if a < 0xE0 then .char (Char.ofNat (a.toNat % 32 * 64 + tailBits b)) 2
      else match rest with
        | [] => .cut
        | c :: rest =>
          if !isTail c then .misfit .continuation 2
          else if a < 0xF0 then
            .char (Char.ofNat ((a.toNat % 16 * 64 + tailBits b) * 64 + tailBits c)) 3
          else match rest with
            | [] => .cut
            | d :: _ =>
              if !isTail d then .misfit .continuation 3
              else .char (Char.ofNat
                (((a.toNat % 8 * 64 + tailBits b) * 64 + tailBits c) * 64 + tailBits d)) 4

/-- The characters of bytes and the bytes at the end that a character is cut off in. The first
number is fuel. -/
def decodeFrom : Nat → List UInt8 → Nat → List Char → Except Misfit (List Char × List UInt8)
  | 0, bytes, _, read => .ok (read.reverse, bytes)
  | _, [], _, read => .ok (read.reverse, [])
  | fuel + 1, a :: rest, position, read =>
    match headChar a rest with
    | .char c size => decodeFrom fuel ((a :: rest).drop size) (position + size) (c :: read)
    | .cut => .ok (read.reverse, a :: rest)
    | .misfit reason length => .error { first := a, position, length, reason }

def decodePart (bytes : List UInt8) : Except Misfit (List Char × List UInt8) :=
  decodeFrom (bytes.length + 1) bytes 0 []

def decode (bytes : List UInt8) : Except Misfit (List Char) :=
  match decodePart bytes with
  | .ok (cs, []) => .ok cs
  | .ok (_, a :: rest) =>
    .error
      { first := a, position := bytes.length - (rest.length + 1), length := rest.length + 1
        reason := .truncated }
  | .error m => .error m

def pieceSize : Nat := 8192

/-- The characters of a stream, piece after piece; positions count from what the last piece left.
The first number is fuel. -/
def decodePieces : Nat → List UInt8 → List UInt8 → Except Misfit (List Char)
  | 0, left, bytes => decode (left ++ bytes)
  | fuel + 1, left, bytes =>
    if bytes.isEmpty then decode left
    else do
      let (cs, left) ← decodePart (left ++ bytes.take pieceSize)
      let more ← decodePieces fuel left (bytes.drop pieceSize)
      pure (cs ++ more)

def decodeStream (bytes : List UInt8) : Except Misfit (List Char) :=
  decodePieces (bytes.length + 1) [] bytes

def unifyBreaks : List Char → List Char
  | [] => []
  | '\x0d' :: '\n' :: rest => '\n' :: unifyBreaks rest
  | '\x0d' :: rest => '\n' :: unifyBreaks rest
  | c :: rest => c :: unifyBreaks rest

end FormCheck.Text
