set_option autoImplicit false

/-! # UTF-8: texts as bytes and bytes as texts

Streams and files carry bytes; messages and settings carry texts. `encode` writes a text as UTF-8,
`decode?` reads bytes that are well-formed UTF-8 and refuses all others, and `repair` reads any
bytes, with U+FFFD in place of each ill-formed stretch. Both readers cut the bytes into the same
pieces (`pieces`), so that they agree on every well-formed input. -/

namespace FormatBridge

/-- A sequence of octets, as it travels over a stream or lies in a file. -/
abbrev Bytes := List UInt8

namespace Utf8

/-! ## Writing -/

/-- The UTF-8 bytes of a text. -/
def encode (s : String) : Bytes := s.toList.flatMap String.utf8EncodeChar

/-! ## Cutting bytes into scalar values -/

/-- The number of bytes that a sequence led by `a` has; 0 for a byte that leads none. -/
def width (a : UInt8) : Nat :=
  if a < 0x80 then 1
  else if a < 0xC2 then 0
  else if a < 0xE0 then 2
  else if a < 0xF0 then 3
  else if a < 0xF5 then 4
  else 0

/-- A byte that continues a sequence. -/
def isTail (b : UInt8) : Bool := 0x80 ≤ b && b < 0xC0

/-- Whether `b` may come second after the lead byte `a`: overlong forms, surrogates and values
    beyond U+10FFFF are excluded here, since the second byte already decides about them. -/
def mayFollow (a b : UInt8) : Bool :=
  isTail b &&
    (if a = 0xE0 then 0xA0 ≤ b
     else if a = 0xED then b < 0xA0
     else if a = 0xF0 then 0x90 ≤ b
     else if a = 0xF4 then b < 0x90
     else true)

/-- The six payload bits of a continuation byte. -/
def tailBits (b : UInt8) : Nat := b.toNat % 0x40

/-- The pieces of `s` behind those in `done` (last first): the scalar value of each well-formed
    sequence, and `none` for each longest start of a sequence that is broken off. -/
def piecesOnto (done : List (Option Char)) : Bytes → List (Option Char)
  | [] => done.reverse
  | a :: rest =>
    match width a with
    | 1 => piecesOnto (some (Char.ofNat a.toNat) :: done) rest
    | 2 =>
      match rest with
      | [] => piecesOnto (none :: done) []
      | b :: rest =>
        if mayFollow a b then
          piecesOnto (some (Char.ofNat (a.toNat % 0x20 * 0x40 + tailBits b)) :: done) rest
        else piecesOnto (none :: done) (b :: rest)
    | 3 =>
      match rest with
      | [] => piecesOnto (none :: done) []
      | b :: rest =>
        if mayFollow a b then
          match rest with
          | [] => piecesOnto (none :: done) []
          | c :: rest =>
            if isTail c then
              piecesOnto (some (Char.ofNat
                (a.toNat % 0x10 * 0x1000 + tailBits b * 0x40 + tailBits c)) :: done) rest
            else piecesOnto (none :: done) (c :: rest)
        else piecesOnto (none :: done) (b :: rest)
    | 4 =>
      match rest with
      | [] => piecesOnto (none :: done) []
      | b :: rest =>
        if mayFollow a b then
          match rest with
          | [] => piecesOnto (none :: done) []
          | c :: rest =>
            if isTail c then
              match rest with
              | [] => piecesOnto (none :: done) []
              | d :: rest =>
                if isTail d then
                  piecesOnto (some (Char.ofNat (a.toNat % 0x08 * 0x40000 + tailBits b * 0x1000
                    + tailBits c * 0x40 + tailBits d)) :: done) rest
                else piecesOnto (none :: done) (d :: rest)
            else piecesOnto (none :: done) (c :: rest)
        else piecesOnto (none :: done) (b :: rest)
    | _ => piecesOnto (none :: done) rest

/-- The scalar values of `s` in order, `none` for each ill-formed stretch. -/
def pieces (s : Bytes) : List (Option Char) := piecesOnto [] s

/-! ## Reading -/

/-- The scalar values of well-formed UTF-8; `none` when any stretch is ill-formed. -/
def scalars? (s : Bytes) : Option (List Char) := (pieces s).mapM id

/-- The text that well-formed UTF-8 bytes write. -/
def decode? (s : Bytes) : Option String := (scalars? s).map String.ofList

/-- The text of any bytes, each ill-formed stretch read as U+FFFD. -/
def repair (s : Bytes) : String := String.ofList ((pieces s).map (·.getD '\uFFFD'))

end Utf8

end FormatBridge
