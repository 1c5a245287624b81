/-!
# Octets as text

The octet sequences of UTF-8, read strictly or with a replacement for what is malformed. An
ill-formed sequence is cut after its longest beginning that some character could start with, and
each such piece is replaced once.
-/

namespace VolumeAttacher.Text

/-- The octets of a text. -/
def octets (text : String) : List UInt8 :=
  text.toUTF8.toList

/-- What a first octet announces: the number of octets to come, the range of the next one, and the
bits the first octet itself contributes. -/
structure Lead where
  owed : Nat
  least : UInt8
  greatest : UInt8
  bits : Nat
  deriving DecidableEq

/-- The announcement of a first octet that is not a whole character, if it starts one. -/
def Lead.ofOctet? (octet : UInt8) : Option Lead :=
  if 0xc2 ≤ octet && octet ≤ 0xdf then some ⟨1, 0x80, 0xbf, octet.toNat % 32⟩
  else if octet = 0xe0 then some ⟨2, 0xa0, 0xbf, 0⟩
  else if octet = 0xed then some ⟨2, 0x80, 0x9f, 13⟩
  else if 0xe1 ≤ octet && octet ≤ 0xef then some ⟨2, 0x80, 0xbf, octet.toNat % 16⟩
  else if octet = 0xf0 then some ⟨3, 0x90, 0xbf, 0⟩
  else if octet = 0xf4 then some ⟨3, 0x80, 0x8f, 4⟩
  else if 0xf1 ≤ octet && octet ≤ 0xf3 then some ⟨3, 0x80, 0xbf, octet.toNat % 8⟩
  else none

/-- One piece of an octet sequence: a character, or a malformed stretch. -/
inductive Piece where
  | character (value : Char)
  | malformed
  deriving DecidableEq

/-- The pieces of an octet sequence. `pending` is a character begun and not yet complete. -/
def pieces (pending : Option Lead) : List UInt8 → List Piece
  | [] => match pending with
    | none => []
    | some _ => [.malformed]
  | octet :: rest =>
    match pending with
    | some lead =>
      if lead.least ≤ octet && octet ≤ lead.greatest then
        let bits := lead.bits * 64 + octet.toNat % 64
        if lead.owed ≤ 1 then .character (Char.ofNat bits) :: pieces none rest
        else pieces (some ⟨lead.owed - 1, 0x80, 0xbf, bits⟩) rest
      else if octet < 0x80 then
        .malformed :: .character (Char.ofNat octet.toNat) :: pieces none rest
      else match Lead.ofOctet? octet with
        | some next => .malformed :: pieces (some next) rest
        | none => .malformed :: .malformed :: pieces none rest
    | none =>
      if octet < 0x80 then .character (Char.ofNat octet.toNat) :: pieces none rest
      else match Lead.ofOctet? octet with
        | some lead => pieces (some lead) rest
        | none => .malformed :: pieces none rest

/-- The character of a well-formed piece. -/
def Piece.character? : Piece → Option Char
  | .character value => some value
  | .malformed => none

/-- The text of well-formed octets. -/
def ofOctets? (bytes : List UInt8) : Option String :=
  ((pieces none bytes).mapM Piece.character?).map String.ofList

/-- The text of any octets, with U+FFFD for each malformed piece. -/
def ofOctetsReplacing (bytes : List UInt8) : String :=
  String.ofList ((pieces none bytes).map fun piece => piece.character?.getD '\ufffd')

end VolumeAttacher.Text
