import Mathlib.Data.List.Basic
import VolumeAttacher.Text.Utf8

/-!
# Texts survive their octets

The octets of a text are those of its characters one after another. Reading cuts them into these
characters again, whatever follows, so that every text is read back from its octets.
-/

namespace VolumeAttacher.Text

theorem toList_loop
    (bytes : ByteArray)
    (position : Nat)
    (collected : List UInt8) :
    ByteArray.toList.loop bytes position collected =
      collected.reverse ++ bytes.data.toList.drop position := by
  fun_induction ByteArray.toList.loop bytes position collected with
  | case1 position collected inside inductionHypothesis =>
    have bound : position < bytes.data.toList.length := by simpa using inside
    have same : bytes.get! position = bytes.data.toList[position] :=
      getElem!_pos bytes.data _ inside
    rw [inductionHypothesis, List.drop_eq_getElem_cons bound, same, List.reverse_cons,
      List.append_assoc, List.singleton_append]
  | case2 position collected outside =>
    have beyond : bytes.data.toList.length ≤ position := by simpa using outside
    rw [List.drop_eq_nil_of_le beyond, List.append_nil]

/-- The octets of a text are those of its characters, in order. -/
theorem octets_eq (text : String) : octets text = text.toList.flatMap String.utf8EncodeChar := by
  rw [octets, ByteArray.toList, toList_loop, String.toUTF8_eq_toByteArray,
    ← String.utf8Encode_toList, List.utf8Encode]
  simp

/-- An octet that continues a character adds its six bits to it. -/
theorem pieces_continuation
    {lead : Lead}
    {bits : Nat}
    (rest : List UInt8)
    (small : bits < 64)
    (least : lead.least.toNat ≤ bits + 0x80)
    (greatest : bits + 0x80 ≤ lead.greatest.toNat) :
    pieces (some lead) (UInt8.ofNat (bits + 0x80) :: rest) =
      if lead.owed ≤ 1 then .character (Char.ofNat (lead.bits * 64 + bits)) :: pieces none rest
      else pieces (some ⟨lead.owed - 1, 0x80, 0xbf, lead.bits * 64 + bits⟩) rest := by
  have value : (UInt8.ofNat (bits + 0x80)).toNat = bits + 0x80 :=
    UInt8.toNat_ofNat_of_lt' (by simp only [UInt8.size]; omega)
  have inRange : (decide (lead.least ≤ UInt8.ofNat (bits + 0x80)) &&
      decide (UInt8.ofNat (bits + 0x80) ≤ lead.greatest)) = true := by
    simp only [UInt8.le_iff_toNat_le, value, least, greatest, decide_true, Bool.and_self]
  have kept : (bits + 0x80) % 64 = bits := by omega
  rw [pieces, if_pos inRange]
  simp only [value, kept]

theorem pieces_last
    {least greatest : UInt8}
    (high : Nat)
    {bits : Nat}
    (rest : List UInt8)
    (small : bits < 64)
    (atLeast : least.toNat ≤ bits + 0x80)
    (atMost : bits + 0x80 ≤ greatest.toNat) :
    pieces (some ⟨1, least, greatest, high⟩) (UInt8.ofNat (bits + 0x80) :: rest) =
      .character (Char.ofNat (high * 64 + bits)) :: pieces none rest :=
  pieces_continuation rest small atLeast atMost

theorem pieces_inner
    {least greatest : UInt8}
    (owed high : Nat)
    {bits : Nat}
    (rest : List UInt8)
    (small : bits < 64)
    (atLeast : least.toNat ≤ bits + 0x80)
    (atMost : bits + 0x80 ≤ greatest.toNat) :
    pieces (some ⟨owed + 2, least, greatest, high⟩) (UInt8.ofNat (bits + 0x80) :: rest) =
      pieces (some ⟨owed + 1, 0x80, 0xbf, high * 64 + bits⟩) rest := by
  rw [pieces_continuation rest small atLeast atMost]
  exact if_neg (by dsimp only; omega)

/-- An octet of the upper half that announces a character begins it. -/
theorem pieces_lead
    {octet : UInt8}
    {lead : Lead}
    (rest : List UInt8)
    (upper : 0x80 ≤ octet)
    (announced : Lead.ofOctet? octet = some lead) :
    pieces none (octet :: rest) = pieces (some lead) rest := by
  rw [pieces, if_neg (UInt8.not_lt.mpr upper), announced]

theorem Lead.ofOctet?_two :
    ∀ bits < 32, 2 ≤ bits →
      0x80 ≤ UInt8.ofNat (bits + 0xc0) ∧
        ofOctet? (UInt8.ofNat (bits + 0xc0)) = some ⟨1, 0x80, 0xbf, bits⟩ := by
  decide

theorem Lead.ofOctet?_three :
    ∀ bits < 16,
      0x80 ≤ UInt8.ofNat (bits + 0xe0) ∧
        ofOctet? (UInt8.ofNat (bits + 0xe0)) =
          some ⟨2, if bits = 0 then 0xa0 else 0x80, if bits = 13 then 0x9f else 0xbf, bits⟩ := by
  decide

theorem Lead.ofOctet?_four :
    ∀ bits < 5,
      0x80 ≤ UInt8.ofNat (bits + 0xf0) ∧
        ofOctet? (UInt8.ofNat (bits + 0xf0)) =
          some ⟨3, if bits = 0 then 0x90 else 0x80, if bits = 4 then 0x8f else 0xbf, bits⟩ := by
  decide

/-- The octets of a character are read as that character, whatever follows. -/
theorem pieces_character (character : Char) (rest : List UInt8) :
    pieces none (String.utf8EncodeChar character ++ rest) =
      .character character :: pieces none rest := by
  have valid : character.val.toNat < 0xd800 ∨
      0xdfff < character.val.toNat ∧ character.val.toNat < 0x110000 := character.valid
  have same : Char.ofNat character.val.toNat = character := character.ofNat_toNat
  unfold String.utf8EncodeChar
  generalize character.val.toNat = code at valid same
  dsimp only
  -- What a character of several octets must not fit into fewer gives the least second octet;
  -- surrogates and the end of the code space give the greatest.
  split_ifs with one two three
  · have value : (UInt8.ofNat code).toNat = code :=
      UInt8.toNat_ofNat_of_lt' (by simp only [UInt8.size]; omega)
    have lower : UInt8.ofNat code < 0x80 := by
      rw [UInt8.lt_iff_toNat_lt, value]
      exact Nat.lt_succ_of_le one
    rw [List.singleton_append, pieces, if_pos lower, value, same]
  · obtain ⟨upper, announced⟩ :=
      Lead.ofOctet?_two (code / 64 % 32) (Nat.mod_lt _ (by decide)) (by omega)
    have whole : code / 64 % 32 * 64 + code % 64 = code := by omega
    simp only [List.cons_append, List.nil_append]
    rw [pieces_lead _ upper announced, pieces_last _ _ (Nat.mod_lt _ (by decide)), whole, same]
    all_goals simp only [UInt8.toNat_ofNat]
    all_goals omega
  · obtain ⟨upper, announced⟩ :=
      Lead.ofOctet?_three (code / 4096 % 16) (Nat.mod_lt _ (by decide))
    have whole : (code / 4096 % 16 * 64 + code / 64 % 64) * 64 + code % 64 = code := by omega
    simp only [List.cons_append, List.nil_append]
    rw [pieces_lead _ upper announced, pieces_inner _ _ _ (Nat.mod_lt _ (by decide)),
      pieces_last _ _ (Nat.mod_lt _ (by decide)), whole, same]
    all_goals (try split_ifs)
    all_goals simp only [UInt8.toNat_ofNat]
    all_goals omega
  · obtain ⟨upper, announced⟩ :=
      Lead.ofOctet?_four (code / 262144 % 8) (by omega)
    have whole : ((code / 262144 % 8 * 64 + code / 4096 % 64) * 64 + code / 64 % 64) * 64 +
        code % 64 = code := by omega
    simp only [List.cons_append, List.nil_append]
    rw [pieces_lead _ upper announced, pieces_inner _ _ _ (Nat.mod_lt _ (by decide)),
      pieces_inner _ _ _ (Nat.mod_lt _ (by decide)),
      pieces_last _ _ (Nat.mod_lt _ (by decide)), whole, same]
    all_goals (try split_ifs)
    all_goals simp only [UInt8.toNat_ofNat]
    all_goals omega

theorem pieces_flatMap (characters : List Char) :
    pieces none (characters.flatMap String.utf8EncodeChar) = characters.map .character := by
  induction characters with
  | nil => rfl
  | cons character characters inductionHypothesis =>
    rw [List.flatMap_cons, pieces_character, inductionHypothesis, List.map_cons]

/-- Every text is read back from its octets. -/
theorem ofOctets?_octets (text : String) : ofOctets? (octets text) = some text := by
  have characters : (text.toList.map Piece.character).mapM Piece.character? =
      some text.toList := by
    induction text.toList with
    | nil => rfl
    | cons character characters inductionHypothesis =>
      rw [List.map_cons, List.mapM_cons, inductionHypothesis]
      rfl
  rw [ofOctets?, octets_eq, pieces_flatMap, characters, Option.map_some, String.ofList_toList]

end VolumeAttacher.Text
