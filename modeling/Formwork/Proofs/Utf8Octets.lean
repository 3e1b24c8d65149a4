import Formwork.Text.Utf8

/-!
# Octets of a text

The machine that reads octets leaves every encoded character as it began, with nothing
pending: the first octet says how many follow and holds the highest bits, and each of the
others adds six. The bounds on the second octet rule out no character, because a character
is written with no more octets than it needs and surrogates are none. So the octets of a
text are read as the text.
-/

namespace Formwork.Text.Utf8

/-! ## Steps of the machine -/

/-- The machine takes one octet at a time. -/
theorem pieces_cons (rest : Option Rest) (octet : UInt8) (octets : List UInt8) :
    pieces rest (octet :: octets) =
      (step rest octet.toNat).1 ++ pieces (step rest octet.toNat).2 octets := rfl

/-- The first octet of a character of two. -/
theorem start_two {bits : Nat} (low : 2 ≤ bits) (high : bits < 32) :
    start (bits + 192) = ([], some ⟨1, bits, 0x80, 0xBF⟩) := by
  rw [start, if_neg (by omega), if_neg (by omega), if_pos (by omega), Nat.add_sub_cancel]

/-- The first octet of a character of three. -/
theorem start_three {bits : Nat} (high : bits < 16) :
    start (bits + 224) =
      ([], some ⟨2, bits, if bits = 0 then 0xA0 else 0x80, if bits = 13 then 0x9F else 0xBF⟩) := by
  rw [start, if_neg (by omega), if_neg (by omega), if_neg (by omega), if_pos (by omega),
    Nat.add_sub_cancel]
  simp only [Nat.reduceEqDiff, Nat.add_eq_right]

/-- The first octet of a character of four. -/
theorem start_four {bits : Nat} (high : bits < 5) :
    start (bits + 240) =
      ([], some ⟨3, bits, if bits = 0 then 0x90 else 0x80, if bits = 4 then 0x8F else 0xBF⟩) := by
  rw [start, if_neg (by omega), if_neg (by omega), if_neg (by omega), if_neg (by omega),
    if_pos (by omega), Nat.add_sub_cancel]
  simp only [Nat.reduceEqDiff, Nat.add_eq_right]

/-- The last octet of a character completes it. -/
theorem step_last {bits low high more : Nat} (least : low ≤ more + 128) (most : more + 128 ≤ high) :
    step (some ⟨1, bits, low, high⟩) (more + 128) =
      ([some (Char.ofNat (64 * bits + more))], none) := by
  simp [step, least, most]

/-- Any other octet of a character adds its bits. -/
theorem step_more {count bits low high more : Nat} (least : low ≤ more + 128)
    (most : more + 128 ≤ high) :
    step (some ⟨count + 2, bits, low, high⟩) (more + 128) =
      ([], some ⟨count + 1, 64 * bits + more, 0x80, 0xBF⟩) := by
  simp [step, least, most]

/-! ## Characters -/

/-- A code point below the surrogates or above them. -/
theorem code_valid (c : Char) : c.toNat < 0xD800 ∨ 0xDFFF < c.toNat ∧ c.toNat < 0x110000 :=
  c.valid

/-- An octet keeps a number that fits. -/
theorem toNat_octet {n : Nat} (fits : n < 256) : (UInt8.ofNat n).toNat = n :=
  UInt8.toNat_ofNat_of_lt' fits

/-- The octets of a character, by its code point. -/
def codeOctets (code : Nat) : List UInt8 :=
  if code ≤ 0x7F then [.ofNat code]
  else if code ≤ 0x7FF then [.ofNat (code / 64 % 32 + 192), .ofNat (code % 64 + 128)]
  else if code ≤ 0xFFFF then
    [.ofNat (code / 4096 % 16 + 224), .ofNat (code / 64 % 64 + 128), .ofNat (code % 64 + 128)]
  else
    [.ofNat (code / 262144 % 8 + 240), .ofNat (code / 4096 % 64 + 128),
      .ofNat (code / 64 % 64 + 128), .ofNat (code % 64 + 128)]

/-- Characters are encoded by their code points. -/
theorem encodeChar_eq (c : Char) : String.utf8EncodeChar c = codeOctets c.toNat := rfl

/-- The octets of a code point are read as its character, and what stands behind is read
afresh.

Proof: by the number of octets. Each octet is in the bounds that the one before set, and the
bits put together are the code point. -/
theorem pieces_codeOctets {code : Nat}
    (valid : code < 0xD800 ∨ 0xDFFF < code ∧ code < 0x110000) (octets : List UInt8) :
    pieces none (codeOctets code ++ octets) = some (Char.ofNat code) :: pieces none octets := by
  unfold codeOctets
  split
  · rename_i one
    rw [List.singleton_append, pieces_cons, toNat_octet (by omega), step, start, if_pos (by omega)]
    rfl
  split
  · rename_i two
    have whole : 64 * (code / 64 % 32) + code % 64 = code := by omega
    rw [List.cons_append, List.singleton_append, pieces_cons, toNat_octet (by omega), step,
      start_two (by omega) (by omega), pieces_cons, toNat_octet (by omega),
      step_last (by omega) (by omega), whole]
    rfl
  split
  · rename_i three
    have whole : 64 * (64 * (code / 4096 % 16) + code / 64 % 64) + code % 64 = code := by omega
    rw [List.cons_append, List.cons_append, List.singleton_append, pieces_cons,
      toNat_octet (by omega), step, start_three (by omega), pieces_cons, toNat_octet (by omega),
      step_more (by split <;> omega) (by split <;> omega), pieces_cons, toNat_octet (by omega),
      step_last (by omega) (by omega), whole]
    rfl
  · have whole : 64 * (64 * (64 * (code / 262144 % 8) + code / 4096 % 64) + code / 64 % 64) +
        code % 64 = code := by omega
    rw [List.cons_append, List.cons_append, List.cons_append, List.singleton_append, pieces_cons,
      toNat_octet (by omega), step, start_four (by omega), pieces_cons, toNat_octet (by omega),
      step_more (by split <;> omega) (by split <;> omega), pieces_cons, toNat_octet (by omega),
      step_more (by omega) (by omega), pieces_cons, toNat_octet (by omega),
      step_last (by omega) (by omega), whole]
    rfl

/-- The octets of a text are read as the text. -/
theorem decodeLenient_encode (text : String) : decodeLenient (encode text) = text := by
  have read : pieces none (encode text) = text.toList.map some := by
    rw [encode]
    induction text.toList with
    | nil => rfl
    | cons c rest inductionHypothesis =>
      rw [List.flatMap_cons, encodeChar_eq, pieces_codeOctets (code_valid c), inductionHypothesis,
        Char.ofNat_toNat, List.map_cons]
  have kept : text.toList.map ((fun piece => piece.getD '\ufffd') ∘ some) = text.toList :=
    List.map_id _
  rw [decodeLenient, read, List.map_map, kept, String.ofList_toList]

end Formwork.Text.Utf8
