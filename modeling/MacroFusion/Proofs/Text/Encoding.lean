import MacroFusion.Text.Encoding

/-!
# Bytes and characters

Bytes are decoded one at a time, with the sequence under way as the state.  The bytes of a character
open with its lead byte, bring in what is missing and end with that character, so that decoding undoes
encoding.  Any bytes whatever give at most one character for each of them.

* `piecesFrom_some`         what a byte does to a sequence under way;
* `piecesFrom_ascii`, `piecesFrom_lead`, `piecesFrom_next`, `piecesFrom_last`   the bytes of a character;
* `pieces_utf8EncodeChar`   the bytes of a character are one piece;
* `decode_encode`           decoding undoes encoding;
* `length_decode_le`, `length_decodeDetected?_le`   a text has no more characters than bytes.
-/

namespace MacroFusion.Text

/-! ## One byte -/

/-- a byte that does not go on with the sequence breaks it off, and starts afresh -/
theorem piecesFrom_some (p : Pending) (b : UInt8) (rest : List UInt8) :
    piecesFrom (some p) (b :: rest)
      = if p.low ≤ b.toNat && b.toNat ≤ p.high then
          if p.missing ≤ 1 then .char (Char.ofNat (p.code * 0x40 + b.toNat % 0x40)) :: piecesFrom none rest
          else piecesFrom (some ⟨p.bytes ++ [b], p.code * 0x40 + b.toNat % 0x40, 0x80, 0xbf,
            p.missing - 1⟩) rest
        else .broken p.bytes :: piecesFrom none (b :: rest) := rfl

section
variable {b : UInt8} {n : Nat} (hb : b.toNat = n) (rest : List UInt8)
include hb

theorem piecesFrom_ascii (h : n < 0x80) :
    piecesFrom none (b :: rest) = .char (Char.ofNat n) :: piecesFrom none rest := by
  rw [piecesFrom, hb]
  exact if_pos h

theorem piecesFrom_lead {low high missing : Nat} (h : followers n = some (low, high, missing)) :
    piecesFrom none (b :: rest) = piecesFrom (some ⟨[b], leadBits n, low, high, missing⟩) rest := by
  have hn : ¬ n < 0x80 := by
    intro hn
    rw [followers, if_pos (by omega)] at h
    cases h
  rw [piecesFrom, hb]
  simp only [if_neg hn, h]

variable {bytes : List UInt8} {code low high : Nat}

theorem piecesFrom_next {missing : Nat} (hlow : low ≤ n) (hhigh : n ≤ high) :
    piecesFrom (some ⟨bytes, code, low, high, missing + 2⟩) (b :: rest)
      = piecesFrom (some ⟨bytes ++ [b], code * 0x40 + n % 0x40, 0x80, 0xbf, missing + 1⟩) rest := by
  have hin : (decide (low ≤ n) && decide (n ≤ high)) = true := by simp [hlow, hhigh]
  have hm : ¬ missing + 2 ≤ 1 := by omega
  rw [piecesFrom_some, hb]
  simp only [if_pos hin, if_neg hm]
  rfl

theorem piecesFrom_last (hlow : low ≤ n) (hhigh : n ≤ high) :
    piecesFrom (some ⟨bytes, code, low, high, 1⟩) (b :: rest)
      = .char (Char.ofNat (code * 0x40 + n % 0x40)) :: piecesFrom none rest := by
  have hin : (decide (low ≤ n) && decide (n ≤ high)) = true := by simp [hlow, hhigh]
  rw [piecesFrom_some, hb]
  simp only [if_pos hin, if_pos (Nat.le_refl 1)]

end

/-! ## The bytes of a character -/

/-- a byte is what it was made of, up to 255 -/
theorem toNat_byte {n : Nat} (h : n < 256) : (UInt8.ofNat n).toNat = n := by
  rw [UInt8.toNat_ofNat']
  omega

/-- a code point is no half of a pair -/
theorem toNat_bounds (c : Char) : c.toNat < 0xd800 ∨ 0xdfff < c.toNat ∧ c.toNat < 0x110000 := c.valid

theorem pieces_two {v : Nat} (hlow : 0x80 ≤ v) (hhigh : v ≤ 0x7ff) (rest : List UInt8) :
    pieces ([UInt8.ofNat (v / 64 % 32 + 192), UInt8.ofNat (v % 64 + 128)] ++ rest)
      = .char (Char.ofNat v) :: pieces rest := by
  have hlead : (UInt8.ofNat (v / 64 % 32 + 192)).toNat = v / 64 + 192 := by
    rw [toNat_byte (by omega)]
    omega
  have hlast : (UInt8.ofNat (v % 64 + 128)).toNat = v % 64 + 128 := toNat_byte (by omega)
  have hf : followers (v / 64 + 192) = some (0x80, 0xbf, 1) := by
    unfold followers
    rw [if_neg (by omega), if_pos (by omega)]
  have hbits : leadBits (v / 64 + 192) = v / 64 := by
    unfold leadBits
    rw [if_pos (by omega)]
    omega
  show piecesFrom none (_ :: _ :: rest) = _
  rw [piecesFrom_lead hlead _ hf, piecesFrom_last hlast _ (by omega) (by omega), hbits]
  have hv : v / 64 * 0x40 + (v % 64 + 128) % 0x40 = v := by omega
  rw [hv]
  rfl

theorem pieces_three {v : Nat} (hlow : 0x800 ≤ v) (hhigh : v ≤ 0xffff)
    (hhalf : v < 0xd800 ∨ 0xdfff < v) (rest : List UInt8) :
    pieces ([UInt8.ofNat (v / 4096 % 16 + 224), UInt8.ofNat (v / 64 % 64 + 128),
        UInt8.ofNat (v % 64 + 128)] ++ rest)
      = .char (Char.ofNat v) :: pieces rest := by
  have hlead : (UInt8.ofNat (v / 4096 % 16 + 224)).toNat = v / 4096 + 224 := by
    rw [toNat_byte (by omega)]
    omega
  have hnext : (UInt8.ofNat (v / 64 % 64 + 128)).toNat = v / 64 % 64 + 128 := toNat_byte (by omega)
  have hlast : (UInt8.ofNat (v % 64 + 128)).toNat = v % 64 + 128 := toNat_byte (by omega)
  -- the first of these lead bytes leave out what two bytes write, the one before the last the halves
  have hf : ∃ low high, followers (v / 4096 + 224) = some (low, high, 2)
      ∧ low ≤ v / 64 % 64 + 128 ∧ v / 64 % 64 + 128 ≤ high := by
    unfold followers
    rw [if_neg (by omega), if_neg (by omega)]
    by_cases he0 : v / 4096 + 224 = 0xe0
    · exact ⟨0xa0, 0xbf, by rw [if_pos he0], by omega, by omega⟩
    rw [if_neg he0]
    by_cases hed : v / 4096 + 224 = 0xed
    · exact ⟨0x80, 0x9f, by rw [if_pos hed], by omega, by omega⟩
    rw [if_neg hed, if_pos (by omega)]
    exact ⟨0x80, 0xbf, rfl, by omega, by omega⟩
  have hbits : leadBits (v / 4096 + 224) = v / 4096 := by
    unfold leadBits
    rw [if_neg (by omega), if_pos (by omega)]
    omega
  obtain ⟨low, high, hf, hl, hh⟩ := hf
  show piecesFrom none (_ :: _ :: _ :: rest) = _
  rw [piecesFrom_lead hlead _ hf, piecesFrom_next hnext _ hl hh,
    piecesFrom_last hlast _ (by omega) (by omega), hbits]
  have hv : (v / 4096 * 0x40 + (v / 64 % 64 + 128) % 0x40) * 0x40 + (v % 64 + 128) % 0x40 = v := by
    omega
  rw [hv]
  rfl

theorem pieces_four {v : Nat} (hlow : 0x10000 ≤ v) (hhigh : v < 0x110000) (rest : List UInt8) :
    pieces ([UInt8.ofNat (v / 262144 % 8 + 240), UInt8.ofNat (v / 4096 % 64 + 128),
        UInt8.ofNat (v / 64 % 64 + 128), UInt8.ofNat (v % 64 + 128)] ++ rest)
      = .char (Char.ofNat v) :: pieces rest := by
  have hlead : (UInt8.ofNat (v / 262144 % 8 + 240)).toNat = v / 262144 + 240 := by
    rw [toNat_byte (by omega)]
    omega
  have hnext : (UInt8.ofNat (v / 4096 % 64 + 128)).toNat = v / 4096 % 64 + 128 := toNat_byte (by omega)
  have hthird : (UInt8.ofNat (v / 64 % 64 + 128)).toNat = v / 64 % 64 + 128 := toNat_byte (by omega)
  have hlast : (UInt8.ofNat (v % 64 + 128)).toNat = v % 64 + 128 := toNat_byte (by omega)
  -- the first of these lead bytes leaves out what three bytes write, the last what is no code point
  have hf : ∃ low high, followers (v / 262144 + 240) = some (low, high, 3)
      ∧ low ≤ v / 4096 % 64 + 128 ∧ v / 4096 % 64 + 128 ≤ high := by
    unfold followers
    rw [if_neg (by omega), if_neg (by omega), if_neg (by omega), if_neg (by omega), if_neg (by omega)]
    by_cases hf0 : v / 262144 + 240 = 0xf0
    · exact ⟨0x90, 0xbf, by rw [if_pos hf0], by omega, by omega⟩
    rw [if_neg hf0]
    by_cases hf4 : v / 262144 + 240 < 0xf4
    · exact ⟨0x80, 0xbf, by rw [if_pos hf4], by omega, by omega⟩
    rw [if_neg hf4, if_pos (by omega)]
    exact ⟨0x80, 0x8f, rfl, by omega, by omega⟩
  have hbits : leadBits (v / 262144 + 240) = v / 262144 := by
    unfold leadBits
    rw [if_neg (by omega), if_neg (by omega)]
    omega
  obtain ⟨low, high, hf, hl, hh⟩ := hf
  show piecesFrom none (_ :: _ :: _ :: _ :: rest) = _
  rw [piecesFrom_lead hlead _ hf, piecesFrom_next hnext _ hl hh,
    piecesFrom_next hthird _ (by omega) (by omega), piecesFrom_last hlast _ (by omega) (by omega), hbits]
  have hv : ((v / 262144 * 0x40 + (v / 4096 % 64 + 128) % 0x40) * 0x40
      + (v / 64 % 64 + 128) % 0x40) * 0x40 + (v % 64 + 128) % 0x40 = v := by omega
  rw [hv]
  rfl

/-- **The bytes of a character are one piece**, whatever comes after them. -/
theorem pieces_utf8EncodeChar (c : Char) (rest : List UInt8) :
    pieces (String.utf8EncodeChar c ++ rest) = .char c :: pieces rest := by
  have hc : Char.ofNat c.toNat = c := Char.ofNat_toNat c
  have hb := toNat_bounds c
  unfold String.utf8EncodeChar
  simp only [Char.toNat_val]
  by_cases h1 : c.toNat ≤ 127
  · have hbyte : (UInt8.ofNat c.toNat).toNat = c.toNat := toNat_byte (by omega)
    rw [if_pos h1]
    show piecesFrom none (_ :: rest) = _
    rw [piecesFrom_ascii hbyte _ (by omega), hc]
    rfl
  rw [if_neg h1]
  by_cases h2 : c.toNat ≤ 2047
  · rw [if_pos h2]
    exact (pieces_two (by omega) h2 rest).trans (by rw [hc])
  rw [if_neg h2]
  by_cases h3 : c.toNat ≤ 65535
  · rw [if_pos h3]
    exact (pieces_three (by omega) h3 (by omega) rest).trans (by rw [hc])
  rw [if_neg h3]
  exact (pieces_four (by omega) (by omega) rest).trans (by rw [hc])

/-! ## Whole texts -/

theorem encode_eq (s : String) : encode s = s.toList.flatMap String.utf8EncodeChar := by
  show s.toByteArray.data.toList = _
  rw [← String.utf8Encode_toList, List.utf8Encode, List.data_toByteArray]

theorem pieces_flatMap (cs : List Char) :
    pieces (cs.flatMap String.utf8EncodeChar) = cs.map Piece.char := by
  induction cs with
  | nil => rfl
  | cons c cs ih => rw [List.flatMap_cons, pieces_utf8EncodeChar, ih, List.map_cons]

/-- **Decoding undoes encoding.** -/
theorem decode_encode (s : String) : decode (encode s) = s.toList := by
  unfold decode decodeWith
  rw [encode_eq, pieces_flatMap, List.flatMap_map]
  exact List.flatMap_singleton' _

theorem length_piecesFrom_le (pending : Option Pending) (bytes : List UInt8) :
    (piecesFrom pending bytes).length ≤ bytes.length + pending.toList.length := by
  induction bytes generalizing pending with
  | nil => cases pending <;> exact Nat.le_refl _
  | cons b rest ih =>
    have hnone := ih none
    have hsome : ∀ p, (piecesFrom (some p) rest).length ≤ rest.length + 1 := fun p => ih (some p)
    -- what the byte opens where no sequence is under way
    have hstart : (piecesFrom none (b :: rest)).length ≤ rest.length + 1 := by
      rw [piecesFrom]
      show List.length (if _ then _ else _) ≤ _
      split
      · exact Nat.succ_le_succ hnone
      · split
        · exact hsome _
        · exact Nat.succ_le_succ hnone
    cases pending with
    | none => exact hstart
    | some p =>
      rw [piecesFrom_some]
      split
      · split
        · exact Nat.succ_le_succ (Nat.le_succ_of_le hnone)
        · exact Nat.le_succ_of_le (hsome _)
      · exact Nat.succ_le_succ hstart

theorem length_pieces_le (bytes : List UInt8) : (pieces bytes).length ≤ bytes.length :=
  length_piecesFrom_le none bytes

/-- **A text has no more characters than bytes.** -/
theorem length_decode_le (bytes : List UInt8) : (decode bytes).length ≤ bytes.length := by
  have hone : (decode bytes).length = (pieces bytes).length := by
    unfold decode decodeWith
    induction pieces bytes with
    | nil => rfl
    | cons p ps ih =>
      rw [List.flatMap_cons, List.length_append, ih, List.length_cons, Nat.add_comm]
      cases p <;> rfl
  rw [hone]
  exact length_pieces_le bytes

/-! ## Encodings that are found out -/

theorem length_joinHalves_le (ns : List Nat) : (joinHalves ns).length ≤ ns.length := by
  fun_induction joinHalves ns with
  | case1 => exact Nat.le_refl _
  | case2 n => exact Nat.le_refl _
  | case3 high low rest hpair ih => exact Nat.le_succ_of_le (Nat.succ_le_succ ih)
  | case4 high low rest hpair ih => exact Nat.succ_le_succ ih

/-- a character is no half -/
theorem not_half (c : Char) : isHighHalf c.toNat = false ∧ isLowHalf c.toNat = false := by
  have := toNat_bounds c
  simp only [isHighHalf, isLowHalf, Bool.and_eq_false_iff, decide_eq_false_iff_not]
  omega

theorem isHalf_toNat (c : Char) : isHalf c.toNat = false := by
  rw [isHalf, (not_half c).1, (not_half c).2]
  rfl

theorem joinHalves_map_toNat (cs : List Char) : joinHalves (cs.map Char.toNat) = cs := by
  have hwhole : ∀ c : Char, whole c.toNat = c := by
    intro c
    unfold whole
    rw [isHalf_toNat]
    exact Char.ofNat_toNat c
  induction cs with
  | nil => rfl
  | cons c cs ih =>
    cases cs with
    | nil => exact congrArg (fun d => [d]) (hwhole c)
    | cons d cs =>
      show (if isHighHalf c.toNat && isLowHalf d.toNat then _ else _) = _
      rw [(not_half c).1, hwhole]
      exact congrArg (c :: ·) ih

theorem codePoints?_map_char (cs : List Char) :
    codePoints? (cs.map Piece.char) = some (cs.map Char.toNat) := by
  induction cs with
  | nil => rfl
  | cons c cs ih =>
    rw [List.map_cons, codePoints?, ih]
    rfl

/-- a text in UTF-8 that is not taken for something else -/
theorem decodeDetected?_encode {s : String} (h : Encoding.detect (encode s) = (.utf8, encode s)) :
    decodeDetected? (encode s) = some s.toList := by
  unfold decodeDetected?
  rw [h]
  dsimp only [unitsIn?]
  rw [encode_eq, pieces_flatMap, codePoints?_map_char, Option.map_some, joinHalves_map_toNat]

theorem length_detect_le (bytes : List UInt8) : (Encoding.detect bytes).2.length ≤ bytes.length := by
  unfold Encoding.detect
  split
  · exact (List.drop_suffix _ bytes).length_le
  · exact Nat.le_refl _

theorem length_units16_le {bigEndian : Bool} {bytes : List UInt8} {ns : List Nat}
    (h : units16 bigEndian bytes = some ns) : ns.length ≤ bytes.length := by
  fun_induction units16 bigEndian bytes generalizing ns with
  | case1 => exact Nat.le_of_eq (congrArg _ (Option.some.inj h).symm)
  | case2 => cases h
  | case3 a b rest ih =>
    obtain ⟨us, hus, rfl⟩ := Option.map_eq_some_iff.mp h
    exact Nat.le_succ_of_le (Nat.succ_le_succ (ih hus))

theorem length_units32_le {bigEndian : Bool} {bytes : List UInt8} {ns : List Nat}
    (h : units32 bigEndian bytes = some ns) : ns.length ≤ bytes.length := by
  fun_induction units32 bigEndian bytes generalizing ns with
  | case1 => exact Nat.le_of_eq (congrArg _ (Option.some.inj h).symm)
  | case2 => cases h
  | case3 =>
    rename_i ih
    obtain ⟨us, hus, rfl⟩ := Option.map_eq_some_iff.mp h
    have := ih hus
    simp only [List.length_cons]
    omega
  | case4 => cases h

theorem length_codePoints?_le {ps : List Piece} {ns : List Nat} (h : codePoints? ps = some ns) :
    ns.length ≤ ps.length := by
  fun_induction codePoints? ps generalizing ns with
  | case1 => exact Nat.le_of_eq (congrArg _ (Option.some.inj h).symm)
  | case2 c rest ih =>
    obtain ⟨us, hus, rfl⟩ := Option.map_eq_some_iff.mp h
    exact Nat.succ_le_succ (ih hus)
  | case3 a b rest hhalf ih =>
    obtain ⟨us, hus, rfl⟩ := Option.map_eq_some_iff.mp h
    have := ih hus
    simp only [List.length_cons]
    omega
  | case4 => cases h
  | case5 => cases h

theorem length_unitsIn?_le {encoding : Encoding} {bytes : List UInt8} {ns : List Nat}
    (h : unitsIn? encoding bytes = some ns) : ns.length ≤ bytes.length := by
  cases encoding with
  | utf8 => exact Nat.le_trans (length_codePoints?_le h) (length_pieces_le bytes)
  | utf16 bigEndian => exact length_units16_le h
  | utf32 bigEndian => exact length_units32_le h

theorem length_decodeDetected?_le {bytes : List UInt8} {cs : List Char}
    (h : decodeDetected? bytes = some cs) : cs.length ≤ bytes.length := by
  obtain ⟨ns, hns, rfl⟩ := Option.map_eq_some_iff.mp h
  exact Nat.le_trans (length_joinHalves_le ns)
    (Nat.le_trans (length_unitsIn?_le hns) (length_detect_le bytes))

end MacroFusion.Text
