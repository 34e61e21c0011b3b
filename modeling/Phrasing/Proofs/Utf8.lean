import Phrasing.FileTree
import Phrasing.Proofs.PlainText

/-! # Texts in files

Every text can stand in a file.  The bytes of a character in UTF-8 are decoded as this character, whatever
comes behind them (`utf8From_encodeChar`): its lead byte tells how many more there are, and the range that
it sets for the next one leaves out only longer spellings and halves of pairs.  So the bytes of a text are
decoded as the text (`decodeStrict_bytes`), and the lines of its file are its lines
(`FileTree.readLines_of_reach`).
-/

namespace Phrasing

namespace Text

section Bytes

variable {low high : UInt8} {bits taken more n : Nat} {bytes rest : List UInt8}

theorem toNat_ofNat_of_lt (h : n < 256) : (UInt8.ofNat n).toNat = n := by
  rw [UInt8.toNat_ofNat']
  exact Nat.mod_eq_of_lt h

/-- A byte goes on with six bits. -/
theorem continuation_byte (hn : n < 64) (hlow : low.toNat ≤ n + 128) (hhigh : n + 128 ≤ high.toNat) :
    continuation low high bits taken (more + 1) (UInt8.ofNat (n + 128) :: rest) =
      continuation 0x80 0xBF (bits * 64 + n) (taken + 1) more rest := by
  have hbyte := toNat_ofNat_of_lt (n := n + 128) (by omega)
  have hrange : low ≤ UInt8.ofNat (n + 128) ∧ UInt8.ofNat (n + 128) ≤ high := by
    rw [UInt8.le_iff_toNat_le, UInt8.le_iff_toNat_le, hbyte]
    exact ⟨hlow, hhigh⟩
  rw [continuation, if_pos hrange, hbyte, Nat.add_sub_cancel]

theorem continuation_tail (hn : n < 64) :
    continuation 0x80 0xBF bits taken (more + 1) (UInt8.ofNat (n + 128) :: rest) =
      continuation 0x80 0xBF (bits * 64 + n) (taken + 1) more rest :=
  continuation_byte hn (Nat.le_add_left 128 n) (Nat.le_of_lt_succ (Nat.add_lt_add_right hn 128))

/-- The bytes behind a lead byte are passed over. -/
theorem utf8From_skip (halves : Bool) (pos : Nat) (bytes rest : List UInt8) :
    utf8From halves pos bytes.length (bytes ++ rest) = utf8From halves (pos + bytes.length) 0 rest := by
  induction bytes generalizing pos with
  | nil => rfl
  | cons b bytes ih =>
    rw [List.cons_append, List.length_cons, utf8From, ih, Nat.add_assoc, Nat.add_comm 1]

/-- A lead byte and the bytes that it promises are one character. -/
theorem utf8From_lead {b : UInt8} {count : Nat} (hlarge : 0x80 ≤ b.toNat)
    (hlead : leadByte? b = some (count, low, high, bits))
    (hmore : continuation low high bits 0 count (bytes ++ rest) = .ok n) (hcount : bytes.length = count)
    (pos : Nat) :
    utf8From false pos 0 (b :: bytes ++ rest) =
      .ok (Char.ofNat n) :: utf8From false (pos + 1 + count) 0 rest := by
  subst hcount
  have hnot : ¬ b < 0x80 := by
    rw [UInt8.lt_iff_toNat_lt]
    exact Nat.not_lt.mpr hlarge
  rw [List.cons_append, utf8From, if_neg hnot]
  simp only [Bool.false_and, Bool.false_eq_true, if_false, hlead, hmore, utf8From_skip]

/-! ## Lead bytes -/

theorem leadByte?_two : ∀ k < 30, leadByte? (UInt8.ofNat (k + 194)) = some (1, 0x80, 0xBF, k + 2) := by
  decide

theorem leadByte?_three : ∀ k < 16, leadByte? (UInt8.ofNat (k + 224)) =
    some (2, if k = 0 then 0xA0 else 0x80, if k = 13 then 0x9F else 0xBF, k) := by
  decide

theorem leadByte?_four : ∀ k < 5, leadByte? (UInt8.ofNat (k + 240)) =
    some (3, if k = 0 then 0x90 else 0x80, if k = 4 then 0x8F else 0xBF, k) := by
  decide

end Bytes

/-! ## Characters -/

section Characters

variable {c : Char}

theorem encodeChar_one (h : c.toNat ≤ 0x7F) (pos : Nat) (rest : List UInt8) :
    utf8From false pos 0 (String.utf8EncodeChar c ++ rest) = .ok c :: utf8From false (pos + 1) 0 rest := by
  have hbytes : String.utf8EncodeChar c = [UInt8.ofNat c.toNat] := if_pos h
  have hbyte := toNat_ofNat_of_lt (n := c.toNat) (by omega)
  have hsmall : UInt8.ofNat c.toNat < 0x80 := by
    rw [UInt8.lt_iff_toNat_lt, hbyte]
    exact Nat.lt_succ_of_le h
  rw [hbytes, List.singleton_append, utf8From, if_pos hsmall, hbyte, Char.ofNat_toNat]

theorem encodeChar_two (hmin : 0x7F < c.toNat) (hmax : c.toNat ≤ 0x7FF) (pos : Nat) (rest : List UInt8) :
    utf8From false pos 0 (String.utf8EncodeChar c ++ rest) = .ok c :: utf8From false (pos + 2) 0 rest := by
  have hbytes : String.utf8EncodeChar c =
      [UInt8.ofNat (c.toNat / 64 % 32 + 192), UInt8.ofNat (c.toNat % 64 + 128)] :=
    (if_neg (Nat.not_le.mpr hmin)).trans (if_pos hmax)
  obtain ⟨k, hk⟩ : ∃ k, c.toNat / 64 % 32 = k + 2 := ⟨c.toNat / 64 % 32 - 2, by omega⟩
  have hbyte := toNat_ofNat_of_lt (n := k + 194) (by omega)
  have hlarge : 0x80 ≤ (UInt8.ofNat (k + 194)).toNat := by omega
  have hmore : continuation 0x80 0xBF (k + 2) 0 1 ([UInt8.ofNat (c.toNat % 64 + 128)] ++ rest) =
      .ok ((k + 2) * 64 + c.toNat % 64) := continuation_tail (by omega)
  have hchar := utf8From_lead hlarge (leadByte?_two k (by omega)) hmore rfl pos
  have hvalue : (k + 2) * 64 + c.toNat % 64 = c.toNat := by omega
  rw [hvalue, Char.ofNat_toNat] at hchar
  rw [hbytes, hk]
  exact hchar

theorem encodeChar_three (hmin : 0x7FF < c.toNat) (hmax : c.toNat ≤ 0xFFFF) (pos : Nat)
    (rest : List UInt8) :
    utf8From false pos 0 (String.utf8EncodeChar c ++ rest) = .ok c :: utf8From false (pos + 3) 0 rest := by
  have hbytes : String.utf8EncodeChar c = [UInt8.ofNat (c.toNat / 4096 % 16 + 224),
      UInt8.ofNat (c.toNat / 64 % 64 + 128), UInt8.ofNat (c.toNat % 64 + 128)] :=
    (if_neg (by omega : ¬ c.toNat ≤ 0x7F)).trans
      ((if_neg (Nat.not_le.mpr hmin)).trans (if_pos hmax))
  obtain ⟨k, hk⟩ : ∃ k, c.toNat / 4096 % 16 = k := ⟨_, rfl⟩
  have hbyte := toNat_ofNat_of_lt (n := k + 224) (by omega)
  have hlarge : 0x80 ≤ (UInt8.ofNat (k + 224)).toNat := by omega
  -- A character is no half of a surrogate pair, so the byte behind the lead 0xED is a small one.
  have hvalid : c.toNat < 0xD800 ∨ 0xDFFF < c.toNat := c.valid.imp_right And.left
  have hlow : (if k = 0 then (0xA0 : UInt8) else 0x80).toNat ≤ c.toNat / 64 % 64 + 128 := by
    split
    · show 160 ≤ _
      omega
    · show 128 ≤ _
      omega
  have hhigh : c.toNat / 64 % 64 + 128 ≤ (if k = 13 then (0x9F : UInt8) else 0xBF).toNat := by
    split
    · show _ ≤ 159
      omega
    · show _ ≤ 191
      omega
  have hmore : continuation (if k = 0 then 0xA0 else 0x80) (if k = 13 then 0x9F else 0xBF) k 0 2
      ([UInt8.ofNat (c.toNat / 64 % 64 + 128), UInt8.ofNat (c.toNat % 64 + 128)] ++ rest) =
        .ok ((k * 64 + c.toNat / 64 % 64) * 64 + c.toNat % 64) :=
    (continuation_byte (by omega) hlow hhigh).trans (continuation_tail (by omega))
  have hchar := utf8From_lead hlarge (leadByte?_three k (by omega)) hmore rfl pos
  have hvalue : (k * 64 + c.toNat / 64 % 64) * 64 + c.toNat % 64 = c.toNat := by omega
  rw [hvalue, Char.ofNat_toNat] at hchar
  rw [hbytes, hk]
  exact hchar

theorem encodeChar_four (hmin : 0xFFFF < c.toNat) (pos : Nat) (rest : List UInt8) :
    utf8From false pos 0 (String.utf8EncodeChar c ++ rest) = .ok c :: utf8From false (pos + 4) 0 rest := by
  have hbytes : String.utf8EncodeChar c = [UInt8.ofNat (c.toNat / 262144 % 8 + 240),
      UInt8.ofNat (c.toNat / 4096 % 64 + 128), UInt8.ofNat (c.toNat / 64 % 64 + 128),
      UInt8.ofNat (c.toNat % 64 + 128)] :=
    (if_neg (by omega : ¬ c.toNat ≤ 0x7F)).trans
      ((if_neg (by omega : ¬ c.toNat ≤ 0x7FF)).trans (if_neg (Nat.not_le.mpr hmin)))
  have hmax : c.toNat < 0x110000 := by
    rcases c.valid with hsmall | hlarge
    · exact Nat.lt_trans hsmall (by decide)
    · exact hlarge.2
  obtain ⟨k, hk⟩ : ∃ k, c.toNat / 262144 % 8 = k := ⟨_, rfl⟩
  have hbyte := toNat_ofNat_of_lt (n := k + 240) (by omega)
  have hlarge : 0x80 ≤ (UInt8.ofNat (k + 240)).toNat := by omega
  have hlow : (if k = 0 then (0x90 : UInt8) else 0x80).toNat ≤ c.toNat / 4096 % 64 + 128 := by
    split
    · show 144 ≤ _
      omega
    · show 128 ≤ _
      omega
  have hhigh : c.toNat / 4096 % 64 + 128 ≤ (if k = 4 then (0x8F : UInt8) else 0xBF).toNat := by
    split
    · show _ ≤ 143
      omega
    · show _ ≤ 191
      omega
  have hmore : continuation (if k = 0 then 0x90 else 0x80) (if k = 4 then 0x8F else 0xBF) k 0 3
      ([UInt8.ofNat (c.toNat / 4096 % 64 + 128), UInt8.ofNat (c.toNat / 64 % 64 + 128),
        UInt8.ofNat (c.toNat % 64 + 128)] ++ rest) =
        .ok (((k * 64 + c.toNat / 4096 % 64) * 64 + c.toNat / 64 % 64) * 64 + c.toNat % 64) :=
    ((continuation_byte (by omega) hlow hhigh).trans (continuation_tail (by omega))).trans
      (continuation_tail (by omega))
  have hchar := utf8From_lead hlarge (leadByte?_four k (by omega)) hmore rfl pos
  have hvalue : ((k * 64 + c.toNat / 4096 % 64) * 64 + c.toNat / 64 % 64) * 64 + c.toNat % 64 = c.toNat := by
    omega
  rw [hvalue, Char.ofNat_toNat] at hchar
  rw [hbytes, hk]
  exact hchar

/-- **The bytes of a character are decoded as it**, whatever comes behind them. -/
theorem utf8From_encodeChar (c : Char) (pos : Nat) (rest : List UInt8) :
    ∃ next, utf8From false pos 0 (String.utf8EncodeChar c ++ rest) = .ok c :: utf8From false next 0 rest := by
  by_cases hone : c.toNat ≤ 0x7F
  · exact ⟨_, encodeChar_one hone pos rest⟩
  by_cases htwo : c.toNat ≤ 0x7FF
  · exact ⟨_, encodeChar_two (Nat.not_le.mp hone) htwo pos rest⟩
  by_cases hthree : c.toNat ≤ 0xFFFF
  · exact ⟨_, encodeChar_three (Nat.not_le.mp htwo) hthree pos rest⟩
  · exact ⟨_, encodeChar_four (Nat.not_le.mp hthree) pos rest⟩

theorem utf8From_encode (pos : Nat) (cs : List Char) :
    utf8From false pos 0 (cs.flatMap String.utf8EncodeChar) = cs.map .ok := by
  induction cs generalizing pos with
  | nil => rfl
  | cons c cs ih =>
    obtain ⟨next, hnext⟩ := utf8From_encodeChar c pos (cs.flatMap String.utf8EncodeChar)
    rw [List.flatMap_cons, hnext, ih next]
    rfl

/-- **A text is decoded from its bytes.** -/
theorem decodeStrict_bytes (s : String) : Encoding.utf8.decodeStrict false (utf8Bytes s) = .ok s.toList := by
  obtain ⟨cs, rfl⟩ : ∃ cs, s = String.ofList cs := ⟨s.toList, String.ofList_toList.symm⟩
  rw [utf8Bytes_ofList, String.toList_ofList]
  show (utf8From false 0 0 _).mapM id = _
  rw [utf8From_encode, mapM_ok]

theorem utf8Bytes_injective {s t : String} (h : utf8Bytes s = utf8Bytes t) : s = t := by
  have hdecoded := decodeStrict_bytes s
  rw [h, decodeStrict_bytes t] at hdecoded
  exact String.toList_inj.mp (Except.ok.inj hdecoded).symm

end Characters

end Text

namespace FileTree

variable {tree : FileTree} {path s : String}

theorem readBytes_of_reach {bytes : List UInt8} (h : tree.reach path = .ok (.file bytes)) :
    tree.readBytes path = .ok bytes := by
  unfold readBytes
  rw [h]

/-- The characters of a file that holds a text are those of the text. -/
theorem readText_of_reach (h : tree.reach path = .ok (.file (Text.utf8Bytes s))) :
    tree.readText path = .ok s.toList := by
  unfold readText
  rw [readBytes_of_reach h]
  simp only [bind, Except.bind, Text.decodeStrict_bytes]
  rfl

/-- **The lines of a file that holds a text** are those of the text. -/
theorem readLines_of_reach (h : tree.reach path = .ok (.file (Text.utf8Bytes s))) :
    tree.readLines path = (Text.fileLines s.toList, none) := by
  unfold readLines
  rw [readBytes_of_reach h]
  unfold Text.linesOfBytes
  dsimp only
  rw [Text.decodeStrict_bytes]
  rfl

end FileTree

end Phrasing
