import Phrasing.Proofs.JsonText
import Phrasing.Text.Lines

/-! # Written values are plain text

JSON is written in the visible characters of ASCII and the space.  So a written value spells itself in
bytes (`parseBytes_render`), holds no line end, and, one value a line, is read line by line as it was
written (`fileLines_ofLines`), whatever texts it was made of.
-/

namespace Phrasing

namespace Text

/-- A text of visible ASCII characters and spaces. -/
def Plain (cs : List Char) : Prop :=
  ∀ c ∈ cs, 0x20 ≤ c.toNat ∧ c.toNat < 0x7F

instance (cs : List Char) : Decidable (Plain cs) :=
  List.decidableBAll (fun c : Char => 0x20 ≤ c.toNat ∧ c.toNat < 0x7F) cs

theorem plain_nil : Plain [] := fun _ h => absurd h List.not_mem_nil

theorem Plain.append {cs ds : List Char} (hcs : Plain cs) (hds : Plain ds) : Plain (cs ++ ds) :=
  fun c hc => (List.mem_append.mp hc).elim (hcs c) (hds c)

theorem Plain.cons {c : Char} {cs : List Char} (hc : 0x20 ≤ c.toNat ∧ c.toNat < 0x7F) (hcs : Plain cs) :
    Plain (c :: cs) := List.forall_mem_cons.mpr ⟨hc, hcs⟩

theorem Plain.mono {cs ds : List Char} (hcs : Plain cs) (h : ds ⊆ cs) : Plain ds :=
  fun c hc => hcs c (h hc)

theorem plain_hexDigits (width n : Nat) : Plain (hexDigits width n) := by
  have hdigit : ∀ d, d < 16 → 0x20 ≤ (hexDigit d).toNat ∧ (hexDigit d).toNat < 0x7F := by decide
  induction width generalizing n with
  | zero => exact plain_nil
  | succ width ih =>
    refine (ih (n / 16)).append (Plain.cons ?_ plain_nil)
    have hmod : hexDigit n = hexDigit (n % 16) := by
      unfold hexDigit
      rw [Nat.mod_mod]
    rw [hmod]
    exact hdigit _ (Nat.mod_lt n (by decide))

theorem plain_toDigits (n : Nat) : Plain (Nat.toDigits 10 n) := by
  intro c hc
  have hdigit := Nat.isDigit_of_mem_toDigits (by decide) (by decide) hc
  simp only [Char.isDigit, ge_iff_le, Bool.and_eq_true, decide_eq_true_eq,
    UInt32.le_iff_toNat_le] at hdigit
  have hlow : 48 ≤ c.toNat := hdigit.1
  have hhigh : c.toNat ≤ 57 := hdigit.2
  omega

theorem plain_zeros (n : Nat) : Plain (List.replicate n '0') := by
  intro c hc
  cases (List.mem_replicate.mp hc).2
  decide

end Text

open Text

/-! ## Numbers -/

namespace Binary64

theorem plain_magnitudeText {digits : List Char} (h : Plain digits) (k : Int) :
    Plain (magnitudeText digits k) := by
  have htake : ∀ n, Plain (digits.take n) := fun n => h.mono (List.take_subset n digits)
  have hdrop : ∀ n, Plain (digits.drop n) := fun n => h.mono (List.drop_subset n digits)
  unfold magnitudeText
  dsimp only
  split
  · -- One digit, the others behind the point, and an exponent of at least two digits.
    rw [Json.toList_toString]
    refine ((((htake 1).append ?_).append ?_).append (plain_zeros _)).append (plain_toDigits _)
    · split
      · exact plain_nil
      · exact Plain.cons (by decide) (hdrop 1)
    · refine Plain.cons (by decide) (Plain.cons ?_ plain_nil)
      split
      · decide
      · decide
  · split
    · exact (Plain.cons (by decide) (Plain.cons (by decide) (plain_zeros _))).append h
    · refine ((htake _).append (plain_zeros _)).append (Plain.cons (by decide) ?_)
      split
      · exact Plain.cons (by decide) plain_nil
      · exact hdrop _

theorem plain_text (x : Binary64) : Plain x.text.toList := by
  cases x with
  | nan => exact (by decide : Plain "nan".toList)
  | infinite negative =>
    cases negative with
    | false => exact (by decide : Plain "inf".toList)
    | true => exact (by decide : Plain "-inf".toList)
  | finite negative rank =>
    have hmagnitude : Plain (if rank.val = 0 then "0.0".toList else
        magnitudeText (normalised (shortest rank).1 (shortest rank).2).1
          (normalised (shortest rank).1 (shortest rank).2).2) := by
      split
      · exact (by decide : Plain "0.0".toList)
      · refine plain_magnitudeText (Plain.mono (plain_toDigits (shortest rank).1) ?_) _
        intro c hc
        have hkept : c ∈ dropTrailing (· == '0') (toString (shortest rank).1).toList := hc
        rw [Json.toList_toString] at hkept
        have hmem := (List.dropWhile_suffix _).subset (List.mem_reverse.mp hkept)
        exact List.mem_reverse.mp hmem
    unfold text
    rw [String.toList_ofList]
    split
    · exact Plain.cons (by decide) hmagnitude
    · exact hmagnitude

end Binary64

/-! ## Values -/

namespace Json

theorem plain_escapeChar (c : Char) : Plain (escapeChar c) := by
  have hescape : ∀ n, Plain (fourDigitEscape n) := fun n =>
    Plain.cons (by decide) (Plain.cons (by decide) (plain_hexDigits 4 n))
  unfold escapeChar
  split
  · decide
  · decide
  · decide
  · decide
  · decide
  · decide
  · decide
  · dsimp only
    split
    · rename_i hseen
      exact Plain.cons hseen plain_nil
    · split
      · exact hescape _
      · exact (hescape _).append (hescape _)

theorem plain_renderText (s : String) : Plain (renderText s) := by
  have hchars : Plain (s.toList.flatMap escapeChar) := by
    intro c hc
    obtain ⟨d, _, hd⟩ := List.mem_flatMap.mp hc
    exact plain_escapeChar d c hd
  exact (Plain.cons (by decide) hchars).append (Plain.cons (by decide) plain_nil)

theorem plain_renderScalar (s : Scalar) : Plain (renderScalar s) := by
  cases s with
  | null => exact (by decide : Plain "null".toList)
  | bool b =>
    cases b with
    | false => exact (by decide : Plain "false".toList)
    | true => exact (by decide : Plain "true".toList)
  | int n =>
    cases n with
    | ofNat n =>
      have htext : renderScalar (.int (.ofNat n)) = (toString n).toList := rfl
      rw [htext, toList_toString]
      exact plain_toDigits n
    | negSucc n =>
      have htext : renderScalar (.int (.negSucc n)) = ("-" ++ toString (n + 1)).toList := rfl
      rw [htext, String.toList_append, toList_toString]
      exact Plain.append (by decide) (plain_toDigits (n + 1))
  | float x =>
    cases x with
    | nan => exact (by decide : Plain "NaN".toList)
    | infinite negative =>
      cases negative with
      | false => exact (by decide : Plain "Infinity".toList)
      | true => exact (by decide : Plain "-Infinity".toList)
    | finite negative rank => exact Binary64.plain_text (.finite negative rank)
  | text s => exact plain_renderText s
  | bytes bs => exact plain_renderText _
  | date d => exact plain_renderText _
  | timestamp t => exact plain_renderText _
  | decimal spelling => exact plain_renderText _

theorem plain_joinParts {parts : List (List Char)} (h : ∀ part ∈ parts, Plain part) :
    Plain (joinParts parts) := by
  induction parts with
  | nil => exact plain_nil
  | cons part parts ih =>
    obtain ⟨hpart, hparts⟩ := List.forall_mem_cons.mp h
    cases parts with
    | nil => exact hpart
    | cons next parts => exact hpart.append (Plain.cons (by decide) (Plain.cons (by decide) (ih hparts)))

theorem plain_renderItems {vs : List Value} (h : ∀ v ∈ vs, Plain (renderChars v)) :
    ∀ part ∈ renderItems vs, Plain part := by
  induction vs with
  | nil => exact fun _ hpart => absurd hpart List.not_mem_nil
  | cons v vs ih =>
    obtain ⟨hv, hvs⟩ := List.forall_mem_cons.mp h
    exact List.forall_mem_cons.mpr ⟨hv, ih hvs⟩

theorem plain_renderEntries {es : List (Scalar × Value)} (h : ∀ e ∈ es, Plain (renderChars e.2)) :
    ∀ part ∈ renderEntries es, Plain part := by
  induction es with
  | nil => exact fun _ hpart => absurd hpart List.not_mem_nil
  | cons e es ih =>
    obtain ⟨k, v⟩ := e
    obtain ⟨hv, hes⟩ := List.forall_mem_cons.mp h
    have hmember : Plain (renderText (keyText k) ++ ':' :: ' ' :: renderChars v) :=
      (plain_renderText (keyText k)).append (Plain.cons (by decide) (Plain.cons (by decide) hv))
    exact List.forall_mem_cons.mpr ⟨hmember, ih hes⟩

/-- **A written value is plain text.** -/
theorem plain_renderChars (v : Value) : Plain (renderChars v) := by
  have hclosed : ∀ {opening closing : Char} {cs : List Char},
      (0x20 ≤ opening.toNat ∧ opening.toNat < 0x7F) → (0x20 ≤ closing.toNat ∧ closing.toNat < 0x7F) →
      Plain cs → Plain (opening :: cs ++ [closing]) :=
    fun hopening hclosing hcs => (Plain.cons hopening hcs).append (Plain.cons hclosing plain_nil)
  induction v using Value.induction with
  | scalar s => exact plain_renderScalar s
  | list items ih => exact hclosed (by decide) (by decide) (plain_joinParts (plain_renderItems ih))
  | tuple items ih => exact hclosed (by decide) (by decide) (plain_joinParts (plain_renderItems ih))
  | set items _ => exact plain_renderText _
  | mapping entries ih =>
    exact hclosed (by decide) (by decide) (plain_joinParts (plain_renderEntries ih))
  | record attributes _ => exact plain_renderText _

end Json

/-! ## Bytes -/

namespace Text

theorem toList_loop_eq (bs : ByteArray) (i : Nat) (found : List UInt8) :
    ByteArray.toList.loop bs i found = found.reverse ++ bs.data.toList.drop i := by
  induction hleft : bs.size - i generalizing i found with
  | zero =>
    have hend : ¬ i < bs.size := by omega
    have hlength : bs.data.toList.length ≤ i := Nat.le_of_sub_eq_zero hleft
    rw [ByteArray.toList.loop, if_neg hend, List.drop_of_length_le hlength, List.append_nil]
  | succ left ih =>
    have hmore : i < bs.size := by omega
    have hlength : i < bs.data.toList.length := hmore
    have hget : bs.get! i = bs.data.toList[i] := by
      show bs.data[i]! = _
      rw [getElem!_pos bs.data i hmore]
      rfl
    rw [ByteArray.toList.loop, if_pos hmore, ih (i + 1) _ (by omega), hget,
      List.drop_eq_getElem_cons hlength, List.reverse_cons, List.append_assoc]
    rfl

theorem utf8Bytes_ofList (cs : List Char) :
    utf8Bytes (String.ofList cs) = cs.flatMap String.utf8EncodeChar := by
  have hbytes : utf8Bytes (String.ofList cs) =
      ByteArray.toList.loop (cs.flatMap String.utf8EncodeChar).toByteArray 0 [] := rfl
  rw [hbytes, toList_loop_eq]
  simp [List.data_toByteArray]

/-- A text of ASCII characters. -/
def AllAscii (cs : List Char) : Prop :=
  ∀ c ∈ cs, c.toNat < 0x80

theorem Plain.allAscii {cs : List Char} (h : Plain cs) : AllAscii cs :=
  fun c hc => Nat.lt_succ_of_lt (h c hc).2

theorem utf8ByteSize_of_allAscii {cs : List Char} (h : AllAscii cs) :
    (String.ofList cs).utf8ByteSize = cs.length := by
  induction cs with
  | nil => rfl
  | cons c cs ih =>
    obtain ⟨hc, hcs⟩ := List.forall_mem_cons.mp h
    have hone : (String.ofList [c]).utf8ByteSize = 1 := by
      have hsingle : (String.ofList [c]).utf8ByteSize = c.utf8Size := String.utf8ByteSize_singleton
      rw [hsingle, Char.utf8Size_eq_one_iff, UInt32.le_iff_toNat_le]
      exact Nat.le_of_lt_succ hc
    have happend : c :: cs = [c] ++ cs := rfl
    rw [happend, String.ofList_append, String.utf8ByteSize_append, hone, ih hcs, List.length_append]
    rfl

/-- The bytes of ASCII characters are their codes. -/
theorem utf8Bytes_of_allAscii {cs : List Char} (h : AllAscii cs) :
    utf8Bytes (String.ofList cs) = cs.map fun c => UInt8.ofNat c.toNat := by
  rw [utf8Bytes_ofList]
  induction cs with
  | nil => rfl
  | cons c cs ih =>
    obtain ⟨hc, hcs⟩ := List.forall_mem_cons.mp h
    have hone : String.utf8EncodeChar c = [UInt8.ofNat c.toNat] := by
      unfold String.utf8EncodeChar
      exact if_pos (Nat.le_of_lt_succ hc)
    rw [List.flatMap_cons, hone, ih hcs]
    rfl

theorem utf8From_of_allAscii (halves : Bool) (pos : Nat) {cs : List Char} (h : AllAscii cs) :
    utf8From halves pos 0 (cs.map fun c => UInt8.ofNat c.toNat) = cs.map .ok := by
  induction cs generalizing pos with
  | nil => rfl
  | cons c cs ih =>
    obtain ⟨hc, hcs⟩ := List.forall_mem_cons.mp h
    have hcode : (UInt8.ofNat c.toNat).toNat = c.toNat := by
      rw [UInt8.toNat_ofNat']
      exact Nat.mod_eq_of_lt (by omega)
    have hsmall : UInt8.ofNat c.toNat < 0x80 := by
      rw [UInt8.lt_iff_toNat_lt, hcode]
      exact hc
    rw [List.map_cons, utf8From]
    rw [if_pos hsmall, hcode, Char.ofNat_toNat, ih (pos + 1) hcs]
    rfl

theorem mapM_ok (cs : List Char) : (cs.map (Except.ok : Char → Decoded)).mapM id = .ok cs := by
  induction cs with
  | nil => rfl
  | cons c cs ih =>
    rw [List.map_cons, List.mapM_cons, ih]
    rfl

/-- **ASCII text is decoded from its bytes.** -/
theorem decodeStrict_utf8Bytes (halves : Bool) {cs : List Char} (h : AllAscii cs) :
    Encoding.utf8.decodeStrict halves (utf8Bytes (String.ofList cs)) = .ok cs := by
  rw [utf8Bytes_of_allAscii h]
  have hdecoded := utf8From_of_allAscii halves 0 h
  show (utf8From halves 0 0 _).mapM id = _
  rw [hdecoded, mapM_ok]

theorem decodeTolerant_utf8Bytes {cs : List Char} (h : AllAscii cs) :
    Encoding.utf8.decodeTolerant (utf8Bytes (String.ofList cs)) = cs := by
  rw [utf8Bytes_of_allAscii h]
  have hdecoded := utf8From_of_allAscii false 0 h
  show (utf8From false 0 0 _).map _ = _
  rw [hdecoded, List.map_map]
  exact List.map_id cs

end Text

namespace Json

theorem detectEncoding_of_plain {bytes : List UInt8} (h : ∀ b ∈ bytes, b ≠ 0 ∧ b < 0x80) :
    detectEncoding bytes = .utf8 := by
  -- No mark starts so: its first byte is zero or not of ASCII.
  have hmark : ∀ {b : UInt8} {rest : List UInt8}, ¬ (b ≠ 0 ∧ b < 0x80) →
      (b :: rest).isPrefixOf bytes = false := by
    intro b rest hb
    cases bytes with
    | nil => rfl
    | cons c bytes =>
      have hc : (b == c) = false := beq_false_of_ne fun heq => hb (heq ▸ h c List.mem_cons_self)
      show (b == c && rest.isPrefixOf bytes) = false
      rw [hc, Bool.false_and]
  unfold detectEncoding
  dsimp only
  rw [hmark (by decide), hmark (by decide), hmark (by decide), hmark (by decide), hmark (by decide)]
  simp only [Bool.or_self, Bool.false_eq_true, if_false]
  split
  · rename_i first second third fourth rest
    rw [if_neg (h first (by simp)).1, if_neg (h second (by simp)).1]
  · rename_i first second
    rw [if_neg (h first (by simp)).1, if_neg (h second (by simp)).1]
  · rfl

/-- **A written value is read back from its bytes.** -/
theorem parseBytes_render {v : Value} (hnesting : nesting v ≤ mostLevels) (hv : v.isWritable = true) :
    parseBytes (utf8Bytes (render v)) = .ok (reading v) := by
  have hplain := plain_renderChars v
  have hbytes : ∀ b ∈ utf8Bytes (render v), b ≠ 0 ∧ b < 0x80 := by
    unfold render
    rw [utf8Bytes_of_allAscii hplain.allAscii]
    intro b hb
    obtain ⟨c, hc, rfl⟩ := List.mem_map.mp hb
    obtain ⟨hlow, hhigh⟩ := hplain c hc
    have hcode : (UInt8.ofNat c.toNat).toNat = c.toNat := by
      rw [UInt8.toNat_ofNat']
      exact Nat.mod_eq_of_lt (by omega)
    refine ⟨fun hzero => ?_, ?_⟩
    · rw [hzero] at hcode
      have hcode' : 0 = c.toNat := hcode
      omega
    · rw [UInt8.lt_iff_toNat_lt, hcode]
      exact Nat.lt_succ_of_lt hhigh
  have hdecoded := decodeStrict_utf8Bytes true hplain.allAscii
  have hdocument := document_renderChars hnesting hv (.inl rfl)
  rw [List.append_nil] at hdocument
  unfold parseBytes readBytes
  rw [detectEncoding_of_plain hbytes]
  unfold render
  dsimp only
  rw [hdecoded]
  dsimp only
  rw [hdocument]
  rfl

end Json

/-! ## Lines -/

namespace Text

theorem unifyLineEnds_of_notMem {cs : List Char} (h : '\r' ∉ cs) : unifyLineEnds cs = cs := by
  induction cs with
  | nil => rfl
  | cons c cs ih =>
    have hc : c ≠ '\r' := fun heq => h (heq ▸ List.mem_cons_self)
    have hcs := ih fun hmem => h (List.mem_cons_of_mem _ hmem)
    unfold unifyLineEnds
    split
    · rename_i heq
      cases heq
    · rename_i heq
      exact absurd (List.cons.inj heq).1 hc
    · rename_i heq
      exact absurd (List.cons.inj heq).1 hc
    · rename_i heq
      obtain ⟨rfl, rfl⟩ := List.cons.inj heq
      rw [hcs]

theorem splitLines_line {line : List Char} (h : '\n' ∉ line) (rest : List Char) :
    splitLines (line ++ '\n' :: rest) = (line ++ ['\n']) :: splitLines rest := by
  induction line with
  | nil => rfl
  | cons c line ih =>
    have hc : c ≠ '\n' := fun heq => h (heq ▸ List.mem_cons_self)
    have hline := ih fun hmem => h (List.mem_cons_of_mem _ hmem)
    rw [List.cons_append, splitLines.eq_def]
    split
    · rename_i heq
      cases heq
    · rename_i heq
      exact absurd (List.cons.inj heq).1 hc
    · rename_i heq
      obtain ⟨rfl, rfl⟩ := List.cons.inj heq
      rw [hline]
      cases line with
      | nil => rfl
      | cons d line => rfl

/-- The text of some lines. -/
def ofLines (lines : List (List Char)) : List Char :=
  lines.flatMap (· ++ ['\n'])

/-- **Plain lines are read as they were written.** -/
theorem fileLines_ofLines {lines : List (List Char)} (h : ∀ line ∈ lines, Plain line) :
    fileLines (ofLines lines) = lines.map (· ++ ['\n']) := by
  have hreturn : '\r' ∉ ofLines lines := by
    intro hmem
    obtain ⟨line, hline, hc⟩ := List.mem_flatMap.mp hmem
    rcases List.mem_append.mp hc with hc | hc
    · exact absurd (h line hline '\r' hc).1 (by decide)
    · exact absurd (List.mem_singleton.mp hc) (by decide)
  unfold fileLines
  rw [unifyLineEnds_of_notMem hreturn]
  induction lines with
  | nil => rfl
  | cons line lines ih =>
    obtain ⟨hline, hlines⟩ := List.forall_mem_cons.mp h
    have hfeed : '\n' ∉ line := fun hmem => absurd (hline '\n' hmem).1 (by decide)
    have htext : ofLines (line :: lines) = line ++ '\n' :: ofLines lines :=
      List.append_assoc line ['\n'] (ofLines lines)
    rw [htext] at hreturn ⊢
    have hrest : '\r' ∉ ofLines lines := fun hmem =>
      hreturn (List.mem_append_right line (List.mem_cons_of_mem _ hmem))
    rw [splitLines_line hfeed, ih hlines hrest, List.map_cons]

end Text

end Phrasing
