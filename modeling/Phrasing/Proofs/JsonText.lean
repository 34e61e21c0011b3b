import Phrasing.Proofs.Numerals

/-! # JSON reads back

A value that is written can be read again, behind which anything may follow that does not go on with a number
(`readsBack`, by induction on the value): a text through its escapes, one character at a time, a number through its
digits, and a collection part by part.  What is read is the value as JSON can hold it (`reading`), provided that
no integer in it has too many digits and no collections stand too deep in each other (`parseChars_renderChars`).
-/

namespace Phrasing

open Text

/-- A property of all values, from the parts of a value to the value. -/
theorem Value.induction {motive : Value → Prop} (scalar : ∀ s, motive (.scalar s))
    (list : ∀ items, (∀ v ∈ items, motive v) → motive (.list items))
    (tuple : ∀ items, (∀ v ∈ items, motive v) → motive (.tuple items))
    (set : ∀ items, (∀ v ∈ items, motive v) → motive (.set items))
    (mapping : ∀ entries, (∀ e ∈ entries, motive e.2) → motive (.mapping entries))
    (record : ∀ attributes, (∀ e ∈ attributes, motive e.2) → motive (.record attributes))
    (v : Value) : motive v :=
  @Value.rec motive (fun items => ∀ v ∈ items, motive v) (fun entries => ∀ e ∈ entries, motive e.2)
    (fun attributes => ∀ e ∈ attributes, motive e.2) (fun e => motive e.2) (fun e => motive e.2)
    scalar list tuple set mapping record
    (fun _ h => absurd h List.not_mem_nil) (fun _ _ h hs => List.forall_mem_cons.mpr ⟨h, hs⟩)
    (fun _ h => absurd h List.not_mem_nil) (fun _ _ h hs => List.forall_mem_cons.mpr ⟨h, hs⟩)
    (fun _ h => absurd h List.not_mem_nil) (fun _ _ h hs => List.forall_mem_cons.mpr ⟨h, hs⟩)
    (fun _ _ h => h) (fun _ _ h => h) v

namespace Json

/-! ## Strings -/

section Escapes

theorem hexValue?_hexDigit (n : Nat) : hexValue? (hexDigit n) = some (n % 16) := by
  have hall : ∀ d, d < 16 → hexValue? (hexDigit d) = some d := by decide
  have hdigit : hexDigit n = hexDigit (n % 16) := by
    unfold hexDigit
    rw [Nat.mod_mod]
  rw [hdigit]
  exact hall _ (Nat.mod_lt n (by decide))

/-- **Four hexadecimal digits read back.** -/
theorem fourHex?_hexDigits {n : Nat} (h : n < 0x10000) (rest : List Char) :
    fourHex? (hexDigits 4 n ++ rest) = some (n, rest) := by
  have hdigits : hexDigits 4 n ++ rest = hexDigit (n / 16 / 16 / 16) :: hexDigit (n / 16 / 16) ::
      hexDigit (n / 16) :: hexDigit n :: rest := rfl
  rw [hdigits]
  unfold fourHex?
  simp only [hexValue?_hexDigit, Option.bind_eq_bind, Option.bind_some]
  refine congrArg (fun m => some (m, rest)) ?_
  omega

/-- A code escape of a character outside the surrogates reads back. -/
theorem codeEscape?_plain (start : List Char) {c : Char} (h : c.toNat < 0x10000) {rest : List Char}
    (hrest : rest ≠ []) : codeEscape? start (hexDigits 4 c.toNat ++ rest) = .ok (c, rest) := by
  have hscalar : c.toNat < 0xD800 ∨ 0xDFFF < c.toNat ∧ c.toNat < 0x110000 := c.valid
  have hhigh : isHighSurrogate c.toNat = false := by
    simp [isHighSurrogate]
    omega
  have hlow : isLowSurrogate c.toNat = false := by
    simp [isLowSurrogate]
    omega
  unfold codeEscape?
  rw [fourHex?_hexDigits h]
  cases rest with
  | nil => exact absurd rfl hrest
  | cons r rest =>
    simp only [hhigh, hlow, Bool.false_and, Bool.false_eq_true, if_false, Bool.or_self,
      Char.ofNat_toNat]

/-- The code escapes of the two halves of a pair read back as what they make together. -/
theorem codeEscape?_pair (start : List Char) {high low : Nat} (hhigh : isHighSurrogate high = true)
    (hlow : isLowSurrogate low = true) {rest : List Char} (hrest : rest ≠ []) :
    codeEscape? start (hexDigits 4 high ++ (fourDigitEscape low ++ rest)) =
      .ok (joinSurrogates high low, rest) := by
  have hhigh' : high < 0x10000 := by
    simp [isHighSurrogate] at hhigh
    omega
  have hlow' : low < 0x10000 := by
    simp [isLowSurrogate] at hlow
    omega
  have hescape : fourDigitEscape low ++ rest = '\\' :: 'u' :: (hexDigits 4 low ++ rest) := rfl
  have hmore : ((fourDigitEscape low ++ rest).drop 6).isEmpty = false := by
    have hdrop : (fourDigitEscape low ++ rest).drop 6 = rest := rfl
    rw [hdrop]
    exact List.isEmpty_eq_false_iff.mpr hrest
  unfold codeEscape?
  rw [fourHex?_hexDigits hhigh']
  rw [hescape] at hmore ⊢
  simp only [hhigh, hmore, Bool.not_false, Bool.and_self, if_true]
  rw [fourHex?_hexDigits hlow']
  simp only [hlow, if_true]

/-- The halves of a character make it together. -/
theorem halves_spec {c : Char} (h : 0x10000 ≤ c.toNat) :
    isHighSurrogate (0xD800 + (c.toNat - 0x10000) / 0x400) = true ∧
      isLowSurrogate (0xDC00 + (c.toNat - 0x10000) % 0x400) = true ∧
      joinSurrogates (0xD800 + (c.toNat - 0x10000) / 0x400)
        (0xDC00 + (c.toNat - 0x10000) % 0x400) = c := by
  have hscalar : c.toNat < 0xD800 ∨ 0xDFFF < c.toNat ∧ c.toNat < 0x110000 := c.valid
  have hcode : 0x10000 + (0xD800 + (c.toNat - 0x10000) / 0x400 - 0xD800) * 0x400 +
      (0xDC00 + (c.toNat - 0x10000) % 0x400 - 0xDC00) = c.toNat := by omega
  refine ⟨?_, ?_, ?_⟩
  · simp [isHighSurrogate]
    omega
  · simp [isLowSurrogate]
    omega
  · rw [joinSurrogates, hcode, Char.ofNat_toNat]

/-- After a backslash and the letter for it, a code escape is read. -/
theorem stringChar_code (opening : List Char) (n : Nat) (rest : List Char) :
    stringChar opening (fourDigitEscape n ++ rest) =
      (codeEscape? ('u' :: (hexDigits 4 n ++ rest)) (hexDigits 4 n ++ rest)).map
        fun (c, rest) => (some c, rest) := rfl

/-- **An escaped character reads back.** -/
theorem stringChar_escapeChar (opening : List Char) (c : Char) {rest : List Char}
    (hrest : rest ≠ []) : stringChar opening (escapeChar c ++ rest) = .ok (some c, rest) := by
  unfold escapeChar
  split
  · rfl
  · rfl
  · rfl
  · rfl
  · rfl
  · rfl
  · rfl
  · rename_i hquote hslash _ _ _ _ _
    dsimp only
    split
    · rename_i hseen
      unfold stringChar
      split
      · rename_i hnil
        cases hnil
      · rename_i hcons
        cases hcons
        exact absurd rfl hquote
      · rename_i hcons
        cases hcons
        exact absurd rfl hslash
      · rename_i hcons
        cases hcons
        rw [if_neg (by omega)]
        rfl
    · split
      · rename_i hshort
        rw [stringChar_code, codeEscape?_plain _ hshort hrest]
        rfl
      · rename_i hlong
        obtain ⟨hhigh, hlow, hjoin⟩ := halves_spec (Nat.not_lt.mp hlong)
        rw [List.append_assoc, stringChar_code, codeEscape?_pair _ hhigh hlow hrest, hjoin]
        rfl

end Escapes

/-- The characters of a string read back up to its closing quote. -/
theorem stringChars_escaped (opening : List Char) {cs : List Char} {fuel : Nat}
    (hfuel : cs.length < fuel) (rest : List Char) :
    stringChars opening fuel (cs.flatMap escapeChar ++ '\x22' :: rest) = .ok (cs, rest) := by
  induction cs generalizing fuel with
  | nil =>
    cases fuel with
    | zero => exact absurd hfuel (Nat.not_lt_zero _)
    | succ fuel => rfl
  | cons c cs ih =>
    cases fuel with
    | zero => exact absurd hfuel (Nat.not_lt_zero _)
    | succ fuel =>
      rw [List.flatMap_cons, List.append_assoc, stringChars,
        stringChar_escapeChar opening c (by simp)]
      dsimp only
      rw [ih (Nat.lt_of_succ_lt_succ hfuel)]
      rfl

theorem escapeChar_ne_nil (c : Char) : escapeChar c ≠ [] := by
  intro h
  have hread := stringChar_escapeChar [] c (List.cons_ne_nil '\x22' [])
  rw [h] at hread
  cases hread

theorem length_le_escaped (cs : List Char) : cs.length ≤ (cs.flatMap escapeChar).length := by
  induction cs with
  | nil => exact Nat.le_refl 0
  | cons c cs ih =>
    rw [List.flatMap_cons, List.length_append, List.length_cons]
    have hc := List.length_pos_iff.mpr (escapeChar_ne_nil c)
    omega

/-- **A string reads back**, whatever follows it. -/
theorem stringAfterQuote_renderText (s : String) (rest : List Char) :
    ∃ cs, renderText s ++ rest = '\x22' :: cs ∧ stringAfterQuote cs = .ok (s, rest) := by
  refine ⟨s.toList.flatMap escapeChar ++ '\x22' :: rest, by simp [renderText], ?_⟩
  have hlength := length_le_escaped s.toList
  unfold stringAfterQuote
  rw [stringChars_escaped]
  · show Except.ok (String.ofList s.toList, rest) = .ok (s, rest)
    rw [String.ofList_toList]
  · rw [List.length_append]
    omega

/-! ## What is read -/

/-- What a scalar that is written is read as: a kind that JSON lacks is read as its display text. -/
def readingScalar : Scalar → Scalar
  | .null => .null
  | .bool b => .bool b
  | .int n => .int n
  | .float x => .float x
  | .text s => .text s
  | s => .text (Value.scalar s).display

mutual

/-- What a value that is written is read as. -/
def reading : Value → Value
  | .scalar s => .scalar (readingScalar s)
  | .list items | .tuple items => .list (readingItems items)
  | .mapping entries => .mapping (Entries.ofPairs (readingEntries entries))
  | v@(.set _) | v@(.record _) => .text v.display

/-- What the items of a collection are read as. -/
def readingItems : List Value → List Value
  | [] => []
  | v :: rest => reading v :: readingItems rest

/-- What the members of an object are read as. -/
def readingEntries : List (Scalar × Value) → List (Scalar × Value)
  | [] => []
  | (k, v) :: rest => (.text (keyText k), reading v) :: readingEntries rest

end

mutual

/-- How many collections stand in each other where a value is written. -/
def nesting : Value → Nat
  | .list items | .tuple items => nestingOfItems items + 1
  | .mapping entries => nestingOfEntries entries + 1
  | .scalar _ | .set _ | .record _ => 0

/-- How many collections stand in each other in items. -/
def nestingOfItems : List Value → Nat
  | [] => 0
  | v :: rest => max (nesting v) (nestingOfItems rest)

/-- How many collections stand in each other in members. -/
def nestingOfEntries : List (Scalar × Value) → Nat
  | [] => 0
  | (_, v) :: rest => max (nesting v) (nestingOfEntries rest)

end

/-! ## Values that are no collections -/

/-- No name of a constant is the start of a number. -/
theorem constant?_eq_none {cs : List Char} {read : Read Value} (h : number? cs = some read) :
    constant? cs = none := by
  refine List.findSome?_eq_none_iff.mpr fun (name, v) hmem => ?_
  have hnone : ∀ tail, number? (name ++ tail) = none := by
    intro tail
    simp only [constants, List.mem_cons, Prod.mk.injEq, List.not_mem_nil, or_false] at hmem
    rcases hmem with ⟨rfl, _⟩ | ⟨rfl, _⟩ | ⟨rfl, _⟩ | ⟨rfl, _⟩ | ⟨rfl, _⟩ | ⟨rfl, _⟩
    all_goals rfl
  cases hstart : name.isPrefixOf cs with
  | false => simp [hstart]
  | true =>
    obtain ⟨tail, rfl⟩ := List.isPrefixOf_iff_prefix.mp hstart
    cases (hnone tail).symm.trans h

theorem bareValue_of_number? {cs : List Char} {read : Read Value} (h : number? cs = some read) :
    bareValue cs = read := by
  unfold bareValue
  rw [constant?_eq_none h, h]
  rfl

/-- What is read as a bare value is no string and no collection. -/
theorem value_of_bareValue {cs : List Char} {found : Value × List Char} (h : bareValue cs = .ok found)
    (levels fuel : Nat) : value levels (fuel + 1) cs = .ok found := by
  have hrefused : ∀ c ∈ ['\x22', '[', '\x7b'], ∀ tail, cs ≠ c :: tail := by
    rintro c hc tail rfl
    simp only [List.mem_cons, List.not_mem_nil, or_false] at hc
    rcases hc with rfl | rfl | rfl
    all_goals cases h
  rw [value.eq_def]
  dsimp only
  split
  · exact absurd rfl (hrefused _ (by decide) _)
  · exact absurd rfl (hrefused _ (by decide) _)
  · exact absurd rfl (hrefused _ (by decide) _)
  · exact absurd rfl (hrefused _ (by decide) _)
  · exact absurd rfl (hrefused _ (by decide) _)
  · exact h

/-- **A string reads back as a value.** -/
theorem value_renderText (levels fuel : Nat) (s : String) (rest : List Char) :
    value levels (fuel + 1) (renderText s ++ rest) = .ok (.text s, rest) := by
  obtain ⟨cs, hcs, hread⟩ := stringAfterQuote_renderText s rest
  have hvalue : value levels (fuel + 1) ('\x22' :: cs) =
      (stringAfterQuote cs).map fun read => (.text read.1, read.2) := rfl
  rw [hcs, hvalue, hread]
  rfl

/-- **A scalar reads back.** -/
theorem value_renderScalar {s : Scalar} (hs : s.isWritable = true) (levels fuel : Nat)
    {rest : List Char} (hrest : Ends rest) :
    value levels (fuel + 1) (renderScalar s ++ rest) = .ok (.scalar (readingScalar s), rest) := by
  cases s with
  | null => exact value_of_bareValue rfl levels fuel
  | bool b => cases b <;> exact value_of_bareValue rfl levels fuel
  | int n => exact value_of_bareValue (bareValue_of_number? (number?_int hrest hs)) levels fuel
  | float x =>
    cases x with
    | nan => exact value_of_bareValue rfl levels fuel
    | infinite negative => cases negative <;> exact value_of_bareValue rfl levels fuel
    | finite negative rank =>
      have hread := number?_text hrest (show (Binary64.finite negative rank).isFinite = true from rfl)
      exact value_of_bareValue (bareValue_of_number? hread) levels fuel
  | text s => exact value_renderText levels fuel s rest
  | bytes bs => exact value_renderText levels fuel _ rest
  | date d => exact value_renderText levels fuel _ rest
  | timestamp t => exact value_renderText levels fuel _ rest
  | decimal spelling => exact value_renderText levels fuel _ rest

/-! ## Collections -/

/-- A text that starts with a character that can start an item. -/
def Starts (cs : List Char) : Prop :=
  ∃ c rest, cs = c :: rest ∧ isSpace c = false ∧ c ≠ ']' ∧ c ≠ '\uFEFF'

/-- What is read as a value starts so. -/
theorem starts_of_value {levels fuel : Nat} {cs : List Char} {found : Value × List Char}
    (h : value levels fuel cs = .ok found) : Starts cs := by
  cases fuel with
  | zero =>
    rw [value.eq_def] at h
    cases h
  | succ fuel =>
    cases cs with
    | nil =>
      have hrefused : value levels (fuel + 1) [] = refuse .noValue [] := rfl
      cases hrefused.symm.trans h
    | cons c cs =>
      have hrefused : ∀ d ∈ [' ', '\t', '\n', '\r', ']', '\uFEFF'],
          value levels (fuel + 1) (d :: cs) = refuse .noValue (d :: cs) := by
        intro d hd
        simp only [List.mem_cons, List.not_mem_nil, or_false] at hd
        rcases hd with rfl | rfl | rfl | rfl | rfl | rfl
        all_goals rfl
      have hne : c ∉ [' ', '\t', '\n', '\r', ']', '\uFEFF'] := by
        intro hc
        cases (hrefused c hc).symm.trans h
      simp only [List.mem_cons, List.not_mem_nil, or_false, not_or] at hne
      obtain ⟨hspace, htab, hfeed, hreturn, hbracket, hmark⟩ := hne
      refine ⟨c, cs, rfl, ?_, hbracket, hmark⟩
      simp [isSpace, hspace, htab, hfeed, hreturn]

theorem Starts.skipSpace_eq {cs : List Char} (h : Starts cs) : skipSpace cs = cs := by
  obtain ⟨c, rest, rfl, hspace, _⟩ := h
  exact List.dropWhile_cons_of_neg (by simp [hspace])

/-- After a bracket comes an array. -/
theorem value_bracket (levels fuel : Nat) (cs : List Char) :
    value (levels + 1) (fuel + 1) ('[' :: cs) = match skipSpace cs with
      | ']' :: rest => .ok (.list [], rest)
      | rest => (items levels fuel rest).map fun (vs, rest) => (.list vs, rest) := rfl

/-- An array of items that can be read is read. -/
theorem value_array {levels fuel : Nat} {cs rest : List Char} {vs : List Value} (hstarts : Starts cs)
    (h : items levels fuel cs = .ok (vs, rest)) :
    value (levels + 1) (fuel + 1) ('[' :: cs) = .ok (.list vs, rest) := by
  rw [value_bracket, hstarts.skipSpace_eq]
  obtain ⟨c, tail, rfl, _, hbracket, _⟩ := hstarts
  split
  · rename_i heq
    cases heq
    exact absurd rfl hbracket
  · rw [h]
    rfl

/-- An object of members that can be read is read. -/
theorem value_object {levels fuel : Nat} {cs rest : List Char} {fields : List (Scalar × Value)}
    (hquote : ∃ tail, cs = '\x22' :: tail) (h : members levels fuel cs = .ok (fields, rest)) :
    value (levels + 1) (fuel + 1) ('\x7b' :: cs) =
      .ok (.mapping (Entries.ofPairs fields), rest) := by
  obtain ⟨tail, rfl⟩ := hquote
  have hvalue : value (levels + 1) (fuel + 1) ('\x7b' :: '\x22' :: tail) =
      (members levels fuel ('\x22' :: tail)).map fun read =>
        (.mapping (Entries.ofPairs read.1), read.2) := rfl
  rw [hvalue, h]
  rfl

/-- **A value reads back**: with levels and fuel enough for it, it is read, whatever follows. -/
def ReadsBack (v : Value) : Prop :=
  ∀ levels fuel rest, nesting v ≤ levels → v.isWritable = true → (renderChars v).length ≤ fuel →
    Ends rest → value levels fuel (renderChars v ++ rest) = .ok (reading v, rest)

theorem ends_cons {c : Char} (h : c ∈ [',', ']', '\x7d', '\n']) (rest : List Char) : Ends (c :: rest) := by
  intro d hd
  cases hd
  exact h

/-- What is read as items starts as a value does. -/
theorem starts_of_items {levels fuel : Nat} {cs : List Char} {found : List Value × List Char}
    (h : items levels fuel cs = .ok found) : Starts cs := by
  cases fuel with
  | zero =>
    rw [items.eq_def] at h
    cases h
  | succ fuel =>
    rw [items.eq_def] at h
    dsimp only at h
    cases hvalue : value levels fuel cs with
    | error e =>
      rw [hvalue] at h
      cases h
    | ok found => exact starts_of_value hvalue

/-- The last item of an array. -/
theorem items_last {levels fuel : Nat} {cs rest : List Char} {v : Value}
    (h : value levels fuel cs = .ok (v, ']' :: rest)) :
    items levels (fuel + 1) cs = .ok ([v], rest) := by
  rw [items.eq_def]
  dsimp only
  rw [h]
  rfl

/-- An item with others behind it. -/
theorem items_next {levels fuel : Nat} {cs more rest : List Char} {v : Value} {vs : List Value}
    (h : value levels fuel cs = .ok (v, ',' :: ' ' :: more)) (hstarts : Starts more)
    (hmore : items levels fuel more = .ok (vs, rest)) :
    items levels (fuel + 1) cs = .ok (v :: vs, rest) := by
  have hskip : skipSpace (' ' :: more) = more := hstarts.skipSpace_eq
  have hitems : items levels (fuel + 1) cs =
      (items levels fuel (skipSpace (' ' :: more))).map fun read => (v :: read.1, read.2) := by
    rw [items.eq_def]
    dsimp only
    rw [h]
    rfl
  rw [hitems, hskip, hmore]
  rfl

theorem joinParts_cons_cons (part next : List Char) (parts : List (List Char)) :
    joinParts (part :: next :: parts) = part ++ ',' :: ' ' :: joinParts (next :: parts) := rfl

/-- **Items that read back are read one after another.** -/
theorem items_renderItems {levels fuel : Nat} {v : Value} {vs : List Value}
    (hback : ∀ v' ∈ v :: vs, ReadsBack v') (hlevels : nestingOfItems (v :: vs) ≤ levels)
    (hwritable : areWritable (v :: vs) = true)
    (hfuel : (joinParts (renderItems (v :: vs))).length < fuel) (rest : List Char) :
    items levels fuel (joinParts (renderItems (v :: vs)) ++ ']' :: rest) =
      .ok (readingItems (v :: vs), rest) := by
  induction vs generalizing v fuel with
  | nil =>
    obtain ⟨fuel, rfl⟩ : ∃ n, fuel = n + 1 := ⟨fuel - 1, by omega⟩
    have hv := (Bool.and_eq_true_iff.mp hwritable).1
    have hlevel := (Nat.max_le.mp hlevels).1
    refine items_last (hback v List.mem_cons_self levels fuel _ hlevel hv (Nat.lt_succ_iff.mp hfuel) ?_)
    exact ends_cons (by decide) rest
  | cons next vs ih =>
    obtain ⟨fuel, rfl⟩ : ∃ n, fuel = n + 1 := ⟨fuel - 1, by omega⟩
    obtain ⟨hv, hvs⟩ := Bool.and_eq_true_iff.mp hwritable
    obtain ⟨hlevel, hlevels'⟩ := Nat.max_le.mp hlevels
    obtain ⟨hhead, htail⟩ := List.forall_mem_cons.mp hback
    have hparts : renderItems (v :: next :: vs) = renderChars v :: renderItems (next :: vs) := rfl
    have hnext : renderItems (next :: vs) = renderChars next :: renderItems vs := rfl
    rw [hparts, hnext, joinParts_cons_cons, ← hnext] at hfuel ⊢
    rw [List.length_append, List.length_cons, List.length_cons] at hfuel
    rw [List.append_assoc]
    have hmore : items levels fuel (joinParts (renderItems (next :: vs)) ++ ']' :: rest) =
        .ok (readingItems (next :: vs), rest) := ih htail hlevels' hvs (by omega)
    have hends : Ends ((',' :: ' ' :: joinParts (renderItems (next :: vs))) ++ ']' :: rest) :=
      ends_cons (by decide) _
    have hitem := hhead levels fuel _ hlevel hv (by omega) hends
    exact items_next hitem (starts_of_items hmore) hmore

/-- Members start with the quote of a name. -/
theorem joinParts_renderEntries (e : Scalar × Value) (es : List (Scalar × Value)) :
    ∃ tail, joinParts (renderEntries (e :: es)) = '\x22' :: tail := by
  cases es with
  | nil => exact ⟨_, rfl⟩
  | cons next es => exact ⟨_, rfl⟩

/-- After a quote comes the name of a member. -/
theorem members_quote (levels fuel : Nat) (cs : List Char) :
    members levels (fuel + 1) ('\x22' :: cs) = match stringAfterQuote cs with
      | .error e => .error e
      | .ok (name, rest) =>
        match skipSpace rest with
        | ':' :: rest =>
          match value levels fuel (skipSpace rest) with
          | .error e => .error e
          | .ok (v, rest) =>
            match skipSpace rest with
            | '\x7d' :: rest => .ok ([(.text name, v)], rest)
            | ',' :: rest => (members levels fuel (skipSpace rest)).map fun (fields, rest) =>
                ((.text name, v) :: fields, rest)
            | rest => refuse .noComma rest
        | rest => refuse .noColon rest := rfl

/-- After the name of a member and a colon comes its value. -/
theorem members_value {levels fuel : Nat} {name : String} {tail rest : List Char}
    (hname : stringAfterQuote tail = .ok (name, ':' :: rest)) :
    members levels (fuel + 1) ('\x22' :: tail) = match value levels fuel (skipSpace rest) with
      | .error e => .error e
      | .ok (v, rest) =>
        match skipSpace rest with
        | '\x7d' :: rest => .ok ([(.text name, v)], rest)
        | ',' :: rest => (members levels fuel (skipSpace rest)).map fun (fields, rest) =>
            ((.text name, v) :: fields, rest)
        | rest => refuse .noComma rest := by
  rw [members_quote, hname]
  rfl

/-- A member is read up to what comes behind its value. -/
theorem members_step {levels fuel : Nat} {name : String} {cs : List Char} {v : Value}
    {after : List Char} {read : Read (List (Scalar × Value))}
    (h : value levels fuel cs = .ok (v, after))
    (hafter : (match skipSpace after with
      | '\x7d' :: rest => .ok ([(.text name, v)], rest)
      | ',' :: rest => (members levels fuel (skipSpace rest)).map fun (fields, rest) =>
          ((.text name, v) :: fields, rest)
      | rest => refuse .noComma rest) = read) :
    members levels (fuel + 1) (renderText name ++ ':' :: ' ' :: cs) = read := by
  obtain ⟨tail, htail, hname⟩ := stringAfterQuote_renderText name (':' :: ' ' :: cs)
  have hvalue : value levels fuel (skipSpace (' ' :: cs)) = .ok (v, after) := by
    have hskip : skipSpace (' ' :: cs) = cs := (starts_of_value h).skipSpace_eq
    rw [hskip, h]
  rw [htail, members_value hname, hvalue]
  exact hafter

/-- **Members whose values read back are read one after another.** -/
theorem members_renderEntries {levels fuel : Nat} {e : Scalar × Value} {es : List (Scalar × Value)}
    (hback : ∀ e' ∈ e :: es, ReadsBack e'.2) (hlevels : nestingOfEntries (e :: es) ≤ levels)
    (hwritable : entriesAreWritable (e :: es) = true)
    (hfuel : (joinParts (renderEntries (e :: es))).length < fuel) (rest : List Char) :
    members levels fuel (joinParts (renderEntries (e :: es)) ++ '\x7d' :: rest) =
      .ok (readingEntries (e :: es), rest) := by
  -- Each member takes one unit of fuel and at least one character, so what is left is enough for the rest.
  induction es generalizing e fuel with
  | nil =>
    obtain ⟨k, v⟩ := e
    obtain ⟨fuel, rfl⟩ : ∃ n, fuel = n + 1 := ⟨fuel - 1, by omega⟩
    have hv := (Bool.and_eq_true_iff.mp (Bool.and_eq_true_iff.mp hwritable).1).2
    have hlevel := (Nat.max_le.mp hlevels).1
    have hpart : joinParts (renderEntries [(k, v)]) =
      renderText (keyText k) ++ ':' :: ' ' :: renderChars v := rfl
    rw [hpart] at hfuel ⊢
    rw [List.length_append, List.length_cons, List.length_cons] at hfuel
    have hread : value levels fuel (renderChars v ++ '\x7d' :: rest) =
        .ok (reading v, '\x7d' :: rest) :=
      hback (k, v) List.mem_cons_self levels fuel _ hlevel hv
        (show (renderChars v).length ≤ fuel by omega) (ends_cons (by decide) rest)
    rw [List.append_assoc, List.cons_append, List.cons_append]
    exact members_step hread rfl
  | cons next es ih =>
    obtain ⟨k, v⟩ := e
    obtain ⟨fuel, rfl⟩ : ∃ n, fuel = n + 1 := ⟨fuel - 1, by omega⟩
    obtain ⟨hkv, hes⟩ := Bool.and_eq_true_iff.mp hwritable
    have hv := (Bool.and_eq_true_iff.mp hkv).2
    obtain ⟨hlevel, hlevels'⟩ := Nat.max_le.mp hlevels
    obtain ⟨hhead, htail⟩ := List.forall_mem_cons.mp hback
    have hparts : joinParts (renderEntries ((k, v) :: next :: es)) =
      (renderText (keyText k) ++ ':' :: ' ' :: renderChars v) ++
        ',' :: ' ' :: joinParts (renderEntries (next :: es)) := rfl
    rw [hparts] at hfuel ⊢
    simp only [List.length_append, List.length_cons] at hfuel
    have hmore : members levels fuel (joinParts (renderEntries (next :: es)) ++ '\x7d' :: rest) =
        .ok (readingEntries (next :: es), rest) := ih htail hlevels' hes (by omega)
    have hread : value levels fuel (renderChars v ++ (',' :: ' ' ::
        (joinParts (renderEntries (next :: es)) ++ '\x7d' :: rest))) =
          .ok (reading v, ',' :: ' ' :: (joinParts (renderEntries (next :: es)) ++ '\x7d' :: rest)) :=
      hhead levels fuel _ hlevel hv (show (renderChars v).length ≤ fuel by omega)
        (ends_cons (by decide) _)
    simp only [List.append_assoc, List.cons_append]
    refine members_step hread ?_
    have hskip : skipSpace (' ' :: (joinParts (renderEntries (next :: es)) ++ '\x7d' :: rest)) =
        joinParts (renderEntries (next :: es)) ++ '\x7d' :: rest := by
      obtain ⟨tail, htail⟩ := joinParts_renderEntries next es
      rw [htail]
      rfl
    show (members levels fuel (skipSpace _)).map _ = _
    rw [hskip, hmore]
    rfl

/-- An array reads back if its items do. -/
theorem readsBack_list {vs : List Value} (h : ∀ v ∈ vs, ReadsBack v) : ReadsBack (.list vs) := by
  intro levels fuel rest hlevels hwritable hfuel _
  cases vs with
  | nil =>
    obtain ⟨levels, rfl⟩ : ∃ n, levels = n + 1 := ⟨levels - 1, (Nat.succ_pred_eq_of_pos hlevels).symm⟩
    obtain ⟨fuel, rfl⟩ : ∃ n, fuel = n + 1 := ⟨fuel - 1, by
      have htwo : 2 ≤ fuel := hfuel
      omega⟩
    rfl
  | cons v vs =>
    have htext : renderChars (.list (v :: vs)) = '[' :: joinParts (renderItems (v :: vs)) ++ [']'] := rfl
    have hlevels' : nestingOfItems (v :: vs) + 1 ≤ levels := hlevels
    rw [htext] at hfuel ⊢
    simp only [List.cons_append, List.length_cons, List.length_append, List.length_nil] at hfuel
    obtain ⟨levels, rfl⟩ : ∃ n, levels = n + 1 := ⟨levels - 1, by omega⟩
    obtain ⟨fuel, rfl⟩ : ∃ n, fuel = n + 1 := ⟨fuel - 1, by omega⟩
    have hitems : items levels fuel (joinParts (renderItems (v :: vs)) ++ ']' :: rest) =
        .ok (readingItems (v :: vs), rest) :=
      items_renderItems h (Nat.le_of_succ_le_succ hlevels') hwritable (by omega) rest
    rw [List.cons_append, List.cons_append, List.append_assoc]
    exact value_array (starts_of_items hitems) hitems

/-- An object reads back if the values of its members do. -/
theorem readsBack_mapping {es : List (Scalar × Value)} (h : ∀ e ∈ es, ReadsBack e.2) :
    ReadsBack (.mapping es) := by
  intro levels fuel rest hlevels hwritable hfuel _
  cases es with
  | nil =>
    obtain ⟨levels, rfl⟩ : ∃ n, levels = n + 1 := ⟨levels - 1, (Nat.succ_pred_eq_of_pos hlevels).symm⟩
    obtain ⟨fuel, rfl⟩ : ∃ n, fuel = n + 1 := ⟨fuel - 1, by
      have htwo : 2 ≤ fuel := hfuel
      omega⟩
    rfl
  | cons e es =>
    have htext : renderChars (.mapping (e :: es)) =
      '\x7b' :: joinParts (renderEntries (e :: es)) ++ ['\x7d'] := rfl
    have hlevels' : nestingOfEntries (e :: es) + 1 ≤ levels := hlevels
    rw [htext] at hfuel ⊢
    simp only [List.cons_append, List.length_cons, List.length_append, List.length_nil] at hfuel
    obtain ⟨levels, rfl⟩ : ∃ n, levels = n + 1 := ⟨levels - 1, by omega⟩
    obtain ⟨fuel, rfl⟩ : ∃ n, fuel = n + 1 := ⟨fuel - 1, by omega⟩
    have hmembers : members levels fuel (joinParts (renderEntries (e :: es)) ++ '\x7d' :: rest) =
        .ok (readingEntries (e :: es), rest) :=
      members_renderEntries h (Nat.le_of_succ_le_succ hlevels') hwritable (by omega) rest
    obtain ⟨tail, htail⟩ := joinParts_renderEntries e es
    rw [List.cons_append, List.cons_append, List.append_assoc]
    refine value_object ⟨tail ++ '\x7d' :: rest, ?_⟩ hmembers
    rw [htail]
    rfl

/-- What is written as a string reads back as one. -/
theorem readsBack_text {v : Value} {s : String} (hchars : renderChars v = renderText s)
    (hreading : reading v = .text s) : ReadsBack v := by
  intro levels fuel rest _ _ hfuel _
  rw [hchars] at hfuel ⊢
  rw [hreading]
  obtain ⟨fuel, rfl⟩ : ∃ n, fuel = n + 1 := ⟨fuel - 1, by
    simp only [renderText, List.cons_append, List.length_cons] at hfuel
    omega⟩
  exact value_renderText levels fuel s rest

/-- A scalar reads back. -/
theorem readsBack_scalar (s : Scalar) : ReadsBack (.scalar s) := by
  intro levels fuel rest _ hwritable hfuel hrest
  have hread := fun n => value_renderScalar hwritable levels n hrest
  have hlength : 0 < (renderScalar s).length := by
    refine List.length_pos_iff.mpr fun hnil => ?_
    have hcomma := value_renderScalar hwritable 0 0 (ends_cons (c := ',') (by decide) [])
    rw [hnil] at hcomma
    cases hcomma
  have hfuel' : (renderScalar s).length ≤ fuel := hfuel
  obtain ⟨fuel, rfl⟩ : ∃ n, fuel = n + 1 := ⟨fuel - 1, by omega⟩
  exact hread fuel

/-- **Every value reads back.** -/
theorem readsBack (v : Value) : ReadsBack v := by
  induction v using Value.induction with
  | scalar s => exact readsBack_scalar s
  | list items ih => exact readsBack_list ih
  | tuple items ih => exact readsBack_list ih
  | set items _ => exact readsBack_text rfl rfl
  | mapping entries ih => exact readsBack_mapping ih
  | record attributes _ => exact readsBack_text rfl rfl

/-! ## Documents -/

/-- **A document reads back**, with or without a line feed behind it. -/
theorem document_renderChars {v : Value} (hnesting : nesting v ≤ mostLevels) (hv : v.isWritable = true)
    {tail : List Char} (htail : tail = [] ∨ tail = ['\n']) :
    document (renderChars v ++ tail) = .ok (reading v) := by
  have hends : Ends tail := by
    rcases htail with rfl | rfl
    · intro c hc
      cases hc
    · exact ends_cons (by decide) []
  have hfuel : (renderChars v).length ≤ enoughFuel (renderChars v ++ tail) := by
    unfold enoughFuel
    rw [List.length_append]
    omega
  have hread := readsBack v mostLevels _ tail hnesting hv hfuel hends
  have hskip : skipSpace (renderChars v ++ tail) = renderChars v ++ tail :=
    (starts_of_value hread).skipSpace_eq
  unfold document
  rw [hskip, hread]
  rcases htail with rfl | rfl
  · rfl
  · rfl

/-- **A written value is parsed as what it is read as.** -/
theorem parseChars_renderChars {v : Value} (hnesting : nesting v ≤ mostLevels)
    (hv : v.isWritable = true) {tail : List Char} (htail : tail = [] ∨ tail = ['\n']) :
    parseChars (renderChars v ++ tail) = .ok (reading v) := by
  have hread := document_renderChars hnesting hv htail
  unfold parseChars
  split
  · rename_i rest hmark
    rw [hmark] at hread
    have hrefused : document ('\uFEFF' :: rest) = refuse .noValue ('\uFEFF' :: rest) := rfl
    cases hrefused.symm.trans hread
  · rw [hread]
    rfl

end Json

end Phrasing
