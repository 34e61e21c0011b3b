import Phrasing.Proofs.Places
import Phrasing.Proofs.Spans

/-! # What is left after filling in

A phrase without brackets brings no reference along, but where it stands next to a stray bracket, the
two may be read together: after `[a]` is filled in, the text `[x[a]]` reads as a reference.  So what
is left can only be told for texts in which every bracket belongs to a reference (`WellBracketed`).
Such a text is a sequence of pieces that each read back by themselves (`pieces_source`), and filling
it in leaves another one, in which the references that the table knows have become characters
(`pieces_fill`).  What is left are therefore the references that the table does not know, in their
order, and filling in once more changes nothing (`left_after_fill`).
-/

namespace Phrasing

/-- A piece that reads back by itself: a character other than a bracket, or a reference to a name that
can stand in brackets. -/
def Piece.IsProper : Piece → Prop
  | .char c => Reference.isBracket c = false
  | .reference name => name ≠ [] ∧ ∀ c ∈ name, Reference.isBracket c = false

instance : DecidablePred Piece.IsProper
  | .char _ => inferInstanceAs (Decidable (_ = _))
  | .reference name =>
    -- The characters are finitely many, but only those of the name are to be looked at.
    have := List.decidableBAll (Reference.isBracket · = false) name
    inferInstanceAs (Decidable (_ ∧ _))

namespace Reference

/-! ## Texts without stray brackets -/

/-- Every bracket of a text is one of those around a reference. -/
def WellBracketed (cs : List Char) : Prop :=
  ∀ k c, cs[k]? = some c → isBracket c = true → ∃ i j, StandsAt cs i j ∧ (k = i ∨ k = j)

/-- A text that does not begin with a reference must not begin with a bracket. -/
theorem wellBracketed_cons_iff {c : Char} {rest : List Char}
    (h : ∀ j, ¬ StandsAt (c :: rest) 0 j) :
    WellBracketed (c :: rest) ↔ isBracket c = false ∧ WellBracketed rest := by
  constructor
  · intro hw
    constructor
    · by_contra hc
      obtain ⟨i, j, hat, rfl | rfl⟩ := hw 0 c rfl (by simpa using hc)
      · exact h j hat
      · exact Nat.not_lt_zero _ hat.named
    · intro k c' hk hc'
      obtain ⟨i, j, hat, hij⟩ := hw (k + 1) c' hk hc'
      obtain ⟨i', j', hat', rfl, rfl⟩ :=
        (standsFrom_cons_iff h).mp (standsFrom_zero_iff.mpr hat)
      exact ⟨i', j', hat', by omega⟩
  · rintro ⟨hc, hw⟩ k c' hk hc'
    cases k with
    | zero =>
      cases hk
      rw [hc] at hc'
      cases hc'
    | succ k =>
      obtain ⟨i, j, hat, hij⟩ := hw k c' hk hc'
      refine ⟨1 + i, 1 + j, ?_, by omega⟩
      exact standsFrom_zero_iff.mp ((standsFrom_cons_iff h).mpr ⟨i, j, hat, by omega, by omega⟩)

/-- Of a text that begins with a reference, what follows is left to be looked at. -/
theorem wellBracketed_cut_iff {rest name tail : List Char} (h : cut? rest = some (name, tail)) :
    WellBracketed ('[' :: rest) ↔ WellBracketed tail := by
  have hfirst := standsAt_of_cut? h
  have htail : ∀ k, ('[' :: rest)[name.length + 2 + k]? = tail[k]? := by
    intro k
    rw [eq_of_cut? h, show name.length + 2 + k = name.length + (k + 1) + 1 by omega,
      List.getElem?_cons_succ, List.getElem?_append_right (Nat.le_add_right _ _),
      Nat.add_sub_cancel_left]
    rfl
  constructor
  · intro hw k c hk hc
    obtain ⟨i, j, hat, hij⟩ := hw _ c ((htail k).trans hk) hc
    rcases (standsFrom_cut_iff h).mp (standsFrom_zero_iff.mpr hat) with
      ⟨rfl, rfl⟩ | ⟨i', j', hat', rfl, rfl⟩
    · omega
    · exact ⟨i', j', hat', by omega⟩
  · intro hw k c hk hc
    rcases Nat.lt_or_ge k (name.length + 2) with hlt | hge
    · refine ⟨0, name.length + 1, hfirst, ?_⟩
      -- Between the brackets of the reference there is no other.
      by_contra hinside
      have hnone := hfirst.unbroken k (by omega) (by omega)
      rw [hk] at hnone
      simp only [isBracket, Bool.or_eq_true, beq_iff_eq] at hc
      rcases hc with rfl | rfl
      · exact hnone.1 rfl
      · exact hnone.2 rfl
    · obtain ⟨k, rfl⟩ := Nat.exists_eq_add_of_le hge
      rw [htail] at hk
      obtain ⟨i, j, hat, hij⟩ := hw k c hk hc
      refine ⟨name.length + 2 + i, name.length + 2 + j, ?_, by omega⟩
      exact standsFrom_zero_iff.mp
        ((standsFrom_cut_iff h).mpr (.inr ⟨i, j, hat, by omega, by omega⟩))

/-- **The brackets of a text all belong to references** exactly if its pieces read back by
themselves. -/
theorem wellBracketed_iff {cs : List Char} : WellBracketed cs ↔ ∀ p ∈ pieces cs, p.IsProper := by
  fun_induction pieces cs with
  | case1 =>
    refine iff_of_true (fun k c hk _ => ?_) (List.forall_mem_nil _)
    cases hk
  | case2 rest name tail hcut ih =>
    rw [wellBracketed_cut_iff hcut, ih, List.forall_mem_cons]
    exact (and_iff_right (cut?_eq_some_iff.mp hcut).2).symm
  | case3 rest hcut ih =>
    rw [wellBracketed_cons_iff (not_standsAt_of_cut? hcut), ih, List.forall_mem_cons]
    rfl
  | case4 c rest hc ih =>
    rw [wellBracketed_cons_iff (not_standsAt_of_ne hc), ih, List.forall_mem_cons]
    rfl

/-- **Pieces that read back by themselves read back one after another.** -/
theorem pieces_source {ps : List Piece} (h : ∀ p ∈ ps, p.IsProper) :
    pieces (ps.flatMap Piece.source) = ps := by
  induction ps with
  | nil => simp [pieces]
  | cons p ps ih =>
    obtain ⟨hp, hps⟩ := List.forall_mem_cons.mp h
    cases p with
    | char c =>
      have hc : c ≠ '[' := by
        rintro rfl
        cases hp
      exact (pieces_cons hc).trans (congrArg _ (ih hps))
    | reference name =>
      have hcut : cut? (name ++ ']' :: ps.flatMap Piece.source) =
          some (name, ps.flatMap Piece.source) :=
        cut?_eq_some_iff.mpr ⟨rfl, hp⟩
      have hsource : (Piece.reference name :: ps).flatMap Piece.source =
          '[' :: (name ++ ']' :: ps.flatMap Piece.source) := by
        simp [Piece.source]
      rw [hsource, pieces_of_cut? hcut, ih hps]

/-! ## Filling in -/

/-- No phrase of a table holds a bracket. -/
def Table.Plain (table : Table) : Prop :=
  ∀ r phrase, table.get? r = some phrase → ∀ c ∈ phrase.toList, isBracket c = false

/-- The pieces that take the place of a piece when it is filled in. -/
def fillPieces (table : Table) : Piece → List Piece
  | .char c => [.char c]
  | .reference name =>
    match table.get? (String.ofList name) with
    | some phrase => phrase.toList.map .char
    | none => [.reference name]

theorem fillPieces_of_some {table : Table} {name : List Char} {phrase : String}
    (h : table.get? (String.ofList name) = some phrase) :
    fillPieces table (.reference name) = phrase.toList.map .char := by
  simp only [fillPieces, h]

theorem fillPieces_of_none {table : Table} {name : List Char}
    (h : table.get? (String.ofList name) = none) :
    fillPieces table (.reference name) = [.reference name] := by
  simp only [fillPieces, h]

theorem source_fillPieces (table : Table) (p : Piece) :
    (fillPieces table p).flatMap Piece.source = fillPiece table p := by
  cases p with
  | char c => rfl
  | reference name =>
    cases hget : table.get? (String.ofList name) with
    | none => simp [fillPieces_of_none hget, fillPiece, hget]
    | some phrase => simp [fillPieces_of_some hget, fillPiece, hget, List.flatMap_map, Piece.source]

theorem isProper_of_mem_fillPieces {table : Table} (htable : table.Plain) {p q : Piece}
    (hp : p.IsProper) (hq : q ∈ fillPieces table p) : q.IsProper := by
  cases p with
  | char c =>
    cases List.mem_singleton.mp hq
    exact hp
  | reference name =>
    cases hget : table.get? (String.ofList name) with
    | none =>
      rw [fillPieces_of_none hget] at hq
      cases List.mem_singleton.mp hq
      exact hp
    | some phrase =>
      rw [fillPieces_of_some hget] at hq
      obtain ⟨c, hc, rfl⟩ := List.mem_map.mp hq
      exact htable _ phrase hget c hc

theorem names_fillPieces (table : Table) (p : Piece) :
    (fillPieces table p).filterMap Piece.name? =
      p.name?.toList.filter fun r => (table.get? r).isNone := by
  cases p with
  | char c => rfl
  | reference name =>
    cases hget : table.get? (String.ofList name) with
    | none => simp [fillPieces_of_none hget, Piece.name?, hget]
    | some phrase => simp [fillPieces_of_some hget, Piece.name?, hget, List.filterMap_map]

section Text

variable {table : Table} {text : String} (h : WellBracketed text.toList) (htable : table.Plain)
include h htable

/-- **A text that was filled in reads as its pieces did, filled in.** -/
theorem pieces_fill :
    pieces (fill table text).toList = (pieces text.toList).flatMap (fillPieces table) := by
  have hsource : (fill table text).toList =
      ((pieces text.toList).flatMap (fillPieces table)).flatMap Piece.source := by
    rw [fill, String.toList_ofList, List.flatMap_assoc]
    exact List.flatMap_congr fun p _ => (source_fillPieces table p).symm
  rw [hsource]
  refine pieces_source fun q hq => ?_
  obtain ⟨p, hp, hq⟩ := List.mem_flatMap.mp hq
  exact isProper_of_mem_fillPieces htable (wellBracketed_iff.mp h p hp) hq

/-- What is left of the names of a text are those that the table does not know. -/
theorem names_fill :
    names (fill table text) = (names text).filter fun r => (table.get? r).isNone := by
  rw [names, pieces_fill h htable, names, List.filterMap_eq_flatMap_toList,
    List.filterMap_eq_flatMap_toList, List.flatMap_assoc, List.filter_flatMap]
  refine List.flatMap_congr fun p _ => ?_
  rw [← names_fillPieces, List.filterMap_eq_flatMap_toList]

/-- Filling in a second time changes nothing. -/
theorem fill_fill : fill table (fill table text) = fill table text := by
  refine fill_eq_self fun r hr phrase hget => ?_
  rw [names_fill h htable] at hr
  have hnone := (List.mem_filter.mp hr).2
  rw [hget] at hnone
  cases hnone

end Text

end Reference

theorem distinct_filter (keep : String → Bool) (names : List String) :
    distinct (names.filter keep) = (distinct names).filter keep := by
  induction names with
  | nil => rfl
  | cons first names ih =>
    cases hfirst : keep first with
    | true =>
      rw [List.filter_cons_of_pos hfirst, distinct, distinct, ih, List.filter_cons_of_pos hfirst,
        List.filter_comm]
    | false =>
      rw [List.filter_cons_of_neg (by simp [hfirst]), distinct,
        List.filter_cons_of_neg (by simp [hfirst]), ih, List.filter_filter]
      -- The first name is not kept anyway.
      refine List.filter_congr fun s _ => ?_
      by_cases hs : s = first
      · simp [hs, hfirst]
      · simp [hs]

namespace Subject

/-- These are the references of a subject, and of them those that the table does not know are left,
in their order, when it was filled in, which nothing stops; and filling it in once more changes
nothing. -/
structure LeftAfter (s : Subject) (table : Reference.Table) (names : List String) : Prop where
  listed : s.references = .ok names
  unstopped : (s.fill table).2 = none
  left : (s.fill table).1.references = .ok (names.filter fun r => (table.get? r).isNone)
  again : (s.fill table).1.fill table = ((s.fill table).1, none)

/-- **What is left after filling in is what the table does not know**, if every bracket in the
searched texts belongs to a reference and the phrases bring no brackets along. -/
theorem left_after_fill {s : Subject} (h : s.Searchable)
    (hbrackets : ∀ text ∈ s.searched, Reference.WellBracketed text.toList)
    {table : Reference.Table} (htable : table.Plain) : ∃ names, LeftAfter s table names := by
  have hfill := fill_eq_rewrite table h
  have hfilled := h.rewrite (Reference.fill table)
  have hnames : (s.searched.map (Reference.fill table)).flatMap Reference.names =
      (s.searched.flatMap Reference.names).filter fun r => (table.get? r).isNone := by
    rw [List.flatMap_map, List.filter_flatMap]
    exact List.flatMap_congr fun text htext => Reference.names_fill (hbrackets text htext) htable
  refine ⟨_, references_eq h, ?_, ?_, ?_⟩
  · rw [hfill]
  · rw [hfill, references_eq hfilled, searched_rewrite, hnames, distinct_filter]
  · rw [hfill, fill_eq_rewrite table hfilled]
    refine congrArg (·, none) (rewrite_eq_self fun text htext => ?_)
    rw [searched_rewrite] at htext
    obtain ⟨old, hold, rfl⟩ := List.mem_map.mp htext
    exact Reference.fill_fill (hbrackets old hold) htable

/-- References next to each other, one of them twice, in an object that lacks some of its texts. -/
def poster : Subject :=
  .loose (.record [("text", .text "[when][what][when] at [where]"), ("speak", .null),
    ("suggested_actions", .record [("actions", .list [.record [("display_text", .text "[where]!")],
      .record [("text", .text "[what]")]])])])

/-- One reference of three is filled in with a phrase and one with nothing, and one is left. -/
theorem left_after_fill_poster :
    poster.Searchable ∧ (∀ text ∈ poster.searched, Reference.WellBracketed text.toList) ∧
      Reference.Table.Plain [("when", "Tonight"), ("what", "")] ∧
      ∃ names, LeftAfter poster [("when", "Tonight"), ("what", "")] names := by
  have hnames : poster.references = .ok ["when", "what", "where"] := by
    decide +kernel
  have hsearchable : poster.Searchable := (Loose.references_eq_ok_iff.mp hnames).1
  have hproper : (poster.searched.all fun text =>
      (Reference.pieces text.toList).all fun p => decide p.IsProper) = true := by
    decide +kernel
  have hbrackets : ∀ text ∈ poster.searched, Reference.WellBracketed text.toList := by
    intro text htext
    refine Reference.wellBracketed_iff.mpr fun p hp => ?_
    exact of_decide_eq_true (List.all_eq_true.mp (List.all_eq_true.mp hproper text htext) p hp)
  have htable : Reference.Table.Plain [("when", "Tonight"), ("what", "")] := by
    have hall : ([("when", "Tonight"), ("what", "")].all fun e : String × String =>
        e.2.toList.all fun c => !Reference.isBracket c) = true := by
      decide +kernel
    intro r phrase hget c hc
    have hphrase := List.all_eq_true.mp hall (r, phrase) (Entries.mem_of_get? hget)
    simpa using List.all_eq_true.mp hphrase c hc
  exact ⟨hsearchable, hbrackets, htable, left_after_fill hsearchable hbrackets htable⟩

end Subject

end Phrasing
