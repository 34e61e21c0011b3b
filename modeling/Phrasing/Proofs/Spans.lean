import Mathlib.Tactic.MkIffOfInductiveProp
import Phrasing.Proofs.Reference

/-! # Where the references of a text stand

Whether a reference stands between two places of a text can be said without cutting it: there is an
opening bracket at the one place and a closing one at the other, and between them at least one
character and no bracket (`StandsAt`).  Two such stretches never overlap, so a cut from left to right,
which goes on behind each reference and one character further where there is none, cannot miss one
(`mem_places`).  The names of a text are therefore what stands between these places, from left to
right (`names_eq_between`).

Between the references a text is literal.  Filling it in keeps the literal texts, stray brackets
included, and puts something for each name, whatever the table (`exists_layout`).
-/

namespace Phrasing.Reference

/-! ## Stretches -/

/-- A reference stands between two places of a text: an opening bracket at the one, a closing one at
the other, and between them at least one character and no bracket. -/
@[mk_iff]
structure StandsAt (cs : List Char) (i j : Nat) : Prop where
  opened : cs[i]? = some '['
  closed : cs[j]? = some ']'
  named : i + 1 < j
  unbroken : ∀ k < j, i < k → cs[k]? ≠ some '[' ∧ cs[k]? ≠ some ']'

instance (cs : List Char) (i j : Nat) : Decidable (StandsAt cs i j) :=
  decidable_of_iff _ (standsAt_iff cs i j).symm

variable {cs : List Char} {i i' j j' : Nat}

/-- A reference ends before another begins that begins later. -/
theorem StandsAt.end_lt (h : StandsAt cs i j) (h' : StandsAt cs i' j') (hlt : i < i') : j < i' := by
  rcases Nat.lt_trichotomy j i' with hbefore | rfl | hafter
  · exact hbefore
  · cases h.closed.symm.trans h'.opened
  · exact absurd h'.opened (h.unbroken i' hafter hlt).1

/-- A reference ends where it ends. -/
theorem StandsAt.end_unique (h : StandsAt cs i j) (h' : StandsAt cs i j') : j = j' := by
  have hi := h.named
  have hi' := h'.named
  rcases Nat.lt_trichotomy j j' with hlt | heq | hlt
  · exact absurd h.closed (h'.unbroken j hlt (by omega)).2
  · exact heq
  · exact absurd h'.closed (h.unbroken j' hlt (by omega)).2

/-- **References that are not the same do not overlap.** -/
theorem StandsAt.apart (h : StandsAt cs i j) (h' : StandsAt cs i' j') (hne : (i, j) ≠ (i', j')) :
    j < i' ∨ j' < i := by
  rcases Nat.lt_trichotomy i i' with hlt | rfl | hlt
  · exact .inl (h.end_lt h' hlt)
  · exact absurd (congrArg (Prod.mk i) (h.end_unique h')) hne
  · exact .inr (h'.end_lt h hlt)

/-- What stands before a text moves its references. -/
theorem standsAt_append (front : List Char) :
    StandsAt (front ++ cs) (front.length + i) (front.length + j) ↔ StandsAt cs i j := by
  have hshift : ∀ k, (front ++ cs)[front.length + k]? = cs[k]? := by
    intro k
    rw [List.getElem?_append_right (Nat.le_add_right _ _), Nat.add_sub_cancel_left]
  rw [standsAt_iff, standsAt_iff, hshift, hshift]
  refine and_congr_right' (and_congr_right' (and_congr (by omega) ⟨fun h k hk hi => ?_,
    fun h k hk hi => ?_⟩))
  · rw [← hshift k]
    exact h _ (by omega) (by omega)
  · obtain ⟨k, rfl⟩ := Nat.exists_eq_add_of_le (show front.length ≤ k by omega)
    rw [hshift k]
    exact h k (by omega) (by omega)

/-- The places between which references stand, when the text itself begins at a given place. -/
def StandsFrom (start : Nat) (cs : List Char) (i j : Nat) : Prop :=
  ∃ i' j', StandsAt cs i' j' ∧ i = start + i' ∧ j = start + j'

theorem standsFrom_zero_iff : StandsFrom 0 cs i j ↔ StandsAt cs i j := by
  simp [StandsFrom]

/-- The references that begin behind a part of a text are those of what follows it. -/
theorem standsFrom_append_iff (front : List Char) {start : Nat} (hi : start + front.length ≤ i) :
    StandsFrom start (front ++ cs) i j ↔ StandsFrom (start + front.length) cs i j := by
  constructor
  · rintro ⟨i', j', h, rfl, rfl⟩
    have hj := h.named
    obtain ⟨i', rfl⟩ := Nat.exists_eq_add_of_le (show front.length ≤ i' by omega)
    obtain ⟨j', rfl⟩ := Nat.exists_eq_add_of_le (show front.length ≤ j' by omega)
    exact ⟨i', j', (standsAt_append front).mp h, by omega, by omega⟩
  · rintro ⟨i', j', h, rfl, rfl⟩
    exact ⟨_, _, (standsAt_append front).mpr h, by omega, by omega⟩

/-- A text begins with a reference exactly if one is cut off behind its first bracket. -/
theorem standsAt_zero_iff {c : Char} {rest : List Char} :
    StandsAt (c :: rest) 0 j ↔
      c = '[' ∧ ∃ name tail, cut? rest = some (name, tail) ∧ j = name.length + 1 := by
  constructor
  · intro h
    refine ⟨Option.some.inj h.opened, ?_⟩
    obtain ⟨n, rfl⟩ := Nat.exists_eq_add_of_le' (show 1 ≤ j from Nat.le_of_lt h.named)
    have hclosed : rest[n]? = some ']' := h.closed
    obtain ⟨hn, hget⟩ := List.getElem?_eq_some_iff.mp hclosed
    have hsplit : rest = rest.take n ++ ']' :: rest.drop (n + 1) := by
      rw [← hget, ← List.drop_eq_getElem_cons hn, List.take_append_drop]
    have hlength : (rest.take n).length = n := List.length_take_of_le (Nat.le_of_lt hn)
    refine ⟨rest.take n, rest.drop (n + 1), cut?_eq_some_iff.mpr ⟨hsplit, ?_, ?_⟩, by rw [hlength]⟩
    · intro hnil
      have hnamed := h.named
      rw [hnil, List.length_nil] at hlength
      omega
    · intro c hc
      obtain ⟨k, hk⟩ := List.mem_iff_getElem?.mp hc
      have hkn : k < n := by
        have := (List.getElem?_eq_some_iff.mp hk).1
        omega
      rw [List.getElem?_take_of_lt hkn] at hk
      obtain ⟨hopen, hclose⟩ := h.unbroken (k + 1) (by omega) (Nat.succ_pos k)
      rw [List.getElem?_cons_succ, hk] at hopen hclose
      simpa [isBracket] using And.intro hopen hclose
  · rintro ⟨rfl, name, tail, hcut, rfl⟩
    obtain ⟨rfl, hne, hplain⟩ := cut?_eq_some_iff.mp hcut
    have hpos := List.length_pos_iff.mpr hne
    refine ⟨rfl, ?_, by omega, fun k hk hpos => ?_⟩
    · rw [List.getElem?_cons_succ, List.getElem?_append_right (Nat.le_refl _), Nat.sub_self]
      rfl
    · obtain ⟨k, rfl⟩ := Nat.exists_eq_add_of_le' hpos
      rw [List.getElem?_cons_succ, List.getElem?_append_left (by omega)]
      have hbracket : ∀ c, isBracket c = true → name[k]? ≠ some c := by
        intro c hc hget
        rw [hplain c (List.mem_of_getElem? hget)] at hc
        cases hc
      exact ⟨hbracket '[' rfl, hbracket ']' rfl⟩

/-- What is cut off stands at the beginning. -/
theorem standsAt_of_cut? {rest name tail : List Char} (h : cut? rest = some (name, tail)) :
    StandsAt ('[' :: rest) 0 (name.length + 1) :=
  standsAt_zero_iff.mpr ⟨rfl, name, tail, h, rfl⟩

/-- Where nothing is cut off, no reference begins. -/
theorem not_standsAt_of_cut? {rest : List Char} (h : cut? rest = none) (j : Nat) :
    ¬ StandsAt ('[' :: rest) 0 j := by
  intro hat
  obtain ⟨_, name, tail, hcut, _⟩ := standsAt_zero_iff.mp hat
  cases h.symm.trans hcut

theorem not_standsAt_of_ne {c : Char} {rest : List Char} (h : c ≠ '[') (j : Nat) :
    ¬ StandsAt (c :: rest) 0 j :=
  fun hat => h (standsAt_zero_iff.mp hat).1

/-- Where no reference begins, the references are those of the rest. -/
theorem standsFrom_cons_iff {c : Char} {rest : List Char} {start : Nat}
    (h : ∀ j, ¬ StandsAt (c :: rest) 0 j) :
    StandsFrom start (c :: rest) i j ↔ StandsFrom (start + 1) rest i j := by
  rcases Nat.lt_or_ge start i with hi | hi
  · exact standsFrom_append_iff [c] hi
  · refine iff_of_false ?_ ?_
    · rintro ⟨i', j', hat, rfl, rfl⟩
      obtain rfl : i' = 0 := by omega
      exact h j' hat
    · rintro ⟨i', j', _, rfl, _⟩
      omega

/-- Where a reference is cut off, the references are this one and those of the rest. -/
theorem standsFrom_cut_iff {rest name tail : List Char} {start : Nat}
    (h : cut? rest = some (name, tail)) :
    StandsFrom start ('[' :: rest) i j ↔
      (i = start ∧ j = start + name.length + 1) ∨
        StandsFrom (start + name.length + 2) tail i j := by
  have hfirst := standsAt_of_cut? h
  have hlater (hi : start + name.length + 2 ≤ i) :
      StandsFrom start ('[' :: rest) i j ↔ StandsFrom (start + name.length + 2) tail i j := by
    have hrest : '[' :: rest = '[' :: (name ++ [']']) ++ tail := by
      rw [eq_of_cut? h]
      simp
    have hlength : start + ('[' :: (name ++ [']'])).length = start + name.length + 2 := by
      simp only [List.length_cons, List.length_append, List.length_nil]
      omega
    rw [hrest, standsFrom_append_iff _ (by omega), hlength]
  constructor
  · rintro ⟨i', j', hat, rfl, rfl⟩
    rcases Nat.eq_zero_or_pos i' with rfl | hi
    · rw [hat.end_unique hfirst]
      exact .inl ⟨rfl, rfl⟩
    · have hbeyond := hfirst.end_lt hat hi
      exact .inr ((hlater (by omega)).mp ⟨i', j', hat, rfl, rfl⟩)
  · rintro (⟨rfl, rfl⟩ | hat)
    · exact ⟨0, name.length + 1, hfirst, rfl, rfl⟩
    · obtain ⟨i', _, _, rfl, _⟩ := id hat
      exact (hlater (by omega)).mpr hat

/-! ## The places of pieces -/

/-- The places between which the references among pieces stand, when the first piece begins at a
given place. -/
def places (start : Nat) : List Piece → List (Nat × Nat)
  | [] => []
  | .char _ :: ps => places (start + 1) ps
  | .reference name :: ps =>
    (start, start + name.length + 1) :: places (start + name.length + 2) ps

/-- **Cutting a text finds every reference that stands in it**, and no other. -/
theorem mem_places (cs : List Char) (start : Nat) :
    (i, j) ∈ places start (pieces cs) ↔ StandsFrom start cs i j := by
  fun_induction pieces cs generalizing start with
  | case1 =>
    refine iff_of_false List.not_mem_nil ?_
    rintro ⟨i', j', h, _⟩
    cases h.opened
  | case2 rest name tail hcut ih =>
    rw [places, List.mem_cons, Prod.mk.injEq, ih, standsFrom_cut_iff hcut]
  | case3 rest hcut ih => rw [places, ih, standsFrom_cons_iff (not_standsAt_of_cut? hcut)]
  | case4 c rest hc ih => rw [places, ih, standsFrom_cons_iff (not_standsAt_of_ne hc)]

/-- The places come in order, each behind the end of the one before. -/
theorem pairwise_places (ps : List Piece) (start : Nat) :
    (∀ s ∈ places start ps, start ≤ s.1) ∧ (places start ps).Pairwise fun s t => s.2 < t.1 := by
  induction ps generalizing start with
  | nil => exact ⟨nofun, .nil⟩
  | cons p ps ih =>
    cases p with
    | char c =>
      obtain ⟨hfrom, hordered⟩ := ih (start + 1)
      exact ⟨fun s hs => Nat.le_of_succ_le (hfrom s hs), hordered⟩
    | reference name =>
      obtain ⟨hfrom, hordered⟩ := ih (start + name.length + 2)
      refine ⟨List.forall_mem_cons.mpr ⟨Nat.le_refl _, fun s hs => ?_⟩, .cons (fun s hs => ?_) hordered⟩
      · have := hfrom s hs
        omega
      · exact hfrom s hs

/-! ## All places -/

/-- All places of a text between which a reference stands, found by trying every pair of places. -/
def spans (cs : List Char) : List (Nat × Nat) :=
  (List.range cs.length).flatMap fun i =>
    ((List.range cs.length).filter fun j => StandsAt cs i j).map (Prod.mk i)

theorem mem_spans : (i, j) ∈ spans cs ↔ StandsAt cs i j := by
  simp only [spans, List.mem_flatMap, List.mem_map, List.mem_filter, List.mem_range,
    decide_eq_true_eq]
  constructor
  · rintro ⟨i', _, j', ⟨_, h⟩, heq⟩
    cases heq
    exact h
  · intro h
    have hi := (List.getElem?_eq_some_iff.mp h.opened).1
    have hj := (List.getElem?_eq_some_iff.mp h.closed).1
    exact ⟨i, hi, j, ⟨hj, h⟩, rfl⟩

/-- The places are tried from left to right. -/
theorem pairwise_spans (cs : List Char) : (spans cs).Pairwise fun s t => s.1 < t.1 := by
  refine List.pairwise_flatMap.mpr ⟨fun i _ => ?_, ?_⟩
  · -- No two references begin at the same place.
    refine List.pairwise_map.mpr ((List.nodup_range.filter _).imp_of_mem fun hj hj' hne => ?_)
    have hat := of_decide_eq_true (List.mem_filter.mp hj).2
    have hat' := of_decide_eq_true (List.mem_filter.mp hj').2
    exact absurd (hat.end_unique hat') hne
  · refine List.pairwise_lt_range.imp fun hlt s hs t ht => ?_
    obtain ⟨_, _, rfl⟩ := List.mem_map.mp hs
    obtain ⟨_, _, rfl⟩ := List.mem_map.mp ht
    exact hlt

theorem places_pieces (cs : List Char) : places 0 (pieces cs) = spans cs := by
  have hordered : (places 0 (pieces cs)).Pairwise fun s t => s.1 < t.1 := by
    refine (pairwise_places _ 0).2.imp_of_mem fun {s t} hs _ hlt => ?_
    have hat := standsFrom_zero_iff.mp ((mem_places cs 0).mp hs)
    exact Nat.lt_trans (Nat.lt_of_succ_lt hat.named) hlt
  have hnodup {l : List (Nat × Nat)} (h : l.Pairwise fun s t => s.1 < t.1) : l.Nodup := by
    refine h.imp ?_
    rintro s t hlt rfl
    exact Nat.lt_irrefl _ hlt
  refine List.Perm.eq_of_pairwise (fun s t _ _ hlt hlt' => absurd hlt' (Nat.lt_asymm hlt)) hordered
    (pairwise_spans cs) ?_
  refine (List.perm_ext_iff_of_nodup (hnodup hordered) (hnodup (pairwise_spans cs))).mpr fun s => ?_
  exact ((mem_places cs 0).trans standsFrom_zero_iff).trans mem_spans.symm

/-- The text between two places. -/
def between (cs : List Char) (place : Nat × Nat) : String :=
  String.ofList (cs.extract (place.1 + 1) place.2)

theorem between_reference (front name rest : List Char) :
    between (front ++ ((Piece.reference name).source ++ rest))
      (front.length, front.length + name.length + 1) = String.ofList name := by
  have hdrop : (front ++ ((Piece.reference name).source ++ rest)).drop (front.length + 1) =
      name ++ ']' :: rest := by
    rw [← List.drop_drop, List.drop_left]
    simp [Piece.source]
  rw [between, List.extract, hdrop, show front.length + name.length + 1 - (front.length + 1) =
    name.length by omega, List.take_left]

/-- The names among pieces are what stands between their places. -/
theorem filterMap_name?_eq (ps : List Piece) (front : List Char) :
    ps.filterMap Piece.name? =
      (places front.length ps).map (between (front ++ ps.flatMap Piece.source)) := by
  induction ps generalizing front with
  | nil => rfl
  | cons p ps ih =>
    have hrest := ih (front ++ p.source)
    rw [List.length_append, List.append_assoc, ← List.flatMap_cons] at hrest
    cases p with
    | char c => exact hrest
    | reference name =>
      have hlength : (Piece.reference name).source.length = name.length + 2 := by
        simp [Piece.source]
      rw [hlength, ← Nat.add_assoc] at hrest
      rw [places, List.map_cons, ← hrest, List.flatMap_cons, between_reference]
      rfl

theorem names_eq (text : String) :
    names text = (spans text.toList).map (between text.toList) := by
  rw [names, filterMap_name?_eq _ [], source_pieces]
  exact congrArg _ (places_pieces _)

/-- **The names of a text are what stands between the places of its references.**  The list goes
through all pairs of places between which a reference stands, from left to right and each once; and
no two of these references overlap. -/
theorem names_eq_between (text : String) :
    names text = (spans text.toList).map (between text.toList) ∧
      (∀ i j, (i, j) ∈ spans text.toList ↔ StandsAt text.toList i j) ∧
      ((spans text.toList).Pairwise fun s t => s.1 < t.1) ∧
      ∀ i j i' j', StandsAt text.toList i j → StandsAt text.toList i' j' → (i, j) ≠ (i', j') →
        j < i' ∨ j' < i :=
  ⟨names_eq text, fun _ _ => mem_spans, pairwise_spans _, fun _ _ _ _ => StandsAt.apart⟩

/-- Of brackets in brackets, the inner ones make up a reference. -/
example : spans "[a [b]] [] [c".toList = [(3, 5)] := by
  decide +kernel

/-! ## What stays and what is put in -/

/-- A text cut at its references: a literal text, a name, a literal text, and so on, with a literal
text at the end. -/
inductive Layout where
  | literal (text : String)
  | reference (before name : String) (rest : Layout)

/-- A name as it stands in a text. -/
def bracketed (name : String) : String :=
  "[" ++ name ++ "]"

namespace Layout

/-- The names, in order. -/
def names : Layout → List String
  | .literal _ => []
  | .reference _ name rest => name :: rest.names

/-- The literal texts with something put in the place of each name. -/
def assemble (put : String → String) : Layout → String
  | .literal text => text
  | .reference before name rest => before ++ put name ++ rest.assemble put

/-- The places of the brackets around the names, when the first literal text begins at a given
place. -/
def places (start : Nat) : Layout → List (Nat × Nat)
  | .literal _ => []
  | .reference before name rest =>
    (start + before.length, start + before.length + name.length + 1) ::
      rest.places (start + before.length + name.length + 2)

/-- A layout with a character put before the first literal text. -/
def prepend (c : Char) : Layout → Layout
  | .literal text => .literal (String.singleton c ++ text)
  | .reference before name rest => .reference (String.singleton c ++ before) name rest

theorem names_prepend (c : Char) (l : Layout) : (l.prepend c).names = l.names := by
  cases l <;> rfl

theorem assemble_prepend (put : String → String) (c : Char) (l : Layout) :
    (l.prepend c).assemble put = String.singleton c ++ l.assemble put := by
  cases l with
  | literal text => rfl
  | reference before name rest => simp only [prepend, assemble, String.append_assoc]

theorem places_prepend (start : Nat) (c : Char) (l : Layout) :
    (l.prepend c).places start = l.places (start + 1) := by
  cases l with
  | literal text => rfl
  | reference before name rest =>
    simp only [prepend, places, String.length_append, String.length_singleton, Nat.add_assoc]

/-- The layout of pieces: neighbouring characters make up a literal text. -/
def ofPieces : List Piece → Layout
  | [] => .literal ""
  | .char c :: ps => (ofPieces ps).prepend c
  | .reference name :: ps => .reference "" (String.ofList name) (ofPieces ps)

theorem names_ofPieces (ps : List Piece) : (ofPieces ps).names = ps.filterMap Piece.name? := by
  induction ps with
  | nil => rfl
  | cons p ps ih =>
    cases p with
    | char c => exact (names_prepend c _).trans ih
    | reference name => exact congrArg (String.ofList name :: ·) ih

theorem places_ofPieces (ps : List Piece) (start : Nat) :
    (ofPieces ps).places start = Reference.places start ps := by
  induction ps generalizing start with
  | nil => rfl
  | cons p ps ih =>
    cases p with
    | char c => exact (places_prepend start c _).trans (ih (start + 1))
    | reference name =>
      simp only [ofPieces, places, Reference.places, ih, String.length_ofList, String.length_empty,
        Nat.add_zero]

/-- If a character stands for itself and something is put for each name, the pieces make up the
layout with this put in. -/
theorem assemble_ofPieces {put : String → String} {write : Piece → List Char}
    (hchar : ∀ c, write (.char c) = [c])
    (hname : ∀ name, write (.reference name) = (put (String.ofList name)).toList)
    (ps : List Piece) : (ofPieces ps).assemble put = String.ofList (ps.flatMap write) := by
  induction ps with
  | nil => rfl
  | cons p ps ih =>
    rw [List.flatMap_cons, String.ofList_append, ← ih]
    cases p with
    | char c =>
      rw [hchar]
      exact assemble_prepend put c _
    | reference name =>
      rw [hname, String.ofList_toList]
      simp only [ofPieces, assemble, String.empty_append]

end Layout

/-- A layout is that of a text: with the names in brackets it makes up the text, its names are those
that are listed, in the places where references stand; and whatever the table, filling in keeps the
literal texts and puts for each name the phrase that the table has for it, as it is, or the name in
brackets if it has none. -/
structure LaysOut (l : Layout) (text : String) : Prop where
  written : l.assemble bracketed = text
  listed : l.names = names text
  placed : l.places 0 = spans text.toList
  filled : ∀ table : Table, fill table text = l.assemble fun r => (table.get? r).getD (bracketed r)

/-- **A text has one layout for all tables**, and with nothing to fill in it stays as it is. -/
theorem exists_layout (text : String) :
    (∃ l, LaysOut l text) ∧ ∀ table : Table, text = "" ∨ table = [] → fill table text = text := by
  have hbracketed : ∀ name,
      (Piece.reference name).source = (bracketed (String.ofList name)).toList := by
    intro name
    simp [Piece.source, bracketed]
  refine ⟨⟨.ofPieces (pieces text.toList), ?_⟩, ?_⟩
  · constructor
    case written =>
      refine (Layout.assemble_ofPieces (fun _ => rfl) hbracketed _).trans ?_
      rw [source_pieces, String.ofList_toList]
    case listed => exact Layout.names_ofPieces _
    case placed => rw [Layout.places_ofPieces, places_pieces]
    case filled =>
      intro table
      refine (Layout.assemble_ofPieces (fun _ => rfl) (fun name => ?_) _).symm
      rw [fillPiece, hbracketed]
      cases table.get? (String.ofList name) <;> rfl
  · rintro table (rfl | rfl)
    · exact fill_eq_self fun r hr => by simp at hr
    · exact fill_nil text

/-- What is put in is not looked at again. -/
example : fill [("a", "[b]"), ("b", "")] "[a][b]]" = "[b]]" := by
  decide +kernel

end Phrasing.Reference
