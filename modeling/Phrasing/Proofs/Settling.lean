import Phrasing.Proofs.Chronicle
import Phrasing.Proofs.Trace

/-! # Repeated calls settle

A phrase takes the place of a reference together with its brackets, so it may complete a reference
that stood around it, and one call need not be enough.  But as long as phrases bring no opening
bracket along, every reference that is filled in costs its text one (`openings_fill`).  So after as
many calls as any text has opening brackets there is nothing left to resolve, and the calls from
then on are without effect (`resolve_settles`).
-/

namespace Phrasing

namespace Reference

/-! ## Opening brackets -/

/-- How many opening brackets a text has. -/
def openings (text : String) : Nat :=
  text.toList.count '['

/-- If every reference is put at the cost of one opening bracket, so many fewer are left as there
were references. -/
theorem count_flatMap_add (put : Piece → List Char) (ps : List Piece)
    (h : ∀ p ∈ ps, (put p).count '[' + p.name?.toList.length = p.source.count '[') :
    (ps.flatMap put).count '[' + (ps.filterMap Piece.name?).length =
      (ps.flatMap Piece.source).count '[' := by
  induction ps with
  | nil => rfl
  | cons p ps ih =>
    obtain ⟨hp, hps⟩ := List.forall_mem_cons.mp h
    have hrest := ih hps
    rw [List.flatMap_cons, List.flatMap_cons, List.count_append, List.count_append, ← hp, ← hrest]
    cases hname : p.name? with
    | none =>
      rw [List.filterMap_cons_none hname, Option.toList_none, List.length_nil]
      omega
    | some name =>
      rw [List.filterMap_cons_some hname, Option.toList_some, List.length_cons, List.length_cons,
        List.length_nil]
      omega

/-- A reference has one opening bracket, the one before its name. -/
theorem count_source_reference {text : String} {name : List Char}
    (h : Piece.reference name ∈ pieces text.toList) :
    (Piece.reference name).source.count '[' = 1 := by
  have hname : '[' ∉ name := by
    intro hmem
    have := not_isBracket_of_mem_pieces h '[' hmem
    cases this
  simp [Piece.source, List.count_eq_zero_of_not_mem hname]

theorem openings_eq (text : String) :
    openings text = ((pieces text.toList).flatMap Piece.source).count '[' := by
  rw [source_pieces, openings]

/-- **Every reference that is filled in costs an opening bracket**, if no phrase brings one along. -/
theorem openings_fill (table : Table) (text : String)
    (h : ∀ r ∈ names text, ∃ phrase, table.get? r = some phrase ∧ '[' ∉ phrase.toList) :
    openings (fill table text) + (names text).length = openings text := by
  rw [openings_eq text, openings, fill, String.toList_ofList]
  refine count_flatMap_add _ _ fun p hp => ?_
  cases p with
  | char c => rfl
  | reference name =>
    obtain ⟨phrase, hget, hphrase⟩ := h _ (mem_names hp)
    rw [count_source_reference hp, fillPiece, hget, List.count_eq_zero_of_not_mem hphrase]
    rfl

/-- A text has an opening bracket for each of its references. -/
theorem length_names_le_openings (text : String) : (names text).length ≤ openings text := by
  have hcount := count_flatMap_add (fun p => if p.name?.isSome then [] else p.source)
    (pieces text.toList) fun p hp => by
      cases p with
      | char c => rfl
      | reference name => exact (count_source_reference hp).symm
  rw [openings_eq]
  exact Nat.le.intro ((Nat.add_comm _ _).trans hcount)

end Reference

/-- The most opening brackets that a searched text of an activity has. -/
def Activity.openings (a : Activity) : Nat :=
  (a.searched.map Reference.openings).max?.getD 0

theorem Activity.openings_le {a : Activity} {text : String} (h : text ∈ a.searched) :
    Reference.openings text ≤ a.openings :=
  List.le_max?_getD_of_mem (List.mem_map_of_mem h)

/-- An activity without references has none in any text. -/
theorem Activity.references_eq_nil_iff {a : Activity} :
    a.references = [] ↔ ∀ text ∈ a.searched, Reference.names text = [] := by
  simp only [List.eq_nil_iff_forall_not_mem (l := a.references), mem_references, not_exists, not_and,
    List.eq_nil_iff_forall_not_mem (l := Reference.names _)]
  exact ⟨fun h text htext name => h name text htext, fun h name text htext => h text htext name⟩

/-- One activity comes from another by lowering the number of opening brackets in every text with a
reference, and by nothing else. -/
def Activity.Lowers (a b : Activity) : Prop :=
  ∃ f, b = a.rewrite f ∧ ∀ text ∈ a.searched,
    if Reference.names text = [] then f text = text
    else Reference.openings (f text) < Reference.openings text

/-- Filling in lowers, if every reference has a phrase without an opening bracket. -/
theorem Activity.lowers_fill {a : Activity} {table : Reference.Table}
    (h : ∀ r ∈ a.references, ∃ phrase, table.get? r = some phrase ∧ '[' ∉ phrase.toList) :
    a.Lowers (a.fill table) := by
  refine ⟨Reference.fill table, fill_eq_rewrite table a, fun text htext => ?_⟩
  have hcost := Reference.openings_fill table text fun r hr =>
    h r (mem_references.mpr ⟨text, htext, hr⟩)
  split
  · rename_i hnone
    refine Reference.fill_eq_self fun r hr => ?_
    rw [hnone] at hr
    cases hr
  · rename_i hsome
    have hpos := List.length_pos_iff.mpr hsome
    omega

/-- The texts of an activity are within a budget that is spent: those with a reference left have few
opening brackets left. -/
def Activity.Within (budget spent : Nat) (a : Activity) : Prop :=
  ∀ text ∈ a.searched, Reference.names text = [] ∨ Reference.openings text + spent ≤ budget

theorem Activity.within_openings (a : Activity) : a.Within a.openings 0 :=
  fun _ htext => .inr (openings_le htext)

/-- What is lowered has spent one more. -/
theorem Activity.Lowers.within {a b : Activity} (h : a.Lowers b) {budget spent : Nat}
    (ha : a.Within budget spent) : b.Within budget (spent + 1) := by
  obtain ⟨f, rfl, hf⟩ := h
  intro text htext
  rw [searched_rewrite] at htext
  obtain ⟨old, hold, rfl⟩ := List.mem_map.mp htext
  have hlowered := hf old hold
  split at hlowered
  · rename_i hnone
    rw [hlowered]
    exact .inl hnone
  · rename_i hsome
    rcases ha old hold with hnone | hbudget
    · exact absurd hnone hsome
    · right
      omega

/-- Once the budget is spent, there are no references left. -/
theorem Activity.Within.references_eq_nil {a : Activity} {budget spent : Nat}
    (h : a.Within budget spent) (hspent : budget ≤ spent) : a.references = [] := by
  refine references_eq_nil_iff.mpr fun text htext => ?_
  rcases h text htext with hnone | hbudget
  · exact hnone
  · have hlength := Reference.length_names_le_openings text
    exact List.length_eq_zero_iff.mp (by omega)

namespace Resolver

variable {σ : Type}

/-! ## Calls one after another -/

/-- An occasion on which a call is made: by which resolver, under which id, with which entities. -/
structure Occasion where
  resolver : Resolver
  callId : String
  entities : Value

namespace Occasion

/-- What the call leaves behind if things stand so. -/
def outcome (service : Service σ) (o : Occasion) (now : Activity × Session σ) : Outcome σ :=
  resolve service o.resolver o.callId (some (.activity now.1)) o.entities now.2

/-- How things stand after the call. -/
def next (service : Service σ) (o : Occasion) (now : Activity × Session σ) : Activity × Session σ :=
  match (o.outcome service now).subject with
  | some (.activity b) => (b, (o.outcome service now).session)
  | _ => (now.1, (o.outcome service now).session)

/-- The call is not stopped by its journal, and the service answers all references, each with a text that brings no
opening bracket along. -/
structure Answered (service : Service σ) (o : Occasion) (now : Activity × Session σ) : Prop where
  goes : ∀ m, ¬ o.resolver.StopsAtJournal o.callId o.entities (some now.1) m
  delivered : ∃ responses, Delivered service o.resolver o.entities now.2 now.1 responses ∧
    ∀ response ∈ responses, response.isResolved = true ∧
      ∀ phrase, response.displayText = some phrase → '[' ∉ phrase.toList

variable {service : Service σ} {o : Occasion} {now : Activity × Session σ}

theorem next_of_subject {b : Activity} (h : (o.outcome service now).subject = some (.activity b)) :
    o.next service now = (b, (o.outcome service now).session) := by
  simp only [next, h]

/-- **A call that finds nothing to resolve** leaves the activity as it is and sends nothing, however
it ends. -/
theorem outcome_of_nothing (h : now.1.references = []) :
    (o.outcome service now).subject = some (.activity now.1) ∧
      now.2.Sends service [] (o.outcome service now).session := by
  unfold outcome
  cases hchecked : checkArguments (some (.activity now.1)) o.entities with
  | error fault =>
    rw [resolve_unchecked hchecked]
    exact ⟨rfl, Session.Sends.refl now.2⟩
  | ok s =>
    cases subject_of_checkArguments hchecked
    cases hjournal : o.resolver.startJournal o.callId with
    | error m =>
      rw [resolve_unrecorded hchecked hjournal]
      exact ⟨rfl, Session.Sends.refl now.2⟩
    | ok journal =>
      obtain ⟨result, call, hcourse, hresolve⟩ := resolve_course service now.2 hchecked hjournal
      rw [hresolve]
      cases hcourse with
      | unbegun | unencodable | unsearchable | unlisted | nothing =>
        exact ⟨rfl, sends_closing (Session.Sends.refl now.2) o.callId _⟩
      | noToken hlists hne =>
        -- This and the others come to references, and there are none.
        exact absurd ((Except.ok.inj hlists.finds).symm.trans h) hne
      | noResponses hfetches | incomplete hfetches | stopped hfetches | filled hfetches =>
        exact absurd ((Except.ok.inj hfetches.finds).symm.trans h) hfetches.referring

/-- Responses that are all resolved leave no reference without a phrase. -/
theorem missingFrom_of_resolved {a : Activity} {responses : List GenerationResponse}
    (hlength : a.references.length = responses.length)
    (h : ∀ response ∈ responses, response.isResolved = true) :
    missingFrom (tableOf (a.references.zip responses)).1 a.references = [] := by
  have hfst : (a.references.zip responses).map Prod.fst = a.references :=
    List.map_fst_zip (Nat.le_of_eq hlength)
  have hdistinct : ((a.references.zip responses).map Prod.fst).Nodup := by
    rw [hfst]
    exact Activity.nodup_references a
  have hmissing := missingFrom_tableOf hdistinct
  rw [hfst] at hmissing
  rw [hmissing, List.map_eq_nil_iff, List.filter_eq_nil_iff]
  intro pair hpair
  rw [h pair.2 (List.of_mem_zip hpair).2]
  exact Bool.false_ne_true

/-- What a table holds for a reference is the text of one of the responses. -/
theorem exists_phrase {a : Activity} {responses : List GenerationResponse}
    (hlength : a.references.length = responses.length)
    (hmissing : missingFrom (tableOf (a.references.zip responses)).1 a.references = [])
    {r : String} (hr : r ∈ a.references) :
    ∃ phrase, (tableOf (a.references.zip responses)).1.get? r = some phrase ∧
      ∃ response ∈ responses, response.displayText = some phrase := by
  have hfst : (a.references.zip responses).map Prod.fst = a.references :=
    List.map_fst_zip (Nat.le_of_eq hlength)
  have hknown := List.filter_eq_nil_iff.mp hmissing r hr
  rw [Option.isNone_iff_eq_none, ← ne_eq, Option.ne_none_iff_exists'] at hknown
  obtain ⟨phrase, hget⟩ := hknown
  obtain ⟨response, hmem, _, htext⟩ := (get?_tableOf_eq_some
    (by rw [hfst]; exact Activity.nodup_references a)).mp hget
  exact ⟨phrase, hget, response, (List.of_mem_zip hmem).2, htext⟩

/-- **A call that is answered** returns, and fills in the activity from phrases without opening
brackets. -/
theorem outcome_of_answered (h : o.Answered service now) :
    (o.outcome service now).result = .ok () ∧
      ∃ b, (o.outcome service now).subject = some (.activity b) ∧ now.1.Lowers b := by
  obtain ⟨hgoes, responses, hdelivered, hresponses⟩ := h
  obtain ⟨_, _, _, hfetching, _⟩ := hdelivered.arrived
  obtain ⟨entries, hgives, _⟩ := hfetching.encoded
  obtain ⟨slots', token', s', t', hslots', hsome, htoken', hfetch'⟩ := hdelivered.fetchAll_eq
  have hcomplete := missingFrom_of_resolved hdelivered.length_eq fun response hr =>
    (hresponses response hr).1
  have hlowers := Activity.lowers_fill fun r hr => by
    obtain ⟨phrase, hget, response, hmem, htext⟩ :=
      exists_phrase hdelivered.length_eq hcomplete hr
    exact ⟨phrase, hget, (hresponses response hmem).2 phrase htext⟩
  obtain ⟨journal, hjournal⟩ : ∃ journal, o.resolver.startJournal o.callId = .ok journal := by
    cases hjournal : o.resolver.startJournal o.callId with
    | error m => exact absurd (.unstarted ⟨entries, hgives⟩ hjournal) (hgoes m)
    | ok journal => exact ⟨journal, rfl⟩
  obtain ⟨hstart, hlist⟩ := checks_of_not_stops now.2 hjournal ⟨entries, hgives⟩ hgoes
  obtain ⟨result, call, hcourse, hresolve⟩ := resolve_course service now.2
    (checkArguments_of_gives hgives (.activity now.1)) hjournal
  rw [outcome, hresolve]
  -- The token and the fetches succeed, so only the last course is left.
  cases hcourse with
  | unbegun hlost => cases hstart.symm.trans hlost
  | unencodable _ hslots => cases hslots.symm.trans hslots'
  | unsearchable _ _ hnames => cases hnames
  | unlisted h hlost =>
    obtain rfl := Except.ok.inj h.finds
    cases (hlist _ h.encodes).symm.trans hlost
  | nothing h => exact absurd (Except.ok.inj h.finds) hsome
  | noToken h hne htoken => cases htoken.symm.trans htoken'
  | noResponses h hfetch =>
    obtain rfl := Except.ok.inj h.finds
    cases h.encodes.symm.trans hslots'
    cases h.issues.symm.trans htoken'
    cases hfetch.symm.trans hfetch'
  | incomplete h hmissing =>
    obtain rfl := Except.ok.inj h.finds
    cases h.encodes.symm.trans hslots'
    cases h.issues.symm.trans htoken'
    cases h.responds.symm.trans hfetch'
    exact absurd hcomplete hmissing
  | stopped _ _ hfill => cases hfill
  | filled h hmissing =>
    obtain rfl := Except.ok.inj h.finds
    cases h.encodes.symm.trans hslots'
    cases h.issues.symm.trans htoken'
    cases h.responds.symm.trans hfetch'
    exact ⟨rfl, _, rfl, hlowers⟩

end Occasion

/-- How things stand after so many calls, one after another. -/
def after (service : Service σ) (occasions : Nat → Occasion) (now : Activity × Session σ) :
    Nat → Activity × Session σ
  | 0 => now
  | k + 1 => (occasions k).next service (after service occasions now k)

/-- Calls that are made one after another settle: once there have been as many as the activity had
opening brackets in any text, there are no references.  A call on an activity without references
leaves it as it is and sends nothing.  Any other call returns and lowers the number of opening
brackets in every text with a reference, and changes nothing else. -/
structure Settles (service : Service σ) (occasions : Nat → Occasion) (now : Activity × Session σ) :
    Prop where
  settled : ∀ k, now.1.openings ≤ k → (after service occasions now k).1.references = []
  quiet : ∀ k, (after service occasions now k).1.references = [] →
    ((occasions k).outcome service (after service occasions now k)).subject =
        some (.activity (after service occasions now k).1) ∧
      (after service occasions now (k + 1)).1 = (after service occasions now k).1 ∧
      (after service occasions now k).2.Sends service [] (after service occasions now (k + 1)).2
  lowered : ∀ k, (after service occasions now k).1.references ≠ [] →
    ((occasions k).outcome service (after service occasions now k)).result = .ok () ∧
      ((occasions k).outcome service (after service occasions now k)).subject =
        some (.activity (after service occasions now (k + 1)).1) ∧
      (after service occasions now k).1.Lowers (after service occasions now (k + 1)).1

section Settling

variable {service : Service σ} {occasions : Nat → Occasion} {now : Activity × Session σ} {k : Nat}

theorem after_of_nothing (h : (after service occasions now k).1.references = []) :
    after service occasions now (k + 1) = ((after service occasions now k).1,
      ((occasions k).outcome service (after service occasions now k)).session) :=
  Occasion.next_of_subject (Occasion.outcome_of_nothing h).1

/-- Every call spends of the budget, or has nothing left to spend it on. -/
theorem within_after
    (h : ∀ k, (after service occasions now k).1.references ≠ [] →
      (occasions k).Answered service (after service occasions now k)) (k : Nat) :
    (after service occasions now k).1.Within now.1.openings k := by
  induction k with
  | zero => exact Activity.within_openings now.1
  | succ k ih =>
    by_cases hnone : (after service occasions now k).1.references = []
    · rw [after_of_nothing hnone]
      exact fun text htext => .inl (Activity.references_eq_nil_iff.mp hnone text htext)
    · obtain ⟨_, b, hsubject, hlowers⟩ := Occasion.outcome_of_answered (h k hnone)
      rw [after, Occasion.next_of_subject hsubject]
      exact hlowers.within ih

/-- **Repeated calls settle**, if as long as there are references the service answers them all with
texts that bring no opening bracket along. -/
theorem resolve_settles
    (h : ∀ k, (after service occasions now k).1.references ≠ [] →
      (occasions k).Answered service (after service occasions now k)) :
    Settles service occasions now where
  settled k hk := (within_after h k).references_eq_nil hk
  quiet k hnone := by
    obtain ⟨hsubject, hsends⟩ := Occasion.outcome_of_nothing (o := occasions k) hnone
    rw [after_of_nothing hnone]
    exact ⟨hsubject, rfl, hsends⟩
  lowered k hsome := by
    obtain ⟨hreturns, b, hsubject, hlowers⟩ := Occasion.outcome_of_answered (h k hsome)
    rw [after, Occasion.next_of_subject hsubject]
    exact ⟨hreturns, hsubject, hlowers⟩

end Settling

/-- Results that are all responses with a property are the results of such responses. -/
theorem exists_responses {P : GenerationResponse → Prop}
    {results : List (Except Fault GenerationResponse)}
    (h : ∀ x ∈ results, ∃ response, x = .ok response ∧ P response) :
    ∃ responses : List GenerationResponse,
      results = responses.map .ok ∧ ∀ response ∈ responses, P response := by
  induction results with
  | nil => exact ⟨[], rfl, fun _ hr => nomatch hr⟩
  | cons x results ih =>
    obtain ⟨⟨response, rfl, hresponse⟩, hrest⟩ := List.forall_mem_cons.mp h
    obtain ⟨responses, rfl, hresponses⟩ := ih hrest
    exact ⟨response :: responses, rfl, List.forall_mem_cons.mpr ⟨hresponse, hresponses⟩⟩

/-- An activity with a reference around another. -/
def nested : Activity :=
  ⟨"message", some "[tell [whom]]", none, none, none, []⟩

/-- The same call again and again. -/
def visits : Nat → Occasion :=
  fun _ => ⟨lobby, "call", .null⟩

/-- Each call on an activity with references is answered as long as every fetch shows the greeting. -/
theorem answered_visit {k : Nat} {now : Activity × Session Unit} (hopen : now.2.isOpen = true)
    (hsome : now.1.references ≠ [])
    (hshown : ∀ x ∈ fetchesOf greeter lobby now.1 [] (.token tokenPlace "key") "guest" (),
      x.map (fun response => (response.isResolved, response.displayText)) =
        .ok (true, some "Hello")) :
    (visits k).Answered greeter now := by
  have hwell : (lobbyAt "https://lg.example.com").endpoint.WellFormed "key" "app"
      ⟨"https".toList, [], "lg.example.com".toList, none, [], none, none⟩ tokenPlace :=
    lobbyAt_wellFormed ⟨by decide +kernel, by decide +kernel, by decide +kernel⟩ (by decide)
  have hasked : Client.tokenRequest lobby.endpoint.location lobby.endpoint.key =
      .ok (.token tokenPlace "key") := hwell.tokenRequest_eq
  have hissued : Client.tokenResult (.token tokenPlace "key")
      (greeter.answer () (.token tokenPlace "key")).1.answer = .ok "guest" := by
    decide +kernel
  obtain ⟨responses, hfetches, hresponses⟩ := exists_responses
      (P := fun response : GenerationResponse =>
        response.isResolved = true ∧ response.displayText = some "Hello") fun x hx => by
    obtain ⟨response, hresponse, hfields⟩ := map_eq_ok.mp (hshown x hx)
    exact ⟨response, hresponse, congrArg Prod.fst hfields, congrArg Prod.snd hfields⟩
  refine ⟨not_stopsAtJournal_of_none rfl _, responses,
    ⟨hopen, [], _, _, ⟨⟨[], .nothing, rfl⟩, hsome, hasked, hissued⟩, hfetches⟩, fun response hr => ⟨(hresponses response hr).1, fun phrase hphrase => ?_⟩⟩
  cases hphrase.symm.trans (hresponses response hr).2
  decide

/-- A reference around another takes two calls. -/
theorem resolve_settles_nested :
    (∀ k, (after greeter visits (nested, .start ()) k).1.references ≠ [] →
      (visits k).Answered greeter (after greeter visits (nested, .start ()) k)) ∧
    Settles greeter visits (nested, .start ()) := by
  -- From the third call on there is nothing left.
  have hdone : ∀ k, (after greeter visits (nested, .start ()) (k + 2)).1.references = [] := by
    intro k
    induction k with
    | zero => decide +kernel
    | succ k ih =>
      rw [after_of_nothing ih]
      exact ih
  have h : ∀ k, (after greeter visits (nested, .start ()) k).1.references ≠ [] →
      (visits k).Answered greeter (after greeter visits (nested, .start ()) k) := by
    intro k hsome
    match k with
    | 0 => exact answered_visit rfl hsome (by decide +kernel)
    | 1 => exact answered_visit (by decide +kernel) hsome (by decide +kernel)
    | k + 2 => exact absurd (hdone k) hsome
  exact ⟨h, resolve_settles h⟩

end Resolver

end Phrasing
