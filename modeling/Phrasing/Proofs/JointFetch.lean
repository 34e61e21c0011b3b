import Phrasing.Proofs.Documents

/-! # Joint fetches

A joint fetch sends all its requests and joins what comes back once nothing is under way any more.
It comes to the same whichever of the flights finishes first (`fetchAll_any_order`), namely to what
fetching the phrases one after another comes to: all responses under the references that were asked
for, or the failure of the first request that has one.  It sends the same requests too, and it gives
the same notices, in the order in which the flights finish.
-/

namespace Phrasing.Client

variable {σ : Type} {service : Service σ} {l : Location} {token : String}
  {gs : List GenerationRequest}

/-! ## Launching gives no notice -/

section Notices

variable (service l token)

theorem launch_withNotices (purpose : Purpose) (request : Except Fault Request) (s : Session σ)
    (notices : List Notice) :
    launch service purpose request { s with notices := notices } =
      ((launch service purpose request s).1,
        { (launch service purpose request s).2 with notices := notices }) := by
  obtain ⟨state, isOpen, seen, old⟩ := s
  cases request with
  | error fault => rfl
  | ok request => cases isOpen <;> rfl

theorem launchAll_withNotices (gs : List GenerationRequest) (s : Session σ)
    (notices : List Notice) :
    launchAll service l token gs { s with notices := notices } =
      ((launchAll service l token gs s).1,
        { (launchAll service l token gs s).2 with notices := notices }) := by
  induction gs generalizing s with
  | nil => rfl
  | cons g rest ih =>
    have hfetch : launchFetch service l token g { s with notices := notices } =
        ((launchFetch service l token g s).1,
          { (launchFetch service l token g s).2 with notices := notices }) := by
      simp only [launchFetch, launchDocument, launch_withNotices]
    simp only [launchAll, hfetch, ih]

theorem notices_launchFetch (g : GenerationRequest) (s : Session σ) :
    (launchFetch service l token g s).2.notices = s.notices := by
  have hsame := launch_withNotices service .generation (generationRequest l g.payload (.text token))
    s s.notices
  exact congrArg (·.2.notices) hsame

end Notices

/-! ## One after another -/

/-- Fetches phrases one after another, waiting for each answer before the next request is sent. -/
def fetchEach (service : Service σ) (l : Location) (token : String) :
    List GenerationRequest → Session σ → List (Except Fault GenerationResponse) × Session σ
  | [], s => ([], s)
  | g :: rest, s =>
    let (result, s) := fetch service l token g s
    let (results, s) := fetchEach service l token rest s
    (result :: results, s)

theorem fst_fetchEach_cons (service : Service σ) (l : Location) (token : String)
    (g : GenerationRequest) (rest : List GenerationRequest) (s : Session σ) :
    (fetchEach service l token (g :: rest) s).1 =
      (fetch service l token g s).1 ::
        (fetchEach service l token rest (fetch service l token g s).2).1 :=
  rfl

/-- **Waiting in between makes no difference** to what the requests come to or to what is sent. -/
theorem fetchEach_eq (service : Service σ) (l : Location) (token : String)
    (gs : List GenerationRequest) (s : Session σ) :
    fetchEach service l token gs s =
      ((launchAll service l token gs s).1.map (·.result),
        { (launchAll service l token gs s).2 with
          notices := s.notices ++ (launchAll service l token gs s).1.flatMap (·.notices) }) := by
  induction gs generalizing s with
  | nil => simp [fetchEach, launchAll]
  | cons g rest ih =>
    simp only [fetchEach, fetch, land, ih, launchAll_withNotices, launchAll,
      notices_launchFetch, List.map_cons, List.flatMap_cons, List.append_assoc]

/-! ## Landing in any order -/

/-- What a joint fetch comes to when its flights have finished in an order. -/
def landAll (gs : List GenerationRequest) (finished : List (Flight GenerationResponse × Nat))
    (s : Session σ) : Except Fault (List (String × GenerationResponse)) × Session σ :=
  let (results, notices) := settle finished gs.length
  let (result, summary) := outcome gs results
  (result, { s with notices := s.notices ++ notices ++ summary })

/-- The delays of the answers decide in which order the flights of a joint fetch finish. -/
theorem fetchAll_eq_landAll (service : Service σ) (l : Location) (token : String)
    (gs : List GenerationRequest) (s : Session σ) :
    fetchAll service l token gs s =
      landAll gs (Join.completions (·.ticks) (launchAll service l token gs s).1)
        (launchAll service l token gs s).2 :=
  rfl

/-- Flights that have finished are joined in the order of the requests. -/
theorem fst_landAll {flights : List (Flight GenerationResponse)}
    {finished : List (Flight GenerationResponse × Nat)} (h : Join.Finishes flights finished)
    (hlength : flights.length = gs.length) (s : Session σ) :
    (landAll gs finished s).1 = joined gs (flights.map (·.result)) := by
  have hresults : (settle finished gs.length).1 = flights.map (·.result) := by
    rw [settle, ← hlength, Join.join_of_perm (Join.finishes_iff_perm.mp h)]
  show (outcome gs (settle finished gs.length).1).1 = _
  rw [hresults]
  unfold outcome joined
  cases Join.results (flights.map (·.result)) <;> rfl

/-- All flights have given their notices when a joint fetch is over. -/
theorem notices_landAll {flights : List (Flight GenerationResponse)}
    {finished : List (Flight GenerationResponse × Nat)} (h : Join.Finishes flights finished)
    (gs : List GenerationRequest) (s : Session σ) :
    ∃ told summary, (landAll gs finished s).2.notices = told ++ summary ∧
      told.Perm (s.notices ++ flights.flatMap (·.notices)) := by
  refine ⟨s.notices ++ finished.flatMap fun flight => flight.1.notices, _, rfl, ?_⟩
  have hflights : flights = flights.zipIdx.map Prod.fst := List.zipIdx_map_fst 0 flights |>.symm
  refine List.Perm.append_left s.notices ?_
  rw [hflights, List.flatMap_map]
  exact (Join.finishes_iff_perm.mp h).flatMap_right _

/-! ## What a joint fetch comes to -/

section Joined

variable {results : List (Except Fault GenerationResponse)}

/-- All responses under the references that were asked for. -/
theorem joined_eq_ok_iff (hlength : results.length = gs.length)
    {pairs : List (String × GenerationResponse)} :
    joined gs results = .ok pairs ↔
      pairs.map Prod.fst = gs.map (·.template) ∧ results = pairs.map fun pair => .ok pair.2 := by
  have hok : (fun pair : String × GenerationResponse => (.ok pair.2 : Except Fault _)) =
      Except.ok ∘ Prod.snd := rfl
  rw [joined, map_eq_ok, hok, ← List.map_map]
  constructor
  · rintro ⟨responses, hresponses, rfl⟩
    have hresults := Join.results_eq_ok_iff.mp hresponses
    have hsame : (gs.map (·.template)).length = responses.length := by
      rw [List.length_map, ← hlength, hresults, List.length_map]
    refine ⟨List.map_fst_zip (Nat.le_of_eq hsame), ?_⟩
    rw [List.map_snd_zip (Nat.le_of_eq hsame.symm)]
    exact hresults
  · rintro ⟨htemplates, hresults⟩
    refine ⟨pairs.map Prod.snd, Join.results_eq_ok_iff.mpr hresults, ?_⟩
    rw [← htemplates]
    exact List.zip_of_prod rfl rfl |>.symm

/-- The failure of the first request that has one. -/
theorem joined_eq_error_iff {fault : Fault} :
    joined gs results = .error fault ↔
      ∃ (responses : List GenerationResponse) (rest : _),
        results = responses.map .ok ++ .error fault :: rest := by
  rw [joined, map_eq_error, Join.results_eq_error_iff]

end Joined

/-- **A joint fetch does not depend on the order in which its flights finish.**  The delays of the
answers choose one of the orders.  In whichever order the flights finish, the fetch comes to the
responses that fetching one after another brings, under the references that were asked for and in
their order, and if one of these fails, to the failure of the first request that does.  By then
every request has been sent, and every flight has finished and given its notices. -/
theorem fetchAll_any_order (service : Service σ) (l : Location) (token : String)
    (gs : List GenerationRequest) (s : Session σ)
    {finished : List (Flight GenerationResponse × Nat)}
    (h : Join.Finishes (launchAll service l token gs s).1 finished) :
    (∃ order, Join.Finishes (launchAll service l token gs s).1 order ∧
        fetchAll service l token gs s = landAll gs order (launchAll service l token gs s).2) ∧
      (landAll gs finished (launchAll service l token gs s).2).1 =
        (fetchAll service l token gs s).1 ∧
      (∀ pairs, (fetchAll service l token gs s).1 = .ok pairs ↔
        pairs.map Prod.fst = gs.map (·.template) ∧
          (fetchEach service l token gs s).1 = pairs.map fun pair => .ok pair.2) ∧
      (∀ fault, (fetchAll service l token gs s).1 = .error fault ↔
        ∃ (responses : List GenerationResponse) (rest : _),
          (fetchEach service l token gs s).1 = responses.map .ok ++ .error fault :: rest) ∧
      (landAll gs finished (launchAll service l token gs s).2).2.seen =
        (fetchEach service l token gs s).2.seen ∧
      ∃ told summary,
        (landAll gs finished (launchAll service l token gs s).2).2.notices = told ++ summary ∧
          told.Perm (fetchEach service l token gs s).2.notices := by
  have hlength := length_launchAll service l token gs s
  have hcompletions : Join.Finishes (launchAll service l token gs s).1
      (Join.completions (·.ticks) (launchAll service l token gs s).1) :=
    Join.finishes_iff_perm.mpr (Join.completions_perm _ _)
  have hresult : (fetchAll service l token gs s).1 =
      joined gs (fetchEach service l token gs s).1 := by
    rw [fetchAll_eq_landAll, fst_landAll hcompletions hlength, fetchEach_eq]
  have hcount : (fetchEach service l token gs s).1.length = gs.length := by
    rw [fetchEach_eq, List.length_map, hlength]
  have hnotices : (launchAll service l token gs s).2.notices = s.notices :=
    congrArg (·.2.notices) (launchAll_withNotices service l token gs s s.notices)
  refine ⟨⟨_, hcompletions, fetchAll_eq_landAll service l token gs s⟩, ?_, ?_, ?_, ?_, ?_⟩
  · rw [fst_landAll h hlength, hresult, fetchEach_eq]
  · intro pairs
    rw [hresult, joined_eq_ok_iff hcount]
  · intro fault
    rw [hresult, joined_eq_error_iff]
  · rw [fetchEach_eq]
    rfl
  · rw [fetchEach_eq, ← hnotices]
    exact notices_landAll h gs _

/-- A service that fails every request, those for one template after a while and the others at
once. -/
def failing : Service Unit where
  answer _ request :=
    if request.template? = some "slow" then (⟨.failure ⟨"ReadTimeout", "too late"⟩, 5⟩, ())
    else (⟨.failure ⟨"ConnectError", "refused"⟩, 0⟩, ())

/-- The request for the phrase of one template. -/
def asking (template : String) : GenerationRequest :=
  ⟨.text "app", template, .null, []⟩

/-- The last request finishes first and the first one last, and the failure is that of the first. -/
theorem fetchAll_any_order_reversed :
    ∃ flights s, launchAll failing ⟨"https://lg.example.com", .null⟩ "token"
        [asking "slow", asking "fast", asking "slow"] (.start ()) = (flights, s) ∧
      Join.Finishes flights flights.zipIdx.reverse ∧
      (landAll [asking "slow", asking "fast", asking "slow"] flights.zipIdx.reverse s).1 =
        .error (.service "LG generation request failed: too late" none) := by
  have h : ∀ flights : List (Flight GenerationResponse),
      Join.Finishes flights flights.zipIdx.reverse :=
    fun _ => Join.finishes_iff_perm.mpr (List.reverse_perm _)
  have hslow : (fetch failing ⟨"https://lg.example.com", .null⟩ "token" (asking "slow")
      (.start ())).1.map (fun _ => ()) =
        .error (.service "LG generation request failed: too late" none) := by
    decide +kernel
  obtain ⟨_, hresult, _, hfailure, _⟩ := fetchAll_any_order failing
    ⟨"https://lg.example.com", .null⟩ "token" [asking "slow", asking "fast", asking "slow"]
    (.start ()) (h _)
  refine ⟨_, _, (Prod.eta _).symm, h _, hresult.trans ((hfailure _).mpr ?_)⟩
  rw [fst_fetchEach_cons, map_eq_error.mp hslow]
  exact ⟨[], _, rfl⟩

end Phrasing.Client
