import Phrasing.Gateway.Routes
import Phrasing.Proofs.Except

/-! # Settings that cannot be used

Settings that cannot be used are meant to be reported as such, which the gateway survives: it starts
without a resolver.  `Draft.Settled` says for which settings that is so, or which can be used:
either one that the endpoint needs is blank, or nothing stands in the way of any of them.  Every
other draft ends in some mishap, and so does a file that is there but is no text, or of which the
YAML reader makes neither a document nor a complaint (`FileSettled`).  `atStart_reported_iff` proves
that these conditions are exact.
-/

namespace Phrasing

open Text

/-! ## Blank values -/

namespace Endpoint

/-- A value that gives nothing, or a text of blanks. -/
def GivesNothing (v : Value) : Prop :=
  v.isVacant = true ∨ v.isWritable = true ∧ isBlankText v.display = true

/-- A value that gives something other than a text of blanks. -/
structure GivesText (v : Value) : Prop where
  not_vacant : v.isVacant = false
  writable : v.isWritable = true
  not_blank : isBlankText v.display = false

theorem isBlank_eq_true_iff {v : Value} : isBlank v = .ok true ↔ GivesNothing v := by
  unfold isBlank GivesNothing
  cases v.isVacant <;> cases v.isWritable <;> simp

theorem isBlank_eq_false_iff {v : Value} : isBlank v = .ok false ↔ GivesText v := by
  constructor
  · intro h
    unfold isBlank at h
    split at h
    · cases h
    · rename_i hvacant
      split at h
      · rename_i hwritable
        exact ⟨Bool.eq_false_iff.mpr hvacant, hwritable, Except.ok.inj h⟩
      · cases h
  · rintro ⟨hvacant, hwritable, hblank⟩
    simp [isBlank, hvacant, hwritable, hblank]

/-- A text is blank or it is not. -/
theorem givesNothing_or_givesText (s : String) : GivesNothing (.text s) ∨ GivesText (.text s) := by
  cases hblank : isBlank (.text s) with
  | error m =>
    -- Only integers can be too long to be written.
    have hwritable : (Value.text s).isWritable = true := by rw [Value.isWritable]; rfl
    unfold isBlank at hblank
    rw [if_pos hwritable] at hblank
    split at hblank <;> cases hblank
  | ok blank =>
    cases blank with
    | true => exact .inl (isBlank_eq_true_iff.mp hblank)
    | false => exact .inr (isBlank_eq_false_iff.mp hblank)

theorem givesNothing_text_iff {s : String} :
    GivesNothing (.text s) ↔ isBlankText s = true := by
  have hwritable : (Value.text s).isWritable = true := by rw [Value.isWritable]; rfl
  unfold GivesNothing
  constructor
  · rintro (hvacant | ⟨_, hblank⟩)
    · -- The empty text has no character that is not blank.
      have hempty : s = "" := String.isEmpty_iff.mp hvacant
      rw [hempty]
      rfl
    · exact hblank
  · exact fun hblank => .inr ⟨hwritable, hblank⟩

theorem GivesText.not_givesNothing {v : Value} (h : GivesText v) : ¬ GivesNothing v := by
  rintro (hvacant | ⟨_, hblank⟩)
  · rw [h.not_vacant] at hvacant
    cases hvacant
  · rw [h.not_blank] at hblank
    cases hblank

/-- Among texts there is a first blank one, or none is blank. -/
theorem blank_or_given {values : List (String × Value)} (h : ∀ e ∈ values, ∃ s, e.2 = .text s) :
    (∀ e ∈ values, GivesText e.2) ∨ ∃ before name v after, values = before ++ (name, v) :: after ∧
      (∀ e ∈ before, GivesText e.2) ∧ GivesNothing v := by
  induction values with
  | nil => exact .inl fun _ h => absurd h List.not_mem_nil
  | cons value rest ih =>
    obtain ⟨name, v⟩ := value
    obtain ⟨⟨s, rfl⟩, hrest⟩ := List.forall_mem_cons.mp h
    rcases givesNothing_or_givesText s with hv | hv
    · exact .inr ⟨[], name, _, rest, rfl, fun _ h => absurd h List.not_mem_nil, hv⟩
    · rcases ih hrest with hgiven | ⟨before, name', v', after, rfl, hbefore, hv'⟩
      · exact .inl (List.forall_mem_cons.mpr ⟨hv, hgiven⟩)
      · exact .inr ⟨_ :: before, name', v', after, rfl, List.forall_mem_cons.mpr ⟨hv, hbefore⟩, hv'⟩

/-- **The first blank value** has only values that give something before it. -/
theorem firstBlank?_eq_some_iff {values : List (String × Value)} {name : String} :
    firstBlank? values = .ok (some name) ↔
      ∃ before v after, values = before ++ (name, v) :: after ∧
        (∀ e ∈ before, GivesText e.2) ∧ GivesNothing v := by
  induction values with
  | nil => simp [firstBlank?]
  | cons value rest ih =>
    obtain ⟨first, v⟩ := value
    have hunfold : firstBlank? ((first, v) :: rest) =
        isBlank v >>= fun blank => if blank then .ok (some first) else firstBlank? rest := rfl
    rw [hunfold, bind_eq_ok]
    constructor
    · rintro ⟨blank, hv, h⟩
      cases blank with
      | true =>
        cases h
        exact ⟨[], v, rest, rfl, fun _ h => absurd h List.not_mem_nil, isBlank_eq_true_iff.mp hv⟩
      | false =>
        obtain ⟨before, v', after, rfl, hbefore, hv'⟩ := ih.mp h
        refine ⟨(first, v) :: before, v', after, rfl, ?_, hv'⟩
        exact List.forall_mem_cons.mpr ⟨isBlank_eq_false_iff.mp hv, hbefore⟩
    · rintro ⟨before, v', after, h, hbefore, hv'⟩
      cases before with
      | nil =>
        cases h
        exact ⟨true, isBlank_eq_true_iff.mpr hv', rfl⟩
      | cons _ before =>
        cases h
        obtain ⟨hv, hbefore⟩ := List.forall_mem_cons.mp hbefore
        exact ⟨false, isBlank_eq_false_iff.mpr hv, ih.mpr ⟨before, v', after, rfl, hbefore, hv'⟩⟩

/-- No value is blank if all give something. -/
theorem firstBlank?_eq_none_iff {values : List (String × Value)} :
    firstBlank? values = .ok none ↔ ∀ e ∈ values, GivesText e.2 := by
  induction values with
  | nil => simp [firstBlank?]
  | cons value rest ih =>
    obtain ⟨first, v⟩ := value
    have hunfold : firstBlank? ((first, v) :: rest) =
        isBlank v >>= fun blank => if blank then .ok (some first) else firstBlank? rest := rfl
    rw [hunfold, bind_eq_ok, List.forall_mem_cons, ← ih]
    constructor
    · rintro ⟨blank, hv, h⟩
      cases blank with
      | true => cases h
      | false => exact ⟨isBlank_eq_false_iff.mp hv, h⟩
    · rintro ⟨hv, h⟩
      exact ⟨false, isBlank_eq_false_iff.mpr hv, h⟩

/-- **An address is a text**, or a mishap comes of it. -/
theorem baseAddress_cases (v : Value) :
    (∃ s, v = .text s ∧ baseAddress v = .ok (dropTrailingSlashes s)) ∨
      (¬ ∃ s, v = .text s) ∧ ∃ m, baseAddress v = .error (.mishap m) := by
  unfold baseAddress
  split
  · exact .inl ⟨_, rfl, rfl⟩
  · refine .inr ⟨?_, _, rfl⟩
    rintro ⟨s, h⟩
    cases h
  · rename_i hnotText _
    exact .inr ⟨fun ⟨s, h⟩ => hnotText s h, _, rfl⟩

end Endpoint

namespace Settings

/-! ## Numbers and directories -/

/-- The values that stand for a number. -/
inductive SpellsNumber : Value → Prop where
  | float (x : Binary64) : SpellsNumber (.float x)
  | bool (b : Bool) : SpellsNumber (.bool b)
  | int {n : Int} (h : (Binary64.ofInt n).isFinite = true) : SpellsNumber (.int n)
  | text {s : String} (h : (Binary64.read? s).isSome = true) : SpellsNumber (.text s)
  | bytes {bs : List UInt8} (hascii : bs.all (· < 0x80) = true)
    (h : (Binary64.read? (String.ofList (bs.map fun b => Char.ofNat b.toNat))).isSome = true) :
    SpellsNumber (.bytes bs)
  | decimal {spelling : String} (h : (Binary64.read? spelling).isSome = true) :
    SpellsNumber (.scalar (.decimal spelling))

/-- **A value gives a number if it spells one.** -/
theorem exists_number_iff {v : Value} : (∃ x, number v = .ok x) ↔ SpellsNumber v := by
  constructor
  · rintro ⟨x, h⟩
    unfold number at h
    split at h
    · exact .float _
    · exact .bool _
    · dsimp only at h
      split at h
      · rename_i hfinite
        exact .int hfinite
      · cases h
    · split at h
      · rename_i hread
        exact .text (by rw [hread]; rfl)
      · cases h
    · rename_i bs
      cases hascii : bs.all (· < 0x80) with
      | true =>
        simp only [hascii, if_true] at h
        split at h
        · rename_i hread
          exact .bytes hascii (by rw [hread]; rfl)
        · cases h
      | false => simp [hascii] at h
    · split at h
      · rename_i hread
        exact .decimal (by rw [hread]; rfl)
      · cases h
    · cases h
  · intro h
    cases h with
    | float x => exact ⟨x, rfl⟩
    | bool b => exact ⟨_, rfl⟩
    | int hfinite => exact ⟨_, by simp only [number, hfinite, if_true]; rfl⟩
    | text hread =>
      obtain ⟨x, hx⟩ := Option.isSome_iff_exists.mp hread
      exact ⟨x, by simp only [number, hx]⟩
    | bytes hascii hread =>
      obtain ⟨x, hx⟩ := Option.isSome_iff_exists.mp hread
      exact ⟨x, by simp only [number, hascii, if_true, hx]⟩
    | decimal hread =>
      obtain ⟨x, hx⟩ := Option.isSome_iff_exists.mp hread
      exact ⟨x, by simp only [number, hx]⟩

/-- The values that name a directory, or say that there is none. -/
def NamesDirectory (v : Value) : Prop :=
  v.isVacant = true ∨ ∃ s, v = .text s

theorem exists_directory_iff {v : Value} : (∃ dir, directory v = .ok dir) ↔ NamesDirectory v := by
  constructor
  · rintro ⟨dir, h⟩
    unfold directory at h
    split at h
    · rename_i hvacant
      exact .inl hvacant
    · split at h
      · exact .inr ⟨_, rfl⟩
      · cases h
  · rintro (hvacant | ⟨s, rfl⟩)
    · exact ⟨none, if_pos hvacant⟩
    · unfold directory
      split
      · exact ⟨none, rfl⟩
      · exact ⟨_, rfl⟩

/-! ## Drafts -/

/-- The settings as they are given, whatever gives them. -/
structure Draft where
  key : Value
  app : Value
  uri : Value
  tokenUri : Value
  locale : Value
  timeout : Value
  logDir : Value

namespace Draft

/-- The settings that an environment gives. -/
def ofEnvironment (env : Environment) : Draft where
  key := setting env "LG_ENDPOINT_KEY" (.text "")
  app := setting env "LG_APP_ID" (.text "")
  uri := setting env "LG_ENDPOINT_URI" (.text "")
  tokenUri := (setting env "LG_TOKEN_URI" .null).orElse .null
  locale := (setting env "LG_LOCALE" .null).orElse .null
  timeout := setting env "LG_TIMEOUT" (.text "30.0")
  logDir := setting env "LG_LOG_DIR" .null

/-- The settings that a section gives. -/
def ofSection (s : Value) : Draft where
  key := field s "endpoint_key" (.text "")
  app := field s "app_id" (.text "")
  uri := field s "endpoint_uri" (.text "")
  tokenUri := field s "token_uri" .null
  locale := field s "locale" .null
  timeout := field s "timeout" (.float Options.defaultTimeout)
  logDir := field s "log_dir" .null

/-- The endpoint of a draft. -/
def endpoint (d : Draft) : Except Fault Endpoint :=
  Endpoint.of d.key d.app d.uri d.tokenUri

/-- The options of a draft. -/
def options (d : Draft) : Except Fault Options := do
  let timeout ← (number d.timeout).mapError .mishap
  let logDir ← (directory d.logDir).mapError .mishap
  return ⟨d.locale, timeout, logDir⟩

/-- The endpoint of a draft and its options. -/
def settle (d : Draft) : Except Fault (Endpoint × Options) := do
  let endpoint ← d.endpoint
  let options ← d.options
  return (endpoint, options)

/-- The settings that an endpoint cannot do without, by their names. -/
def needed (d : Draft) : List (String × Value) :=
  [("endpoint_key", d.key), ("lg_app_id", d.app), ("endpoint_uri", d.uri)]

/-- **The drafts that lead to a result or are reported as no configuration**: the first needed
setting that does not give a text gives nothing, or all give one, the address of the service is a
text itself, and the other settings are what they are to be. -/
inductive Settled (d : Draft) : Prop where
  | blank {before after : List (String × Value)} {name : String} {v : Value}
    (hneeded : d.needed = before ++ (name, v) :: after)
    (hbefore : ∀ e ∈ before, Endpoint.GivesText e.2) (hv : Endpoint.GivesNothing v)
  | usable {s : String} (hneeded : ∀ e ∈ d.needed, Endpoint.GivesText e.2) (huri : d.uri = .text s)
    (htimeout : SpellsNumber d.timeout) (hdir : NamesDirectory d.logDir)

end Draft

theorem ofEnvironment_eq_settle (env : Environment) :
    Settings.ofEnvironment env = (Draft.ofEnvironment env).settle := rfl

/-- A computation ends in a result, or reports that there is no usable configuration. -/
def Reported {α : Type} (x : Except Fault α) : Prop :=
  ∀ fault, x = .error fault → ∃ message, fault = .configuration message

section Reports

variable {α β : Type}

theorem reported_ok (a : α) : Reported (.ok a : Except Fault α) := by
  intro fault h
  cases h

theorem reported_configuration (message : String) :
    Reported (.error (.configuration message) : Except Fault α) := by
  rintro _ ⟨⟩
  exact ⟨message, rfl⟩

theorem not_reported_mishap (m : Mishap) : ¬ Reported (.error (.mishap m) : Except Fault α) := by
  intro h
  obtain ⟨_, h⟩ := h _ rfl
  cases h

/-- A mishap is never reported, so only results are. -/
theorem reported_mapError_iff {x : Except Mishap α} :
    Reported (x.mapError Fault.mishap) ↔ ∃ a, x = .ok a := by
  cases x with
  | ok a => exact iff_of_true (reported_ok a) ⟨a, rfl⟩
  | error m => exact iff_of_false (not_reported_mishap m) fun ⟨_, h⟩ => by cases h

/-- Steps are reported if the first one is, and what follows its result. -/
theorem reported_bind_iff {x : Except Fault α} {f : α → Except Fault β} :
    Reported (x >>= f) ↔ Reported x ∧ ∀ a, x = .ok a → Reported (f a) := by
  cases x with
  | ok a => simp [bind, Except.bind, reported_ok]
  | error fault =>
    refine ⟨fun h => ⟨fun fault' h' => ?_, fun _ h => by cases h⟩, fun h fault' h' => ?_⟩
    · cases h'
      exact h fault rfl
    · cases h'
      exact h.1 fault rfl

end Reports

/-! ## Which drafts are settled -/

namespace Draft

variable {d : Draft}

/-- The first blank setting decides about an endpoint, and without one its address does. -/
theorem endpoint_eq (d : Draft) :
    d.endpoint = match Endpoint.firstBlank? d.needed with
      | .error m => .error (.mishap m)
      | .ok (some name) => .error (.configuration (name ++ " must not be empty"))
      | .ok none => (Endpoint.baseAddress d.uri).map fun uri =>
        ⟨d.key, d.app, uri, d.tokenUri.orElse (.text (uri ++ Endpoint.defaultTokenPath))⟩ := rfl

/-- Without a blank setting, the address decides. -/
theorem endpoint_of_given (h : Endpoint.firstBlank? d.needed = .ok none) :
    (∃ s e, d.uri = .text s ∧ d.endpoint = .ok e) ∨
      (¬ ∃ s, d.uri = .text s) ∧ ∃ m, d.endpoint = .error (.mishap m) := by
  rw [endpoint_eq, h]
  rcases Endpoint.baseAddress_cases d.uri with ⟨s, huri, hbase⟩ | ⟨huri, m, hbase⟩
  · rw [hbase]
    exact .inl ⟨s, _, huri, rfl⟩
  · rw [hbase]
    exact .inr ⟨huri, m, rfl⟩

theorem reported_options_iff :
    Reported d.options ↔ SpellsNumber d.timeout ∧ NamesDirectory d.logDir := by
  rw [options, reported_bind_iff, reported_mapError_iff, exists_number_iff]
  refine and_congr_right fun htimeout => ?_
  obtain ⟨x, hx⟩ := exists_number_iff.mpr htimeout
  have hdirectory : Reported (((directory d.logDir).mapError .mishap) >>= fun logDir =>
      (.ok ⟨d.locale, x, logDir⟩ : Except Fault Options)) ↔ NamesDirectory d.logDir := by
    rw [reported_bind_iff, reported_mapError_iff, exists_directory_iff]
    exact and_iff_left fun _ _ => reported_ok _
  constructor
  · intro h
    exact hdirectory.mp (h x (by rw [hx]; rfl))
  · intro hdir x' hx'
    rw [hx] at hx'
    cases hx'
    exact hdirectory.mpr hdir

/-- **A draft is settled exactly if it leads to a result or is reported.** -/
theorem reported_settle_iff : Reported d.settle ↔ d.Settled := by
  rw [settle, reported_bind_iff]
  cases hblank : Endpoint.firstBlank? d.needed with
  | error m =>
    -- A setting cannot be looked at, so none was found blank and not all were found to be given.
    rw [endpoint_eq, hblank]
    refine iff_of_false (fun h => not_reported_mishap m h.1) ?_
    rintro (⟨hneeded, hbefore, hv⟩ | ⟨hneeded, _, _, _⟩)
    · rw [Endpoint.firstBlank?_eq_some_iff.mpr ⟨_, _, _, hneeded, hbefore, hv⟩] at hblank
      cases hblank
    · rw [Endpoint.firstBlank?_eq_none_iff.mpr hneeded] at hblank
      cases hblank
  | ok name? =>
    cases name? with
    | some name =>
      rw [endpoint_eq, hblank]
      obtain ⟨before, v, after, hneeded, hbefore, hv⟩ := Endpoint.firstBlank?_eq_some_iff.mp hblank
      exact iff_of_true ⟨reported_configuration _, fun _ h => by cases h⟩
        (.blank hneeded hbefore hv)
    | none =>
      have hneeded := Endpoint.firstBlank?_eq_none_iff.mp hblank
      have hnotBlank : d.Settled ↔ (∃ s, d.uri = .text s) ∧ SpellsNumber d.timeout ∧
          NamesDirectory d.logDir := by
        constructor
        · rintro (⟨hneeded', hbefore, hv⟩ | ⟨_, huri, htimeout, hdir⟩)
          · rw [Endpoint.firstBlank?_eq_some_iff.mpr ⟨_, _, _, hneeded', hbefore, hv⟩] at hblank
            cases hblank
          · exact ⟨⟨_, huri⟩, htimeout, hdir⟩
        · rintro ⟨⟨s, huri⟩, htimeout, hdir⟩
          exact .usable hneeded huri htimeout hdir
      rw [hnotBlank, ← reported_options_iff]
      rcases endpoint_of_given hblank with ⟨s, e, huri, hendpoint⟩ | ⟨huri, m, hendpoint⟩
      · rw [hendpoint, and_iff_right (reported_ok e), and_iff_right ⟨s, huri⟩]
        have hoptions : Reported (d.options >>= fun options =>
            (.ok (e, options) : Except Fault (Endpoint × Options))) ↔ Reported d.options := by
          rw [reported_bind_iff]
          exact and_iff_left fun _ _ => reported_ok _
        rw [← hoptions]
        exact ⟨fun h => h e rfl, fun h e' he' => by cases he'; exact h⟩
      · rw [hendpoint]
        exact iff_of_false (fun h => not_reported_mishap m h.1) fun h => huri h.1

end Draft

/-! ## Environments -/

/-- A variable that is not set, or to a text of blanks. -/
def Lacks (env : Environment) (name : String) : Prop :=
  isBlankText ((env.get? name).getD "") = true

/-- The variables that an endpoint cannot do without. -/
def neededVariables : List String := ["LG_ENDPOINT_KEY", "LG_APP_ID", "LG_ENDPOINT_URI"]

/-- A variable that is set as the seconds of an exchange spells a number. -/
def TimeoutSpelled (env : Environment) : Prop :=
  ∀ s, env.get? "LG_TIMEOUT" = some s → (Binary64.read? s).isSome = true

theorem setting_text (env : Environment) (name other : String) :
    setting env name (.text other) = .text ((env.get? name).getD other) := by
  unfold setting
  cases env.get? name <;> rfl

section Environments

variable {env : Environment}

/-- The settings that an environment gives for an endpoint are the texts of three variables. -/
theorem needed_ofEnvironment (env : Environment) :
    (Draft.ofEnvironment env).needed.map Prod.snd =
      neededVariables.map fun name => .text ((env.get? name).getD "") := by
  simp only [Draft.needed, Draft.ofEnvironment, neededVariables, List.map_cons, List.map_nil,
    setting_text]

theorem text_of_needed {e : String × Value} (h : e ∈ (Draft.ofEnvironment env).needed) :
    ∃ name ∈ neededVariables, e.2 = .text ((env.get? name).getD "") := by
  have hmem := List.mem_map_of_mem (f := Prod.snd) h
  rw [needed_ofEnvironment] at hmem
  obtain ⟨name, hname, heq⟩ := List.mem_map.mp hmem
  exact ⟨name, hname, heq.symm⟩

theorem exists_needed_of_mem {name : String} (h : name ∈ neededVariables) :
    ∃ e ∈ (Draft.ofEnvironment env).needed, e.2 = .text ((env.get? name).getD "") := by
  have hmem := List.mem_map_of_mem (f := fun name => Value.text ((env.get? name).getD "")) h
  rw [← needed_ofEnvironment] at hmem
  exact List.mem_map.mp hmem

/-- A needed variable is blank or all three are given. -/
theorem blank_or_given_ofEnvironment (env : Environment) :
    (∀ e ∈ (Draft.ofEnvironment env).needed, Endpoint.GivesText e.2) ∨
      ∃ before name v after, (Draft.ofEnvironment env).needed = before ++ (name, v) :: after ∧
        (∀ e ∈ before, Endpoint.GivesText e.2) ∧ Endpoint.GivesNothing v := by
  refine Endpoint.blank_or_given fun e he => ?_
  obtain ⟨_, _, htext⟩ := text_of_needed he
  exact ⟨_, htext⟩

theorem spellsNumber_timeout_iff :
    SpellsNumber (Draft.ofEnvironment env).timeout ↔ TimeoutSpelled env := by
  have htimeout : (Draft.ofEnvironment env).timeout =
      .text ((env.get? "LG_TIMEOUT").getD "30.0") := setting_text env _ _
  have hdefault : (Binary64.read? "30.0").isSome = true := by decide +kernel
  rw [htimeout]
  unfold TimeoutSpelled
  cases env.get? "LG_TIMEOUT" with
  | none => exact iff_of_true (.text hdefault) fun _ h => by cases h
  | some s =>
    constructor
    · intro h s' hs'
      cases hs'
      cases h with
      | text hread => exact hread
    · exact fun h => .text (h s rfl)

theorem namesDirectory_ofEnvironment (env : Environment) :
    NamesDirectory (Draft.ofEnvironment env).logDir := by
  show NamesDirectory (setting env "LG_LOG_DIR" .null)
  unfold setting
  cases env.get? "LG_LOG_DIR" with
  | none => exact .inl rfl
  | some s => exact .inr ⟨s, rfl⟩

/-- **The environments that are settled** lack a needed variable, or their timeout is a number. -/
theorem settled_ofEnvironment_iff :
    (Draft.ofEnvironment env).Settled ↔
      (∃ name ∈ neededVariables, Lacks env name) ∨ TimeoutSpelled env := by
  constructor
  · rintro (@⟨before, after, given, v, hneeded, _, hv⟩ | ⟨_, _, htimeout, _⟩)
    · have hmem : (given, v) ∈ (Draft.ofEnvironment env).needed := by
        rw [hneeded]
        exact List.mem_append_right _ List.mem_cons_self
      obtain ⟨name, hname, rfl⟩ := text_of_needed hmem
      exact .inl ⟨name, hname, Endpoint.givesNothing_text_iff.mp hv⟩
    · exact .inr (spellsNumber_timeout_iff.mp htimeout)
  · intro h
    rcases blank_or_given_ofEnvironment env with hgiven | ⟨_, _, _, _, hneeded, hbefore, hv⟩
    · rcases h with ⟨name, hname, hlacks⟩ | htimeout
      · obtain ⟨e, he, htext⟩ := @exists_needed_of_mem env _ hname
        have hgiven' := hgiven e he
        rw [htext] at hgiven'
        exact absurd (Endpoint.givesNothing_text_iff.mpr hlacks) hgiven'.not_givesNothing
      · exact .usable hgiven (setting_text env _ _) (spellsNumber_timeout_iff.mpr htimeout)
          (namesDirectory_ofEnvironment env)
    · exact .blank hneeded hbefore hv

/-- An environment always gives an endpoint or a report. -/
theorem reported_endpointOfEnvironment (env : Environment) :
    Reported (endpointOfEnvironment env) := by
  have hendpoint : endpointOfEnvironment env = (Draft.ofEnvironment env).endpoint := rfl
  rw [hendpoint]
  rcases blank_or_given_ofEnvironment env with hgiven | ⟨_, _, _, _, hneeded, hbefore, hv⟩
  · rcases Draft.endpoint_of_given (Endpoint.firstBlank?_eq_none_iff.mpr hgiven) with
      ⟨_, e, _, hok⟩ | ⟨hnotText, _⟩
    · rw [hok]
      exact reported_ok e
    · exact absurd ⟨_, setting_text env _ _⟩ hnotText
  · rw [Draft.endpoint_eq, Endpoint.firstBlank?_eq_some_iff.mpr ⟨_, _, _, hneeded, hbefore, hv⟩]
    exact reported_configuration _

/-- The options of an environment fail on a timeout that is no number, and on nothing else. -/
theorem reported_optionsOfEnvironment_iff :
    Reported (optionsOfEnvironment env) ↔ TimeoutSpelled env := by
  have hoptions : optionsOfEnvironment env = (Draft.ofEnvironment env).options := rfl
  rw [hoptions, Draft.reported_options_iff, spellsNumber_timeout_iff]
  exact and_iff_left (namesDirectory_ofEnvironment env)

end Environments

/-! ## Files -/

/-- **The configuration files that are settled**: there is none, the text in it is no document, the
document has no section for the settings, or the section is settled. -/
inductive FileSettled (tree : FileTree) (path : String) : Prop where
  | missing {text : String} (h : tree.readText path = .error (.noFile text))
  | malformed {cs : List Char} (h : tree.readText path = .ok cs)
    (hload : Yaml.load (unifyLineEnds cs) = .error .malformed)
  | noSection {cs : List Char} {document : Value} (h : tree.readText path = .ok cs)
    (hload : Yaml.load (unifyLineEnds cs) = .ok document)
    (hsection : ∀ entries, document.get? "lg" ≠ some (.mapping entries))
  | drafted {cs : List Char} {document : Value} {entries : List (Scalar × Value)}
    (h : tree.readText path = .ok cs) (hload : Yaml.load (unifyLineEnds cs) = .ok document)
    (hsection : document.get? "lg" = some (.mapping entries))
    (hdraft : (Draft.ofSection (.mapping entries)).Settled)

/-- The sections of a document with settings are settled. -/
def DocumentSettled (document : Value) : Prop :=
  ∀ entries, document.get? "lg" = some (.mapping entries) →
    (Draft.ofSection (.mapping entries)).Settled

theorem reported_ofDocument_iff {path : String} {document : Value} :
    Reported (ofDocument path document) ↔ DocumentSettled document := by
  have hbind : ofDocument path document =
      sectionOf path document >>= fun s => (Draft.ofSection s).settle := rfl
  rw [hbind, reported_bind_iff]
  unfold sectionOf DocumentSettled
  split
  · rename_i entries hsection
    rw [hsection, and_iff_right (reported_ok _)]
    constructor
    · intro h entries' heq
      cases heq
      exact Draft.reported_settle_iff.mp (h _ rfl)
    · intro h s hs
      cases hs
      exact Draft.reported_settle_iff.mpr (h entries rfl)
  · rename_i hnone
    refine iff_of_true ⟨reported_configuration _, fun _ h => by cases h⟩ ?_
    intro entries h
    exact absurd h (hnone entries)

/-- A document that gives nothing has no section, and neither has an empty mapping. -/
theorem documentSettled_orElse_iff {document : Value} :
    DocumentSettled (document.orElse (.mapping [])) ↔ DocumentSettled document := by
  have hget : (document.orElse (.mapping [])).get? "lg" = document.get? "lg" := by
    unfold Value.orElse
    split
    · rename_i hvacant
      cases document with
      | mapping entries =>
        have hnil : entries = [] := List.isEmpty_iff.mp hvacant
        rw [hnil]
      | _ => rfl
    · rfl
  unfold DocumentSettled
  rw [hget]

section Reading

variable {tree : FileTree} {path : String}

/-- A file that cannot be read is settled exactly if there is none. -/
theorem fileSettled_of_unread {m : Mishap} (hread : tree.readText path = .error m) :
    FileSettled tree path ↔ ∃ text, m = .noFile text := by
  constructor
  · intro h
    cases h with
    | missing h => exact ⟨_, Except.error.inj (hread.symm.trans h)⟩
    | malformed h => cases hread.symm.trans h
    | noSection h => cases hread.symm.trans h
    | drafted h => cases hread.symm.trans h
  · rintro ⟨text, rfl⟩
    exact .missing hread

variable {cs : List Char}

/-- A text that is no document is settled exactly if it is malformed. -/
theorem fileSettled_of_unloaded {trouble : Yaml.Trouble} (hread : tree.readText path = .ok cs)
    (hload : Yaml.load (unifyLineEnds cs) = .error trouble) :
    FileSettled tree path ↔ trouble = .malformed := by
  constructor
  · intro h
    cases h with
    | missing h => cases hread.symm.trans h
    | malformed h hload' =>
      cases hread.symm.trans h
      exact Except.error.inj (hload.symm.trans hload')
    | noSection h hload' =>
      cases hread.symm.trans h
      cases hload.symm.trans hload'
    | drafted h hload' =>
      cases hread.symm.trans h
      cases hload.symm.trans hload'
  · rintro rfl
    exact .malformed hread hload

/-- A document is settled in its file exactly if its sections are. -/
theorem fileSettled_of_document {document : Value} (hread : tree.readText path = .ok cs)
    (hload : Yaml.load (unifyLineEnds cs) = .ok document) :
    FileSettled tree path ↔ DocumentSettled document := by
  constructor
  · intro h entries hsection
    cases h with
    | missing h => cases hread.symm.trans h
    | malformed h hload' =>
      cases hread.symm.trans h
      cases hload.symm.trans hload'
    | noSection h hload' hnone =>
      cases hread.symm.trans h
      cases hload.symm.trans hload'
      exact absurd hsection (hnone entries)
    | drafted h hload' hsection' hdraft =>
      cases hread.symm.trans h
      cases hload.symm.trans hload'
      cases hsection.symm.trans hsection'
      exact hdraft
  · intro h
    by_cases hsection : ∃ entries, document.get? "lg" = some (.mapping entries)
    · obtain ⟨entries, hsection⟩ := hsection
      exact .drafted hread hload hsection (h entries hsection)
    · exact .noSection hread hload fun entries h => hsection ⟨entries, h⟩

end Reading

/-- **A configuration file leads to a result or is reported exactly if it is settled.** -/
theorem reported_ofFile_iff [Complaints] {tree : FileTree} {path : String} :
    Reported (ofFile tree path) ↔ FileSettled tree (usualPath path) := by
  have hbind : ofFile tree path =
      documentAt tree (usualPath path) >>= ofDocument (usualPath path) := rfl
  rw [hbind, reported_bind_iff]
  simp only [reported_ofDocument_iff]
  generalize usualPath path = path
  unfold documentAt
  cases hread : tree.readText path with
  | error m =>
    rw [fileSettled_of_unread hread]
    split
    · rename_i hm
      cases hm
      exact iff_of_true ⟨reported_configuration _, fun _ h => by cases h⟩ ⟨_, rfl⟩
    · rename_i hother hm
      cases hm
      exact iff_of_false (fun h => not_reported_mishap _ h.1) fun ⟨text, h⟩ => hother text h
    · rename_i hm
      cases hm
  | ok cs =>
    dsimp only
    cases hload : Yaml.load (unifyLineEnds cs) with
    | error trouble =>
      rw [fileSettled_of_unloaded hread hload]
      cases trouble with
      | malformed => exact iff_of_true ⟨reported_configuration _, fun _ h => by cases h⟩ rfl
      | mishap m => exact iff_of_false (fun h => not_reported_mishap m h.1) fun h => by cases h
    | ok document =>
      rw [fileSettled_of_document hread hload, ← documentSettled_orElse_iff]
      dsimp only
      rw [and_iff_right (reported_ok _)]
      exact ⟨fun h => h _ rfl, fun h v hv => by cases hv; exact h⟩

/-! ## Starting -/

/-- **The starts that are settled**: without a configuration file the environment is what counts,
and otherwise the file that it names. -/
def StartSettled (tree : FileTree) (env : Environment) : Prop :=
  match env.get? "LG_CONFIG" with
  | none | some "" => (∃ name ∈ neededVariables, Lacks env name) ∨ TimeoutSpelled env
  | some path => FileSettled tree (usualPath path)

theorem reported_atStart_iff [Complaints] {tree : FileTree} {env : Environment} :
    Reported (atStart tree env) ↔ checkEnvironment env = .ok () ∧ StartSettled tree env := by
  have hcheck : atStart tree env = (checkEnvironment env).mapError .mishap >>= fun _ =>
      match env.get? "LG_CONFIG" with
      | none | some "" => ofEnvironment env
      | some path => ofFile tree path := rfl
  have hsource : Reported (match env.get? "LG_CONFIG" with
      | none | some "" => ofEnvironment env
      | some path => ofFile tree path) ↔ StartSettled tree env := by
    unfold StartSettled
    split
    · rw [ofEnvironment_eq_settle, Draft.reported_settle_iff, settled_ofEnvironment_iff]
    · rw [ofEnvironment_eq_settle, Draft.reported_settle_iff, settled_ofEnvironment_iff]
    · exact reported_ofFile_iff
  rw [hcheck, reported_bind_iff, reported_mapError_iff]
  constructor
  · rintro ⟨⟨⟨⟩, hok⟩, hrest⟩
    exact ⟨hok, hsource.mp (hrest () (by rw [hok]; rfl))⟩
  · rintro ⟨hok, hsettled⟩
    exact ⟨⟨(), hok⟩, fun _ _ => hsource.mpr hsettled⟩

end Settings

/-- The gateway starts exactly if its settings can be used or are reported. -/
theorem Gateway.exists_start_iff [Settings.Complaints] {tree : FileTree} {env : Settings.Environment} :
    (∃ started, Gateway.start tree env = .ok started) ↔
      Settings.Reported (Settings.atStart tree env) := by
  unfold Gateway.start
  cases hsettings : Settings.atStart tree env with
  | ok settings => exact iff_of_true ⟨_, rfl⟩ (Settings.reported_ok settings)
  | error fault =>
    cases fault with
    | configuration message => exact iff_of_true ⟨_, rfl⟩ (Settings.reported_configuration message)
    | _ =>
      refine iff_of_false (fun ⟨_, h⟩ => by cases h) fun h => ?_
      obtain ⟨_, h⟩ := h _ rfl
      cases h

namespace Settings

/-- **When configuration failures are reported as such.**  The gateway starts, with a resolver or
with the report that there is no usable configuration, exactly from an environment that can be one
and settings that are settled.  Each of the readers on its own fails otherwise in exactly the same
circumstances: the endpoint of an environment never, its options on a timeout that is no number, and
a configuration file unless it is settled. -/
theorem atStart_reported_iff [Complaints] (tree : FileTree) (env : Environment) :
    (Reported (atStart tree env) ↔ checkEnvironment env = .ok () ∧ StartSettled tree env) ∧
      ((∃ started, Gateway.start tree env = .ok started) ↔
        checkEnvironment env = .ok () ∧ StartSettled tree env) ∧
      Reported (endpointOfEnvironment env) ∧
      (Reported (optionsOfEnvironment env) ↔ TimeoutSpelled env) ∧
      ∀ path, Reported (ofFile tree path) ↔ FileSettled tree (usualPath path) := by
  refine ⟨reported_atStart_iff, ?_, reported_endpointOfEnvironment env,
    reported_optionsOfEnvironment_iff, fun path => reported_ofFile_iff⟩
  exact Gateway.exists_start_iff.trans reported_atStart_iff

/-- An environment for a client whose patience is no number. -/
def hurried : Environment :=
  [("LG_ENDPOINT_KEY", "k"), ("LG_APP_ID", "a"), ("LG_ENDPOINT_URI", "https://lg.example.com"),
    ("LG_TIMEOUT", "soon")]

/-- A configuration file that is no text. -/
def garbled : FileTree := [("config.yaml", .file [0xFF])]

/-- Neither a file that is no text nor a timeout that is no number is reported. -/
theorem not_reported_garbled_hurried :
    ¬ Reported (ofFile garbled "config.yaml") ∧
      ¬ Reported (atStart garbled [("LG_CONFIG", "config.yaml")]) ∧
      ¬ Reported (atStart [] hurried) := by
  have hfile : ¬ Reported (ofFile garbled "config.yaml") := by
    obtain ⟨m, h⟩ : ∃ m, ofFile garbled "config.yaml" = .error (.mishap m) := ⟨_, rfl⟩
    rw [h]
    exact not_reported_mishap m
  refine ⟨hfile, ?_, ?_⟩
  · have h : atStart garbled [("LG_CONFIG", "config.yaml")] = ofFile garbled "config.yaml" := rfl
    rw [h]
    exact hfile
  · have h : atStart [] hurried = .error (.mishap (.notANumberText "'soon'")) := by rfl
    rw [h]
    exact not_reported_mishap _

end Settings

end Phrasing
