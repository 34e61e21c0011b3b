import Phrasing.Proofs.Configuration
import Phrasing.Proofs.Utf8
import Phrasing.Proofs.VacantLocale
import Phrasing.Settings.Source

/-! # Settings from the environment and from a file

The same texts can be given for the settings in the variables of an environment and in the section of a
configuration file.  The two are not read in the same way: for the token service and the locale an empty text counts
as not given in the one and is kept in the other, and for a timeout that is not given the one takes a text and the
other a number.  So the drafts need not be equal.  But they are akin (`Draft.ofTexts_akin`): they differ in vacant
values and in the spelling of a number at most, and akin drafts end in the same fault, whichever of several faults that
is, or in resolvers that do the same (`Draft.Akin.settle`).
-/

namespace Phrasing

open Text

namespace Settings

/-! ## Texts for settings -/

/-- The settings. -/
inductive Setting where
  | key
  | app
  | uri
  | tokenUri
  | locale
  | timeout
  | logDir

namespace Setting

/-- The variable of a setting in an environment. -/
def variableName : Setting → String
  | key => "LG_ENDPOINT_KEY"
  | app => "LG_APP_ID"
  | uri => "LG_ENDPOINT_URI"
  | tokenUri => "LG_TOKEN_URI"
  | locale => "LG_LOCALE"
  | timeout => "LG_TIMEOUT"
  | logDir => "LG_LOG_DIR"

/-- The field of a setting in a section. -/
def fieldName : Setting → String
  | key => "endpoint_key"
  | app => "app_id"
  | uri => "endpoint_uri"
  | tokenUri => "token_uri"
  | locale => "locale"
  | timeout => "timeout"
  | logDir => "log_dir"

end Setting

/-- Texts for the settings, each of which is given or not. -/
abbrev Texts := Setting → Option String

namespace Texts

/-- The texts are what an environment has in the variables. -/
def InEnvironment (given : Texts) (env : Environment) : Prop :=
  ∀ x, env.get? x.variableName = given x

/-- The texts are what a section has in the fields. -/
def InSection (given : Texts) (s : Value) : Prop :=
  ∀ x, s.get? x.fieldName = (given x).map .text

/-- The texts are what a configuration file has in its section. -/
def InFile [Complaints] (given : Texts) (tree : FileTree) (path : String) : Prop :=
  ∃ document entries, documentAt tree (usualPath path) = .ok document ∧
    document.get? "lg" = some (.mapping entries) ∧ given.InSection (.mapping entries)

variable {given : Texts}

/-- A text, or another value in the place of one that is not given. -/
def getD (given : Texts) (x : Setting) (other : Value) : Value :=
  ((given x).map .text).getD other

theorem InEnvironment.setting_eq {env : Environment} (h : given.InEnvironment env) (x : Setting)
    (other : Value) : setting env x.variableName other = given.getD x other := by
  rw [setting, h x, getD]
  cases given x <;> rfl

theorem InSection.field_eq {s : Value} (h : given.InSection s) (x : Setting) (other : Value) :
    field s x.fieldName other = given.getD x other := by
  rw [field, h x, getD]

end Texts

/-! ## Akin drafts -/

namespace Draft

/-- Two drafts are akin: vacant values and spellings of a number aside, they are the same. -/
structure Akin (d d' : Draft) : Prop where
  key : d.key = d'.key
  app : d.app = d'.app
  uri : d.uri = d'.uri
  tokenUri : d.tokenUri.GivenAlike d'.tokenUri
  locale : d.locale.GivenAlike d'.locale
  timeout : number d.timeout = number d'.timeout
  logDir : d.logDir = d'.logDir

/-- The text for the timeout when none is given spells the number that is meant. -/
theorem number_defaultTimeout : number (.text "30.0") = number (.float Options.defaultTimeout) := by
  have hread : Binary64.read? "30.0" = some Options.defaultTimeout := by decide +kernel
  simp only [number, hread]

/-- **Drafts of the same texts are akin.** -/
theorem ofTexts_akin {given : Texts} {env : Environment} {s : Value} (henv : given.InEnvironment env)
    (hsection : given.InSection s) : (ofEnvironment env).Akin (ofSection s) := by
  have hsame (x : Setting) (other : Value) :
      setting env x.variableName other = field s x.fieldName other :=
    (henv.setting_eq x other).trans (hsection.field_eq x other).symm
  have hnull (x : Setting) : ((setting env x.variableName .null).orElse .null).GivenAlike
      (field s x.fieldName .null) := hsame x .null ▸ Value.orElse_null_givenAlike _
  have htimeout : number (setting env Setting.timeout.variableName (.text "30.0")) =
      number (field s Setting.timeout.fieldName (.float Options.defaultTimeout)) := by
    rw [henv.setting_eq, hsection.field_eq]
    unfold Texts.getD
    cases given .timeout with
    | none => exact number_defaultTimeout
    | some text => rfl
  exact ⟨hsame .key _, hsame .app _, hsame .uri _, hnull .tokenUri, hnull .locale, htimeout,
    hsame .logDir _⟩

end Draft

/-- Two sources agree: both fail with the same fault, or both give settings with which resolvers do the
same. -/
inductive Agree : Except Fault (Endpoint × Options) → Except Fault (Endpoint × Options) → Prop where
  | failed (fault : Fault) : Agree (.error fault) (.error fault)
  | given {e e' : Endpoint} {o o' : Options} (h : Resolver.DoSame ⟨e, o⟩ ⟨e', o'⟩) :
    Agree (.ok (e, o)) (.ok (e', o'))

/-- **Akin drafts are settled alike.** -/
theorem Draft.Akin.settle {d d' : Draft} (h : d.Akin d') : Agree d.settle d'.settle := by
  have hendpoint : d.endpoint = d'.endpoint := by
    unfold endpoint Endpoint.of
    simp only [h.key, h.app, h.uri, h.tokenUri.orElse_eq]
  unfold Draft.settle options
  rw [hendpoint, h.timeout, h.logDir]
  cases d'.endpoint with
  | error fault => exact .failed fault
  | ok e =>
    cases number d'.timeout with
    | error m => exact .failed _
    | ok timeout =>
      cases directory d'.logDir with
      | error m => exact .failed _
      | ok logDir =>
        have htwins : Resolver.Twins ⟨e, d.locale, timeout, logDir⟩ ⟨e, d'.locale, timeout, logDir⟩ :=
          ⟨rfl, rfl, rfl, h.locale⟩
        exact .given htwins.doSame

/-! ## Starts -/

/-- An environment from which a program starts with what stands in the environment itself. -/
structure NamesNoFile (env : Environment) : Prop where
  valid : checkEnvironment env = .ok ()
  unnamed : env.get? "LG_CONFIG" = none ∨ env.get? "LG_CONFIG" = some ""

/-- An environment from which a program starts with what stands in a file. -/
structure NamesFile (env : Environment) (path : String) : Prop where
  valid : checkEnvironment env = .ok ()
  named : env.get? "LG_CONFIG" = some path
  nonempty : path ≠ ""

theorem atStart_of_valid [Complaints] {env : Environment} (h : checkEnvironment env = .ok ()) (tree : FileTree) :
    atStart tree env = match env.get? "LG_CONFIG" with
      | none | some "" => ofEnvironment env
      | some path => ofFile tree path := by
  unfold atStart
  rw [h]
  rfl

theorem NamesNoFile.atStart_eq [Complaints] {env : Environment} (h : NamesNoFile env) (tree : FileTree) :
    atStart tree env = ofEnvironment env := by
  rw [atStart_of_valid h.valid]
  rcases h.unnamed with hname | hname
  · rw [hname]
  · rw [hname]
    rfl

theorem NamesFile.atStart_eq [Complaints] {env : Environment} {path : String} (h : NamesFile env path) (tree : FileTree) :
    atStart tree env = ofFile tree path := by
  rw [atStart_of_valid h.valid, h.named]
  split
  · rename_i hnone
    cases hnone
  · rename_i hempty
    exact absurd (Option.some.inj hempty) h.nonempty
  · rename_i hpath
    rw [Option.some.inj hpath]

/-- A file with a section is settled as the draft of the section is. -/
theorem ofFile_eq_settle [Complaints] {tree : FileTree} {path : String} {document : Value}
    {entries : List (Scalar × Value)} (hdocument : documentAt tree (usualPath path) = .ok document)
    (hsection : document.get? "lg" = some (.mapping entries)) :
    ofFile tree path = (Draft.ofSection (.mapping entries)).settle := by
  have hsectionOf : sectionOf (usualPath path) document = .ok (.mapping entries) := by
    rw [sectionOf, hsection]
  calc ofFile tree path
      = documentAt tree (usualPath path) >>= ofDocument (usualPath path) := rfl
    _ = ofDocument (usualPath path) document := by rw [hdocument]; rfl
    _ = sectionOf (usualPath path) document >>= fun s => (Draft.ofSection s).settle := rfl
    _ = (Draft.ofSection (.mapping entries)).settle := by rw [hsectionOf]; rfl

/-- **The sources agree**: whichever texts are given for the settings, an environment with these texts and a
file with them lead to the same fault, or to resolvers that do the same. -/
theorem sources_agree [Complaints] {given : Texts} {env : Environment} {tree : FileTree} {path : String}
    (henv : given.InEnvironment env) (hfile : given.InFile tree path) :
    Agree (ofEnvironment env) (ofFile tree path) ∧
      ∀ tree' env', NamesNoFile env → NamesFile env' path → Agree (atStart tree' env) (atStart tree env') := by
  obtain ⟨document, entries, hdocument, hsection, hentries⟩ := hfile
  have hagree : Agree (ofEnvironment env) (ofFile tree path) := by
    rw [ofFile_eq_settle hdocument hsection, ofEnvironment_eq_settle]
    exact (Draft.ofTexts_akin henv hentries).settle
  refine ⟨hagree, fun tree' env' hnone hnamed => ?_⟩
  rw [hnone.atStart_eq, hnamed.atStart_eq]
  exact hagree

/-! ## An empty text -/

/-- Texts for some settings, one of them empty. -/
def sparse : Texts
  | .key => some "k"
  | .app => some "a"
  | .uri => some "http://lg/"
  | .locale => some ""
  | .tokenUri | .timeout | .logDir => none

/-- An environment with these texts. -/
def sparseEnvironment : Environment :=
  [("LG_ENDPOINT_KEY", "k"), ("LG_APP_ID", "a"), ("LG_ENDPOINT_URI", "http://lg/"), ("LG_LOCALE", "")]

/-- A configuration file with these texts. -/
def sparseFile : String :=
  "lg:\n  endpoint_key: k\n  app_id: a\n  endpoint_uri: http://lg/\n  locale: ''\n"

/-- The section of this file. -/
def sparseSection : Value :=
  .object [("endpoint_key", .text "k"), ("app_id", .text "a"), ("endpoint_uri", .text "http://lg/"),
    ("locale", .text "")]

/-- A text in this file. -/
def sparseScalar (s : String) : Yaml.Node :=
  .scalar .text s

/-- The nodes of this file. -/
def sparseNode : Yaml.Node :=
  .mapping .mapping [(sparseScalar "lg", .mapping .mapping [
    (sparseScalar "endpoint_key", sparseScalar "k"), (sparseScalar "app_id", sparseScalar "a"),
    (sparseScalar "endpoint_uri", sparseScalar "http://lg/"), (sparseScalar "locale", sparseScalar "")])]

theorem load_sparseFile : Yaml.load sparseFile.toList = .ok (.object [("lg", sparseSection)]) := by
  have hnodes : Yaml.documentOf (Yaml.tokensOf sparseFile.toList) = .ok (some sparseNode) := by
    set_option maxRecDepth 4000 in
    rfl
  have hvalue : Yaml.valueOf 0 sparseNode = .ok (.object [("lg", sparseSection)]) := by
    cbv
  rw [Yaml.load, hnodes]
  simp only [bind, Except.bind, hvalue]
  rfl

/-- A directory with this file and no other. -/
def sparseTree : FileTree :=
  [("config.yaml", .file (utf8Bytes sparseFile))]

theorem documentAt_sparseTree :
    documentAt sparseTree (usualPath "config.yaml") = .ok (.object [("lg", sparseSection)]) := by
  have hpath : usualPath "config.yaml" = "config.yaml" := by decide
  have hread : sparseTree.readText "config.yaml" = .ok sparseFile.toList :=
    FileTree.readText_of_reach rfl
  have hlines : unifyLineEnds sparseFile.toList = sparseFile.toList := by decide +kernel
  unfold documentAt
  rw [hpath, hread]
  simp only [hlines, load_sparseFile]
  rfl

/-- With an empty locale the options from the environment and those from the file are not the same, and still the
sources agree. -/
theorem sources_agree_sparse :
    sparse.InEnvironment sparseEnvironment ∧ sparse.InFile sparseTree "config.yaml" ∧
      Agree (atStart [] sparseEnvironment) (atStart sparseTree [("LG_CONFIG", "config.yaml")]) ∧
      ∃ e o o', ofEnvironment sparseEnvironment = .ok (e, o) ∧
        ofFile sparseTree "config.yaml" = .ok (e, o') ∧ o.locale = .null ∧ o'.locale = .text "" := by
  have henv : sparse.InEnvironment sparseEnvironment := by
    intro x
    cases x <;> rfl
  have hsection : sparse.InSection sparseSection := by
    intro x
    cases x <;> rfl
  have hlg : (Value.object [("lg", sparseSection)]).get? "lg" = some sparseSection := rfl
  have hfile : sparse.InFile sparseTree "config.yaml" :=
    ⟨_, _, documentAt_sparseTree, hlg, hsection⟩
  have hnone : NamesNoFile sparseEnvironment := ⟨rfl, .inl rfl⟩
  have hnamed : NamesFile [("LG_CONFIG", "config.yaml")] "config.yaml" := ⟨rfl, rfl, by decide⟩
  have hsettled : ofEnvironment sparseEnvironment =
      .ok (⟨.text "k", .text "a", "http://lg", .text "http://lg/sts/v1.0/issueToken"⟩,
        ⟨.null, Options.defaultTimeout, none⟩) := by
    have htimeout : number (Draft.ofEnvironment sparseEnvironment).timeout = .ok Options.defaultTimeout :=
      Draft.number_defaultTimeout
    rw [ofEnvironment_eq_settle, Draft.settle, Draft.options, htimeout]
    rfl
  have hread : ofFile sparseTree "config.yaml" =
      .ok (⟨.text "k", .text "a", "http://lg", .text "http://lg/sts/v1.0/issueToken"⟩,
        ⟨.text "", Options.defaultTimeout, none⟩) := by
    rw [ofFile_eq_settle documentAt_sparseTree hlg]
    rfl
  exact ⟨henv, hfile, (sources_agree henv hfile).2 [] _ hnone hnamed, _, _, _, hsettled, hread, rfl, rfl⟩

end Settings

end Phrasing
